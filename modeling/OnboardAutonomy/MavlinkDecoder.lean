import OnboardAutonomy.VehicleState

/-! `MavlinkDecoder`: which messages reach the vehicle state, and which are passed on to the
acknowledgement and parameter handlers. Framing is the MAVLink library's; a handler call is returned as
the value the handler would be called with. -/

namespace OnboardAutonomy

structure CommandAck where
  sourceSystem : UInt8 := 0
  sourceComponent : UInt8 := 0
  command : UInt16 := 0
  result : UInt8 := 0
  progress : UInt8 := 0
  resultParameter : Int32 := 0
  targetSystem : UInt8 := 0
  targetComponent : UInt8 := 0
  deriving DecidableEq

structure ParameterValue where
  sourceSystem : UInt8 := 0
  sourceComponent : UInt8 := 0
  id : Bytes
  value : Binary64
  type : UInt8 := 0
  deriving DecidableEq

/-- A call of `command_ack_handler_` or of `parameter_value_handler_`. -/
inductive HandlerCall where
  | commandAck (acknowledgement : CommandAck)
  | parameterValue (parameter : ParameterValue)
  deriving DecidableEq

def kMavAutopilotInvalid : UInt8 := 8
def kMavCompIdAutopilot1 : UInt8 := 1

/-! ### Readings carried by the messages -/

/-- A cell voltage in millivolts counts unless it is 0 or the maximum. -/
def knownMillivolts (millivolts : UInt16) : Bool := decide (0 < millivolts) && millivolts != 65535

def batteryVoltage (battery : BatteryStatus) : Option Binary64 :=
  let known := (battery.voltages ++ battery.voltagesExt).filter knownMillivolts
  if known.isEmpty then none
  else some (known.foldl (fun total millivolts => total.add (.quotient millivolts.toNat 1000)) .zero)

def currentFromCentiampere (value : Int16) : Option Binary64 :=
  if value < 0 then none else some (.quotient value.toInt 100)

def remainingPercent (value : Int8) : Option Int8 := if value < 0 then none else some value

/-- The voltage of a SYS_STATUS. -/
def systemStatusVoltage (status : SysStatus) : Option Binary64 :=
  if knownMillivolts status.voltageBattery then some (.quotient status.voltageBattery.toNat 1000) else none

def statusText (message : Statustext) : Bytes := characterArray 50 message.text

def parameterId (message : ParamValue) : Bytes := characterArray 16 message.paramId

/-- The byte of a packed firmware version at a shift. -/
def packedByte (packed : UInt32) (shift : UInt32) : UInt8 := ((packed >>> shift) &&& 0xFF).toUInt8

def autopilotMetadata (version : AutopilotVersion) : AutopilotMetadata :=
  { firmwareMajor := packedByte version.flightSwVersion 24
    firmwareMinor := packedByte version.flightSwVersion 16
    firmwarePatch := packedByte version.flightSwVersion 8
    firmwareReleaseType := packedByte version.flightSwVersion 0
    capabilities := version.capabilities
    boardVersion := version.boardVersion
    vendorId := version.vendorId
    productId := version.productId }

def commandAck (message : MavlinkMessage) (ack : CommandAckFields) : CommandAck :=
  { sourceSystem := message.sysid
    sourceComponent := message.compid
    command := ack.command
    result := ack.result
    progress := ack.progress
    resultParameter := ack.resultParam2
    targetSystem := ack.targetSystem
    targetComponent := ack.targetComponent }

def parameterValue (message : MavlinkMessage) (parameter : ParamValue) : ParameterValue :=
  { sourceSystem := message.sysid
    sourceComponent := message.compid
    id := parameterId parameter
    value := parameter.paramValue
    type := parameter.paramType }

namespace MavlinkDecoder

/-- A heartbeat that may select a controller. -/
def autopilotHeartbeat (message : MavlinkMessage) (heartbeat : Heartbeat) : Bool :=
  !(heartbeat.autopilot == kMavAutopilotInvalid || message.compid != kMavCompIdAutopilot1)

/-- The message comes from the controller of the snapshot. -/
def fromController (vehicle : VehicleSnapshot) (message : MavlinkMessage) : Bool :=
  some message.sysid == vehicle.systemId && some message.compid == vehicle.componentId

def handleHeartbeat (state : VehicleState) (message : MavlinkMessage) (heartbeat : Heartbeat)
    (now : TimePoint) : VehicleState :=
  if !autopilotHeartbeat message heartbeat then state
  else
    let (state, vehicle) := state.snapshot now
    if vehicle.connected && !fromController vehicle message then state
    else
      state.onHeartbeat message.sysid message.compid heartbeat.type heartbeat.autopilot
        heartbeat.baseMode heartbeat.customMode heartbeat.systemStatus now

/-- What a message does once it is known to come from the selected controller. -/
def dispatch (state : VehicleState) (message : MavlinkMessage) (now : TimePoint) :
    VehicleState × Option HandlerCall :=
  match message.payload with
  | .heartbeat heartbeat => (handleHeartbeat state message heartbeat now, none)
  | .gpsRawInt gps => (state.onGps gps.fixType gps.satellitesVisible now, none)
  | .globalPositionInt position => (state.onGlobalPosition position.relativeAlt now, none)
  | .localPositionNed position => (state.onLocalPosition position.x position.y position.z now, none)
  | .attitude attitude =>
      (state.onAttitude attitude.roll attitude.pitch attitude.yaw attitude.yawspeed now, none)
  | .batteryStatus battery =>
      (state.onBattery (batteryVoltage battery) (currentFromCentiampere battery.currentBattery)
        (remainingPercent battery.batteryRemaining) now, none)
  | .sysStatus status =>
      (state.onSystemStatus status.onboardControlSensorsEnabled status.onboardControlSensorsHealth
        (systemStatusVoltage status) (currentFromCentiampere status.currentBattery)
        (remainingPercent status.batteryRemaining) now, none)
  | .autopilotVersion version =>
      if message.compid != kMavCompIdAutopilot1 then (state, none)
      else (state.onAutopilotMetadata (autopilotMetadata version), none)
  | .paramValue parameter =>
      let state := if parameterId parameter == literal "BATT_ARM_VOLT" then
          state.onBatteryArmingVoltage parameter.paramValue now else state
      (state, some (.parameterValue (parameterValue message parameter)))
  | .statustext status => (state.onStatusText status.severity (statusText status) now, none)
  | .commandAck ack => (state, some (.commandAck (commandAck message ack)))
  | .other _ _ => (state, none)

def isHeartbeat (message : MavlinkMessage) : Bool :=
  match message.payload with
  | .heartbeat _ => true
  | _ => false

/-- `handle_message`: anything but a heartbeat must come from the connected controller. -/
def handleMessage (state : VehicleState) (message : MavlinkMessage) (now : TimePoint) :
    VehicleState × Option HandlerCall :=
  if isHeartbeat message then dispatch state message now
  else
    let (state, vehicle) := state.snapshot now
    if !vehicle.connected || !fromController vehicle message then (state, none)
    else dispatch state message now

/-! ### The decoder's cases -/

/-- The message comes from the controller that the state has selected. -/
def selected (s : VehicleState) (message : MavlinkMessage) : Bool :=
  some message.sysid == s.systemId && some message.compid == s.componentId

@[simp] theorem fromController_observe (s : VehicleState) (message : MavlinkMessage) (now : TimePoint) :
    fromController (s.observe now) message = selected s message := by
  rw [fromController, s.observe_systemId, s.observe_componentId, selected]

theorem exists_heartbeat {message : MavlinkMessage} (h : isHeartbeat message = true) :
    ∃ heartbeat, message.payload = .heartbeat heartbeat := by
  simp only [isHeartbeat] at h
  split at h
  · exact ⟨_, ‹_›⟩
  · exact absurd h (by decide)

theorem handleHeartbeat_eq (s : VehicleState) (message : MavlinkMessage) (heartbeat : Heartbeat)
    (now : TimePoint) : handleHeartbeat s message heartbeat now =
      if autopilotHeartbeat message heartbeat then
        if isFresh s.lastHeartbeat now kHeartbeatTimeout && !selected s message then s.eraseOldWarnings now
        else
          (s.eraseOldWarnings now).onHeartbeat message.sysid message.compid heartbeat.type
            heartbeat.autopilot heartbeat.baseMode heartbeat.customMode heartbeat.systemStatus now
      else s := by
  simp only [handleHeartbeat, VehicleState.snapshot, VehicleState.observe_connected, fromController_observe,
    Bool.not_eq_true']
  cases autopilotHeartbeat message heartbeat <;> rfl

theorem handleMessage_heartbeat (s : VehicleState) {message : MavlinkMessage} {heartbeat : Heartbeat}
    (now : TimePoint) (h : message.payload = .heartbeat heartbeat) :
    handleMessage s message now = (handleHeartbeat s message heartbeat now, none) := by
  simp only [handleMessage, isHeartbeat, dispatch, h, if_true]

theorem handleMessage_other (s : VehicleState) {message : MavlinkMessage} (now : TimePoint)
    (h : isHeartbeat message = false) : handleMessage s message now =
      if isFresh s.lastHeartbeat now kHeartbeatTimeout && selected s message then
        dispatch (s.eraseOldWarnings now) message now
      else (s.eraseOldWarnings now, none) := by
  simp only [handleMessage, h, VehicleState.snapshot, VehicleState.observe_connected,
    fromController_observe, Bool.false_eq_true, if_false]
  have hkept : (s.eraseOldWarnings now).lastHeartbeat = s.lastHeartbeat ∧
      selected (s.eraseOldWarnings now) message = selected s message := ⟨rfl, rfl⟩
  rw [hkept.1, hkept.2]
  cases isFresh s.lastHeartbeat now kHeartbeatTimeout <;> cases selected s message <;> rfl

end MavlinkDecoder
end OnboardAutonomy
