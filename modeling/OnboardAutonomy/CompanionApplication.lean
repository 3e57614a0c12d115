import OnboardAutonomy.AppSnapshot

/-! `CompanionApplication`: one poll takes in the framed messages, watches the vehicle, and runs four
schedulers that write frames. Writing is left to a port, so that the same application runs over any
transport; the camera monitor shares no state with the rest and only enters the snapshot. The state keeps
a record of the frames handed to the port and of the calls made to the observation sinks. -/

namespace OnboardAutonomy

/-- What `write_frame` does to the outside world: it says whether the whole frame went out. -/
structure OutboundPort (ω : Type) where
  send : ω → OutboundMessage → Bool × ω

def kHeartbeatInterval : Int := seconds 1
def kBatteryParameterRetryInterval : Int := seconds 2
def kFailsafeParameterSpacing : Int := milliseconds 200
def kRejectedFailsafeRetryInterval : Int := seconds 2
def kAcceptedFailsafeRefreshInterval : Int := seconds 10
def kAutopilotVersionRetryInterval : Int := seconds 2
def kMaximumLinkEvents : Nat := 8

/-! ### Names -/

def mapEventStatus (result : UInt8) : LinkEventStatus :=
  if result = MAV_RESULT_ACCEPTED then .success
  else if result = MAV_RESULT_IN_PROGRESS then .pending
  else if result = MAV_RESULT_TEMPORARILY_REJECTED then .warning
  else .failure

def ackResultName (result : UInt8) : String :=
  if result = MAV_RESULT_ACCEPTED then "ACCEPTED"
  else if result = MAV_RESULT_TEMPORARILY_REJECTED then "TEMPORARILY REJECTED"
  else if result = MAV_RESULT_DENIED then "DENIED"
  else if result = MAV_RESULT_UNSUPPORTED then "UNSUPPORTED"
  else if result = MAV_RESULT_FAILED then "FAILED"
  else if result = MAV_RESULT_IN_PROGRESS then "IN PROGRESS"
  else if result = MAV_RESULT_CANCELLED then "CANCELLED"
  else "MAV_RESULT " ++ toString result.toNat

/-- The name of a command without the "ACK " that `mav_command_name` puts in front of each. -/
def acknowledgedCommandName (command : UInt16) : String :=
  match command.toNat with
  | 511 => "SET_INTERVAL"
  | 512 => "REQUEST_VERSION"
  | 176 => "SET_MODE"
  | 400 => "ARM"
  | 22 => "TAKEOFF"
  | 21 => "LAND"
  | 20 => "RTL"
  | 115 => "YAW"
  | _ => "COMMAND " ++ toString command.toNat

def mavCommandName (command : UInt16) : String := "ACK " ++ acknowledgedCommandName command

def commandAckActivityDetail (command : UInt16) (result : UInt8) : String :=
  acknowledgedCommandName command ++ " " ++ ackResultName result

def flightModeName (mode : UInt32) : String :=
  match mode.toNat with
  | 0 => "STABILIZE"
  | 3 => "AUTO"
  | 4 => "GUIDED"
  | 5 => "LOITER"
  | 6 => "RTL"
  | 9 => "LAND"
  | 16 => "POSITION HOLD"
  | _ => "MODE " ++ toString mode.toNat

/-! ### The journal -/

/-- A call of an observation sink. -/
inductive Delivery where
  | linkEvent (event : LinkEvent)
  | failsafeTransition (previous : CompanionLinkFailsafePhase) (current : CompanionLinkFailsafeSnapshot)
      (elapsed : Int)
  deriving DecidableEq

/-- The events of the application, its clock, and what its sinks were told. A missing entry of the sinks is
a null pointer. -/
structure Journal where
  startedAt : Option TimePoint := none
  linkEvents : List LinkEvent := []
  observationSinks : List (Option Nat) := []
  nextEventSequence : UInt64 := 0
  deliveries : List (Nat × Delivery) := []
  deriving DecidableEq

namespace Journal

def startClock (j : Journal) (now : TimePoint) : Journal :=
  if j.startedAt.isSome then j else { j with startedAt := some now }

/-- `elapsed_at`, in milliseconds, once the clock is running. -/
def elapsedAt (j : Journal) (now : TimePoint) : Int := (now - j.startedAt.getD now).tdiv 1000000

def deliver (j : Journal) (call : Delivery) : Journal :=
  { j with deliveries := j.deliveries ++ (j.observationSinks.filterMap id).map fun sink => (sink, call) }

def recordEvent (j : Journal) (direction : LinkEventDirection) (status : LinkEventStatus)
    (label detail : String) (now : TimePoint) : Journal :=
  let j := j.startClock now
  let event : LinkEvent :=
    { sequence := j.nextEventSequence + 1
      elapsed := j.elapsedAt now
      direction := direction
      status := status
      label := label
      detail := detail }
  let j := { j with
    nextEventSequence := j.nextEventSequence + 1
    linkEvents := j.linkEvents ++ [event] }
  let j := j.deliver (.linkEvent event)
  { j with linkEvents := if kMaximumLinkEvents < j.linkEvents.length then j.linkEvents.tail else j.linkEvents }

end Journal

/-- The last message in each direction. -/
structure ActivityLog where
  nextActivitySequence : UInt64 := 0
  txActivity : Option LinkActivity := none
  rxActivity : Option LinkActivity := none
  deriving DecidableEq

def ActivityLog.record (l : ActivityLog) (direction : LinkEventDirection) (observedAt : Int)
    (messageName detail : String) : ActivityLog :=
  let activity : LinkActivity :=
    { sequence := l.nextActivitySequence + 1
      observedAt := observedAt
      messageName := messageName
      detail := detail }
  let l := { l with nextActivitySequence := l.nextActivitySequence + 1 }
  match direction with
  | .outbound => { l with txActivity := some activity }
  | .inbound => { l with rxActivity := some activity }

/-! ### The state -/

structure CompanionApplication (ω : Type) where
  port : ω
  simulatedWind : Option SimulatedWindProfile := none
  vehicleState : VehicleState := {}
  companionLinkFailsafe : CompanionLinkFailsafe := {}
  telemetryConfigurator : TelemetryStreamConfigurator := {}
  nextHeartbeat : TimePoint := 0
  nextBatteryParameterRequest : TimePoint := 0
  nextFailsafeParameterRequest : TimePoint := 0
  nextAutopilotVersionRequest : TimePoint := 0
  journal : Journal := {}
  activity : ActivityLog := {}
  previousFailsafePhase : CompanionLinkFailsafePhase := .waitingForVehicle
  vehicleWasConnected : Bool := false
  previousFlightMode : Option UInt32 := none
  previousArmed : Option Bool := none
  autopilotMetadataWasAvailable : Bool := false
  companionHeartbeatActive : Bool := false
  failsafeParameterIndex : Nat := 0
  handed : List OutboundMessage := []

namespace CompanionApplication

variable {ω : Type}

/-- The application as it is constructed over a transport, with its sinks attached. -/
def start (world : ω) (simulatedWind : Option SimulatedWindProfile) (observationSinks : List (Option Nat)) :
    CompanionApplication ω :=
  { port := world, simulatedWind := simulatedWind, journal := { observationSinks := observationSinks } }

/-! ### The decoder's handlers -/

def recordEvent (a : CompanionApplication ω) (direction : LinkEventDirection) (status : LinkEventStatus)
    (label detail : String) (now : TimePoint) : CompanionApplication ω :=
  { a with journal := a.journal.recordEvent direction status label detail now }

def recordActivity (a : CompanionApplication ω) (direction : LinkEventDirection)
    (messageName detail : String) (now : TimePoint) : CompanionApplication ω :=
  let journal := a.journal.startClock now
  { a with
    journal := journal
    activity := a.activity.record direction (journal.elapsedAt now) messageName detail }

def observeFailsafePhase (a : CompanionApplication ω) (now : TimePoint) : CompanionApplication ω :=
  let current := a.companionLinkFailsafe.snapshot
  if current.phase == a.previousFailsafePhase then a
  else
    { a with
      journal := a.journal.deliver
        (.failsafeTransition a.previousFailsafePhase current (a.journal.elapsedAt now))
      previousFailsafePhase := current.phase }

/-- The detail of the event that an acknowledgement is recorded as. -/
def acknowledgementDetail (before : TelemetrySetupSnapshot) (acknowledgement : CommandAck) : String :=
  (if acknowledgement.command == MAV_CMD_SET_MESSAGE_INTERVAL && before.phase == .configuring &&
      !before.currentStream.isEmpty then before.currentStream ++ " | " else "") ++
    ackResultName acknowledgement.result ++ " | SYS " ++ toString acknowledgement.sourceSystem.toNat

def onCommandAck (a : CompanionApplication ω) (acknowledgement : CommandAck) (now : TimePoint) :
    CompanionApplication ω :=
  let before := a.telemetryConfigurator.snapshot
  let a :=
    if acknowledgement.targetComponent == 0 || acknowledgement.targetComponent == kCompanionComponentId then
      (a.recordEvent .inbound (mapEventStatus acknowledgement.result)
          (mavCommandName acknowledgement.command) (acknowledgementDetail before acknowledgement)
          now).recordActivity
        .inbound "COMMAND_ACK" (commandAckActivityDetail acknowledgement.command acknowledgement.result) now
    else a
  { a with telemetryConfigurator := a.telemetryConfigurator.onCommandAck acknowledgement now }

def onMessage (a : CompanionApplication ω) (message : MavlinkMessage) (now : TimePoint) :
    CompanionApplication ω :=
  let name := message.name.getD ""
  a.recordActivity .inbound (if name.isEmpty then "MSG #" ++ toString message.msgid.toNat else name) "" now

def onParameter (a : CompanionApplication ω) (parameter : ParameterValue) (now : TimePoint) :
    CompanionApplication ω :=
  let a := { a with
    companionLinkFailsafe := a.companionLinkFailsafe.onParameter parameter.sourceSystem
      parameter.sourceComponent parameter.id parameter.value }
  let a := a.observeFailsafePhase now
  match CompanionLinkFailsafe.parameterNames.find? fun expected => parameter.id == literal expected with
  | some expected => a.recordActivity .inbound "PARAM_VALUE" expected now
  | none => a

/-- The handler that a decoded message calls. -/
def handle (a : CompanionApplication ω) (call : Option HandlerCall) (now : TimePoint) :
    CompanionApplication ω :=
  match call with
  | none => a
  | some (.commandAck acknowledgement) => a.onCommandAck acknowledgement now
  | some (.parameterValue parameter) => a.onParameter parameter now

/-- One framed message of `ingest`. -/
def ingestMessage (now : TimePoint) (a : CompanionApplication ω) (message : MavlinkMessage) :
    CompanionApplication ω :=
  let a := a.onMessage message now
  let decoded := MavlinkDecoder.handleMessage a.vehicleState message now
  { a with vehicleState := decoded.1 }.handle decoded.2 now

def pollInputs (a : CompanionApplication ω) (cameraNow now : TimePoint) (messages : List MavlinkMessage) :
    CompanionApplication ω :=
  messages.foldl (ingestMessage now) { a with journal := a.journal.startClock cameraNow }

/-! ### Watching the vehicle -/

/-- The detail of the event that a new connection is recorded as. -/
def onlineDetail (vehicle : VehicleSnapshot) : String :=
  "FLIGHT CONTROLLER ONLINE" ++
    (vehicle.systemId.elim "" fun id => " | SYS " ++ toString id.toNat) ++
    (vehicle.componentId.elim "" fun id => " COMP " ++ toString id.toNat)

def observeMetadata (a : CompanionApplication ω) (vehicle : VehicleSnapshot) (now : TimePoint) :
    CompanionApplication ω :=
  let a :=
    match vehicle.autopilotMetadata with
    | some metadata =>
        if a.autopilotMetadataWasAvailable then a
        else
          a.recordEvent .inbound .success "AUTOPILOT_VERSION"
            (toString metadata.firmwareMajor.toNat ++ "." ++ toString metadata.firmwareMinor.toNat ++ "." ++
              toString metadata.firmwarePatch.toNat) now
    | none => a
  { a with autopilotMetadataWasAvailable := vehicle.autopilotMetadata.isSome }

def observeFlightMode (a : CompanionApplication ω) (vehicle : VehicleSnapshot) (now : TimePoint) :
    CompanionApplication ω :=
  let a :=
    match vehicle.flightMode with
    | some mode =>
        if some mode = a.previousFlightMode then a
        else a.recordEvent .inbound .success "HEARTBEAT" ("MODE " ++ flightModeName mode) now
    | none => a
  { a with previousFlightMode := vehicle.flightMode }

def observeArmed (a : CompanionApplication ω) (vehicle : VehicleSnapshot) (now : TimePoint) :
    CompanionApplication ω :=
  let a :=
    if a.previousArmed.any (· != vehicle.armed) then
      a.recordEvent .inbound .success "HEARTBEAT" (if vehicle.armed then "ARMED" else "DISARMED") now
    else a
  { a with previousArmed := some vehicle.armed }

def observeVehicle (a : CompanionApplication ω) (vehicle : VehicleSnapshot) (now : TimePoint) :
    CompanionApplication ω :=
  if !vehicle.connected then
    let a := if a.vehicleWasConnected then
        a.recordEvent .inbound .warning "LINK" "HEARTBEAT LOST" now else a
    { a with
      vehicleWasConnected := false
      previousFlightMode := none
      previousArmed := none
      autopilotMetadataWasAvailable := false }
  else if !a.vehicleWasConnected then
    { a.recordEvent .inbound .success "HEARTBEAT" (onlineDetail vehicle) now with
      vehicleWasConnected := true
      previousFlightMode := vehicle.flightMode
      previousArmed := some vehicle.armed
      autopilotMetadataWasAvailable := vehicle.autopilotMetadata.isSome }
  else ((a.observeMetadata vehicle now).observeFlightMode vehicle now).observeArmed vehicle now

def updateVehicleConnection (a : CompanionApplication ω) (vehicle : VehicleSnapshot) (now : TimePoint) :
    CompanionApplication ω :=
  let newlyConnected := vehicle.connected && !a.vehicleWasConnected
  let a := { a with
    companionLinkFailsafe := a.companionLinkFailsafe.observeVehicle vehicle.connected vehicle.systemId }
  let a := a.observeFailsafePhase now
  let a := if newlyConnected then
      { a with failsafeParameterIndex := 0, nextFailsafeParameterRequest := now } else a
  let a := a.observeVehicle vehicle now
  if !vehicle.connected then { a with companionHeartbeatActive := false } else a

/-! ### The schedulers -/

section Schedulers

variable (port : OutboundPort ω)

def writeFrame (a : CompanionApplication ω) (frame : OutboundMessage) (now : TimePoint)
    (messageName : String) (detail : String := "") : Bool × CompanionApplication ω :=
  let (sent, world) := port.send a.port frame
  let a := { a with port := world, handed := a.handed ++ [frame] }
  if sent then (true, a.recordActivity .outbound messageName detail now) else (false, a)

def sendCompanionHeartbeat (a : CompanionApplication ω) (vehicle : VehicleSnapshot) (now : TimePoint) :
    CompanionApplication ω :=
  if now < a.nextHeartbeat then a
  else
    let a :=
      match vehicle.connected, vehicle.systemId with
      | true, some systemId =>
          let (sent, a) := a.writeFrame port (encodeCompanionHeartbeat systemId) now "HEARTBEAT"
          if sent then { a with companionHeartbeatActive := true } else a
      | _, _ => a
    { a with nextHeartbeat := now + kHeartbeatInterval }

/-- The status of the event that an attempt to write is recorded as. -/
def writeStatus (sent : Bool) : LinkEventStatus := if sent then .pending else .failure

/-- What a failed attempt adds to the detail of its event. -/
def writeFailure (sent : Bool) : String := if sent then "" else " | WRITE FAILED"

def updateTelemetrySetup (a : CompanionApplication ω) (vehicle : VehicleSnapshot) (now : TimePoint) :
    CompanionApplication ω :=
  let (configurator, frame) := a.telemetryConfigurator.update vehicle.connected vehicle.systemId now
  let a := { a with telemetryConfigurator := configurator }
  match frame with
  | none => a
  | some frame =>
      let setup := configurator.snapshot
      let (sent, a) := a.writeFrame port frame now "COMMAND_LONG" ("SET_INTERVAL " ++ setup.currentStream)
      a.recordEvent .outbound (writeStatus sent) "SET_INTERVAL"
        (setup.currentStream ++ " | ATTEMPT " ++ toString setup.attempt ++ writeFailure sent) now

/-- What `update_telemetry_setup` returns: the setup is complete. -/
def telemetryReady (a : CompanionApplication ω) : Bool := a.telemetryConfigurator.phase == .active

/-- The name at an index of `CompanionLinkFailsafe::parameter_names`. Past the end there is none. -/
def failsafeParameterName (index : Nat) : String := CompanionLinkFailsafe.parameterNames.getD index ""

theorem parameterNames_fit : ∀ name ∈ CompanionLinkFailsafe.parameterNames,
    1 ≤ (literal name).length ∧ (literal name).length ≤ kMaximumParameterIdLength := by decide

/-- The id of that name. The encoder throws on none of the four. -/
def failsafeParameterId (index : Nat) : ParameterId :=
  if h : index < CompanionLinkFailsafe.parameterNames.length then
    ⟨literal CompanionLinkFailsafe.parameterNames[index], parameterNames_fit _ (List.getElem_mem h)⟩
  else ⟨literal "?", by decide⟩

def requestFailsafeParameter (a : CompanionApplication ω) (vehicle : VehicleSnapshot) (telemetryReady : Bool)
    (now : TimePoint) : CompanionApplication ω :=
  match telemetryReady, vehicle.systemId with
  | true, some systemId =>
      if now < a.nextFailsafeParameterRequest then a
      else
        let index := a.failsafeParameterIndex
        let name := failsafeParameterName index
        let (sent, a) := a.writeFrame port (paramRequestRead systemId (failsafeParameterId index)) now
          "PARAM_REQUEST_READ" name
        let a := a.recordEvent .outbound (writeStatus sent) "PARAM READ" (name ++ writeFailure sent) now
        if index + 1 < CompanionLinkFailsafe.parameterNames.length then
          { a with
            failsafeParameterIndex := index + 1
            nextFailsafeParameterRequest := now + kFailsafeParameterSpacing }
        else
          { a with
            failsafeParameterIndex := 0
            nextFailsafeParameterRequest := now +
              if a.companionLinkFailsafe.snapshot.accepted then kAcceptedFailsafeRefreshInterval
              else kRejectedFailsafeRetryInterval }
  | _, _ => a

def requestAutopilotVersion (a : CompanionApplication ω) (vehicle : VehicleSnapshot) (systemId : UInt8)
    (now : TimePoint) : CompanionApplication ω :=
  if vehicle.autopilotMetadata.isNone && decide (a.nextAutopilotVersionRequest ≤ now) then
    let (sent, a) := a.writeFrame port (encodeAutopilotVersionRequest systemId) now "COMMAND_LONG"
      "REQUEST AUTOPILOT_VERSION"
    { a with nextAutopilotVersionRequest := now + kAutopilotVersionRetryInterval }.recordEvent .outbound
      (writeStatus sent) "REQUEST_VERSION" ("AUTOPILOT_VERSION" ++ writeFailure sent) now
  else a

def requestBatteryParameter (a : CompanionApplication ω) (vehicle : VehicleSnapshot) (systemId : UInt8)
    (now : TimePoint) : CompanionApplication ω :=
  if vehicle.batteryArmingVoltageV.isSome || decide (now < a.nextBatteryParameterRequest) then a
  else
    let (sent, a) := a.writeFrame port (encodeBatteryArmingVoltageRequest systemId) now
      "PARAM_REQUEST_READ" "BATT_ARM_VOLT"
    { a with nextBatteryParameterRequest := now + kBatteryParameterRetryInterval }.recordEvent .outbound
      (writeStatus sent) "PARAM READ" ("BATT_ARM_VOLT" ++ writeFailure sent) now

def requestVehicleMetadata (a : CompanionApplication ω) (vehicle : VehicleSnapshot) (telemetryReady : Bool)
    (now : TimePoint) : CompanionApplication ω :=
  match telemetryReady, vehicle.systemId with
  | true, some systemId =>
      (a.requestAutopilotVersion port vehicle systemId now).requestBatteryParameter port vehicle systemId now
  | _, _ => a

/-- The part of `poll` after the snapshot. -/
def act (a : CompanionApplication ω) (vehicle : VehicleSnapshot) (now : TimePoint) : CompanionApplication ω :=
  let a := a.updateVehicleConnection vehicle now
  let a := a.sendCompanionHeartbeat port vehicle now
  let a := a.updateTelemetrySetup port vehicle now
  let telemetryReady := a.telemetryReady
  let a := a.requestFailsafeParameter port vehicle telemetryReady now
  a.requestVehicleMetadata port vehicle telemetryReady now

/-- `poll`, with the framed messages of the bytes read. The production overload takes the camera's time
before the read and `now` after it; the other one uses one time for both. -/
def poll (a : CompanionApplication ω) (cameraNow now : TimePoint) (messages : List MavlinkMessage) :
    CompanionApplication ω :=
  let a := a.pollInputs cameraNow now messages
  let (state, vehicle) := a.vehicleState.snapshot now
  { a with vehicleState := state }.act port vehicle now

end Schedulers

/-! ### The snapshot -/

/-- `snapshot`, beside what the camera monitor reports. -/
def snapshot (a : CompanionApplication ω) (now : TimePoint) (camera : Option CameraSnapshot)
    (vision : Option VisionSnapshot) : CompanionApplication ω × AppSnapshot :=
  let telemetry := a.telemetryConfigurator.snapshot
  let (state, vehicle) := a.vehicleState.snapshot now
  let journal := a.journal.startClock now
  ({ a with vehicleState := state, journal := journal },
    { vehicle := vehicle
      companionHeartbeatActive := a.companionHeartbeatActive
      companionLinkFailsafe := a.companionLinkFailsafe.snapshot
      telemetry :=
        { state := mapTelemetryState telemetry.phase
          completedRequests := telemetry.completedRequests
          totalRequests := telemetry.totalRequests
          currentStream := telemetry.currentStream
          attempt := telemetry.attempt
          failureResult := telemetry.failureResult }
      simulatedWind := a.simulatedWind
      camera := camera
      vision := vision
      linkEvents := a.journal.linkEvents
      elapsed := journal.elapsedAt now
      txActivity := a.activity.txActivity
      rxActivity := a.activity.rxActivity })

end CompanionApplication
end OnboardAutonomy
