import OnboardAutonomy.MavlinkMessage
import OnboardAutonomy.TimedLog
import Mathlib.Data.List.Infix

/-! `VehicleState`: the cached telemetry of the selected flight controller, with one time stamp for each
group of fields, and the snapshot taken from it. A reset clears the stamps, the arming threshold, the
metadata and the warnings; the other cached values stay behind and are hidden by their cleared stamps.
The mutex is left out: every operation runs under it. -/

namespace OnboardAutonomy

/-- A point on the steady clock, in nanoseconds. -/
abbrev TimePoint := Int

def seconds (n : Int) : Int := n * 1000000000

def milliseconds (n : Int) : Int := n * 1000000

structure AutopilotMetadata where
  firmwareMajor : UInt8 := 0
  firmwareMinor : UInt8 := 0
  firmwarePatch : UInt8 := 0
  firmwareReleaseType : UInt8 := 0
  capabilities : UInt64 := 0
  boardVersion : UInt32 := 0
  vendorId : UInt16 := 0
  productId : UInt16 := 0
  deriving DecidableEq

structure VehicleSnapshot where
  connected : Bool := false
  gpsReady : Bool := false
  navigationReady : Bool := false
  batteryReady : Bool := false
  systemHealthKnown : Bool := false
  systemHealthOk : Bool := false
  armable : Bool := false
  armed : Bool := false
  systemId : Option UInt8 := none
  componentId : Option UInt8 := none
  vehicleType : Option UInt8 := none
  autopilotType : Option UInt8 := none
  systemStatus : Option UInt8 := none
  flightMode : Option UInt32 := none
  gpsFixType : Option UInt8 := none
  satellitesVisible : Option UInt8 := none
  relativeAltitudeM : Option Binary64 := none
  localNorthM : Option Binary64 := none
  localEastM : Option Binary64 := none
  localDownM : Option Binary64 := none
  rollRad : Option Binary64 := none
  pitchRad : Option Binary64 := none
  yawRad : Option Binary64 := none
  yawRateRadPerSecond : Option Binary64 := none
  batteryVoltageV : Option Binary64 := none
  batteryCurrentA : Option Binary64 := none
  batteryRemainingPct : Option Int8 := none
  batteryArmingVoltageV : Option Binary64 := none
  autopilotMetadata : Option AutopilotMetadata := none
  warnings : List Bytes := []
  deriving DecidableEq

def kHeartbeatTimeout : Int := seconds 3
def kGpsTimeout : Int := seconds 5
def kGlobalPositionTimeout : Int := seconds 2
def kLocalPositionTimeout : Int := seconds 2
def kAttitudeTimeout : Int := seconds 2
def kBatteryTimeout : Int := seconds 10
def kSystemStatusTimeout : Int := seconds 5
def kWarningTimeout : Int := seconds 30
def kBlockingWarningTimeout : Int := seconds 5
def kMinimumBatteryPercent : Int8 := 20
def kMaximumBatteryPercent : Int8 := 100
def kBatterySensorFlag : UInt32 := (1 : UInt32) <<< 25
def kMavModeFlagSafetyArmed : UInt8 := 128
def kMavSeverityWarning : UInt8 := 4

def isFresh (observedAt : Option TimePoint) (now : TimePoint) (timeout : Int) : Bool :=
  observedAt.any fun t => decide (now - t ≤ timeout)

/-- `std::tolower` in the "C" locale. -/
def toLower (byte : UInt8) : UInt8 := if 65 ≤ byte ∧ byte ≤ 90 then byte + 32 else byte

def containsCaseInsensitive (text expected : Bytes) : Bool :=
  decide (expected <:+: text.map toLower)

def containsPrearm (text : Bytes) : Bool := containsCaseInsensitive text (literal "prearm:")

def containsBattery (text : Bytes) : Bool := containsCaseInsensitive text (literal "battery")

structure WarningEntry where
  text : Bytes
  lastSeen : TimePoint
  deriving DecidableEq

/-- An entry of the warning store as a key with its stamp. -/
def WarningEntry.stamped (warning : WarningEntry) : Bytes × TimePoint := (warning.text, warning.lastSeen)

structure VehicleState where
  lastHeartbeat : Option TimePoint := none
  lastGps : Option TimePoint := none
  lastGlobalPosition : Option TimePoint := none
  lastLocalPosition : Option TimePoint := none
  lastAttitude : Option TimePoint := none
  lastBatteryVoltage : Option TimePoint := none
  lastBatteryCurrent : Option TimePoint := none
  lastBatteryRemaining : Option TimePoint := none
  lastSystemStatus : Option TimePoint := none
  systemId : Option UInt8 := none
  componentId : Option UInt8 := none
  vehicleType : Option UInt8 := none
  autopilotType : Option UInt8 := none
  systemStatus : Option UInt8 := none
  flightMode : Option UInt32 := none
  gpsFixType : Option UInt8 := none
  satellitesVisible : Option UInt8 := none
  relativeAltitudeM : Option Binary64 := none
  localNorthM : Option Binary64 := none
  localEastM : Option Binary64 := none
  localDownM : Option Binary64 := none
  rollRad : Option Binary64 := none
  pitchRad : Option Binary64 := none
  yawRad : Option Binary64 := none
  yawRateRadPerSecond : Option Binary64 := none
  batteryVoltageV : Option Binary64 := none
  batteryCurrentA : Option Binary64 := none
  batteryRemainingPct : Option Int8 := none
  batteryArmingVoltageV : Option Binary64 := none
  autopilotMetadata : Option AutopilotMetadata := none
  sensorsEnabled : UInt32 := 0
  sensorsHealthy : UInt32 := 0
  armed : Bool := false
  warnings : List WarningEntry := []
  deriving DecidableEq

namespace VehicleState

/-- `reset_telemetry_locked`. -/
def resetTelemetry (s : VehicleState) : VehicleState :=
  { s with
    lastGps := none
    lastGlobalPosition := none
    lastLocalPosition := none
    lastAttitude := none
    lastBatteryVoltage := none
    lastBatteryCurrent := none
    lastBatteryRemaining := none
    lastSystemStatus := none
    batteryArmingVoltageV := none
    autopilotMetadata := none
    warnings := [] }

def reconnecting (s : VehicleState) (now : TimePoint) : Bool :=
  s.lastHeartbeat.isSome && !isFresh s.lastHeartbeat now kHeartbeatTimeout

def controllerChanged (s : VehicleState) (systemId componentId : UInt8) : Bool :=
  s.systemId.any (· != systemId) || s.componentId.any (· != componentId)

def onHeartbeat (s : VehicleState) (systemId componentId vehicleType autopilotType baseMode : UInt8)
    (customMode : UInt32) (systemStatus : UInt8) (now : TimePoint) : VehicleState :=
  let kept := if s.reconnecting now || s.controllerChanged systemId componentId then s.resetTelemetry
    else s
  { kept with
    lastHeartbeat := some now
    systemId := some systemId
    componentId := some componentId
    vehicleType := some vehicleType
    autopilotType := some autopilotType
    systemStatus := some systemStatus
    flightMode := some customMode
    armed := (baseMode &&& kMavModeFlagSafetyArmed) != 0 }

def onGps (s : VehicleState) (fixType satellitesVisible : UInt8) (now : TimePoint) : VehicleState :=
  { s with
    lastGps := some now
    gpsFixType := some fixType
    satellitesVisible := some satellitesVisible }

def onGlobalPosition (s : VehicleState) (relativeAltitudeMm : Int32) (now : TimePoint) : VehicleState :=
  { s with
    lastGlobalPosition := some now
    relativeAltitudeM := some (.quotient relativeAltitudeMm.toInt 1000) }

def onLocalPosition (s : VehicleState) (northM eastM downM : Binary64) (now : TimePoint) : VehicleState :=
  { s with
    lastLocalPosition := some now
    localNorthM := some northM
    localEastM := some eastM
    localDownM := some downM }

def onAttitude (s : VehicleState) (rollRad pitchRad yawRad yawRateRadPerSecond : Binary64)
    (now : TimePoint) : VehicleState :=
  { s with
    lastAttitude := some now
    rollRad := some rollRad
    pitchRad := some pitchRad
    yawRad := some yawRad
    yawRateRadPerSecond := some yawRateRadPerSecond }

/-- A voltage that `update_battery_locked` stores: finite and positive. -/
def validVoltage (voltageV : Binary64) : Bool := voltageV.isFinite && Binary64.zero.lt voltageV

/-- A current that it stores: finite and not negative. -/
def validCurrent (currentA : Binary64) : Bool := currentA.isFinite && currentA.ge .zero

/-- A percentage that it stores. -/
def validPercent (remainingPct : Int8) : Bool :=
  decide (0 ≤ remainingPct) && decide (remainingPct ≤ kMaximumBatteryPercent)

/-- `update_battery_locked`: each of the three measurements is stored on its own. -/
def updateBattery (s : VehicleState) (voltageV currentA : Option Binary64) (remainingPct : Option Int8)
    (now : TimePoint) : VehicleState :=
  let s := if voltageV.any validVoltage then
      { s with batteryVoltageV := voltageV, lastBatteryVoltage := some now } else s
  let s := if currentA.any validCurrent then
      { s with batteryCurrentA := currentA, lastBatteryCurrent := some now } else s
  if remainingPct.any validPercent then
    { s with batteryRemainingPct := remainingPct, lastBatteryRemaining := some now } else s

def onBattery (s : VehicleState) (voltageV currentA : Option Binary64) (remainingPct : Option Int8)
    (now : TimePoint) : VehicleState :=
  s.updateBattery voltageV currentA remainingPct now

/-- The time of the parameter is not kept. -/
def onBatteryArmingVoltage (s : VehicleState) (voltageV : Binary64) (_now : TimePoint) : VehicleState :=
  { s with batteryArmingVoltageV := some (Binary64.zero.max voltageV) }

def onAutopilotMetadata (s : VehicleState) (metadata : AutopilotMetadata) : VehicleState :=
  { s with autopilotMetadata := some metadata }

def onSystemStatus (s : VehicleState) (sensorsEnabled sensorsHealthy : UInt32)
    (voltageV currentA : Option Binary64) (remainingPct : Option Int8) (now : TimePoint) : VehicleState :=
  let s := { s with
    sensorsEnabled := sensorsEnabled
    sensorsHealthy := sensorsHealthy
    lastSystemStatus := some now }
  if voltageV.isSome || currentA.isSome || remainingPct.isSome then
    s.updateBattery voltageV currentA remainingPct now
  else s

/-- A status text that is kept: not empty, and a warning or worse, or a pre-arm text. -/
def keepsStatusText (severity : UInt8) (text : Bytes) : Bool :=
  !(text.isEmpty || (decide (kMavSeverityWarning < severity) && !containsPrearm text))

/-- The warning store after a text was seen: its entry is refreshed, or appended. -/
def rememberWarning (warnings : List WarningEntry) (text : Bytes) (now : TimePoint) : List WarningEntry :=
  if warnings.any (fun warning => warning.text == text) then
    warnings.map fun warning => if warning.text == text then { warning with lastSeen := now } else warning
  else warnings ++ [{ text := text, lastSeen := now }]

def onStatusText (s : VehicleState) (severity : UInt8) (text : Bytes) (now : TimePoint) : VehicleState :=
  if !keepsStatusText severity text then s
  else { s with warnings := rememberWarning s.warnings text now }

/-! ### The snapshot -/

/-- The `std::erase_if` at the head of `snapshot`. -/
def eraseOldWarnings (s : VehicleState) (now : TimePoint) : VehicleState :=
  { s with warnings := s.warnings.filter fun warning => !decide (kWarningTimeout < now - warning.lastSeen) }

def batterySensorHealthy (s : VehicleState) (now : TimePoint) : Bool :=
  isFresh s.lastSystemStatus now kSystemStatusTimeout &&
    (s.sensorsEnabled &&& kBatterySensorFlag) != 0 && (s.sensorsHealthy &&& kBatterySensorFlag) != 0

def hasBatteryWarning (s : VehicleState) : Bool :=
  s.warnings.any fun warning => containsBattery warning.text

def hasRecentWarning (s : VehicleState) (now : TimePoint) : Bool :=
  s.warnings.any fun warning => decide (now - warning.lastSeen ≤ kBlockingWarningTimeout)

def voltageMeetsArmingThreshold (s : VehicleState) : Bool :=
  match s.batteryVoltageV, s.batteryArmingVoltageV with
  | some voltage, some threshold => threshold.eq .zero || voltage.ge threshold
  | _, _ => false

/-- The battery verdict, taken beside the percentage that the snapshot exposes. -/
def batteryReady (s : VehicleState) (now : TimePoint) (remainingPct : Option Int8) : Bool :=
  isFresh s.lastBatteryVoltage now kBatteryTimeout && s.voltageMeetsArmingThreshold &&
    s.batterySensorHealthy now && !s.hasBatteryWarning &&
    remainingPct.all fun percent => decide (kMinimumBatteryPercent ≤ percent)

/-- The fields that a snapshot exposes whether or not the vehicle is connected. -/
def identity (s : VehicleState) (now : TimePoint) : VehicleSnapshot :=
  { connected := isFresh s.lastHeartbeat now kHeartbeatTimeout
    systemId := s.systemId
    componentId := s.componentId
    vehicleType := s.vehicleType
    autopilotType := s.autopilotType
    systemStatus := s.systemStatus
    flightMode := s.flightMode
    armed := s.armed
    autopilotMetadata := s.autopilotMetadata
    warnings := s.warnings.map WarningEntry.text }

/-- What a connected vehicle's snapshot adds to the identity. -/
def telemetry (s : VehicleState) (now : TimePoint) (result : VehicleSnapshot) : VehicleSnapshot :=
  let gpsFresh := isFresh s.lastGps now kGpsTimeout
  let localFresh := isFresh s.lastLocalPosition now kLocalPositionTimeout
  let attitudeFresh := isFresh s.lastAttitude now kAttitudeTimeout
  let voltageFresh := isFresh s.lastBatteryVoltage now kBatteryTimeout
  let gpsReady := gpsFresh && s.gpsFixType.any fun fix => decide (3 ≤ fix)
  let remainingPct :=
    if isFresh s.lastBatteryRemaining now kBatteryTimeout then s.batteryRemainingPct else none
  let batteryReady := s.batteryReady now remainingPct
  let systemStatusFresh := isFresh s.lastSystemStatus now kSystemStatusTimeout
  let systemHealthOk := systemStatusFresh && (s.sensorsEnabled &&& ~~~s.sensorsHealthy) == 0
  { result with
    gpsFixType := if gpsFresh then s.gpsFixType else none
    satellitesVisible := if gpsFresh then s.satellitesVisible else none
    gpsReady := gpsReady
    navigationReady := gpsReady
    relativeAltitudeM :=
      if isFresh s.lastGlobalPosition now kGlobalPositionTimeout then s.relativeAltitudeM else none
    localNorthM := if localFresh then s.localNorthM else none
    localEastM := if localFresh then s.localEastM else none
    localDownM := if localFresh then s.localDownM else none
    rollRad := if attitudeFresh then s.rollRad else none
    pitchRad := if attitudeFresh then s.pitchRad else none
    yawRad := if attitudeFresh then s.yawRad else none
    yawRateRadPerSecond := if attitudeFresh then s.yawRateRadPerSecond else none
    batteryCurrentA :=
      if isFresh s.lastBatteryCurrent now kBatteryTimeout then s.batteryCurrentA else none
    batteryRemainingPct := remainingPct
    batteryVoltageV := if voltageFresh then s.batteryVoltageV else none
    batteryArmingVoltageV := if voltageFresh then s.batteryArmingVoltageV else none
    batteryReady := batteryReady
    systemHealthKnown := systemStatusFresh
    systemHealthOk := systemHealthOk
    armable := gpsReady && batteryReady && systemHealthOk && !s.hasRecentWarning now }

/-- What `snapshot` reports once the old warnings are gone. -/
def observe (s : VehicleState) (now : TimePoint) : VehicleSnapshot :=
  let result := s.identity now
  if !result.connected then result else s.telemetry now result

/-- `snapshot`: it drops the old warnings from the state and reports what is left. -/
def snapshot (s : VehicleState) (now : TimePoint) : VehicleState × VehicleSnapshot :=
  (s.eraseOldWarnings now, (s.eraseOldWarnings now).observe now)

/-! ### What the operations write -/

theorem updateBattery_eq (s : VehicleState) (voltageV currentA : Option Binary64)
    (remainingPct : Option Int8) (now : TimePoint) :
    s.updateBattery voltageV currentA remainingPct now =
      { s with
        batteryVoltageV := if voltageV.any validVoltage then voltageV else s.batteryVoltageV
        lastBatteryVoltage := if voltageV.any validVoltage then some now else s.lastBatteryVoltage
        batteryCurrentA := if currentA.any validCurrent then currentA else s.batteryCurrentA
        lastBatteryCurrent := if currentA.any validCurrent then some now else s.lastBatteryCurrent
        batteryRemainingPct := if remainingPct.any validPercent then remainingPct else s.batteryRemainingPct
        lastBatteryRemaining :=
          if remainingPct.any validPercent then some now else s.lastBatteryRemaining } := by
  unfold updateBattery
  split <;> split <;> split <;> rfl

/-- Skipping the battery when a SYS_STATUS carries no reading changes nothing. -/
theorem onSystemStatus_eq (s : VehicleState) (sensorsEnabled sensorsHealthy : UInt32)
    (voltageV currentA : Option Binary64) (remainingPct : Option Int8) (now : TimePoint) :
    s.onSystemStatus sensorsEnabled sensorsHealthy voltageV currentA remainingPct now =
      VehicleState.updateBattery { s with
        sensorsEnabled := sensorsEnabled
        sensorsHealthy := sensorsHealthy
        lastSystemStatus := some now } voltageV currentA remainingPct now := by
  unfold onSystemStatus
  split
  · rfl
  · rename_i hnone
    simp only [Bool.or_eq_true, not_or, Option.isSome_iff_ne_none, ne_eq, not_not] at hnone
    obtain ⟨⟨rfl, rfl⟩, rfl⟩ := hnone
    rfl

theorem observe_of_connected {s : VehicleState} {now : TimePoint}
    (h : isFresh s.lastHeartbeat now kHeartbeatTimeout = true) :
    s.observe now = s.telemetry now (s.identity now) := by
  simp only [observe, identity, h, Bool.not_true, Bool.false_eq_true, if_false]

theorem observe_of_disconnected {s : VehicleState} {now : TimePoint}
    (h : isFresh s.lastHeartbeat now kHeartbeatTimeout = false) : s.observe now = s.identity now := by
  simp only [observe, identity, h, Bool.not_false, if_true]

@[simp] theorem observe_connected (s : VehicleState) (now : TimePoint) :
    (s.observe now).connected = isFresh s.lastHeartbeat now kHeartbeatTimeout := by
  simp only [observe]
  split <;> rfl

@[simp] theorem observe_systemId (s : VehicleState) (now : TimePoint) :
    (s.observe now).systemId = s.systemId := by
  simp only [observe]
  split <;> rfl

@[simp] theorem observe_componentId (s : VehicleState) (now : TimePoint) :
    (s.observe now).componentId = s.componentId := by
  simp only [observe]
  split <;> rfl

@[simp] theorem observe_warnings (s : VehicleState) (now : TimePoint) :
    (s.observe now).warnings = s.warnings.map WarningEntry.text := by
  simp only [observe]
  split <;> rfl

/-- A heartbeat writes the identity over the state it keeps. -/
theorem onHeartbeat_eq (s : VehicleState)
    (systemId componentId vehicleType autopilotType baseMode : UInt8) (customMode : UInt32)
    (systemStatus : UInt8) (now : TimePoint) :
    s.onHeartbeat systemId componentId vehicleType autopilotType baseMode customMode systemStatus now =
      { (if s.reconnecting now || s.controllerChanged systemId componentId then s.resetTelemetry else s) with
        lastHeartbeat := some now
        systemId := some systemId
        componentId := some componentId
        vehicleType := some vehicleType
        autopilotType := some autopilotType
        systemStatus := some systemStatus
        flightMode := some customMode
        armed := (baseMode &&& kMavModeFlagSafetyArmed) != 0 } := rfl

theorem eraseOldWarnings_stamped (s : VehicleState) (now : TimePoint) :
    (s.eraseOldWarnings now).warnings.map WarningEntry.stamped =
      TimedLog.purge kWarningTimeout now (s.warnings.map WarningEntry.stamped) := by
  simp only [eraseOldWarnings, TimedLog.purge, List.filter_map]
  rfl

theorem eraseOldWarnings_idem (s : VehicleState) (now : TimePoint) :
    (s.eraseOldWarnings now).eraseOldWarnings now = s.eraseOldWarnings now := by
  simp only [eraseOldWarnings, List.filter_filter, Bool.and_self]

theorem rememberWarning_stamped (warnings : List WarningEntry) (text : Bytes) (now : TimePoint) :
    (rememberWarning warnings text now).map WarningEntry.stamped =
      TimedLog.touch text now (warnings.map WarningEntry.stamped) := by
  have hkeys : (warnings.map WarningEntry.stamped).map Prod.fst = warnings.map WarningEntry.text := by
    rw [List.map_map]
    rfl
  have hany : warnings.any (fun warning => warning.text == text) = true ↔
      text ∈ warnings.map WarningEntry.text := by
    simp
  simp only [rememberWarning, TimedLog.touch, hkeys, hany]
  split
  · simp only [List.map_map]
    apply List.map_congr_left
    intro warning _
    by_cases heq : warning.text = text <;> simp [WarningEntry.stamped, heq]
  · rw [List.map_append]
    rfl

end VehicleState
end OnboardAutonomy
