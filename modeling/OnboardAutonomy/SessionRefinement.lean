import OnboardAutonomy.SessionModel

/-! `VehicleState` refines the session model. Every group of cached fields is a register: it is cleared
when a session begins and overwritten by the messages that carry its sample, and by nothing else. The
induction over the handled messages is made once, for every lawful register; the warning store is an
expiring set over the same log. -/

namespace OnboardAutonomy

open TimedLog MavlinkDecoder

/-! ### What a message writes -/

/-- The state after a message of the controller, field by field: each field follows the sample it holds. -/
def recorded (s : VehicleState) (message : MavlinkMessage) (now : TimePoint) : VehicleState :=
  { s with
    lastGps := (Sample.gps message).elim s.lastGps fun _ => some now
    gpsFixType := (Sample.gps message).elim s.gpsFixType fun gps => some gps.fixType
    satellitesVisible := (Sample.gps message).elim s.satellitesVisible fun gps => some gps.satellitesVisible
    lastGlobalPosition := (Sample.relativeAltitude message).elim s.lastGlobalPosition fun _ => some now
    relativeAltitudeM := (Sample.relativeAltitude message).elim s.relativeAltitudeM some
    lastLocalPosition := (Sample.localPosition message).elim s.lastLocalPosition fun _ => some now
    localNorthM := (Sample.localPosition message).elim s.localNorthM fun position => some position.x
    localEastM := (Sample.localPosition message).elim s.localEastM fun position => some position.y
    localDownM := (Sample.localPosition message).elim s.localDownM fun position => some position.z
    lastAttitude := (Sample.attitude message).elim s.lastAttitude fun _ => some now
    rollRad := (Sample.attitude message).elim s.rollRad fun attitude => some attitude.roll
    pitchRad := (Sample.attitude message).elim s.pitchRad fun attitude => some attitude.pitch
    yawRad := (Sample.attitude message).elim s.yawRad fun attitude => some attitude.yaw
    yawRateRadPerSecond :=
      (Sample.attitude message).elim s.yawRateRadPerSecond fun attitude => some attitude.yawspeed
    lastBatteryVoltage := (Sample.voltage message).elim s.lastBatteryVoltage fun _ => some now
    batteryVoltageV := (Sample.voltage message).elim s.batteryVoltageV some
    lastBatteryCurrent := (Sample.current message).elim s.lastBatteryCurrent fun _ => some now
    batteryCurrentA := (Sample.current message).elim s.batteryCurrentA some
    lastBatteryRemaining := (Sample.percent message).elim s.lastBatteryRemaining fun _ => some now
    batteryRemainingPct := (Sample.percent message).elim s.batteryRemainingPct some
    lastSystemStatus := (Sample.systemStatus message).elim s.lastSystemStatus fun _ => some now
    sensorsEnabled :=
      (Sample.systemStatus message).elim s.sensorsEnabled SysStatus.onboardControlSensorsEnabled
    sensorsHealthy :=
      (Sample.systemStatus message).elim s.sensorsHealthy SysStatus.onboardControlSensorsHealth
    batteryArmingVoltageV := (Sample.armingVoltage message).elim s.batteryArmingVoltageV fun voltage =>
      some (Binary64.zero.max voltage)
    autopilotMetadata := (Sample.metadata message).elim s.autopilotMetadata some
    warnings := (Sample.warning message).elim s.warnings fun text =>
      VehicleState.rememberWarning s.warnings text now }

theorem elim_filter_some {β : Type} (reading : Option β) (valid : β → Bool) (old : Option β) :
    (reading.filter valid).elim old some = if reading.any valid then reading else old := by
  cases reading with
  | none => rfl
  | some b => cases h : valid b <;> simp [Option.filter, h]

theorem elim_filter_const {β γ : Type} (reading : Option β) (valid : β → Bool) (old new : γ) :
    (reading.filter valid).elim old (fun _ => new) = if reading.any valid then new else old := by
  cases reading with
  | none => rfl
  | some b => cases h : valid b <;> simp [Option.filter, h]

theorem dispatch_eq_recorded {message : MavlinkMessage} (s : VehicleState) (now : TimePoint)
    (hbeat : Sample.heartbeat message = none) (hcompid : message.compid = kMavCompIdAutopilot1) :
    (dispatch s message now).1 = recorded s message now := by
  obtain ⟨sysid, compid, payload⟩ := message
  cases payload with
  | heartbeat fields => cases hbeat
  | batteryStatus battery =>
      simp only [dispatch, VehicleState.onBattery, VehicleState.updateBattery_eq, recorded, Sample.voltage,
        Sample.current, Sample.percent, elim_filter_some, elim_filter_const]
      rfl
  | sysStatus status =>
      simp only [dispatch, VehicleState.onSystemStatus_eq, VehicleState.updateBattery_eq, recorded,
        Sample.voltage, Sample.current, Sample.percent, elim_filter_some, elim_filter_const]
      rfl
  | autopilotVersion version =>
      have hfirst : (compid != kMavCompIdAutopilot1) = false := by simpa using hcompid
      simp only [dispatch, hfirst, Bool.false_eq_true, if_false]
      rfl
  | paramValue parameter =>
      by_cases hid : parameterId parameter = literal "BATT_ARM_VOLT"
      · simp only [dispatch, recorded, Sample.armingVoltage, hid, beq_self_eq_true, if_true]
        rfl
      · have hother : (parameterId parameter == literal "BATT_ARM_VOLT") = false := by simpa using hid
        simp only [dispatch, recorded, Sample.armingVoltage, hother, hid, Bool.false_eq_true, if_false]
        rfl
  | statustext status =>
      cases hkeep : VehicleState.keepsStatusText status.severity (statusText status) <;>
        simp only [dispatch, recorded, VehicleState.onStatusText, Sample.warning, hkeep] <;> rfl
  | _ => rfl

/-- Fields of the vehicle state that hold the last sample of one kind. -/
structure Register (ρ β : Type) where
  holds : VehicleState → ρ
  sample : MavlinkMessage → Option β
  stored : TimePoint → β → ρ
  Means : ρ → Option (TimePoint × β) → Prop

namespace Register

/-- A group of fields guarded by a time stamp. -/
def cell {ν β : Type} (stamp : VehicleState → Option TimePoint) (value : VehicleState → ν)
    (encode : β → ν) (sample : MavlinkMessage → Option β) : Register (Option TimePoint × ν) β :=
  { holds := fun s => (stamp s, value s)
    sample := sample
    stored := fun t b => (some t, encode b)
    Means := fun held last => Remembers encode held.1 held.2 last }

/-- A field without a time stamp of its own. -/
def latch {ν β : Type} (value : VehicleState → Option ν) (encode : β → ν)
    (sample : MavlinkMessage → Option β) : Register (Option ν) β :=
  { holds := value
    sample := sample
    stored := fun _ b => some (encode b)
    Means := fun held last => held = last.map fun s => encode s.2 }

/-- How the operations treat a register. -/
structure Lawful {ρ β : Type} (r : Register ρ β) : Prop where
  means_stored : ∀ t b, r.Means (r.stored t b) (some (t, b))
  initial : r.Means (r.holds {}) none
  reset : ∀ s : VehicleState, r.Means (r.holds s.resetTelemetry) none
  erase : ∀ (s : VehicleState) now, r.holds (s.eraseOldWarnings now) = r.holds s
  heartbeat : ∀ (s : VehicleState) systemId componentId vehicleType autopilotType baseMode customMode
    systemStatus now,
    r.holds (s.onHeartbeat systemId componentId vehicleType autopilotType baseMode customMode systemStatus
      now) =
      r.holds (if s.reconnecting now || s.controllerChanged systemId componentId then s.resetTelemetry
        else s)
  silent : ∀ sysid compid fields, r.sample ⟨sysid, compid, .heartbeat fields⟩ = none
  update : ∀ s message now,
    r.holds (recorded s message now) = (r.sample message).elim (r.holds s) (r.stored now)

def gps : Register (Option TimePoint × Option UInt8 × Option UInt8) GpsRawInt :=
  cell VehicleState.lastGps (fun s => (s.gpsFixType, s.satellitesVisible))
    (fun gps => (some gps.fixType, some gps.satellitesVisible)) Sample.gps

def relativeAltitude : Register (Option TimePoint × Option Binary64) Binary64 :=
  cell VehicleState.lastGlobalPosition VehicleState.relativeAltitudeM some Sample.relativeAltitude

def localPosition :
    Register (Option TimePoint × Option Binary64 × Option Binary64 × Option Binary64) LocalPositionNed :=
  cell VehicleState.lastLocalPosition (fun s => (s.localNorthM, s.localEastM, s.localDownM))
    (fun position => (some position.x, some position.y, some position.z)) Sample.localPosition

def attitude : Register (Option TimePoint × Option Binary64 × Option Binary64 × Option Binary64 ×
    Option Binary64) Attitude :=
  cell VehicleState.lastAttitude (fun s => (s.rollRad, s.pitchRad, s.yawRad, s.yawRateRadPerSecond))
    (fun attitude => (some attitude.roll, some attitude.pitch, some attitude.yaw, some attitude.yawspeed))
    Sample.attitude

def voltage : Register (Option TimePoint × Option Binary64) Binary64 :=
  cell VehicleState.lastBatteryVoltage VehicleState.batteryVoltageV some Sample.voltage

def current : Register (Option TimePoint × Option Binary64) Binary64 :=
  cell VehicleState.lastBatteryCurrent VehicleState.batteryCurrentA some Sample.current

def percent : Register (Option TimePoint × Option Int8) Int8 :=
  cell VehicleState.lastBatteryRemaining VehicleState.batteryRemainingPct some Sample.percent

def systemStatus : Register (Option TimePoint × UInt32 × UInt32) SysStatus :=
  cell VehicleState.lastSystemStatus (fun s => (s.sensorsEnabled, s.sensorsHealthy))
    (fun status => (status.onboardControlSensorsEnabled, status.onboardControlSensorsHealth))
    Sample.systemStatus

def armingVoltage : Register (Option Binary64) Binary64 :=
  latch VehicleState.batteryArmingVoltageV Binary64.zero.max Sample.armingVoltage

def metadata : Register (Option AutopilotMetadata) AutopilotMetadata :=
  latch VehicleState.autopilotMetadata id Sample.metadata

/-! ### The registers are lawful -/

theorem gps_lawful : gps.Lawful where
  means_stored _ _ := Remembers.stored _ _
  initial := Remembers.cleared _
  reset _ := Remembers.cleared _
  erase _ _ := rfl
  heartbeat _ _ _ _ _ _ _ _ _ := rfl
  silent _ _ _ := rfl
  update s message now := by
    simp only [gps, cell, recorded]
    cases Sample.gps message <;> rfl

theorem relativeAltitude_lawful : relativeAltitude.Lawful where
  means_stored _ _ := Remembers.stored _ _
  initial := Remembers.cleared _
  reset _ := Remembers.cleared _
  erase _ _ := rfl
  heartbeat _ _ _ _ _ _ _ _ _ := rfl
  silent _ _ _ := rfl
  update s message now := by
    simp only [relativeAltitude, cell, recorded]
    cases Sample.relativeAltitude message <;> rfl

theorem localPosition_lawful : localPosition.Lawful where
  means_stored _ _ := Remembers.stored _ _
  initial := Remembers.cleared _
  reset _ := Remembers.cleared _
  erase _ _ := rfl
  heartbeat _ _ _ _ _ _ _ _ _ := rfl
  silent _ _ _ := rfl
  update s message now := by
    simp only [localPosition, cell, recorded]
    cases Sample.localPosition message <;> rfl

theorem attitude_lawful : attitude.Lawful where
  means_stored _ _ := Remembers.stored _ _
  initial := Remembers.cleared _
  reset _ := Remembers.cleared _
  erase _ _ := rfl
  heartbeat _ _ _ _ _ _ _ _ _ := rfl
  silent _ _ _ := rfl
  update s message now := by
    simp only [attitude, cell, recorded]
    cases Sample.attitude message <;> rfl

theorem voltage_lawful : voltage.Lawful where
  means_stored _ _ := Remembers.stored _ _
  initial := Remembers.cleared _
  reset _ := Remembers.cleared _
  erase _ _ := rfl
  heartbeat _ _ _ _ _ _ _ _ _ := rfl
  silent _ _ _ := rfl
  update s message now := by
    simp only [voltage, cell, recorded]
    cases Sample.voltage message <;> rfl

theorem current_lawful : current.Lawful where
  means_stored _ _ := Remembers.stored _ _
  initial := Remembers.cleared _
  reset _ := Remembers.cleared _
  erase _ _ := rfl
  heartbeat _ _ _ _ _ _ _ _ _ := rfl
  silent _ _ _ := rfl
  update s message now := by
    simp only [current, cell, recorded]
    cases Sample.current message <;> rfl

theorem percent_lawful : percent.Lawful where
  means_stored _ _ := Remembers.stored _ _
  initial := Remembers.cleared _
  reset _ := Remembers.cleared _
  erase _ _ := rfl
  heartbeat _ _ _ _ _ _ _ _ _ := rfl
  silent _ _ _ := rfl
  update s message now := by
    simp only [percent, cell, recorded]
    cases Sample.percent message <;> rfl

theorem systemStatus_lawful : systemStatus.Lawful where
  means_stored _ _ := Remembers.stored _ _
  initial := Remembers.cleared _
  reset _ := Remembers.cleared _
  erase _ _ := rfl
  heartbeat _ _ _ _ _ _ _ _ _ := rfl
  silent _ _ _ := rfl
  update s message now := by
    simp only [systemStatus, cell, recorded]
    cases Sample.systemStatus message <;> rfl

theorem armingVoltage_lawful : armingVoltage.Lawful where
  means_stored _ _ := rfl
  initial := rfl
  reset _ := rfl
  erase _ _ := rfl
  heartbeat _ _ _ _ _ _ _ _ _ := rfl
  silent _ _ _ := rfl
  update _ _ _ := rfl

theorem metadata_lawful : metadata.Lawful where
  means_stored _ _ := rfl
  initial := rfl
  reset _ := rfl
  erase _ _ := rfl
  heartbeat _ _ _ _ _ _ _ _ _ := rfl
  silent _ _ _ := rfl
  update _ _ _ := rfl

end Register

/-! ### The refinement relation -/

/-- The identity fields as a heartbeat gives them. -/
def identityFields (s : VehicleState) :
    Option UInt8 × Option UInt8 × Option UInt8 × Option UInt32 × Bool :=
  (s.vehicleType, s.autopilotType, s.systemStatus, s.flightMode, s.armed)

def heartbeatFields (heartbeat : Heartbeat) :
    Option UInt8 × Option UInt8 × Option UInt8 × Option UInt32 × Bool :=
  (some heartbeat.type, some heartbeat.autopilot, some heartbeat.systemStatus, some heartbeat.customMode,
    (heartbeat.baseMode &&& kMavModeFlagSafetyArmed) != 0)

/-- The vehicle state holds exactly what a session's log says, up to warnings that have expired. -/
structure Tracks (s : VehicleState) (session : Session) (now : TimePoint) : Prop where
  systemId : s.systemId = some session.controller.1
  componentId : s.componentId = some session.controller.2
  heartbeat : Remembers heartbeatFields s.lastHeartbeat (identityFields s) (session.last Sample.heartbeat)
  registers : ∀ {ρ β : Type} (r : Register ρ β), r.Lawful → r.Means (r.holds s) (session.last r.sample)
  warnings : Retains kWarningTimeout now Sample.warning (s.warnings.map WarningEntry.stamped) session.log

/-- Before any session the vehicle state is fresh. -/
def Refines (s : VehicleState) (session : Option Session) (now : TimePoint) : Prop :=
  match session with
  | none => s = {}
  | some session => Tracks s session now

namespace Tracks

variable {s : VehicleState} {session : Session} {now : TimePoint}

theorem later (h : Tracks s session now) {now' : TimePoint} (hle : now ≤ now') : Tracks s session now' :=
  ⟨h.systemId, h.componentId, h.heartbeat, h.registers, h.warnings.later hle⟩

theorem erase (h : Tracks s session now) : Tracks (s.eraseOldWarnings now) session now := by
  refine ⟨h.systemId, h.componentId, h.heartbeat, fun r hr => ?_, ?_⟩
  · rw [hr.erase]
    exact h.registers r hr
  · rw [VehicleState.eraseOldWarnings_stamped]
    exact h.warnings.purge

/-- The snapshot reports a connection exactly while the session is alive. -/
theorem connected (h : Tracks s session now) (at' : TimePoint) :
    isFresh s.lastHeartbeat at' kHeartbeatTimeout = session.alive at' :=
  h.heartbeat.fresh kHeartbeatTimeout at'

theorem reconnecting (h : Tracks s session now) (at' : TimePoint) :
    s.reconnecting at' = !session.alive at' := by
  have hsome : s.lastHeartbeat.isSome = true := by
    rw [h.heartbeat.stamp_eq, Option.isSome_map]
    exact session.last_heartbeat_isSome
  rw [VehicleState.reconnecting, h.connected, hsome, Bool.true_and]

theorem selected (h : Tracks s session now) (message : MavlinkMessage) :
    MavlinkDecoder.selected s message = true ↔ message.source = session.controller := by
  rw [MavlinkDecoder.selected, h.systemId, h.componentId]
  simp [MavlinkMessage.source, Prod.ext_iff]

/-- A heartbeat that clears the telemetry starts a session. -/
theorem opening {s : VehicleState} {message : MavlinkMessage} {fields : Heartbeat} {now : TimePoint}
    (hfields : message.payload = .heartbeat fields) (hselects : selectsController message = true)
    (hkept : (if s.reconnecting now || s.controllerChanged message.sysid message.compid then
      s.resetTelemetry else s) = s.resetTelemetry) :
    Tracks (s.onHeartbeat message.sysid message.compid fields.type fields.autopilot fields.baseMode
      fields.customMode fields.systemStatus now) (Session.start (now, message) hselects) now := by
  have hbeat : Sample.heartbeat message = some fields := by rw [Sample.heartbeat, hfields]
  refine ⟨rfl, rfl, ?_, fun r hr => ?_, ?_⟩
  · rw [Session.last, Session.log_start, ← List.nil_append [(now, message)],
      lastSample_concat_some [] now hbeat]
    exact Remembers.stored now fields
  · rw [hr.heartbeat, hkept, Session.last, Session.log_start,
      lastSample_singleton_none now (by obtain ⟨_, _, _⟩ := message; cases hfields; exact hr.silent _ _ _)]
    exact hr.reset s
  · have hsilent : Sample.warning message = none := by rw [Sample.warning, hfields]
    have hwarnings : (s.onHeartbeat message.sysid message.compid fields.type fields.autopilot
        fields.baseMode fields.customMode fields.systemStatus now).warnings = [] := by
      rw [VehicleState.onHeartbeat_eq, hkept]
      rfl
    rw [hwarnings]
    apply Retains.empty
    intro text
    rw [Session.log_start, ← List.nil_append [(now, message)],
      lastSeen_concat_other [] now (by rw [hsilent]; exact nofun)]
    rfl

/-- A repeated heartbeat of the controller replaces the identity and keeps the telemetry. -/
theorem repeated (h : Tracks s session now) {message : MavlinkMessage} {fields : Heartbeat}
    (hfields : message.payload = .heartbeat fields) (hsource : message.source = session.controller)
    (halive : session.alive now = true) :
    Tracks (s.onHeartbeat message.sysid message.compid fields.type fields.autopilot fields.baseMode
      fields.customMode fields.systemStatus now) (session.extend (now, message) hsource) now := by
  have hbeat : Sample.heartbeat message = some fields := by rw [Sample.heartbeat, hfields]
  have hsysid : message.sysid = session.controller.1 := congrArg Prod.fst hsource
  have hcompid : message.compid = session.controller.2 := congrArg Prod.snd hsource
  have hkept : (if s.reconnecting now || s.controllerChanged message.sysid message.compid then
      s.resetTelemetry else s) = s := by
    rw [h.reconnecting, halive, VehicleState.controllerChanged, h.systemId, h.componentId, hsysid, hcompid]
    simp
  refine ⟨?_, ?_, ?_, fun r hr => ?_, ?_⟩
  · exact congrArg some hsysid
  · exact congrArg some hcompid
  · rw [Session.last, Session.log_extend, lastSample_concat_some session.log now hbeat]
    exact Remembers.stored now fields
  · rw [hr.heartbeat, hkept, Session.last, Session.log_extend,
      lastSample_concat_none session.log now
        (by obtain ⟨_, _, _⟩ := message; cases hfields; exact hr.silent _ _ _)]
    exact h.registers r hr
  · rw [VehicleState.onHeartbeat_eq, hkept, Session.log_extend]
    exact h.warnings.skip now (by rw [Sample.warning, hfields])

/-- A telemetry message of the controller is recorded. -/
theorem telemetry (h : Tracks s session now) {message : MavlinkMessage}
    (hbeat : Sample.heartbeat message = none) (hsource : message.source = session.controller) :
    Tracks (dispatch s message now).1 (session.extend (now, message) hsource) now := by
  have hcompid : message.compid = kMavCompIdAutopilot1 :=
    (congrArg Prod.snd hsource).trans session.controller_compid
  rw [dispatch_eq_recorded s now hbeat hcompid]
  refine ⟨h.systemId, h.componentId, ?_, fun r hr => ?_, ?_⟩
  · rw [Session.last, Session.log_extend, lastSample_concat_none session.log now hbeat]
    exact h.heartbeat
  · rw [hr.update, Session.last, Session.log_extend]
    cases hsample : r.sample message with
    | none =>
        rw [lastSample_concat_none session.log now hsample]
        exact h.registers r hr
    | some b =>
        rw [lastSample_concat_some session.log now hsample]
        exact hr.means_stored now b
  · rw [Session.log_extend, recorded]
    cases hsample : Sample.warning message with
    | none => exact h.warnings.skip now hsample
    | some text =>
        simp only [Option.elim, VehicleState.rememberWarning_stamped]
        exact h.warnings.touch hsample

end Tracks

/-! ### Steps and runs -/

theorem selectsController_iff (message : MavlinkMessage) (fields : Heartbeat)
    (h : message.payload = .heartbeat fields) :
    selectsController message = autopilotHeartbeat message fields := by
  rw [selectsController, Sample.heartbeat, h, autopilotHeartbeat, Option.any_some, Bool.not_or]
  simp [bne]

theorem Refines.heartbeat {s : VehicleState} {session : Option Session} {now : TimePoint}
    (h : Refines s session now) {message : MavlinkMessage} {fields : Heartbeat}
    (hfields : message.payload = .heartbeat fields) :
    Refines (handleHeartbeat s message fields now) (advance session (now, message)) now := by
  have hbeat : Sample.heartbeat message = some fields := by rw [Sample.heartbeat, hfields]
  have hselects := selectsController_iff message fields hfields
  rw [handleHeartbeat_eq]
  by_cases hauto : autopilotHeartbeat message fields = true
  · rw [if_pos hauto]
    rw [hauto] at hselects
    cases session with
    | none =>
        cases h
        have hopens : Opens none (now, message) :=
          ⟨hselects, fun _ hno => absurd hno.symm (Option.some_ne_none _)⟩
        rw [advance_of_opens hopens]
        exact Tracks.opening hfields hselects rfl
    | some session =>
        have herase : Tracks (s.eraseOldWarnings now) session now := Tracks.erase h
        rw [Tracks.connected h]
        cases halive : session.alive now with
        | false =>
            rw [advance_of_opens ⟨hselects, fun running hrunning => by cases hrunning; exact halive⟩]
            apply Tracks.opening hfields hselects
            rw [herase.reconnecting, halive]
            rfl
        | true =>
            by_cases hown : message.source = session.controller
            · rw [advance_extend halive hown (by rw [Session.admits, hselects, Bool.or_true]),
                (Tracks.selected h message).mpr hown]
              exact herase.repeated hfields hown halive
            · rw [advance_foreign halive hown,
                Bool.eq_false_iff.mpr (mt (Tracks.selected h message).mp hown)]
              exact herase
  · rw [if_neg hauto]
    rw [Bool.eq_false_iff.mpr hauto] at hselects
    have hadmits : Session.admits message = false := by
      rw [Session.admits, hselects, hbeat]
      rfl
    rw [advance_ignored hselects hadmits]
    exact h

theorem Refines.other {s : VehicleState} {session : Option Session} {now : TimePoint}
    (h : Refines s session now) {message : MavlinkMessage} (hother : isHeartbeat message = false) :
    Refines (handleMessage s message now).1 (advance session (now, message)) now := by
  have hbeat : Sample.heartbeat message = none := by
    obtain ⟨_, _, payload⟩ := message
    cases payload <;> first | rfl | cases hother
  have hselects : selectsController message = false := by
    rw [selectsController, hbeat]
    rfl
  rw [handleMessage_other s now hother]
  cases session with
  | none =>
      cases h
      have hdead : ∀ running, none = some running → Session.alive running now = false :=
        fun _ hno => absurd hno.symm (Option.some_ne_none _)
      rw [advance_outside hselects hdead]
      rfl
  | some session =>
      have herase : Tracks (s.eraseOldWarnings now) session now := Tracks.erase h
      rw [Tracks.connected h]
      cases halive : session.alive now with
      | false =>
          rw [advance_outside hselects (fun running hrunning => by cases hrunning; exact halive)]
          exact herase
      | true =>
          by_cases hown : message.source = session.controller
          · rw [advance_extend halive hown (by rw [Session.admits, hbeat]; rfl),
              (Tracks.selected h message).mpr hown]
            exact herase.telemetry hbeat hown
          · rw [advance_foreign halive hown,
              Bool.eq_false_iff.mpr (mt (Tracks.selected h message).mp hown)]
            exact herase

/-- One handled message: the vehicle state keeps standing for the session. -/
theorem Refines.step {s : VehicleState} {session : Option Session} {now : TimePoint}
    (h : Refines s session now) (message : MavlinkMessage) :
    Refines (handleMessage s message now).1 (advance session (now, message)) now := by
  cases hbeat : isHeartbeat message with
  | false => exact h.other hbeat
  | true =>
      obtain ⟨sysid, compid, payload⟩ := message
      cases payload with
      | heartbeat fields =>
          rw [handleMessage_heartbeat s now rfl]
          exact h.heartbeat rfl
      | _ => cases hbeat

theorem Refines.later {s : VehicleState} {session : Option Session} {now now' : TimePoint}
    (h : Refines s session now) (hle : now ≤ now') : Refines s session now' := by
  cases session with
  | none => exact h
  | some session => exact Tracks.later h hle

/-- The vehicle state after a history of handled messages. -/
def runDecoder (history : List Reception) : VehicleState :=
  history.foldl (fun state entry => (handleMessage state entry.2 entry.1).1) {}

/-- The handling times do not decrease and the query comes no earlier than any of them. -/
def Ordered (history : List Reception) (now : TimePoint) : Prop :=
  (history.map Prod.fst ++ [now]).Pairwise (· ≤ ·)

instance (history : List Reception) (now : TimePoint) : Decidable (Ordered history now) :=
  inferInstanceAs (Decidable (List.Pairwise _ _))

theorem Ordered.concat {history : List Reception} {entry : Reception} {now : TimePoint} :
    Ordered (history ++ [entry]) now ↔ Ordered history entry.1 ∧ entry.1 ≤ now := by
  rw [Ordered, Ordered, List.map_append, List.map_singleton, List.pairwise_append]
  constructor
  · rintro ⟨hbefore, _, hall⟩
    exact ⟨hbefore, hall entry.1 (by simp) now (by simp)⟩
  · rintro ⟨hbefore, hle⟩
    refine ⟨hbefore, List.pairwise_singleton _ _, fun t ht u hu => ?_⟩
    rw [List.mem_singleton.mp hu]
    rcases List.mem_append.mp ht with hin | hlast
    · exact ((List.pairwise_append.mp hbefore).2.2 t hin entry.1 (by simp)).trans hle
    · rw [List.mem_singleton.mp hlast]
      exact hle

/-- Every run of the decoder stands for the session of its history. -/
theorem runDecoder_refines {history : List Reception} {now : TimePoint} (h : Ordered history now) :
    Refines (runDecoder history) (currentSession history) now := by
  induction history using List.reverseRecOn generalizing now with
  | nil => rfl
  | append_singleton history entry ih =>
      obtain ⟨hbefore, hle⟩ := Ordered.concat.mp h
      rw [currentSession_concat, runDecoder, List.foldl_append]
      exact ((ih hbefore).step entry.2).later hle

end OnboardAutonomy
