import OnboardAutonomy.SessionRefinement

/-! Session isolation: every field of a connected snapshot is the last sample of its kind in the log of
the current session, under the timeout of that field, and nothing else is shown. -/

namespace OnboardAutonomy

open TimedLog

namespace Tracks

variable {s : VehicleState} {session : Session} {now : TimePoint}

/-- Reading a field of a cell while its stamp is fresh. -/
theorem read {ν β γ : Type} (h : Tracks s session now) {stamp : VehicleState → Option TimePoint}
    {value : VehicleState → ν} {encode : β → ν} {sample : MavlinkMessage → Option β}
    (hr : (Register.cell stamp value encode sample).Lawful) (limit : Int) (field : ν → Option γ) (g : β → γ)
    (hfield : ∀ b, field (encode b) = some (g b)) :
    (if isFresh (stamp s) now limit then field (value s) else none) =
      (freshSample limit now (session.last sample)).map g :=
  (h.registers (Register.cell stamp value encode sample) hr).read limit now field g hfield

/-- A cell of a single value shows the fresh sample itself. -/
theorem readValue {β : Type} (h : Tracks s session now) {stamp : VehicleState → Option TimePoint}
    {value : VehicleState → Option β} {sample : MavlinkMessage → Option β}
    (hr : (Register.cell stamp value some sample).Lawful) (limit : Int) :
    (if isFresh (stamp s) now limit then value s else none) =
      freshSample limit now (session.last sample) := by
  have hread := h.read hr limit id id fun _ => rfl
  rwa [Option.map_id_apply] at hread

theorem armingVoltage (h : Tracks s session now) : s.batteryArmingVoltageV =
    (session.last Sample.armingVoltage).map fun threshold => Binary64.zero.max threshold.2 :=
  h.registers Register.armingVoltage Register.armingVoltage_lawful

theorem metadata (h : Tracks s session now) :
    s.autopilotMetadata = (session.last Sample.metadata).map Prod.snd :=
  h.registers Register.metadata Register.metadata_lawful

theorem voltageFresh (h : Tracks s session now) : isFresh s.lastBatteryVoltage now kBatteryTimeout =
    (freshSample kBatteryTimeout now (session.last Sample.voltage)).isSome :=
  (h.registers Register.voltage Register.voltage_lawful).fresh kBatteryTimeout now

/-- The arming threshold is shown only beside a fresh voltage. -/
theorem readArmingVoltage (h : Tracks s session now) :
    (if isFresh s.lastBatteryVoltage now kBatteryTimeout then s.batteryArmingVoltageV else none) =
      (freshSample kBatteryTimeout now (session.last Sample.voltage)).bind fun _ =>
        (session.last Sample.armingVoltage).map fun threshold => Binary64.zero.max threshold.2 := by
  rw [h.voltageFresh, h.armingVoltage]
  cases freshSample kBatteryTimeout now (session.last Sample.voltage) <;> rfl

theorem systemStatusFresh (h : Tracks s session now) : isFresh s.lastSystemStatus now kSystemStatusTimeout =
    (freshSample kSystemStatusTimeout now (session.last Sample.systemStatus)).isSome :=
  (h.registers Register.systemStatus Register.systemStatus_lawful).fresh kSystemStatusTimeout now

/-- Testing a cell while its stamp is fresh. -/
theorem test {ν β : Type} (h : Tracks s session now) {stamp : VehicleState → Option TimePoint}
    {value : VehicleState → ν} {encode : β → ν} {sample : MavlinkMessage → Option β}
    (hr : (Register.cell stamp value encode sample).Lawful) (limit : Int) (p : ν → Bool) (q : β → Bool)
    (hpq : ∀ b, p (encode b) = q b) :
    (isFresh (stamp s) now limit && p (value s)) = (freshSample limit now (session.last sample)).any q :=
  (h.registers (Register.cell stamp value encode sample) hr).test limit now p q hpq

theorem mem_warnings (h : Tracks s session now) (text : Bytes) :
    text ∈ (s.eraseOldWarnings now).warnings.map WarningEntry.text ↔
      ∃ t, lastSeen Sample.warning text session.log = some t ∧ now - t ≤ kWarningTimeout := by
  have hkeys : (s.eraseOldWarnings now).warnings.map WarningEntry.text =
      (purge kWarningTimeout now (s.warnings.map WarningEntry.stamped)).map Prod.fst := by
    rw [← VehicleState.eraseOldWarnings_stamped, List.map_map]
    rfl
  rw [hkeys, List.mem_map]
  constructor
  · rintro ⟨⟨_, t⟩, hmem, rfl⟩
    exact ⟨t, (h.warnings.mem_purge_iff _ t).mp hmem⟩
  · rintro ⟨t, hseen⟩
    exact ⟨(text, t), (h.warnings.mem_purge_iff text t).mpr hseen, rfl⟩

theorem warnings_nodup (h : Tracks s session now) : (s.warnings.map WarningEntry.text).Nodup := by
  have hnodup := h.warnings.nodup
  rw [List.map_map] at hnodup
  exact hnodup

end Tracks

/-- What a connected snapshot says, in terms of the session's log only. -/
structure Reported (session : Session) (now : TimePoint) (vehicle : VehicleSnapshot) : Prop where
  systemId : vehicle.systemId = some session.controller.1
  componentId : vehicle.componentId = some session.controller.2
  sources : ∀ e ∈ session.log,
    some e.2.sysid = vehicle.systemId ∧ some e.2.compid = vehicle.componentId
  gpsFixType : vehicle.gpsFixType =
    (freshSample kGpsTimeout now (session.last Sample.gps)).map GpsRawInt.fixType
  satellitesVisible : vehicle.satellitesVisible =
    (freshSample kGpsTimeout now (session.last Sample.gps)).map GpsRawInt.satellitesVisible
  relativeAltitudeM : vehicle.relativeAltitudeM =
    freshSample kGlobalPositionTimeout now (session.last Sample.relativeAltitude)
  localNorthM : vehicle.localNorthM =
    (freshSample kLocalPositionTimeout now (session.last Sample.localPosition)).map LocalPositionNed.x
  localEastM : vehicle.localEastM =
    (freshSample kLocalPositionTimeout now (session.last Sample.localPosition)).map LocalPositionNed.y
  localDownM : vehicle.localDownM =
    (freshSample kLocalPositionTimeout now (session.last Sample.localPosition)).map LocalPositionNed.z
  rollRad : vehicle.rollRad =
    (freshSample kAttitudeTimeout now (session.last Sample.attitude)).map Attitude.roll
  pitchRad : vehicle.pitchRad =
    (freshSample kAttitudeTimeout now (session.last Sample.attitude)).map Attitude.pitch
  yawRad : vehicle.yawRad =
    (freshSample kAttitudeTimeout now (session.last Sample.attitude)).map Attitude.yaw
  yawRateRadPerSecond : vehicle.yawRateRadPerSecond =
    (freshSample kAttitudeTimeout now (session.last Sample.attitude)).map Attitude.yawspeed
  batteryVoltageV : vehicle.batteryVoltageV =
    freshSample kBatteryTimeout now (session.last Sample.voltage)
  batteryCurrentA : vehicle.batteryCurrentA =
    freshSample kBatteryTimeout now (session.last Sample.current)
  batteryRemainingPct : vehicle.batteryRemainingPct =
    freshSample kBatteryTimeout now (session.last Sample.percent)
  batteryArmingVoltageV : vehicle.batteryArmingVoltageV =
    (freshSample kBatteryTimeout now (session.last Sample.voltage)).bind fun _ =>
      (session.last Sample.armingVoltage).map fun threshold => Binary64.zero.max threshold.2
  systemHealthKnown : vehicle.systemHealthKnown =
    (freshSample kSystemStatusTimeout now (session.last Sample.systemStatus)).isSome
  systemHealthOk : vehicle.systemHealthOk =
    (freshSample kSystemStatusTimeout now (session.last Sample.systemStatus)).any fun status =>
      (status.onboardControlSensorsEnabled &&& ~~~status.onboardControlSensorsHealth) == 0
  autopilotMetadata : vehicle.autopilotMetadata = (session.last Sample.metadata).map Prod.snd
  warnings_nodup : vehicle.warnings.Nodup
  warnings : ∀ text, text ∈ vehicle.warnings ↔
    ∃ t, lastSeen Sample.warning text session.log = some t ∧ now - t ≤ kWarningTimeout

/-- A state that stands for a session reports that session. -/
theorem Tracks.reported {s : VehicleState} {session : Session} {now : TimePoint}
    (h : Tracks s session now) (halive : session.alive now = true) :
    Reported session now (s.snapshot now).2 := by
  have herase : Tracks (s.eraseOldWarnings now) session now := h.erase
  have hfresh : isFresh (s.eraseOldWarnings now).lastHeartbeat now kHeartbeatTimeout = true := by
    rw [herase.connected, halive]
  rw [VehicleState.snapshot, VehicleState.observe_of_connected hfresh]
  constructor
  case systemId => exact herase.systemId
  case componentId => exact herase.componentId
  case sources =>
    intro e hmem
    have hsource := session.log_source e hmem
    exact ⟨(congrArg (some ∘ Prod.fst) hsource).trans herase.systemId.symm,
      (congrArg (some ∘ Prod.snd) hsource).trans herase.componentId.symm⟩
  case gpsFixType => exact herase.read Register.gps_lawful kGpsTimeout Prod.fst _ fun _ => rfl
  case satellitesVisible => exact herase.read Register.gps_lawful kGpsTimeout Prod.snd _ fun _ => rfl
  case relativeAltitudeM =>
    exact herase.readValue Register.relativeAltitude_lawful kGlobalPositionTimeout
  case localNorthM =>
    exact herase.read Register.localPosition_lawful kLocalPositionTimeout Prod.fst _ fun _ => rfl
  case localEastM =>
    exact herase.read Register.localPosition_lawful kLocalPositionTimeout (fun p => p.2.1) _ fun _ => rfl
  case localDownM =>
    exact herase.read Register.localPosition_lawful kLocalPositionTimeout (fun p => p.2.2) _ fun _ => rfl
  case rollRad => exact herase.read Register.attitude_lawful kAttitudeTimeout Prod.fst _ fun _ => rfl
  case pitchRad => exact herase.read Register.attitude_lawful kAttitudeTimeout (fun a => a.2.1) _ fun _ => rfl
  case yawRad => exact herase.read Register.attitude_lawful kAttitudeTimeout (fun a => a.2.2.1) _ fun _ => rfl
  case yawRateRadPerSecond =>
    exact herase.read Register.attitude_lawful kAttitudeTimeout (fun a => a.2.2.2) _ fun _ => rfl
  case batteryVoltageV => exact herase.readValue Register.voltage_lawful kBatteryTimeout
  case batteryCurrentA => exact herase.readValue Register.current_lawful kBatteryTimeout
  case batteryRemainingPct => exact herase.readValue Register.percent_lawful kBatteryTimeout
  case batteryArmingVoltageV => exact herase.readArmingVoltage
  case systemHealthKnown => exact herase.systemStatusFresh
  case systemHealthOk =>
    exact herase.test Register.systemStatus_lawful kSystemStatusTimeout
      (fun words => (words.1 &&& ~~~words.2) == 0) _ fun _ => rfl
  case autopilotMetadata => exact herase.metadata
  case warnings_nodup => exact herase.warnings_nodup
  case warnings => exact h.mem_warnings

/-- Session isolation: a connected snapshot reports the session that the handled messages end in, which
began at the last message that opened one. -/
theorem snapshot_reports_session (history : List Reception) (now : TimePoint) (hordered : Ordered history now)
    (hconnected : ((runDecoder history).snapshot now).2.connected = true) :
    ∃ session, currentSession history = some session ∧ session.BeganIn history ∧
      Reported session now ((runDecoder history).snapshot now).2 := by
  have hrefines := runDecoder_refines hordered
  rw [VehicleState.snapshot, VehicleState.observe_connected] at hconnected
  cases hsession : currentSession history with
  | none =>
      rw [hsession] at hrefines
      rw [hrefines] at hconnected
      cases hconnected
  | some session =>
      rw [hsession] at hrefines
      have htracks : Tracks (runDecoder history) session now := hrefines
      have halive : session.alive now = true := (htracks.connected now).symm.trans hconnected
      exact ⟨session, rfl, currentSession_beganIn hsession, htracks.reported halive⟩

/-- A controller that is lost for four seconds and comes back, with a foreign position in between. -/
def reconnectHistory : List Reception :=
  [(0, ⟨1, 1, .heartbeat ⟨2, 3, 0, 0, 4⟩⟩),
    (seconds 1, ⟨1, 1, .gpsRawInt ⟨3, 11⟩⟩),
    (seconds 4, ⟨1, 1, .heartbeat ⟨2, 3, 0, 0, 4⟩⟩),
    (seconds 4, ⟨9, 1, .gpsRawInt ⟨3, 7⟩⟩)]

theorem reconnectHistory_reported :
    ∃ session, currentSession reconnectHistory = some session ∧ session.BeganIn reconnectHistory ∧
      Reported session (seconds 5) ((runDecoder reconnectHistory).snapshot (seconds 5)).2 :=
  snapshot_reports_session reconnectHistory (seconds 5) (by decide) (by decide)

end OnboardAutonomy
