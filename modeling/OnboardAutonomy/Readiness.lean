import OnboardAutonomy.SessionIsolation
import OnboardAutonomy.WordBits

/-! Readiness: the armable flag of a snapshot, stated over the log of the current session. -/

namespace OnboardAutonomy

open TimedLog

/-! ### Sensor words -/

theorem battery_flag (word : UInt32) : ((word &&& kBatterySensorFlag) != 0) = wordBit word 25 := by
  have hflag : ∀ i < 32, wordBit kBatterySensorFlag i = decide (i = 25) := by decide
  have hzero : word &&& kBatterySensorFlag = 0 ↔ wordBit word 25 = false := by
    rw [WordBits.and_eq_zero_iff]
    constructor
    · intro hall
      exact hall 25 (by decide)
    · intro hbit i hset
      have hi := hflag i (WordBits.lt_of_wordBit hset)
      rw [hset] at hi
      rw [of_decide_eq_true hi.symm]
      exact hbit
  cases hbit : wordBit word 25 with
  | false =>
      rw [hzero.mpr hbit]
      rfl
  | true =>
      apply bne_iff_ne.mpr
      intro h
      rw [hzero.mp h] at hbit
      cases hbit

/-! ### Fresh samples that pass a test -/

theorem freshSample_any_iff {β : Type} {limit now : TimePoint} {last : Option (TimePoint × β)}
    {p : β → Bool} : (freshSample limit now last).any p = true ↔
      ∃ t b, last = some (t, b) ∧ now - t ≤ limit ∧ p b = true := by
  rw [Option.any_eq_true]
  constructor
  · rintro ⟨b, hfresh, hp⟩
    obtain ⟨t, hlast, hle⟩ := freshSample_eq_some.mp hfresh
    exact ⟨t, b, hlast, hle, hp⟩
  · rintro ⟨t, b, hlast, hle, hp⟩
    exact ⟨b, freshSample_eq_some.mpr ⟨t, hlast, hle⟩, hp⟩

theorem VehicleState.telemetry_armable (s : VehicleState) (now : TimePoint) (result : VehicleSnapshot) :
    (s.telemetry now result).armable = true ↔
      (isFresh s.lastGps now kGpsTimeout && s.gpsFixType.any fun fix => decide (3 ≤ fix)) = true ∧
      (isFresh s.lastBatteryVoltage now kBatteryTimeout && s.voltageMeetsArmingThreshold) = true ∧
      s.batterySensorHealthy now = true ∧ s.hasBatteryWarning = false ∧
      ((if isFresh s.lastBatteryRemaining now kBatteryTimeout then s.batteryRemainingPct else none).all
        fun percent => decide (kMinimumBatteryPercent ≤ percent)) = true ∧
      (isFresh s.lastSystemStatus now kSystemStatusTimeout &&
        (s.sensorsEnabled &&& ~~~s.sensorsHealthy) == 0) = true ∧
      s.hasRecentWarning now = false := by
  simp only [VehicleState.telemetry, VehicleState.batteryReady, Bool.and_eq_true, Bool.not_eq_true',
    and_assoc]

/-! ### The predicate -/

/-- The voltage of a battery clears the arming threshold: the clamped threshold is off, or not above it. -/
def clearsThreshold (voltage threshold : Binary64) : Prop :=
  Binary64.zero.max threshold = .zero ∨ voltage.ge (Binary64.zero.max threshold) = true

/-- When a session makes the vehicle armable. -/
structure Ready (session : Session) (now : TimePoint) : Prop where
  heartbeat : ∃ t heartbeat, session.last Sample.heartbeat = some (t, heartbeat) ∧ now - t ≤ seconds 3
  gps : ∃ t gps, session.last Sample.gps = some (t, gps) ∧ now - t ≤ seconds 5 ∧ 3 ≤ gps.fixType
  voltage : ∃ t voltage, session.last Sample.voltage = some (t, voltage) ∧ now - t ≤ seconds 10 ∧
    ∃ u threshold, session.last Sample.armingVoltage = some (u, threshold) ∧
      clearsThreshold voltage threshold
  percent : ∀ t percent, session.last Sample.percent = some (t, percent) → now - t ≤ seconds 10 →
    20 ≤ percent
  sensors : ∃ t status, session.last Sample.systemStatus = some (t, status) ∧ now - t ≤ seconds 5 ∧
    wordBit status.onboardControlSensorsEnabled 25 = true ∧
    wordBit status.onboardControlSensorsHealth 25 = true ∧
    ∀ sensor, wordBit status.onboardControlSensorsEnabled sensor = true →
      wordBit status.onboardControlSensorsHealth sensor = true
  noBatteryWarning : ∀ text t, lastSeen Sample.warning text session.log = some t →
    now - t ≤ seconds 30 → containsBattery text = false
  noRecentWarning : ∀ text t, lastSeen Sample.warning text session.log = some t → seconds 5 < now - t

namespace Tracks

variable {s : VehicleState} {session : Session} {now : TimePoint}

theorem alive_iff (session : Session) (now : TimePoint) : session.alive now = true ↔
    ∃ t heartbeat, session.last Sample.heartbeat = some (t, heartbeat) ∧ now - t ≤ seconds 3 := by
  rw [Session.alive, Option.isSome_iff_exists]
  simp only [freshSample_eq_some]
  exact exists_comm

theorem gpsReady_iff (h : Tracks s session now) :
    (isFresh s.lastGps now kGpsTimeout && s.gpsFixType.any fun fix => decide (3 ≤ fix)) = true ↔
      ∃ t gps, session.last Sample.gps = some (t, gps) ∧ now - t ≤ seconds 5 ∧ 3 ≤ gps.fixType := by
  rw [h.test Register.gps_lawful kGpsTimeout (fun fields => fields.1.any fun fix => decide (3 ≤ fix))
    (fun gps => decide (3 ≤ gps.fixType)) fun _ => rfl, freshSample_any_iff]
  simp only [decide_eq_true_eq]
  rfl

theorem systemHealthOk_iff (h : Tracks s session now) :
    (isFresh s.lastSystemStatus now kSystemStatusTimeout &&
      (s.sensorsEnabled &&& ~~~s.sensorsHealthy) == 0) = true ↔
    ∃ t status, session.last Sample.systemStatus = some (t, status) ∧ now - t ≤ seconds 5 ∧
      ∀ sensor, wordBit status.onboardControlSensorsEnabled sensor = true →
        wordBit status.onboardControlSensorsHealth sensor = true := by
  rw [h.test Register.systemStatus_lawful kSystemStatusTimeout
    (fun words => (words.1 &&& ~~~words.2) == 0) _ fun _ => rfl, freshSample_any_iff]
  simp only [beq_iff_eq, WordBits.and_not_eq_zero_iff]
  rfl

theorem batterySensorHealthy_iff (h : Tracks s session now) : s.batterySensorHealthy now = true ↔
    ∃ t status, session.last Sample.systemStatus = some (t, status) ∧ now - t ≤ seconds 5 ∧
      wordBit status.onboardControlSensorsEnabled 25 = true ∧
      wordBit status.onboardControlSensorsHealth 25 = true := by
  rw [VehicleState.batterySensorHealthy, Bool.and_assoc, battery_flag, battery_flag,
    h.test Register.systemStatus_lawful kSystemStatusTimeout
      (fun words => wordBit words.1 25 && wordBit words.2 25) _ fun _ => rfl, freshSample_any_iff]
  simp only [Bool.and_eq_true]
  rfl

theorem voltageReady_iff (h : Tracks s session now) :
    (isFresh s.lastBatteryVoltage now kBatteryTimeout && s.voltageMeetsArmingThreshold) = true ↔
      ∃ t voltage, session.last Sample.voltage = some (t, voltage) ∧ now - t ≤ seconds 10 ∧
        ∃ u threshold, session.last Sample.armingVoltage = some (u, threshold) ∧
          clearsThreshold voltage threshold := by
  have hmeets : s.voltageMeetsArmingThreshold = s.batteryVoltageV.any fun voltage =>
      s.batteryArmingVoltageV.any fun threshold => threshold.eq .zero || voltage.ge threshold := by
    rw [VehicleState.voltageMeetsArmingThreshold]
    cases s.batteryVoltageV <;> cases s.batteryArmingVoltageV <;> rfl
  rw [hmeets, h.test Register.voltage_lawful kBatteryTimeout
    (fun held => held.any fun voltage =>
      s.batteryArmingVoltageV.any fun threshold => threshold.eq .zero || voltage.ge threshold)
    (fun voltage => s.batteryArmingVoltageV.any fun threshold => threshold.eq .zero || voltage.ge threshold)
    fun _ => rfl, freshSample_any_iff]
  refine exists₂_congr fun t voltage => and_congr_right fun _ => and_congr_right fun _ => ?_
  rw [h.armingVoltage, Option.any_map, Option.any_eq_true]
  simp only [Bool.or_eq_true, Binary64.eq_zero_iff, Prod.exists]
  rfl

theorem percentReady_iff (h : Tracks s session now) :
    ((if isFresh s.lastBatteryRemaining now kBatteryTimeout then s.batteryRemainingPct else none).all
      fun percent => decide (kMinimumBatteryPercent ≤ percent)) = true ↔
    ∀ t percent, session.last Sample.percent = some (t, percent) → now - t ≤ seconds 10 →
      20 ≤ percent := by
  rw [h.readValue Register.percent_lawful kBatteryTimeout, Option.all_eq_true]
  constructor
  · intro hall t percent hlast hle
    exact of_decide_eq_true (hall percent (freshSample_eq_some.mpr ⟨t, hlast, hle⟩))
  · intro hall percent hfresh
    obtain ⟨t, hlast, hle⟩ := freshSample_eq_some.mp hfresh
    exact decide_eq_true (hall t percent hlast hle)

/-- After the old warnings are gone, a test on the warnings is a test on the texts seen lately. -/
theorem warnings_any_iff (h : Tracks s session now) (p : Bytes → TimePoint → Bool) :
    ((s.eraseOldWarnings now).warnings.any fun warning => p warning.text warning.lastSeen) = true ↔
      ∃ text t, lastSeen Sample.warning text session.log = some t ∧ now - t ≤ kWarningTimeout ∧
        p text t = true := by
  have hstamped : ((s.eraseOldWarnings now).warnings.any fun warning => p warning.text warning.lastSeen) =
      ((s.eraseOldWarnings now).warnings.map WarningEntry.stamped).any fun e => p e.1 e.2 := by
    rw [List.any_map]
    rfl
  rw [hstamped, VehicleState.eraseOldWarnings_stamped, List.any_eq_true]
  constructor
  · rintro ⟨⟨text, t⟩, hmem, hp⟩
    obtain ⟨hseen, hle⟩ := (h.warnings.mem_purge_iff text t).mp hmem
    exact ⟨text, t, hseen, hle, hp⟩
  · rintro ⟨text, t, hseen, hle, hp⟩
    exact ⟨(text, t), (h.warnings.mem_purge_iff text t).mpr ⟨hseen, hle⟩, hp⟩

theorem hasBatteryWarning_iff (h : Tracks s session now) :
    (s.eraseOldWarnings now).hasBatteryWarning = false ↔
      ∀ text t, lastSeen Sample.warning text session.log = some t → now - t ≤ seconds 30 →
        containsBattery text = false := by
  have hany := h.warnings_any_iff fun text _ => containsBattery text
  rw [VehicleState.hasBatteryWarning, ← Bool.not_eq_true, hany]
  constructor
  · intro hno text t hseen hle
    exact Bool.eq_false_iff.mpr fun hbattery => hno ⟨text, t, hseen, hle, hbattery⟩
  · rintro hall ⟨text, t, hseen, hle, hbattery⟩
    rw [hall text t hseen hle] at hbattery
    cases hbattery

theorem hasRecentWarning_iff (h : Tracks s session now) :
    (s.eraseOldWarnings now).hasRecentWarning now = false ↔
      ∀ text t, lastSeen Sample.warning text session.log = some t → seconds 5 < now - t := by
  have hany := h.warnings_any_iff fun _ t => decide (now - t ≤ kBlockingWarningTimeout)
  rw [VehicleState.hasRecentWarning, ← Bool.not_eq_true, hany]
  constructor
  · intro hno text t hseen
    by_contra hle
    have hshort : now - t ≤ kBlockingWarningTimeout := not_lt.mp hle
    exact hno ⟨text, t, hseen, hshort.trans (by decide), decide_eq_true hshort⟩
  · rintro hall ⟨text, t, hseen, _, hshort⟩
    exact absurd (of_decide_eq_true hshort) (not_le.mpr (hall text t hseen))

/-- The armable flag is readiness of the session. -/
theorem armable_iff (h : Tracks s session now) : (s.snapshot now).2.armable = true ↔ Ready session now := by
  have herase : Tracks (s.eraseOldWarnings now) session now := h.erase
  cases hfresh : isFresh (s.eraseOldWarnings now).lastHeartbeat now kHeartbeatTimeout with
  | false =>
      rw [VehicleState.snapshot, VehicleState.observe_of_disconnected hfresh]
      rw [herase.connected] at hfresh
      constructor
      · intro harmable
        cases harmable
      · intro hready
        rw [(alive_iff session now).mpr hready.heartbeat] at hfresh
        cases hfresh
  | true =>
      rw [VehicleState.snapshot, VehicleState.observe_of_connected hfresh, VehicleState.telemetry_armable,
        herase.gpsReady_iff, herase.voltageReady_iff, herase.batterySensorHealthy_iff,
        h.hasBatteryWarning_iff, herase.percentReady_iff, herase.systemHealthOk_iff,
        h.hasRecentWarning_iff]
      rw [herase.connected, alive_iff] at hfresh
      constructor
      · rintro ⟨hgps, hvoltage, ⟨t, status, hlast, hle, hbattery⟩, hnone, hpercent,
          ⟨t', status', hlast', _, hhealthy⟩, hrecent⟩
        rw [hlast] at hlast'
        cases hlast'
        exact ⟨hfresh, hgps, hvoltage, hpercent,
          ⟨t, status, hlast, hle, hbattery.1, hbattery.2, hhealthy⟩, hnone, hrecent⟩
      · intro hready
        obtain ⟨t, status, hlast, hle, henabled, hhealth, hhealthy⟩ := hready.sensors
        exact ⟨hready.gps, hready.voltage, ⟨t, status, hlast, hle, henabled, hhealth⟩,
          hready.noBatteryWarning, hready.percent, ⟨t, status, hlast, hle, hhealthy⟩, hready.noRecentWarning⟩

end Tracks

/-- A flag of the snapshot that is off without a session, and says something about every session that the
state tracks, says it about the session of a history. -/
theorem flag_iff_currentSession (flag : VehicleSnapshot → Bool) (P : Session → Prop) {now : TimePoint}
    (hstart : flag (({} : VehicleState).snapshot now).2 = false)
    (htracks : ∀ {s : VehicleState} {session : Session}, Tracks s session now →
      (flag (s.snapshot now).2 = true ↔ P session))
    {history : List Reception} (hordered : Ordered history now) :
    flag ((runDecoder history).snapshot now).2 = true ↔
      ∃ session, currentSession history = some session ∧ P session := by
  have hrefines := runDecoder_refines hordered
  cases hsession : currentSession history with
  | none =>
      rw [hsession] at hrefines
      rw [hrefines, hstart]
      constructor
      · intro hflag
        cases hflag
      · rintro ⟨_, hnone, _⟩
        cases hnone
  | some session =>
      rw [hsession] at hrefines
      rw [htracks hrefines]
      constructor
      · intro h
        exact ⟨session, rfl, h⟩
      · rintro ⟨_, heq, h⟩
        cases heq
        exact h

/-- Readiness is exact over whole histories. -/
theorem armable_iff_ready (history : List Reception) (now : TimePoint) (hordered : Ordered history now) :
    ((runDecoder history).snapshot now).2.armable = true ↔
      ∃ session, currentSession history = some session ∧ Ready session now :=
  flag_iff_currentSession VehicleSnapshot.armable (Ready · now) rfl Tracks.armable_iff hordered

/-- A controller that reports a good fix, a charged battery and healthy sensors within two seconds. -/
def readyHistory : List Reception :=
  [(0, ⟨1, 1, .heartbeat ⟨2, 3, 0, 0, 4⟩⟩),
    (seconds 1, ⟨1, 1, .gpsRawInt ⟨3, 11⟩⟩),
    (seconds 1, ⟨1, 1, .paramValue ⟨literal "BATT_ARM_VOLT", .finite (21 / 2), 9⟩⟩),
    (seconds 1, ⟨9, 1, .gpsRawInt ⟨0, 0⟩⟩),
    (seconds 2, ⟨1, 1, .sysStatus ⟨0x02000000, 0x02000000, 12000, 150, 80⟩⟩)]

theorem readyHistory_ready :
    ∃ session, currentSession readyHistory = some session ∧ Ready session (seconds 3) :=
  (armable_iff_ready readyHistory (seconds 3) (by decide)).mp (by decide +kernel)

end OnboardAutonomy
