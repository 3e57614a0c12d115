import OnboardAutonomy.Readiness

/-! The battery gate of a snapshot, stated over the log of the current session, and its arming threshold.
BATT_ARM_VOLT may be any float. It goes through `std::max(0.0, v)`, which turns NaN and negative infinity
into 0, the value of a disabled threshold. -/

namespace OnboardAutonomy

open TimedLog

/-- What the battery gate asks of a session beside the threshold. -/
structure Powered (session : Session) (now : TimePoint) : Prop where
  heartbeat : ∃ t heartbeat, session.last Sample.heartbeat = some (t, heartbeat) ∧ now - t ≤ seconds 3
  voltage : ∃ t voltage, session.last Sample.voltage = some (t, voltage) ∧ now - t ≤ seconds 10
  percent : ∀ t percent, session.last Sample.percent = some (t, percent) → now - t ≤ seconds 10 →
    20 ≤ percent
  sensor : ∃ t status, session.last Sample.systemStatus = some (t, status) ∧ now - t ≤ seconds 5 ∧
    wordBit status.onboardControlSensorsEnabled 25 = true ∧
    wordBit status.onboardControlSensorsHealth 25 = true
  noBatteryWarning : ∀ text t, lastSeen Sample.warning text session.log = some t →
    now - t ≤ seconds 30 → containsBattery text = false

/-- The last voltage of a session clears its last threshold. -/
def ThresholdCleared (session : Session) : Prop :=
  ∃ t voltage u threshold, session.last Sample.voltage = some (t, voltage) ∧
    session.last Sample.armingVoltage = some (u, threshold) ∧ clearsThreshold voltage threshold

/-! ### The gate -/

theorem VehicleState.telemetry_batteryReady (s : VehicleState) (now : TimePoint)
    (result : VehicleSnapshot) : (s.telemetry now result).batteryReady = true ↔
      (isFresh s.lastBatteryVoltage now kBatteryTimeout && s.voltageMeetsArmingThreshold) = true ∧
      s.batterySensorHealthy now = true ∧ s.hasBatteryWarning = false ∧
      ((if isFresh s.lastBatteryRemaining now kBatteryTimeout then s.batteryRemainingPct else none).all
        fun percent => decide (kMinimumBatteryPercent ≤ percent)) = true := by
  simp only [VehicleState.telemetry, VehicleState.batteryReady, Bool.and_eq_true, Bool.not_eq_true',
    and_assoc]

theorem VehicleState.snapshot_armable {s : VehicleState} {now : TimePoint}
    (h : (s.snapshot now).2.batteryReady = false) : (s.snapshot now).2.armable = false := by
  cases hfresh : isFresh (s.eraseOldWarnings now).lastHeartbeat now kHeartbeatTimeout with
  | false =>
      rw [VehicleState.snapshot, VehicleState.observe_of_disconnected hfresh]
      rfl
  | true =>
      rw [VehicleState.snapshot, VehicleState.observe_of_connected hfresh] at h ⊢
      simp only [VehicleState.telemetry] at h ⊢
      rw [h, Bool.and_false, Bool.false_and, Bool.false_and]

/-- The battery flag is the battery gate of the session. -/
theorem Tracks.batteryReady_iff {s : VehicleState} {session : Session} {now : TimePoint}
    (h : Tracks s session now) :
    (s.snapshot now).2.batteryReady = true ↔ Powered session now ∧ ThresholdCleared session := by
  have herase : Tracks (s.eraseOldWarnings now) session now := h.erase
  cases hfresh : isFresh (s.eraseOldWarnings now).lastHeartbeat now kHeartbeatTimeout with
  | false =>
      rw [VehicleState.snapshot, VehicleState.observe_of_disconnected hfresh]
      rw [herase.connected] at hfresh
      constructor
      · intro hready
        cases hready
      · rintro ⟨hpowered, _⟩
        rw [(alive_iff session now).mpr hpowered.heartbeat] at hfresh
        cases hfresh
  | true =>
      rw [VehicleState.snapshot, VehicleState.observe_of_connected hfresh,
        VehicleState.telemetry_batteryReady, herase.voltageReady_iff, herase.batterySensorHealthy_iff,
        h.hasBatteryWarning_iff, herase.percentReady_iff]
      rw [herase.connected, alive_iff] at hfresh
      constructor
      · rintro ⟨⟨t, voltage, hlast, hle, u, threshold, harming, hclears⟩, hsensor, hnone, hpercent⟩
        exact ⟨⟨hfresh, ⟨t, voltage, hlast, hle⟩, hpercent, hsensor, hnone⟩,
          t, voltage, u, threshold, hlast, harming, hclears⟩
      · rintro ⟨hpowered, t, voltage, u, threshold, hlast, harming, hclears⟩
        obtain ⟨t', voltage', hlast', hle⟩ := hpowered.voltage
        rw [hlast] at hlast'
        cases hlast'
        exact ⟨⟨t, voltage, hlast, hle, u, threshold, harming, hclears⟩, hpowered.sensor,
          hpowered.noBatteryWarning, hpowered.percent⟩

/-! ### A threshold that is no number -/

theorem Sample.voltage_isFinite {message : MavlinkMessage} {voltage : Binary64}
    (h : Sample.voltage message = some voltage) : voltage.isFinite = true := by
  have hvalid : VehicleState.validVoltage voltage = true := by
    simp only [Sample.voltage] at h
    split at h
    · exact (Option.filter_eq_some_iff.mp h).2
    · exact (Option.filter_eq_some_iff.mp h).2
    · cases h
  rw [VehicleState.validVoltage, Bool.and_eq_true] at hvalid
  exact hvalid.1

/-- Only positive infinity stays a threshold; NaN and negative infinity disable it. -/
theorem clearsThreshold_iff_of_not_finite {voltage threshold : Binary64} (hvoltage : voltage.isFinite = true)
    (hthreshold : threshold.isFinite = false) : clearsThreshold voltage threshold ↔ threshold ≠ .posInf := by
  obtain ⟨v, rfl⟩ := (Binary64.isFinite_iff voltage).mp hvoltage
  cases threshold with
  | finite q => cases hthreshold
  | posInf => simp [clearsThreshold, Binary64.max, Binary64.lt, Binary64.ge, Binary64.eq, Binary64.zero]
  | negInf => simp [clearsThreshold, Binary64.max, Binary64.lt, Binary64.zero]
  | nan => simp [clearsThreshold, Binary64.max, Binary64.lt, Binary64.zero]

theorem thresholdCleared_iff_of_not_finite {session : Session} {u : TimePoint} {threshold : Binary64}
    {now : TimePoint} (harming : session.last Sample.armingVoltage = some (u, threshold))
    (hthreshold : threshold.isFinite = false) (hpowered : Powered session now) :
    ThresholdCleared session ↔ threshold ≠ .posInf := by
  obtain ⟨t, voltage, hlast, _⟩ := hpowered.voltage
  obtain ⟨message, _, hsample⟩ := lastSample_mem hlast
  have hfinite : voltage.isFinite = true := Sample.voltage_isFinite hsample
  rw [← clearsThreshold_iff_of_not_finite hfinite hthreshold]
  constructor
  · rintro ⟨t', voltage', u', threshold', hlast', harming', hclears⟩
    rw [hlast] at hlast'
    rw [harming] at harming'
    cases hlast'
    cases harming'
    exact hclears
  · intro hclears
    exact ⟨t, voltage, u, threshold, hlast, harming, hclears⟩

/-- A threshold that is no number keeps the battery gate closed exactly when it is positive infinity or
the rest of the gate is closed anyway. -/
theorem threshold_not_finite_closes_iff (history : List Reception) (now : TimePoint)
    (hordered : Ordered history now) (session : Session) (hsession : currentSession history = some session)
    (u : TimePoint) (threshold : Binary64) (harming : session.last Sample.armingVoltage = some (u, threshold))
    (hthreshold : threshold.isFinite = false) :
    (((runDecoder history).snapshot now).2.batteryReady = false ∧
      ((runDecoder history).snapshot now).2.armable = false) ↔
      threshold = .posInf ∨ ¬Powered session now := by
  have htracks : Tracks (runDecoder history) session now := by
    have hrefines := runDecoder_refines hordered
    rwa [hsession] at hrefines
  have hboth : (((runDecoder history).snapshot now).2.batteryReady = false ∧
      ((runDecoder history).snapshot now).2.armable = false) ↔
      ((runDecoder history).snapshot now).2.batteryReady = false :=
    and_iff_left_of_imp VehicleState.snapshot_armable
  rw [hboth, ← Bool.not_eq_true, htracks.batteryReady_iff, not_and_or, or_comm]
  by_cases hpowered : Powered session now
  · rw [thresholdCleared_iff_of_not_finite harming hthreshold hpowered, not_not]
  · simp only [hpowered, not_false_eq_true, or_true]

/-- A ready controller whose arming threshold is one given value, and whose battery stands at 3.3 V. -/
def thresholdHistory (threshold : Binary64) : List Reception :=
  [(0, ⟨1, 1, .heartbeat ⟨2, 3, 0, 0, 4⟩⟩),
    (seconds 1, ⟨1, 1, .gpsRawInt ⟨3, 11⟩⟩),
    (seconds 1, ⟨1, 1, .paramValue ⟨literal "BATT_ARM_VOLT", threshold, 9⟩⟩),
    (seconds 2, ⟨1, 1, .sysStatus ⟨0x02000000, 0x02000000, 3300, 150, 80⟩⟩)]

theorem thresholdHistory_posInf :
    ∃ session, currentSession (thresholdHistory .posInf) = some session ∧
      ((((runDecoder (thresholdHistory .posInf)).snapshot (seconds 3)).2.batteryReady = false ∧
        ((runDecoder (thresholdHistory .posInf)).snapshot (seconds 3)).2.armable = false) ↔
        Binary64.posInf = .posInf ∨ ¬Powered session (seconds 3)) := by
  have hlast : (currentSession (thresholdHistory .posInf)).any (fun session =>
      decide (session.last Sample.armingVoltage = some (seconds 1, .posInf))) = true := by decide +kernel
  obtain ⟨session, hsession, harming⟩ := Option.any_eq_true _ _ |>.mp hlast
  exact ⟨session, hsession, threshold_not_finite_closes_iff (thresholdHistory .posInf) (seconds 3)
    (by decide) session hsession (seconds 1) .posInf (of_decide_eq_true harming) rfl⟩

/-- NaN as the threshold makes a vehicle with a flat battery armable. -/
theorem thresholdHistory_nan_opens : ¬∀ (history : List Reception) (now : TimePoint) (session : Session)
    (u : TimePoint) (threshold : Binary64), Ordered history now → currentSession history = some session →
    session.last Sample.armingVoltage = some (u, threshold) → threshold.isFinite = false →
    ((runDecoder history).snapshot now).2.batteryReady = false ∧
      ((runDecoder history).snapshot now).2.armable = false := by
  intro hclosed
  have hlast : (currentSession (thresholdHistory .nan)).any (fun session =>
      decide (session.last Sample.armingVoltage = some (seconds 1, .nan))) = true := by decide +kernel
  obtain ⟨session, hsession, harming⟩ := Option.any_eq_true _ _ |>.mp hlast
  have harmable : ((runDecoder (thresholdHistory .nan)).snapshot (seconds 3)).2.armable = true := by
    decide +kernel
  have hshut := hclosed (thresholdHistory .nan) (seconds 3) session (seconds 1) .nan (by decide) hsession
    (of_decide_eq_true harming) rfl
  rw [hshut.2] at harmable
  cases harmable

end OnboardAutonomy
