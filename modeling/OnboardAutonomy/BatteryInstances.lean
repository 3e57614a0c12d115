import OnboardAutonomy.ArmingThreshold
import OnboardAutonomy.Insertion

/-! Battery instances. Every BATTERY_STATUS of the selected controller counts alike, whatever its instance
id. Two histories that differ in inserted BATTERY_STATUS messages are related by a simulation on their
sessions: the logs agree apart from messages of the inserted kind. -/

namespace OnboardAutonomy

open TimedLog Insertion

/-- The battery instance of a BATTERY_STATUS. -/
def batteryInstance (message : MavlinkMessage) : Option UInt8 :=
  match message.payload with
  | .batteryStatus battery => some battery.id
  | _ => none

/-- The sessions of one controller agree apart from the messages of some kind. -/
structure AgreeApart (kind : MavlinkMessage → Bool) (a b : Session) : Prop where
  controller : b.controller = a.controller
  log : (b.log.filter fun e => !kind e.2) = a.log.filter fun e => !kind e.2

namespace AgreeApart

variable {kind : MavlinkMessage → Bool} {a b : Session}

theorem refl (session : Session) : AgreeApart kind session session := ⟨rfl, rfl⟩

theorem symm (h : AgreeApart kind a b) : AgreeApart kind b a := ⟨h.controller.symm, h.log.symm⟩

theorem last {β : Type} (h : AgreeApart kind a b) {sample : MavlinkMessage → Option β}
    (hsample : ∀ message, kind message = true → sample message = none) :
    b.last sample = a.last sample := by
  have hkept : ∀ message, (!kind message) = false → sample message = none := fun message hkind =>
    hsample message (by simpa using hkind)
  rw [Session.last, ← lastSample_filter hkept, h.log, lastSample_filter hkept, Session.last]

theorem lastSeen {κ : Type} [DecidableEq κ] (h : AgreeApart kind a b) {key : MavlinkMessage → Option κ}
    (hkey : ∀ message, kind message = true → key message = none) (k : κ) :
    TimedLog.lastSeen key k b.log = TimedLog.lastSeen key k a.log := by
  have hkept : ∀ message, (!kind message) = false → key message = none := fun message hkind =>
    hkey message (by simpa using hkind)
  rw [← lastSeen_filter hkept, h.log, lastSeen_filter hkept]

theorem extend (h : AgreeApart kind a b) {entry : Reception} (ha : entry.2.source = a.controller)
    (hb : entry.2.source = b.controller) : AgreeApart kind (a.extend entry ha) (b.extend entry hb) := by
  refine ⟨h.controller, ?_⟩
  rw [Session.log_extend, Session.log_extend, List.filter_append, List.filter_append, h.log]

theorem extendSecond (h : AgreeApart kind a b) {entry : Reception} (hkind : kind entry.2 = true)
    (hb : entry.2.source = b.controller) : AgreeApart kind a (b.extend entry hb) := by
  refine ⟨h.controller, ?_⟩
  rw [Session.log_extend, List.filter_append, h.log, List.filter_singleton, hkind, Bool.not_true,
    Bool.cond_false, List.append_nil]

end AgreeApart

/-! ### What a BATTERY_STATUS does not carry -/

section Silent

variable {message : MavlinkMessage} (h : (batteryInstance message).isSome = true)

include h

theorem exists_batteryStatus : ∃ battery, message.payload = .batteryStatus battery := by
  simp only [batteryInstance] at h
  split at h
  · exact ⟨_, ‹_›⟩
  · cases h

theorem heartbeat_of_battery : Sample.heartbeat message = none := by
  obtain ⟨battery, hpayload⟩ := exists_batteryStatus h
  simp only [Sample.heartbeat, hpayload]

theorem gps_of_battery : Sample.gps message = none := by
  obtain ⟨battery, hpayload⟩ := exists_batteryStatus h
  simp only [Sample.gps, hpayload]

theorem systemStatus_of_battery : Sample.systemStatus message = none := by
  obtain ⟨battery, hpayload⟩ := exists_batteryStatus h
  simp only [Sample.systemStatus, hpayload]

theorem armingVoltage_of_battery : Sample.armingVoltage message = none := by
  obtain ⟨battery, hpayload⟩ := exists_batteryStatus h
  simp only [Sample.armingVoltage, hpayload]

theorem warning_of_battery : Sample.warning message = none := by
  obtain ⟨battery, hpayload⟩ := exists_batteryStatus h
  simp only [Sample.warning, hpayload]

theorem selectsController_of_battery : selectsController message = false := by
  rw [selectsController, heartbeat_of_battery h, Option.any_none]

theorem admits_of_battery : Session.admits message = true := by
  rw [Session.admits, heartbeat_of_battery h, Option.isNone_none, Bool.true_or]

end Silent

/-! ### The simulation -/

namespace AgreeApart

variable {kind : MavlinkMessage → Bool}
  (hkind : ∀ message, kind message = true → (batteryInstance message).isSome = true)

include hkind

theorem alive {a b : Session} (h : AgreeApart kind a b) (now : TimePoint) : b.alive now = a.alive now := by
  rw [Session.alive, h.last fun message hmessage => heartbeat_of_battery (hkind message hmessage),
    Session.alive]

theorem opens {a b : Session} (h : AgreeApart kind a b) {entry : Reception} (hopens : Opens (some a) entry) :
    Opens (some b) entry := by
  refine ⟨hopens.1, fun running hrunning => ?_⟩
  cases hrunning
  rw [h.alive hkind]
  exact hopens.2 a rfl

/-- A common message keeps the agreement. -/
theorem advance_both {a b : Option Session} (h : Option.Rel (AgreeApart kind) a b) (entry : Reception) :
    Option.Rel (AgreeApart kind) (advance a entry) (advance b entry) := by
  cases h with
  | none =>
      cases advance none entry with
      | none => exact .none
      | some session => exact .some (refl session)
  | @some a b h =>
      by_cases hopens : Opens (some a) entry
      · rw [advance_of_opens hopens, advance_of_opens (h.opens hkind hopens)]
        exact .some (refl _)
      · cases halive : a.alive entry.1 with
        | true =>
            have halive' : b.alive entry.1 = true := (h.alive hkind entry.1).trans halive
            simp only [advance, halive, halive', if_true, h.controller]
            split
            · exact .some (h.extend _ _)
            · exact .some h
        | false =>
            have halive' : b.alive entry.1 = false := (h.alive hkind entry.1).trans halive
            have hselects : selectsController entry.2 = false := by
              by_contra hselects
              exact hopens ⟨Bool.not_eq_false _ ▸ hselects, fun running hrunning => by cases hrunning; exact halive⟩
            rw [advance_outside hselects fun running hrunning => by cases hrunning; exact halive,
              advance_outside hselects fun running hrunning => by cases hrunning; exact halive']
            exact .some h

/-- So does a message of the kind that only the second history has. -/
theorem advance_second {a b : Option Session} (h : Option.Rel (AgreeApart kind) a b) {entry : Reception}
    (hentry : kind entry.2 = true) : Option.Rel (AgreeApart kind) a (advance b entry) := by
  have hbattery := hkind entry.2 hentry
  have hselects : selectsController entry.2 = false := selectsController_of_battery hbattery
  cases h with
  | none =>
      rw [advance_outside hselects fun running hnone => by cases hnone]
      exact .none
  | @some a b h =>
      cases halive : b.alive entry.1 with
      | false =>
          rw [advance_outside hselects fun running hrunning => by cases hrunning; exact halive]
          exact .some h
      | true =>
          by_cases hsource : entry.2.source = b.controller
          · rw [advance_extend halive hsource (admits_of_battery hbattery)]
            exact .some (h.extendSecond hentry hsource)
          · rw [advance_foreign halive hsource]
            exact .some h

/-- The sessions of a history and of the same history with insertions. -/
theorem run (inputs : List (Bool × Reception))
    (hinserted : ∀ input ∈ inputs, input.1 = true → kind input.2.2 = true) :
    Option.Rel (AgreeApart kind) (currentSession (kept inputs)) (currentSession (everything inputs)) := by
  have hadmitted : Admitted advance (fun _ entry => kind entry.2 = true) none inputs :=
    Admitted.of_forall advance inputs none fun input hmem hmark _ => hinserted input hmem hmark
  refine foldl_related advance (R := Option.Rel (AgreeApart kind)) ?_ ?_ inputs none none .none hadmitted
  · intro a b entry h
    exact advance_both hkind h entry
  · intro a b entry h hentry
    exact advance_second hkind h hentry

/-! ### The verdicts

The sessions agree on every verdict once they agree on the last voltage and the last percentage. -/

variable {a b : Session} {now : TimePoint}

theorem cleared (h : AgreeApart kind a b) (hvoltage : b.last Sample.voltage = a.last Sample.voltage)
    (ha : ThresholdCleared a) : ThresholdCleared b := by
  rw [ThresholdCleared, hvoltage,
    h.last fun message hmessage => armingVoltage_of_battery (hkind message hmessage)]
  exact ha

theorem powered (h : AgreeApart kind a b) (hvoltage : b.last Sample.voltage = a.last Sample.voltage)
    (hpercent : b.last Sample.percent = a.last Sample.percent) (ha : Powered a now) : Powered b now := by
  constructor
  case heartbeat =>
    rw [h.last fun message hmessage => heartbeat_of_battery (hkind message hmessage)]
    exact ha.heartbeat
  case voltage =>
    rw [hvoltage]
    exact ha.voltage
  case percent =>
    rw [hpercent]
    exact ha.percent
  case sensor =>
    rw [h.last fun message hmessage => systemStatus_of_battery (hkind message hmessage)]
    exact ha.sensor
  case noBatteryWarning =>
    intro text t hseen
    rw [h.lastSeen fun message hmessage => warning_of_battery (hkind message hmessage)] at hseen
    exact ha.noBatteryWarning text t hseen

theorem ready (h : AgreeApart kind a b) (hvoltage : b.last Sample.voltage = a.last Sample.voltage)
    (hpercent : b.last Sample.percent = a.last Sample.percent) (ha : Ready a now) : Ready b now := by
  constructor
  case heartbeat =>
    rw [h.last fun message hmessage => heartbeat_of_battery (hkind message hmessage)]
    exact ha.heartbeat
  case gps =>
    rw [h.last fun message hmessage => gps_of_battery (hkind message hmessage)]
    exact ha.gps
  case voltage =>
    rw [hvoltage, h.last fun message hmessage => armingVoltage_of_battery (hkind message hmessage)]
    exact ha.voltage
  case percent =>
    rw [hpercent]
    exact ha.percent
  case sensors =>
    rw [h.last fun message hmessage => systemStatus_of_battery (hkind message hmessage)]
    exact ha.sensors
  case noBatteryWarning =>
    intro text t hseen
    rw [h.lastSeen fun message hmessage => warning_of_battery (hkind message hmessage)] at hseen
    exact ha.noBatteryWarning text t hseen
  case noRecentWarning =>
    intro text t hseen
    rw [h.lastSeen fun message hmessage => warning_of_battery (hkind message hmessage)] at hseen
    exact ha.noRecentWarning text t hseen

end AgreeApart

/-! ### Histories -/

/-- The last sample of a kind in the session that a history ends in. -/
def latest {β : Type} (sample : MavlinkMessage → Option β) (history : List Reception) :
    Option (TimePoint × β) :=
  (currentSession history).bind fun session => session.last sample

/-- The two histories lead to the same battery flag and the same armable flag. -/
def SameVerdict (history history' : List Reception) (now : TimePoint) : Prop :=
  ((runDecoder history').snapshot now).2.batteryReady =
      ((runDecoder history).snapshot now).2.batteryReady ∧
    ((runDecoder history').snapshot now).2.armable = ((runDecoder history).snapshot now).2.armable

theorem latest_eq {kind : MavlinkMessage → Bool} {β : Type} {sample : MavlinkMessage → Option β}
    {history history' : List Reception}
    (h : Option.Rel (AgreeApart kind) (currentSession history) (currentSession history'))
    (hsample : ∀ message, kind message = true → sample message = none) :
    latest sample history' = latest sample history := by
  rw [latest, latest]
  generalize currentSession history = a at *
  generalize currentSession history' = b at *
  cases h with
  | none => rfl
  | some h => exact h.last hsample

/-- The battery flag is exact over whole histories. -/
theorem batteryReady_iff_powered (history : List Reception) (now : TimePoint)
    (hordered : Ordered history now) :
    ((runDecoder history).snapshot now).2.batteryReady = true ↔
      ∃ session, currentSession history = some session ∧ Powered session now ∧ ThresholdCleared session :=
  flag_iff_currentSession VehicleSnapshot.batteryReady
    (fun session => Powered session now ∧ ThresholdCleared session) rfl Tracks.batteryReady_iff hordered

theorem sameVerdict {kind : MavlinkMessage → Bool} {history history' : List Reception} {now : TimePoint}
    (hkind : ∀ message, kind message = true → (batteryInstance message).isSome = true)
    (hordered : Ordered history now) (hordered' : Ordered history' now)
    (h : Option.Rel (AgreeApart kind) (currentSession history) (currentSession history'))
    (hvoltage : latest Sample.voltage history' = latest Sample.voltage history)
    (hpercent : latest Sample.percent history' = latest Sample.percent history) :
    SameVerdict history history' now := by
  have hbattery := batteryReady_iff_powered history now hordered
  have hbattery' := batteryReady_iff_powered history' now hordered'
  have harmable := flag_iff_currentSession VehicleSnapshot.armable (Ready · now) rfl Tracks.armable_iff hordered
  have harmable' := flag_iff_currentSession VehicleSnapshot.armable (Ready · now) rfl Tracks.armable_iff
    hordered'
  rw [latest, latest] at hvoltage hpercent
  have hverdicts : (((runDecoder history').snapshot now).2.batteryReady = true ↔
        ((runDecoder history).snapshot now).2.batteryReady = true) ∧
      (((runDecoder history').snapshot now).2.armable = true ↔
        ((runDecoder history).snapshot now).2.armable = true) := by
    rw [hbattery, hbattery', harmable, harmable']
    generalize currentSession history = a at *
    generalize currentSession history' = b at *
    cases h with
    | none => exact ⟨Iff.rfl, Iff.rfl⟩
    | some h =>
        simp only [Option.some.injEq, exists_eq_left', Option.bind_some] at *
        refine ⟨⟨fun hb => ?_, fun ha => ?_⟩, ⟨fun hb => ?_, fun ha => ?_⟩⟩
        · exact ⟨h.symm.powered hkind hvoltage.symm hpercent.symm hb.1,
            h.symm.cleared hkind hvoltage.symm hb.2⟩
        · exact ⟨h.powered hkind hvoltage hpercent ha.1, h.cleared hkind hvoltage ha.2⟩
        · exact h.symm.ready hkind hvoltage.symm hpercent.symm hb
        · exact h.ready hkind hvoltage hpercent ha
  exact ⟨Bool.eq_iff_iff.mpr hverdicts.1, Bool.eq_iff_iff.mpr hverdicts.2⟩

theorem Ordered.kept {inputs : List (Bool × Reception)} {now : TimePoint}
    (h : Ordered (everything inputs) now) : Ordered (Insertion.kept inputs) now :=
  List.Pairwise.sublist (((kept_sublist inputs).map Prod.fst).append (List.Sublist.refl _)) h

/-- A BATTERY_STATUS that reports neither a valid voltage nor a valid percentage. -/
def silentBattery (message : MavlinkMessage) : Bool :=
  (batteryInstance message).isSome && (Sample.voltage message).isNone && (Sample.percent message).isNone

/-- The battery flag rests on the latest voltage and the latest percentage of the session, reported by
SYS_STATUS or by a BATTERY_STATUS of whatever instance. Inserted BATTERY_STATUS messages change the battery
flag and the armable flag only through these two, and those that report neither change nothing. -/
theorem battery_insertions_seen_through_latest (inputs : List (Bool × Reception)) (now : TimePoint)
    (hordered : Ordered (everything inputs) now)
    (hinserted : ∀ input ∈ inputs, input.1 = true → (batteryInstance input.2.2).isSome = true) :
    (((runDecoder (everything inputs)).snapshot now).2.batteryReady = true ↔
      ∃ session, currentSession (everything inputs) = some session ∧ Powered session now ∧
        ThresholdCleared session) ∧
    (latest Sample.voltage (everything inputs) = latest Sample.voltage (kept inputs) →
      latest Sample.percent (everything inputs) = latest Sample.percent (kept inputs) →
      SameVerdict (kept inputs) (everything inputs) now) ∧
    ((∀ input ∈ inputs, input.1 = true →
        Sample.voltage input.2.2 = none ∧ Sample.percent input.2.2 = none) →
      SameVerdict (kept inputs) (everything inputs) now) := by
  refine ⟨batteryReady_iff_powered (everything inputs) now hordered, ?_, ?_⟩
  · intro hvoltage hpercent
    exact sameVerdict (fun _ h => h) hordered.kept hordered (AgreeApart.run (fun _ h => h) inputs hinserted)
      hvoltage hpercent
  · intro hsilent
    have hkind : ∀ message, silentBattery message = true → (batteryInstance message).isSome = true ∧
        Sample.voltage message = none ∧ Sample.percent message = none := by
      intro message h
      simp only [silentBattery, Bool.and_eq_true, Option.isNone_iff_eq_none, and_assoc] at h
      exact h
    have hrun := AgreeApart.run (fun message h => (hkind message h).1) inputs fun input hmem hmark => by
      obtain ⟨hvoltage, hpercent⟩ := hsilent input hmem hmark
      rw [silentBattery, hinserted input hmem hmark, hvoltage, hpercent]
      rfl
    exact sameVerdict (fun message h => (hkind message h).1) hordered.kept hordered hrun
      (latest_eq hrun fun message h => (hkind message h).2.1)
      (latest_eq hrun fun message h => (hkind message h).2.2)

/-- A BATTERY_STATUS of the selected controller for another battery than the first. -/
def secondaryBattery (session : Option Session) (entry : Reception) : Bool :=
  session.any (fun session => session.alive entry.1 && entry.2.source == session.controller) &&
    (batteryInstance entry.2).any (· != 0)

/-- A flat first battery, and a second one whose report is inserted. -/
def maskedHistory : List (Bool × Reception) :=
  (thresholdHistory (.finite (21 / 2))).map (Prod.mk false) ++
    [(true, (seconds 2, ⟨1, 1, .batteryStatus ⟨1, [12600], [], 150, -1⟩⟩))]

theorem maskedHistory_armable : ¬∀ (inputs : List (Bool × Reception)) (now : TimePoint),
    Ordered (everything inputs) now →
    Admitted advance (fun session entry => secondaryBattery session entry = true) none inputs →
    SameVerdict (kept inputs) (everything inputs) now := by
  intro hunseen
  have hsame := hunseen maskedHistory (seconds 3) (by decide) (by decide +kernel)
  have hflat : ((runDecoder (kept maskedHistory)).snapshot (seconds 3)).2.armable = false := by decide +kernel
  have hmasked : ((runDecoder (everything maskedHistory)).snapshot (seconds 3)).2.armable = true := by
    decide +kernel
  rw [hsame.2, hflat] at hmasked
  cases hmasked

/-- The second battery reports its current only. -/
def silentHistory : List (Bool × Reception) :=
  (thresholdHistory (.finite 3)).map (Prod.mk false) ++
    [(true, (seconds 2, ⟨1, 1, .batteryStatus ⟨1, [65535], [], 150, -1⟩⟩))]

theorem silentHistory_sameVerdict :
    SameVerdict (kept silentHistory) (everything silentHistory) (seconds 3) :=
  (battery_insertions_seen_through_latest silentHistory (seconds 3) (by decide) (by decide)).2.2
    (by decide +kernel)

end OnboardAutonomy
