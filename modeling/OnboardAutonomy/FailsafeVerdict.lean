import OnboardAutonomy.CompanionLinkFailsafe
import OnboardAutonomy.WordBits
import Mathlib.Data.List.Induction

/-! The failsafe verdict over whole call sequences. The observation of a vehicle is its system id with
the parameter values received from its autopilot since it was first observed without a break; the verdict
depends on the last value of each of four parameters in it. -/

namespace OnboardAutonomy

inductive FailsafeCall where
  | observeVehicle (connected : Bool) (systemId : Option UInt8)
  | onParameter (sourceSystem sourceComponent : UInt8) (id : Bytes) (value : Binary64)

def CompanionLinkFailsafe.call (f : CompanionLinkFailsafe) : FailsafeCall → CompanionLinkFailsafe
  | .observeVehicle connected systemId => f.observeVehicle connected systemId
  | .onParameter sourceSystem sourceComponent id value => f.onParameter sourceSystem sourceComponent id value

def runFailsafe (calls : List FailsafeCall) : CompanionLinkFailsafe := calls.foldl CompanionLinkFailsafe.call {}

/-! ### What was observed -/

/-- The observed vehicle and the values received from its autopilot, the latest one last. -/
structure FailsafeObservation where
  system : UInt8
  received : List (Bytes × Binary64) := []

namespace FailsafeObservation

/-- The last value received under a parameter name. -/
def latest (o : FailsafeObservation) (name : String) : Option Binary64 :=
  (o.received.filter fun value => value.1 = literal name).getLast?.map Prod.snd

def receive (o : FailsafeObservation) (id : Bytes) (value : Binary64) : FailsafeObservation :=
  { o with received := o.received ++ [(id, value)] }

/-- The vehicle observed after one more call: losing it or seeing another one forgets the values. -/
def after (observed : Option FailsafeObservation) : FailsafeCall → Option FailsafeObservation
  | .observeVehicle connected systemId =>
      if connected then
        systemId.bind fun system =>
          if observed.map FailsafeObservation.system = some system then observed else some { system := system }
      else none
  | .onParameter sourceSystem sourceComponent id value =>
      observed.map fun o =>
        if sourceSystem = o.system ∧ sourceComponent = kAutopilotComponentId then o.receive id value else o

/-- The observation that a call sequence ends in. -/
def of (calls : List FailsafeCall) : Option FailsafeObservation := calls.foldl after none

/-- The vehicle lands when the companion heartbeat is lost. -/
structure Lands (o : FailsafeObservation) : Prop where
  action : o.latest "FS_GCS_ENABLE" = some (.finite 5)
  timeout : ∃ q, o.latest "FS_GCS_TIMEOUT" = some (.finite q) ∧ 2 ≤ q ∧ q ≤ 10
  options : ∃ n : Nat, o.latest "FS_OPTIONS" = some (.finite n) ∧ n < 2 ^ 32 ∧
    n.testBit 1 = false ∧ n.testBit 4 = false
  systemId : o.latest "SYSID_MYGCS" = some (.finite o.system.toNat) ∧ o.system ≠ 0

/-- All four parameters have been received. -/
def Complete (o : FailsafeObservation) : Prop :=
  ∀ name ∈ CompanionLinkFailsafe.parameterNames, o.latest name ≠ none

theorem latest_receive_self (o : FailsafeObservation) (name : String) (value : Binary64) :
    (o.receive (literal name) value).latest name = some value := by
  simp [latest, receive, List.filter_append]

theorem latest_receive_other (o : FailsafeObservation) {name : String} {id : Bytes} (value : Binary64)
    (h : id ≠ literal name) : (o.receive id value).latest name = o.latest name := by
  simp [latest, receive, List.filter_append, h]

end FailsafeObservation

/-! ### Integers among the received values -/

theorem exactInteger_eq_some {T : Type} {cast : Nat → T} {value : Option Binary64} {maximum : Nat} {x : T} :
    exactInteger cast value (.finite maximum) = some x ↔
      ∃ n : Nat, value = some (.finite n) ∧ n ≤ maximum ∧ x = cast n := by
  rw [exactInteger, Option.bind_eq_some_iff]
  simp only [Option.ite_none_left_eq_some, Bool.not_eq_true, Binary64.natural_iff]
  constructor
  · rintro ⟨_, rfl, ⟨n, rfl, hle⟩, hcast⟩
    rw [Binary64.toNat_natCast] at hcast
    exact ⟨n, rfl, hle, (Option.some.inj hcast).symm⟩
  · rintro ⟨n, rfl, hle, rfl⟩
    exact ⟨_, rfl, ⟨n, rfl, hle⟩, by rw [Binary64.toNat_natCast]⟩

theorem exactInteger_word {value : Option Binary64} {word : UInt32} :
    exactInteger UInt32.ofNat value (.finite 4294967295) = some word ↔ value = some (.finite word.toNat) := by
  have hexact : exactInteger UInt32.ofNat value (.finite (4294967295 : Nat)) = some word ↔ _ :=
    exactInteger_eq_some
  rw [Nat.cast_ofNat] at hexact
  rw [hexact]
  constructor
  · rintro ⟨n, rfl, hle, rfl⟩
    rw [UInt32.toNat_ofNat_of_lt' (Nat.lt_succ_of_le hle)]
  · rintro rfl
    exact ⟨word.toNat, rfl, Nat.le_of_lt_succ word.toNat_lt, UInt32.ofNat_toNat.symm⟩

theorem exactInteger_byte {value : Option Binary64} {byte : UInt8} :
    exactInteger UInt8.ofNat value (.finite 255) = some byte ↔ value = some (.finite byte.toNat) := by
  have hexact : exactInteger UInt8.ofNat value (.finite (255 : Nat)) = some byte ↔ _ := exactInteger_eq_some
  rw [Nat.cast_ofNat] at hexact
  rw [hexact]
  constructor
  · rintro ⟨n, rfl, hle, rfl⟩
    rw [UInt8.toNat_ofNat_of_lt' (Nat.lt_succ_of_le hle)]
  · rintro rfl
    exact ⟨byte.toNat, rfl, Nat.le_of_lt_succ byte.toNat_lt, UInt8.ofNat_toNat.symm⟩

theorem action_eq_some {value : Option Binary64} {action : ArduPilotGcsFailsafeAction} :
    (exactInteger UInt8.ofNat value (.finite 255)).bind ArduPilotGcsFailsafeAction.ofCode = some action ↔
      value = some (.finite action.code) := by
  rw [Option.bind_eq_some_iff]
  constructor
  · rintro ⟨byte, hbyte, hcode⟩
    rw [exactInteger_byte.mp hbyte, ArduPilotGcsFailsafeAction.ofCode_eq_some.mp hcode]
  · rintro rfl
    have hcode : (UInt8.ofNat action.code).toNat = action.code := by cases action <;> rfl
    refine ⟨UInt8.ofNat action.code, exactInteger_byte.mpr (by rw [hcode]), ?_⟩
    exact ArduPilotGcsFailsafeAction.ofCode_eq_some.mpr hcode

theorem acceptableTimeout_iff {timeoutS : Option Binary64} :
    CompanionLinkFailsafe.acceptableTimeout timeoutS = true ↔
      ∃ q, timeoutS = some (.finite q) ∧ 2 ≤ q ∧ q ≤ 10 := by
  rw [CompanionLinkFailsafe.acceptableTimeout, Option.any_eq_true]
  simp only [Bool.and_eq_true, Bool.not_eq_true']
  constructor
  · rintro ⟨timeout, rfl, ⟨hfinite, hlow⟩, hhigh⟩
    obtain ⟨q, rfl⟩ := (Binary64.isFinite_iff timeout).mp hfinite
    exact ⟨q, rfl, not_lt.mp (of_decide_eq_false hlow), not_lt.mp (of_decide_eq_false hhigh)⟩
  · rintro ⟨q, rfl, hlow, hhigh⟩
    exact ⟨_, rfl, ⟨rfl, decide_eq_false (not_lt.mpr hlow)⟩, decide_eq_false (not_lt.mpr hhigh)⟩

/-- The continuation mask holds the bits 1 and 4. -/
theorem continuation_mask (options : UInt32) : options &&& kGcsFailsafeContinuationMask = 0 ↔
    wordBit options 1 = false ∧ wordBit options 4 = false := by
  have hmask : ∀ i < 32, wordBit kGcsFailsafeContinuationMask i = decide (i = 1 ∨ i = 4) := by decide
  rw [WordBits.and_eq_zero_iff]
  constructor
  · intro hall
    exact ⟨hall 1 (by decide), hall 4 (by decide)⟩
  · rintro ⟨hfirst, hsecond⟩ i hset
    have hi := hmask i (WordBits.lt_of_wordBit hset)
    rw [hset] at hi
    rcases of_decide_eq_true hi.symm with rfl | rfl
    · exact hfirst
    · exact hsecond

/-! ### The verdict on four received values -/

namespace CompanionLinkFailsafe

theorem verdict_cases (action : Option ArduPilotGcsFailsafeAction) (rawTimeoutS : Option Binary64)
    (options : Option UInt32) (gcsSystemId heartbeatSystemId : Option UInt8) :
    (verdict action rawTimeoutS options gcsSystemId heartbeatSystemId).1 = .accepted ∨
      (verdict action rawTimeoutS options gcsSystemId heartbeatSystemId).1 = .rejected := by
  unfold verdict
  repeat' split
  all_goals simp

theorem verdict_accepted_iff {action : Option ArduPilotGcsFailsafeAction} {rawTimeoutS : Option Binary64}
    {options : Option UInt32} {gcsSystemId heartbeatSystemId : Option UInt8} :
    (verdict action rawTimeoutS options gcsSystemId heartbeatSystemId).1 = .accepted ↔
      action = some .land ∧ acceptableTimeout rawTimeoutS = true ∧
      (∃ word, options = some word ∧ word &&& kGcsFailsafeContinuationMask = 0) ∧
      ∃ gcs, gcsSystemId = some gcs ∧ gcs ≠ 0 ∧ heartbeatSystemId = some gcs := by
  unfold verdict
  cases action with
  | none => simp
  | some action =>
  rcases ne_or_eq action .land with hland | hland
  · simp [hland]
  cases htimeout : acceptableTimeout rawTimeoutS with
  | false => simp [hland]
  | true =>
  cases options with
  | none => simp [hland]
  | some word =>
  rcases ne_or_eq (word &&& kGcsFailsafeContinuationMask) 0 with hmask | hmask
  · simp [hland, hmask]
  cases gcsSystemId with
  | none => simp [hland, hmask]
  | some gcs =>
  rcases eq_or_ne gcs 0 with hzero | hzero
  · simp [hland, hmask, hzero]
  rcases eq_or_ne heartbeatSystemId (some gcs) with hmatch | hmatch
  · simp [hland, hmask, hzero, hmatch]
  · simp [hland, hmask, hzero, hmatch]

theorem validate_of_missing {f : CompanionLinkFailsafe}
    (h : f.receivedCount < f.snapshot.parametersRequired) : f.validate =
      { f with snapshot := { f.snapshot with
          parametersReceived := f.receivedCount
          phase := .readingParameters
          detail := "Reading ArduPilot failsafe parameters (" ++ toString f.receivedCount ++ "/" ++
            toString f.snapshot.parametersRequired ++ ")" } } := by
  rw [validate, if_pos h]

theorem validate_idem (f : CompanionLinkFailsafe) : f.validate.validate = f.validate := by
  by_cases h : f.receivedCount < f.snapshot.parametersRequired
  · rw [validate_of_missing h]
    exact validate_of_missing h
  · have hcomplete : f.validate = _ := if_neg h
    rw [hcomplete]
    exact if_neg h

end CompanionLinkFailsafe

/-! ### The invariant -/

/-- Nothing of a policy is shown. -/
def CompanionLinkFailsafeSnapshot.Empty (snapshot : CompanionLinkFailsafeSnapshot) : Prop :=
  snapshot.action = none ∧ snapshot.timeoutS = none ∧ snapshot.options = none ∧
    snapshot.configuredGcsSystemId = none

/-- The failsafe keeps the latest value of each parameter received from the observed vehicle. -/
structure Stores (f : CompanionLinkFailsafe) (o : FailsafeObservation) : Prop where
  system : f.snapshot.heartbeatSystemId = some o.system
  required : f.snapshot.parametersRequired = 4
  values : ∀ i, f.held i = o.latest (CompanionLinkFailsafe.nameAt i)

/-- Beyond that, once all four are there its snapshot is the validated one, and shows nothing before. -/
structure Observes (f : CompanionLinkFailsafe) (o : FailsafeObservation) : Prop extends Stores f o where
  missing : ¬o.Complete → f.snapshot.phase = .readingParameters ∧ f.snapshot.Empty
  validated : o.Complete → f.validate = f

def Agrees (f : CompanionLinkFailsafe) : Option FailsafeObservation → Prop
  | none => f = {}
  | some o => Observes f o

namespace FailsafeObservation

theorem complete_iff (o : FailsafeObservation) :
    o.Complete ↔ ∀ i : Fin 4, (o.latest (CompanionLinkFailsafe.nameAt i)).isSome = true := by
  simp only [Complete, Option.isSome_iff_ne_none]
  constructor
  · intro h i
    exact h _ (CompanionLinkFailsafe.mem_parameterNames.mpr ⟨i, rfl⟩)
  · intro h name hname
    obtain ⟨i, rfl⟩ := CompanionLinkFailsafe.mem_parameterNames.mp hname
    exact h i

theorem Complete.receive {o : FailsafeObservation} (h : o.Complete) (id : Bytes) (value : Binary64) :
    (o.receive id value).Complete := by
  intro name hname
  by_cases hid : id = literal name
  · rw [hid, latest_receive_self]
    exact Option.some_ne_none value
  · rw [latest_receive_other o value hid]
    exact h name hname

end FailsafeObservation

section Steps

variable {f : CompanionLinkFailsafe} {o : FailsafeObservation}

theorem Stores.action (h : Stores f o) : f.rawAction = o.latest "FS_GCS_ENABLE" := h.values 0

theorem Stores.timeout (h : Stores f o) : f.rawTimeoutS = o.latest "FS_GCS_TIMEOUT" := h.values 1

theorem Stores.options (h : Stores f o) : f.rawOptions = o.latest "FS_OPTIONS" := h.values 2

theorem Stores.systemId (h : Stores f o) : f.rawGcsSystemId = o.latest "SYSID_MYGCS" := h.values 3

/-- Validation finds all four parameters exactly when they have all been received. -/
theorem Stores.receivedCount_lt_iff (h : Stores f o) :
    f.receivedCount < f.snapshot.parametersRequired ↔ ¬o.Complete := by
  rw [h.required, CompanionLinkFailsafe.receivedCount_lt_iff, o.complete_iff]
  simp only [h.values]

/-- Validation after a value was stored. -/
theorem Stores.validate (h : Stores f o) (hempty : ¬o.Complete → f.snapshot.Empty) :
    Observes f.validate o := by
  by_cases hcomplete : o.Complete
  · have hvalidated : f.validate = _ := if_neg fun hlt => h.receivedCount_lt_iff.mp hlt hcomplete
    have hstores : Stores f.validate o := by
      rw [hvalidated]
      exact ⟨h.system, h.required, h.values⟩
    exact ⟨hstores, fun hno => absurd hcomplete hno, fun _ => f.validate_idem⟩
  · rw [CompanionLinkFailsafe.validate_of_missing (h.receivedCount_lt_iff.mpr hcomplete)]
    exact ⟨⟨h.system, h.required, h.values⟩, fun hno => ⟨rfl, hempty hno⟩, fun hyes =>
      absurd hyes hcomplete⟩

theorem Stores.hears (h : Stores f o) : f.hears o.system kAutopilotComponentId = true := by
  rw [CompanionLinkFailsafe.hears, h.system, beq_self_eq_true, beq_self_eq_true]
  rfl

/-- A stored value is the latest one of its name. -/
theorem Stores.store (h : Stores f o) (index : Fin 4) (value : Binary64) :
    Stores (f.store index value) (o.receive (CompanionLinkFailsafe.parameterName index) value) := by
  refine ⟨?_, ?_, fun i => ?_⟩
  · rw [f.store_snapshot]
    exact h.system
  · rw [f.store_snapshot]
    exact h.required
  · rw [f.held_store]
    by_cases hi : i = index
    · rw [if_pos hi, hi]
      exact (o.latest_receive_self _ value).symm
    · have hother : CompanionLinkFailsafe.parameterName index ≠ CompanionLinkFailsafe.parameterName i :=
        fun heq => hi (CompanionLinkFailsafe.parameterName_injective index i heq).symm
      rw [if_neg hi, o.latest_receive_other value hother]
      exact h.values i

/-- A parameter of the observed vehicle's autopilot. -/
theorem Observes.receive (h : Observes f o) (id : Bytes) (value : Binary64) :
    Observes (f.onParameter o.system kAutopilotComponentId id value) (o.receive id value) := by
  by_cases hknown : ∃ index, id = CompanionLinkFailsafe.parameterName index
  · obtain ⟨index, rfl⟩ := hknown
    rw [CompanionLinkFailsafe.onParameter_heard h.toStores.hears]
    apply (h.toStores.store index value).validate
    intro hno
    rw [f.store_snapshot]
    exact (h.missing fun hyes => hno (hyes.receive _ value)).2
  · have hother : ∀ i, (o.receive id value).latest (CompanionLinkFailsafe.nameAt i) =
        o.latest (CompanionLinkFailsafe.nameAt i) := fun i =>
      o.latest_receive_other value (not_exists.mp hknown i)
    have hcomplete : (o.receive id value).Complete ↔ o.Complete := by
      rw [FailsafeObservation.complete_iff, FailsafeObservation.complete_iff]
      simp only [hother]
    rw [f.onParameter_unknown (not_exists.mp hknown)]
    exact ⟨⟨h.system, h.required, fun i => (h.values i).trans (hother i).symm⟩,
      fun hno => h.missing (mt hcomplete.mpr hno), fun hyes => h.validated (hcomplete.mp hyes)⟩

/-- A vehicle seen for the first time. -/
theorem Observes.start (system : UInt8) :
    Observes (CompanionLinkFailsafe.reset (some system)) { system := system } := by
  refine ⟨⟨rfl, rfl, fun i => ?_⟩, fun _ => ⟨rfl, rfl, rfl, rfl, rfl⟩, fun hcomplete => ?_⟩
  · fin_cases i <;> rfl
  exact absurd rfl (hcomplete "FS_OPTIONS" (by decide))

theorem Agrees.system {observed : Option FailsafeObservation} (h : Agrees f observed) :
    f.snapshot.heartbeatSystemId = observed.map FailsafeObservation.system := by
  cases observed with
  | none =>
      cases h
      rfl
  | some o =>
      have hobserves : Observes f o := h
      exact hobserves.system

/-- Unless it shows the observed system again, a call starts another observation or none. -/
theorem FailsafeObservation.after_observeVehicle (observed : Option FailsafeObservation) (connected : Bool)
    (systemId : Option UInt8) :
    after observed (.observeVehicle connected systemId) =
      if observed.map FailsafeObservation.system = CompanionLinkFailsafe.shown connected systemId then observed
      else (CompanionLinkFailsafe.shown connected systemId).map fun system => { system := system } := by
  cases connected with
  | false => cases observed <;> rfl
  | true =>
      cases systemId with
      | none => cases observed <;> rfl
      | some systemId => rfl

theorem Agrees.observeVehicle {observed : Option FailsafeObservation} (h : Agrees f observed)
    (connected : Bool) (systemId : Option UInt8) :
    Agrees (f.observeVehicle connected systemId)
      (FailsafeObservation.after observed (.observeVehicle connected systemId)) := by
  rw [f.observeVehicle_eq, FailsafeObservation.after_observeVehicle, h.system]
  split
  · exact h
  · cases CompanionLinkFailsafe.shown connected systemId with
    | none => rfl
    | some system => exact Observes.start system

theorem Agrees.parameter {observed : Option FailsafeObservation} (h : Agrees f observed)
    (sourceSystem sourceComponent : UInt8) (id : Bytes) (value : Binary64) :
    Agrees (f.onParameter sourceSystem sourceComponent id value)
      (FailsafeObservation.after observed (.onParameter sourceSystem sourceComponent id value)) := by
  cases observed with
  | none =>
      cases h
      rfl
  | some o =>
      have hobserves : Observes f o := h
      rw [FailsafeObservation.after, Option.map_some]
      by_cases hsource : sourceSystem = o.system ∧ sourceComponent = kAutopilotComponentId
      · rw [if_pos hsource, hsource.1, hsource.2]
        exact hobserves.receive id value
      · rw [if_neg hsource]
        have hforeign : f.hears sourceSystem sourceComponent = false := by
          rw [CompanionLinkFailsafe.hears, hobserves.system, ← Bool.not_eq_true, Bool.and_eq_true, beq_iff_eq,
            beq_iff_eq, Option.some.injEq]
          intro hsame
          exact hsource ⟨hsame.1.symm, hsame.2⟩
        rw [CompanionLinkFailsafe.onParameter_unheard hforeign]
        exact hobserves

/-- One call keeps the failsafe in step with what was observed. -/
theorem Agrees.call {observed : Option FailsafeObservation} (h : Agrees f observed) (c : FailsafeCall) :
    Agrees (f.call c) (FailsafeObservation.after observed c) := by
  cases c with
  | onParameter sourceSystem sourceComponent id value =>
      exact h.parameter sourceSystem sourceComponent id value
  | observeVehicle connected systemId => exact h.observeVehicle connected systemId

end Steps

theorem runFailsafe_agrees (calls : List FailsafeCall) :
    Agrees (runFailsafe calls) (FailsafeObservation.of calls) := by
  induction calls using List.reverseRecOn with
  | nil => rfl
  | append_singleton calls c ih =>
      rw [runFailsafe, FailsafeObservation.of, List.foldl_append, List.foldl_append]
      exact ih.call c

/-! ### The verdict -/

/-- What the snapshot says about an observation. -/
structure Verdict (observed : Option FailsafeObservation) (s : CompanionLinkFailsafeSnapshot) : Prop where
  waiting : s.phase = .waitingForVehicle ↔ observed = none
  reading : ∀ o, observed = some o → (s.phase = .readingParameters ↔ ¬o.Complete)
  accepted : ∀ o, observed = some o → (s.phase = .accepted ↔ o.Lands)
  rejected : ∀ o, observed = some o → (s.phase = .rejected ↔ o.Complete ∧ ¬o.Lands)
  empty : s.phase = .waitingForVehicle ∨ s.phase = .readingParameters → s.Empty
  action : ∀ action, s.action = some action →
    ∃ o, observed = some o ∧ o.latest "FS_GCS_ENABLE" = some (.finite action.code)
  timeout : ∀ timeout, s.timeoutS = some timeout →
    timeout.isFinite = true ∧ ∃ o, observed = some o ∧ o.latest "FS_GCS_TIMEOUT" = some timeout
  options : ∀ options, s.options = some options →
    ∃ o, observed = some o ∧ o.latest "FS_OPTIONS" = some (.finite options.toNat)
  systemId : ∀ gcs, s.configuredGcsSystemId = some gcs →
    ∃ o, observed = some o ∧ o.latest "SYSID_MYGCS" = some (.finite gcs.toNat)

/-- The snapshot once all four parameters have been received. -/
structure Validated (o : FailsafeObservation) (s : CompanionLinkFailsafeSnapshot) : Prop where
  action : ∀ action, s.action = some action ↔ o.latest "FS_GCS_ENABLE" = some (.finite action.code)
  timeout : s.timeoutS = (o.latest "FS_GCS_TIMEOUT").filter Binary64.isFinite
  options : ∀ options, s.options = some options ↔ o.latest "FS_OPTIONS" = some (.finite options.toNat)
  systemId : ∀ gcs, s.configuredGcsSystemId = some gcs ↔ o.latest "SYSID_MYGCS" = some (.finite gcs.toNat)
  accepted : s.phase = .accepted ↔ o.Lands
  cases : s.phase = .accepted ∨ s.phase = .rejected

theorem Observes.complete {f : CompanionLinkFailsafe} {o : FailsafeObservation} (h : Observes f o)
    (hcomplete : o.Complete) : Validated o f.snapshot := by
  have hvalidated : f.validate = _ := if_neg fun hlt => h.receivedCount_lt_iff.mp hlt hcomplete
  rw [← h.validated hcomplete, hvalidated]
  constructor
  case action =>
    intro action
    rw [← h.toStores.action]
    exact action_eq_some
  case timeout => rw [← h.toStores.timeout]
  case options =>
    intro options
    rw [← h.toStores.options]
    exact exactInteger_word
  case systemId =>
    intro gcs
    rw [← h.toStores.systemId]
    exact exactInteger_byte
  case cases => exact CompanionLinkFailsafe.verdict_cases ..
  case accepted =>
    apply CompanionLinkFailsafe.verdict_accepted_iff.trans
    simp only [action_eq_some, acceptableTimeout_iff, exactInteger_word, exactInteger_byte,
      continuation_mask, h.toStores.action, h.toStores.timeout, h.toStores.options, h.toStores.systemId, h.system]
    constructor
    · rintro ⟨haction, htimeout, ⟨word, hoptions, hbits⟩, gcs, hgcs, hzero, hsystem⟩
      cases hsystem
      exact ⟨haction, htimeout, ⟨word.toNat, hoptions, word.toNat_lt, hbits.1, hbits.2⟩, hgcs, hzero⟩
    · intro hlands
      obtain ⟨n, hoptions, hlt, hfirst, hsecond⟩ := hlands.options
      have hword : (UInt32.ofNat n).toNat = n := UInt32.toNat_ofNat_of_lt' hlt
      refine ⟨hlands.action, hlands.timeout, ⟨UInt32.ofNat n, by rw [hword]; exact hoptions, ?_, ?_⟩,
        o.system, hlands.systemId.1, hlands.systemId.2, rfl⟩
      · rw [wordBit, hword]
        exact hfirst
      · rw [wordBit, hword]
        exact hsecond

theorem FailsafeObservation.Lands.complete {o : FailsafeObservation} (h : o.Lands) : o.Complete := by
  obtain ⟨q, htimeout, _⟩ := h.timeout
  obtain ⟨n, hoptions, _⟩ := h.options
  simp [FailsafeObservation.Complete, CompanionLinkFailsafe.parameterNames, h.action, htimeout, hoptions,
    h.systemId.1]

theorem Verdict.nothing : Verdict none {} where
  waiting := iff_of_true rfl rfl
  reading _ h := nomatch h
  accepted _ h := nomatch h
  rejected _ h := nomatch h
  empty _ := ⟨rfl, rfl, rfl, rfl⟩
  action _ h := nomatch h
  timeout _ h := nomatch h
  options _ h := nomatch h
  systemId _ h := nomatch h

/-- While a parameter is missing the policy is being read and nothing of it is shown. -/
theorem Verdict.partly {o : FailsafeObservation} {s : CompanionLinkFailsafeSnapshot} (hmissing : ¬o.Complete)
    (hphase : s.phase = .readingParameters) (hempty : s.Empty) : Verdict (some o) s := by
  obtain ⟨haction, htimeout, hoptions, hsystemId⟩ := hempty
  have hnot : ¬o.Lands := fun hlands => hmissing hlands.complete
  constructor
  case waiting => simp [hphase]
  case reading =>
    rintro _ ⟨⟩
    exact iff_of_true hphase hmissing
  case accepted =>
    rintro _ ⟨⟩
    exact iff_of_false (by simp [hphase]) hnot
  case rejected =>
    rintro _ ⟨⟩
    exact iff_of_false (by simp [hphase]) fun h => hmissing h.1
  case empty =>
    intro _
    exact ⟨haction, htimeout, hoptions, hsystemId⟩
  case action =>
    intro _ h
    rw [haction] at h
    cases h
  case timeout =>
    intro _ h
    rw [htimeout] at h
    cases h
  case options =>
    intro _ h
    rw [hoptions] at h
    cases h
  case systemId =>
    intro _ h
    rw [hsystemId] at h
    cases h

theorem Validated.verdict {o : FailsafeObservation} {s : CompanionLinkFailsafeSnapshot} (h : Validated o s)
    (hcomplete : o.Complete) : Verdict (some o) s := by
  have hwaiting : s.phase ≠ .waitingForVehicle := by rcases h.cases with hphase | hphase <;> simp [hphase]
  have hreading : s.phase ≠ .readingParameters := by rcases h.cases with hphase | hphase <;> simp [hphase]
  constructor
  case waiting => simp [hwaiting]
  case reading =>
    rintro _ ⟨⟩
    exact iff_of_false hreading (not_not.mpr hcomplete)
  case accepted =>
    rintro _ ⟨⟩
    exact h.accepted
  case rejected =>
    rintro _ ⟨⟩
    rw [← h.accepted]
    constructor
    · intro hphase
      exact ⟨hcomplete, by simp [hphase]⟩
    · rintro ⟨_, hnot⟩
      exact h.cases.resolve_left hnot
  case empty =>
    intro hphase
    exact absurd hphase (not_or.mpr ⟨hwaiting, hreading⟩)
  case action =>
    intro action haction
    exact ⟨o, rfl, (h.action action).mp haction⟩
  case timeout =>
    intro timeout htimeout
    rw [h.timeout, Option.filter_eq_some_iff] at htimeout
    exact ⟨htimeout.2, o, rfl, htimeout.1⟩
  case options =>
    intro options hoptions
    exact ⟨o, rfl, (h.options options).mp hoptions⟩
  case systemId =>
    intro gcs hgcs
    exact ⟨o, rfl, (h.systemId gcs).mp hgcs⟩

/-- The timeout that an accepted failsafe shows. -/
theorem runFailsafe_accepted {calls : List FailsafeCall} (h : (runFailsafe calls).snapshot.accepted = true) :
    ∃ q, (runFailsafe calls).snapshot.timeoutS = some (.finite q) ∧ 2 ≤ q ∧ q ≤ 10 := by
  have hphase : (runFailsafe calls).snapshot.phase = .accepted := by
    simpa [CompanionLinkFailsafeSnapshot.accepted] using h
  have hagrees := runFailsafe_agrees calls
  cases hobserved : FailsafeObservation.of calls with
  | none =>
      rw [hobserved] at hagrees
      rw [hagrees] at hphase
      cases hphase
  | some o =>
      rw [hobserved] at hagrees
      have hobserves : Observes (runFailsafe calls) o := hagrees
      by_cases hcomplete : o.Complete
      · have hvalidated := hobserves.complete hcomplete
        obtain ⟨q, htimeout, hlow, hhigh⟩ := (hvalidated.accepted.mp hphase).timeout
        refine ⟨q, ?_, hlow, hhigh⟩
        rw [hvalidated.timeout, htimeout]
        rfl
      · rw [(hobserves.missing hcomplete).1] at hphase
        cases hphase

/-- The failsafe verdict is exact. -/
theorem runFailsafe_verdict (calls : List FailsafeCall) :
    Verdict (FailsafeObservation.of calls) (runFailsafe calls).snapshot := by
  have hagrees := runFailsafe_agrees calls
  cases hobserved : FailsafeObservation.of calls with
  | none =>
      rw [hobserved] at hagrees
      rw [hagrees]
      exact Verdict.nothing
  | some o =>
      rw [hobserved] at hagrees
      have hobserves : Observes (runFailsafe calls) o := hagrees
      by_cases hcomplete : o.Complete
      · exact (hobserves.complete hcomplete).verdict hcomplete
      · obtain ⟨hphase, hempty⟩ := hobserves.missing hcomplete
        exact Verdict.partly hcomplete hphase hempty

end OnboardAutonomy
