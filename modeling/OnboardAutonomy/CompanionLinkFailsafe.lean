import OnboardAutonomy.MavlinkMessage
import Mathlib.Data.Fintype.Basic
import Mathlib.Tactic.FinCases

/-! `CompanionLinkFailsafe`: reads four parameters of the observed vehicle and judges whether it will
land when the companion heartbeat is lost. -/

namespace OnboardAutonomy

inductive CompanionLinkFailsafePhase where
  | waitingForVehicle
  | readingParameters
  | accepted
  | rejected
  deriving DecidableEq

inductive ArduPilotGcsFailsafeAction where
  | disabled
  | rtl
  | removedContinueMission
  | smartRtlOrRtl
  | smartRtlOrLand
  | land
  | autoLandStartOrRtl
  | brakeOrLand
  deriving DecidableEq

namespace ArduPilotGcsFailsafeAction

/-- The enumerator's value. -/
def code : ArduPilotGcsFailsafeAction → Nat
  | disabled => 0
  | rtl => 1
  | removedContinueMission => 2
  | smartRtlOrRtl => 3
  | smartRtlOrLand => 4
  | land => 5
  | autoLandStartOrRtl => 6
  | brakeOrLand => 7

/-- The cast from a byte, guarded by the last enumerator. -/
def ofCode (value : UInt8) : Option ArduPilotGcsFailsafeAction :=
  match value.toNat with
  | 0 => some disabled
  | 1 => some rtl
  | 2 => some removedContinueMission
  | 3 => some smartRtlOrRtl
  | 4 => some smartRtlOrLand
  | 5 => some land
  | 6 => some autoLandStartOrRtl
  | 7 => some brakeOrLand
  | _ => none

theorem ofCode_eq_some {value : UInt8} {action : ArduPilotGcsFailsafeAction} :
    ofCode value = some action ↔ value.toNat = action.code := by
  unfold ofCode
  cases action <;> split <;> simp_all [code]

end ArduPilotGcsFailsafeAction

structure CompanionLinkFailsafeSnapshot where
  phase : CompanionLinkFailsafePhase := .waitingForVehicle
  detail : String := "Waiting for the flight-controller heartbeat"
  heartbeatSystemId : Option UInt8 := none
  configuredGcsSystemId : Option UInt8 := none
  action : Option ArduPilotGcsFailsafeAction := none
  timeoutS : Option Binary64 := none
  options : Option UInt32 := none
  parametersReceived : Nat := 0
  parametersRequired : Nat := 4
  deriving DecidableEq

def CompanionLinkFailsafeSnapshot.accepted (snapshot : CompanionLinkFailsafeSnapshot) : Bool :=
  snapshot.phase == .accepted

def kGcsFailsafeContinuationMask : UInt32 := ((1 : UInt32) <<< 1) ||| ((1 : UInt32) <<< 4)
def kMinimumTimeoutS : Binary64 := .finite 2
def kMaximumTimeoutS : Binary64 := .finite 10
def kAutopilotComponentId : UInt8 := 1

/-- `exact_integer`: a value that is an integer between 0 and a maximum. -/
def exactInteger {T : Type} (cast : Nat → T) (value : Option Binary64) (maximum : Binary64) : Option T :=
  value.bind fun value =>
    if !value.isFinite || value.lt .zero || maximum.lt value || !value.trunc.eq value then none
    else some (cast value.toNat)

def timeoutDetail (timeoutS : Binary64) : String := timeoutS.fixedTenths

structure CompanionLinkFailsafe where
  snapshot : CompanionLinkFailsafeSnapshot := {}
  rawAction : Option Binary64 := none
  rawTimeoutS : Option Binary64 := none
  rawOptions : Option Binary64 := none
  rawGcsSystemId : Option Binary64 := none
  deriving DecidableEq

namespace CompanionLinkFailsafe

def parameterNames : List String := ["FS_GCS_ENABLE", "FS_GCS_TIMEOUT", "FS_OPTIONS", "SYSID_MYGCS"]

def reset (systemId : Option UInt8) : CompanionLinkFailsafe :=
  { snapshot :=
      if systemId.isSome then
        { heartbeatSystemId := systemId
          phase := .readingParameters
          detail := "Reading ArduPilot companion-link failsafe parameters" }
      else { heartbeatSystemId := systemId } }

def observeVehicle (f : CompanionLinkFailsafe) (connected : Bool) (systemId : Option UInt8) :
    CompanionLinkFailsafe :=
  if !connected || systemId.isNone then
    if f.snapshot.heartbeatSystemId.isSome then reset none else f
  else if f.snapshot.heartbeatSystemId != systemId then reset systemId
  else f

/-- A timeout within the accepted bounds. -/
def acceptableTimeout (timeoutS : Option Binary64) : Bool :=
  timeoutS.any fun timeout => timeout.isFinite && !timeout.lt kMinimumTimeoutS && !kMaximumTimeoutS.lt timeout

/-- The checks of `validate` once all parameters are there, in their order. -/
def verdict (action : Option ArduPilotGcsFailsafeAction) (rawTimeoutS : Option Binary64)
    (optionsValue : Option UInt32) (gcsSystemId heartbeatSystemId : Option UInt8) :
    CompanionLinkFailsafePhase × String :=
  match action with
  | none => (.rejected, "FS_GCS_ENABLE is unsupported")
  | some action =>
    if action != .land then (.rejected, "FS_GCS_ENABLE must be 5 (Always LAND)")
    else if !acceptableTimeout rawTimeoutS then
      (.rejected, "FS_GCS_TIMEOUT must be between 2 and 10 seconds")
    else match optionsValue with
    | none => (.rejected, "FS_OPTIONS is not a valid bitmask")
    | some options =>
      if (options &&& kGcsFailsafeContinuationMask) != 0 then
        (.rejected, "FS_OPTIONS must not bypass GCS failsafe in Auto or pilot modes")
      else match gcsSystemId with
      | none => (.rejected, "SYSID_MYGCS is invalid")
      | some gcs =>
        if gcs == 0 then (.rejected, "SYSID_MYGCS is invalid")
        else if heartbeatSystemId != some gcs then
          (.rejected, "SYSID_MYGCS must match companion heartbeat system id " ++
            heartbeatSystemId.elim "unknown" fun id => toString id.toNat)
        else
          (.accepted, "ArduPilot will LAND after " ++ rawTimeoutS.elim "" timeoutDetail ++
            " s without the companion heartbeat")

/-- How many of the four parameters are there. -/
def receivedCount (f : CompanionLinkFailsafe) : Nat :=
  f.rawAction.isSome.toNat + f.rawTimeoutS.isSome.toNat + f.rawOptions.isSome.toNat +
    f.rawGcsSystemId.isSome.toNat

def validate (f : CompanionLinkFailsafe) : CompanionLinkFailsafe :=
  let received := f.receivedCount
  if received < f.snapshot.parametersRequired then
    { f with snapshot := { f.snapshot with
        parametersReceived := received
        phase := .readingParameters
        detail := "Reading ArduPilot failsafe parameters (" ++ toString received ++ "/" ++
          toString f.snapshot.parametersRequired ++ ")" } }
  else
    let action := (exactInteger UInt8.ofNat f.rawAction (.finite 255)).bind ArduPilotGcsFailsafeAction.ofCode
    let options := exactInteger UInt32.ofNat f.rawOptions (.finite 4294967295)
    let gcsSystemId := exactInteger UInt8.ofNat f.rawGcsSystemId (.finite 255)
    let judged := verdict action f.rawTimeoutS options gcsSystemId f.snapshot.heartbeatSystemId
    { f with snapshot := { f.snapshot with
        parametersReceived := received
        action := action
        timeoutS := f.rawTimeoutS.filter Binary64.isFinite
        options := options
        configuredGcsSystemId := gcsSystemId
        phase := judged.1
        detail := judged.2 } }

def onParameter (f : CompanionLinkFailsafe) (sourceSystem sourceComponent : UInt8) (id : Bytes)
    (value : Binary64) : CompanionLinkFailsafe :=
  if f.snapshot.heartbeatSystemId != some sourceSystem || sourceComponent != kAutopilotComponentId then f
  else if id == literal "FS_GCS_ENABLE" then { f with rawAction := some value }.validate
  else if id == literal "FS_GCS_TIMEOUT" then { f with rawTimeoutS := some value }.validate
  else if id == literal "FS_OPTIONS" then { f with rawOptions := some value }.validate
  else if id == literal "SYSID_MYGCS" then { f with rawGcsSystemId := some value }.validate
  else f

/-! ### What a call can do -/

/-- The system that a call of `observe_vehicle` shows. -/
def shown (connected : Bool) (systemId : Option UInt8) : Option UInt8 := if connected then systemId else none

/-- Unless it shows the observed system again, a call of `observe_vehicle` is a reset. -/
theorem observeVehicle_eq (f : CompanionLinkFailsafe) (connected : Bool) (systemId : Option UInt8) :
    f.observeVehicle connected systemId =
      if f.snapshot.heartbeatSystemId = shown connected systemId then f else reset (shown connected systemId) := by
  cases connected with
  | false => cases h : f.snapshot.heartbeatSystemId <;> simp [observeVehicle, shown, h]
  | true =>
      cases systemId with
      | none => cases h : f.snapshot.heartbeatSystemId <;> simp [observeVehicle, shown, h]
      | some systemId =>
          by_cases h : f.snapshot.heartbeatSystemId = some systemId <;> simp [observeVehicle, shown, h]

theorem reset_heartbeatSystemId (systemId : Option UInt8) :
    (reset systemId).snapshot.heartbeatSystemId = systemId := by
  cases systemId <;> rfl

theorem observeVehicle_heartbeatSystemId (f : CompanionLinkFailsafe) (connected : Bool)
    (systemId : Option UInt8) :
    (f.observeVehicle connected systemId).snapshot.heartbeatSystemId = shown connected systemId := by
  rw [observeVehicle_eq]
  split
  · assumption
  · exact reset_heartbeatSystemId _

/-- The parameters of this source are those of the observed vehicle. -/
def hears (f : CompanionLinkFailsafe) (sourceSystem sourceComponent : UInt8) : Bool :=
  f.snapshot.heartbeatSystemId == some sourceSystem && sourceComponent == kAutopilotComponentId

/-- The name of the parameter at an index. -/
def nameAt (index : Fin 4) : String := parameterNames.get index

def parameterName (index : Fin 4) : Bytes := literal (nameAt index)

theorem mem_parameterNames {name : String} : name ∈ parameterNames ↔ ∃ index, nameAt index = name :=
  List.mem_iff_get

theorem parameterName_injective : ∀ i j, parameterName i = parameterName j → i = j := by decide

/-- The raw value held for the parameter at an index. -/
def held (f : CompanionLinkFailsafe) : Fin 4 → Option Binary64
  | 0 => f.rawAction
  | 1 => f.rawTimeoutS
  | 2 => f.rawOptions
  | 3 => f.rawGcsSystemId

/-- A value replaces the one held for its parameter. -/
def store (f : CompanionLinkFailsafe) (index : Fin 4) (value : Binary64) : CompanionLinkFailsafe :=
  match index with
  | 0 => { f with rawAction := some value }
  | 1 => { f with rawTimeoutS := some value }
  | 2 => { f with rawOptions := some value }
  | 3 => { f with rawGcsSystemId := some value }

theorem store_snapshot (f : CompanionLinkFailsafe) (index : Fin 4) (value : Binary64) :
    (f.store index value).snapshot = f.snapshot := by
  fin_cases index <;> rfl

theorem held_store (f : CompanionLinkFailsafe) (index i : Fin 4) (value : Binary64) :
    (f.store index value).held i = if i = index then some value else f.held i := by
  fin_cases index <;> fin_cases i <;> rfl

theorem not_hears (f : CompanionLinkFailsafe) (sourceSystem sourceComponent : UInt8) :
    (f.snapshot.heartbeatSystemId != some sourceSystem || sourceComponent != kAutopilotComponentId) =
      !f.hears sourceSystem sourceComponent := by
  rw [hears, Bool.not_and]
  rfl

theorem onParameter_unheard {f : CompanionLinkFailsafe} {sourceSystem sourceComponent : UInt8}
    (h : f.hears sourceSystem sourceComponent = false) (id : Bytes) (value : Binary64) :
    f.onParameter sourceSystem sourceComponent id value = f := by
  rw [onParameter, not_hears, h]
  rfl

/-- A value of the observed vehicle is stored under its name, and the policy is validated. -/
theorem onParameter_heard {f : CompanionLinkFailsafe} {sourceSystem sourceComponent : UInt8}
    (h : f.hears sourceSystem sourceComponent = true) (index : Fin 4) (value : Binary64) :
    f.onParameter sourceSystem sourceComponent (parameterName index) value =
      (f.store index value).validate := by
  rw [onParameter, not_hears, h]
  fin_cases index <;> rfl

/-- A value under another name is not stored. -/
theorem onParameter_unknown (f : CompanionLinkFailsafe) {id : Bytes} (h : ∀ i, id ≠ parameterName i)
    (sourceSystem sourceComponent : UInt8) (value : Binary64) :
    f.onParameter sourceSystem sourceComponent id value = f := by
  have hother : ∀ i, ¬(id == parameterName i) = true := fun i => mt beq_iff_eq.mp (h i)
  rw [onParameter]
  split
  · rfl
  · exact (if_neg (hother 0)).trans ((if_neg (hother 1)).trans ((if_neg (hother 2)).trans (if_neg (hother 3))))

/-- A parameter changes nothing, or its value is stored under its name and the policy is validated. -/
theorem onParameter_cases (f : CompanionLinkFailsafe) (sourceSystem sourceComponent : UInt8) (id : Bytes)
    (value : Binary64) :
    f.onParameter sourceSystem sourceComponent id value = f ∨
      ∃ index, f.hears sourceSystem sourceComponent = true ∧ id = parameterName index ∧
        f.onParameter sourceSystem sourceComponent id value = (f.store index value).validate := by
  cases hhears : f.hears sourceSystem sourceComponent with
  | false => exact Or.inl (onParameter_unheard hhears id value)
  | true =>
      by_cases hknown : ∃ index, id = parameterName index
      · obtain ⟨index, rfl⟩ := hknown
        exact Or.inr ⟨index, rfl, rfl, onParameter_heard hhears index value⟩
      · exact Or.inl (f.onParameter_unknown (not_exists.mp hknown) sourceSystem sourceComponent value)

/-- A parameter is missing as long as fewer than four are there. -/
theorem receivedCount_lt_iff (f : CompanionLinkFailsafe) :
    f.receivedCount < 4 ↔ ¬∀ i, (f.held i).isSome = true := by
  rw [receivedCount, Fin.forall_fin_succ, Fin.forall_fin_succ, Fin.forall_fin_succ, Fin.forall_fin_one]
  show _ ↔ ¬(f.rawAction.isSome = true ∧ f.rawTimeoutS.isSome = true ∧ f.rawOptions.isSome = true ∧
    f.rawGcsSystemId.isSome = true)
  cases f.rawAction.isSome <;> cases f.rawTimeoutS.isSome <;> cases f.rawOptions.isSome <;>
    cases f.rawGcsSystemId.isSome <;> decide

end CompanionLinkFailsafe
end OnboardAutonomy
