import OnboardAutonomy.Attempts
import OnboardAutonomy.Json
import OnboardAutonomy.Rounding
import Mathlib.Data.Vector.Basic

/-! Reading JSON values the way the `nlohmann::json` accessors do. A `double` is any number; an integer of 32
bits is cast from any number or boolean without a check, and from a floating-point number out of its range it
is whatever the cast gives, a parameter; of an array the first elements are read, and those behind them are
passed over. Nothing here is about a particular program. -/

namespace OnboardAutonomy

/-- Why a document or a value in it cannot be read. -/
inductive JsonError where
  | parse
  | type
  | outOfRange
  deriving DecidableEq

/-- `static_cast<std::uint32_t>` of a `double`: the integral part, where it is in range. -/
def Binary64.toUInt32 (outside : Binary64 → UInt32) : Binary64 → UInt32
  | .finite q =>
      let integral := if 0 ≤ q then ⌊q⌋ else ⌈q⌉
      if 0 ≤ integral ∧ integral < 2 ^ 32 then UInt32.ofNat integral.toNat else outside (.finite q)
  | x => outside x

namespace Json

open Attempts

/-- `at` of an object. -/
def member (json : Json) (name : String) : Except JsonError Json :=
  match json with
  | .object fields =>
      match fields.find? fun field => field.1 = name with
      | some field => .ok field.2
      | none => .error .outOfRange
  | _ => .error .type

/-- `get<std::string>`. -/
def getString : Json → Except JsonError (List UInt8)
  | .string value => .ok value
  | _ => .error .type

/-- `get<bool>`. -/
def getBool : Json → Except JsonError Bool
  | .boolean value => .ok value
  | _ => .error .type

/-- `get<double>`. -/
def getDouble : Json → Except JsonError Binary64
  | .integer value => .ok (.ofInt value)
  | .number value => .ok value
  | _ => .error .type

/-- `get<std::uint32_t>`. -/
def getUInt32 (outside : Binary64 → UInt32) : Json → Except JsonError UInt32
  | .integer value => .ok (UInt32.ofInt value)
  | .number value => .ok (value.toUInt32 outside)
  | .boolean value => .ok (if value then 1 else 0)
  | _ => .error .type

section Arrays

variable {α : Type} (get : Json → Except JsonError α)

def getFirst : (n : Nat) → List Json → Except JsonError (List.Vector α n)
  | 0, _ => .ok .nil
  | _ + 1, [] => .error .outOfRange
  | n + 1, element :: elements => do
      let value ← get element
      let values ← getFirst n elements
      .ok (value ::ᵥ values)

/-- `get<std::array<T, n>>`. -/
def getArray (n : Nat) : Json → Except JsonError (List.Vector α n)
  | .array elements => getFirst get n elements
  | _ => .error .type

end Arrays

/-! ### What has been read -/

theorem getString_eq_ok {json : Json} {value : List UInt8} :
    json.getString = .ok value ↔ json = .string value := by
  cases json <;> simp [getString]

theorem getBool_eq_ok {json : Json} {value : Bool} : json.getBool = .ok value ↔ json = .boolean value := by
  cases json <;> simp [getBool]

/-- The elements that have been read are the first ones. -/
theorem getFirst_eq_ok {α : Type} {get : Json → Except JsonError α} {n : Nat} {elements : List Json}
    {values : List.Vector α n} (h : getFirst get n elements = .ok values) :
    n ≤ elements.length ∧
      List.Forall₂ (fun element value => get element = .ok value) (elements.take n) values.toList := by
  induction n generalizing elements with
  | zero =>
      rw [List.take_zero, values.eq_nil]
      exact ⟨Nat.zero_le _, .nil⟩
  | succ n ih =>
      cases elements with
      | nil => cases h
      | cons element elements =>
          rw [getFirst, bind_eq_ok] at h
          obtain ⟨value, hvalue, h⟩ := h
          obtain ⟨rest, hrest, h⟩ := bind_eq_ok.mp h
          cases h
          obtain ⟨hle, hall⟩ := ih hrest
          rw [List.take_succ_cons, List.Vector.toList_cons]
          exact ⟨Nat.succ_le_succ hle, .cons hvalue hall⟩

/-- An array that begins with elements of which these values are read. -/
def BeginsWith {α : Type} (reads : Json → α → Prop) (values : List α) (json : Json) : Prop :=
  ∃ elements rest, json = .array (elements ++ rest) ∧ List.Forall₂ reads elements values

/-- An array of the elements of which these values are read. -/
def Contains {α : Type} (reads : Json → α → Prop) (values : List α) (json : Json) : Prop :=
  ∃ elements, json = .array elements ∧ List.Forall₂ reads elements values

/-- An array of so many elements. -/
def HasLength (n : Nat) (json : Json) : Prop := ∃ elements, json = .array elements ∧ elements.length = n

theorem getArray_eq_ok {α : Type} {get : Json → Except JsonError α} {n : Nat} {json : Json}
    {values : List.Vector α n} (h : json.getArray get n = .ok values) :
    BeginsWith (fun element value => get element = .ok value) values.toList json := by
  cases json with
  | array elements =>
      refine ⟨elements.take n, elements.drop n, ?_, (getFirst_eq_ok h).2⟩
      rw [List.take_append_drop]
  | _ => cases h

section Arrays

variable {α : Type} {reads : Json → α → Prop} {values : List α} {json : Json}

/-- The values that have been read may be told by others. -/
theorem BeginsWith.trans {β : Type} {reads' : Json → β → Prop} {R : α → β → Prop} {values' : List β}
    (h : BeginsWith reads values json) (hvalues : List.Forall₂ R values values')
    (himp : ∀ element value value', reads element value → R value value' → reads' element value') :
    BeginsWith reads' values' json := by
  obtain ⟨elements, rest, hjson, hall⟩ := h
  exact ⟨elements, rest, hjson, forall₂_comp hall hvalues himp⟩

/-- The elements that have been read are all of them when there are no more. -/
theorem BeginsWith.contains_iff (h : BeginsWith reads values json) :
    Contains reads values json ↔ HasLength values.length json := by
  obtain ⟨elements, rest, rfl, hall⟩ := h
  constructor
  · rintro ⟨elements', hjson, hall'⟩
    exact ⟨elements', hjson, hall'.length_eq⟩
  · rintro ⟨elements', hjson, hlength⟩
    cases hjson
    rw [List.length_append, hall.length_eq] at hlength
    have hrest : rest = [] := List.eq_nil_of_length_eq_zero (by omega)
    exact ⟨elements, by rw [hrest, List.append_nil], hall⟩

end Arrays

/-- A number of this value. -/
def IsNumber (value : ℚ) (json : Json) : Prop :=
  (∃ n : Int, json = .integer n ∧ (n : ℚ) = value) ∨ json = .number (.finite value)

/-- A number that `std::uint32_t` has. -/
def IsUInt32 (json : Json) : Prop := ∃ n : Nat, n < 2 ^ 32 ∧ IsNumber n json

/-- Such a number is cast to itself. -/
theorem getUInt32_of_isNumber {outside : Binary64 → UInt32} {json : Json} {n : Nat} (hn : n < 2 ^ 32)
    (h : IsNumber n json) : json.getUInt32 outside = .ok (UInt32.ofNat n) := by
  rcases h with ⟨m, rfl, hm⟩ | rfl
  · have hm : m = (n : Int) := by exact_mod_cast hm
    have hmod : (n : Int) % 2 ^ 32 = n := Int.emod_eq_of_lt (Int.natCast_nonneg n) (by exact_mod_cast hn)
    rw [getUInt32, hm, UInt32.ofInt, hmod, Int.toNat_natCast]
  · rw [getUInt32, Binary64.toUInt32, if_pos (Nat.cast_nonneg n), Int.floor_natCast, Int.toNat_natCast,
      if_pos ⟨Int.natCast_nonneg n, by exact_mod_cast hn⟩]

/-- What is read is the number in the document when that is in range, and only then. -/
theorem isNumber_iff {outside : Binary64 → UInt32} {json : Json} {value : UInt32}
    (h : json.getUInt32 outside = .ok value) : IsNumber value.toNat json ↔ IsUInt32 json := by
  constructor
  · exact fun hnumber => ⟨value.toNat, value.toNat_lt, hnumber⟩
  · rintro ⟨n, hn, hnumber⟩
    rw [getUInt32_of_isNumber hn hnumber] at h
    rw [← Except.ok.inj h, UInt32.toNat_ofNat_of_lt' hn]
    exact hnumber

/-! ### Paths -/

/-- What stands behind one name after another. -/
def Holds (json : Json) (path : List String) (p : Json → Prop) : Prop :=
  ∃ value, path.foldlM member json = .ok value ∧ p value

section Paths

variable {json : Json} {path : List String} {p q : Json → Prop}

theorem Holds.here (h : p json) : json.Holds [] p := ⟨json, rfl, h⟩

theorem Holds.behind {name : String} {value : Json} (hmember : json.member name = .ok value)
    (h : value.Holds path p) : json.Holds (name :: path) p := by
  obtain ⟨found, hfound, hp⟩ := h
  refine ⟨found, ?_, hp⟩
  rw [List.foldlM_cons, hmember]
  exact hfound

theorem Holds.imp (h : json.Holds path p) (himp : ∀ value, p value → q value) : json.Holds path q := by
  obtain ⟨value, hvalue, hp⟩ := h
  exact ⟨value, hvalue, himp value hp⟩

/-- What holds of the same value can be told from both. -/
theorem Holds.iff {r : Json → Prop} (h : json.Holds path p) (himp : ∀ value, p value → (q value ↔ r value)) :
    json.Holds path q ↔ json.Holds path r := by
  obtain ⟨value, hvalue, hp⟩ := h
  constructor
  · rintro ⟨value', hvalue', hq⟩
    cases hvalue.symm.trans hvalue'
    exact ⟨value, hvalue, (himp value hp).mp hq⟩
  · rintro ⟨value', hvalue', hr⟩
    cases hvalue.symm.trans hvalue'
    exact ⟨value, hvalue, (himp value hp).mpr hr⟩

end Paths

end Json

end OnboardAutonomy
