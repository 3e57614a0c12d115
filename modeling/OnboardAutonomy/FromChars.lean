import OnboardAutonomy.Binary64
import Mathlib.Data.Nat.Digits.Defs
import Mathlib.Data.List.Induction
import Mathlib.Data.List.TakeWhile

/-! `std::from_chars`: the longest prefix of a text that is a number, with what follows it. An unsigned
integer is a run of digits; a `double` is read in the general format, without a leading plus sign, and
rounded to nearest. A number out of the range of its type is refused. -/

namespace OnboardAutonomy

def digitValue (digit : Char) : Nat := digit.toNat - '0'.toNat

def decimalValue (digits : List Char) : Nat :=
  digits.foldl (fun value digit => value * 10 + digitValue digit) 0

/-- `from_chars` for an unsigned type with so many values. -/
def fromCharsUnsigned (size : Nat) (text : List Char) : Option (Nat × List Char) :=
  let digits := text.takeWhile Char.isDigit
  if digits.isEmpty || decide (size ≤ decimalValue digits) then none
  else some (decimalValue digits, text.dropWhile Char.isDigit)

/-- The value of a text that is a decimal numeral of an unsigned type, and nothing else. -/
def numeral (size : Nat) (text : String) : Option Nat :=
  if !text.toList.isEmpty && text.toList.all Char.isDigit && decide (decimalValue text.toList < size) then
    some (decimalValue text.toList)
  else none

/-! ### Floating point -/

/-- The rest of a text after a word, whatever the case of its letters. -/
def afterWord : List Char → List Char → Option (List Char)
  | [], text => some text
  | letter :: word, character :: text =>
      if character.toLower = letter then afterWord word text else none
  | _ :: _, [] => none

/-- What follows a NaN: a parenthesised run of letters, digits and underscores belongs to it. -/
def afterNan (text : List Char) : List Char :=
  match text with
  | '(' :: payload =>
      match payload.dropWhile fun character => character.isAlphanum || character = '_' with
      | ')' :: rest => rest
      | _ => text
  | _ => text

/-- The exponent at the head of a text. Without digits it is none, and nothing is read. -/
def readExponent (text : List Char) : Int × List Char :=
  match text with
  | mark :: rest =>
      if mark = 'e' ∨ mark = 'E' then
        let (negative, unsigned) :=
          match rest with
          | '-' :: unsigned => (true, unsigned)
          | '+' :: unsigned => (false, unsigned)
          | _ => (false, rest)
        let digits := unsigned.takeWhile Char.isDigit
        if digits.isEmpty then (0, text)
        else
          (if negative then -(decimalValue digits : Int) else decimalValue digits,
            unsigned.dropWhile Char.isDigit)
      else (0, text)
  | [] => (0, text)

/-- The nearest `double`, gradual underflow included. There is none past the largest one, nor for a number
that would vanish. -/
def nearestDouble (x : ℚ) : Option ℚ :=
  let rounded :=
    if |x| < 1 / 2 ^ 1022 then (Binary64.roundHalfEven (x * 2 ^ 1074) : ℚ) / 2 ^ 1074
    else Binary64.nearest x
  if 2 ^ 1024 ≤ |rounded| ∨ (rounded = 0 ∧ x ≠ 0) then none else some rounded

/-- `from_chars` for a `double`. -/
def fromCharsDouble (text : List Char) : Option (Binary64 × List Char) :=
  let (negative, unsigned) :=
    match text with
    | '-' :: unsigned => (true, unsigned)
    | _ => (false, text)
  if let some rest := afterWord ['i', 'n', 'f', 'i', 'n', 'i', 't', 'y'] unsigned then
    some (if negative then .negInf else .posInf, rest)
  else if let some rest := afterWord ['i', 'n', 'f'] unsigned then
    some (if negative then .negInf else .posInf, rest)
  else if let some rest := afterWord ['n', 'a', 'n'] unsigned then some (.nan, afterNan rest)
  else
    let whole := unsigned.takeWhile Char.isDigit
    let (fraction, rest) :=
      match unsigned.dropWhile Char.isDigit with
      | '.' :: rest => (rest.takeWhile Char.isDigit, rest.dropWhile Char.isDigit)
      | rest => ([], rest)
    if whole.isEmpty && fraction.isEmpty then none
    else
      let (exponent, rest) := readExponent rest
      let magnitude : ℚ := decimalValue (whole ++ fraction) * 10 ^ (exponent - fraction.length)
      (nearestDouble (if negative then -magnitude else magnitude)).map fun value => (.finite value, rest)

/-! ### Reading a whole text -/

theorem decimalValue_eq_ofDigits (digits : List Char) :
    decimalValue digits = Nat.ofDigits 10 (digits.reverse.map digitValue) := by
  induction digits using List.reverseRecOn with
  | nil => rfl
  | append_singleton digits digit ih =>
      rw [List.reverse_append, List.reverse_singleton, List.singleton_append, List.map_cons, Nat.ofDigits_cons, ← ih,
        decimalValue, decimalValue, List.foldl_append]
      show _ * 10 + digitValue digit = digitValue digit + 10 * _
      rw [Nat.mul_comm, Nat.add_comm]

/-- An unsigned number that takes up the whole text is a numeral. -/
theorem fromCharsUnsigned_whole (size : Nat) (text : String) (value : Nat) :
    fromCharsUnsigned size text.toList = some (value, []) ↔ numeral size text = some value := by
  simp only [fromCharsUnsigned, numeral]
  by_cases hall : text.toList.all Char.isDigit = true
  · have htake : text.toList.takeWhile Char.isDigit = text.toList :=
      List.takeWhile_eq_self_iff.mpr (List.all_eq_true.mp hall)
    have hdrop : text.toList.dropWhile Char.isDigit = [] :=
      List.dropWhile_eq_nil_iff.mpr (List.all_eq_true.mp hall)
    rw [htake, hdrop, hall]
    cases text.toList.isEmpty <;> by_cases hsize : size ≤ decimalValue text.toList <;>
      simp [hsize, Nat.not_lt.mpr, Nat.lt_of_not_le]
  · have hdrop : text.toList.dropWhile Char.isDigit ≠ [] := by
      intro hnil
      exact hall (List.all_eq_true.mpr (List.dropWhile_eq_nil_iff.mp hnil))
    have hfalse : text.toList.all Char.isDigit = false := Bool.eq_false_iff.mpr hall
    rw [hfalse]
    simp [hdrop]

theorem fromCharsUnsigned_all (size : Nat) (text : List Char) (value : Nat) :
    fromCharsUnsigned size text = some (value, []) ↔
      (text ≠ [] ∧ ∀ digit ∈ text, digit.isDigit = true) ∧ decimalValue text = value ∧ value < size := by
  have hwhole := fromCharsUnsigned_whole size (String.ofList text) value
  rw [String.toList_ofList] at hwhole
  rw [hwhole, numeral, String.toList_ofList, ite_eq_iff]
  simp only [Bool.and_eq_true, Bool.not_eq_true', List.isEmpty_eq_false_iff, List.all_eq_true,
    decide_eq_true_eq, Option.some.injEq, reduceCtorEq, and_false, or_false]
  constructor
  · rintro ⟨⟨hall, hsize⟩, rfl⟩
    exact ⟨hall, rfl, hsize⟩
  · rintro ⟨hall, rfl, hsize⟩
    exact ⟨⟨hall, hsize⟩, rfl⟩

end OnboardAutonomy
