import OnboardAutonomy.FromChars
import OnboardAutonomy.JsonText
import OnboardAutonomy.Rounding
import Mathlib.Data.Nat.Cast.Field
import Mathlib.Data.Nat.Digits.Defs
import Mathlib.Data.Nat.Prime.Basic
import Mathlib.Data.Rat.Lemmas
import Mathlib.Tactic.Ring

/-! Numbers in decimal: integers, and every `double` by all of its digits, of which there are finitely many. What
is read is rounded to a `double`. Nothing here is about a particular program. -/

namespace OnboardAutonomy.Json

/-- The digits of a number, with zeros in front of them up to a width. -/
def padded (width n : Nat) : List UInt8 :=
  (Nat.digits 10 n ++ List.replicate (width - (Nat.digits 10 n).length) 0).reverse.map fun digit =>
    UInt8.ofNat (48 + digit)

def isDigit (byte : UInt8) : Bool := 48 ≤ byte && byte ≤ 57

def digitsValue (text : List UInt8) : Nat := decimalValue (text.map Char.ofUInt8)

theorem digit_lt {width n digit : Nat}
    (h : digit ∈ Nat.digits 10 n ++ List.replicate (width - (Nat.digits 10 n).length) 0) : digit < 10 := by
  rcases List.mem_append.mp h with hdigit | hzero
  · exact Nat.digits_lt_base (by norm_num) hdigit
  · rw [List.eq_of_mem_replicate hzero]
    norm_num

theorem toNat_digit {digit : Nat} (h : digit < 10) : (UInt8.ofNat (48 + digit)).toNat = 48 + digit :=
  UInt8.toNat_ofNat_of_lt' (by show 48 + digit < 256; omega)

theorem isDigit_padded {width n : Nat} {byte : UInt8} (h : byte ∈ padded width n) : isDigit byte = true := by
  obtain ⟨digit, hdigit, rfl⟩ := List.mem_map.mp h
  have hlt := digit_lt (List.mem_reverse.mp hdigit)
  have hnat := toNat_digit hlt
  simp only [isDigit, Bool.and_eq_true, decide_eq_true_eq, UInt8.le_iff_toNat_le, hnat]
  exact ⟨Nat.le_add_right 48 digit, show 48 + digit ≤ 57 by omega⟩

theorem length_padded (width n : Nat) : width ≤ (padded width n).length := by
  rw [padded, List.length_map, List.length_reverse, List.length_append, List.length_replicate]
  omega

theorem digitsValue_padded (width n : Nat) : digitsValue (padded width n) = n := by
  rw [digitsValue, decimalValue_eq_ofDigits, padded, ← List.map_reverse, ← List.map_reverse, List.reverse_reverse,
    List.map_map, List.map_map]
  have hid : ∀ digit ∈ Nat.digits 10 n ++ List.replicate (width - (Nat.digits 10 n).length) 0,
      ((digitValue ∘ Char.ofUInt8) ∘ fun digit => UInt8.ofNat (48 + digit)) digit = id digit := by
    intro digit hdigit
    show (UInt8.ofNat (48 + digit)).toNat - 48 = digit
    rw [toNat_digit (digit_lt hdigit), Nat.add_sub_cancel_left]
  rw [List.map_congr_left hid, List.map_id, Nat.ofDigits_append, Nat.ofDigits_replicate_zero, Nat.mul_zero,
    Nat.add_zero, Nat.ofDigits_digits]

/-- A sign in front of a text. -/
def signed (negative : Bool) (text : List UInt8) : List UInt8 := if negative then 45 :: text else text

def integerText (n : Int) : List UInt8 := signed (n < 0) (padded 1 n.natAbs)

/-- The digits behind the point, at least one. -/
def places (q : ℚ) : Nat := max 1 (Nat.log 2 q.den)

def numberText (q : ℚ) : List UInt8 :=
  let digits := padded (places q + 1) (q.num.natAbs * 10 ^ places q / q.den)
  signed (q.num < 0) (digits.take (digits.length - places q) ++ 46 :: digits.drop (digits.length - places q))

def negateIf (negative : Bool) (q : ℚ) : ℚ := if negative then -q else q

/-- A text without its sign. -/
def readUnsigned (negative : Bool) (text : List UInt8) : Option Json :=
  let whole := text.takeWhile isDigit
  match text.dropWhile isDigit with
  | [] => if whole = [] then none else some (.integer (if negative then -digitsValue whole else digitsValue whole))
  | 46 :: fraction =>
      if whole ≠ [] ∧ fraction ≠ [] ∧ fraction.all isDigit then
        some (.number (.finite (Binary64.nearest
          (negateIf negative (digitsValue (whole ++ fraction) / 10 ^ fraction.length)))))
      else none
  | _ => none

def readDecimal (text : List UInt8) : Option Json :=
  match text with
  | 45 :: text => readUnsigned true text
  | text => readUnsigned false text

theorem isNumeral_signed {negative : Bool} {text : List UInt8} (h : IsNumeral text) :
    IsNumeral (signed negative text) := by
  cases negative with
  | true => exact ⟨List.cons_ne_nil _ _, List.forall_mem_cons.mpr ⟨rfl, h.2⟩⟩
  | false => exact h

theorem numeralByte_of_isDigit {byte : UInt8} (h : isDigit byte = true) : numeralByte byte = true := by
  have hdigit : (48 ≤ byte && byte ≤ 57) = true := h
  rw [numeralByte, hdigit]
  rfl

/-- A digit in front is no sign. -/
theorem readDecimal_signed {negative : Bool} {text : List UInt8} {byte : UInt8} (hhead : text.head? = some byte)
    (hbyte : isDigit byte = true) : readDecimal (signed negative text) = readUnsigned negative text := by
  cases negative with
  | true => rfl
  | false =>
      obtain ⟨rest, rfl⟩ : ∃ rest, text = byte :: rest := by
        cases text with
        | nil => cases hhead
        | cons first rest => exact ⟨rest, by rw [Option.some.inj hhead]⟩
      show readDecimal (byte :: rest) = _
      rw [readDecimal]
      intro text heq
      rw [(List.cons.inj heq).1] at hbyte
      cases hbyte

theorem takeWhile_digits {text : List UInt8} (h : ∀ byte ∈ text, isDigit byte = true) (rest : List UInt8)
    (hrest : ∀ byte ∈ rest.head?, isDigit byte = false) :
    (text ++ rest).takeWhile isDigit = text ∧ (text ++ rest).dropWhile isDigit = rest := by
  have hstop : rest.takeWhile isDigit = [] ∧ rest.dropWhile isDigit = rest := by
    cases rest with
    | nil => exact ⟨rfl, rfl⟩
    | cons byte rest =>
        have hbyte := hrest byte rfl
        exact ⟨List.takeWhile_cons_of_neg (by simp [hbyte]), List.dropWhile_cons_of_neg (by simp [hbyte])⟩
  rw [List.takeWhile_append_of_pos h, List.dropWhile_append_of_pos h, hstop.1, hstop.2, List.append_nil]
  exact ⟨rfl, rfl⟩

theorem readDecimal_integerText (n : Int) : readDecimal (integerText n) = some (.integer n) := by
  have hlength := length_padded 1 n.natAbs
  obtain ⟨byte, rest, htext⟩ := List.exists_cons_of_length_pos hlength
  have hdigits : ∀ byte ∈ padded 1 n.natAbs, isDigit byte = true := fun _ => isDigit_padded
  have hhead : (padded 1 n.natAbs).head? = some byte := by
    rw [htext]
    rfl
  have hbyte : isDigit byte = true := hdigits byte (by rw [htext]; exact List.mem_cons_self)
  obtain ⟨htake, hdrop⟩ := takeWhile_digits hdigits [] fun _ h => (by cases h)
  rw [List.append_nil] at htake hdrop
  rw [integerText, readDecimal_signed hhead hbyte, readUnsigned, htake, hdrop]
  have hne : padded 1 n.natAbs ≠ [] := List.ne_nil_of_length_pos hlength
  rw [digitsValue_padded]
  simp only [if_neg hne]
  congr 2
  by_cases hneg : n < 0
  · rw [decide_eq_true hneg]
    show -(n.natAbs : Int) = n
    omega
  · rw [decide_eq_false hneg]
    show (n.natAbs : Int) = n
    omega

theorem isNumeral_integerText (n : Int) : IsNumeral (integerText n) :=
  isNumeral_signed ⟨List.ne_nil_of_length_pos (length_padded 1 n.natAbs),
    fun _ hbyte => numeralByte_of_isDigit (isDigit_padded hbyte)⟩

theorem isNumeral_numberText (q : ℚ) : IsNumeral (numberText q) := by
  refine isNumeral_signed ⟨List.append_ne_nil_of_right_ne_nil _ (List.cons_ne_nil _ _), fun byte hbyte => ?_⟩
  rcases List.mem_append.mp hbyte with htake | hdrop
  · exact numeralByte_of_isDigit (isDigit_padded (List.mem_of_mem_take htake))
  · rcases List.mem_cons.mp hdrop with rfl | hdrop
    · rfl
    · exact numeralByte_of_isDigit (isDigit_padded (List.mem_of_mem_drop hdrop))

/-- The denominator of a `double` is a power of two. -/
theorem den_of_nearest {q : ℚ} (h : Binary64.nearest q = q) : ∃ k, q.den = 2 ^ k := by
  by_cases hq : q = 0
  · exact ⟨0, by rw [hq]; rfl⟩
  · have hvalue : q = Binary64.roundHalfEven (q / Binary64.spacing 53 q) * Binary64.spacing 53 q := by
      rw [← Binary64.nearestOn_eq hq]
      exact h.symm
    generalize Binary64.roundHalfEven (q / Binary64.spacing 53 q) = n at hvalue
    rw [Binary64.spacing] at hvalue
    generalize Int.log 2 |q| + 1 - 53 = e at hvalue
    rcases Int.le_total 0 e with he | he
    · obtain ⟨m, rfl⟩ := Int.eq_ofNat_of_zero_le he
      refine ⟨0, ?_⟩
      have hint : q = ((n * 2 ^ m : ℤ) : ℚ) := by
        rw [hvalue]
        push_cast
        rfl
      rw [hint, Rat.den_intCast, pow_zero]
    · obtain ⟨m, hm⟩ := Int.exists_eq_neg_ofNat he
      have hfraction : q = (n : ℚ) / ((2 ^ m : ℤ) : ℚ) := by
        rw [hvalue, hm, zpow_neg, zpow_natCast, ← div_eq_mul_inv]
        push_cast
        rfl
      have hdvd : (q.den : ℤ) ∣ 2 ^ m := by
        rw [hfraction, ← Rat.divInt_eq_div]
        exact Rat.den_dvd n (2 ^ m)
      obtain ⟨k, -, hk⟩ := (Nat.dvd_prime_pow Nat.prime_two).mp (by exact_mod_cast hdvd)
      exact ⟨k, hk⟩

/-- All the digits of a `double`. -/
theorem digits_eq {q : ℚ} (h : Binary64.nearest q = q) :
    ((q.num.natAbs * 10 ^ places q / q.den : Nat) : ℚ) / 10 ^ places q = |q| := by
  obtain ⟨k, hk⟩ := den_of_nearest h
  have hplaces : k ≤ places q := by
    rw [places, hk, Nat.log_pow one_lt_two]
    exact Nat.le_max_right 1 k
  have hdvd : q.den ∣ q.num.natAbs * 10 ^ places q := by
    refine Dvd.dvd.mul_left ?_ _
    rw [hk]
    exact (pow_dvd_pow_of_dvd (by norm_num) k).trans (pow_dvd_pow 10 hplaces)
  have hden : (q.den : ℚ) ≠ 0 := Nat.cast_ne_zero.mpr q.den_ne_zero
  calc ((q.num.natAbs * 10 ^ places q / q.den : Nat) : ℚ) / 10 ^ places q
      = (q.num.natAbs : ℚ) / q.den := by
        rw [Nat.cast_div hdvd hden]
        push_cast
        rw [div_right_comm, mul_div_cancel_right₀ _ (pow_ne_zero _ (by norm_num))]
    _ = |q| := by
        rw [Nat.cast_natAbs, Int.cast_abs, ← Nat.abs_cast q.den, ← abs_div, Rat.num_div_den]

theorem negateIf_abs (q : ℚ) : negateIf (q.num < 0) |q| = q := by
  by_cases hneg : q.num < 0
  · rw [decide_eq_true hneg, abs_of_neg (Rat.num_neg.mp hneg)]
    exact neg_neg q
  · rw [decide_eq_false hneg, abs_of_nonneg (Rat.num_nonneg.mp (not_lt.mp hneg))]
    rfl

theorem readDecimal_numberText {q : ℚ} (h : Binary64.nearest q = q) :
    readDecimal (numberText q) = some (.number (.finite q)) := by
  have hlength := length_padded (places q + 1) (q.num.natAbs * 10 ^ places q / q.den)
  have hvalue := digitsValue_padded (places q + 1) (q.num.natAbs * 10 ^ places q / q.den)
  have hdigits : ∀ byte ∈ padded (places q + 1) (q.num.natAbs * 10 ^ places q / q.den), isDigit byte = true :=
    fun _ => isDigit_padded
  have hpositive : 1 ≤ places q := Nat.le_max_left 1 _
  rw [numberText]
  generalize padded (places q + 1) (q.num.natAbs * 10 ^ places q / q.den) = digits at hlength hvalue hdigits
  obtain ⟨whole, fraction, rfl, hfraction⟩ : ∃ whole fraction, digits = whole ++ fraction ∧
      fraction.length = places q :=
    ⟨digits.take (digits.length - places q), digits.drop (digits.length - places q),
      (List.take_append_drop _ _).symm, by rw [List.length_drop]; omega⟩
  have hcut : (whole ++ fraction).length - places q = whole.length := by
    rw [List.length_append]
    omega
  obtain ⟨hwhole, hrest⟩ := List.forall_mem_append.mp hdigits
  rw [List.length_append] at hlength
  obtain ⟨byte, rest, rfl⟩ := List.exists_cons_of_length_pos (show 0 < whole.length by omega)
  have hne : fraction ≠ [] := List.ne_nil_of_length_pos (by omega)
  obtain ⟨htake, hdrop⟩ := takeWhile_digits hwhole (46 :: fraction) fun _ h => (by cases h; rfl)
  have hhead : (byte :: rest ++ 46 :: fraction).head? = some byte := rfl
  simp only [hcut, List.take_left, List.drop_left]
  rw [readDecimal_signed hhead (hwhole byte List.mem_cons_self), readUnsigned, htake, hdrop]
  simp only [ne_eq, List.cons_ne_nil, not_false_eq_true, hne, List.all_eq_true.mpr hrest, and_self, if_true]
  rw [hvalue, hfraction, digits_eq h, negateIf_abs, h]

/-- Integers and the numbers of a `double` in full. -/
def decimals : Numerals where
  integer := integerText
  number := numberText
  read := readDecimal
  Keeps _ := True
  integer_numeral := isNumeral_integerText
  number_numeral := isNumeral_numberText
  read_integer n _ := readDecimal_integerText n
  read_number _ h := readDecimal_numberText h

instance : DecidablePred decimals.Keeps := fun _ => .isTrue trivial

end OnboardAutonomy.Json
