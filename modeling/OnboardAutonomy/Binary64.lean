import Mathlib.Data.Int.Log
import Mathlib.Data.Rat.Floor

/-! Binary floating-point values as exact rationals with the three non-finite values, and the
comparisons and roundings a C++ program applies to them. A `float` widened to a `double` keeps its
value, so one type serves both. The two zeros are one value here: no comparison tells them apart. -/

namespace OnboardAutonomy

/-- A `double`. -/
inductive Binary64 where
  | finite (value : ℚ)
  | posInf
  | negInf
  | nan
  deriving DecidableEq

namespace Binary64

def zero : Binary64 := .finite 0

def isFinite : Binary64 → Bool
  | .finite _ => true
  | _ => false

/-- The operator `<`: false as soon as one side is NaN. -/
def lt : Binary64 → Binary64 → Bool
  | .finite a, .finite b => decide (a < b)
  | .finite _, .posInf => true
  | .negInf, .finite _ => true
  | .negInf, .posInf => true
  | _, _ => false

/-- The operator `==`: NaN equals nothing. -/
def eq : Binary64 → Binary64 → Bool
  | .nan, _ => false
  | a, b => decide (a = b)

/-- The operator `>=`. -/
def ge (a b : Binary64) : Bool := b.lt a || b.eq a

/-- `std::max(a, b)`: `a` unless `a < b`. -/
def max (a b : Binary64) : Binary64 := if a.lt b then b else a

/-- `std::trunc`: towards zero. -/
def trunc : Binary64 → Binary64
  | .finite q => .finite (if 0 ≤ q then (⌊q⌋ : ℚ) else (⌈q⌉ : ℚ))
  | a => a

/-- The cast of a value that is known to be a non-negative integer. -/
def toNat : Binary64 → Nat
  | .finite q => ⌊q⌋.toNat
  | _ => 0

/-! ### Rounding to nearest, ties to even -/

def roundHalfEven (x : ℚ) : ℤ :=
  if x - ⌊x⌋ < 1 / 2 then ⌊x⌋
  else if 1 / 2 < x - ⌊x⌋ then ⌊x⌋ + 1
  else if ⌊x⌋ % 2 = 0 then ⌊x⌋ else ⌊x⌋ + 1

/-- The nearest rational with a significand of so many digits, on the exponents of normal numbers. -/
def nearestOn (digits : ℤ) (x : ℚ) : ℚ :=
  if x = 0 then 0
  else roundHalfEven (x / 2 ^ (Int.log 2 |x| + 1 - digits)) * 2 ^ (Int.log 2 |x| + 1 - digits)

def nearest (x : ℚ) : ℚ := nearestOn 53 x

def add : Binary64 → Binary64 → Binary64
  | .finite a, .finite b => .finite (nearest (a + b))
  | .posInf, .negInf => .nan
  | .negInf, .posInf => .nan
  | .nan, _ => .nan
  | _, .nan => .nan
  | .posInf, _ => .posInf
  | .negInf, _ => .negInf
  | .finite _, b => b

def negate : Binary64 → Binary64
  | .finite a => .finite (-a)
  | .posInf => .negInf
  | .negInf => .posInf
  | .nan => .nan

/-- `std::abs`. -/
def abs : Binary64 → Binary64
  | .finite a => .finite |a|
  | .nan => .nan
  | _ => .posInf

/-- An integer divided by a positive integer constant. -/
def quotient (numerator : ℤ) (denominator : ℕ) : Binary64 :=
  .finite (nearest (numerator / denominator))

/-- An integer cast to `double`. -/
def ofInt (n : ℤ) : Binary64 := .finite (nearest n)

/-- A value divided by a positive number. -/
def div : Binary64 → ℚ → Binary64
  | .finite a, divisor => .finite (nearest (a / divisor))
  | a, _ => a

/-- An unsigned integer cast to `float`. -/
def single (n : ℕ) : Binary64 := .finite (nearestOn 24 n)

/-- The decimal digits that `std::fixed` prints at a precision of one. -/
def fixedTenths : Binary64 → String
  | .finite q =>
      let tenths := (roundHalfEven (q * 10)).natAbs
      (if q < 0 then "-" else "") ++ toString (tenths / 10) ++ "." ++ toString (tenths % 10)
  | .posInf => "inf"
  | .negInf => "-inf"
  | .nan => "nan"

/-- The decimal digits that `std::fixed` prints at a precision of two. -/
def fixedHundredths : Binary64 → String
  | .finite q =>
      let hundredths := (roundHalfEven (q * 100)).natAbs
      (if q < 0 then "-" else "") ++ toString (hundredths / 100) ++ "." ++
        toString (hundredths / 10 % 10) ++ toString (hundredths % 10)
  | .posInf => "inf"
  | .negInf => "-inf"
  | .nan => "nan"

/-! ### Small facts about the comparisons -/

@[simp] theorem isFinite_finite (q : ℚ) : (finite q).isFinite = true := rfl

theorem isFinite_iff (x : Binary64) : x.isFinite = true ↔ ∃ q, x = .finite q := by
  cases x <;> simp [isFinite]

@[simp] theorem lt_finite (a b : ℚ) : (finite a).lt (finite b) = decide (a < b) := rfl

@[simp] theorem eq_finite (a b : ℚ) : (finite a).eq (finite b) = decide (a = b) := by
  simp [eq]

theorem ge_finite (a b : ℚ) : (finite a).ge (.finite b) = decide (b ≤ a) := by
  simp [ge, le_iff_lt_or_eq]

theorem eq_zero_iff (x : Binary64) : x.eq .zero = true ↔ x = .zero := by
  cases x <;> simp [eq, zero]

theorem trunc_eq_iff (q : ℚ) : trunc (.finite q) = .finite q ↔ ∃ n : ℤ, q = n := by
  simp only [trunc, finite.injEq]
  constructor
  · intro h
    split at h
    · exact ⟨_, h.symm⟩
    · exact ⟨_, h.symm⟩
  · rintro ⟨n, rfl⟩
    split
    · rw [Int.floor_intCast]
    · rw [Int.ceil_intCast]

@[simp] theorem toNat_natCast (n : ℕ) : (finite n).toNat = n := by
  rw [toNat, Int.floor_natCast, Int.toNat_natCast]

/-- The comparisons that pick out the integers between 0 and a maximum. -/
theorem natural_iff (x : Binary64) (maximum : ℕ) :
    (!x.isFinite || x.lt .zero || (finite maximum).lt x || !x.trunc.eq x) = false ↔
      ∃ n : ℕ, x = .finite n ∧ n ≤ maximum := by
  cases x with
  | finite q =>
      simp only [isFinite_finite, zero, lt_finite, Bool.not_true, Bool.false_or, Bool.or_eq_false_iff,
        decide_eq_false_iff_not, not_lt, Bool.not_eq_false', finite.injEq]
      have htrunc : (trunc (.finite q)).eq (.finite q) = true ↔ ∃ m : ℤ, q = m := by
        rw [← trunc_eq_iff]
        simp only [trunc, eq_finite, decide_eq_true_eq, finite.injEq]
      rw [htrunc]
      constructor
      · rintro ⟨⟨hlow, hhigh⟩, m, rfl⟩
        lift m to ℕ using by exact_mod_cast hlow
        exact ⟨m, by simp, by exact_mod_cast hhigh⟩
      · rintro ⟨n, rfl, hle⟩
        exact ⟨⟨by positivity, by exact_mod_cast hle⟩, n, by simp⟩
  | _ => simp [isFinite]

end Binary64
end OnboardAutonomy
