import Mathlib.Data.Nat.Bitwise

/-! Bits of a 32-bit word: masking, stated bit by bit. -/

namespace OnboardAutonomy

/-- A bit of a word. -/
def wordBit (word : UInt32) (i : Nat) : Bool := word.toNat.testBit i

namespace WordBits

theorem lt_of_wordBit {word : UInt32} {i : Nat} (h : wordBit word i = true) : i < 32 := by
  by_contra hge
  rw [wordBit, Nat.testBit_lt_two_pow] at h
  · cases h
  · exact lt_of_lt_of_le word.toNat_lt (Nat.pow_le_pow_right (by decide) (not_lt.mp hge))

theorem wordBit_and (a b : UInt32) (i : Nat) : wordBit (a &&& b) i = (wordBit a i && wordBit b i) := by
  rw [wordBit, UInt32.toNat_and, Nat.testBit_and, wordBit, wordBit]

theorem wordBit_not {word : UInt32} {i : Nat} (h : i < 32) : wordBit (~~~word) i = !wordBit word i := by
  have hbit : (~~~word).toBitVec.getLsbD i = (decide (i < 32) && !word.toBitVec.getLsbD i) := by
    rw [UInt32.toBitVec_not, BitVec.getLsbD_not]
  rw [decide_eq_true h, Bool.true_and] at hbit
  exact hbit

theorem eq_zero_iff (word : UInt32) : word = 0 ↔ ∀ i, wordBit word i = false := by
  constructor
  · rintro rfl i
    exact Nat.zero_testBit i
  · intro hall
    apply UInt32.toNat_inj.mp
    apply Nat.eq_of_testBit_eq
    intro i
    rw [show (0 : UInt32).toNat = 0 from rfl, Nat.zero_testBit]
    exact hall i

/-- A mask misses a word when no bit is set in both. -/
theorem and_eq_zero_iff (a b : UInt32) :
    a &&& b = 0 ↔ ∀ i, wordBit b i = true → wordBit a i = false := by
  rw [eq_zero_iff]
  apply forall_congr'
  intro i
  rw [wordBit_and, Bool.and_eq_false_iff]
  cases wordBit a i <;> cases wordBit b i <;> simp

/-- Nothing of a word is left outside another when its bits are all among the other's. -/
theorem and_not_eq_zero_iff (a b : UInt32) :
    a &&& ~~~b = 0 ↔ ∀ i, wordBit a i = true → wordBit b i = true := by
  rw [and_eq_zero_iff]
  constructor
  · intro hall i ha
    by_contra hb
    have hnot : wordBit (~~~b) i = true := by
      rw [wordBit_not (lt_of_wordBit ha), Bool.eq_false_iff.mpr hb]
      rfl
    rw [hall i hnot] at ha
    cases ha
  · intro hall i hnot
    by_contra ha
    have hb := hall i (by simpa using ha)
    rw [wordBit_not (lt_of_wordBit hnot), hb] at hnot
    cases hnot

end WordBits
end OnboardAutonomy
