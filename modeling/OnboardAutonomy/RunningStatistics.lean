import OnboardAutonomy.Rounding
import Mathlib.Algebra.BigOperators.Group.List.Basic
import Mathlib.Data.List.Induction

/-! Statistics that are kept sample by sample, with a rounding at each step: how far a chain of roundings moves a
value that is not negative, and the newest, the largest and the average of the samples. -/

namespace OnboardAutonomy.Binary64

/-! ### Chains of roundings -/

/-- The largest share of a value by which one rounding moves it. -/
def unit : ℚ := 1 / 2 ^ 53

theorem unit_pos : 0 < unit := by norm_num [unit]

theorem unit_lt_one : unit < 1 := by norm_num [unit]

theorem nearest_between {x : ℚ} (h : 0 ≤ x) : x * (1 - unit) ≤ nearest x ∧ nearest x ≤ x * (1 + unit) := by
  have hmoved := abs_le.mp (abs_nearest_sub_le x)
  rw [abs_of_nonneg h] at hmoved
  have hshare : x / 2 ^ 53 = x * unit := by
    rw [unit]
    ring
  rw [hshare] at hmoved
  constructor <;> linarith [hmoved.1, hmoved.2]

theorem nearest_nonneg_iff (x : ℚ) : 0 ≤ nearest x ↔ 0 ≤ x := by
  constructor
  · intro h
    by_contra hx
    have hnegative : x < 0 := not_le.mp hx
    have hmoved := abs_le.mp (abs_nearest_sub_le x)
    rw [abs_of_neg hnegative] at hmoved
    linarith [hmoved.2]
  · intro h
    exact le_trans (mul_nonneg h (by linarith [unit_lt_one])) (nearest_between h).1

theorem nearest_pos_iff (x : ℚ) : 0 < nearest x ↔ 0 < x := by
  constructor
  · intro h
    by_contra hx
    have hmoved := (abs_le.mp (abs_nearest_sub_le x)).2
    rw [abs_of_nonpos (not_lt.mp hx)] at hmoved
    linarith [not_lt.mp hx]
  · intro h
    exact lt_of_lt_of_le (mul_pos h (by linarith [unit_lt_one])) (nearest_between h.le).1

theorem nearest_quotient_nonneg_iff (n : ℤ) {c : ℚ} (hc : 0 < c) : 0 ≤ nearest (nearest n / c) ↔ 0 ≤ n := by
  rw [nearest_nonneg_iff, le_div_iff₀ hc, zero_mul, nearest_nonneg_iff]
  exact Int.cast_nonneg_iff

theorem nearest_quotient_pos_iff (n : ℤ) {c : ℚ} (hc : 0 < c) : 0 < nearest (nearest n / c) ↔ 0 < n := by
  rw [nearest_pos_iff, lt_div_iff₀ hc, zero_mul, nearest_pos_iff]
  exact Int.cast_pos

/-- A value that so many roundings may have made of an exact one. -/
structure Near (roundings : ℕ) (exact value : ℚ) : Prop where
  low : exact * (1 - unit) ^ roundings ≤ value
  high : value ≤ exact * (1 + unit) ^ roundings

namespace Near

variable {n m : ℕ} {exact value exact' value' c : ℚ}

theorem refl (exact : ℚ) : Near 0 exact exact :=
  ⟨le_of_eq (by rw [pow_zero, mul_one]), le_of_eq (by rw [pow_zero, mul_one])⟩

theorem nonneg (h : Near n exact value) (hexact : 0 ≤ exact) : 0 ≤ value :=
  le_trans (mul_nonneg hexact (pow_nonneg (by linarith [unit_lt_one]) n)) h.low

/-- One rounding more. -/
theorem round (h : Near n exact value) (hexact : 0 ≤ exact) : Near (n + 1) exact (nearest value) := by
  obtain ⟨hlow, hhigh⟩ := nearest_between (h.nonneg hexact)
  constructor
  · calc exact * (1 - unit) ^ (n + 1) = exact * (1 - unit) ^ n * (1 - unit) := by ring
      _ ≤ value * (1 - unit) := mul_le_mul_of_nonneg_right h.low (by linarith [unit_lt_one])
      _ ≤ nearest value := hlow
  · calc nearest value ≤ value * (1 + unit) := hhigh
      _ ≤ exact * (1 + unit) ^ n * (1 + unit) := mul_le_mul_of_nonneg_right h.high (by linarith [unit_pos])
      _ = exact * (1 + unit) ^ (n + 1) := by ring

theorem more (h : Near n exact value) (hexact : 0 ≤ exact) (hnm : n ≤ m) : Near m exact value := by
  have hless : (1 - unit) ^ m ≤ (1 - unit) ^ n :=
    pow_le_pow_of_le_one (by linarith [unit_lt_one]) (by linarith [unit_pos]) hnm
  have hmore : (1 + unit) ^ n ≤ (1 + unit) ^ m := pow_le_pow_right₀ (by linarith [unit_pos]) hnm
  exact ⟨le_trans (mul_le_mul_of_nonneg_left hless hexact) h.low,
    le_trans h.high (mul_le_mul_of_nonneg_left hmore hexact)⟩

theorem add (h : Near n exact value) (h' : Near n exact' value') :
    Near n (exact + exact') (value + value') :=
  ⟨by linarith [h.low, h'.low, add_mul exact exact' ((1 - unit) ^ n)],
    by linarith [h.high, h'.high, add_mul exact exact' ((1 + unit) ^ n)]⟩

theorem div (h : Near n exact value) (hc : 0 < c) : Near n (exact / c) (value / c) := by
  constructor
  · rw [div_mul_eq_mul_div]
    exact div_le_div_of_nonneg_right h.low hc.le
  · rw [div_mul_eq_mul_div]
    exact div_le_div_of_nonneg_right h.high hc.le

/-- A quotient of an integer, rounded twice. -/
theorem quotient {k : ℤ} (hk : 0 ≤ k) (hc : 0 < c) :
    0 ≤ (k : ℚ) / c ∧ Near 2 ((k : ℚ) / c) (nearest (nearest k / c)) := by
  have hpositive : (0 : ℚ) ≤ k := Int.cast_nonneg hk
  have hquotient : 0 ≤ (k : ℚ) / c := div_nonneg hpositive hc.le
  exact ⟨hquotient, (((refl (k : ℚ)).round hpositive).div hc).round hquotient⟩

/-- A running sum: every addition rounds once more. -/
theorem sum {α : Type} {exact value : α → ℚ} {samples : List α}
    (h : ∀ a ∈ samples, 0 ≤ exact a ∧ Near n (exact a) (value a)) :
    Near (n + samples.length) (samples.map exact).sum
      (samples.foldl (fun total a => nearest (total + value a)) 0) := by
  induction samples using List.reverseRecOn with
  | nil => exact (refl 0).more le_rfl (Nat.zero_le _)
  | append_singleton samples a ih =>
      obtain ⟨hbefore, hlast⟩ := List.forall_mem_append.mp h
      obtain ⟨hpositive, hnear⟩ := hlast a List.mem_cons_self
      have hsum : 0 ≤ (samples.map exact).sum :=
        List.sum_nonneg (List.forall_mem_map.mpr fun b hb => (hbefore b hb).1)
      rw [List.foldl_append, List.map_append, List.sum_append, List.length_append, List.map_singleton,
        List.sum_singleton, List.length_singleton]
      exact ((ih hbefore).add (hnear.more hpositive (Nat.le_add_right n _))).round (add_nonneg hsum hpositive)

end Near

/-! ### Running statistics -/

/-- The newest sample, the sum of all of them and the largest, as they are kept. -/
structure Tally {α : Type} (value : α → ℚ) (samples : List α) (latest : Option Binary64)
    (total maximum : Binary64) : Prop where
  latest : latest = samples.getLast?.map fun a => .finite (value a)
  total : total = .finite (samples.foldl (fun total a => nearest (total + value a)) 0)
  maximum : ∃ q, maximum = .finite q ∧ 0 ≤ q ∧ (∀ a ∈ samples, 0 ≤ value a ∧ value a ≤ q) ∧
    (q = 0 ∨ ∃ a ∈ samples, value a = q)

/-- What a snapshot says of the samples: the newest, the average of the exact values up to rounding, and the
largest. The shown value of a sample is itself off by two roundings. -/
structure Summarises {α : Type} (exact value : α → ℚ) (samples : List α)
    (latest average maximum : Option Binary64) : Prop where
  latest : latest = samples.getLast?.map fun a => .finite (value a)
  empty : samples = [] → average = none ∧ maximum = none
  average : samples ≠ [] → samples.length < 2 ^ 53 → ∃ q, average = some (.finite q) ∧
    Near (samples.length + 3) ((samples.map exact).sum / samples.length) q
  maximum : samples ≠ [] →
    ∃ a ∈ samples, maximum = some (.finite (value a)) ∧ ∀ b ∈ samples, value b ≤ value a

namespace Tally

variable {α : Type} {value : α → ℚ} {samples : List α} {latest : Option Binary64} {total maximum : Binary64}

theorem nothing (value : α → ℚ) : Tally value [] none .zero .zero :=
  ⟨rfl, rfl, 0, rfl, le_rfl, List.forall_mem_nil _, .inl rfl⟩

theorem sample (h : Tally value samples latest total maximum) {a : α} (ha : 0 ≤ value a) :
    Tally value (samples ++ [a]) (some (.finite (value a))) (total.add (.finite (value a)))
      (maximum.max (.finite (value a))) := by
  obtain ⟨q, hq, hpositive, hbound, hreached⟩ := h.maximum
  refine ⟨?_, ?_, ?_⟩
  · rw [List.getLast?_concat, Option.map_some]
  · rw [h.total, List.foldl_append]
    rfl
  · by_cases hlarger : q < value a
    · refine ⟨value a, ?_, ha, ?_, .inr ⟨a, List.mem_append_right _ (List.mem_singleton.mpr rfl), rfl⟩⟩
      · rw [hq, Binary64.max, lt_finite, if_pos (decide_eq_true hlarger)]
      · exact List.forall_mem_append.mpr
          ⟨fun b hb => ⟨(hbound b hb).1, (hbound b hb).2.trans hlarger.le⟩,
            List.forall_mem_singleton.mpr ⟨ha, le_rfl⟩⟩
    · have hkept : q = 0 ∨ ∃ b ∈ samples ++ [a], value b = q :=
        hreached.imp_right fun ⟨b, hb, hvalue⟩ => ⟨b, List.mem_append_left _ hb, hvalue⟩
      refine ⟨q, ?_, hpositive, ?_, hkept⟩
      · rw [hq, Binary64.max, lt_finite, if_neg (by rw [decide_eq_true_iff]; exact hlarger)]
      · exact List.forall_mem_append.mpr
          ⟨hbound, List.forall_mem_singleton.mpr ⟨ha, not_lt.mp hlarger⟩⟩

/-- The largest is one of the samples. -/
theorem largest (h : Tally value samples latest total maximum) (hsome : samples ≠ []) :
    ∃ a ∈ samples, maximum = .finite (value a) ∧ ∀ b ∈ samples, value b ≤ value a := by
  obtain ⟨q, hq, -, hbound, hreached⟩ := h.maximum
  have hsample : ∃ a ∈ samples, value a = q := by
    rcases hreached with rfl | hreached
    · obtain ⟨a, ha⟩ := List.exists_mem_of_ne_nil samples hsome
      exact ⟨a, ha, le_antisymm (hbound a ha).2 (hbound a ha).1⟩
    · exact hreached
  obtain ⟨a, ha, rfl⟩ := hsample
  exact ⟨a, ha, hq, fun b hb => (hbound b hb).2⟩

/-- The average is the exact one up to a rounding for each sample and for each operation on it. -/
theorem average (h : Tally value samples latest total maximum) {exact : α → ℚ} {n : ℕ}
    (hnear : ∀ a ∈ samples, 0 ≤ exact a ∧ Near n (exact a) (value a)) (hsome : samples ≠ [])
    (hcount : samples.length < 2 ^ 53) :
    ∃ q, total.div (nearest samples.length) = .finite q ∧
      Near (n + samples.length + 1) ((samples.map exact).sum / samples.length) q := by
  have hlength : (0 : ℚ) < samples.length := by exact_mod_cast List.length_pos_iff.mpr hsome
  have hsum : 0 ≤ (samples.map exact).sum :=
    List.sum_nonneg (List.forall_mem_map.mpr fun b hb => (hnear b hb).1)
  rw [h.total, nearest_natCast hcount]
  exact ⟨_, rfl, ((Near.sum hnear).div hlength).round (div_nonneg hsum hlength.le)⟩

/-- The count of the samples decides what a snapshot says of them. -/
theorem summarises (h : Tally value samples latest total maximum) {exact : α → ℚ}
    (hnear : ∀ a ∈ samples, 0 ≤ exact a ∧ Near 2 (exact a) (value a)) {count : ℕ}
    (hcount : count = samples.length) :
    Summarises exact value samples latest (if count = 0 then none else some (total.div (nearest count)))
      (if count = 0 then none else some maximum) := by
  subst hcount
  constructor
  case latest => exact h.latest
  case empty =>
    rintro rfl
    exact ⟨rfl, rfl⟩
  case average =>
    intro hsome hbound
    obtain ⟨q, hq, hnear⟩ := h.average hnear hsome hbound
    rw [if_neg (List.length_pos_iff.mpr hsome).ne', hq]
    exact ⟨q, rfl, by rwa [Nat.add_comm 2, Nat.add_assoc] at hnear⟩
  case maximum =>
    intro hsome
    obtain ⟨a, ha, hmaximum, hlargest⟩ := h.largest hsome
    rw [if_neg (List.length_pos_iff.mpr hsome).ne', hmaximum]
    exact ⟨a, ha, rfl, hlargest⟩

end Tally

end OnboardAutonomy.Binary64
