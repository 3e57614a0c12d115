import OnboardAutonomy.Selection
import OnboardAutonomy.YoloXOutputDecoder
import Mathlib.Algebra.BigOperators.Group.List.Basic
import Mathlib.Algebra.Order.Field.Basic

/-! What the decoder decodes: row by row, the cell that a row stands for, the class that scores best in it, and
its box. The decoder finds all this by running through the grids and the classes, with sizes of 64 bits and
class ids of 32. -/

namespace OnboardAutonomy

open Selection

/-! ### The cell of a row -/

/-- A row stands for a cell: the grids of the strides before it come first, and the rows of its own grid. -/
def CellAt (side : UInt32 → Nat) (strides : List UInt32) (row x y : Nat) (stride : UInt32) : Prop :=
  ∃ k, strides[k]? = some stride ∧
    row = ((strides.take k).map fun s => side s ^ 2).sum + y * side stride + x ∧
    x < side stride ∧ y < side stride

def cellOf (x y : Nat) (stride : UInt32) : GridCell where
  x := .finite x
  y := .finite y
  stride := .finite stride.toNat

/-- Rows one behind the other are walked through row by row. -/
theorem getElem?_rows {α : Type} {f : Nat → Nat → α} {side rows index : Nat} {a : α} :
    ((List.range rows).flatMap fun y => (List.range side).map fun x => f x y)[index]? = some a ↔
      ∃ x y, index = y * side + x ∧ x < side ∧ y < rows ∧ f x y = a := by
  induction rows with
  | zero => simp
  | succ rows ih =>
      have hlength : ((List.range rows).flatMap fun y => (List.range side).map fun x => f x y).length =
          rows * side := by simp [List.length_flatMap]
      rw [List.range_succ, List.flatMap_append, List.flatMap_singleton, List.getElem?_append, hlength]
      split
      · next hlt =>
          rw [ih]
          constructor
          · rintro ⟨x, y, hindex, hx, hy, ha⟩
            exact ⟨x, y, hindex, hx, Nat.lt_succ_of_lt hy, ha⟩
          · rintro ⟨x, y, hindex, hx, hy, ha⟩
            rcases Nat.lt_succ_iff_lt_or_eq.mp hy with hbelow | rfl
            · exact ⟨x, y, hindex, hx, hbelow, ha⟩
            · omega
      · next hge =>
          rw [List.getElem?_map, Option.map_eq_some_iff]
          constructor
          · rintro ⟨x, hx, ha⟩
            obtain ⟨hlt, hx⟩ := List.getElem?_eq_some_iff.mp hx
            rw [List.length_range] at hlt
            rw [List.getElem_range] at hx
            exact ⟨x, rows, by omega, by omega, Nat.lt_succ_self rows, ha⟩
          · rintro ⟨x, y, hindex, hx, hy, ha⟩
            rcases Nat.lt_succ_iff_lt_or_eq.mp hy with hbelow | rfl
            · have hrow := Nat.mul_le_mul_right side (Nat.succ_le_of_lt hbelow)
              rw [Nat.succ_mul] at hrow
              omega
            · refine ⟨x, ?_, ha⟩
              rw [hindex, Nat.add_sub_cancel_left, List.getElem?_range hx]

theorem length_strideGrid (side : Nat) (stride : UInt32) :
    (YoloXDecoderConfig.strideGrid side stride).length = side ^ 2 := by
  simp [YoloXDecoderConfig.strideGrid, List.length_flatMap, sq]

theorem getElem?_strideGrids {side : UInt32 → Nat} {strides : List UInt32} {row : Nat} {cell : GridCell} :
    (strides.flatMap fun s => YoloXDecoderConfig.strideGrid (side s) s)[row]? = some cell ↔
      ∃ x y stride, CellAt side strides row x y stride ∧ cellOf x y stride = cell := by
  induction strides generalizing row with
  | nil => simp [CellAt]
  | cons s strides ih =>
      rw [List.flatMap_cons, List.getElem?_append, length_strideGrid]
      split
      · next hlt =>
          rw [YoloXDecoderConfig.strideGrid, getElem?_rows]
          constructor
          · rintro ⟨x, y, hrow, hx, hy, hcell⟩
            exact ⟨x, y, s, ⟨0, rfl, by simpa using hrow, hx, hy⟩, hcell⟩
          · rintro ⟨x, y, stride, ⟨k, hk, hrow, hx, hy⟩, hcell⟩
            cases k with
            | zero =>
                cases Option.some.inj hk
                exact ⟨x, y, by simpa using hrow, hx, hy, hcell⟩
            | succ k =>
                rw [List.take_succ_cons, List.map_cons, List.sum_cons] at hrow
                omega
      · next hge =>
          rw [ih]
          constructor
          · rintro ⟨x, y, stride, ⟨k, hk, hrow, hx, hy⟩, hcell⟩
            refine ⟨x, y, stride, ⟨k + 1, hk, ?_, hx, hy⟩, hcell⟩
            rw [List.take_succ_cons, List.map_cons, List.sum_cons]
            omega
          · rintro ⟨x, y, stride, ⟨k, hk, hrow, hx, hy⟩, hcell⟩
            cases k with
            | zero =>
                cases Option.some.inj hk
                have hlast := Nat.mul_le_mul_right (side s) (Nat.succ_le_of_lt hy)
                rw [Nat.succ_mul, ← sq] at hlast
                simp at hrow
                omega
            | succ k =>
                refine ⟨x, y, stride, ⟨k, hk, ?_, hx, hy⟩, hcell⟩
                rw [List.take_succ_cons, List.map_cons, List.sum_cons] at hrow
                omega

/-- A row stands for one cell only. -/
theorem CellAt.unique {side : UInt32 → Nat} {strides : List UInt32} {row x y x' y' : Nat}
    {stride stride' : UInt32} (h : CellAt side strides row x y stride)
    (h' : CellAt side strides row x' y' stride') : x = x' ∧ y = y' ∧ stride = stride' := by
  have hcell := getElem?_strideGrids.mpr ⟨x, y, stride, h, rfl⟩
  have hcell' := getElem?_strideGrids.mpr ⟨x', y', stride', h', rfl⟩
  have heq := Option.some.inj (hcell.symm.trans hcell')
  simp only [cellOf, GridCell.mk.injEq, Binary64.finite.injEq, Nat.cast_inj] at heq
  exact ⟨heq.1, heq.2.1, UInt32.toNat_inj.mp heq.2.2⟩

/-! ### What a row says -/

/-- The value of a float that is finite. -/
def Binary64.rational? : Binary64 → Option ℚ
  | .finite q => some q
  | _ => none

section Rows

variable (exp : Binary64 → Binary64) (config : YoloXDecoderConfig) (output : List Binary64)

/-- The values of a row. -/
def entry (row column : Nat) : Option Binary64 :=
  output[row * (kClassScoresOffset + config.classCount.toNat) + column]?

/-- The finite score of a class, if it is one of those that are looked at. -/
def finiteScore (considered : Nat → Bool) (row classIndex : Nat) : Option ℚ :=
  if considered classIndex then
    (entry config output row (kClassScoresOffset + classIndex)).bind Binary64.rational?
  else none

/-- The configuration accepts every class, or this one. -/
def acceptedIndex (classIndex : Nat) : Bool :=
  config.acceptedClassIds.isEmpty || config.acceptedClassIds.any fun classId => classId.toInt = classIndex

/-- The decoder looks at a class when it accepts the cast of its index. -/
def castAccepted (classIndex : Nat) : Bool := config.acceptedClass (Int32.ofNat classIndex)

/-- What makes a row a candidate: the best finite positive score of the classes that are looked at and the
first class that has it, an objectness that takes it above the threshold, and usable box values. -/
structure RowFacts (considered : Nat → Bool) (row classIndex : Nat)
    (objectness score rawX rawY width height : ℚ) : Prop where
  best : FirstBest 0 (finiteScore config output considered row) config.classCount.toNat classIndex score
  objectness_eq : entry config output row kObjectnessIndex = some (.finite objectness)
  confident : ∃ threshold, config.confidenceThreshold = .finite threshold ∧ threshold < objectness * score
  x_eq : entry config output row 0 = some (.finite rawX)
  y_eq : entry config output row 1 = some (.finite rawY)
  width_eq : (entry config output row 2).map exp = some (.finite width)
  width_pos : 0 < width
  height_eq : (entry config output row 3).map exp = some (.finite height)
  height_pos : 0 < height

/-- A row that a candidate is due for. -/
def Qualifies (row : Nat) : Prop :=
  ∃ classIndex objectness score rawX rawY width height,
    RowFacts exp config output (acceptedIndex config) row classIndex objectness score rawX rawY width height

/-- The candidate of a row: its box is placed by the cell of the row. -/
def DescribesRow (row : Nat) (candidate : YoloXCandidate) : Prop :=
  ∃ classIndex objectness score rawX rawY width height,
    RowFacts exp config output (acceptedIndex config) row classIndex objectness score rawX rawY width height ∧
    ∃ x y stride, CellAt (fun s => (config.inputSize / s).toNat) config.strides row x y stride ∧
      candidate.centerX = .finite ((rawX + x) * stride.toNat) ∧
      candidate.centerY = .finite ((rawY + y) * stride.toNat) ∧
      candidate.width = .finite (width * stride.toNat) ∧
      candidate.height = .finite (height * stride.toNat) ∧
      candidate.confidence = .finite (objectness * score) ∧
      candidate.classId.toInt = classIndex

end Rows

/-! ### The class that scores best -/

section HighestScore

variable {config : YoloXDecoderConfig} {output : List Binary64} {row : Nat} {values : List Binary64}

/-- What the loop over the classes has selected after some of them. -/
def Selected (config : YoloXDecoderConfig) (output : List Binary64) (row bound : Nat)
    (selected : Int32 × Binary64) : Prop :=
  Barren 0 (finiteScore config output (castAccepted config) row) bound ∧ selected = (-1, .zero) ∨
    ∃ classIndex score,
      FirstBest 0 (finiteScore config output (castAccepted config) row) bound classIndex score ∧
      selected = (Int32.ofNat classIndex, .finite score)

theorem Selected.succ {bound : Nat} {selected : Int32 × Binary64} (h : Selected config output row bound selected)
    (hnone : finiteScore config output (castAccepted config) row bound = none) :
    Selected config output row (bound + 1) selected := by
  have hle {best : ℚ} : ∀ v, finiteScore config output (castAccepted config) row bound = some v → v ≤ best :=
    fun v hv => absurd (hnone.symm.trans hv) (Option.some_ne_none v).symm
  rcases h with ⟨hbarren, hselected⟩ | ⟨classIndex, best, hbest, hselected⟩
  · exact Or.inl ⟨hbarren.succ hle, hselected⟩
  · exact Or.inr ⟨classIndex, best, hbest.keep hle, hselected⟩

theorem scoreClass_selected {bound : Nat} {selected : Int32 × Binary64}
    (hselected : Selected config output row bound selected)
    (hvalue : values[(kClassScoresOffset + bound) % 2 ^ 64]? =
      entry config output row (kClassScoresOffset + bound))
    (hsome : (entry config output row (kClassScoresOffset + bound)).isSome = true) :
    ∃ selected', config.scoreClass values selected bound = some selected' ∧
      Selected config output row (bound + 1) selected' := by
  obtain ⟨score, hscore⟩ := Option.isSome_iff_exists.mp hsome
  rw [YoloXDecoderConfig.scoreClass, hvalue, hscore, Option.bind_eq_bind, Option.bind_some]
  split
  · next hnot =>
      have hnone : finiteScore config output (castAccepted config) row bound = none := by
        rw [finiteScore, castAccepted]
        exact if_neg (by simpa using hnot)
      exact ⟨selected, rfl, hselected.succ hnone⟩
  · next haccepted =>
      have hfinite : finiteScore config output (castAccepted config) row bound = score.rational? := by
        rw [finiteScore, castAccepted, hscore, if_pos (by simpa using haccepted), Option.bind_some]
      cases score with
      | finite q =>
          rw [Binary64.rational?] at hfinite
          rw [Binary64.isFinite_finite, Bool.true_and]
          rcases hselected with ⟨hbarren, rfl⟩ | ⟨classIndex, best, hbest, rfl⟩
          · split
            · next hlt =>
                have hpos : 0 < q := by simpa [Binary64.zero] using hlt
                exact ⟨_, rfl, Or.inr ⟨bound, q, hbarren.take hfinite hpos, rfl⟩⟩
            · next hge =>
                refine ⟨_, rfl, Or.inl ⟨hbarren.succ fun v hv => ?_, rfl⟩⟩
                rw [← Option.some.inj (hfinite.symm.trans hv)]
                simpa [Binary64.zero] using hge
          · split
            · next hlt => exact ⟨_, rfl, Or.inr ⟨bound, q, hbest.take hfinite (by simpa using hlt), rfl⟩⟩
            · next hge =>
                refine ⟨_, rfl, Or.inr ⟨classIndex, best, hbest.keep fun v hv => ?_, rfl⟩⟩
                rw [← Option.some.inj (hfinite.symm.trans hv)]
                simpa using hge
      | posInf => exact ⟨selected, rfl, hselected.succ hfinite⟩
      | negInf => exact ⟨selected, rfl, hselected.succ hfinite⟩
      | nan => exact ⟨selected, rfl, hselected.succ hfinite⟩

theorem highestScoringClass_selected
    (hvalue : ∀ classIndex < config.classCount.toNat, values[(kClassScoresOffset + classIndex) % 2 ^ 64]? =
      entry config output row (kClassScoresOffset + classIndex))
    (hsome : ∀ classIndex < config.classCount.toNat,
      (entry config output row (kClassScoresOffset + classIndex)).isSome = true) :
    ∃ selected, config.highestScoringClass values = some selected ∧
      Selected config output row config.classCount.toNat selected := by
  rw [YoloXDecoderConfig.highestScoringClass]
  generalize config.classCount.toNat = bound at hvalue hsome
  induction bound with
  | zero => exact ⟨_, rfl, Or.inl ⟨fun other hother => absurd hother (Nat.not_lt_zero other), rfl⟩⟩
  | succ bound ih =>
      obtain ⟨selected, hrun, hselected⟩ := ih (fun classIndex hlt => hvalue classIndex (by omega))
        fun classIndex hlt => hsome classIndex (by omega)
      obtain ⟨selected', hstep, hselected'⟩ :=
        scoreClass_selected hselected (hvalue bound (Nat.lt_succ_self bound))
        (hsome bound (Nat.lt_succ_self bound))
      refine ⟨selected', ?_, hselected'⟩
      rw [List.range_succ, List.foldlM_append, hrun, Option.bind_eq_bind, Option.bind_some, List.foldlM_cons,
        hstep]
      rfl

end HighestScore

/-! ### The box -/

/-- A box in its cell. -/
def placed (x y : Nat) (stride : UInt32) (rawX rawY width height confidence : ℚ) (classId : Int32) :
    YoloXCandidate where
  centerX := .finite ((rawX + x) * stride.toNat)
  centerY := .finite ((rawY + y) * stride.toNat)
  width := .finite (width * stride.toNat)
  height := .finite (height * stride.toNat)
  confidence := .finite confidence
  classId := classId

section Box

variable {exp : Binary64 → Binary64} {values : List Binary64} {x y : Nat} {stride : UInt32}

theorem center_isFinite {raw : Binary64} (offset s : ℚ) :
    ((raw.plus (.finite offset)).times (.finite s)).isFinite = true ↔ ∃ q, raw = .finite q := by
  rw [Binary64.isFinite_iff]
  constructor
  · rintro ⟨c, hc⟩
    obtain ⟨sum, hsum, -⟩ := Binary64.times_eq_finite.mp hc
    obtain ⟨q, hq, -⟩ := Binary64.plus_eq_finite.mp hsum
    exact ⟨q, hq⟩
  · rintro ⟨q, rfl⟩
    exact ⟨_, rfl⟩

theorem size_usable {raw : Binary64} {s : ℚ} (hs : 0 < s) :
    ((raw.times (.finite s)).isFinite = true ∧ Binary64.zero.ge (raw.times (.finite s)) = false) ↔
      ∃ q, raw = .finite q ∧ 0 < q := by
  rw [Binary64.isFinite_iff]
  constructor
  · rintro ⟨⟨c, hc⟩, hpositive⟩
    obtain ⟨q, hq, rfl⟩ := Binary64.times_eq_finite.mp hc
    rw [hc, Binary64.zero, Binary64.ge_finite, decide_eq_false_iff_not, not_le] at hpositive
    exact ⟨q, hq, (mul_pos_iff_of_pos_right hs).mp hpositive⟩
  · rintro ⟨q, rfl, hq⟩
    refine ⟨⟨_, rfl⟩, ?_⟩
    rw [Binary64.times, Binary64.zero, Binary64.ge_finite, decide_eq_false_iff_not, not_le]
    exact mul_pos hq hs

variable (exp) in
theorem decodeBox_spec {first second third fourth : Binary64} (hx : values[0]? = some first)
    (hy : values[1]? = some second) (hwidth : values[2]? = some third) (hheight : values[3]? = some fourth)
    (hstride : (0 : ℚ) < stride.toNat) (confidence : ℚ) (classId : Int32) :
    ∃ answer, decodeBox exp values (cellOf x y stride) (.finite confidence) classId = some answer ∧
      ∀ candidate, answer = some candidate ↔ ∃ rawX rawY width height, first = .finite rawX ∧
        second = .finite rawY ∧ exp third = .finite width ∧ 0 < width ∧ exp fourth = .finite height ∧
        0 < height ∧ candidate = placed x y stride rawX rawY width height confidence classId := by
  rw [decodeBox, hx, hy, hwidth, hheight]
  simp only [Option.bind_eq_bind, Option.bind_some]
  split
  · next hreject =>
      simp only [cellOf] at hreject
      refine ⟨none, rfl, fun candidate => ⟨fun h => absurd h.symm (Option.some_ne_none candidate), ?_⟩⟩
      rintro ⟨rawX, rawY, width, height, hfirst, hsecond, hthird, hwidth, hfourth, hheight, -⟩
      have hcx := (center_isFinite x stride.toNat).mpr ⟨rawX, hfirst⟩
      have hcy := (center_isFinite y stride.toNat).mpr ⟨rawY, hsecond⟩
      have hw := (size_usable hstride).mpr ⟨width, hthird, hwidth⟩
      have hh := (size_usable hstride).mpr ⟨height, hfourth, hheight⟩
      rw [hcx, hcy, hw.1, hw.2, hh.1, hh.2] at hreject
      cases hreject
  · next haccept =>
      simp only [cellOf, Bool.or_eq_true, not_or, Bool.not_eq_true, Bool.not_eq_false'] at haccept
      obtain ⟨⟨⟨⟨⟨hcx, hcy⟩, hw⟩, hh⟩, hwpos⟩, hhpos⟩ := haccept
      obtain ⟨rawX, rfl⟩ := (center_isFinite _ _).mp hcx
      obtain ⟨rawY, rfl⟩ := (center_isFinite _ _).mp hcy
      obtain ⟨width, hthird, hwidth⟩ := (size_usable hstride).mp ⟨hw, hwpos⟩
      obtain ⟨height, hfourth, hheight⟩ := (size_usable hstride).mp ⟨hh, hhpos⟩
      rw [hthird, hfourth]
      refine ⟨_, rfl, fun candidate => ?_⟩
      rw [Option.some_inj, eq_comm]
      constructor
      · rintro rfl
        exact ⟨rawX, rawY, width, height, rfl, rfl, rfl, hwidth, rfl, hheight, rfl⟩
      · rintro ⟨rawX', rawY', width', height', hx', hy', hw', -, hh', -, rfl⟩
        cases hx'
        cases hy'
        cases hw'
        cases hh'
        rfl

end Box

/-! ### A row -/

section Row

variable {exp : Binary64 → Binary64} {config : YoloXDecoderConfig} {output values : List Binary64}
  {row x y : Nat} {stride : UInt32}

/-- The part of the output that is a whole row. -/
structure WholeRow (config : YoloXDecoderConfig) (output : List Binary64) (row : Nat) (values : List Binary64) :
    Prop where
  columns : kClassScoresOffset + config.classCount.toNat < 2 ^ 64
  inside : (row + 1) * (kClassScoresOffset + config.classCount.toNat) ≤ output.length
  values_eq : values = (output.drop (row * (kClassScoresOffset + config.classCount.toNat))).take
    (kClassScoresOffset + config.classCount.toNat)

theorem WholeRow.get (h : WholeRow config output row values) {column : Nat}
    (hcolumn : column < kClassScoresOffset + config.classCount.toNat) :
    ∃ value, values[column]? = some value ∧ entry config output row column = some value := by
  have hinside := h.inside
  rw [Nat.succ_mul] at hinside
  have hlt : row * (kClassScoresOffset + config.classCount.toNat) + column < output.length := by omega
  refine ⟨output[row * (kClassScoresOffset + config.classCount.toNat) + column], ?_, ?_⟩
  · rw [h.values_eq, List.getElem?_take_of_lt hcolumn, List.getElem?_drop, List.getElem?_eq_getElem hlt]
  · rw [entry, List.getElem?_eq_getElem hlt]

theorem WholeRow.highest (h : WholeRow config output row values) :
    ∃ selected, config.highestScoringClass values = some selected ∧
      Selected config output row config.classCount.toNat selected := by
  have hcolumns := h.columns
  refine highestScoringClass_selected (fun classIndex hlt => ?_) fun classIndex hlt => ?_
  · obtain ⟨value, hvalue, hentry⟩ := h.get (Nat.add_lt_add_left hlt kClassScoresOffset)
    rw [Nat.mod_eq_of_lt (by omega), hvalue, hentry]
  · obtain ⟨value, -, hentry⟩ := h.get (Nat.add_lt_add_left hlt kClassScoresOffset)
    rw [hentry]
    rfl

theorem considered_of_finiteScore {considered : Nat → Bool} {classIndex : Nat} {score : ℚ}
    (h : finiteScore config output considered row classIndex = some score) : considered classIndex = true := by
  rw [finiteScore] at h
  split at h
  · assumption
  · cases h

/-- No candidate is right for a row whose best class gets a negative class id. -/
theorem none_answers (hfacts : ∀ classIndex objectness score rawX rawY width height,
      RowFacts exp config output (castAccepted config) row classIndex objectness score rawX rawY width height →
      Int32.ofNat classIndex < 0) (candidate : YoloXCandidate) :
    none = some candidate ↔ ∃ classIndex objectness score rawX rawY width height,
      RowFacts exp config output (castAccepted config) row classIndex objectness score rawX rawY width height ∧
      ¬Int32.ofNat classIndex < 0 ∧ candidate =
        placed x y stride rawX rawY width height (objectness * score) (Int32.ofNat classIndex) := by
  refine ⟨fun h => absurd h.symm (Option.some_ne_none candidate), ?_⟩
  rintro ⟨classIndex, objectness, score, rawX, rawY, width, height, h, hnonneg, -⟩
  exact absurd (hfacts _ _ _ _ _ _ _ h) hnonneg

/-- With its best class, its objectness and its box values at hand, the facts of a row are those of its box. -/
theorem box_answers {classIndex : Nat} {first second third fourth : Binary64} {threshold objectness score : ℚ}
    (hbest : FirstBest 0 (finiteScore config output (castAccepted config) row) config.classCount.toNat classIndex
      score)
    (hobjectness : entry config output row kObjectnessIndex = some (.finite objectness))
    (hthreshold : config.confidenceThreshold = .finite threshold) (hconfident : threshold < objectness * score)
    (hnonneg : ¬Int32.ofNat classIndex < 0) (hx : entry config output row 0 = some first)
    (hy : entry config output row 1 = some second) (hwidth : entry config output row 2 = some third)
    (hheight : entry config output row 3 = some fourth) (candidate : YoloXCandidate) :
    (∃ rawX rawY width height, first = .finite rawX ∧ second = .finite rawY ∧ exp third = .finite width ∧
      0 < width ∧ exp fourth = .finite height ∧ 0 < height ∧ candidate =
        placed x y stride rawX rawY width height (objectness * score) (Int32.ofNat classIndex)) ↔
    ∃ classIndex objectness score rawX rawY width height,
      RowFacts exp config output (castAccepted config) row classIndex objectness score rawX rawY width height ∧
      ¬Int32.ofNat classIndex < 0 ∧ candidate =
        placed x y stride rawX rawY width height (objectness * score) (Int32.ofNat classIndex) := by
  constructor
  · rintro ⟨rawX, rawY, width, height, rfl, rfl, hw, hwpos, hh, hhpos, hcandidate⟩
    have hfacts : RowFacts exp config output (castAccepted config) row classIndex objectness score rawX rawY
        width height :=
      ⟨hbest, hobjectness, ⟨threshold, hthreshold, hconfident⟩, hx, hy, by rw [hwidth, Option.map_some, hw],
        hwpos, by rw [hheight, Option.map_some, hh], hhpos⟩
    exact ⟨classIndex, objectness, score, rawX, rawY, width, height, hfacts, hnonneg, hcandidate⟩
  · rintro ⟨classIndex', objectness', score', rawX, rawY, width, height, h, -, hcandidate⟩
    obtain ⟨rfl, rfl⟩ := hbest.unique h.best
    cases Option.some.inj (hobjectness.symm.trans h.objectness_eq)
    have hw := h.width_eq
    have hh := h.height_eq
    rw [hwidth, Option.map_some] at hw
    rw [hheight, Option.map_some] at hh
    exact ⟨rawX, rawY, width, height, Option.some.inj (hx.symm.trans h.x_eq),
      Option.some.inj (hy.symm.trans h.y_eq), Option.some.inj hw, h.width_pos, Option.some.inj hh, h.height_pos,
      hcandidate⟩

variable (exp) in
/-- What the decoder makes of a row: the candidate of its facts, with the class id that the cast gives, unless
that is negative. -/
theorem decodeRow_spec (hrow : WholeRow config output row values) (hstride : (0 : ℚ) < stride.toNat)
    {threshold : ℚ} (hthreshold : config.confidenceThreshold = .finite threshold) :
    ∃ answer, decodeRow exp config values (some (cellOf x y stride)) = some answer ∧
      ∀ candidate, answer = some candidate ↔ ∃ classIndex objectness score rawX rawY width height,
        RowFacts exp config output (castAccepted config) row classIndex objectness score rawX rawY width height ∧
        ¬Int32.ofNat classIndex < 0 ∧ candidate =
          placed x y stride rawX rawY width height (objectness * score) (Int32.ofNat classIndex) := by
  have hcolumn {column : Nat} (h : column < 5) : column < kClassScoresOffset + config.classCount.toNat :=
    Nat.lt_add_right _ h
  obtain ⟨first, hfirst, hx⟩ := hrow.get (hcolumn (by decide : 0 < 5))
  obtain ⟨second, hsecond, hy⟩ := hrow.get (hcolumn (by decide : 1 < 5))
  obtain ⟨third, hthird, hwidth⟩ := hrow.get (hcolumn (by decide : 2 < 5))
  obtain ⟨fourth, hfourth, hheight⟩ := hrow.get (hcolumn (by decide : 3 < 5))
  obtain ⟨fifth, hfifth, hobjectness⟩ := hrow.get (hcolumn (by decide : kObjectnessIndex < 5))
  obtain ⟨selected, hselected, hclass⟩ := hrow.highest
  rw [decodeRow, hfifth, hselected]
  simp only [Option.bind_eq_bind, Option.bind_some]
  rcases hclass with ⟨hbarren, rfl⟩ | ⟨classIndex, score, hbest, rfl⟩
  · refine ⟨none, rfl, none_answers fun classIndex objectness score rawX rawY width height h => ?_⟩
    exact absurd (hbarren classIndex h.best.lt score h.best.value_eq) (not_le.mpr h.best.above)
  · have haccepted : config.acceptedClass (Int32.ofNat classIndex) = true :=
      considered_of_finiteScore hbest.value_eq
    split
    · next hreject =>
        refine ⟨none, rfl, none_answers fun classIndex' objectness score' rawX rawY width height h => ?_⟩
        obtain ⟨rfl, rfl⟩ := hbest.unique h.best
        cases Option.some.inj (hobjectness.symm.trans h.objectness_eq)
        obtain ⟨_, heq, hconfident⟩ := h.confident
        cases hthreshold.symm.trans heq
        simp only [haccepted, hthreshold, Binary64.times, Binary64.isFinite_finite, Binary64.ge_finite,
          Bool.not_true, Bool.or_false, Bool.or_eq_true, decide_eq_true_eq] at hreject
        exact hreject.resolve_right (not_le.mpr hconfident)
    · next haccept =>
        simp only [haccepted, hthreshold, Bool.not_true, Bool.or_false, Bool.or_eq_true, not_or,
          decide_eq_true_eq, Bool.not_eq_true, Bool.not_eq_false'] at haccept
        obtain ⟨⟨⟨hnonneg, hfinite⟩, -⟩, hconfident⟩ := haccept
        obtain ⟨objectness, rfl⟩ := (Binary64.isFinite_iff fifth).mp hfinite
        rw [Binary64.times, Binary64.ge_finite, decide_eq_false_iff_not, not_le] at hconfident
        obtain ⟨answer, hanswer, hbox⟩ := decodeBox_spec exp (x := x) (y := y) hfirst hsecond hthird
          hfourth hstride (objectness * score) (Int32.ofNat classIndex)
        refine ⟨answer, hanswer, fun candidate => (hbox candidate).trans ?_⟩
        exact box_answers hbest hobjectness hthreshold hconfident hnonneg hx hy hwidth hheight candidate

end Row

/-! ### The cast of a class index -/

section Cast

variable {exp : Binary64 → Binary64} {config : YoloXDecoderConfig} {output : List Binary64} {row classIndex : Nat}
  {objectness score rawX rawY width height : ℚ}

/-- What the checks of a configuration leave. -/
structure ValidConfig (config : YoloXDecoderConfig) : Prop where
  threshold : ∃ threshold, config.confidenceThreshold = .finite threshold ∧ 0 ≤ threshold
  inputSize_ne : config.inputSize ≠ 0
  strides_ne : config.strides ≠ []
  divides : ∀ stride ∈ config.strides, stride ≠ 0 ∧ config.inputSize % stride = 0
  nonneg : ∀ classId ∈ config.acceptedClassIds, ¬classId < 0

theorem validConfig_of_validate (h : config.validate = .ok ()) : ValidConfig config := by
  simp only [YoloXDecoderConfig.validate, check_bind_ok, rejectIf_ok, Bool.or_eq_false_iff,
    List.any_eq_false, Bool.or_eq_true, decide_eq_true_eq, not_or, beq_iff_eq, bne_iff_ne, not_not,
    Bool.not_eq_false'] at h
  obtain ⟨⟨⟨⟨⟨⟨-, hinput⟩, hstrides⟩, hfinite⟩, hzero⟩, -⟩, hdivides, hids⟩ := h
  obtain ⟨threshold, hthreshold⟩ := (Binary64.isFinite_iff _).mp hfinite
  rw [hthreshold, Binary64.zero, Binary64.lt_finite, decide_eq_false_iff_not, not_lt] at hzero
  exact ⟨⟨threshold, hthreshold, hzero⟩, by simpa using hinput, by simpa using hstrides, hdivides,
    fun classId hmem => (hids classId hmem).1⟩

theorem castAccepted_eq (h : classIndex < 2 ^ 31) :
    castAccepted config classIndex = acceptedIndex config classIndex := by
  have hcast := Int32.toInt_ofNat_of_lt h
  rw [castAccepted, YoloXDecoderConfig.acceptedClass, acceptedIndex, List.contains_eq_any_beq]
  congr 1
  refine List.any_congr rfl fun classId => ?_
  rw [Bool.eq_iff_iff, beq_iff_eq, decide_eq_true_eq, ← hcast, Int32.toInt_inj]
  exact eq_comm

/-- A class that the configuration names is looked at. -/
theorem castAccepted_of_acceptedIndex (h : acceptedIndex config classIndex = true) :
    castAccepted config classIndex = true := by
  by_cases hlt : classIndex < 2 ^ 31
  · rw [castAccepted_eq hlt]
    exact h
  · rw [acceptedIndex, Bool.or_eq_true, List.any_eq_true] at h
    rcases h with hempty | ⟨classId, -, hclass⟩
    · rw [castAccepted, YoloXDecoderConfig.acceptedClass, hempty, Bool.true_or]
    · have hbound := classId.toInt_lt
      rw [of_decide_eq_true hclass] at hbound
      omega

theorem finiteScore_cast {other : Nat} {v : ℚ}
    (h : finiteScore config output (acceptedIndex config) row other = some v) :
    finiteScore config output (castAccepted config) row other = some v := by
  have haccepted := considered_of_finiteScore h
  rw [finiteScore, if_pos haccepted] at h
  rw [finiteScore, if_pos (castAccepted_of_acceptedIndex haccepted)]
  exact h

/-- The facts of a row for the classes that are accepted, from those for the classes that are looked at. -/
theorem RowFacts.accepted (h : RowFacts exp config output (castAccepted config) row classIndex objectness score
      rawX rawY width height) (haccepted : acceptedIndex config classIndex = true) :
    RowFacts exp config output (acceptedIndex config) row classIndex objectness score rawX rawY width height := by
  have hvalue := h.best.value_eq
  rw [finiteScore, if_pos (considered_of_finiteScore h.best.value_eq)] at hvalue
  refine { h with best := h.best.restrict ?_ fun other v hv => finiteScore_cast hv }
  rw [finiteScore, if_pos haccepted]
  exact hvalue

theorem RowFacts.objectness_pos (hconfig : ValidConfig config) {considered : Nat → Bool}
    (h : RowFacts exp config output considered row classIndex objectness score rawX rawY width height) :
    0 < objectness := by
  obtain ⟨threshold, hthreshold, hnonneg⟩ := hconfig.threshold
  obtain ⟨_, heq, hconfident⟩ := h.confident
  cases hthreshold.symm.trans heq
  exact (mul_pos_iff_of_pos_right h.best.above).mp (hnonneg.trans_lt hconfident)

/-- The classes that are looked at have a best score too, which is no less. -/
theorem RowFacts.cast (hconfig : ValidConfig config) (h : RowFacts exp config output (acceptedIndex config) row
      classIndex objectness score rawX rawY width height) :
    ∃ classIndex' score', RowFacts exp config output (castAccepted config) row classIndex' objectness score' rawX
      rawY width height := by
  have hpositive := h.objectness_pos hconfig
  obtain ⟨threshold, hthreshold, hconfident⟩ := h.confident
  have hscore := finiteScore_cast h.best.value_eq
  rcases barren_or_firstBest 0 (finiteScore config output (castAccepted config) row)
    config.classCount.toNat with hbarren | ⟨classIndex', score', hbest⟩
  · exact absurd (hbarren classIndex h.best.lt score hscore) (not_le.mpr h.best.above)
  · have hle := hbest.highest classIndex h.best.lt score hscore
    refine ⟨classIndex', score', { h with best := hbest, confident := ⟨threshold, hthreshold, ?_⟩ }⟩
    exact hconfident.trans_le (mul_le_mul_of_nonneg_left hle hpositive.le)

end Cast

/-! ### The rows that are decoded right -/

section Rows

variable {exp : Binary64 → Binary64} {config : YoloXDecoderConfig} {output : List Binary64} {row : Nat}

/-- The best score of a row that is a candidate comes first at an index that the cast keeps. -/
def NearClass (exp : Binary64 → Binary64) (config : YoloXDecoderConfig) (output : List Binary64) (row : Nat) :
    Prop :=
  ∀ classIndex objectness score rawX rawY width height,
    RowFacts exp config output (castAccepted config) row classIndex objectness score rawX rawY width height →
    classIndex < 2 ^ 31

/-- What the decoder gives for a row: the candidate of its facts in the cell that it stands for. -/
structure RowAnswer (exp : Binary64 → Binary64) (config : YoloXDecoderConfig) (output : List Binary64) (row : Nat)
    (answer : Option YoloXCandidate) : Prop where
  placed : ∃ x y stride, CellAt (fun s => (config.inputSize / s).toNat) config.strides row x y stride ∧
    ∀ candidate, answer = some candidate ↔ ∃ classIndex objectness score rawX rawY width height,
      RowFacts exp config output (castAccepted config) row classIndex objectness score rawX rawY width height ∧
      ¬Int32.ofNat classIndex < 0 ∧ candidate =
        OnboardAutonomy.placed x y stride rawX rawY width height (objectness * score) (Int32.ofNat classIndex)

variable {answer : Option YoloXCandidate}

theorem not_lt_zero_of_near {classIndex : Nat} (h : classIndex < 2 ^ 31) : ¬Int32.ofNat classIndex < 0 := by
  rw [Int32.lt_iff_toInt_lt, Int32.toInt_ofNat_of_lt h, Int32.toInt_zero]
  omega

/-- Without accepted class ids every candidate is due; with them every candidate that is due is given. -/
theorem RowAnswer.within (hconfig : ValidConfig config) (h : RowAnswer exp config output row answer) :
    (config.acceptedClassIds = [] → answer.isSome = true → Qualifies exp config output row) ∧
    (config.acceptedClassIds ≠ [] → Qualifies exp config output row → answer.isSome = true) := by
  obtain ⟨x, y, stride, -, hanswer⟩ := h.placed
  constructor
  · intro hempty hsome
    obtain ⟨candidate, hcandidate⟩ := Option.isSome_iff_exists.mp hsome
    obtain ⟨classIndex, objectness, score, rawX, rawY, width, height, hfacts, -⟩ :=
      (hanswer candidate).mp hcandidate
    have haccepted : acceptedIndex config classIndex = true := by
      rw [acceptedIndex, hempty]
      rfl
    exact ⟨_, _, _, _, _, _, _, hfacts.accepted haccepted⟩
  · rintro hids ⟨classIndex, objectness, score, rawX, rawY, width, height, hfacts⟩
    obtain ⟨classIndex', score', hcast⟩ := hfacts.cast hconfig
    have hlooked := considered_of_finiteScore hcast.best.value_eq
    rw [castAccepted, YoloXDecoderConfig.acceptedClass, Bool.or_eq_true, List.isEmpty_iff,
      List.contains_iff_mem] at hlooked
    have hnonneg := hconfig.nonneg _ (hlooked.resolve_left hids)
    exact Option.isSome_iff_exists.mpr
      ⟨_, (hanswer _).mpr ⟨classIndex', objectness, score', rawX, rawY, width, height, hcast, hnonneg, rfl⟩⟩

/-- The candidate of a row is the one that is due, and is given when it is due. -/
def RowRight (exp : Binary64 → Binary64) (config : YoloXDecoderConfig) (output : List Binary64) (row : Nat)
    (answer : Option YoloXCandidate) : Prop :=
  (answer.isSome = true ↔ Qualifies exp config output row) ∧
    ∀ candidate, answer = some candidate → DescribesRow exp config output row candidate

theorem RowAnswer.right_of_near (hconfig : ValidConfig config) (h : RowAnswer exp config output row answer)
    (hnear : NearClass exp config output row) : RowRight exp config output row answer := by
  obtain ⟨x, y, stride, hcell, hanswer⟩ := h.placed
  have hdescribes : ∀ candidate, answer = some candidate → DescribesRow exp config output row candidate := by
    intro candidate hcandidate
    obtain ⟨classIndex, objectness, score, rawX, rawY, width, height, hfacts, -, rfl⟩ :=
      (hanswer candidate).mp hcandidate
    have hlt := hnear _ _ _ _ _ _ _ hfacts
    have haccepted : acceptedIndex config classIndex = true := by
      rw [← castAccepted_eq hlt]
      exact considered_of_finiteScore hfacts.best.value_eq
    exact ⟨_, _, _, _, _, _, _, hfacts.accepted haccepted, x, y, stride, hcell, rfl, rfl, rfl, rfl, rfl,
      Int32.toInt_ofNat_of_lt hlt⟩
  refine ⟨⟨fun hsome => ?_, ?_⟩, hdescribes⟩
  · obtain ⟨candidate, hcandidate⟩ := Option.isSome_iff_exists.mp hsome
    obtain ⟨classIndex, objectness, score, rawX, rawY, width, height, hfacts, -⟩ :=
      hdescribes candidate hcandidate
    exact ⟨_, _, _, _, _, _, _, hfacts⟩
  · rintro ⟨classIndex, objectness, score, rawX, rawY, width, height, hfacts⟩
    obtain ⟨classIndex', score', hcast⟩ := hfacts.cast hconfig
    have hnonneg := not_lt_zero_of_near (hnear _ _ _ _ _ _ _ hcast)
    exact Option.isSome_iff_exists.mpr
      ⟨_, (hanswer _).mpr ⟨classIndex', objectness, score', rawX, rawY, width, height, hcast, hnonneg, rfl⟩⟩

theorem RowAnswer.near_of_right (hconfig : ValidConfig config) (h : RowAnswer exp config output row answer)
    (hright : RowRight exp config output row answer) : NearClass exp config output row := by
  obtain ⟨x, y, stride, -, hanswer⟩ := h.placed
  intro classIndex objectness score rawX rawY width height hfacts
  have hlooked := considered_of_finiteScore hfacts.best.value_eq
  rw [castAccepted, YoloXDecoderConfig.acceptedClass, Bool.or_eq_true, List.isEmpty_iff,
    List.contains_iff_mem] at hlooked
  by_cases hids : config.acceptedClassIds = []
  · -- The candidate that is due has a class id that no cast gives.
    have haccepted : acceptedIndex config classIndex = true := by
      rw [acceptedIndex, hids]
      rfl
    have hdue := hfacts.accepted haccepted
    obtain ⟨candidate, hcandidate⟩ :=
      Option.isSome_iff_exists.mp (hright.1.mpr ⟨_, _, _, _, _, _, _, hdue⟩)
    obtain ⟨classIndex', _, _, _, _, _, _, hdue', _, _, _, _, -, -, -, -, -, hid⟩ :=
      hright.2 candidate hcandidate
    obtain ⟨rfl, -⟩ := hdue.best.unique hdue'.best
    have hbound := candidate.classId.toInt_lt
    omega
  · -- The candidate that is given has the best score, and the class that has it first is an accepted one.
    have hnonneg := hconfig.nonneg _ (hlooked.resolve_left hids)
    have hgiven := (hanswer _).mpr
      ⟨classIndex, objectness, score, rawX, rawY, width, height, hfacts, hnonneg, rfl⟩
    obtain ⟨classIndex', objectness', score', _, _, _, _, hdue, _, _, _, _, -, -, -, -, hconfidence, -⟩ :=
      hright.2 _ hgiven
    cases Option.some.inj (hfacts.objectness_eq.symm.trans hdue.objectness_eq)
    have hscore : score = score' :=
      mul_left_cancel₀ (hfacts.objectness_pos hconfig).ne' (Binary64.finite.inj hconfidence)
    have haccepted := considered_of_finiteScore hdue.best.value_eq
    rw [acceptedIndex, Bool.or_eq_true, List.isEmpty_iff, List.any_eq_true] at haccepted
    obtain ⟨classId, -, hid⟩ := haccepted.resolve_left hids
    have hbound := classId.toInt_lt
    rw [of_decide_eq_true hid] at hbound
    by_contra hfar
    refine hfacts.best.first classIndex' (by omega) ?_
    rw [hscore]
    exact finiteScore_cast hdue.best.value_eq

end Rows

/-! ### All rows -/

section Output

variable {exp : Binary64 → Binary64} {config : YoloXDecoderConfig} {output : List Binary64}
  {rowCount columnCount : UInt64}

/-- The shape of the output that the decoder accepts. -/
structure AcceptedShape (config : YoloXDecoderConfig) (output : List Binary64) (rowCount columnCount : UInt64) :
    Prop where
  rows : rowCount.toNat = config.makeGrid.length
  columns : columnCount = config.expectedColumns
  size : output.length = (rowCount * columnCount).toNat

/-- A row of the loop. -/
def decodeAt (exp : Binary64 → Binary64) (config : YoloXDecoderConfig) (output : List Binary64)
    (columnCount : UInt64) (row : Nat) : Option (Option YoloXCandidate) := do
  decodeRow exp config (← subspan output (UInt64.ofNat row * columnCount) columnCount) config.makeGrid[row]?

theorem decodeYoloXOutput_eq (hconfig : config.validate = .ok ())
    (hshape : AcceptedShape config output rowCount columnCount) :
    decodeYoloXOutput exp config output rowCount columnCount =
      .ok (((List.range rowCount.toNat).mapM (decodeAt exp config output columnCount)).map
        (List.filterMap id)) := by
  have haccepted : (decide (rowCount.toNat ≠ config.makeGrid.length) || columnCount != config.expectedColumns ||
      decide (output.length ≠ (rowCount * columnCount).toNat)) = false := by
    rw [hshape.rows, ← hshape.columns, hshape.size]
    simp
  rw [decodeYoloXOutput, hconfig]
  simp only [haccepted]
  have hrows : decodeRows exp config output config.makeGrid rowCount columnCount =
      ((List.range rowCount.toNat).mapM (decodeAt exp config output columnCount)).map (List.filterMap id) :=
    Option.map_eq_bind.symm
  rw [← hrows]
  rfl

theorem side_pos (hconfig : ValidConfig config) {stride : UInt32} (hmem : stride ∈ config.strides) :
    0 < (config.inputSize / stride).toNat ∧ 0 < stride.toNat := by
  obtain ⟨hne, hdivides⟩ := hconfig.divides stride hmem
  have hstride : 0 < stride.toNat := Nat.pos_of_ne_zero fun h => hne (UInt32.toNat_inj.mp h)
  have hinput : 0 < config.inputSize.toNat :=
    Nat.pos_of_ne_zero fun h => hconfig.inputSize_ne (UInt32.toNat_inj.mp h)
  have hmod : config.inputSize.toNat % stride.toNat = 0 := by
    rw [← UInt32.toNat_mod, hdivides]
    rfl
  refine ⟨?_, hstride⟩
  rw [UInt32.toNat_div]
  exact Nat.div_pos (Nat.le_of_dvd hinput (Nat.dvd_of_mod_eq_zero hmod)) hstride

theorem getElem?_makeGrid {row : Nat} {cell : GridCell} : config.makeGrid[row]? = some cell ↔
    ∃ x y stride, CellAt (fun s => (config.inputSize / s).toNat) config.strides row x y stride ∧
      cellOf x y stride = cell := getElem?_strideGrids

theorem rows_pos (hconfig : ValidConfig config) : 0 < config.makeGrid.length := by
  obtain ⟨stride, strides, hstrides⟩ := List.exists_cons_of_ne_nil hconfig.strides_ne
  have hfirst : config.strides[0]? = some stride := by
    rw [hstrides]
    rfl
  obtain ⟨hside, -⟩ := side_pos hconfig (List.mem_of_getElem? hfirst)
  have hcell : config.makeGrid[0]? = some (cellOf 0 0 stride) :=
    getElem?_makeGrid.mpr ⟨0, 0, stride, ⟨0, hfirst, by simp, hside, hside⟩, rfl⟩
  exact (List.getElem?_eq_some_iff.mp hcell).1

theorem expectedColumns_toNat (config : YoloXDecoderConfig) :
    config.expectedColumns.toNat = (kClassScoresOffset + config.classCount.toNat) % 2 ^ 64 := by
  rw [YoloXDecoderConfig.expectedColumns, UInt64.toNat_add]
  rfl

/-- Without an overflow every row is inside the output and gets an answer. -/
theorem decodeAt_answer (hconfig : ValidConfig config) (hshape : AcceptedShape config output rowCount columnCount)
    (hsize : rowCount.toNat * (kClassScoresOffset + config.classCount.toNat) < 2 ^ 64) {row : Nat}
    (hrow : row < rowCount.toNat) :
    ∃ answer, decodeAt exp config output columnCount row = some answer ∧
      RowAnswer exp config output row answer := by
  obtain ⟨threshold, hthreshold, -⟩ := hconfig.threshold
  have hle := Nat.mul_le_mul_right (kClassScoresOffset + config.classCount.toNat) (Nat.succ_le_of_lt hrow)
  have hcolumns : kClassScoresOffset + config.classCount.toNat < 2 ^ 64 := by
    rw [Nat.succ_mul] at hle
    omega
  have hcount : columnCount.toNat = kClassScoresOffset + config.classCount.toNat := by
    rw [hshape.columns, expectedColumns_toNat, Nat.mod_eq_of_lt hcolumns]
  have hlength : output.length = rowCount.toNat * (kClassScoresOffset + config.classCount.toNat) := by
    rw [hshape.size, UInt64.toNat_mul, hcount, Nat.mod_eq_of_lt hsize]
  have hoffset : (UInt64.ofNat row * columnCount).toNat =
      row * (kClassScoresOffset + config.classCount.toNat) := by
    have hbound : row < 2 ^ 64 := hrow.trans rowCount.toNat_lt
    rw [UInt64.toNat_mul, UInt64.toNat_ofNat', hcount, Nat.mod_eq_of_lt hbound]
    rw [Nat.succ_mul] at hle
    exact Nat.mod_eq_of_lt (by omega)
  have hgrid : row < config.makeGrid.length := by
    rw [← hshape.rows]
    exact hrow
  obtain ⟨x, y, stride, hcell, heq⟩ := getElem?_makeGrid.mp (List.getElem?_eq_getElem hgrid)
  obtain ⟨k, hk, -⟩ := id hcell
  obtain ⟨-, hstride⟩ := side_pos hconfig (List.mem_of_getElem? hk)
  have hwhole : WholeRow config output row
      ((output.drop (row * (kClassScoresOffset + config.classCount.toNat))).take
        (kClassScoresOffset + config.classCount.toNat)) := ⟨hcolumns, by rwa [hlength], rfl⟩
  obtain ⟨answer, hanswer, hcandidate⟩ := decodeRow_spec exp (x := x) (y := y) hwhole
    (Nat.cast_pos.mpr hstride) hthreshold
  refine ⟨answer, ?_, ⟨x, y, stride, hcell, hcandidate⟩⟩
  have hinside : (UInt64.ofNat row * columnCount).toNat ≤ output.length ∧ (columnCount = -1 ∨
      columnCount.toNat ≤ output.length - (UInt64.ofNat row * columnCount).toNat) := by
    rw [hoffset, hcount, hlength]
    rw [Nat.succ_mul] at hle
    exact ⟨by omega, Or.inr (by omega)⟩
  rw [decodeAt, subspan, if_pos hinside, Option.bind_eq_bind, Option.bind_some, hoffset, hcount,
    List.getElem?_eq_getElem hgrid, ← heq]
  exact hanswer

theorem mul_mod_succ_lt {rows columns : Nat} (htwo : 2 ≤ rows) (hle : rows ≤ columns) :
    rows * columns % (columns + 1) < columns := by
  obtain ⟨k, rfl⟩ := Nat.exists_eq_add_of_le htwo
  obtain ⟨d, rfl⟩ := Nat.exists_eq_add_of_le hle
  have hproduct : (2 + k) * (2 + k + d) = 1 + d + (2 + k + d + 1) * (k + 1) := by ring
  rw [hproduct, Nat.add_mul_mod_self_left, Nat.mod_eq_of_lt (by omega)]
  omega

theorem decodeAt_eq_none {row : Nat} (h : ¬((UInt64.ofNat row * columnCount).toNat ≤ output.length ∧
      (columnCount = -1 ∨ columnCount.toNat ≤ output.length - (UInt64.ofNat row * columnCount).toNat))) :
    decodeAt exp config output columnCount row = none := by
  rw [decodeAt, subspan, if_neg h]
  rfl

theorem length_subspan {offset count : UInt64} {values : List Binary64}
    (h : subspan output offset count = some values) : values.length ≤ count.toNat := by
  rw [subspan] at h
  split at h
  · cases h
    exact List.length_take_le _ _
  · cases h

/-- A row of fewer than five columns has no objectness. -/
theorem decodeAt_few_columns (h : columnCount.toNat ≤ kObjectnessIndex) (row : Nat) :
    decodeAt exp config output columnCount row = none := by
  rw [decodeAt]
  cases hvalues : subspan output (UInt64.ofNat row * columnCount) columnCount with
  | none => rfl
  | some values =>
      have hlength := (length_subspan hvalues).trans h
      rw [Option.bind_eq_bind, Option.bind_some, decodeRow, List.getElem?_eq_none hlength]
      rfl

/-- A count of all ones asks for the rest of the output: the second row starts behind its end. -/
theorem decodeAt_all_ones (hlength : output.length = rowCount.toNat * columnCount.toNat % 2 ^ 64)
    (hrest : columnCount = -1) (htwo : 2 ≤ rowCount.toNat) :
    decodeAt exp config output columnCount 1 = none := by
  have hall : columnCount.toNat + 1 = 2 ^ 64 := by
    rw [hrest]
    rfl
  have hrowCount := rowCount.toNat_lt
  rw [← hall] at hlength hrowCount
  refine decodeAt_eq_none ?_
  have hone : (UInt64.ofNat 1).toNat = 1 := rfl
  rw [UInt64.toNat_mul, ← hall, hlength, hone, Nat.one_mul, Nat.mod_eq_of_lt (Nat.lt_succ_self _)]
  exact fun hinside => absurd hinside.1 (not_le.mpr (mul_mod_succ_lt htwo (Nat.le_of_lt_succ hrowCount)))

/-- The row in which the output ends is cut off. -/
theorem decodeAt_cut_off (hshort : output.length < 2 ^ 64) (hpositive : 0 < columnCount.toNat)
    (hrest : columnCount ≠ -1) :
    decodeAt exp config output columnCount (output.length / columnCount.toNat) = none := by
  have hend := Nat.div_add_mod output.length columnCount.toNat
  have hlast := Nat.mod_lt output.length hpositive
  rw [Nat.mul_comm] at hend
  have hoffset : (UInt64.ofNat (output.length / columnCount.toNat) * columnCount).toNat =
      output.length / columnCount.toNat * columnCount.toNat := by
    have hrow : output.length / columnCount.toNat < 2 ^ 64 := (Nat.div_le_self _ _).trans_lt hshort
    rw [UInt64.toNat_mul, UInt64.toNat_ofNat', Nat.mod_eq_of_lt hrow, Nat.mod_eq_of_lt (by omega)]
  refine decodeAt_eq_none ?_
  rw [hoffset]
  rintro ⟨-, hall | hfits⟩
  · exact hrest hall
  · omega

variable (exp) in
/-- With an overflow some row is not inside the output. -/
theorem decodeAt_outside (hconfig : ValidConfig config)
    (hshape : AcceptedShape config output rowCount columnCount)
    (hsize : 2 ^ 64 ≤ rowCount.toNat * (kClassScoresOffset + config.classCount.toNat)) :
    ∃ row < rowCount.toNat, decodeAt exp config output columnCount row = none := by
  have hrows : 0 < rowCount.toNat := by
    rw [hshape.rows]
    exact rows_pos hconfig
  have hcount := expectedColumns_toNat config
  rw [← hshape.columns] at hcount
  have hlength := hshape.size
  rw [UInt64.toNat_mul] at hlength
  by_cases hcolumns : kClassScoresOffset + config.classCount.toNat < 2 ^ 64
  · rw [Nat.mod_eq_of_lt hcolumns] at hcount
    rw [← hcount] at hsize hcolumns
    have hpositive : 0 < columnCount.toNat := by
      rw [hcount]
      exact Nat.add_pos_left (by decide) _
    have hshort : output.length < 2 ^ 64 := by
      rw [hlength]
      exact Nat.mod_lt _ (Nat.two_pow_pos 64)
    by_cases hrest : columnCount = -1
    · have htwo : 2 ≤ rowCount.toNat := by
        by_contra hone
        have hle := Nat.mul_le_mul_right columnCount.toNat (Nat.le_of_lt_succ (not_le.mp hone))
        rw [Nat.one_mul] at hle
        exact absurd (hsize.trans hle) (not_le.mpr hcolumns)
      exact ⟨1, htwo, decodeAt_all_ones hlength hrest htwo⟩
    · refine ⟨output.length / columnCount.toNat, ?_, decodeAt_cut_off hshort hpositive hrest⟩
      exact Nat.div_lt_of_lt_mul (by rw [Nat.mul_comm]; omega)
  · have hclasses := config.classCount.toNat_lt
    have hfew : columnCount.toNat ≤ kObjectnessIndex := by
      rw [hcount]
      simp only [kClassScoresOffset, kObjectnessIndex] at hcolumns ⊢
      omega
    exact ⟨0, hrows, decodeAt_few_columns hfew 0⟩

end Output

/-! ### The order of the accepted class ids -/

section Order

variable {config : YoloXDecoderConfig} {classIds : List Int32}

theorem acceptedClass_of_mem_iff (h : ∀ classId, classId ∈ classIds ↔ classId ∈ config.acceptedClassIds) :
    YoloXDecoderConfig.acceptedClass { config with acceptedClassIds := classIds } = config.acceptedClass := by
  funext classId
  have hempty : classIds = [] ↔ config.acceptedClassIds = [] := by
    rw [List.eq_nil_iff_forall_not_mem, List.eq_nil_iff_forall_not_mem]
    exact forall_congr' fun id => not_congr (h id)
  rw [Bool.eq_iff_iff, YoloXDecoderConfig.acceptedClass, YoloXDecoderConfig.acceptedClass, Bool.or_eq_true,
    Bool.or_eq_true, List.isEmpty_iff, List.isEmpty_iff, List.contains_iff_mem, List.contains_iff_mem]
  exact or_congr hempty (h classId)

/-- The decoder depends on the accepted class ids through membership alone. -/
theorem decodeYoloXOutput_of_mem_iff (h : ∀ classId, classId ∈ classIds ↔ classId ∈ config.acceptedClassIds)
    (exp : Binary64 → Binary64) (output : List Binary64) (rowCount columnCount : UInt64) :
    decodeYoloXOutput exp { config with acceptedClassIds := classIds } output rowCount columnCount =
      decodeYoloXOutput exp config output rowCount columnCount := by
  have haccepted := acceptedClass_of_mem_iff h
  have hvalid : YoloXDecoderConfig.validate { config with acceptedClassIds := classIds } = config.validate := by
    have hany {p : Int32 → Bool} : classIds.any p = config.acceptedClassIds.any p := by
      rw [Bool.eq_iff_iff, List.any_eq_true, List.any_eq_true]
      exact exists_congr fun id => and_congr_left fun _ => h id
    rw [YoloXDecoderConfig.validate, YoloXDecoderConfig.validate, hany]
  have hscore :
      YoloXDecoderConfig.scoreClass { config with acceptedClassIds := classIds } = config.scoreClass := by
    funext row selected classIndex
    rw [YoloXDecoderConfig.scoreClass, YoloXDecoderConfig.scoreClass, haccepted]
  have hhighest : YoloXDecoderConfig.highestScoringClass { config with acceptedClassIds := classIds } =
      config.highestScoringClass := by
    funext row
    rw [YoloXDecoderConfig.highestScoringClass, YoloXDecoderConfig.highestScoringClass, hscore]
  have hrow : decodeRow exp { config with acceptedClassIds := classIds } = decodeRow exp config := by
    funext row cell
    rw [decodeRow, decodeRow, hhighest, haccepted]
  have hrows : decodeRows exp { config with acceptedClassIds := classIds } = decodeRows exp config := by
    funext output grid rowCount columnCount
    rw [decodeRows, decodeRows, hrow]
  rw [decodeYoloXOutput, decodeYoloXOutput, hvalid, hrows]
  rfl

end Order

/-! ### The whole output -/

section Decoded

variable {config : YoloXDecoderConfig} {output : List Binary64} {rowCount columnCount : UInt64}

open Classical in
/-- The decoder returns a candidate for each row that one is due for, in the order of the rows, and has no
access outside the output. -/
def DecodesRows (exp : Binary64 → Binary64) (config : YoloXDecoderConfig) (output : List Binary64)
    (rowCount columnCount : UInt64) : Prop :=
  ∃ candidates, decodeYoloXOutput exp config output rowCount columnCount = .ok (some candidates) ∧
    List.Forall₂ (DescribesRow exp config output)
      ((List.range rowCount.toNat).filter fun row => Qualifies exp config output row) candidates

/-- The sizes fit in 64 bits, and in no row that is a candidate does the best score come first at a class index
that the cast to 32 bits changes. -/
def Decodable (exp : Binary64 → Binary64) (config : YoloXDecoderConfig) (output : List Binary64)
    (rowCount : UInt64) : Prop :=
  rowCount.toNat * (kClassScoresOffset + config.classCount.toNat) < 2 ^ 64 ∧
    ∀ row < rowCount.toNat, NearClass exp config output row

theorem rowRight_iff_near (hconfig : ValidConfig config) {exp : Binary64 → Binary64} {row : Nat}
    {answer : Option YoloXCandidate} (h : RowAnswer exp config output row answer) :
    RowRight exp config output row answer ↔ NearClass exp config output row :=
  ⟨h.near_of_right hconfig, h.right_of_near hconfig⟩

/-- The rows that are described in order are decoded right one by one. -/
theorem forall₂_iff_rowRight (hconfig : ValidConfig config) {exp : Binary64 → Binary64} {rows : List Nat}
    {result : Nat → Option YoloXCandidate} {chosen : Nat → Bool}
    (hchosen : ∀ row, chosen row = true ↔ Qualifies exp config output row)
    (hanswer : ∀ row ∈ rows, RowAnswer exp config output row (result row)) :
    List.Forall₂ (DescribesRow exp config output) (rows.filter chosen) (rows.filterMap result) ↔
      ∀ row ∈ rows, RowRight exp config output row (result row) := by
  have hmatches (row : Nat) : Matches result chosen (DescribesRow exp config output) row ↔
      RowRight exp config output row (result row) := by
    rw [Matches, hchosen, RowRight]
  simp only [← hmatches]
  refine ⟨matches_of_forall₂ ?_, forall₂_of_matches⟩
  by_cases hids : config.acceptedClassIds = []
  · left
    intro row hrow hsome
    exact (hchosen row).mpr (((hanswer row hrow).within hconfig).1 hids hsome)
  · right
    intro row hrow hdue
    exact ((hanswer row hrow).within hconfig).2 hids ((hchosen row).mp hdue)

open Classical in
theorem decodesRows_iff_decodable (exp : Binary64 → Binary64) (hconfig : config.validate = .ok ())
    (hshape : AcceptedShape config output rowCount columnCount) :
    DecodesRows exp config output rowCount columnCount ↔ Decodable exp config output rowCount := by
  have hvalid := validConfig_of_validate hconfig
  rw [DecodesRows, Decodable, decodeYoloXOutput_eq hconfig hshape]
  by_cases hsize : rowCount.toNat * (kClassScoresOffset + config.classCount.toNat) < 2 ^ 64
  · have hdecoded : ∀ row ∈ List.range rowCount.toNat, ∃ answer,
        decodeAt exp config output columnCount row = some answer ∧ RowAnswer exp config output row answer :=
      fun row hrow => decodeAt_answer hvalid hshape hsize (List.mem_range.mp hrow)
    have hsome : ∀ row ∈ List.range rowCount.toNat, decodeAt exp config output columnCount row =
        some ((decodeAt exp config output columnCount row).getD none) := by
      intro row hrow
      obtain ⟨answer, hanswer, -⟩ := hdecoded row hrow
      rw [hanswer, Option.getD_some]
    have hrows : ∀ row ∈ List.range rowCount.toNat, RowAnswer exp config output row
        ((decodeAt exp config output columnCount row).getD none) := by
      intro row hrow
      obtain ⟨answer, hanswer, hrow⟩ := hdecoded row hrow
      rw [hanswer, Option.getD_some]
      exact hrow
    rw [mapM_eq_some hsome, Option.map_some, List.filterMap_map, Function.id_comp]
    have hiff := forall₂_iff_rowRight hvalid (fun row => decide_eq_true_iff) hrows
    constructor
    · rintro ⟨candidates, hcandidates, hdescribed⟩
      cases hcandidates
      refine ⟨hsize, fun row hrow => ?_⟩
      have hmem := List.mem_range.mpr hrow
      exact (rowRight_iff_near hvalid (hrows row hmem)).mp (hiff.mp hdescribed row hmem)
    · rintro ⟨-, hnear⟩
      refine ⟨_, rfl, hiff.mpr fun row hmem => ?_⟩
      exact (rowRight_iff_near hvalid (hrows row hmem)).mpr (hnear row (List.mem_range.mp hmem))
  · obtain ⟨row, hrow, hnone⟩ := decodeAt_outside exp hvalid hshape (not_lt.mp hsize)
    rw [mapM_eq_none (List.mem_range.mpr hrow) hnone]
    constructor
    · rintro ⟨candidates, hcandidates, -⟩
      cases hcandidates
    · rintro ⟨hfits, -⟩
      exact absurd hfits hsize

/-- With no more classes than class ids, and sizes in range, every output is decoded. -/
theorem decodable_of_small (exp : Binary64 → Binary64) (hclasses : config.classCount.toNat ≤ 2 ^ 31)
    (hsize : rowCount.toNat * (kClassScoresOffset + config.classCount.toNat) < 2 ^ 64) :
    Decodable exp config output rowCount :=
  ⟨hsize, fun _ _ _ _ _ _ _ _ _ h => h.best.lt.trans_le hclasses⟩

/-- An output of the accepted shape is decoded row by row just when its sizes fit and the best class scores
are at indices that the cast keeps. The order and the repetition of the accepted class ids do not matter. -/
theorem decodeYoloXOutput_exact (exp : Binary64 → Binary64) (hconfig : config.validate = .ok ())
    (hshape : AcceptedShape config output rowCount columnCount) :
    (DecodesRows exp config output rowCount columnCount ↔ Decodable exp config output rowCount) ∧
    ∀ classIds, (∀ classId, classId ∈ classIds ↔ classId ∈ config.acceptedClassIds) →
      decodeYoloXOutput exp { config with acceptedClassIds := classIds } output rowCount columnCount =
        decodeYoloXOutput exp config output rowCount columnCount :=
  ⟨decodesRows_iff_decodable exp hconfig hshape,
    fun _ h => decodeYoloXOutput_of_mem_iff h exp output rowCount columnCount⟩

end Decoded

/-- Four cells of one stride and one of another, and three classes. -/
def twoStrides : YoloXDecoderConfig where
  classCount := 3
  inputSize := 16
  strides := [8, 16]
  acceptedClassIds := [0, 2]
  confidenceThreshold := .finite (1 / 5)

/-- The first row scores best at an accepted class, the second at one that is not, the third is not a number, the
fourth is not sure enough, and the fifth has two equal scores. -/
def fiveRows : List Binary64 :=
  [.finite (1 / 2), .finite (1 / 4), .zero, .zero, .finite (4 / 5), .finite (1 / 4), .finite (1 / 2), .finite (3 / 4),
    .zero, .zero, .zero, .zero, .finite 1, .finite (1 / 8), .finite 1, .zero,
    .nan, .zero, .zero, .zero, .finite 1, .finite 1, .zero, .zero,
    .zero, .zero, .zero, .zero, .finite (1 / 5), .finite 1, .zero, .zero,
    .zero, .zero, .zero, .zero, .finite 1, .finite (1 / 2), .zero, .finite (1 / 2)]

theorem twoStrides_valid : twoStrides.validate = .ok () := by
  simp only [YoloXDecoderConfig.validate, check_bind_ok, rejectIf_ok]
  exact ⟨by decide +kernel, by decide, by decide⟩

/-- Two rows are candidates: one in a cell of the first stride, of the third class, and one in the only cell of the
second stride, of the first of its best classes. -/
theorem fiveRows_decoded : DecodesRows (fun _ => .finite 1) twoStrides fiveRows 5 8 ∧
    decodeYoloXOutput (fun _ => .finite 1) twoStrides fiveRows 5 8 = .ok (some
      [⟨.finite 4, .finite 2, .finite 8, .finite 8, .finite (3 / 5), 2⟩,
        ⟨.zero, .zero, .finite 16, .finite 16, .finite (1 / 2), 0⟩]) := by
  have hshape : AcceptedShape twoStrides fiveRows 5 8 := ⟨by rfl, by rfl, by rfl⟩
  have hdecodable : Decodable (fun _ => .finite 1) twoStrides fiveRows 5 :=
    decodable_of_small _ (by decide) (by decide)
  refine ⟨(decodeYoloXOutput_exact (fun _ => .finite 1) twoStrides_valid hshape).1.mpr hdecodable, ?_⟩
  have hrows : (List.range 5).mapM (decodeAt (fun _ => .finite 1) twoStrides fiveRows 8) = some
      [some ⟨.finite 4, .finite 2, .finite 8, .finite 8, .finite (3 / 5), 2⟩, none, none, none,
        some ⟨.zero, .zero, .finite 16, .finite 16, .finite (1 / 2), 0⟩] := by
    decide +kernel
  have hcount : (5 : UInt64).toNat = 5 := rfl
  rw [decodeYoloXOutput_eq twoStrides_valid hshape, hcount, hrows]
  rfl

/-- So many classes that the columns of a row wrap to none. -/
def wrappedConfig : YoloXDecoderConfig where
  classCount := -5
  inputSize := 8
  strides := [8]
  confidenceThreshold := .finite (1 / 5)

theorem wrappedConfig_valid : wrappedConfig.validate = .ok () := by
  simp only [YoloXDecoderConfig.validate, check_bind_ok, rejectIf_ok]
  exact ⟨by decide +kernel, by decide, by decide⟩

/-- An empty output has the accepted shape, and its one row is read all the same. -/
theorem wrappedConfig_outside : wrappedConfig.validate = .ok () ∧ AcceptedShape wrappedConfig [] 1 0 ∧
    ¬DecodesRows (fun _ => .finite 1) wrappedConfig [] 1 0 := by
  have hshape : AcceptedShape wrappedConfig [] 1 0 := ⟨by rfl, by rfl, by rfl⟩
  refine ⟨wrappedConfig_valid, hshape, ?_⟩
  rintro ⟨candidates, hcandidates, -⟩
  rw [decodeYoloXOutput_eq wrappedConfig_valid hshape] at hcandidates
  have hnone :
      (List.range (1 : UInt64).toNat).mapM (decodeAt (fun _ => .finite 1) wrappedConfig [] 0) = none := by
    rfl
  rw [hnone] at hcandidates
  cases hcandidates

end OnboardAutonomy
