import OnboardAutonomy.Selection
import OnboardAutonomy.YoloXOutputDecoder
import Mathlib.Algebra.Order.Round
import Mathlib.Data.Int.ConditionallyCompleteOrder
import Mathlib.Data.Set.Prod
import Mathlib.Order.Interval.Set.Basic

/-! The geometry of the target detector: the letterbox that a frame is fitted into before the network, and the
box of a candidate in the pixels of the frame behind it. Floats are exact, and a conversion to `int` outside its
range is none. -/

namespace OnboardAutonomy

/-! ### Rectangles -/

structure Rect where
  x : ℤ
  y : ℤ
  width : ℤ
  height : ℤ
  deriving DecidableEq

/-- The pixels of a rectangle. -/
def Rect.pixels (r : Rect) : Set (ℤ × ℤ) := Set.Ico r.x (r.x + r.width) ×ˢ Set.Ico r.y (r.y + r.height)

/-! ### The letterbox -/

/-- `std::round`: to nearest, halves away from zero. -/
def roundHalfAway (x : ℚ) : ℤ := if 0 ≤ x then ⌊x + 1 / 2⌋ else ⌈x - 1 / 2⌉

structure YoloXLetterboxGeometry where
  resizedWidth : UInt32
  resizedHeight : UInt32
  scale : ℚ

/-- The conversion of a float to an unsigned type of 32 bits, for values in its range. -/
def castUInt32 (x : ℤ) : UInt32 := UInt32.ofNat x.toNat

def makeYoloXLetterboxGeometry (sourceWidth sourceHeight inputSize : UInt32) :
    Except String YoloXLetterboxGeometry := do
  rejectIf (sourceWidth == 0 || sourceHeight == 0 || inputSize == 0)
    "YOLOX letterbox dimensions must be non-zero"
  let horizontalScale : ℚ := inputSize.toNat / sourceWidth.toNat
  let verticalScale : ℚ := inputSize.toNat / sourceHeight.toNat
  let scale := min horizontalScale verticalScale
  .ok
    { resizedWidth := castUInt32 (roundHalfAway (sourceWidth.toNat * scale))
      resizedHeight := castUInt32 (roundHalfAway (sourceHeight.toNat * scale))
      scale := scale }

/-- The part of the canvas that `letterbox` copies the resized frame to. -/
def YoloXLetterboxGeometry.copyRect (g : YoloXLetterboxGeometry) : Rect where
  x := 0
  y := 0
  width := g.resizedWidth.toNat
  height := g.resizedHeight.toNat

/-! ### The box of a candidate -/

namespace Binary64

def minus (a b : Binary64) : Binary64 := a.plus b.negate

/-- A value divided by a positive number. -/
def dividedBy : Binary64 → ℚ → Binary64
  | .finite a, divisor => .finite (a / divisor)
  | a, _ => a

/-- `static_cast<int>` of `std::floor`. -/
def floorToInt : Binary64 → Option ℤ
  | .finite a => if -2 ^ 31 ≤ ⌊a⌋ ∧ ⌊a⌋ < 2 ^ 31 then some ⌊a⌋ else none
  | _ => none

/-- `static_cast<int>` of `std::ceil`. -/
def ceilToInt : Binary64 → Option ℤ
  | .finite a => if -2 ^ 31 ≤ ⌈a⌉ ∧ ⌈a⌉ < 2 ^ 31 then some ⌈a⌉ else none
  | _ => none

end Binary64

/-- `std::clamp` between zero and a size. -/
def clampTo (size value : ℤ) : ℤ := if value < 0 then 0 else if size < value then size else value

/-- `candidate_box`, where the size of the image is not negative. -/
def candidateBox (candidate : YoloXCandidate) (scale : ℚ) (imageWidth imageHeight : ℤ) : Option Rect := do
  let left ← ((candidate.centerX.minus (candidate.width.dividedBy 2)).dividedBy scale).floorToInt
  let top ← ((candidate.centerY.minus (candidate.height.dividedBy 2)).dividedBy scale).floorToInt
  let right ← ((candidate.centerX.plus (candidate.width.dividedBy 2)).dividedBy scale).ceilToInt
  let bottom ← ((candidate.centerY.plus (candidate.height.dividedBy 2)).dividedBy scale).ceilToInt
  let clippedLeft := clampTo imageWidth left
  let clippedTop := clampTo imageHeight top
  let clippedRight := clampTo imageWidth right
  let clippedBottom := clampTo imageHeight bottom
  some
    { x := clippedLeft
      y := clippedTop
      width := max 0 (clippedRight - clippedLeft)
      height := max 0 (clippedBottom - clippedTop) }

/-! ### Usable letterboxes -/

/-- A letterbox that the network can be given: a side of the frame fills the canvas, the other is not empty
and does not go beyond it, and so the copy neither leaves the canvas nor is empty. -/
structure UsableLetterbox (inputSize : UInt32) (g : YoloXLetterboxGeometry) : Prop where
  width_pos : 1 ≤ g.resizedWidth
  width_le : g.resizedWidth ≤ inputSize
  height_pos : 1 ≤ g.resizedHeight
  height_le : g.resizedHeight ≤ inputSize
  fills : g.resizedWidth = inputSize ∨ g.resizedHeight = inputSize
  copy_nonempty : g.copyRect.pixels.Nonempty
  copy_within : g.copyRect.pixels ⊆ (Rect.mk 0 0 inputSize.toNat inputSize.toNat).pixels

theorem roundHalfAway_natCast (n : Nat) : roundHalfAway n = n := by
  rw [roundHalfAway, if_pos (Nat.cast_nonneg n), Int.floor_eq_iff]
  constructor
  · push_cast
    linarith
  · push_cast
    linarith

theorem one_le_roundHalfAway {x : ℚ} (h : 0 ≤ x) : 1 ≤ roundHalfAway x ↔ 1 / 2 ≤ x := by
  rw [roundHalfAway, if_pos h, Int.le_floor]
  push_cast
  constructor <;> intro h <;> linarith

theorem roundHalfAway_nonneg {x : ℚ} (h : 0 ≤ x) : 0 ≤ roundHalfAway x := by
  rw [roundHalfAway, if_pos h, Int.le_floor]
  push_cast
  linarith

theorem roundHalfAway_le {x : ℚ} {n : Nat} (h : 0 ≤ x) (hle : x ≤ n) : roundHalfAway x ≤ n := by
  rw [roundHalfAway, if_pos h, ← Int.lt_add_one_iff, Int.floor_lt]
  push_cast
  linarith

section Letterbox

variable {inputSize : UInt32} {x y : ℚ}

theorem castUInt32_toNat {n : ℤ} (h : 0 ≤ n) (hle : n ≤ inputSize.toNat) : ((castUInt32 n).toNat : ℤ) = n := by
  have hlt := inputSize.toNat_lt
  rw [castUInt32, UInt32.toNat_ofNat', Nat.mod_eq_of_lt (by omega), Int.toNat_of_nonneg h]

/-- A scaled side that fits is resized to a number of pixels that fits, which is zero below a half. -/
theorem resized_bounds (h : 0 ≤ x) (hle : x ≤ inputSize.toNat) :
    ((castUInt32 (roundHalfAway x)).toNat : ℤ) = roundHalfAway x ∧
      castUInt32 (roundHalfAway x) ≤ inputSize ∧ (1 ≤ castUInt32 (roundHalfAway x) ↔ 1 / 2 ≤ x) := by
  have hnat := castUInt32_toNat (roundHalfAway_nonneg h) (roundHalfAway_le h hle)
  have hround := roundHalfAway_le h hle
  refine ⟨hnat, ?_, ?_⟩
  · rw [UInt32.le_iff_toNat_le]
    omega
  · have hone : (1 : UInt32).toNat = 1 := rfl
    rw [UInt32.le_iff_toNat_le, ← one_le_roundHalfAway h, hone]
    omega

theorem resized_full (h : x = inputSize.toNat) : castUInt32 (roundHalfAway x) = inputSize := by
  rw [h, roundHalfAway_natCast, castUInt32, Int.toNat_natCast, UInt32.ofNat_toNat]

/-- When both scaled sides fit and one fills the canvas, the letterbox is usable if neither is below a half. -/
theorem usableLetterbox_iff {scale : ℚ} (hx : 0 ≤ x) (hy : 0 ≤ y) (hxle : x ≤ inputSize.toNat)
    (hyle : y ≤ inputSize.toNat) (hfills : x = inputSize.toNat ∨ y = inputSize.toNat) :
    UsableLetterbox inputSize ⟨castUInt32 (roundHalfAway x), castUInt32 (roundHalfAway y), scale⟩ ↔
      1 / 2 ≤ x ∧ 1 / 2 ≤ y := by
  obtain ⟨hxnat, hxsize, hxpos⟩ := resized_bounds hx hxle
  obtain ⟨hynat, hysize, hypos⟩ := resized_bounds hy hyle
  constructor
  · intro h
    exact ⟨hxpos.mp h.width_pos, hypos.mp h.height_pos⟩
  · rintro ⟨hxhalf, hyhalf⟩
    have hwidth := hxpos.mpr hxhalf
    have hheight := hypos.mpr hyhalf
    refine ⟨hwidth, hxsize, hheight, hysize, hfills.imp resized_full resized_full, ⟨(0, 0), ?_⟩, ?_⟩
    · have hone : (1 : UInt32).toNat = 1 := rfl
      rw [UInt32.le_iff_toNat_le, hone] at hwidth hheight
      simp only [YoloXLetterboxGeometry.copyRect, Rect.pixels, Set.mem_prod, Set.mem_Ico]
      omega
    · rw [UInt32.le_iff_toNat_le] at hxsize hysize
      refine Set.prod_mono (Set.Ico_subset_Ico_right ?_) (Set.Ico_subset_Ico_right ?_)
      · exact add_le_add_right (Int.ofNat_le.mpr hxsize) 0
      · exact add_le_add_right (Int.ofNat_le.mpr hysize) 0

theorem min_div_div {n a b : ℚ} (hn : 0 ≤ n) (ha : 0 < a) (hb : 0 < b) : min (n / a) (n / b) = n / max a b := by
  rcases le_total a b with h | h
  · rw [max_eq_right h, min_eq_right (div_le_div_of_nonneg_left hn ha h)]
  · rw [max_eq_left h, min_eq_left (div_le_div_of_nonneg_left hn hb h)]

end Letterbox

theorem makeYoloXLetterboxGeometry_eq {sourceWidth sourceHeight inputSize : UInt32} (hwidth : sourceWidth ≠ 0)
    (hheight : sourceHeight ≠ 0) (hsize : inputSize ≠ 0) :
    makeYoloXLetterboxGeometry sourceWidth sourceHeight inputSize =
      let scale := min (inputSize.toNat / sourceWidth.toNat : ℚ) (inputSize.toNat / sourceHeight.toNat)
      .ok ⟨castUInt32 (roundHalfAway (sourceWidth.toNat * scale)),
        castUInt32 (roundHalfAway (sourceHeight.toNat * scale)), scale⟩ := by
  rw [makeYoloXLetterboxGeometry, beq_eq_false_iff_ne.mpr hwidth, beq_eq_false_iff_ne.mpr hheight,
    beq_eq_false_iff_ne.mpr hsize]
  rfl

/-- The letterbox of a frame is usable just when its long side is at most twice the input size times its short
side: beyond that the short side is rounded to nothing. -/
theorem letterbox_usable_iff {sourceWidth sourceHeight inputSize : UInt32} (hwidth : sourceWidth ≠ 0)
    (hheight : sourceHeight ≠ 0) (hsize : inputSize ≠ 0) :
    (∃ g, makeYoloXLetterboxGeometry sourceWidth sourceHeight inputSize = .ok g ∧ UsableLetterbox inputSize g) ↔
      max sourceWidth.toNat sourceHeight.toNat ≤
        2 * inputSize.toNat * min sourceWidth.toNat sourceHeight.toNat := by
  have hpos {n : UInt32} (h : n ≠ 0) : (0 : ℚ) < n.toNat :=
    Nat.cast_pos.mpr (Nat.pos_of_ne_zero fun hzero => h (UInt32.toNat_inj.mp hzero))
  have hgeometry := makeYoloXLetterboxGeometry_eq hwidth hheight hsize
  have hw := hpos hwidth
  have hh := hpos hheight
  have hn := hpos hsize
  have hmax : (0 : ℚ) < max (sourceWidth.toNat : ℚ) sourceHeight.toNat := lt_max_of_lt_left hw
  have hnonneg {a : ℚ} (ha : 0 < a) :
      0 ≤ a * (inputSize.toNat / max (sourceWidth.toNat : ℚ) sourceHeight.toNat) :=
    mul_nonneg ha.le (div_nonneg hn.le hmax.le)
  have hscaled {a : ℚ} (hle : a ≤ max (sourceWidth.toNat : ℚ) sourceHeight.toNat) :
      a * (inputSize.toNat / max (sourceWidth.toNat : ℚ) sourceHeight.toNat) ≤ inputSize.toNat := by
    rw [mul_div_assoc', div_le_iff₀ hmax, mul_comm]
    exact mul_le_mul_of_nonneg_left hle hn.le
  have hfull {a : ℚ} (heq : max (sourceWidth.toNat : ℚ) sourceHeight.toNat = a) :
      a * (inputSize.toNat / max (sourceWidth.toNat : ℚ) sourceHeight.toNat) = inputSize.toNat := by
    rw [heq] at hmax ⊢
    exact mul_div_cancel₀ _ hmax.ne'
  have hhalf (a : Nat) : 1 / 2 ≤ a * (inputSize.toNat / max (sourceWidth.toNat : ℚ) sourceHeight.toNat) ↔
      max sourceWidth.toNat sourceHeight.toNat ≤ 2 * inputSize.toNat * a := by
    rw [mul_div_assoc', le_div_iff₀ hmax, ← Nat.cast_max, ← Nat.cast_le (α := ℚ)]
    push_cast
    constructor <;> intro h <;> linarith
  rw [hgeometry, min_div_div hn.le hw hh, ← Nat.mul_min_mul_left, le_min_iff, ← hhalf, ← hhalf,
    ← usableLetterbox_iff (hnonneg hw) (hnonneg hh) (hscaled (le_max_left _ _)) (hscaled (le_max_right _ _))
      ((max_choice _ _).imp hfull hfull)]
  constructor
  · rintro ⟨g, hg, husable⟩
    cases hg
    exact husable
  · exact fun husable => ⟨_, rfl, husable⟩

/-- A frame of two rows. -/
theorem letterbox_empty : ¬∃ g, makeYoloXLetterboxGeometry 2562 2 640 = .ok g ∧ UsableLetterbox 640 g := by
  rintro ⟨g, hg, husable⟩
  have hheight : (makeYoloXLetterboxGeometry 2562 2 640).toOption.map (·.resizedHeight) = some 0 := by
    decide +kernel
  rw [hg] at hheight
  have hzero : g.resizedHeight = 0 := Option.some.inj hheight
  have hpos := husable.height_pos
  rw [hzero] at hpos
  exact absurd hpos (by decide)

theorem letterbox_landscape : ∃ g, makeYoloXLetterboxGeometry 640 480 640 = .ok g ∧ UsableLetterbox 640 g :=
  (letterbox_usable_iff (by decide) (by decide) (by decide)).mpr (by decide)

/-! ### Boxes within the image -/

/-- The values of a candidate's box. -/
structure HasBox (candidate : YoloXCandidate) (centerX centerY width height : ℚ) : Prop where
  centerX_eq : candidate.centerX = .finite centerX
  centerY_eq : candidate.centerY = .finite centerY
  width_eq : candidate.width = .finite width
  height_eq : candidate.height = .finite height
  width_pos : 0 < width
  height_pos : 0 < height

theorem decodeBox_hasBox {exp : Binary64 → Binary64} {row : List Binary64} {cell : GridCell}
    {confidence : Binary64} {classId : Int32} {candidate : YoloXCandidate}
    (h : decodeBox exp row cell confidence classId = some (some candidate)) :
    ∃ centerX centerY width height, HasBox candidate centerX centerY width height := by
  simp only [decodeBox, Option.bind_eq_bind, Option.bind_eq_some_iff] at h
  obtain ⟨first, -, second, -, third, -, fourth, -, h⟩ := h
  split at h
  · cases h
  · next haccept =>
      cases h
      simp only [Bool.or_eq_true, not_or, Bool.not_eq_true, Bool.not_eq_false'] at haccept
      obtain ⟨⟨⟨⟨⟨hx, hy⟩, hwidth⟩, hheight⟩, hwidthPos⟩, hheightPos⟩ := haccept
      obtain ⟨centerX, hx⟩ := (Binary64.isFinite_iff _).mp hx
      obtain ⟨centerY, hy⟩ := (Binary64.isFinite_iff _).mp hy
      obtain ⟨width, hwidth⟩ := (Binary64.isFinite_iff _).mp hwidth
      obtain ⟨height, hheight⟩ := (Binary64.isFinite_iff _).mp hheight
      rw [hwidth, Binary64.zero, Binary64.ge_finite, decide_eq_false_iff_not, not_le] at hwidthPos
      rw [hheight, Binary64.zero, Binary64.ge_finite, decide_eq_false_iff_not, not_le] at hheightPos
      exact ⟨centerX, centerY, width, height, hx, hy, hwidth, hheight, hwidthPos, hheightPos⟩

/-- The candidates of the decoder have a box, whatever the network gives. -/
theorem decodeRows_hasBox {exp : Binary64 → Binary64} {config : YoloXDecoderConfig} {output : List Binary64}
    {grid : List GridCell} {rowCount columnCount : UInt64} {candidates : List YoloXCandidate}
    (h : decodeRows exp config output grid rowCount columnCount = some candidates) {candidate : YoloXCandidate}
    (hmem : candidate ∈ candidates) :
    ∃ centerX centerY width height, HasBox candidate centerX centerY width height := by
  simp only [decodeRows, Option.bind_eq_bind, Option.bind_eq_some_iff] at h
  obtain ⟨rows, hrows, hcandidates⟩ := h
  cases hcandidates
  rw [List.mem_filterMap] at hmem
  obtain ⟨_, hrow, rfl⟩ := hmem
  obtain ⟨row, -, hrow⟩ := Selection.exists_of_mem_mapM hrows hrow
  simp only [decodeRow, Option.bind_eq_bind, Option.bind_eq_some_iff] at hrow
  obtain ⟨values, -, objectness, -, ⟨classId, score⟩, -, hrow⟩ := hrow
  split at hrow
  · cases hrow
  · obtain ⟨cell, -, hbox⟩ := Option.bind_eq_some_iff.mp hrow
    exact decodeBox_hasBox hbox

/-- The pixels of the image that the box covers, each side rounded outwards. -/
def coveredPixels (left top right bottom : ℚ) (imageWidth imageHeight : ℤ) : Set (ℤ × ℤ) :=
  (Set.Ico ⌊left⌋ ⌈right⌉ ×ˢ Set.Ico ⌊top⌋ ⌈bottom⌉) ∩ (Set.Ico 0 imageWidth ×ˢ Set.Ico 0 imageHeight)

/-- The clipped interval is what the image keeps of the interval. -/
theorem clampTo_interval {size : ℤ} (hsize : 0 ≤ size) (low high : ℤ) :
    Set.Ico (clampTo size low) (clampTo size low + max 0 (clampTo size high - clampTo size low)) =
      Set.Ico low high ∩ Set.Ico 0 size := by
  ext pixel
  simp only [Set.mem_inter_iff, Set.mem_Ico, clampTo]
  split_ifs <;> omega

namespace Binary64

theorem floorToInt_eq_some {q : ℚ} {n : ℤ} :
    (finite q).floorToInt = some n ↔ n = ⌊q⌋ ∧ -2 ^ 31 ≤ q ∧ q < 2 ^ 31 := by
  have hrange : (-2 ^ 31 ≤ ⌊q⌋ ∧ ⌊q⌋ < 2 ^ 31) ↔ -2 ^ 31 ≤ q ∧ q < 2 ^ 31 := by
    rw [Int.le_floor, Int.floor_lt]
    norm_num
  rw [floorToInt, ← hrange]
  split
  · next h => rw [Option.some_inj, and_iff_left h, eq_comm]
  · next h => exact ⟨fun hn => absurd hn.symm (Option.some_ne_none n), fun hn => absurd hn.2 h⟩

theorem ceilToInt_eq_some {q : ℚ} {n : ℤ} :
    (finite q).ceilToInt = some n ↔ n = ⌈q⌉ ∧ -2 ^ 31 - 1 < q ∧ q ≤ 2 ^ 31 - 1 := by
  have hrange : (-2 ^ 31 ≤ ⌈q⌉ ∧ ⌈q⌉ < 2 ^ 31) ↔ -2 ^ 31 - 1 < q ∧ q ≤ 2 ^ 31 - 1 := by
    refine and_congr ?_ ?_
    · rw [← Int.sub_one_lt_iff, Int.lt_ceil]
      norm_num
    · rw [← Int.le_sub_one_iff, Int.ceil_le]
      norm_num
  rw [ceilToInt, ← hrange]
  split
  · next h => rw [Option.some_inj, and_iff_left h, eq_comm]
  · next h => exact ⟨fun hn => absurd hn.symm (Option.some_ne_none n), fun hn => absurd hn.2 h⟩

end Binary64

/-- One axis of a box: the conversions of both ends are in the range of `int`. -/
def InIntRange (center size scale : ℚ) : Prop :=
  -2 ^ 31 ≤ (center - size / 2) / scale ∧ (center + size / 2) / scale ≤ 2 ^ 31 - 1

/-- The box is clipped: it has a rectangle, which has the pixels of the image that it covers. -/
def Clipped (candidate : YoloXCandidate) (centerX centerY width height scale : ℚ) (imageWidth imageHeight : ℤ) :
    Prop :=
  ∃ rect, candidateBox candidate scale imageWidth imageHeight = some rect ∧
    rect.pixels = coveredPixels ((centerX - width / 2) / scale) ((centerY - height / 2) / scale)
      ((centerX + width / 2) / scale) ((centerY + height / 2) / scale) imageWidth imageHeight

theorem clipped_iff {candidate : YoloXCandidate} {centerX centerY width height scale : ℚ}
    {imageWidth imageHeight : ℤ} (hbox : HasBox candidate centerX centerY width height) (hscale : 0 < scale)
    (hwidth : 0 ≤ imageWidth) (hheight : 0 ≤ imageHeight) :
    Clipped candidate centerX centerY width height scale imageWidth imageHeight ↔
      InIntRange centerX width scale ∧ InIntRange centerY height scale := by
  have hlow {center size : ℚ} :
      ((Binary64.finite center).minus ((Binary64.finite size).dividedBy 2)).dividedBy scale =
        .finite ((center - size / 2) / scale) := by
    rw [sub_eq_add_neg]
    rfl
  have hhigh {center size : ℚ} :
      ((Binary64.finite center).plus ((Binary64.finite size).dividedBy 2)).dividedBy scale =
        .finite ((center + size / 2) / scale) := rfl
  have hends (center : ℚ) {size : ℚ} (hsize : 0 < size) :
      (center - size / 2) / scale < (center + size / 2) / scale :=
    div_lt_div_of_pos_right (by linarith) hscale
  have hbound : (-2 ^ 31 - 1 : ℚ) < -2 ^ 31 ∧ (2 ^ 31 - 1 : ℚ) < 2 ^ 31 := by norm_num
  rw [Clipped, candidateBox, hbox.centerX_eq, hbox.centerY_eq, hbox.width_eq, hbox.height_eq, hlow, hlow, hhigh,
    hhigh]
  constructor
  · rintro ⟨rect, hrect, -⟩
    simp only [Option.bind_eq_bind, Option.bind_eq_some_iff, Binary64.floorToInt_eq_some,
      Binary64.ceilToInt_eq_some] at hrect
    obtain ⟨left, ⟨-, hleft, -⟩, top, ⟨-, htop, -⟩, right, ⟨-, -, hright⟩, bottom, ⟨-, -, hbottom⟩, -⟩ := hrect
    exact ⟨⟨hleft, hright⟩, htop, hbottom⟩
  · rintro ⟨⟨hleft, hright⟩, htop, hbottom⟩
    have hx := hends centerX hbox.width_pos
    have hy := hends centerY hbox.height_pos
    rw [Binary64.floorToInt_eq_some.mpr ⟨rfl, hleft, by linarith⟩,
      Binary64.floorToInt_eq_some.mpr ⟨rfl, htop, by linarith⟩,
      Binary64.ceilToInt_eq_some.mpr ⟨rfl, by linarith, hright⟩,
      Binary64.ceilToInt_eq_some.mpr ⟨rfl, by linarith, hbottom⟩]
    refine ⟨_, rfl, ?_⟩
    rw [Rect.pixels, coveredPixels, Set.prod_inter_prod, clampTo_interval hwidth, clampTo_interval hheight]

/-- A box with the width of a raw value of 28 at a stride of 8. -/
def hugeBox : YoloXCandidate where
  centerX := .finite 320
  centerY := .finite 320
  width := .finite 11570056790016
  height := .finite 16
  confidence := .finite (3 / 5)
  classId := 4

theorem hugeBox_not_clipped : HasBox hugeBox 320 320 11570056790016 16 ∧
    candidateBox hugeBox 1 640 640 = none ∧ ¬Clipped hugeBox 320 320 11570056790016 16 1 640 640 := by
  have hleft : ((hugeBox.centerX.minus (hugeBox.width.dividedBy 2)).dividedBy 1).floorToInt = none := by
    rw [Option.eq_none_iff_forall_ne_some]
    intro n hn
    have hrange := (Binary64.floorToInt_eq_some.mp hn).2.1
    norm_num at hrange
  have hnone : candidateBox hugeBox 1 640 640 = none := by
    rw [candidateBox, hleft]
    rfl
  refine ⟨⟨rfl, rfl, rfl, rfl, by norm_num, by norm_num⟩, hnone, ?_⟩
  rintro ⟨rect, hrect, -⟩
  rw [hnone] at hrect
  cases hrect

theorem smallBox_clipped :
    Clipped ⟨.finite 4, .finite 2, .finite 16, .finite 12, .finite (3 / 5), 33⟩ 4 2 16 12 1 8 8 :=
  (clipped_iff ⟨rfl, rfl, rfl, rfl, by norm_num, by norm_num⟩ (by norm_num) (by norm_num) (by norm_num)).mpr
    ⟨⟨by norm_num, by norm_num⟩, by norm_num, by norm_num⟩

end OnboardAutonomy
