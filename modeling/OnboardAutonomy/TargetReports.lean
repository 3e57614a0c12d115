import OnboardAutonomy.PreviewServer
import OnboardAutonomy.TargetDetector
import OnboardAutonomy.YoloXDecoding
import Mathlib.Data.List.GetD

/-! What the target detector reports. Whatever the network answers, every target is the box of a row of its
output, cut to the frame and not empty, and no row is reported twice; and it is known when a detection fails. The
floats of the decoder and of the boxes are taken as exact. -/

namespace OnboardAutonomy

open Attempts

/-! ### Sorted class ids -/

section Unique

variable {α : Type} [DecidableEq α] {r : α → α → Prop}

theorem mem_unique {elements : List α} {a : α} : a ∈ unique elements ↔ a ∈ elements := by
  induction elements using unique.induct with
  | case1 => rfl
  | case2 b => rfl
  | case3 b rest ih =>
      rw [unique, if_pos rfl, ih, List.mem_cons (l := b :: rest)]
      exact ⟨.inr, fun h => h.elim (fun hab => hab ▸ List.mem_cons_self) id⟩
  | case4 b c rest hne ih =>
      rw [unique, if_neg hne, List.mem_cons, ih, List.mem_cons (b := b)]

/-- Of sorted elements no two that are left are equal. -/
theorem unique_pairwise {elements : List α} (hanti : ∀ a b, r a b → r b a → a = b) (h : elements.Pairwise r) :
    (unique elements).Pairwise fun a b => r a b ∧ a ≠ b := by
  induction elements using unique.induct with
  | case1 => exact List.Pairwise.nil
  | case2 a => exact List.pairwise_singleton _ a
  | case3 b rest ih =>
      rw [unique, if_pos rfl]
      exact ih (List.pairwise_cons.mp h).2
  | case4 a b rest hne ih =>
      obtain ⟨hfirst, hrest⟩ := List.pairwise_cons.mp h
      rw [unique, if_neg hne]
      refine List.pairwise_cons.mpr ⟨fun c hc => ?_, ih hrest⟩
      have hmem : c ∈ b :: rest := mem_unique.mp hc
      refine ⟨hfirst c hmem, ?_⟩
      rintro rfl
      rcases List.mem_cons.mp hmem with rfl | hlater
      · exact hne rfl
      · exact hne (hanti a b (hfirst b List.mem_cons_self) ((List.pairwise_cons.mp hrest).1 a hlater))

end Unique

theorem detectedClassIds_spec (candidates : List YoloXCandidate) :
    (detectedClassIds candidates).Pairwise (fun a b => a ≤ b ∧ a ≠ b) ∧
      ∀ classId, classId ∈ detectedClassIds candidates ↔
        ∃ candidate ∈ candidates, candidate.classId = classId := by
  refine ⟨unique_pairwise ?_ ?_, fun classId => ?_⟩
  · intro a b hab hba
    exact Int32.toInt_inj.mp (le_antisymm (Int32.le_iff_toInt_le.mp hab) (Int32.le_iff_toInt_le.mp hba))
  · have htrans (a b c : Int32) (hab : decide (a ≤ b) = true) (hbc : decide (b ≤ c) = true) :
        decide (a ≤ c) = true :=
      decide_eq_true (Int32.le_trans (of_decide_eq_true hab) (of_decide_eq_true hbc))
    have htotal (a b : Int32) : (decide (a ≤ b) || decide (b ≤ a)) = true := by
      rw [Bool.or_eq_true, decide_eq_true_eq, decide_eq_true_eq]
      exact Int32.le_total a b
    have hsorted := List.pairwise_mergeSort htrans htotal (candidates.map YoloXCandidate.classId)
    exact hsorted.imp fun h => of_decide_eq_true h
  · rw [detectedClassIds, mem_unique, List.mem_mergeSort, List.mem_map]

/-! ### Frames -/

/-- A frame of a usable size, with as many bytes as it should have. -/
structure Measured (frame : CameraFrame) : Prop where
  width_pos : 0 < frame.width.toNat
  height_pos : 0 < frame.height.toNat
  width_even : frame.width.toNat % 2 = 0
  height_even : frame.height.toNat % 2 = 0
  width_lt : frame.width.toNat < 2 ^ 31
  height_lt : frame.height.toNat < 2 ^ 31
  size : frame.yuv420.length = frame.width.toNat * frame.height.toNat * 3 / 2

/-- The rows of the frame's planes are more than an `int` can count. -/
def TooTall (frame : CameraFrame) : Prop := 2 ^ 31 ≤ frame.height.toNat + frame.height.toNat / 2

/-- The matrix that a frame is copied to. -/
def pictureOf (frame : CameraFrame) : YuvMatrix where
  rows := (frame.height + frame.height / 2).toInt32
  columns := frame.width.toInt32
  bytes := frame.yuv420

theorem toInt_toInt32 (n : UInt32) :
    n.toInt32.toInt = if n.toNat < 2 ^ 31 then (n.toNat : ℤ) else n.toNat - 2 ^ 32 := by
  show n.toBitVec.toInt = _
  rw [BitVec.toInt_eq_toNat_cond]
  show (if 2 * n.toNat < 2 ^ 32 then (n.toNat : ℤ) else n.toNat - (2 ^ 32 : Nat)) = _
  split <;> split <;> omega

namespace Measured

variable {frame : CameraFrame}

theorem rows_toNat (h : Measured frame) :
    (frame.height + frame.height / 2).toNat = frame.height.toNat + frame.height.toNat / 2 := by
  have hlt := h.height_lt
  rw [UInt32.toNat_add, UInt32.toNat_div]
  show (frame.height.toNat + frame.height.toNat / 2) % 2 ^ 32 = _
  omega

theorem columns (h : Measured frame) : (pictureOf frame).columns.toInt = frame.width.toNat := by
  rw [pictureOf, toInt_toInt32, if_pos h.width_lt]

theorem rows (h : Measured frame) (hshort : ¬TooTall frame) :
    (pictureOf frame).rows.toInt = frame.height.toNat + frame.height.toNat / 2 := by
  rw [pictureOf, toInt_toInt32, h.rows_toNat, if_pos (not_le.mp hshort)]
  push_cast
  rfl

theorem pictureRows (h : Measured frame) (hshort : ¬TooTall frame) :
    (pictureOf frame).pictureRows = frame.height.toNat := by
  have heven := h.height_even
  rw [YuvMatrix.pictureRows, h.rows hshort]
  omega

/-- The rows of the matrix are those of the three planes, so it holds the frame. -/
theorem holds (h : Measured frame) (hshort : ¬TooTall frame) :
    (frame.yuv420.length : ℤ) = (pictureOf frame).rows.toInt * (pictureOf frame).columns.toInt := by
  obtain ⟨half, hhalf⟩ := Nat.dvd_of_mod_eq_zero h.height_even
  have hsize : frame.yuv420.length = 3 * half * frame.width.toNat := by
    rw [h.size, hhalf]
    have hproduct : frame.width.toNat * (2 * half) * 3 = 2 * (3 * half * frame.width.toNat) := by ring
    rw [hproduct, Nat.mul_div_cancel_left _ two_pos]
  have hrows : (frame.height.toNat : ℤ) + frame.height.toNat / 2 = 3 * half := by omega
  rw [h.rows hshort, h.columns, hsize, hrows]
  push_cast
  rfl

/-- Beyond that the rows come out negative, and the matrix holds nothing. -/
theorem not_holds (h : Measured frame) (htall : TooTall frame) :
    ¬((frame.yuv420.length : ℤ) ≤ (pictureOf frame).rows.toInt * (pictureOf frame).columns.toInt) := by
  have hlt := h.height_lt
  have hrows : (pictureOf frame).rows.toInt < 0 := by
    rw [pictureOf, toInt_toInt32, h.rows_toNat, if_neg (not_lt.mpr htall)]
    push_cast
    omega
  have hcolumns : 0 < (pictureOf frame).columns.toInt := by
    rw [h.columns]
    exact_mod_cast h.width_pos
  have hproduct := mul_neg_of_neg_of_pos hrows hcolumns
  omega

end Measured

theorem expectedYuv420Size_ok {frame : CameraFrame} {size : UInt64} :
    expectedYuv420Size frame = .ok size ↔
      ((0 < frame.width.toNat ∧ 0 < frame.height.toNat ∧ frame.width.toNat % 2 = 0 ∧
        frame.height.toNat % 2 = 0 ∧ frame.width.toNat < 2 ^ 31 ∧ frame.height.toNat < 2 ^ 31) ∧
        frameBytes frame.width frame.height = size) := by
  have hzero (n : UInt32) : (n == 0) = false ↔ 0 < n.toNat := by
    rw [beq_eq_false_iff_ne, Nat.pos_iff_ne_zero, ne_eq, ne_eq, ← UInt32.toNat_inj]
    rfl
  have heven (n : UInt32) : (n % 2 != 0) = false ↔ n.toNat % 2 = 0 := by
    rw [bne_eq_false_iff_eq, ← UInt32.toNat_inj, UInt32.toNat_mod]
    rfl
  simp only [expectedYuv420Size, check_bind_ok, rejectIf_ok, frameBytes_fits, true_and, Bool.or_eq_false_iff,
    hzero, heven, decide_eq_false_iff_not, not_lt, Except.ok.injEq, and_assoc]
  refine and_congr_right fun _ => and_congr_right fun _ => and_congr_right fun _ => and_congr_right fun _ =>
    and_congr ?_ (and_congr ?_ Iff.rfl)
  all_goals omega

theorem frameBytes_of_lt {width height : UInt32} (hwidth : width.toNat < 2 ^ 31)
    (hheight : height.toNat < 2 ^ 31) :
    (frameBytes width height).toNat = width.toNat * height.toNat * 3 / 2 := by
  have hpixels : width.toNat * height.toNat < 2 ^ 31 * 2 ^ 31 := Nat.mul_lt_mul'' hwidth hheight
  have hpicture := pictureBytes_eq width height
  rw [frameBytes_toNat_of_lt, hpicture]
  rw [hpicture]
  omega

theorem measured_iff {frame : CameraFrame} :
    Measured frame ↔ ∃ size, expectedYuv420Size frame = .ok size ∧ frame.yuv420.length = size.toNat := by
  constructor
  · intro h
    refine ⟨_, expectedYuv420Size_ok.mpr ⟨⟨h.width_pos, h.height_pos, h.width_even, h.height_even, h.width_lt,
      h.height_lt⟩, rfl⟩, ?_⟩
    rw [frameBytes_of_lt h.width_lt h.height_lt, h.size]
  · rintro ⟨size, hsize, hlength⟩
    obtain ⟨⟨hwidth, hheight, hevenWidth, hevenHeight, hwidthLt, hheightLt⟩, rfl⟩ :=
      expectedYuv420Size_ok.mp hsize
    rw [frameBytes_of_lt hwidthLt hheightLt] at hlength
    exact ⟨hwidth, hheight, hevenWidth, hevenHeight, hwidthLt, hheightLt, hlength⟩

/-- A frame is copied, does not fit into the matrix, or is refused. -/
theorem toYuv_cases (frame : CameraFrame) :
    (Measured frame ∧ ¬TooTall frame ∧ toYuv frame = .ok (pictureOf frame)) ∨
    (Measured frame ∧ TooTall frame ∧ toYuv frame = .error .undefined) ∨
    (¬Measured frame ∧ ∃ what, toYuv frame = .error (.thrown what)) := by
  cases hsize : expectedYuv420Size frame with
  | error what =>
      refine .inr (.inr ⟨fun h => ?_, what, ?_⟩)
      · obtain ⟨size, hok, -⟩ := measured_iff.mp h
        cases hsize.symm.trans hok
      · rw [toYuv, hsize]
        rfl
  | ok size =>
      by_cases hlength : frame.yuv420.length = size.toNat
      · have hmeasured : Measured frame := measured_iff.mpr ⟨size, hsize, hlength⟩
        have hpast : toYuv frame =
            if (frame.yuv420.length : ℤ) ≤ (pictureOf frame).rows.toInt * (pictureOf frame).columns.toInt then
              .ok (pictureOf frame)
            else .error .undefined := by
          have hsame : (frame.yuv420.length != size.toNat) = false := bne_eq_false_iff_eq.mpr hlength
          rw [toYuv, hsize]
          show (thrown (rejectIf (frame.yuv420.length != size.toNat) _) >>= _) = _
          rw [hsame]
          rfl
        by_cases htall : TooTall frame
        · exact .inr (.inl ⟨hmeasured, htall, by rw [hpast, if_neg (hmeasured.not_holds htall)]⟩)
        · exact .inl ⟨hmeasured, htall, by rw [hpast, if_pos (hmeasured.holds htall).le]⟩
      · refine .inr (.inr ⟨fun h => ?_, "unexpected YUV420 frame size", ?_⟩)
        · obtain ⟨size', hok, hlength'⟩ := measured_iff.mp h
          rw [Except.ok.inj (hsize.symm.trans hok)] at hlength
          exact hlength hlength'
        · rw [toYuv, hsize]
          show (thrown (rejectIf (frame.yuv420.length != size.toNat) _) >>= _) = _
          rw [bne_iff_ne.mpr hlength]
          rfl

theorem ofInt_toNat (n : UInt32) : UInt32.ofInt (n.toNat : ℤ) = n := by
  have hlt := n.toNat_lt
  rw [UInt32.ofInt, Int.emod_eq_of_lt (by omega) (by omega), Int.toNat_natCast, UInt32.ofNat_toNat]

/-- A frame that is copied has a letterbox, with a positive scale. -/
theorem Measured.letterbox {frame : CameraFrame} (h : Measured frame) (hshort : ¬TooTall frame) :
    makeYoloXLetterboxGeometry (UInt32.ofInt (pictureOf frame).columns.toInt)
        (UInt32.ofInt (pictureOf frame).pictureRows) 640 =
      makeYoloXLetterboxGeometry frame.width frame.height 640 ∧
    ∃ geometry, makeYoloXLetterboxGeometry frame.width frame.height 640 = .ok geometry ∧ 0 < geometry.scale := by
  have hne {n : UInt32} (hpos : 0 < n.toNat) : n ≠ 0 := by
    rintro rfl
    exact absurd hpos (Nat.lt_irrefl 0)
  refine ⟨by rw [h.columns, h.pictureRows hshort, ofInt_toNat, ofInt_toNat], ?_⟩
  refine ⟨_, makeYoloXLetterboxGeometry_eq (hne h.width_pos) (hne h.height_pos) (by decide), ?_⟩
  have hwidth : (0 : ℚ) < frame.width.toNat := Nat.cast_pos.mpr h.width_pos
  have hheight : (0 : ℚ) < frame.height.toNat := Nat.cast_pos.mpr h.height_pos
  have hinput : (0 : ℚ) < (640 : UInt32).toNat := Nat.cast_pos.mpr (by decide)
  exact lt_min (div_pos hinput hwidth) (div_pos hinput hheight)

/-! ### Boxes -/

/-- A box that a candidate has covers the pixels of the image that it should. -/
theorem candidateBox_pixels {candidate : YoloXCandidate} {centerX centerY width height scale : ℚ}
    {imageWidth imageHeight : ℤ} {box : Rect} (hbox : HasBox candidate centerX centerY width height)
    (hwidth : 0 ≤ imageWidth) (hheight : 0 ≤ imageHeight)
    (h : candidateBox candidate scale imageWidth imageHeight = some box) :
    box.pixels = coveredPixels ((centerX - width / 2) / scale) ((centerY - height / 2) / scale)
      ((centerX + width / 2) / scale) ((centerY + height / 2) / scale) imageWidth imageHeight := by
  have hlow {center size : ℚ} :
      ((Binary64.finite center).minus ((Binary64.finite size).dividedBy 2)).dividedBy scale =
        .finite ((center - size / 2) / scale) := by
    rw [sub_eq_add_neg]
    rfl
  have hhigh {center size : ℚ} :
      ((Binary64.finite center).plus ((Binary64.finite size).dividedBy 2)).dividedBy scale =
        .finite ((center + size / 2) / scale) := rfl
  rw [candidateBox, hbox.centerX_eq, hbox.centerY_eq, hbox.width_eq, hbox.height_eq, hlow, hlow, hhigh, hhigh] at h
  simp only [Option.bind_eq_bind, Option.bind_eq_some_iff, Binary64.floorToInt_eq_some,
    Binary64.ceilToInt_eq_some] at h
  obtain ⟨left, ⟨rfl, -⟩, top, ⟨rfl, -⟩, right, ⟨rfl, -⟩, bottom, ⟨rfl, -⟩, h⟩ := h
  rw [← Option.some.inj h, Rect.pixels, coveredPixels, Set.prod_inter_prod, clampTo_interval hwidth,
    clampTo_interval hheight]

theorem clampTo_bounds {size : ℤ} (hsize : 0 ≤ size) (value : ℤ) :
    0 ≤ clampTo size value ∧ clampTo size value ≤ size := by
  unfold clampTo
  split_ifs <;> omega

/-- A box lies in the image. -/
theorem candidateBox_within {candidate : YoloXCandidate} {scale : ℚ} {imageWidth imageHeight : ℤ} {box : Rect}
    (hwidth : 0 ≤ imageWidth) (hheight : 0 ≤ imageHeight)
    (h : candidateBox candidate scale imageWidth imageHeight = some box) :
    (0 ≤ box.x ∧ box.x + box.width ≤ imageWidth) ∧ 0 ≤ box.y ∧ box.y + box.height ≤ imageHeight := by
  simp only [candidateBox, Option.bind_eq_bind, Option.bind_eq_some_iff] at h
  obtain ⟨left, -, top, -, right, -, bottom, -, h⟩ := h
  have hleft := clampTo_bounds hwidth left
  have hright := clampTo_bounds hwidth right
  have htop := clampTo_bounds hheight top
  have hbottom := clampTo_bounds hheight bottom
  rw [← Option.some.inj h]
  refine ⟨⟨hleft.1, ?_⟩, htop.1, ?_⟩
  · show clampTo imageWidth left + max 0 (clampTo imageWidth right - clampTo imageWidth left) ≤ imageWidth
    omega
  · show clampTo imageHeight top + max 0 (clampTo imageHeight bottom - clampTo imageHeight top) ≤ imageHeight
    omega

/-! ### The targets of a class -/

/-- The suppression of overlapping boxes retains indices of boxes, each of them once. -/
structure Retains (nmsBoxes : NmsBoxes) : Prop where
  within : ∀ boxes scores scoreThreshold nmsThreshold, scores.length = boxes.length →
    ∀ index ∈ nmsBoxes boxes scores scoreThreshold nmsThreshold, 0 ≤ index.toInt ∧ index.toInt < boxes.length
  nodup : ∀ boxes scores scoreThreshold nmsThreshold, (nmsBoxes boxes scores scoreThreshold nmsThreshold).Nodup

/-- The index that `at` is asked for. -/
def placeOf (index : Int32) : Nat := (UInt64.ofInt index.toInt).toNat

theorem placeOf_eq {index : Int32} (h : 0 ≤ index.toInt) : placeOf index = index.toInt.toNat := by
  have hlt := index.toInt_lt
  rw [placeOf, UInt64.ofInt, Int.emod_eq_of_lt h (by omega), UInt64.toNat_ofNat', Nat.mod_eq_of_lt (by omega)]

theorem atIndex_eq_ok {α : Type} {elements : List α} {index : Int32} {element : α} :
    atIndex elements index = .ok element ↔ elements[placeOf index]? = some element := by
  unfold atIndex placeOf
  cases elements[(UInt64.ofInt index.toInt).toNat]? with
  | none => exact ⟨fun h => (by cases h), fun h => (by cases h)⟩
  | some found => rw [Except.ok.injEq, Option.some_inj]

namespace OpenCvDnnTargetDetector

variable {scale : ℚ} {imageWidth imageHeight : ℤ} {candidates : List YoloXCandidate}

theorem boxed_eq_ok {candidate : YoloXCandidate} {result : Option (Rect × YoloXCandidate)} :
    boxed scale imageWidth imageHeight candidate = .ok result ↔
      ∃ box, candidateBox candidate scale imageWidth imageHeight = some box ∧
        result = if box.isEmpty then none else some (box, candidate) := by
  unfold boxed
  cases candidateBox candidate scale imageWidth imageHeight with
  | none => exact ⟨fun h => (by cases h), fun ⟨_, h, _⟩ => (by cases h)⟩
  | some box =>
      constructor
      · exact fun h => ⟨box, rfl, (Except.ok.inj h).symm⟩
      · rintro ⟨_, hbox, rfl⟩
        cases hbox
        rfl

theorem boxed_eq_error {candidate : YoloXCandidate} {fault : DetectorFault} :
    boxed scale imageWidth imageHeight candidate = .error fault ↔
      candidateBox candidate scale imageWidth imageHeight = none ∧ fault = .undefined := by
  unfold boxed
  cases candidateBox candidate scale imageWidth imageHeight with
  | none => exact ⟨fun h => ⟨rfl, (Except.error.inj h).symm⟩, fun h => h.2 ▸ rfl⟩
  | some box => exact ⟨fun h => (by cases h), fun h => (by cases h.1)⟩

/-- What is selected are candidates in their order, each with its box, which is not empty. -/
theorem selected_spec {chosen : List YoloXCandidate} {all : List (Option (Rect × YoloXCandidate))}
    (h : List.Forall₂ (fun candidate result => boxed scale imageWidth imageHeight candidate = .ok result)
      chosen all) :
    ((all.filterMap id).map Prod.snd).Sublist chosen ∧
      ∀ pair ∈ all.filterMap id, candidateBox pair.2 scale imageWidth imageHeight = some pair.1 ∧
        pair.1.isEmpty = false := by
  induction h with
  | nil => exact ⟨List.Sublist.refl _, List.forall_mem_nil _⟩
  | @cons candidate result _ _ hresult _ ih =>
      obtain ⟨hsublist, hpairs⟩ := ih
      obtain ⟨box, hbox, rfl⟩ := boxed_eq_ok.mp hresult
      cases hempty : box.isEmpty with
      | true => exact ⟨hsublist.cons candidate, hpairs⟩
      | false => exact ⟨hsublist.cons_cons candidate, List.forall_mem_cons.mpr ⟨⟨hbox, hempty⟩, hpairs⟩⟩

variable (scale imageWidth imageHeight candidates) in
/-- A target is the observation of the candidate at a position, whose box is not empty. -/
def Observes (position : Nat) (target : TargetObservation) : Prop :=
  ∃ candidate box, candidates[position]? = some candidate ∧
    candidateBox candidate scale imageWidth imageHeight = some box ∧ box.isEmpty = false ∧
    target = makeObservation box candidate

/-- The class of the candidate at a position. -/
def classAt (candidates : List YoloXCandidate) (position : Nat) : Option Int32 :=
  candidates[position]?.map YoloXCandidate.classId

variable {nmsBoxes : NmsBoxes} {detector : OpenCvDnnTargetDetector} {classId : Int32}

/-- The targets of a class are observations of different candidates of that class. -/
theorem detectClass_observes (hretains : Retains nmsBoxes) {observations : List TargetObservation}
    (h : detectClass nmsBoxes detector scale imageWidth imageHeight candidates classId = .ok observations) :
    ∃ positions : List Nat, positions.Nodup ∧
      (∀ position ∈ positions, classAt candidates position = some classId) ∧
      List.Forall₂ (Observes scale imageWidth imageHeight candidates) positions observations := by
  obtain ⟨all, hall, h⟩ := bind_eq_ok.mp h
  obtain ⟨hsublist, hpairs⟩ := selected_spec (mapM_eq_ok.mp hall)
  have hobserved := mapM_eq_ok.mp h
  generalize all.filterMap id = selected at hsublist hpairs hobserved
  have hscores : (selected.map fun pair => pair.2.confidence).length = (selected.map Prod.fst).length := by
    rw [List.length_map, List.length_map]
  have hwithin := hretains.within (selected.map Prod.fst) (selected.map fun pair => pair.2.confidence)
    detector.config.confidenceThreshold detector.config.nmsThreshold hscores
  have hnodup := hretains.nodup (selected.map Prod.fst) (selected.map fun pair => pair.2.confidence)
    detector.config.confidenceThreshold detector.config.nmsThreshold
  generalize nmsBoxes (selected.map Prod.fst) (selected.map fun pair => pair.2.confidence)
    detector.config.confidenceThreshold detector.config.nmsThreshold = retained at hwithin hnodup hobserved
  have hplaces : (retained.map placeOf).Nodup := by
    refine hnodup.map_on fun index hindex other hother hplace => ?_
    have hfirst := (hwithin index hindex).1
    have hsecond := (hwithin other hother).1
    rw [placeOf_eq hfirst, placeOf_eq hsecond] at hplace
    exact Int32.toInt_inj.mp (by omega)
  obtain ⟨position, hpositions, hat⟩ := positions_of_sublist (hsublist.trans List.filter_sublist) hplaces
  -- A retained index stands for the candidate that its pair holds.
  have hfound : ∀ index pair, selected[placeOf index]? = some pair →
      candidates[position (placeOf index)]? = some pair.2 := by
    intro index pair hpair
    rw [← hat, List.getElem?_map, hpair]
    rfl
  have hclass : ∀ pair ∈ selected, pair.2.classId = classId := by
    intro pair hpair
    have hmem := hsublist.subset (List.mem_map.mpr ⟨pair, hpair, rfl⟩)
    exact beq_iff_eq.mp (List.mem_filter.mp hmem).2
  refine ⟨(retained.map placeOf).map position, hpositions, ?_, ?_⟩
  · intro p hp
    obtain ⟨place, hplace, rfl⟩ := List.mem_map.mp hp
    obtain ⟨index, hindex, rfl⟩ := List.mem_map.mp hplace
    have hlt : placeOf index < selected.length := by
      have hbounds := hwithin index hindex
      rw [List.length_map] at hbounds
      rw [placeOf_eq hbounds.1]
      omega
    rw [classAt, hfound index _ (List.getElem?_eq_getElem hlt), Option.map_some,
      hclass _ (List.getElem_mem hlt)]
  · rw [List.forall₂_map_left_iff, List.forall₂_map_left_iff]
    refine hobserved.imp fun index target htarget => ?_
    obtain ⟨pair, hpair, htarget⟩ := bind_eq_ok.mp htarget
    have hget := atIndex_eq_ok.mp hpair
    obtain ⟨hbox, hempty⟩ := hpairs pair (List.mem_of_getElem? hget)
    exact ⟨pair.2, pair.1, hfound index pair hget, hbox, hempty, (Except.ok.inj htarget).symm⟩

/-- The targets of a class fail with a conversion of a candidate's box, and with nothing else. -/
theorem detectClass_cases (detector : OpenCvDnnTargetDetector) (hretains : Retains nmsBoxes) (scale : ℚ)
    (imageWidth imageHeight : ℤ) (candidates : List YoloXCandidate) (classId : Int32) :
    (∃ observations, detectClass nmsBoxes detector scale imageWidth imageHeight candidates classId =
        .ok observations) ∧
      (∀ candidate ∈ candidates, candidate.classId = classId →
        candidateBox candidate scale imageWidth imageHeight ≠ none) ∨
    detectClass nmsBoxes detector scale imageWidth imageHeight candidates classId = .error .undefined ∧
      ∃ candidate ∈ candidates, candidateBox candidate scale imageWidth imageHeight = none := by
  have hmem : ∀ candidate, candidate ∈ (candidates.filter fun c => c.classId == classId) ↔
      candidate ∈ candidates ∧ candidate.classId = classId := by
    intro candidate
    rw [List.mem_filter, beq_iff_eq]
  cases hall : (candidates.filter fun candidate => candidate.classId == classId).mapM
      (boxed scale imageWidth imageHeight) with
  | error fault =>
      obtain ⟨before, candidate, after, hsplit, -, herror⟩ := mapM_eq_error.mp hall
      obtain ⟨hnone, rfl⟩ := boxed_eq_error.mp herror
      have hcandidate := (hmem candidate).mp (hsplit ▸ List.mem_append_right before List.mem_cons_self)
      refine .inr ⟨?_, candidate, hcandidate.1, hnone⟩
      rw [detectClass, hall]
      rfl
  | ok all =>
      refine .inl ⟨?_, ?_⟩
      · have hretained : ∃ observations, (nmsBoxes ((all.filterMap id).map Prod.fst)
            ((all.filterMap id).map fun pair => pair.2.confidence) detector.config.confidenceThreshold
            detector.config.nmsThreshold).mapM (fun index => do
              let pair ← atIndex (all.filterMap id) index
              (.ok (makeObservation pair.1 pair.2) : Except DetectorFault TargetObservation)) =
              .ok observations := by
          refine mapM_isOk.mpr fun index hindex => ?_
          have hbounds := hretains.within _ _ _ _ (by rw [List.length_map, List.length_map]) index hindex
          rw [List.length_map] at hbounds
          have hlt : placeOf index < (all.filterMap id).length := by
            rw [placeOf_eq hbounds.1]
            omega
          exact ⟨_, bind_eq_ok.mpr ⟨_, atIndex_eq_ok.mpr (List.getElem?_eq_getElem hlt), rfl⟩⟩
        obtain ⟨observations, hobservations⟩ := hretained
        exact ⟨observations, bind_eq_ok.mpr ⟨all, hall, hobservations⟩⟩
      · intro candidate hcandidate hclass hnone
        obtain ⟨result, hresult⟩ :=
          mapM_isOk.mp ⟨all, hall⟩ candidate ((hmem candidate).mpr ⟨hcandidate, hclass⟩)
        obtain ⟨box, hbox, -⟩ := boxed_eq_ok.mp hresult
        rw [hnone] at hbox
        cases hbox

/-! ### The configuration and the answer of the network -/

/-- What the constructor leaves. -/
structure Built (detector : OpenCvDnnTargetDetector) : Prop where
  threshold : ∃ threshold, detector.config.confidenceThreshold = .finite threshold ∧ 0 < threshold ∧ threshold ≤ 1
  decoderConfig : detector.decoderConfig =
    { acceptedClassIds := detector.config.acceptedClassIds
      confidenceThreshold := detector.config.confidenceThreshold }

theorem built_of_create {load : Bytes → Except String Bool} {config : OpenCvDnnDetectorConfig}
    (h : create load config = .ok detector) : Built detector := by
  obtain ⟨hvalid, h⟩ := check_bind_ok.mp h
  obtain ⟨empty, -, h⟩ := bind_eq_ok.mp h
  obtain ⟨-, h⟩ := check_bind_ok.mp h
  cases h
  simp only [OpenCvDnnDetectorConfig.validate, rejectIf_ok, Bool.or_eq_false_iff, Bool.not_eq_false'] at hvalid
  obtain ⟨⟨⟨⟨⟨⟨-, hfinite⟩, hpositive⟩, hbelow⟩, -⟩, -⟩, -⟩ := hvalid
  obtain ⟨threshold, hthreshold⟩ := (Binary64.isFinite_iff _).mp hfinite
  rw [hthreshold, Binary64.zero, Binary64.ge_finite, decide_eq_false_iff_not, not_le] at hpositive
  rw [hthreshold, Binary64.lt_finite, decide_eq_false_iff_not, not_lt] at hbelow
  exact ⟨⟨threshold, hthreshold, hpositive, hbelow⟩, rfl⟩

variable (detector) in
/-- The accepted class ids are ids of classes. -/
def KnownClasses : Prop := ∀ classId ∈ detector.config.acceptedClassIds, 0 ≤ classId.toInt ∧ classId.toInt < 80

theorem Built.validate_iff (h : Built detector) :
    detector.decoderConfig.validate = .ok () ↔ KnownClasses detector := by
  obtain ⟨threshold, hthreshold, hpositive, hbelow⟩ := h.threshold
  have hfixed : ((detector.decoderConfig.classCount == 0) = false ∧ (detector.decoderConfig.inputSize == 0) = false) ∧
      detector.decoderConfig.strides.isEmpty = false ∧
      (detector.decoderConfig.strides.any fun stride =>
        stride == 0 || detector.decoderConfig.inputSize % stride != 0) = false := by
    rw [h.decoderConfig]
    have hstrides : (([8, 16, 32] : List UInt32).any fun stride => stride == 0 || 640 % stride != 0) = false := by
      decide
    exact ⟨⟨rfl, rfl⟩, rfl, hstrides⟩
  obtain ⟨⟨hcount, hinput⟩, hstrides, hdivide⟩ := hfixed
  have hconfidence : (!detector.decoderConfig.confidenceThreshold.isFinite) = false ∧
      detector.decoderConfig.confidenceThreshold.lt .zero = false ∧
      (Binary64.finite 1).lt detector.decoderConfig.confidenceThreshold = false := by
    rw [h.decoderConfig, hthreshold, Binary64.zero, Binary64.lt_finite, Binary64.lt_finite,
      decide_eq_false_iff_not, decide_eq_false_iff_not, not_lt, not_lt]
    exact ⟨rfl, hpositive.le, hbelow⟩
  obtain ⟨hfinite, hzero, hone⟩ := hconfidence
  have hclass (classId : Int32) : (¬classId < 0 ∧ ¬(80 ≤ classId.toInt.toNat)) ↔
      0 ≤ classId.toInt ∧ classId.toInt < 80 := by
    have hzeroInt : (0 : Int32).toInt = 0 := rfl
    rw [Int32.lt_iff_toInt_lt, hzeroInt]
    omega
  simp only [YoloXDecoderConfig.validate, check_bind_ok, rejectIf_ok, hcount, hinput, hstrides, hfinite, hzero,
    hone, hdivide, Bool.or_self, true_and, List.any_eq_false, Bool.or_eq_true, decide_eq_true_eq, not_or]
  rw [h.decoderConfig]
  exact forall₂_congr fun classId _ => hclass classId

/-- The answer that the decoder takes. -/
def shapedOutput (values : List Binary64) : List NetworkOutput := [⟨[1, 8400, 85], true, values⟩]

theorem placeOf_eq_iff {index : Int32} {n : Nat} (hn : n < 2 ^ 31) : placeOf index = n ↔ index.toInt = n := by
  have hlow := index.le_toInt
  have hhigh := index.toInt_lt
  rw [placeOf, UInt64.ofInt, UInt64.toNat_ofNat']
  omega

theorem makeGrid_length : ({} : YoloXDecoderConfig).makeGrid.length = 8400 := by decide +kernel

/-- The only output that passes the checks has a row for each cell and a column for each class. -/
theorem Built.shape_iff (h : Built detector) {outputs : List NetworkOutput} {rowCount columnCount : UInt64}
    {values : List Binary64} (houtputs : readOutput outputs = .ok (rowCount, columnCount, values)) :
    AcceptedShape detector.decoderConfig values rowCount columnCount ↔
      outputs = shapedOutput values ∧ values.length = 8400 * 85 := by
  have hgrid : detector.decoderConfig.makeGrid.length = 8400 := by
    rw [h.decoderConfig]
    exact makeGrid_length
  have hexpected : detector.decoderConfig.expectedColumns = 85 := by
    rw [h.decoderConfig]
    rfl
  unfold readOutput at houtputs
  split at houtputs
  · rename_i batch rows columns read
    split at houtputs
    swap
    · cases houtputs
    rename_i hbatch
    cases houtputs
    have hrows : (UInt64.ofInt rows.toInt).toNat = 8400 ↔ rows = 8400 := by
      rw [← Int32.toInt_inj]
      exact placeOf_eq_iff (by decide)
    have hcolumns : UInt64.ofInt columns.toInt = 85 ↔ columns = 85 := by
      rw [← UInt64.toNat_inj, ← Int32.toInt_inj]
      exact placeOf_eq_iff (n := 85) (by decide)
    constructor
    · intro hshape
      have hrow := hrows.mp (hshape.rows.trans hgrid)
      have hcolumn := hcolumns.mp (hshape.columns.trans hexpected)
      refine ⟨by rw [hbatch, hrow, hcolumn, shapedOutput], hshape.size.trans ?_⟩
      rw [hrow, hcolumn]
      rfl
    · rintro ⟨hsame, hlength⟩
      have hsizes : [batch, rows, columns] = [1, 8400, 85] :=
        congrArg NetworkOutput.sizes (List.cons.inj hsame).1
      simp only [List.cons.injEq, and_true] at hsizes
      obtain ⟨-, rfl, rfl⟩ := hsizes
      exact ⟨hgrid.symm, hexpected.symm, hlength⟩
  · cases houtputs

/-- A row is described by one candidate only. -/
theorem describesRow_unique {exp : Binary64 → Binary64} {config : YoloXDecoderConfig} {output : List Binary64}
    {row : Nat} {candidate candidate' : YoloXCandidate} (h : DescribesRow exp config output row candidate)
    (h' : DescribesRow exp config output row candidate') : candidate = candidate' := by
  obtain ⟨classIndex, objectness, score, rawX, rawY, width, height, hfacts, x, y, stride, hcell, hx, hy, hw, hh,
    hconfidence, hclass⟩ := h
  obtain ⟨classIndex', objectness', score', rawX', rawY', width', height', hfacts', x', y', stride', hcell', hx',
    hy', hw', hh', hconfidence', hclass'⟩ := h'
  have hfinite {a : Option Binary64} {p q : ℚ} (hp : a = some (.finite p)) (hq : a = some (.finite q)) : p = q :=
    Binary64.finite.inj (Option.some.inj (hp.symm.trans hq))
  obtain ⟨rfl, rfl⟩ := hfacts.best.unique hfacts'.best
  obtain rfl := hfinite hfacts.objectness_eq hfacts'.objectness_eq
  obtain rfl := hfinite hfacts.x_eq hfacts'.x_eq
  obtain rfl := hfinite hfacts.y_eq hfacts'.y_eq
  obtain rfl := hfinite hfacts.width_eq hfacts'.width_eq
  obtain rfl := hfinite hfacts.height_eq hfacts'.height_eq
  obtain ⟨rfl, rfl, rfl⟩ := hcell.unique hcell'
  have hid : candidate.classId = candidate'.classId := Int32.toInt_inj.mp (hclass.trans hclass'.symm)
  cases candidate
  cases candidate'
  simp only at hx hy hw hh hconfidence hx' hy' hw' hh' hconfidence' hid
  rw [hx, hy, hw, hh, hconfidence, hx', hy', hw', hh', hconfidence', hid]

open Classical in
/-- The candidates of an answer that the decoder takes are those of its rows. -/
theorem Built.decode_cases (h : Built detector) (exp : Binary64 → Binary64) {outputs : List NetworkOutput}
    {rowCount columnCount : UInt64} {values : List Binary64}
    (houtputs : readOutput outputs = .ok (rowCount, columnCount, values)) :
    ((KnownClasses detector ∧ outputs = shapedOutput values ∧ values.length = 8400 * 85) ∧
      ∃ candidates, decodeYoloXOutput exp detector.decoderConfig values rowCount columnCount =
          .ok (some candidates) ∧
        List.Forall₂ (DescribesRow exp detector.decoderConfig values)
          ((List.range 8400).filter fun row => Qualifies exp detector.decoderConfig values row) candidates) ∨
    (¬(KnownClasses detector ∧ outputs = shapedOutput values ∧ values.length = 8400 * 85) ∧
      ∃ what, decodeYoloXOutput exp detector.decoderConfig values rowCount columnCount = .error what) := by
  rw [← h.validate_iff, ← h.shape_iff houtputs]
  by_cases hvalid : detector.decoderConfig.validate = .ok ()
  · by_cases hshape : AcceptedShape detector.decoderConfig values rowCount columnCount
    · have hrows : rowCount.toNat = 8400 := by
        rw [hshape.rows, h.decoderConfig]
        exact makeGrid_length
      have hclasses : detector.decoderConfig.classCount.toNat = 80 := by
        rw [h.decoderConfig]
        rfl
      have hdecoded := (decodesRows_iff_decodable exp hvalid hshape).mpr
        (decodable_of_small exp (by rw [hclasses]; decide) (by rw [hclasses, hrows]; decide))
      rw [DecodesRows, hrows] at hdecoded
      exact .inl ⟨⟨hvalid, hshape⟩, hdecoded⟩
    · refine .inr ⟨fun hboth => hshape hboth.2, ?_⟩
      cases hdecode : decodeYoloXOutput exp detector.decoderConfig values rowCount columnCount with
      | error what => exact ⟨what, rfl⟩
      | ok result =>
          obtain ⟨-, hdecode⟩ := check_bind_ok.mp hdecode
          obtain ⟨hcheck, -⟩ := check_bind_ok.mp hdecode
          simp only [rejectIf_ok, Bool.or_eq_false_iff, decide_eq_false_iff_not, not_not, bne_eq_false_iff_eq]
            at hcheck
          exact absurd ⟨hcheck.1.1, hcheck.1.2, hcheck.2⟩ hshape
  · refine .inr ⟨fun hboth => hvalid hboth.1, ?_⟩
    cases hdecode : decodeYoloXOutput exp detector.decoderConfig values rowCount columnCount with
    | error what => exact ⟨what, rfl⟩
    | ok result => exact absurd (check_bind_ok.mp hdecode).1 hvalid

theorem decoded_hasBox {exp : Binary64 → Binary64} {config : YoloXDecoderConfig} {values : List Binary64}
    {rowCount columnCount : UInt64}
    (h : decodeYoloXOutput exp config values rowCount columnCount = .ok (some candidates)) :
    ∀ candidate ∈ candidates, ∃ centerX centerY width height, HasBox candidate centerX centerY width height := by
  obtain ⟨-, h⟩ := check_bind_ok.mp h
  obtain ⟨-, h⟩ := check_bind_ok.mp h
  exact fun candidate hmem => decodeRows_hasBox (Except.ok.inj h) hmem

/-! ### Detections -/

/-- The loop over the classes fails with a conversion of a candidate's box, and with nothing else; its targets
are observations of different candidates, by ascending class ids. -/
theorem classes_cases (detector : OpenCvDnnTargetDetector) (hretains : Retains nmsBoxes) (scale : ℚ)
    (imageWidth imageHeight : ℤ) (candidates : List YoloXCandidate) :
    (∃ observations, (detectedClassIds candidates).mapM
        (detectClass nmsBoxes detector scale imageWidth imageHeight candidates) = .ok observations ∧
      (∃ positions : List Nat, positions.Nodup ∧
        List.Forall₂ (Observes scale imageWidth imageHeight candidates) positions observations.flatten) ∧
      (observations.flatten.map TargetObservation.id).Pairwise (· ≤ ·) ∧
      ∀ candidate ∈ candidates, candidateBox candidate scale imageWidth imageHeight ≠ none) ∨
    (detectedClassIds candidates).mapM
        (detectClass nmsBoxes detector scale imageWidth imageHeight candidates) = .error .undefined ∧
      ∃ candidate ∈ candidates, candidateBox candidate scale imageWidth imageHeight = none := by
  obtain ⟨hsorted, hmem⟩ := detectedClassIds_spec candidates
  cases hall : (detectedClassIds candidates).mapM
      (detectClass nmsBoxes detector scale imageWidth imageHeight candidates) with
  | error fault =>
      obtain ⟨before, classId, after, -, -, herror⟩ := mapM_eq_error.mp hall
      rcases detectClass_cases detector hretains scale imageWidth imageHeight candidates classId with
        ⟨⟨observations, hok⟩, -⟩ | ⟨hundefined, hnone⟩
      · cases herror.symm.trans hok
      · cases herror.symm.trans hundefined
        exact .inr ⟨rfl, hnone⟩
  | ok observations =>
      have hforall := mapM_eq_ok.mp hall
      have hnodup : (detectedClassIds candidates).Nodup := hsorted.imp fun h => h.2
      refine .inl ⟨observations, rfl, ?_, ?_, ?_⟩
      · obtain ⟨positions, hpositions, -, hobserves⟩ := positions_flatten
          (hforall.imp fun classId targets htargets => detectClass_observes hretains htargets) hnodup
        exact ⟨positions, hpositions, hobserves⟩
      · refine (pairwise_flatten (fun a => Int32.le_refl a) (hforall.imp fun classId targets htargets => ?_)
          (hsorted.imp fun h => h.1)).1
        obtain ⟨positions, -, hclass, hobserves⟩ := detectClass_observes hretains htargets
        intro target htarget
        obtain ⟨position, hposition, candidate, box, hcandidate, -, -, rfl⟩ :=
          exists_of_mem_right hobserves htarget
        have hid := hclass position hposition
        rw [classAt, hcandidate] at hid
        exact Option.some.inj hid
      · intro candidate hcandidate
        have hid := (hmem candidate.classId).mpr ⟨candidate, hcandidate, rfl⟩
        obtain ⟨targets, htargets⟩ := mapM_isOk.mp ⟨observations, hall⟩ candidate.classId hid
        rcases detectClass_cases detector hretains scale imageWidth imageHeight candidates candidate.classId with
          ⟨-, hboxes⟩ | ⟨hundefined, -⟩
        · exact hboxes candidate hcandidate rfl
        · cases htargets.symm.trans hundefined

section Detection

variable (exp : Binary64 → Binary64) (nmsBoxes : NmsBoxes)
  (forward : YuvMatrix → YoloXLetterboxGeometry → Except String (List NetworkOutput))
  (detector : OpenCvDnnTargetDetector) (frame : CameraFrame)

/-- The network answers a frame with an output that the decoder takes. -/
structure Answers (geometry : YoloXLetterboxGeometry) (values : List Binary64) : Prop where
  classes : KnownClasses detector
  geometry_eq : makeYoloXLetterboxGeometry frame.width frame.height 640 = .ok geometry
  outputs : forward (pictureOf frame) geometry = .ok (shapedOutput values)
  size : values.length = 8400 * 85

/-- A row of the output has a box that cannot be converted. -/
def Unconvertible (geometry : YoloXLetterboxGeometry) (values : List Binary64) : Prop :=
  ∃ row < 8400, ∃ candidate, DescribesRow exp detector.decoderConfig values row candidate ∧
    candidateBox candidate geometry.scale frame.width.toNat frame.height.toNat = none

/-- A target reports a row of the output: it is the box of the row's candidate in the pixels of the frame. -/
def Reports (geometry : YoloXLetterboxGeometry) (values : List Binary64) (row : Nat)
    (target : TargetObservation) : Prop :=
  ∃ candidate centerX centerY width height, DescribesRow exp detector.decoderConfig values row candidate ∧
    HasBox candidate centerX centerY width height ∧
    ∃ left top right bottom : ℤ, (0 ≤ left ∧ left < right ∧ right ≤ frame.width.toNat) ∧
      (0 ≤ top ∧ top < bottom ∧ bottom ≤ frame.height.toNat) ∧
      Set.Ico left right ×ˢ Set.Ico top bottom =
        coveredPixels ((centerX - width / 2) / geometry.scale) ((centerY - height / 2) / geometry.scale)
          ((centerX + width / 2) / geometry.scale) ((centerY + height / 2) / geometry.scale)
          frame.width.toNat frame.height.toNat ∧
      target =
        { id := candidate.classId
          family := className candidate.classId
          center := ⟨.finite ((left + right) / 2), .finite ((top + bottom) / 2)⟩
          corners := #v[⟨.finite left, .finite top⟩, ⟨.finite right, .finite top⟩,
            ⟨.finite right, .finite bottom⟩, ⟨.finite left, .finite bottom⟩]
          confidencePercent := candidate.confidence.times (.finite 100) }

variable {exp nmsBoxes forward detector frame} {geometry : YoloXLetterboxGeometry} {values : List Binary64}

theorem Answers.unique {geometry' : YoloXLetterboxGeometry} {values' : List Binary64}
    (h : Answers forward detector frame geometry values) (h' : Answers forward detector frame geometry' values') :
    geometry = geometry' ∧ values = values' := by
  obtain rfl : geometry = geometry' := Except.ok.inj (h.geometry_eq.symm.trans h'.geometry_eq)
  have houtputs := Except.ok.inj (h.outputs.symm.trans h'.outputs)
  exact ⟨rfl, congrArg NetworkOutput.values (List.cons.inj houtputs).1⟩

/-- The observation of a candidate that describes a row reports the row. -/
theorem reports_of_observes {candidate : YoloXCandidate} {box : Rect} {row : Nat}
    (hdescribes : DescribesRow exp detector.decoderConfig values row candidate)
    (hhasBox : ∃ centerX centerY width height, HasBox candidate centerX centerY width height)
    (hbox : candidateBox candidate geometry.scale frame.width.toNat frame.height.toNat = some box)
    (hempty : box.isEmpty = false) :
    Reports exp detector frame geometry values row (makeObservation box candidate) := by
  obtain ⟨centerX, centerY, width, height, hhasBox⟩ := hhasBox
  have hwidth : (0 : ℤ) ≤ frame.width.toNat := Int.natCast_nonneg _
  have hheight : (0 : ℤ) ≤ frame.height.toNat := Int.natCast_nonneg _
  obtain ⟨⟨hleft, hright⟩, htop, hbottom⟩ := candidateBox_within hwidth hheight hbox
  simp only [Rect.isEmpty, Bool.or_eq_false_iff, decide_eq_false_iff_not, not_le] at hempty
  refine ⟨candidate, centerX, centerY, width, height, hdescribes, hhasBox, box.x, box.y, box.x + box.width,
    box.y + box.height, ⟨hleft, by omega, hright⟩, ⟨htop, by omega, hbottom⟩,
    candidateBox_pixels hhasBox hwidth hheight hbox, rfl⟩

open Classical in
/-- The classes of decoded candidates: their targets report different rows, or a conversion fails. -/
theorem decoded_cases {candidates : List YoloXCandidate} (frame : CameraFrame)
    (geometry : YoloXLetterboxGeometry) (hretains : Retains nmsBoxes)
    (hrows : List.Forall₂ (DescribesRow exp detector.decoderConfig values)
      ((List.range 8400).filter fun row => Qualifies exp detector.decoderConfig values row) candidates)
    (hbox : ∀ candidate ∈ candidates, ∃ centerX centerY width height,
      HasBox candidate centerX centerY width height) :
    (∃ observations, (detectedClassIds candidates).mapM (detectClass nmsBoxes detector geometry.scale
          frame.width.toNat frame.height.toNat candidates) = .ok observations ∧
        ¬Unconvertible exp detector frame geometry values ∧
        (observations.flatten.map TargetObservation.id).Pairwise (· ≤ ·) ∧
        ∃ rows : List Nat, rows.Nodup ∧ (∀ row ∈ rows, row < 8400) ∧
          List.Forall₂ (Reports exp detector frame geometry values) rows observations.flatten) ∨
    (detectedClassIds candidates).mapM (detectClass nmsBoxes detector geometry.scale
          frame.width.toNat frame.height.toNat candidates) = .error .undefined ∧
      Unconvertible exp detector frame geometry values := by
  have hmem : ∀ row, row ∈ ((List.range 8400).filter fun row => Qualifies exp detector.decoderConfig values row) →
      row < 8400 := fun row hrow => List.mem_range.mp (List.mem_filter.mp hrow).1
  have hnodup : ((List.range 8400).filter fun row => Qualifies exp detector.decoderConfig values row).Nodup :=
    List.nodup_range.filter _
  have hqualifies : ∀ row candidate, row < 8400 → DescribesRow exp detector.decoderConfig values row candidate →
      row ∈ ((List.range 8400).filter fun row => Qualifies exp detector.decoderConfig values row) := by
    rintro row candidate hrow ⟨classIndex, objectness, score, rawX, rawY, width, height, hfacts, -⟩
    exact List.mem_filter.mpr ⟨List.mem_range.mpr hrow,
      decide_eq_true ⟨classIndex, objectness, score, rawX, rawY, width, height, hfacts⟩⟩
  generalize (List.range 8400).filter (fun row => Qualifies exp detector.decoderConfig values row) = rows
    at hrows hmem hnodup hqualifies
  rcases classes_cases detector hretains geometry.scale frame.width.toNat frame.height.toNat candidates with
    ⟨observations, hall, ⟨positions, hpositions, hobserves⟩, hsorted, hconverted⟩ | ⟨hundefined, hnone⟩
  · have hwithin : ∀ position target,
        Observes geometry.scale frame.width.toNat frame.height.toNat candidates position target →
        position < rows.length := by
      rintro position target ⟨candidate, box, hcandidate, -⟩
      rw [hrows.length_eq]
      exact (List.getElem?_eq_some_iff.mp hcandidate).1
    have hplaced : ∀ position ∈ positions, position < rows.length := by
      intro position hposition
      obtain ⟨target, -, hobserved⟩ := exists_of_mem_right hobserves.flip hposition
      exact hwithin position target hobserved
    refine .inl ⟨observations, hall, ?_, hsorted, positions.map fun position => rows.getD position 0, ?_, ?_, ?_⟩
    · rintro ⟨row, hrow, candidate, hdescribes, hnone⟩
      obtain ⟨candidate', hcandidate', hdescribes'⟩ :=
        exists_of_mem_right hrows.flip (hqualifies row candidate hrow hdescribes)
      rw [describesRow_unique hdescribes hdescribes'] at hnone
      exact hconverted candidate' hcandidate' hnone
    · refine hpositions.map_on fun first hfirst second hsecond hsame => ?_
      have hfirst := hplaced first hfirst
      have hsecond := hplaced second hsecond
      rw [List.getD_eq_getElem _ _ hfirst, List.getD_eq_getElem _ _ hsecond] at hsame
      exact (List.Nodup.getElem_inj_iff hnodup).mp hsame
    · intro row hrow
      obtain ⟨position, hposition, rfl⟩ := List.mem_map.mp hrow
      rw [List.getD_eq_getElem _ _ (hplaced position hposition)]
      exact hmem _ (List.getElem_mem _)
    · rw [List.forall₂_map_left_iff]
      refine hobserves.imp fun position target hobserved => ?_
      have hlt := hwithin position target hobserved
      obtain ⟨candidate, box, hcandidate, hcovers, hempty, rfl⟩ := hobserved
      obtain ⟨hbound, rfl⟩ := List.getElem?_eq_some_iff.mp hcandidate
      rw [List.getD_eq_getElem _ _ hlt]
      exact reports_of_observes (hrows.get hlt hbound) (hbox _ (List.getElem_mem _)) hcovers hempty
  · obtain ⟨candidate, hcandidate, hnone⟩ := hnone
    obtain ⟨row, hrow, hdescribes⟩ := exists_of_mem_right hrows hcandidate
    exact .inr ⟨hundefined, row, hmem row hrow, candidate, hdescribes, hnone⟩

/-- A frame that is copied is answered by the network, and its answer is observed. -/
theorem targets_eq_observe (hmeasured : Measured frame) (hshort : ¬TooTall frame)
    (hgeometry : makeYoloXLetterboxGeometry frame.width frame.height 640 = .ok geometry) :
    detector.targets exp nmsBoxes forward frame =
      thrown (forward (pictureOf frame) geometry) >>= detector.observe exp nmsBoxes geometry.scale
        frame.width.toNat frame.height.toNat := by
  have hyuv : toYuv frame = .ok (pictureOf frame) := by
    rcases toYuv_cases frame with ⟨-, -, hyuv⟩ | ⟨-, htall, -⟩ | ⟨hnot, -⟩
    · exact hyuv
    · exact absurd htall hshort
    · exact absurd hmeasured hnot
  obtain ⟨hsame, -⟩ := hmeasured.letterbox hshort
  rw [targets, hyuv]
  show (thrown (makeYoloXLetterboxGeometry (UInt32.ofInt (pictureOf frame).columns.toInt)
    (UInt32.ofInt (pictureOf frame).pictureRows) 640) >>= _) = _
  rw [hsame, hgeometry, hmeasured.columns, hmeasured.pictureRows hshort]
  rfl

/-- An answer that is decoded is observed class by class. -/
theorem observe_decoded (detector : OpenCvDnnTargetDetector) (nmsBoxes : NmsBoxes) (scale : ℚ)
    (imageWidth imageHeight : ℤ) {outputs : List NetworkOutput} {rowCount columnCount : UInt64}
    {candidates : List YoloXCandidate} (hread : readOutput outputs = .ok (rowCount, columnCount, values))
    (hdecode : decodeYoloXOutput exp detector.decoderConfig values rowCount columnCount = .ok (some candidates)) :
    detector.observe exp nmsBoxes scale imageWidth imageHeight outputs = (do
      let observations ← (detectedClassIds candidates).mapM (detectClass nmsBoxes detector scale imageWidth
        imageHeight candidates)
      .ok observations.flatten) := by
  rw [observe, hread]
  show (thrown (decodeYoloXOutput exp detector.decoderConfig values rowCount columnCount) >>= _) = _
  rw [hdecode]
  rfl

open Classical in
/-- How a detection goes: its targets report different rows, by ascending class ids; or a conversion fails; or
something is refused. -/
theorem targets_cases (exp : Binary64 → Binary64)
    (forward : YuvMatrix → YoloXLetterboxGeometry → Except String (List NetworkOutput)) (frame : CameraFrame)
    (hbuilt : Built detector) (hretains : Retains nmsBoxes) :
    (∃ observations, detector.targets exp nmsBoxes forward frame = .ok observations ∧ Measured frame ∧
      ¬TooTall frame ∧ ∃ geometry values, Answers forward detector frame geometry values ∧
        ¬Unconvertible exp detector frame geometry values ∧
        (observations.map TargetObservation.id).Pairwise (· ≤ ·) ∧
        ∃ rows : List Nat, rows.Nodup ∧ (∀ row ∈ rows, row < 8400) ∧
          List.Forall₂ (Reports exp detector frame geometry values) rows observations) ∨
    (detector.targets exp nmsBoxes forward frame = .error .undefined ∧ Measured frame ∧
      (TooTall frame ∨ ∃ geometry values, Answers forward detector frame geometry values ∧
        Unconvertible exp detector frame geometry values)) ∨
    ((∃ what, detector.targets exp nmsBoxes forward frame = .error (.thrown what)) ∧
      (Measured frame → ¬TooTall frame ∧ ∀ geometry values, ¬Answers forward detector frame geometry values)) := by
  rcases toYuv_cases frame with ⟨hmeasured, hshort, hyuv⟩ | ⟨hmeasured, htall, hyuv⟩ | ⟨hnot, what, hyuv⟩
  · obtain ⟨-, geometry, hgeometry, -⟩ := hmeasured.letterbox hshort
    rw [targets_eq_observe hmeasured hshort hgeometry]
    have hunanswered : (∀ values, forward (pictureOf frame) geometry = .ok (shapedOutput values) →
        ¬(KnownClasses detector ∧ values.length = 8400 * 85)) →
        ∀ geometry' values, ¬Answers forward detector frame geometry' values := by
      rintro hnone geometry' values hanswers
      obtain rfl : geometry = geometry' := Except.ok.inj (hgeometry.symm.trans hanswers.geometry_eq)
      exact hnone values hanswers.outputs ⟨hanswers.classes, hanswers.size⟩
    cases houtputs : forward (pictureOf frame) geometry with
    | error what =>
        refine .inr (.inr ⟨⟨what, rfl⟩, fun _ => ⟨hshort, hunanswered fun values hvalues => ?_⟩⟩)
        cases houtputs.symm.trans hvalues
    | ok outputs =>
        show _ ∨ (detector.observe exp nmsBoxes geometry.scale frame.width.toNat frame.height.toNat outputs = _ ∧ _) ∨
          _
        cases hread : readOutput outputs with
        | error what =>
            refine .inr (.inr ⟨⟨what, ?_⟩, fun _ => ⟨hshort, hunanswered fun values hvalues => ?_⟩⟩)
            · show detector.observe exp nmsBoxes _ _ _ outputs = _
              rw [observe, hread]
              rfl
            · obtain rfl := Except.ok.inj (houtputs.symm.trans hvalues)
              cases hread
        | ok read =>
            obtain ⟨rowCount, columnCount, values⟩ := read
            rcases hbuilt.decode_cases exp hread with
              ⟨⟨hclasses, rfl, hsize⟩, candidates, hdecode, hrows⟩ | ⟨hnot, what, hdecode⟩
            · have hobserve := detector.observe_decoded nmsBoxes geometry.scale frame.width.toNat
                frame.height.toNat hread hdecode
              have hanswers : Answers forward detector frame geometry values :=
                ⟨hclasses, hgeometry, houtputs, hsize⟩
              rcases decoded_cases frame geometry hretains hrows (decoded_hasBox hdecode) with
                ⟨observations, hall, hconverted, hsorted, hreports⟩ | ⟨hundefined, hunconvertible⟩
              · refine .inl ⟨observations.flatten, ?_, hmeasured, hshort, geometry, values, hanswers, hconverted,
                  hsorted, hreports⟩
                exact hobserve.trans (bind_eq_ok.mpr ⟨observations, hall, rfl⟩)
              · refine .inr (.inl ⟨?_, hmeasured, .inr ⟨geometry, values, hanswers, hunconvertible⟩⟩)
                exact hobserve.trans (bind_eq_error.mpr (.inl hundefined))
            · refine .inr (.inr ⟨⟨what, ?_⟩, fun _ => ⟨hshort, hunanswered fun values' hvalues => ?_⟩⟩)
              · show detector.observe exp nmsBoxes _ _ _ outputs = _
                rw [observe, hread]
                show (thrown (decodeYoloXOutput exp detector.decoderConfig values rowCount columnCount) >>= _) = _
                rw [hdecode]
                rfl
              · obtain rfl := Except.ok.inj (houtputs.symm.trans hvalues)
                cases hread
                exact fun h => hnot ⟨h.1, rfl, h.2⟩
  · refine .inr (.inl ⟨?_, hmeasured, .inl htall⟩)
    rw [targets, hyuv]
    rfl
  · refine .inr (.inr ⟨⟨what, ?_⟩, fun h => absurd h hnot⟩)
    rw [targets, hyuv]
    rfl

theorem detect_eq_ok {started finished : TimePoint} {detectedAt : Int} {batch : TargetDetectionBatch} :
    detector.detect exp nmsBoxes forward frame started finished detectedAt = .ok batch ↔
      ∃ observations, detector.targets exp nmsBoxes forward frame = .ok observations ∧
        batch = ⟨frame.sequence, frame.capturedAt, detectedAt, (finished - started).tdiv 1000, observations⟩ := by
  rw [detect, bind_eq_ok]
  exact exists_congr fun observations => and_congr_right fun _ =>
    ⟨fun h => (Except.ok.inj h).symm, fun h => h ▸ rfl⟩

theorem detect_eq_error {started finished : TimePoint} {detectedAt : Int} {fault : DetectorFault} :
    detector.detect exp nmsBoxes forward frame started finished detectedAt = .error fault ↔
      detector.targets exp nmsBoxes forward frame = .error fault := by
  rw [detect, bind_eq_error]
  constructor
  · rintro (h | ⟨observations, -, h⟩)
    · exact h
    · cases h
  · exact .inl

/-- Whatever the network answers: the targets of a batch go by ascending class ids, and report different rows of
the output. A target is the part of the box of its row that lies in the frame, which is not empty. -/
theorem detect_reports {load : Bytes → Except String Bool} {config : OpenCvDnnDetectorConfig}
    {started finished : TimePoint} {detectedAt : Int} {batch : TargetDetectionBatch}
    (hcreated : create load config = .ok detector) (hretains : Retains nmsBoxes)
    (h : detector.detect exp nmsBoxes forward frame started finished detectedAt = .ok batch) :
    (batch.targets.map TargetObservation.id).Pairwise (· ≤ ·) ∧
    ∃ geometry values rows, Answers forward detector frame geometry values ∧
      rows.Nodup ∧ (∀ row ∈ rows, row < 8400) ∧
      List.Forall₂ (Reports exp detector frame geometry values) rows batch.targets := by
  obtain ⟨observations, htargets, rfl⟩ := detect_eq_ok.mp h
  rcases targets_cases exp forward frame (built_of_create hcreated) hretains with
    ⟨observations', hok, -, -, geometry, values, hanswers, -, hsorted, rows, hnodup, hrows, hreports⟩ |
    ⟨hundefined, -⟩ | ⟨⟨what, hthrown⟩, -⟩
  · obtain rfl : observations = observations' := Except.ok.inj (htargets.symm.trans hok)
    exact ⟨hsorted, geometry, values, rows, hanswers, hnodup, hrows, hreports⟩
  · cases htargets.symm.trans hundefined
  · cases htargets.symm.trans hthrown

end Detection

/-! ### A bird and an airplane -/

def aerialDetector : OpenCvDnnTargetDetector where
  config := { modelFile := literal "models/yolox.onnx", acceptedClassIds := [4, 14] }
  decoderConfig := { acceptedClassIds := [4, 14] }

def smallFrame : CameraFrame := ⟨7, 2, 2, [16, 16, 16, 16, 128, 128], none, 0⟩

/-- A row with a box of its cell's size, in which one class scores. -/
def sureRow (rawX rawY : ℚ) (classIndex : Nat) : List Binary64 :=
  [.finite rawX, .finite rawY, .zero, .zero, .finite 1] ++
    (List.replicate 80 Binary64.zero).set classIndex (.finite (1 / 2))

/-- A bird in the first row, an airplane in the second, and nothing in the others. -/
def aerialOutput : List Binary64 := sureRow 40 40 14 ++ (sureRow 39 39 4 ++ List.replicate (8398 * 85) .zero)

def aerialForward (_ : YuvMatrix) (_ : YoloXLetterboxGeometry) : Except String (List NetworkOutput) :=
  .ok (shapedOutput aerialOutput)

/-- The exponential of zero. -/
def expZero (_ : Binary64) : Binary64 := .finite 1

def bird : YoloXCandidate := ⟨.finite 320, .finite 320, .finite 8, .finite 8, .finite (1 / 2), 14⟩

def airplane : YoloXCandidate := ⟨.finite 320, .finite 312, .finite 8, .finite 8, .finite (1 / 2), 4⟩

/-- The airplane's box is cut off at half the height, the bird's covers the frame. -/
def aerialTargets : List TargetObservation :=
  [makeObservation ⟨0, 0, 2, 1⟩ airplane, makeObservation ⟨0, 0, 2, 2⟩ bird]

/-- All boxes are retained: none of them overlap. -/
def retainAll : NmsBoxes := fun boxes _ _ _ =>
  if boxes.length < 2 ^ 31 then (List.range boxes.length).map fun index => Int32.ofNat index else []

theorem retainAll_retains : Retains retainAll := by
  have hvalue {boxes : List Rect} (hsmall : boxes.length < 2 ^ 31) {index : Nat} (h : index < boxes.length) :
      (Int32.ofNat index).toInt = index := Int32.toInt_ofNat_of_lt (lt_trans h hsmall)
  refine ⟨fun boxes scores _ _ _ => ?_, fun boxes scores _ _ => ?_⟩
  · unfold retainAll
    split
    · rename_i hsmall
      intro index hindex
      obtain ⟨place, hplace, rfl⟩ := List.mem_map.mp hindex
      rw [hvalue hsmall (List.mem_range.mp hplace)]
      exact ⟨Int.natCast_nonneg place, Int.ofNat_lt.mpr (List.mem_range.mp hplace)⟩
    · exact List.forall_mem_nil _
  · unfold retainAll
    split
    · rename_i hsmall
      refine List.nodup_range.map_on fun first hfirst second hsecond hsame => ?_
      have hints := congrArg Int32.toInt hsame
      rw [hvalue hsmall (List.mem_range.mp hfirst), hvalue hsmall (List.mem_range.mp hsecond)] at hints
      exact Int.ofNat_inj.mp hints
    · exact List.nodup_nil

theorem aerialDetector_created : create (fun _ => .ok false) aerialDetector.config = .ok aerialDetector := by
  have hvalid : aerialDetector.config.validate = .ok () := by
    rw [OpenCvDnnDetectorConfig.validate, rejectIf_ok]
    decide +kernel
  rw [create, hvalid]
  rfl

theorem length_aerialOutput : aerialOutput.length = 8400 * 85 := by
  rw [aerialOutput, List.length_append, List.length_append, List.length_replicate]
  rfl

/-- The part of the output that a row is read from. -/
theorem aerialOutput_row {row : Nat} (hrow : row < 8400) :
    decodeAt expZero aerialDetector.decoderConfig aerialOutput 85 row =
      decodeRow expZero aerialDetector.decoderConfig ((aerialOutput.drop (row * 85)).take 85)
        (({} : YoloXDecoderConfig).makeGrid[row]?) := by
  have hcount : (85 : UInt64).toNat = 85 := rfl
  have hoffset : (UInt64.ofNat row * 85).toNat = row * 85 := by
    have hbound : row < 2 ^ 64 := by omega
    rw [UInt64.toNat_mul, UInt64.toNat_ofNat', hcount, Nat.mod_eq_of_lt hbound]
    exact Nat.mod_eq_of_lt (by omega)
  have hinside : (UInt64.ofNat row * 85).toNat ≤ aerialOutput.length ∧
      ((85 : UInt64) = -1 ∨ (85 : UInt64).toNat ≤ aerialOutput.length - (UInt64.ofNat row * 85).toNat) := by
    rw [hoffset, length_aerialOutput, hcount]
    exact ⟨by omega, .inr (by omega)⟩
  rw [decodeAt, subspan, if_pos hinside, hoffset, hcount]
  rfl

/-- Two rows, and nothing in the others. -/
def aerialCandidate : Nat → Option YoloXCandidate
  | 0 => some bird
  | 1 => some airplane
  | _ => none

theorem aerialOutput_decodeAt {row : Nat} (hrow : row < 8400) :
    decodeAt expZero aerialDetector.decoderConfig aerialOutput 85 row = some (aerialCandidate row) := by
  rw [aerialOutput_row hrow]
  match row with
  | 0 =>
      have hfirst : (aerialOutput.drop 0).take 85 = sureRow 40 40 14 := List.take_left' rfl
      rw [Nat.zero_mul, hfirst]
      decide +kernel
  | 1 =>
      have hsecond : (aerialOutput.drop 85).take 85 = sureRow 39 39 4 := by
        have hrest : aerialOutput.drop 85 = sureRow 39 39 4 ++ List.replicate (8398 * 85) .zero := List.drop_left' rfl
        rw [hrest]
        exact List.take_left' rfl
      rw [Nat.one_mul, hsecond]
      decide +kernel
  | row + 2 =>
      have hrest : (aerialOutput.drop ((row + 2) * 85)).take 85 = List.replicate 85 .zero := by
        have hplace : (row + 2) * 85 = (sureRow 40 40 14 ++ sureRow 39 39 4).length + row * 85 := by
          show _ = 170 + row * 85
          omega
        rw [hplace, ← List.drop_drop, aerialOutput, ← List.append_assoc, List.drop_left, List.drop_replicate,
          List.take_replicate, Nat.min_eq_left (by omega)]
      have hscores : aerialDetector.decoderConfig.highestScoringClass (List.replicate 85 .zero) = some (-1, .zero) := by
        decide +kernel
      rw [hrest, decodeRow, hscores]
      rfl

theorem aerialOutput_decoded :
    decodeYoloXOutput expZero aerialDetector.decoderConfig aerialOutput 8400 85 = .ok (some [bird, airplane]) := by
  have hvalid : aerialDetector.decoderConfig.validate = .ok () := by
    refine (built_of_create aerialDetector_created).validate_iff.mpr fun classId hclassId => ?_
    fin_cases hclassId <;> decide
  have hshape : AcceptedShape aerialDetector.decoderConfig aerialOutput 8400 85 :=
    ⟨makeGrid_length.symm, rfl, length_aerialOutput⟩
  have hall : ∀ row ∈ List.range 8400, decodeAt expZero aerialDetector.decoderConfig aerialOutput 85 row =
      some (aerialCandidate row) := fun row hrow => aerialOutput_decodeAt (List.mem_range.mp hrow)
  have hrows : List.range 8400 = 0 :: 1 :: (List.range 8398).map (· + 2) := by
    rw [List.range_succ_eq_map, List.range_succ_eq_map, List.map_cons, List.map_map]
    rfl
  have hcount : (8400 : UInt64).toNat = 8400 := rfl
  have hnone : ((List.range 8398).map fun row => aerialCandidate (row + 2)).filterMap id = [] := by
    refine List.filterMap_eq_nil_iff.mpr fun candidate hcandidate => ?_
    obtain ⟨row, -, rfl⟩ := List.mem_map.mp hcandidate
    rfl
  rw [decodeYoloXOutput_eq hvalid hshape, hcount, Selection.mapM_eq_some hall, hrows, List.map_cons, List.map_cons,
    List.map_map, Option.map_some]
  exact congrArg (fun rest => Except.ok (some (bird :: airplane :: rest))) hnone

theorem smallFrame_measured : Measured smallFrame := ⟨by decide, by decide, by decide, by decide, by decide, by decide,
  by decide⟩

theorem smallFrame_geometry : makeYoloXLetterboxGeometry smallFrame.width smallFrame.height 640 =
    .ok ⟨640, 640, 320⟩ := by
  have hscale : min (((640 : UInt32).toNat : ℚ) / smallFrame.width.toNat)
      ((640 : UInt32).toNat / smallFrame.height.toNat) = 320 := by
    decide +kernel
  have hwidth : castUInt32 (roundHalfAway (smallFrame.width.toNat * 320)) = 640 := by decide +kernel
  have hheight : castUInt32 (roundHalfAway (smallFrame.height.toNat * 320)) = 640 := hwidth
  rw [makeYoloXLetterboxGeometry_eq (by decide) (by decide) (by decide)]
  simp only [hscale, hwidth, hheight]

theorem aerial_classIds : detectedClassIds [bird, airplane] = [4, 14] := by
  have hsorted : ([14, 4] : List Int32).mergeSort (fun a b => decide (a ≤ b)) = [4, 14] := by
    simp [List.mergeSort]
  rw [detectedClassIds]
  show unique (([14, 4] : List Int32).mergeSort _) = _
  rw [hsorted]
  rfl

theorem aerial_observes : (detectedClassIds [bird, airplane]).mapM
    (detectClass retainAll aerialDetector 320 2 2 [bird, airplane]) = .ok (aerialTargets.map fun target => [target]) := by
  have hairplane : detectClass retainAll aerialDetector 320 2 2 [bird, airplane] 4 =
      .ok [makeObservation ⟨0, 0, 2, 1⟩ airplane] := by
    decide +kernel
  have hbird : detectClass retainAll aerialDetector 320 2 2 [bird, airplane] 14 =
      .ok [makeObservation ⟨0, 0, 2, 2⟩ bird] := by
    decide +kernel
  rw [aerial_classIds, List.mapM_cons, List.mapM_cons, hairplane, hbird]
  rfl

theorem readOutput_shaped (values : List Binary64) : readOutput (shapedOutput values) = .ok (8400, 85, values) := rfl

theorem aerial_detected : aerialDetector.detect expZero retainAll aerialForward smallFrame 0 1500 0 =
    .ok ⟨7, none, 0, 1, aerialTargets⟩ := by
  refine detect_eq_ok.mpr ⟨aerialTargets, ?_, rfl⟩
  have hobserved : aerialDetector.observe expZero retainAll 320 2 2 (shapedOutput aerialOutput) = .ok aerialTargets := by
    rw [aerialDetector.observe_decoded retainAll 320 2 2 (readOutput_shaped aerialOutput) aerialOutput_decoded,
      aerial_observes]
    rfl
  rw [targets_eq_observe smallFrame_measured (not_le.mpr (by decide)) smallFrame_geometry]
  exact bind_eq_ok.mpr ⟨shapedOutput aerialOutput, rfl, hobserved⟩

/-- The airplane is told before the bird, and they report different rows. -/
theorem detect_reports_aerial : ∃ batch,
    aerialDetector.detect expZero retainAll aerialForward smallFrame 0 1500 0 = .ok batch ∧
      batch.targets.map TargetObservation.id = [4, 14] ∧
      ∃ geometry values rows, Answers aerialForward aerialDetector smallFrame geometry values ∧
        rows.length = 2 ∧ rows.Nodup ∧
        List.Forall₂ (Reports expZero aerialDetector smallFrame geometry values) rows batch.targets := by
  obtain ⟨-, geometry, values, rows, hanswers, hnodup, -, hreports⟩ :=
    detect_reports aerialDetector_created retainAll_retains aerial_detected
  exact ⟨_, aerial_detected, rfl, geometry, values, rows, hanswers, hreports.length_eq, hnodup, hreports⟩

end OpenCvDnnTargetDetector

end OnboardAutonomy
