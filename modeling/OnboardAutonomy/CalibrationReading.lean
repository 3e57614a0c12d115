import OnboardAutonomy.Attempts
import OnboardAutonomy.CalibrationTool
import OnboardAutonomy.Decimals

/-! What the loader makes of the documents that the calibration tool writes. -/

namespace OnboardAutonomy

namespace Json

/-! ### Sorted objects -/

/-- Among different names there is one field at most of a name. -/
theorem find?_eq_some_iff_of_nodup {fields : List (String × Json)} (h : (fields.map Prod.fst).Nodup) (name : String)
    (field : String × Json) :
    fields.find? (fun field => field.1 = name) = some field ↔ field ∈ fields ∧ field.1 = name := by
  constructor
  · intro hfind
    exact ⟨List.mem_of_find?_eq_some hfind, by simpa using List.find?_some hfind⟩
  · rintro ⟨hmem, hname⟩
    cases hfind : fields.find? (fun field => field.1 = name) with
    | none => exact absurd hname (by simpa using List.find?_eq_none.mp hfind field hmem)
    | some other =>
        have hother : other.1 = name := by simpa using List.find?_some hfind
        rw [List.inj_on_of_nodup_map h (List.mem_of_find?_eq_some hfind) hmem (hother.trans hname.symm)]

/-- Sorting does not change what stands behind a name. -/
theorem member_sorted {fields : List (String × Json)} (h : (fields.map Prod.fst).Nodup) (name : String) :
    (Json.object fields).sorted.member name = ((Json.object fields).member name).map sorted := by
  have hperm := List.mergeSort_perm (sortedFields fields) fun a b => !decide (b.1 < a.1)
  have hnames : ((sortedFields fields).map Prod.fst).Nodup := by rwa [sortedFields_names]
  have hsame : ((sortedFields fields).mergeSort fun a b => !decide (b.1 < a.1)).find? (fun field => field.1 = name) =
      (sortedFields fields).find? fun field => field.1 = name := by
    apply Option.ext
    intro field
    rw [find?_eq_some_iff_of_nodup ((hperm.map Prod.fst).nodup_iff.mpr hnames), find?_eq_some_iff_of_nodup hnames,
      hperm.mem_iff]
  have hmap : (sortedFields fields).find? (fun field => field.1 = name) =
      (fields.find? fun field => field.1 = name).map fun field => (field.1, sorted field.2) := by
    rw [sortedFields_eq, List.find?_map]
    rfl
  rw [Json.sorted, member, hsame, hmap, member]
  cases fields.find? fun field => field.1 = name <;> rfl

theorem member_sorted_of_mem {fields : List (String × Json)} (h : (fields.map Prod.fst).Nodup) {name : String}
    {value : Json} (hmem : (name, value) ∈ fields) : (Json.object fields).sorted.member name = .ok value.sorted := by
  rw [member_sorted h, member, (find?_eq_some_iff_of_nodup h name (name, value)).mpr ⟨hmem, rfl⟩]
  rfl

theorem getFirst_map {α : Type} {get : Json → Except JsonError α} {write : α → Json}
    (h : ∀ value, get (write value) = .ok value) {n : Nat} (values : List.Vector α n) :
    getFirst get n (values.toList.map write) = .ok values := by
  induction n with
  | zero => rw [values.eq_nil]; rfl
  | succ n ih =>
      obtain ⟨value, rest, rfl⟩ := values.exists_eq_cons
      rw [List.Vector.toList_cons, List.map_cons, getFirst, h, ih rest]
      rfl

/-- An array is read back from its elements. -/
theorem getArray_map {α : Type} {get : Json → Except JsonError α} {write : α → Json}
    (h : ∀ value, get (write value).sorted = .ok value) {n : Nat} (values : List.Vector α n) :
    (Json.array (values.toList.map write)).sorted.getArray get n = .ok values := by
  rw [Json.sorted, sortedElements_eq, List.map_map, getArray]
  exact getFirst_map h values

end Json

namespace CalibrationTool

open CameraCalibrationLoader

variable {κ : Type} (arguments : CalibrationArguments) (stamp : ToolStamp) (squareSizeM : Binary64)
  (views : CalibrationViews κ) (solution : CalibrationSolution)

attribute [local instance] neZero_three

/-- The calibration that the tool has found. -/
def found : CameraCalibration where
  cameraModel := arguments.cameraModel
  imageWidth := .ofInt views.imageSize.1
  imageHeight := .ofInt views.imageSize.2
  focusMode := arguments.focusMode
  lensPosition := arguments.lensPosition
  fxPx := entry solution.cameraMatrix 0 0
  fyPx := entry solution.cameraMatrix 1 1
  cxPx := entry solution.cameraMatrix 0 2
  cyPx := entry solution.cameraMatrix 1 2
  distortion := solution.distortionCoefficients

/-- What the loader answers to a document of the tool. -/
def loaded (checks : QualityChecks) : Except CalibrationError CameraCalibration :=
  if !checks.all then .error qualityError
  else if !consistentMatrix solution.cameraMatrix (found arguments views solution) then .error matrixError
  else if !validCalibration (found arguments views solution) then .error calibrationError
  else .ok (found arguments views solution)

theorem lift_ok {α : Type} (a : α) :
    (liftM (Except.ok a : Except JsonError α) : Except CalibrationError α) = .ok a :=
  rfl

theorem ok_bind {ε α β : Type} (a : α) (f : α → Except ε β) : (Except.ok a >>= f) = f a := rfl

theorem requireSupportedSchema_sorted (outside : Binary64 → UInt32) {document : Json}
    (hversion : document.member "schema_version" = .ok (.integer 1))
    (hmodel : document.member "model" = .ok (.text "opencv_pinhole_brown_conrady_5"))
    (hdistortion : document.member "distortion" = .ok (Json.object (distortionFields solution)).sorted) :
    requireSupportedSchema outside document = .ok () := by
  have horder : (Json.object (distortionFields solution)).sorted.member "coefficient_order" =
      .ok (Json.array (["k1", "k2", "p1", "p2", "k3"].map .text)).sorted :=
    Json.member_sorted_of_mem (by simp [distortionFields]) (by simp [distortionFields])
  have hnames : (Json.array (["k1", "k2", "p1", "p2", "k3"].map .text)).sorted.getArray Json.getString
      kDistortionCoefficientCount = .ok expectedOrder := rfl
  simp only [requireSupportedSchema, hversion, hmodel, hdistortion, lift_ok, ok_bind, horder, hnames]
  rfl

theorem requireQualityPass_sorted {document : Json} {checks : QualityChecks} {mean maximumViewError : Binary64}
    (hresult : document.member "result" = .ok (.text (if checks.all then "PASS" else "FAIL")))
    (hquality : document.member "quality" =
      .ok (Json.object (qualityFields arguments solution checks mean maximumViewError)).sorted) :
    requireQualityPass document = throwUnless checks.all qualityError := by
  have hchecks : (Json.object (qualityFields arguments solution checks mean maximumViewError)).sorted.member "checks" =
      .ok (Json.object (checksFields checks)).sorted :=
    Json.member_sorted_of_mem (by simp [qualityFields]) (by simp [qualityFields])
  have hcheck (name : String) (value : Bool) (hmem : (name, .boolean value) ∈ checksFields checks) :
      (Json.object (checksFields checks)).sorted.member name = .ok (.boolean value) := by
    have hmember := Json.member_sorted_of_mem (by simp [checksFields]) hmem
    exact hmember
  have hviews := hcheck "minimum_views_reached" checks.minimumViewsReached (by simp [checksFields])
  have hrms := hcheck "rms_error_within_limit" checks.rmsErrorWithinLimit (by simp [checksFields])
  have heach := hcheck "every_view_error_within_limit" checks.everyViewErrorWithinLimit (by simp [checksFields])
  simp only [requireQualityPass, hresult, hquality, lift_ok, ok_bind, hchecks, hviews, hrms, heach, Json.text,
    Json.getString, Json.getBool]
  obtain ⟨views, rms, each⟩ := checks
  cases views <;> cases rms <;> cases each <;> rfl

theorem readCalibration_sorted (outside : Binary64 → UInt32) {document : Json}
    (hdistortion : document.member "distortion" = .ok (Json.object (distortionFields solution)).sorted) :
    readCalibration outside document (Json.object (cameraFields arguments views)).sorted
        (Json.object (intrinsicsFields solution)).sorted = .ok (found arguments views solution) := by
  have hcamera (name : String) (value : Json) (hmem : (name, value) ∈ cameraFields arguments views) :
      (Json.object (cameraFields arguments views)).sorted.member name = .ok value.sorted :=
    Json.member_sorted_of_mem (by simp [cameraFields]) hmem
  have htext (name : String) (value : Bytes) (hmem : (name, .string value) ∈ cameraFields arguments views) :
      (Json.object (cameraFields arguments views)).sorted.member name = .ok (.string value) :=
    hcamera name (.string value) hmem
  have hsize (name : String) (value : Int) (hmem : (name, .integer value) ∈ cameraFields arguments views) :
      (Json.object (cameraFields arguments views)).sorted.member name = .ok (.integer value) :=
    hcamera name (.integer value) hmem
  have hintrinsics (name : String) (value : Binary64) (hmem : (name, .number value) ∈ intrinsicsFields solution) :
      (Json.object (intrinsicsFields solution)).sorted.member name = .ok (.number value) := by
    have hmember := Json.member_sorted_of_mem (by simp [intrinsicsFields]) hmem
    exact hmember
  have hcoefficients : (Json.object (distortionFields solution)).sorted.member "coefficients" =
      .ok (Json.array (solution.distortionCoefficients.toList.map .number)).sorted :=
    Json.member_sorted_of_mem (by simp [distortionFields]) (by simp [distortionFields])
  have hvector : (Json.array (solution.distortionCoefficients.toList.map .number)).sorted.getArray Json.getDouble
      kDistortionCoefficientCount = .ok solution.distortionCoefficients :=
    Json.getArray_map (fun _ => rfl) solution.distortionCoefficients
  simp only [readCalibration, hdistortion, hcoefficients, hvector, ok_bind,
    htext "model" arguments.cameraModel (by simp [cameraFields]),
    hsize "width" views.imageSize.1 (by simp [cameraFields]),
    hsize "height" views.imageSize.2 (by simp [cameraFields]),
    htext "focus_mode" arguments.focusMode (by simp [cameraFields]),
    htext "lens_position" arguments.lensPosition (by simp [cameraFields]),
    hintrinsics "fx_px" (entry solution.cameraMatrix 0 0) (by simp [intrinsicsFields]),
    hintrinsics "fy_px" (entry solution.cameraMatrix 1 1) (by simp [intrinsicsFields]),
    hintrinsics "cx_px" (entry solution.cameraMatrix 0 2) (by simp [intrinsicsFields]),
    hintrinsics "cy_px" (entry solution.cameraMatrix 1 2) (by simp [intrinsicsFields]),
    Json.getString, Json.getUInt32, Json.getDouble]
  rfl

/-- The loader sees the matrix that the tool has written. -/
theorem requireConsistentMatrix_sorted (calibration : CameraCalibration) :
    requireConsistentMatrix (Json.object (intrinsicsFields solution)).sorted calibration =
      throwUnless (consistentMatrix solution.cameraMatrix calibration) matrixError := by
  have hmember : (Json.object (intrinsicsFields solution)).sorted.member "camera_matrix" =
      .ok (matrixJson solution.cameraMatrix).sorted :=
    Json.member_sorted_of_mem (by simp [intrinsicsFields]) (by simp [intrinsicsFields])
  have hmatrix : (matrixJson solution.cameraMatrix).sorted.getArray (Json.getArray Json.getDouble 3) 3 =
      .ok solution.cameraMatrix :=
    Json.getArray_map (fun row => Json.getArray_map (fun _ => rfl) row) solution.cameraMatrix
  simp only [requireConsistentMatrix, hmember, hmatrix, lift_ok, ok_bind]

theorem parseDocument_documentFields (outside : Binary64 → UInt32) (checks : QualityChecks)
    (mean maximumViewError : Binary64) :
    parseDocument outside
        (Json.object (documentFields arguments stamp squareSizeM views solution checks mean maximumViewError)).sorted =
      loaded arguments views solution checks := by
  have hmember (name : String) (value : Json)
      (hmem : (name, value) ∈ documentFields arguments stamp squareSizeM views solution checks mean maximumViewError) :
      (Json.object (documentFields arguments stamp squareSizeM views solution checks mean maximumViewError)).sorted.member
        name = .ok value.sorted :=
    Json.member_sorted_of_mem (by simp [documentFields]) hmem
  generalize (Json.object (documentFields arguments stamp squareSizeM views solution checks mean
    maximumViewError)).sorted = document at hmember
  have hversion := hmember "schema_version" (.integer 1) (by simp [documentFields])
  have hmodel := hmember "model" (.text "opencv_pinhole_brown_conrady_5") (by simp [documentFields])
  have hdistortion := hmember "distortion" (.object (distortionFields solution)) (by simp [documentFields])
  have hresult := hmember "result" (.text (if checks.all then "PASS" else "FAIL")) (by simp [documentFields])
  have hquality := hmember "quality" (.object (qualityFields arguments solution checks mean maximumViewError))
    (by simp [documentFields])
  have hcamera := hmember "camera" (.object (cameraFields arguments views)) (by simp [documentFields])
  have hintrinsics := hmember "intrinsics" (.object (intrinsicsFields solution)) (by simp [documentFields])
  rw [parseDocument, requireSupportedSchema_sorted solution outside hversion hmodel hdistortion, ok_bind,
    requireQualityPass_sorted arguments solution hresult hquality]
  simp only [hcamera, hintrinsics, lift_ok, ok_bind, readCalibration_sorted arguments views solution outside hdistortion,
    requireConsistentMatrix_sorted, validateCameraCalibration, loaded]
  cases checks.all <;> cases consistentMatrix solution.cameraMatrix (found arguments views solution) <;>
    cases validCalibration (found arguments views solution) <;> rfl

/-! ### The views -/

/-- The image has the size of the views and shows the whole checkerboard. -/
def usable (imageSize : Option (Nat × Nat)) (image : CalibrationImage κ) : Bool :=
  image.size.isSome && image.size == imageSize && image.corners.isSome

/-- The images that a scan has gone through: the first readable one decides on the size. -/
structure Scanned (images : List (CalibrationImage κ)) (scan : ViewScan κ) : Prop where
  imageSize : scan.imageSize = (images.filterMap (·.size)).head?
  accepted : scan.accepted = images.filter (usable scan.imageSize)
  imagePoints : scan.imagePoints = scan.accepted.filterMap (·.corners)
  counted : scan.accepted.length + scan.rejected.length = images.length

namespace Scanned

variable {images : List (CalibrationImage κ)} {scan : ViewScan κ} {image : CalibrationImage κ}

/-- An image that is not usable is rejected. -/
theorem reject (h : Scanned images scan) (reason : String) {imageSize : Option (Nat × Nat)}
    (hsize : imageSize = ((images ++ [image]).filterMap (·.size)).head?)
    (haccepted : images.filter (usable imageSize) = images.filter (usable scan.imageSize))
    (himage : usable imageSize image = false) :
    Scanned (images ++ [image]) (ViewScan.reject { scan with imageSize := imageSize } image reason) := by
  refine ⟨hsize, ?_, h.imagePoints, ?_⟩
  · show scan.accepted = (images ++ [image]).filter (usable imageSize)
    rw [List.filter_append, List.filter_singleton, himage, haccepted, h.accepted]
    exact (List.append_nil _).symm
  · show scan.accepted.length + (scan.rejected ++ [(image.name, reason)]).length = _
    rw [List.length_append, List.length_append, ← h.counted, ← Nat.add_assoc]
    rfl

/-- As long as there is no size, no image could be read. -/
theorem usable_of_none (h : Scanned images scan) (hnone : scan.imageSize = none) (imageSize : Option (Nat × Nat)) :
    images.filter (usable imageSize) = [] := by
  have hsizes : images.filterMap (·.size) = [] := List.head?_eq_none_iff.mp (h.imageSize.symm.trans hnone)
  refine List.filter_eq_nil_iff.mpr fun image himage => ?_
  rw [usable, List.filterMap_eq_nil_iff.mp hsizes image himage]
  exact Bool.false_ne_true

theorem next (h : Scanned images scan) (image : CalibrationImage κ) :
    Scanned (images ++ [image]) (scan.next image) := by
  rw [ViewScan.next]
  split
  · rename_i hsize
    have hsizes : scan.imageSize = ((images ++ [image]).filterMap (·.size)).head? := by
      rw [List.filterMap_append, List.filterMap_cons, hsize, h.imageSize]
      exact congrArg List.head? (List.append_nil _).symm
    refine h.reject "unreadable image" hsizes rfl ?_
    rw [usable, hsize]
    rfl
  · rename_i currentSize hsize
    -- With this image a size has been found in any case.
    obtain ⟨size, hgetD, hhead, hearlier, hknown⟩ : ∃ size, scan.imageSize.getD currentSize = size ∧
        some size = ((images ++ [image]).filterMap (·.size)).head? ∧
        images.filter (usable (some size)) = images.filter (usable scan.imageSize) ∧
        (currentSize ≠ size → scan.imageSize = some size) := by
      rw [List.filterMap_append, List.filterMap_cons, hsize, List.head?_append, ← h.imageSize]
      cases hnone : scan.imageSize with
      | none =>
          exact ⟨currentSize, rfl, rfl, (h.usable_of_none hnone _).trans (h.usable_of_none hnone _).symm,
            fun hdiffers => absurd rfl hdiffers⟩
      | some size => exact ⟨size, rfl, rfl, rfl, fun _ => rfl⟩
    simp only [hgetD]
    split
    · rename_i hdiffers
      refine h.reject _ ((hknown hdiffers).trans hhead) rfl ?_
      rw [usable, hsize, hknown hdiffers, beq_eq_false_iff_ne.mpr fun heq => hdiffers (Option.some.inj heq)]
      rfl
    · rename_i hsame
      rw [not_ne_iff] at hsame
      split
      · rename_i hcorners
        refine h.reject "complete checkerboard not found" hhead hearlier ?_
        rw [usable, hcorners]
        exact Bool.and_false _
      · rename_i corners hcorners
        have husable : usable (some size) image = true := by
          simp [usable, hsize, hcorners, hsame]
        refine ⟨hhead, ?_, ?_, ?_⟩
        · show scan.accepted ++ [image] = (images ++ [image]).filter (usable (some size))
          rw [List.filter_append, List.filter_singleton, husable, hearlier, h.accepted]
          rfl
        · show scan.imagePoints ++ [corners] = (scan.accepted ++ [image]).filterMap (·.corners)
          rw [List.filterMap_append, List.filterMap_cons, hcorners, h.imagePoints]
          rfl
        · show (scan.accepted ++ [image]).length + scan.rejected.length = _
          rw [List.length_append, List.length_append, ← h.counted]
          exact Nat.add_right_comm _ _ _

end Scanned

theorem detectViews_ok {images : List (CalibrationImage κ)} {squareSizeM : Binary64} {views : CalibrationViews κ}
    (h : detectViews images squareSizeM = .ok views) :
    (images.filterMap (·.size)).head? = some views.imageSize ∧
      views.accepted = images.filter (usable (some views.imageSize)) ∧
      views.imagePoints = views.accepted.filterMap (·.corners) ∧
      views.accepted.length + views.rejected.length = images.length := by
  have hscan (images : List (CalibrationImage κ)) : Scanned images (images.foldl ViewScan.next {}) := by
    induction images using List.reverseRecOn with
    | nil => exact ⟨rfl, rfl, rfl, rfl⟩
    | append_singleton images image ih =>
        rw [List.foldl_append]
        exact ih.next image
  obtain ⟨himageSize, haccepted, himagePoints, hcounted⟩ := hscan images
  rw [detectViews] at h
  split at h
  · cases h
  · generalize images.foldl ViewScan.next {} = scan at h himageSize haccepted himagePoints hcounted
    cases hsize : scan.imageSize with
    | none =>
        simp only [hsize] at h
        cases h
    | some imageSize =>
        simp only [hsize] at h
        cases h
        exact ⟨himageSize.symm.trans hsize, hsize ▸ haccepted, himagePoints, hcounted⟩

/-! ### The gates -/

theorem ge_maximum_iff {limit : ℚ} {first : Binary64} {rest : List Binary64} (hfirst : first.isFinite = true)
    (hrest : ∀ value ∈ rest, value.isFinite = true) :
    (Binary64.finite limit).ge (maximum first rest) = true ↔
      ∀ value ∈ first :: rest, (Binary64.finite limit).ge value = true := by
  induction rest generalizing first with
  | nil =>
      rw [List.forall_mem_singleton]
      rfl
  | cons next rest ih =>
      obtain ⟨hnext, hvalues⟩ := List.forall_mem_cons.mp hrest
      obtain ⟨a, rfl⟩ := (Binary64.isFinite_iff _).mp hfirst
      obtain ⟨b, rfl⟩ := (Binary64.isFinite_iff _).mp hnext
      have hmax : Binary64.max (.finite a) (.finite b) = .finite (max a b) := by
        rw [Binary64.max, Binary64.lt]
        by_cases hlt : a < b
        · rw [if_pos (decide_eq_true hlt), max_eq_right hlt.le]
        · rw [if_neg (by simpa using hlt), max_eq_left (not_lt.mp hlt)]
      rw [maximum, List.foldl_cons, hmax]
      have hfinite : (Binary64.finite (max a b)).isFinite = true := rfl
      have hstep := ih hfinite hvalues
      rw [maximum] at hstep
      rw [hstep, List.forall_mem_cons, List.forall_mem_cons, List.forall_mem_cons, Binary64.ge_finite,
        Binary64.ge_finite, Binary64.ge_finite, decide_eq_true_eq, decide_eq_true_eq, decide_eq_true_eq, max_le_iff,
        and_assoc]

theorem differ_documentFields (checks : QualityChecks) (mean maximumViewError : Binary64) :
    Json.Everywhere Json.NamesDiffer
      (.object (documentFields arguments stamp squareSizeM views solution checks mean maximumViewError)) := by
  have hsensor : Json.Everywhere Json.NamesDiffer (arguments.sensorMode.elim .null .string) := by
    cases arguments.sensorMode with
    | none => exact Json.differ_null
    | some sensorMode => exact Json.differ_string sensorMode
  have hmatrix : Json.Everywhere Json.NamesDiffer (matrixJson solution.cameraMatrix) := by
    simp [matrixJson, Json.differ_array]
  have hcoefficients : Json.Everywhere Json.NamesDiffer
      (.array (solution.distortionCoefficients.toList.map .number)) := by
    simp [Json.differ_array]
  have hnames : Json.Everywhere Json.NamesDiffer (.array (["k1", "k2", "p1", "p2", "k3"].map .text)) := by
    simp [Json.differ_array]
  have haccepted : Json.Everywhere Json.NamesDiffer
      (.array ((views.accepted.zip solution.perViewRmsErrorPx).map fun view => acceptedJson view.1 view.2)) :=
    Json.differ_array.mpr (List.forall_mem_map.mpr fun _ _ => by simp [acceptedJson, Json.differ_object])
  have hrejected : Json.Everywhere Json.NamesDiffer (.array (views.rejected.map rejectedJson)) :=
    Json.differ_array.mpr (List.forall_mem_map.mpr fun _ _ => by simp [rejectedJson, Json.differ_object])
  simp only [List.map_cons, List.map_nil] at hnames
  simp [documentFields, cameraFields, intrinsicsFields, distortionFields, qualityFields, checksFields,
    viewsFields, Json.differ_object, hsensor, hmatrix, hcoefficients, hnames, haccepted, hrejected]

theorem buildDocument_ok {built : Built} (h : buildDocument arguments stamp squareSizeM views solution = .ok built) :
    ∃ first rest mean, solution.perViewRmsErrorPx = first :: rest ∧
      views.accepted.length = solution.perViewRmsErrorPx.length ∧
      built.document = .object (documentFields arguments stamp squareSizeM views solution
        (qualityChecks arguments views solution (maximum first rest)) mean (maximum first rest)) ∧
      built.passed = (qualityChecks arguments views solution (maximum first rest)).all := by
  rw [buildDocument] at h
  split at h
  · cases h
  rename_i haligned
  split at h
  · cases h
  · rename_i first rest herrors
    cases hmean : fmean (first :: rest) with
    | error e =>
        rw [hmean] at h
        cases h
    | ok mean =>
        rw [hmean] at h
        cases h
        exact ⟨first, rest, mean, herrors, not_not.mp haligned, rfl, rfl⟩

/-- A value that the program and JSON can both express: finite doubles, texts in UTF-8 and integers of 64 bits. -/
def Expressible : Json → Prop
  | .integer value => -2 ^ 63 ≤ value ∧ value < 2 ^ 64
  | .number value => ∃ finite, value = .finite finite ∧ Binary64.nearest finite = finite
  | .string text => ValidText text
  | _ => True

instance : DecidablePred Expressible
  | .integer value => inferInstanceAs (Decidable (-2 ^ 63 ≤ value ∧ value < 2 ^ 64))
  | .number value => inferInstanceAs (Decidable (Json.ValueKept Json.decimals (.number value)))
  | .string text => inferInstanceAs (Decidable (ValidText text))
  | .null => .isTrue trivial
  | .boolean _ => .isTrue trivial
  | .array _ => .isTrue trivial
  | .object _ => .isTrue trivial

/-- Decimal numerals keep them all. -/
theorem valueKept_decimals :
    (json : Json) → Json.Everywhere Expressible json → Json.Everywhere (Json.ValueKept Json.decimals) json := by
  refine Json.Everywhere.mono fun json h => ?_
  cases json with
  | integer value => trivial
  | _ => exact h

section Kept

variable {arguments stamp squareSizeM views solution} {checks : QualityChecks} {mean maximumViewError : Binary64}

theorem expressible_of_mem {fields : List (String × Json)} (h : Json.Everywhere Expressible (.object fields))
    (name : String) (value : Json) (hmem : (name, value) ∈ fields) : Json.Everywhere Expressible value :=
  (Json.everywhere_object.mp h).2 (name, value) hmem

/-- The limits are in the document, and so they are finite there. -/
theorem limit_finite (h : Json.Everywhere Expressible
    (.object (documentFields arguments stamp squareSizeM views solution checks mean maximumViewError))) :
    ∃ limit, arguments.maximumViewErrorPx = .finite limit := by
  have hquality := expressible_of_mem h "quality" (.object (qualityFields arguments solution checks mean maximumViewError))
    (by simp [documentFields])
  obtain ⟨limit, hlimit, -⟩ := expressible_of_mem hquality "maximum_allowed_view_error_px"
    (.number arguments.maximumViewErrorPx) (by simp [qualityFields])
  exact ⟨limit, hlimit⟩

theorem errors_finite (haligned : views.accepted.length = solution.perViewRmsErrorPx.length)
    (h : Json.Everywhere Expressible
      (.object (documentFields arguments stamp squareSizeM views solution checks mean maximumViewError))) :
    ∀ error ∈ solution.perViewRmsErrorPx, error.isFinite = true := by
  intro error herror
  have hviews := expressible_of_mem h "views" (.object (viewsFields views solution)) (by simp [documentFields])
  have haccepted := expressible_of_mem hviews "accepted" (.array ((views.accepted.zip solution.perViewRmsErrorPx).map
    fun view => acceptedJson view.1 view.2)) (by simp [viewsFields])
  have hall := List.forall_mem_map.mp (Json.everywhere_array.mp haccepted).2
  obtain ⟨image, hview⟩ : ∃ image, (image, error) ∈ views.accepted.zip solution.perViewRmsErrorPx := by
    have hsnd : (views.accepted.zip solution.perViewRmsErrorPx).map Prod.snd = solution.perViewRmsErrorPx :=
      List.map_snd_zip haligned.ge
    rw [← hsnd] at herror
    obtain ⟨view, hview, rfl⟩ := List.mem_map.mp herror
    exact ⟨view.1, hview⟩
  have hnumber := expressible_of_mem (hall (image, error) hview) "rms_reprojection_error_px" (.number error) (by simp)
  obtain ⟨value, rfl, -⟩ := hnumber
  rfl

end Kept

/-- The steps of a run that writes a document. -/
theorem main_ok {solver : CameraSolver κ} {images : List (CalibrationImage κ)} {written : Written}
    (h : main solver stamp arguments images = .ok written) :
    ∃ views solution built, detectViews images (arguments.squareSizeMm.div 1000) = .ok views ∧
      calibratePoints solver arguments.patternSize (arguments.squareSizeMm.div 1000) views.imagePoints
        views.imageSize = .ok solution ∧
      buildDocument arguments stamp (arguments.squareSizeMm.div 1000) views solution = .ok built ∧
      arguments.minimumViews ≤ views.accepted.length ∧
      written = { document := built.document, exitCode := if built.passed then 0 else 2 } := by
  rw [main] at h
  split at h
  · cases h
  obtain ⟨views, hviews, h⟩ := Attempts.bind_eq_ok.mp h
  split at h
  · cases h
  rename_i hcount
  obtain ⟨solution, hsolution, h⟩ := Attempts.bind_eq_ok.mp h
  obtain ⟨built, hbuilt, h⟩ := Attempts.bind_eq_ok.mp h
  cases h
  exact ⟨views, solution, built, hviews, hsolution, hbuilt, not_lt.mp hcount, rfl⟩

section Loading

variable {arguments stamp}

end Loading

/-- A solver that knows the camera. -/
def plainSolver : CameraSolver Unit where
  calibrateCamera _ _ points _ :=
    some
      { rmsError := .finite (1 / 2)
        cameraMatrix := ⟨[⟨[.finite 500, .zero, .finite 320], rfl⟩, ⟨[.zero, .finite 501, .finite 240], rfl⟩,
          ⟨[.zero, .zero, .finite 1], rfl⟩], rfl⟩
        distortion := List.replicate 5 .zero
        rotations := points.map fun _ => []
        translations := points.map fun _ => [] }
  viewError _ _ _ _ _ _ := .finite (1 / 4)

def plainArguments : CalibrationArguments where
  patternSize := (9, 6)
  squareSizeMm := .finite 25
  cameraModel := literal "test-camera"
  sensorMode := none
  focusMode := literal "manual"
  lensPosition := literal "default"
  minimumViews := 3
  maximumRmsErrorPx := .finite 1
  maximumViewErrorPx := .finite (3 / 2)

/-- Three views, one of them of another size, and one image that cannot be read. -/
def plainImages : List (CalibrationImage Unit) :=
  [⟨literal "broken.jpg", "00", none, none⟩, ⟨literal "1.jpg", "01", some (640, 480), some ()⟩,
    ⟨literal "small.jpg", "02", some (320, 240), some ()⟩, ⟨literal "2.jpg", "03", some (640, 480), some ()⟩,
    ⟨literal "3.jpg", "04", some (640, 480), some ()⟩]

def plainWritten : Option Written := (main plainSolver ⟨"now", "4"⟩ plainArguments plainImages).toOption

/-- `Json::parse` for decimal numerals. -/
def plainParse (text : Bytes) : Except JsonError Json :=
  (Json.parse Json.decimals text).elim (.error .parse) fun document => .ok document

theorem plainParse_text (written : Written) (hnames : Json.Everywhere Json.NamesDiffer written.document)
    (hexpressible : Json.Everywhere Expressible written.document) :
    plainParse (written.text Json.decimals) = .ok written.document.sorted := by
  have hkept := valueKept_decimals written.document hexpressible
  have hwritable := (Json.writable_of_everywhere written.document hnames hkept).sorted
  have hgap : ∀ byte ∈ [(10 : UInt8)], Json.space byte = true := List.forall_mem_singleton.mpr rfl
  rw [plainParse, Written.text, Json.parse_write hwritable hgap]
  rfl

end CalibrationTool

end OnboardAutonomy
