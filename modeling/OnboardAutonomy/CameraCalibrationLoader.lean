import OnboardAutonomy.JsonAccess
import OnboardAutonomy.MavlinkMessage

/-! The camera calibration and its loader. The loader takes a JSON document, the result of a parser that keeps
one value for each name, and checks the schema, the quality gates, the matrix against the scalars and at last
the calibration itself. -/

namespace OnboardAutonomy

def kDistortionCoefficientCount : Nat := 5

structure CameraCalibration where
  cameraModel : Bytes
  imageWidth : UInt32
  imageHeight : UInt32
  focusMode : Bytes
  lensPosition : Bytes
  fxPx : Binary64
  fyPx : Binary64
  cxPx : Binary64
  cyPx : Binary64
  distortion : List.Vector Binary64 kDistortionCoefficientCount

/-- What the loader throws. What a JSON error says goes behind "invalid camera calibration JSON: ". -/
inductive CalibrationError where
  | runtimeError (message : String)
  | invalidArgument (message : String)
  | invalidJson (error : JsonError)

namespace CameraCalibrationLoader

/-- A JSON exception is caught by `from_stream`, which throws its own. -/
instance : MonadLift (Except JsonError) (Except CalibrationError) where
  monadLift value := value.mapError .invalidJson

def throwUnless (condition : Bool) (error : CalibrationError) : Except CalibrationError Unit :=
  if condition then .ok () else .error error

def qualityError : CalibrationError := .runtimeError "camera calibration did not pass its quality gates"
def schemaError : CalibrationError := .runtimeError "unsupported camera calibration schema or model"
def orderError : CalibrationError := .runtimeError "unsupported camera distortion coefficient order"
def matrixError : CalibrationError := .runtimeError "camera matrix disagrees with scalar intrinsics"
def calibrationError : CalibrationError := .invalidArgument "invalid camera calibration"

def kMatrixTolerance : Binary64 := .finite (Binary64.nearest (1 / 10 ^ 9))

def requireQualityPass (document : Json) : Except CalibrationError Unit := do
  let checks ← (← document.member "quality").member "checks"
  throwUnless ((← (← document.member "result").getString) == literal "PASS") qualityError
  throwUnless (← (← checks.member "minimum_views_reached").getBool) qualityError
  throwUnless (← (← checks.member "rms_error_within_limit").getBool) qualityError
  throwUnless (← (← checks.member "every_view_error_within_limit").getBool) qualityError

def expectedOrder : List.Vector Bytes kDistortionCoefficientCount :=
  ⟨["k1", "k2", "p1", "p2", "k3"].map literal, rfl⟩

def requireSupportedSchema (outside : Binary64 → UInt32) (document : Json) : Except CalibrationError Unit := do
  throwUnless ((← (← document.member "schema_version").getUInt32 outside) == 1) schemaError
  throwUnless ((← (← document.member "model").getString) == literal "opencv_pinhole_brown_conrady_5")
    schemaError
  let order ← (← (← document.member "distortion").member "coefficient_order").getArray Json.getString
    kDistortionCoefficientCount
  throwUnless (order == expectedOrder) orderError

/-- The matrix and a number are close in the arithmetic of `double`. -/
def close (left right : Binary64) : Bool := kMatrixTolerance.ge (left.add right.negate).abs

def consistentMatrix (matrix : List.Vector (List.Vector Binary64 3) 3) (calibration : CameraCalibration) :
    Bool :=
  let entry (row column : Fin 3) := (matrix.get row).get column
  close (entry 0 0) calibration.fxPx && close (entry 1 1) calibration.fyPx &&
    close (entry 0 2) calibration.cxPx && close (entry 1 2) calibration.cyPx && close (entry 0 1) .zero &&
    close (entry 1 0) .zero && close (entry 2 0) .zero && close (entry 2 1) .zero &&
    close (entry 2 2) (.finite 1)

def requireConsistentMatrix (intrinsics : Json) (calibration : CameraCalibration) :
    Except CalibrationError Unit := do
  let matrix ← (← intrinsics.member "camera_matrix").getArray (Json.getArray Json.getDouble 3) 3
  throwUnless (consistentMatrix matrix calibration) matrixError

/-- What `validate_camera_calibration` lets pass. -/
def validCalibration (calibration : CameraCalibration) : Bool :=
  let finiteIntrinsics := calibration.fxPx.isFinite && calibration.fyPx.isFinite &&
    calibration.cxPx.isFinite && calibration.cyPx.isFinite
  let finiteDistortion := calibration.distortion.toList.all Binary64.isFinite
  !(calibration.cameraModel.isEmpty || calibration.focusMode.isEmpty || calibration.lensPosition.isEmpty ||
    calibration.imageWidth == 0 || calibration.imageHeight == 0 || !finiteIntrinsics || !finiteDistortion ||
    Binary64.zero.ge calibration.fxPx || Binary64.zero.ge calibration.fyPx || calibration.cxPx.lt .zero ||
    calibration.cyPx.lt .zero || calibration.cxPx.ge (.ofInt calibration.imageWidth.toNat) ||
    calibration.cyPx.ge (.ofInt calibration.imageHeight.toNat))

def validateCameraCalibration (calibration : CameraCalibration) : Except CalibrationError Unit :=
  throwUnless (validCalibration calibration) calibrationError

/-- The calibration in a document, before it is checked. -/
def readCalibration (outside : Binary64 → UInt32) (document camera intrinsics : Json) :
    Except JsonError CameraCalibration := do
  .ok
    { cameraModel := ← (← camera.member "model").getString
      imageWidth := ← (← camera.member "width").getUInt32 outside
      imageHeight := ← (← camera.member "height").getUInt32 outside
      focusMode := ← (← camera.member "focus_mode").getString
      lensPosition := ← (← camera.member "lens_position").getString
      fxPx := ← (← intrinsics.member "fx_px").getDouble
      fyPx := ← (← intrinsics.member "fy_px").getDouble
      cxPx := ← (← intrinsics.member "cx_px").getDouble
      cyPx := ← (← intrinsics.member "cy_px").getDouble
      distortion := ← (← (← document.member "distortion").member "coefficients").getArray Json.getDouble
        kDistortionCoefficientCount }

def parseDocument (outside : Binary64 → UInt32) (document : Json) :
    Except CalibrationError CameraCalibration := do
  requireSupportedSchema outside document
  requireQualityPass document
  let camera ← document.member "camera"
  let intrinsics ← document.member "intrinsics"
  let calibration ← readCalibration outside document camera intrinsics
  requireConsistentMatrix intrinsics calibration
  validateCameraCalibration calibration
  .ok calibration

/-- `from_stream`, given what `Json::parse` makes of the stream. -/
def fromStream (outside : Binary64 → UInt32) (parsed : Except JsonError Json) :
    Except CalibrationError CameraCalibration := do
  parseDocument outside (← parsed)

/-! ### What has been accepted -/

theorem lift_eq_ok {α : Type} {x : Except JsonError α} {a : α} :
    (liftM x : Except CalibrationError α) = .ok a ↔ x = .ok a := by
  cases x with
  | error e => exact ⟨fun h => (by cases h), fun h => (by cases h)⟩
  | ok a' => exact ⟨fun h => (by cases h; rfl), fun h => (by cases h; rfl)⟩

theorem throwUnless_eq_ok {condition : Bool} {error : CalibrationError} {u : Unit} :
    throwUnless condition error = .ok u ↔ condition = true := by
  cases condition <;> simp [throwUnless]

/-- The loader reads the document by these names. -/
structure Read (outside : Binary64 → UInt32) (document : Json) (c : CameraCalibration) : Prop where
  schema : document.Holds ["schema_version"] fun value => value.getUInt32 outside = .ok 1
  model : document.Holds ["model"] (· = .text "opencv_pinhole_brown_conrady_5")
  order : document.Holds ["distortion", "coefficient_order"] fun value =>
    value.getArray Json.getString kDistortionCoefficientCount = .ok expectedOrder
  result : document.Holds ["result"] (· = .text "PASS")
  checks : ∀ name ∈ ["minimum_views_reached", "rms_error_within_limit", "every_view_error_within_limit"],
    document.Holds ["quality", "checks", name] (· = .boolean true)
  width : document.Holds ["camera", "width"] fun value => value.getUInt32 outside = .ok c.imageWidth
  height : document.Holds ["camera", "height"] fun value => value.getUInt32 outside = .ok c.imageHeight
  texts : ∀ field ∈ [("model", c.cameraModel), ("focus_mode", c.focusMode), ("lens_position", c.lensPosition)],
    document.Holds ["camera", field.1] (· = .string field.2)
  scalars : ∀ field ∈ [("fx_px", c.fxPx), ("fy_px", c.fyPx), ("cx_px", c.cxPx), ("cy_px", c.cyPx)],
    document.Holds ["intrinsics", field.1] fun value => value.getDouble = .ok field.2
  coefficients : document.Holds ["distortion", "coefficients"] fun value =>
    value.getArray Json.getDouble kDistortionCoefficientCount = .ok c.distortion
  matrix : document.Holds ["intrinsics", "camera_matrix"] fun value =>
    ∃ matrix, value.getArray (Json.getArray Json.getDouble 3) 3 = .ok matrix ∧ consistentMatrix matrix c = true
  valid : validCalibration c = true

section Reading

variable {outside : Binary64 → UInt32} {document : Json} {c : CameraCalibration}

theorem requireSupportedSchema_ok (h : requireSupportedSchema outside document = .ok ()) :
    document.Holds ["schema_version"] (fun value => value.getUInt32 outside = .ok 1) ∧
      document.Holds ["model"] (· = .text "opencv_pinhole_brown_conrady_5") ∧
      document.Holds ["distortion", "coefficient_order"] fun value =>
        value.getArray Json.getString kDistortionCoefficientCount = .ok expectedOrder := by
  simp only [requireSupportedSchema, Attempts.bind_eq_ok, lift_eq_ok, throwUnless_eq_ok, beq_iff_eq,
    Json.getString_eq_ok] at h
  obtain ⟨schema, hschema, version, hversion, -, rfl, model, hmodel, text, rfl, -, rfl, distortion, hdistortion,
    order, horder, names, hnames, rfl⟩ := h
  exact ⟨.behind hschema (.here hversion), .behind hmodel (.here rfl),
    .behind hdistortion (.behind horder (.here hnames))⟩

theorem requireQualityPass_ok (h : requireQualityPass document = .ok ()) :
    document.Holds ["result"] (· = .text "PASS") ∧
      ∀ name ∈ ["minimum_views_reached", "rms_error_within_limit", "every_view_error_within_limit"],
        document.Holds ["quality", "checks", name] (· = .boolean true) := by
  simp only [requireQualityPass, Attempts.bind_eq_ok, lift_eq_ok, throwUnless_eq_ok, beq_iff_eq,
    Json.getString_eq_ok, Json.getBool_eq_ok] at h
  obtain ⟨quality, hquality, checks, hchecks, result, hresult, text, rfl, -, rfl, views, hviews, _, rfl, -, rfl,
    rms, hrms, _, rfl, -, rfl, each, heach, _, rfl, rfl⟩ := h
  refine ⟨.behind hresult (.here rfl), ?_⟩
  simp only [List.forall_mem_cons, List.not_mem_nil, false_implies, implies_true, and_true]
  exact ⟨.behind hquality (.behind hchecks (.behind hviews (.here rfl))),
    .behind hquality (.behind hchecks (.behind hrms (.here rfl))),
    .behind hquality (.behind hchecks (.behind heach (.here rfl)))⟩

/-- What the calibration in a document is read from. -/
structure ReadFrom (outside : Binary64 → UInt32) (document camera intrinsics : Json) (c : CameraCalibration) :
    Prop where
  width : camera.Holds ["width"] fun value => value.getUInt32 outside = .ok c.imageWidth
  height : camera.Holds ["height"] fun value => value.getUInt32 outside = .ok c.imageHeight
  texts : ∀ field ∈ [("model", c.cameraModel), ("focus_mode", c.focusMode), ("lens_position", c.lensPosition)],
    camera.Holds [field.1] (· = .string field.2)
  scalars : ∀ field ∈ [("fx_px", c.fxPx), ("fy_px", c.fyPx), ("cx_px", c.cxPx), ("cy_px", c.cyPx)],
    intrinsics.Holds [field.1] fun value => value.getDouble = .ok field.2
  coefficients : document.Holds ["distortion", "coefficients"] fun value =>
    value.getArray Json.getDouble kDistortionCoefficientCount = .ok c.distortion

theorem readCalibration_ok {camera intrinsics : Json}
    (h : readCalibration outside document camera intrinsics = .ok c) :
    ReadFrom outside document camera intrinsics c := by
  simp only [readCalibration, Attempts.bind_eq_ok, Json.getString_eq_ok, Except.ok.injEq] at h
  obtain ⟨model, hmodel, _, hmodel', width, hwidth, _, hwidth', height, hheight, _, hheight', focus, hfocus, _,
    hfocus', lens, hlens, _, hlens', fx, hfx, _, hfx', fy, hfy, _, hfy', cx, hcx, _, hcx', cy, hcy, _, hcy',
    distortion, hdistortion, coefficients, hcoefficients, _, hcoefficients', rfl⟩ := h
  exact
    { width := .behind hwidth (.here hwidth')
      height := .behind hheight (.here hheight')
      texts := by
        simp only [List.forall_mem_cons, List.not_mem_nil, false_implies, implies_true, and_true]
        exact ⟨.behind hmodel (.here hmodel'), .behind hfocus (.here hfocus'), .behind hlens (.here hlens')⟩
      scalars := by
        simp only [List.forall_mem_cons, List.not_mem_nil, false_implies, implies_true, and_true]
        exact ⟨.behind hfx (.here hfx'), .behind hfy (.here hfy'), .behind hcx (.here hcx'),
          .behind hcy (.here hcy')⟩
      coefficients := .behind hdistortion (.behind hcoefficients (.here hcoefficients')) }

theorem parseDocument_read (h : parseDocument outside document = .ok c) : Read outside document c := by
  simp only [parseDocument, requireConsistentMatrix, validateCameraCalibration, Attempts.bind_eq_ok, lift_eq_ok,
    throwUnless_eq_ok, Except.ok.injEq] at h
  obtain ⟨_, hsupported, _, hquality, camera, hcamera, intrinsics, hintrinsics, _, hcalibration, -,
    ⟨matrix, hmatrix, entries, hentries, hconsistent⟩, -, hvalid, rfl⟩ := h
  obtain ⟨hschema, hmodel, horder⟩ := requireSupportedSchema_ok hsupported
  obtain ⟨hresult, hchecks⟩ := requireQualityPass_ok hquality
  have hread := readCalibration_ok hcalibration
  exact
    { schema := hschema
      model := hmodel
      order := horder
      result := hresult
      checks := hchecks
      width := .behind hcamera hread.width
      height := .behind hcamera hread.height
      texts := fun field hfield => .behind hcamera (hread.texts field hfield)
      scalars := fun field hfield => .behind hintrinsics (hread.scalars field hfield)
      coefficients := hread.coefficients
      matrix := .behind hintrinsics (.behind hmatrix (.here ⟨entries, hentries, hconsistent⟩))
      valid := hvalid }

end Reading

/-! ### What is supported -/

/-- Two numbers whose difference as a `double` is within 1e-9, which it then is up to that rounding. -/
def Agrees (x y : Binary64) : Prop :=
  ∃ a b : ℚ, x = .finite a ∧ y = .finite b ∧ |Binary64.nearest (a - b)| ≤ Binary64.nearest (1 / 10 ^ 9) ∧
    |a - b| ≤ (1 + 1 / 2 ^ 51) / 10 ^ 9

/-- The matrix of a pinhole camera. -/
def pinhole (c : CameraCalibration) : List (List Binary64) :=
  [[c.fxPx, .zero, c.cxPx], [.zero, c.fyPx, c.cyPx], [.zero, .zero, .finite 1]]

/-- An entry of the matrix in the document. -/
def EntryAgrees (entry : Json) (value : Binary64) : Prop := ∃ x, entry.getDouble = .ok x ∧ Agrees x value

structure InRange (c : CameraCalibration) (fx fy cx cy : ℚ) : Prop where
  fx_eq : c.fxPx = .finite fx
  fy_eq : c.fyPx = .finite fy
  cx_eq : c.cxPx = .finite cx
  cy_eq : c.cyPx = .finite cy
  fx_pos : 0 < fx
  fy_pos : 0 < fy
  cx_nonneg : 0 ≤ cx
  cx_lt : cx < c.imageWidth.toNat
  cy_nonneg : 0 ≤ cy
  cy_lt : cy < c.imageHeight.toNat

/-- What holds of every calibration and the document it was read from. -/
structure Checked (document : Json) (c : CameraCalibration) : Prop where
  scalars : ∀ field ∈ [("fx_px", c.fxPx), ("fy_px", c.fyPx), ("cx_px", c.cxPx), ("cy_px", c.cyPx)],
    document.Holds ["intrinsics", field.1] fun value => value.getDouble = .ok field.2
  in_range : ∃ fx fy cx cy, InRange c fx fy cx cy
  coefficients : document.Holds ["distortion", "coefficients"]
    (Json.BeginsWith (fun element value => element.getDouble = .ok value) c.distortion.toList)
  finite : ∀ value ∈ c.distortion.toList, value.isFinite = true
  matrix : document.Holds ["intrinsics", "camera_matrix"]
    (Json.BeginsWith (fun row values => row.BeginsWith EntryAgrees values) (pinhole c))
  order : document.Holds ["distortion", "coefficient_order"]
    (Json.BeginsWith (fun element name => element = .text name) ["k1", "k2", "p1", "p2", "k3"])
  result : document.Holds ["result"] (· = .text "PASS")
  checks : ∀ name ∈ ["minimum_views_reached", "rms_error_within_limit", "every_view_error_within_limit"],
    document.Holds ["quality", "checks", name] (· = .boolean true)

/-- The document is a supported one, and the calibration is what it says. -/
structure Supported (document : Json) (c : CameraCalibration) : Prop extends Checked document c where
  schema_one : document.Holds ["schema_version"] (Json.IsNumber 1)
  width_eq : document.Holds ["camera", "width"] (Json.IsNumber c.imageWidth.toNat)
  height_eq : document.Holds ["camera", "height"] (Json.IsNumber c.imageHeight.toNat)
  coefficients_eq : document.Holds ["distortion", "coefficients"]
    (Json.Contains (fun element value => element.getDouble = .ok value) c.distortion.toList)
  matrix_eq : document.Holds ["intrinsics", "camera_matrix"]
    (Json.Contains (fun row values => row.Contains EntryAgrees values) (pinhole c))
  order_eq : document.Holds ["distortion", "coefficient_order"]
    (Json.Contains (fun element name => element = .text name) ["k1", "k2", "p1", "p2", "k3"])

/-- The conversions leave nothing of the document out. -/
structure ReadWhole (document : Json) : Prop where
  schema : document.Holds ["schema_version"] Json.IsUInt32
  width : document.Holds ["camera", "width"] Json.IsUInt32
  height : document.Holds ["camera", "height"] Json.IsUInt32
  coefficients : document.Holds ["distortion", "coefficients"] (Json.HasLength 5)
  matrix : document.Holds ["intrinsics", "camera_matrix"] fun value =>
    ∃ rows, value = .array rows ∧ rows.length = 3 ∧ ∀ row ∈ rows, row.HasLength 3
  order : document.Holds ["distortion", "coefficient_order"] (Json.HasLength 5)

theorem agrees_of_close {x y : Binary64} (h : close x y = true) : Agrees x y := by
  cases x with
  | finite a =>
      cases y with
      | finite b =>
          have hdouble : |Binary64.nearest (a - b)| ≤ Binary64.nearest (1 / 10 ^ 9) := by
            simpa only [close, kMatrixTolerance, Binary64.negate, Binary64.add, Binary64.abs,
              Binary64.ge_finite, decide_eq_true_eq, ← sub_eq_add_neg] using h
          refine ⟨a, b, rfl, rfl, hdouble, ?_⟩
          have hround := Binary64.abs_nearest_sub_le (a - b)
          rw [abs_sub_comm] at hround
          have htriangle := abs_sub_abs_le_abs_sub (a - b) (Binary64.nearest (a - b))
          have htolerance := (abs_le.mp (Binary64.abs_nearest_sub_le (1 / 10 ^ 9))).2
          rw [abs_of_pos (by norm_num)] at htolerance
          linarith
      | _ => cases h
  | _ => cases y <;> cases h

section Supported

variable {outside : Binary64 → UInt32} {document : Json} {c : CameraCalibration}

theorem ofInt_toNat (n : UInt32) : Binary64.ofInt n.toNat = .finite n.toNat := by
  have hlt := n.toNat_lt
  have hnearest : Binary64.nearest ((n.toNat : ℤ) : ℚ) = n.toNat := by
    rw [Int.cast_natCast, Binary64.nearest_natCast (by omega)]
  rw [Binary64.ofInt, hnearest]

theorem inRange_of_valid (h : validCalibration c = true) : ∃ fx fy cx cy, InRange c fx fy cx cy := by
  simp only [validCalibration, Bool.not_eq_true', Bool.or_eq_false_iff, Bool.not_eq_false',
    Bool.and_eq_true] at h
  obtain ⟨⟨⟨⟨⟨⟨⟨⟨-, ⟨⟨hfx, hfy⟩, hcx⟩, hcy⟩, -⟩, hfxpos⟩, hfypos⟩, hcxlow⟩, hcylow⟩, hcxhigh⟩, hcyhigh⟩ := h
  obtain ⟨fx, hfx⟩ := (Binary64.isFinite_iff _).mp hfx
  obtain ⟨fy, hfy⟩ := (Binary64.isFinite_iff _).mp hfy
  obtain ⟨cx, hcx⟩ := (Binary64.isFinite_iff _).mp hcx
  obtain ⟨cy, hcy⟩ := (Binary64.isFinite_iff _).mp hcy
  rw [hfx, Binary64.zero, Binary64.ge_finite, decide_eq_false_iff_not, not_le] at hfxpos
  rw [hfy, Binary64.zero, Binary64.ge_finite, decide_eq_false_iff_not, not_le] at hfypos
  rw [hcx, Binary64.zero, Binary64.lt_finite, decide_eq_false_iff_not, not_lt] at hcxlow
  rw [hcy, Binary64.zero, Binary64.lt_finite, decide_eq_false_iff_not, not_lt] at hcylow
  rw [hcx, ofInt_toNat, Binary64.ge_finite, decide_eq_false_iff_not, not_le] at hcxhigh
  rw [hcy, ofInt_toNat, Binary64.ge_finite, decide_eq_false_iff_not, not_le] at hcyhigh
  exact ⟨fx, fy, cx, cy, hfx, hfy, hcx, hcy, hfxpos, hfypos, hcxlow, hcxhigh, hcylow, hcyhigh⟩

theorem finite_of_valid (h : validCalibration c = true) :
    ∀ value ∈ c.distortion.toList, value.isFinite = true := by
  simp only [validCalibration, Bool.not_eq_true', Bool.or_eq_false_iff, Bool.not_eq_false',
    List.all_eq_true] at h
  obtain ⟨⟨⟨⟨⟨⟨⟨-, hfinite⟩, -⟩, -⟩, -⟩, -⟩, -⟩, -⟩ := h
  exact hfinite

theorem exists_eq_triple {α : Type} (v : List.Vector α 3) : ∃ x y z, v = x ::ᵥ y ::ᵥ z ::ᵥ .nil := by
  obtain ⟨x, v, rfl⟩ := v.exists_eq_cons
  obtain ⟨y, v, rfl⟩ := v.exists_eq_cons
  obtain ⟨z, v, rfl⟩ := v.exists_eq_cons
  rw [v.eq_nil]
  exact ⟨x, y, z, rfl⟩

/-- The entries of a consistent matrix, row by row. -/
theorem close_of_consistent {matrix : List.Vector (List.Vector Binary64 3) 3}
    (h : consistentMatrix matrix c = true) :
    List.Forall₂ (fun row values => List.Forall₂ (fun x y => close x y = true) row.toList values) matrix.toList
      (pinhole c) := by
  obtain ⟨first, second, third, rfl⟩ := exists_eq_triple matrix
  obtain ⟨m00, m01, m02, rfl⟩ := exists_eq_triple first
  obtain ⟨m10, m11, m12, rfl⟩ := exists_eq_triple second
  obtain ⟨m20, m21, m22, rfl⟩ := exists_eq_triple third
  simp only [consistentMatrix, Bool.and_eq_true] at h
  obtain ⟨⟨⟨⟨⟨⟨⟨⟨h00, h11⟩, h02⟩, h12⟩, h01⟩, h10⟩, h20⟩, h21⟩, h22⟩ := h
  exact .cons (.cons h00 (.cons h01 (.cons h02 .nil)))
    (.cons (.cons h10 (.cons h11 (.cons h12 .nil)))
      (.cons (.cons h20 (.cons h21 (.cons h22 .nil))) .nil))

theorem matrix_of_read {value : Json} {matrix : List.Vector (List.Vector Binary64 3) 3}
    (h : value.getArray (Json.getArray Json.getDouble 3) 3 = .ok matrix)
    (hconsistent : consistentMatrix matrix c = true) :
    value.BeginsWith (fun row values => row.BeginsWith EntryAgrees values) (pinhole c) := by
  refine (Json.getArray_eq_ok h).trans (close_of_consistent hconsistent) fun row read values hread hclose => ?_
  refine (Json.getArray_eq_ok hread).trans hclose fun entry x y hx hxy => ?_
  exact ⟨x, hx, agrees_of_close hxy⟩

theorem Read.checked (h : Read outside document c) : Checked document c where
  scalars := h.scalars
  in_range := inRange_of_valid h.valid
  coefficients := h.coefficients.imp fun value hvalue => Json.getArray_eq_ok hvalue
  finite := finite_of_valid h.valid
  matrix := h.matrix.imp fun value ⟨matrix, hmatrix, hconsistent⟩ => matrix_of_read hmatrix hconsistent
  order := h.order.imp fun value hvalue => by
    have hnames : List.Forall₂ (fun bytes name => bytes = literal name) expectedOrder.toList
        ["k1", "k2", "p1", "p2", "k3"] := by
      exact List.forall₂_map_left_iff.mpr (List.forall₂_same.mpr fun _ _ => rfl)
    refine (Json.getArray_eq_ok hvalue).trans hnames fun element bytes name hread hbytes => ?_
    rw [Json.getString_eq_ok.mp hread, hbytes]
    rfl
  result := h.result
  checks := h.checks

theorem contains_rows_iff {elements : List Json} {rows : List (List Binary64)}
    (h : List.Forall₂ (fun row values => row.BeginsWith EntryAgrees values) elements rows)
    (hrows : ∀ row ∈ rows, row.length = 3) :
    List.Forall₂ (fun row values => row.Contains EntryAgrees values) elements rows ↔
      ∀ row ∈ elements, row.HasLength 3 := by
  induction h with
  | nil => exact ⟨fun _ => List.forall_mem_nil _, fun _ => .nil⟩
  | cons hrow _ ih =>
      obtain ⟨hlength, hrows⟩ := List.forall_mem_cons.mp hrows
      rw [List.forall₂_cons, List.forall_mem_cons, ih hrows, hrow.contains_iff, hlength]

/-- A matrix that is read whole has no entries but those that have been checked. -/
theorem contains_matrix_iff {value : Json} {rows : List (List Binary64)}
    (h : value.BeginsWith (fun row values => row.BeginsWith EntryAgrees values) rows)
    (hrows : ∀ row ∈ rows, row.length = 3) :
    value.Contains (fun row values => row.Contains EntryAgrees values) rows ↔
      ∃ elements, value = .array elements ∧ elements.length = rows.length ∧
        ∀ row ∈ elements, row.HasLength 3 := by
  obtain ⟨elements, rest, rfl, hall⟩ := h
  have hnone : ∀ all : List Json, .array (elements ++ rest) = Json.array all → all.length = rows.length →
      elements = all := by
    intro all heq hlength
    cases heq
    rw [List.length_append, hall.length_eq] at hlength
    rw [List.eq_nil_of_length_eq_zero (l := rest) (by omega), List.append_nil]
  constructor
  · rintro ⟨all, heq, hcontains⟩
    have hall' := hnone all heq hcontains.length_eq
    rw [← hall'] at hcontains heq
    exact ⟨elements, heq, hall.length_eq, (contains_rows_iff hall hrows).mp hcontains⟩
  · rintro ⟨all, heq, hlength, hwhole⟩
    have hall' := hnone all heq hlength
    rw [← hall'] at hwhole heq
    exact ⟨elements, heq, (contains_rows_iff hall hrows).mpr hwhole⟩

theorem Read.supported_iff (h : Read outside document c) : Supported document c ↔ ReadWhole document := by
  have hchecked := h.checked
  have hone : ((1 : UInt32).toNat : ℚ) = 1 := Nat.cast_one
  have hschema := h.schema.iff fun value hvalue => hone ▸ Json.isNumber_iff hvalue
  have hwidth := h.width.iff fun value hvalue => Json.isNumber_iff hvalue
  have hheight := h.height.iff fun value hvalue => Json.isNumber_iff hvalue
  have hcoefficients := hchecked.coefficients.iff fun value hvalue => hvalue.contains_iff
  rw [c.distortion.toList_length] at hcoefficients
  have horder := hchecked.order.iff fun value hvalue => hvalue.contains_iff
  have hmatrix := hchecked.matrix.iff fun value hvalue => contains_matrix_iff hvalue (by simp [pinhole])
  constructor
  · intro hs
    exact ⟨hschema.mp hs.schema_one, hwidth.mp hs.width_eq, hheight.mp hs.height_eq,
      hcoefficients.mp hs.coefficients_eq, hmatrix.mp hs.matrix_eq,
      horder.mp hs.order_eq⟩
  · intro hw
    exact
      { toChecked := hchecked
        schema_one := hschema.mpr hw.schema
        width_eq := hwidth.mpr hw.width
        height_eq := hheight.mpr hw.height
        coefficients_eq := hcoefficients.mpr hw.coefficients
        matrix_eq := hmatrix.mpr hw.matrix
        order_eq := horder.mpr hw.order }

/-- Every document that is accepted has been checked, and it is a supported one, read as it stands, exactly when
the conversions leave nothing of it out. -/
theorem accepted_supported_iff (h : fromStream outside (.ok document) = .ok c) :
    Checked document c ∧ (Supported document c ↔ ReadWhole document) := by
  have hread := parseDocument_read h
  exact ⟨hread.checked, hread.supported_iff⟩

end Supported

/-- A document whose calibration is a usable one, but for its schema. -/
def calibrationDocument (schemaVersion : Json) : Json :=
  .object
    [("schema_version", schemaVersion),
      ("result", .text "PASS"),
      ("model", .text "opencv_pinhole_brown_conrady_5"),
      ("camera", .object
        [("model", .text "test-camera"),
          ("width", .integer 640),
          ("height", .integer 480),
          ("focus_mode", .text "manual"),
          ("lens_position", .text "default")]),
      ("intrinsics", .object
        [("fx_px", .integer 500),
          ("fy_px", .integer 501),
          ("cx_px", .integer 320),
          ("cy_px", .integer 240),
          ("camera_matrix", .array
            [.array [.integer 500, .integer 0, .integer 320],
              .array [.integer 0, .integer 501, .integer 240],
              .array [.integer 0, .integer 0, .integer 1]])]),
      ("distortion", .object
        [("coefficient_order", .array [.text "k1", .text "k2", .text "p1", .text "p2", .text "k3"]),
          ("coefficients", .array [.integer 0, .integer 0, .integer 0, .integer 0, .integer 0])]),
      ("quality", .object
        [("checks", .object
          [("minimum_views_reached", .boolean true),
            ("rms_error_within_limit", .boolean true),
            ("every_view_error_within_limit", .boolean true)])])]

/-- The version of the schema is 2^32 + 1, and is read as 1. -/
theorem wrappedSchema_accepted :
    ∃ c, fromStream (fun _ => 0) (.ok (calibrationDocument (.integer 4294967297))) = .ok c ∧
      ¬Supported (calibrationDocument (.integer 4294967297)) c := by
  have haccepted :
      (fromStream (fun _ => 0) (.ok (calibrationDocument (.integer 4294967297)))).toOption.isSome = true := by
    decide +kernel
  cases hresult : fromStream (fun _ => 0) (.ok (calibrationDocument (.integer 4294967297))) with
  | error e =>
      rw [hresult] at haccepted
      cases haccepted
  | ok c =>
      refine ⟨c, rfl, fun hsupported => ?_⟩
      obtain ⟨value, hvalue, hnumber⟩ := hsupported.schema_one
      cases hvalue
      rcases hnumber with ⟨n, hn, hone⟩ | hn
      · cases hn
        norm_num at hone
      · cases hn

/-- The document of a calibration that is supported. -/
theorem plainDocument_supported :
    ∃ c, fromStream (fun _ => 0) (.ok (calibrationDocument (.integer 1))) = .ok c ∧
      Supported (calibrationDocument (.integer 1)) c := by
  have haccepted :
      (fromStream (fun _ => 0) (.ok (calibrationDocument (.integer 1)))).toOption.isSome = true := by
    decide +kernel
  cases hresult : fromStream (fun _ => 0) (.ok (calibrationDocument (.integer 1))) with
  | error e =>
      rw [hresult] at haccepted
      cases haccepted
  | ok c =>
      refine ⟨c, rfl, (accepted_supported_iff hresult).2.mpr ?_⟩
      have hnumber : ∀ n : Nat, n < 2 ^ 32 → Json.IsUInt32 (.integer n) :=
        fun n hn => ⟨n, hn, Or.inl ⟨n, rfl, Int.cast_natCast n⟩⟩
      refine ⟨⟨_, rfl, hnumber 1 (by norm_num)⟩, ⟨_, rfl, hnumber 640 (by norm_num)⟩,
        ⟨_, rfl, hnumber 480 (by norm_num)⟩, ⟨_, rfl, _, rfl, rfl⟩, ⟨_, rfl, _, rfl, rfl, ?_⟩,
        ⟨_, rfl, _, rfl, rfl⟩⟩
      simp only [List.forall_mem_cons, List.not_mem_nil, false_implies, implies_true, and_true]
      exact ⟨⟨_, rfl, rfl⟩, ⟨_, rfl, rfl⟩, ⟨_, rfl, rfl⟩⟩

end CameraCalibrationLoader

end OnboardAutonomy
