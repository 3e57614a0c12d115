import OnboardAutonomy.CameraCalibrationLoader
import OnboardAutonomy.JsonLayouts

/-! `calibrate_camera.py`, which writes the documents that the calibration loader reads. What OpenCV finds in the
images and what it makes of that is a parameter. -/

namespace OnboardAutonomy

open Json

/-- Why the tool gives up. The texts of OpenCV's own errors are left out. -/
inductive ToolError where
  | valueError (message : String)
  | runtimeError (message : String)
  | openCv
  deriving DecidableEq

/-- An image file: `imread` may fail, and so may the search for the checkerboard, which finds corners. -/
structure CalibrationImage (κ : Type) where
  name : Bytes
  sha256 : String
  size : Option (Nat × Nat)
  corners : Option κ

structure CalibrationViews (κ : Type) where
  imageSize : Nat × Nat
  imagePoints : List κ
  accepted : List (CalibrationImage κ)
  rejected : List (Bytes × String)

abbrev Matrix3 := List.Vector (List.Vector Binary64 3) 3

/-- A rotation or a translation of a view. -/
abbrev ViewVector := List Binary64

structure CalibrationSolution where
  cameraMatrix : Matrix3
  distortionCoefficients : List.Vector Binary64 kDistortionCoefficientCount
  rmsErrorPx : Binary64
  perViewRmsErrorPx : List Binary64

/-- What `calibrateCamera` returns. -/
structure Calibrated where
  rmsError : Binary64
  cameraMatrix : Matrix3
  distortion : List Binary64
  rotations : List ViewVector
  translations : List ViewVector

/-- `calibrateCamera` for a pattern, and the distance of what was observed in a view from its projection. -/
structure CameraSolver (κ : Type) where
  calibrateCamera : Nat × Nat → Binary64 → List κ → Nat × Nat → Option Calibrated
  viewError : Nat × Nat → Binary64 → Calibrated → κ → ViewVector → ViewVector → Binary64

/-- The command line. -/
structure CalibrationArguments where
  patternSize : Nat × Nat
  squareSizeMm : Binary64
  cameraModel : Bytes
  sensorMode : Option Bytes
  focusMode : Bytes
  lensPosition : Bytes
  minimumViews : Int
  maximumRmsErrorPx : Binary64
  maximumViewErrorPx : Binary64

/-- The time and the version that go into a document. -/
structure ToolStamp where
  createdAtUtc : String
  openCvVersion : String

namespace CalibrationTool

variable {κ : Type}

/-- The loop of `detect_views` between two images. -/
structure ViewScan (κ : Type) where
  imageSize : Option (Nat × Nat) := none
  imagePoints : List κ := []
  accepted : List (CalibrationImage κ) := []
  rejected : List (Bytes × String) := []

def resolution (size : Nat × Nat) : String := toString size.1 ++ "x" ++ toString size.2

def ViewScan.reject (scan : ViewScan κ) (image : CalibrationImage κ) (reason : String) : ViewScan κ :=
  { scan with rejected := scan.rejected ++ [(image.name, reason)] }

def ViewScan.next (scan : ViewScan κ) (image : CalibrationImage κ) : ViewScan κ :=
  match image.size with
  | none => scan.reject image "unreadable image"
  | some currentSize =>
      let imageSize := scan.imageSize.getD currentSize
      if currentSize ≠ imageSize then
        scan.reject image ("resolution " ++ resolution currentSize ++ " does not match " ++ resolution imageSize)
      else
        -- The size is that of the first image that can be read, with or without a checkerboard.
        let scan := { scan with imageSize := some imageSize }
        match image.corners with
        | none => scan.reject image "complete checkerboard not found"
        | some corners =>
            { scan with
              imagePoints := scan.imagePoints ++ [corners]
              accepted := scan.accepted ++ [image] }

/-- The check of `checkerboard_object_points`. -/
def validSquareSize (squareSizeM : Binary64) : Bool := squareSizeM.isFinite && Binary64.zero.lt squareSizeM

def detectViews (images : List (CalibrationImage κ)) (squareSizeM : Binary64) :
    Except ToolError (CalibrationViews κ) :=
  if !validSquareSize squareSizeM then .error (.valueError "square size must be a positive finite value")
  else
    let scan := images.foldl ViewScan.next {}
    match scan.imageSize with
    | none => .error (.valueError "none of the calibration images could be decoded")
    | some imageSize =>
        .ok
          { imageSize := imageSize
            imagePoints := scan.imagePoints
            accepted := scan.accepted
            rejected := scan.rejected }

def calibratePoints (solver : CameraSolver κ) (patternSize : Nat × Nat) (squareSizeM : Binary64)
    (imagePoints : List κ) (imageSize : Nat × Nat) : Except ToolError CalibrationSolution :=
  if imagePoints.isEmpty then
    .error (.valueError "object and image point views must be non-empty and aligned")
  else if imageSize.1 = 0 ∨ imageSize.2 = 0 then .error (.valueError "image size must be positive")
  else
    match solver.calibrateCamera patternSize squareSizeM imagePoints imageSize with
    | none => .error .openCv
    | some calibrated =>
        if h : calibrated.distortion.length = kDistortionCoefficientCount then
          if calibrated.rotations.length = imagePoints.length ∧
              calibrated.translations.length = imagePoints.length then
            .ok
              { cameraMatrix := calibrated.cameraMatrix
                distortionCoefficients := ⟨calibrated.distortion, h⟩
                rmsErrorPx := calibrated.rmsError
                perViewRmsErrorPx :=
                  (imagePoints.zip (calibrated.rotations.zip calibrated.translations)).map fun view =>
                    solver.viewError patternSize squareSizeM calibrated view.1 view.2.1 view.2.2 }
          else .error (.valueError "zip() arguments have different lengths")
        else .error (.runtimeError "expected the five-coefficient OpenCV pinhole distortion model")

/-- `max` of Python, which keeps the first of equal values. -/
def maximum (first : Binary64) (rest : List Binary64) : Binary64 := rest.foldl Binary64.max first

def finite? : Binary64 → Option ℚ
  | .finite value => some value
  | _ => none

/-- `statistics.fmean`: the exact sum is rounded once, and divided. -/
def fmean (values : List Binary64) : Except ToolError Binary64 :=
  if .posInf ∈ values ∧ .negInf ∈ values then .error (.valueError "-inf + inf in fsum")
  else
    match values.mapM finite? with
    | some finite => .ok ((Binary64.finite (Binary64.nearest finite.sum)).div finite.length)
    | none => .ok (values.foldl Binary64.add .zero)

/-- The gates that a calibration has to pass. -/
structure QualityChecks where
  minimumViewsReached : Bool
  rmsErrorWithinLimit : Bool
  everyViewErrorWithinLimit : Bool

def QualityChecks.all (checks : QualityChecks) : Bool :=
  checks.minimumViewsReached && checks.rmsErrorWithinLimit && checks.everyViewErrorWithinLimit

def matrixJson (matrix : Matrix3) : Json :=
  .array (matrix.toList.map fun row => .array (row.toList.map .number))

def acceptedJson (image : CalibrationImage κ) (error : Binary64) : Json :=
  .object
    [("file", .string image.name), ("sha256", .text image.sha256), ("rms_reprojection_error_px", .number error)]

def rejectedJson (rejected : Bytes × String) : Json :=
  .object [("file", .string rejected.1), ("reason", .text rejected.2)]

def checksFields (checks : QualityChecks) : List (String × Json) :=
  [("minimum_views_reached", .boolean checks.minimumViewsReached),
    ("rms_error_within_limit", .boolean checks.rmsErrorWithinLimit),
    ("every_view_error_within_limit", .boolean checks.everyViewErrorWithinLimit)]

section Document

variable (arguments : CalibrationArguments) (stamp : ToolStamp) (squareSizeM : Binary64)
  (views : CalibrationViews κ) (solution : CalibrationSolution)

def cameraFields : List (String × Json) :=
  [("model", .string arguments.cameraModel),
    ("width", .integer views.imageSize.1),
    ("height", .integer views.imageSize.2),
    ("focus_mode", .string arguments.focusMode),
    ("lens_position", .string arguments.lensPosition),
    ("sensor_mode", arguments.sensorMode.elim .null .string)]

-- Named, so that an index below is a numeral and nothing else.
theorem neZero_three : NeZero 3 := ⟨by decide⟩

attribute [local instance] neZero_three

def entry (matrix : Matrix3) (row column : Fin 3) : Binary64 := (matrix.get row).get column

def intrinsicsFields : List (String × Json) :=
  [("fx_px", .number (entry solution.cameraMatrix 0 0)),
    ("fy_px", .number (entry solution.cameraMatrix 1 1)),
    ("cx_px", .number (entry solution.cameraMatrix 0 2)),
    ("cy_px", .number (entry solution.cameraMatrix 1 2)),
    ("camera_matrix", matrixJson solution.cameraMatrix)]

def distortionFields : List (String × Json) :=
  [("coefficient_order", .array (["k1", "k2", "p1", "p2", "k3"].map .text)),
    ("coefficients", .array (solution.distortionCoefficients.toList.map .number))]

def qualityFields (checks : QualityChecks) (mean maximumViewError : Binary64) : List (String × Json) :=
  [("rms_reprojection_error_px", .number solution.rmsErrorPx),
    ("mean_view_rms_error_px", .number mean),
    ("maximum_view_rms_error_px", .number maximumViewError),
    ("maximum_allowed_rms_error_px", .number arguments.maximumRmsErrorPx),
    ("maximum_allowed_view_error_px", .number arguments.maximumViewErrorPx),
    ("checks", .object (checksFields checks))]

def viewsFields : List (String × Json) :=
  [("provided", .integer (views.accepted.length + views.rejected.length : Nat)),
    ("accepted", .array ((views.accepted.zip solution.perViewRmsErrorPx).map fun view =>
      acceptedJson view.1 view.2)),
    ("rejected", .array (views.rejected.map rejectedJson))]

/-- The document that `build_document` returns. -/
def documentFields (checks : QualityChecks) (mean maximumViewError : Binary64) : List (String × Json) :=
  [("schema_version", .integer 1),
    ("result", .text (if checks.all then "PASS" else "FAIL")),
    ("created_at_utc", .text stamp.createdAtUtc),
    ("camera", .object (cameraFields arguments views)),
    ("model", .text "opencv_pinhole_brown_conrady_5"),
    ("pattern", .object
      [("inner_corners_columns", .integer arguments.patternSize.1),
        ("inner_corners_rows", .integer arguments.patternSize.2),
        ("square_size_m", .number squareSizeM)]),
    ("intrinsics", .object (intrinsicsFields solution)),
    ("distortion", .object (distortionFields solution)),
    ("quality", .object (qualityFields arguments solution checks mean maximumViewError)),
    ("views", .object (viewsFields views solution)),
    ("tool", .object
      [("name", .text "OnboardAutonomy camera calibration"), ("opencv_version", .text stamp.openCvVersion)])]

def qualityChecks (maximumViewError : Binary64) : QualityChecks where
  minimumViewsReached := arguments.minimumViews ≤ views.accepted.length
  rmsErrorWithinLimit := arguments.maximumRmsErrorPx.ge solution.rmsErrorPx
  everyViewErrorWithinLimit := arguments.maximumViewErrorPx.ge maximumViewError

/-- A document, and whether its result is a pass. -/
structure Built where
  document : Json
  passed : Bool

def buildDocument : Except ToolError Built :=
  if views.accepted.length ≠ solution.perViewRmsErrorPx.length then
    .error (.valueError "accepted views and reprojection errors are not aligned")
  else
    match solution.perViewRmsErrorPx with
    | [] => .error (.valueError "max() iterable argument is empty")
    | first :: rest =>
        let maximumViewError := maximum first rest
        let checks := qualityChecks arguments views solution maximumViewError
        (fmean (first :: rest)).map fun mean =>
          { document := .object (documentFields arguments stamp squareSizeM views solution checks mean maximumViewError)
            passed := checks.all }

end Document

/-- What `main` writes, and its exit code. An error is told on the standard error, and nothing is written. -/
structure Written where
  document : Json
  exitCode : Nat

/-- `json.dumps` with its names sorted, and a newline. -/
def Written.text (numerals : Numerals) (written : Written) : Bytes :=
  write numerals indentedLayout 0 written.document.sorted ++ [10]

/-- `main` for the images that have been discovered, one at least. -/
def main (solver : CameraSolver κ) (stamp : ToolStamp) (arguments : CalibrationArguments)
    (images : List (CalibrationImage κ)) : Except ToolError Written :=
  if arguments.minimumViews < 3 then .error (.valueError "minimum views must be at least 3")
  else do
    let squareSizeM := arguments.squareSizeMm.div 1000
    let views ← detectViews images squareSizeM
    if views.accepted.length < arguments.minimumViews then
      .error (.valueError ("only " ++ toString views.accepted.length ++
        " complete views were detected; at least " ++ toString arguments.minimumViews ++ " are required"))
    else
      let solution ← calibratePoints solver arguments.patternSize squareSizeM views.imagePoints views.imageSize
      let built ← buildDocument arguments stamp squareSizeM views solution
      .ok { document := built.document, exitCode := if built.passed then 0 else 2 }

end CalibrationTool

end OnboardAutonomy
