import Mathlib.Data.List.DropRight
import OnboardAutonomy.Attempts
import OnboardAutonomy.CameraMonitor
import OnboardAutonomy.LaunchAdapters
import OnboardAutonomy.TargetGeometry

/-! `OpenCvDnnTargetDetector`: from a frame through the network to the targets. The images and the network are
OpenCV's, so what the network answers to a picture is a parameter, and so is the suppression of overlapping
boxes. Floats are exact, as in the decoder: a sum of two `int`s, its half and a hundred times a `float` are
`double`s. -/

namespace OnboardAutonomy

def kAirplaneClassId : Int32 := 4
def kBirdClassId : Int32 := 14
def kKiteClassId : Int32 := 33

def className (classId : Int32) : String :=
  if classId = kAirplaneClassId then "airplane"
  else if classId = kBirdClassId then "bird"
  else if classId = kKiteClassId then "kite"
  else "aerial-object"

structure OpenCvDnnDetectorConfig where
  modelFile : Bytes
  acceptedClassIds : List Int32
  confidenceThreshold : Binary64 := .finite (Binary64.nearestOn 24 (1 / 5))
  nmsThreshold : Binary64 := .finite (1 / 2)

/-- `validate_config`. -/
def OpenCvDnnDetectorConfig.validate (config : OpenCvDnnDetectorConfig) : Except String Unit :=
  rejectIf (config.modelFile.isEmpty || !config.confidenceThreshold.isFinite ||
      Binary64.zero.ge config.confidenceThreshold || (Binary64.finite 1).lt config.confidenceThreshold ||
      !config.nmsThreshold.isFinite || Binary64.zero.ge config.nmsThreshold ||
      (Binary64.finite 1).lt config.nmsThreshold)
    "invalid OpenCV DNN detector configuration"

structure OpenCvDnnTargetDetector where
  config : OpenCvDnnDetectorConfig
  decoderConfig : YoloXDecoderConfig

/-- What is left of a path behind its last separator. -/
def filename (path : Bytes) : Bytes := path.rtakeWhile fun byte => byte != 47

namespace OpenCvDnnTargetDetector

/-- The constructor. Loading a model may throw, or give a network that is empty. -/
def create (load : Bytes → Except String Bool) (config : OpenCvDnnDetectorConfig) :
    Except String OpenCvDnnTargetDetector := do
  config.validate
  let empty ← (load config.modelFile).mapError fun what => "unable to load YOLOX ONNX model: " ++ what
  rejectIf empty "unable to load YOLOX ONNX model"
  .ok
    { config := config
      decoderConfig :=
        { acceptedClassIds := config.acceptedClassIds
          confidenceThreshold := config.confidenceThreshold } }

def description (detector : OpenCvDnnTargetDetector) : Bytes :=
  literal "OpenCV DNN YOLOX (" ++ filename detector.config.modelFile ++ literal ")"

end OpenCvDnnTargetDetector

/-! ### Faults -/

/-- How a detection may end without a batch: with an exception and its text, with that of `std::vector::at`, or
in an access outside a buffer or a conversion that `int` has no value for. -/
inductive DetectorFault where
  | thrown (what : String)
  | outOfRange
  | undefined
  deriving DecidableEq

def thrown {α : Type} (result : Except String α) : Except DetectorFault α := result.mapError .thrown

def defined {α : Type} : Option α → Except DetectorFault α
  | some value => .ok value
  | none => .error .undefined

/-- `std::vector::at`, with an `int` as the index. -/
def atIndex {α : Type} (elements : List α) (index : Int32) : Except DetectorFault α :=
  match elements[(UInt64.ofInt index.toInt).toNat]? with
  | some element => .ok element
  | none => .error .outOfRange

/-! ### The picture of a frame -/

def expectedYuv420Size (frame : CameraFrame) : Except String UInt64 := do
  rejectIf (frame.width == 0 || frame.height == 0 || frame.width % 2 != 0 || frame.height % 2 != 0 ||
      decide (2 ^ 31 - 1 < frame.width.toNat) || decide (2 ^ 31 - 1 < frame.height.toNat))
    "invalid YUV420 frame dimensions"
  rejectIf (decide (UInt64.size - 1 < (frameBytes frame.width frame.height).toNat)) "YUV420 frame is too large"
  .ok (frameBytes frame.width frame.height)

/-- A matrix of bytes, with the planes of a picture in its rows. -/
structure YuvMatrix where
  rows : Int32
  columns : Int32
  bytes : List UInt8

/-- What `to_bgr` copies the frame to. The rows are counted in 32 bits and cast to `int`. -/
def toYuv (frame : CameraFrame) : Except DetectorFault YuvMatrix := do
  let expectedSize ← thrown (expectedYuv420Size frame)
  thrown (rejectIf (frame.yuv420.length != expectedSize.toNat) "unexpected YUV420 frame size")
  let rows := (frame.height + frame.height / 2).toInt32
  let columns := frame.width.toInt32
  if (frame.yuv420.length : ℤ) ≤ rows.toInt * columns.toInt then .ok ⟨rows, columns, frame.yuv420⟩
  else .error .undefined

/-- The height of the picture that `cvtColor` makes of such a matrix. -/
def YuvMatrix.pictureRows (yuv : YuvMatrix) : ℤ := yuv.rows.toInt * 2 / 3

/-! ### Observations -/

def makeObservation (box : Rect) (candidate : YoloXCandidate) : TargetObservation :=
  let left := Binary64.finite box.x
  let top := Binary64.finite box.y
  let right := Binary64.finite (box.x + box.width : ℤ)
  let bottom := Binary64.finite (box.y + box.height : ℤ)
  { id := candidate.classId
    family := className candidate.classId
    center := ⟨(left.plus right).dividedBy 2, (top.plus bottom).dividedBy 2⟩
    corners := #v[⟨left, top⟩, ⟨right, top⟩, ⟨right, bottom⟩, ⟨left, bottom⟩]
    confidencePercent := candidate.confidence.times (.finite 100) }

/-- `std::unique`. -/
def unique {α : Type} [DecidableEq α] : List α → List α
  | [] => []
  | [a] => [a]
  | a :: b :: rest => if a = b then unique (b :: rest) else a :: unique (b :: rest)

def detectedClassIds (candidates : List YoloXCandidate) : List Int32 :=
  unique ((candidates.map YoloXCandidate.classId).mergeSort fun a b => decide (a ≤ b))

/-- `cv::Rect::empty`. -/
def Rect.isEmpty (r : Rect) : Bool := decide (r.width ≤ 0) || decide (r.height ≤ 0)

/-! ### A detection -/

/-- An output of the network: its sizes, and what is read from its first float on. -/
structure NetworkOutput where
  sizes : List Int32
  isContinuous : Bool
  values : List Binary64

/-- `NMSBoxes`: the indices that are retained of boxes with scores, for two thresholds. -/
abbrev NmsBoxes := List Rect → List Binary64 → Binary64 → Binary64 → List Int32

namespace OpenCvDnnTargetDetector

section Detection

variable (exp : Binary64 → Binary64) (nmsBoxes : NmsBoxes)
  (forward : YuvMatrix → YoloXLetterboxGeometry → Except String (List NetworkOutput))
  (detector : OpenCvDnnTargetDetector)

/-- The rows and the columns of the only output, and its values. -/
def readOutput (outputs : List NetworkOutput) : Except String (UInt64 × UInt64 × List Binary64) :=
  match outputs with
  | [⟨[batch, rows, columns], true, values⟩] =>
      if batch = 1 then .ok (UInt64.ofInt rows.toInt, UInt64.ofInt columns.toInt, values)
      else .error "unexpected YOLOX network output"
  | _ => .error "unexpected YOLOX network output"

/-- A candidate with its box, unless the box is empty. -/
def boxed (scale : ℚ) (imageWidth imageHeight : ℤ) (candidate : YoloXCandidate) :
    Except DetectorFault (Option (Rect × YoloXCandidate)) := do
  let box ← defined (candidateBox candidate scale imageWidth imageHeight)
  .ok (if box.isEmpty then none else some (box, candidate))

/-- A round of the loop over the classes. -/
def detectClass (scale : ℚ) (imageWidth imageHeight : ℤ) (candidates : List YoloXCandidate)
    (classId : Int32) : Except DetectorFault (List TargetObservation) := do
  let all ← (candidates.filter fun candidate => candidate.classId == classId).mapM
    (boxed scale imageWidth imageHeight)
  let selected := all.filterMap id
  let retained := nmsBoxes (selected.map Prod.fst) (selected.map fun pair => pair.2.confidence)
    detector.config.confidenceThreshold detector.config.nmsThreshold
  retained.mapM fun index => do
    let pair ← atIndex selected index
    .ok (makeObservation pair.1 pair.2)

/-- What is observed in an image, from the answer of the network on. -/
def observe (scale : ℚ) (imageWidth imageHeight : ℤ) (outputs : List NetworkOutput) :
    Except DetectorFault (List TargetObservation) := do
  let (rowCount, columnCount, values) ← thrown (readOutput outputs)
  let decoded ← thrown (decodeYoloXOutput exp detector.decoderConfig values rowCount columnCount)
  let candidates ← defined decoded
  let observations ← (detectedClassIds candidates).mapM
    (detectClass nmsBoxes detector scale imageWidth imageHeight candidates)
  .ok observations.flatten

/-- The targets of a frame. -/
def targets (frame : CameraFrame) : Except DetectorFault (List TargetObservation) := do
  let yuv ← toYuv frame
  let geometry ← thrown (makeYoloXLetterboxGeometry (UInt32.ofInt yuv.columns.toInt)
    (UInt32.ofInt yuv.pictureRows) 640)
  let outputs ← thrown (forward yuv geometry)
  detector.observe exp nmsBoxes geometry.scale yuv.columns.toInt yuv.pictureRows outputs

/-- `detect`, with what the clocks say before and after it. The time it took is cut to microseconds. -/
def detect (frame : CameraFrame) (started finished : TimePoint) (detectedAt : Int) :
    Except DetectorFault TargetDetectionBatch := do
  let observations ← detector.targets exp nmsBoxes forward frame
  .ok
    { frameSequence := frame.sequence
      capturedAt := frame.capturedAt
      detectedAt := detectedAt
      processingTime := (finished - started).tdiv 1000
      targets := observations }

end Detection

end OpenCvDnnTargetDetector

end OnboardAutonomy
