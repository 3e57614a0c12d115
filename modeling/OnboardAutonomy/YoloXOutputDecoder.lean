import OnboardAutonomy.Binary64
import OnboardAutonomy.LaunchRules

/-! The YOLOX decoder: the rows of a network's output, one for each cell of the grids of its strides, are turned
into candidate boxes. Its floats are taken as exact, so that a sum or a product of finite values is finite, and
the exponential is a parameter. An access outside the output is none. -/

namespace OnboardAutonomy

/-! ### Exact arithmetic -/

namespace Binary64

def plus : Binary64 → Binary64 → Binary64
  | .finite a, .finite b => .finite (a + b)
  | .posInf, .negInf => .nan
  | .negInf, .posInf => .nan
  | .nan, _ => .nan
  | _, .nan => .nan
  | .posInf, _ => .posInf
  | .negInf, _ => .negInf
  | .finite _, b => b

/-- An infinite factor takes the sign of the other, and has no product with zero. -/
def timesInf (positive : Bool) : Binary64 → Binary64
  | .finite a => if a = 0 then .nan else if decide (0 < a) = positive then .posInf else .negInf
  | .posInf => if positive then .posInf else .negInf
  | .negInf => if positive then .negInf else .posInf
  | .nan => .nan

def times : Binary64 → Binary64 → Binary64
  | .finite a, .finite b => .finite (a * b)
  | .posInf, b => timesInf true b
  | .negInf, b => timesInf false b
  | a, .posInf => timesInf true a
  | a, .negInf => timesInf false a
  | .nan, _ => .nan
  | _, .nan => .nan

theorem times_eq_finite {a : Binary64} {s c : ℚ} :
    a.times (.finite s) = .finite c ↔ ∃ q, a = .finite q ∧ c = q * s := by
  cases a with
  | finite q => simp [times, eq_comm]
  | nan => simp [times]
  | posInf =>
      simp only [times, timesInf, reduceCtorEq, false_and, exists_false, iff_false]
      split_ifs <;> exact not_false
  | negInf =>
      simp only [times, timesInf, reduceCtorEq, false_and, exists_false, iff_false]
      split_ifs <;> exact not_false

theorem plus_eq_finite {a : Binary64} {x c : ℚ} :
    a.plus (.finite x) = .finite c ↔ ∃ q, a = .finite q ∧ c = q + x := by
  cases a <;> simp [plus, eq_comm]

end Binary64

/-! ### The configuration -/

structure YoloXDecoderConfig where
  classCount : UInt64 := 80
  inputSize : UInt32 := 640
  strides : List UInt32 := [8, 16, 32]
  acceptedClassIds : List Int32 := []
  confidenceThreshold : Binary64 := .finite (Binary64.nearestOn 24 (1 / 5))

structure YoloXCandidate where
  centerX : Binary64
  centerY : Binary64
  width : Binary64
  height : Binary64
  confidence : Binary64
  classId : Int32
  deriving DecidableEq

structure GridCell where
  x : Binary64
  y : Binary64
  stride : Binary64

def kObjectnessIndex : Nat := 4
def kClassScoresOffset : Nat := 5

namespace YoloXDecoderConfig

/-- `validate_config`. -/
def validate (config : YoloXDecoderConfig) : Except String Unit := do
  rejectIf (config.classCount == 0 || config.inputSize == 0 || config.strides.isEmpty ||
      !config.confidenceThreshold.isFinite || config.confidenceThreshold.lt .zero ||
      (Binary64.finite 1).lt config.confidenceThreshold)
    "invalid YOLOX decoder configuration"
  rejectIf (config.strides.any fun stride => stride == 0 || config.inputSize % stride != 0)
    "YOLOX stride must divide the input size"
  rejectIf (config.acceptedClassIds.any fun classId =>
      decide (classId < 0) || decide (config.classCount.toNat ≤ classId.toInt.toNat))
    "YOLOX class id is out of range"

/-- The cells of one stride, row by row. -/
def strideGrid (side : Nat) (stride : UInt32) : List GridCell :=
  (List.range side).flatMap fun (y : Nat) => (List.range side).map fun (x : Nat) =>
    { x := .finite x
      y := .finite y
      stride := .finite stride.toNat }

def makeGrid (config : YoloXDecoderConfig) : List GridCell :=
  config.strides.flatMap fun stride => strideGrid (config.inputSize / stride).toNat stride

def acceptedClass (config : YoloXDecoderConfig) (classId : Int32) : Bool :=
  config.acceptedClassIds.isEmpty || config.acceptedClassIds.contains classId

/-- A round of the loop over the classes. The cast to a class id keeps the lower 32 bits. -/
def scoreClass (config : YoloXDecoderConfig) (row : List Binary64) (selected : Int32 × Binary64)
    (classIndex : Nat) : Option (Int32 × Binary64) :=
  let classId := Int32.ofNat classIndex
  if !config.acceptedClass classId then some selected
  else do
    let score ← row[(kClassScoresOffset + classIndex) % 2 ^ 64]?
    if score.isFinite && selected.2.lt score then some (classId, score) else some selected

def highestScoringClass (config : YoloXDecoderConfig) (row : List Binary64) : Option (Int32 × Binary64) :=
  (List.range config.classCount.toNat).foldlM (config.scoreClass row) (-1, .zero)

def expectedColumns (config : YoloXDecoderConfig) : UInt64 :=
  UInt64.ofNat kClassScoresOffset + config.classCount

end YoloXDecoderConfig

/-- `subspan`, which asks for a part of the span. A count of all ones means the rest. -/
def subspan (output : List Binary64) (offset count : UInt64) : Option (List Binary64) :=
  if offset.toNat ≤ output.length ∧ (count = -1 ∨ count.toNat ≤ output.length - offset.toNat) then
    some ((output.drop offset.toNat).take count.toNat)
  else none

section Decoder

variable (exp : Binary64 → Binary64) (config : YoloXDecoderConfig)

/-- The box of a row in its cell, unless a value of it is unusable. -/
def decodeBox (row : List Binary64) (cell : GridCell) (confidence : Binary64) (classId : Int32) :
    Option (Option YoloXCandidate) := do
  let centerX := ((← row[0]?).plus cell.x).times cell.stride
  let centerY := ((← row[1]?).plus cell.y).times cell.stride
  let width := (exp (← row[2]?)).times cell.stride
  let height := (exp (← row[3]?)).times cell.stride
  if !centerX.isFinite || !centerY.isFinite || !width.isFinite || !height.isFinite ||
      Binary64.zero.ge width || Binary64.zero.ge height then
    some none
  else
    some (some
      { centerX := centerX
        centerY := centerY
        width := width
        height := height
        confidence := confidence
        classId := classId })

/-- A round of the loop over the rows. -/
def decodeRow (row : List Binary64) (cell : Option GridCell) : Option (Option YoloXCandidate) := do
  let objectness ← row[kObjectnessIndex]?
  let (classId, classScore) ← config.highestScoringClass row
  let confidence := objectness.times classScore
  if decide (classId < 0) || !config.acceptedClass classId || !objectness.isFinite || !confidence.isFinite ||
      config.confidenceThreshold.ge confidence then
    some none
  else decodeBox exp row (← cell) confidence classId

/-- The loop over the rows. -/
def decodeRows (output : List Binary64) (grid : List GridCell) (rowCount columnCount : UInt64) :
    Option (List YoloXCandidate) := do
  let rows ← (List.range rowCount.toNat).mapM fun rowIndex => do
    decodeRow exp config (← subspan output (UInt64.ofNat rowIndex * columnCount) columnCount) grid[rowIndex]?
  some (rows.filterMap id)

/-- `decode_yolox_output`: an exception, an access outside the output, or the candidates. -/
def decodeYoloXOutput (output : List Binary64) (rowCount columnCount : UInt64) :
    Except String (Option (List YoloXCandidate)) := do
  config.validate
  let grid := config.makeGrid
  rejectIf (decide (rowCount.toNat ≠ grid.length) || columnCount != config.expectedColumns ||
      decide (output.length ≠ (rowCount * columnCount).toNat))
    "unexpected YOLOX output shape"
  .ok (decodeRows exp config output grid rowCount columnCount)

end Decoder

end OnboardAutonomy
