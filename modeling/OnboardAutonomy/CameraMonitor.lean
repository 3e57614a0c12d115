import OnboardAutonomy.CameraSource

/-! `CameraMonitor` and the `VisionMonitor` inside it: what a poll makes of the frame that waits in the source.
The detector is whatever answers for a frame: a batch of targets, or the text of an exception. -/

namespace OnboardAutonomy

/-- `duration<double, std::milli>(…).count()`. -/
def millisecondsOf (nanoseconds : Int) : Binary64 := (Binary64.ofInt nanoseconds).div 1000000

/-- `duration<double>(…).count()`. -/
def secondsOf (nanoseconds : Int) : ℚ := Binary64.nearest (Binary64.nearest nanoseconds / 1000000000)

/-! ### The vision monitor -/

/-- The processing time is in microseconds. -/
structure TargetDetectionBatch where
  frameSequence : Nat
  capturedAt : Option Int
  detectedAt : Int
  processingTime : Int
  targets : List TargetObservation

structure VisionMonitor where
  description : Bytes
  processedFrames : Nat := 0
  framesWithTargets : Nat := 0
  totalTargets : Nat := 0
  lastDetectionAt : Option TimePoint := none
  latestProcessingMs : Option Binary64 := none
  totalProcessingMs : Binary64 := .zero
  maximumProcessingMs : Binary64 := .zero
  latestTargets : List TargetObservation := []

namespace VisionMonitor

/-- `process`, once the detector has returned. The targets are then in `latestTargets`. -/
def process (vision : VisionMonitor) (batch : TargetDetectionBatch) (now : TimePoint) : VisionMonitor :=
  let processingMs := (Binary64.ofInt batch.processingTime).div 1000
  { vision with
    processedFrames := vision.processedFrames + 1
    latestProcessingMs := some processingMs
    totalProcessingMs := vision.totalProcessingMs.add processingMs
    maximumProcessingMs := vision.maximumProcessingMs.max processingMs
    latestTargets := batch.targets
    totalTargets := vision.totalTargets + batch.targets.length
    framesWithTargets :=
      if batch.targets.isEmpty then vision.framesWithTargets else vision.framesWithTargets + 1
    lastDetectionAt := if batch.targets.isEmpty then vision.lastDetectionAt else some now }

def snapshot (vision : VisionMonitor) (now : TimePoint) : VisionSnapshot where
  detector := vision.description
  processedFrames := .ofNat vision.processedFrames
  framesWithTargets := .ofNat vision.framesWithTargets
  totalTargets := .ofNat vision.totalTargets
  latestProcessingMs := vision.latestProcessingMs
  averageProcessingMs :=
    if vision.processedFrames = 0 then none
    else some (vision.totalProcessingMs.div (Binary64.nearest vision.processedFrames))
  maximumProcessingMs := if vision.processedFrames = 0 then none else some vision.maximumProcessingMs
  lastDetectionAgeMs := do
    let lastDetectionAt ← vision.lastDetectionAt
    if lastDetectionAt ≤ now then some (millisecondsOf (now - lastDetectionAt)) else none
  latestTargets := vision.latestTargets

end VisionMonitor

/-! ### The camera monitor -/

structure ProcessedCameraFrame where
  frame : CameraFrame
  observedAt : TimePoint
  targets : List TargetObservation
  deriving DecidableEq

structure CameraMonitor where
  visionMonitor : Option VisionMonitor
  latestProcessedFrame : Option ProcessedCameraFrame := none
  receivedFrames : Nat := 0
  droppedBeforeProcessing : Nat := 0
  framesWithCaptureTimestamp : Nat := 0
  validLatencySamples : Nat := 0
  width : UInt32 := 0
  height : UInt32 := 0
  lastSequence : Option Nat := none
  lastFrameObservedAt : Option TimePoint := none
  firstCaptureAt : Option Int := none
  lastCaptureAt : Option Int := none
  latestLatencyMs : Option Binary64 := none
  totalLatencyMs : Binary64 := .zero
  maximumLatencyMs : Binary64 := .zero

/-- What a detector answers for each frame. -/
abbrev DetectorAnswer : Type := CameraFrame → Except String TargetDetectionBatch

namespace CameraMonitor

/-- The part of `poll` before the detector is asked: the frame is counted. -/
def countFrame (monitor : CameraMonitor) (frame : CameraFrame) (now : TimePoint) : CameraMonitor :=
  { monitor with
    droppedBeforeProcessing :=
      match monitor.lastSequence with
      | some lastSequence =>
          if lastSequence + 1 < frame.sequence then
            monitor.droppedBeforeProcessing + (frame.sequence - lastSequence - 1)
          else monitor.droppedBeforeProcessing
      | none => monitor.droppedBeforeProcessing
    lastSequence := some frame.sequence
    receivedFrames := monitor.receivedFrames + 1
    width := frame.width
    height := frame.height
    lastFrameObservedAt := some now }

/-- The latency statistics of a frame with a capture timestamp. -/
def countLatency (monitor : CameraMonitor) (frame : CameraFrame) : CameraMonitor :=
  match frame.capturedAt with
  | none => monitor
  | some capturedAt =>
      let monitor :=
        { monitor with
          framesWithCaptureTimestamp := monitor.framesWithCaptureTimestamp + 1
          firstCaptureAt := some (monitor.firstCaptureAt.getD capturedAt)
          lastCaptureAt := some capturedAt }
      let latencyMs := millisecondsOf (frame.receivedAt - capturedAt)
      if latencyMs.ge .zero then
        { monitor with
          validLatencySamples := monitor.validLatencySamples + 1
          latestLatencyMs := some latencyMs
          totalLatencyMs := monitor.totalLatencyMs.add latencyMs
          maximumLatencyMs := monitor.maximumLatencyMs.max latencyMs }
      else monitor

/-- The part of `poll` after the detector: the frame is kept with a copy of its targets. -/
def keepFrame (monitor : CameraMonitor) (frame : CameraFrame) (now : TimePoint)
    (targets : List TargetObservation) : CameraMonitor :=
  { monitor.countLatency frame with
    latestProcessedFrame := some
      { frame := frame
        observedAt := now
        targets := targets } }

/-- `poll` from the frame on. An exception of the detector leaves the monitor half way. -/
def processFrame (monitor : CameraMonitor) (detect : DetectorAnswer) (frame : CameraFrame) (now : TimePoint) :
    CameraMonitor × Option String :=
  let monitor := monitor.countFrame frame now
  match monitor.visionMonitor with
  | none => (monitor.keepFrame frame now [], none)
  | some vision =>
      match detect frame with
      | .error error => (monitor, some error)
      | .ok batch =>
          let vision := vision.process batch now
          (({ monitor with visionMonitor := some vision }).keepFrame frame now vision.latestTargets, none)

/-- The monitor, what is left in the source, and the text of an exception. -/
def poll (monitor : CameraMonitor) (detect : DetectorAnswer) (source : CameraSource) (now : TimePoint) :
    CameraMonitor × CameraSource × Option String :=
  match source.takeLatestFrame with
  | (none, source) => (monitor, source, none)
  | (some frame, source) =>
      let (monitor, error) := monitor.processFrame detect frame now
      (monitor, source, error)

/-- The dropped frames in a snapshot: the larger of two estimates. -/
def droppedFrames (monitor : CameraMonitor) (status : CameraSourceStatus) : Nat :=
  max monitor.droppedBeforeProcessing status.overwrittenFrames

def snapshot (monitor : CameraMonitor) (status : CameraSourceStatus) (now : TimePoint) : CameraSnapshot where
  phase := status.phase
  source := status.description
  error := status.error
  width := monitor.width
  height := monitor.height
  receivedFrames := .ofNat monitor.receivedFrames
  droppedBeforeProcessing := .ofNat (monitor.droppedFrames status)
  cameraRestarts := .ofNat status.restartCount
  framesWithCaptureTimestamp := .ofNat monitor.framesWithCaptureTimestamp
  measuredFps := do
    let firstCaptureAt ← monitor.firstCaptureAt
    let lastCaptureAt ← monitor.lastCaptureAt
    if 1 < monitor.framesWithCaptureTimestamp ∧ 0 < secondsOf (lastCaptureAt - firstCaptureAt) then
      some ((Binary64.ofInt (monitor.framesWithCaptureTimestamp - 1)).div
        (secondsOf (lastCaptureAt - firstCaptureAt)))
    else none
  latestLatencyMs := monitor.latestLatencyMs
  averageLatencyMs :=
    if monitor.validLatencySamples = 0 then none
    else some (monitor.totalLatencyMs.div (Binary64.nearest monitor.validLatencySamples))
  maximumLatencyMs := if monitor.validLatencySamples = 0 then none else some monitor.maximumLatencyMs
  latestFrameAgeMs := do
    let lastFrameObservedAt ← monitor.lastFrameObservedAt
    if lastFrameObservedAt ≤ now then some (millisecondsOf (now - lastFrameObservedAt)) else none

def takeLatestProcessedFrame (monitor : CameraMonitor) : Option ProcessedCameraFrame × CameraMonitor :=
  (monitor.latestProcessedFrame, { monitor with latestProcessedFrame := none })

def disableTargetDetection (monitor : CameraMonitor) : CameraMonitor := { monitor with visionMonitor := none }

/-! ### What a processed frame changes -/

variable (monitor : CameraMonitor) (detect : DetectorAnswer) (frame : CameraFrame) (now : TimePoint)

/-- The frame counts of a monitor. -/
def counts : Nat × Nat × Option Nat :=
  (monitor.receivedFrames, monitor.droppedBeforeProcessing, monitor.lastSequence)

theorem countLatency_counts : (monitor.countLatency frame).counts = monitor.counts := by
  rw [countLatency]
  split
  · rfl
  · dsimp only
    split <;> rfl

theorem countLatency_visionMonitor : (monitor.countLatency frame).visionMonitor = monitor.visionMonitor := by
  rw [countLatency]
  split
  · rfl
  · dsimp only
    split <;> rfl

/-- The frame is counted, whether or not the detector fails. -/
theorem processFrame_counts :
    (monitor.processFrame detect frame now).1.counts = (monitor.countFrame frame now).counts := by
  rw [processFrame]
  dsimp only
  split
  · exact countLatency_counts _ frame
  · split
    · rfl
    · exact countLatency_counts _ frame

theorem keepFrame_visionMonitor (targets : List TargetObservation) :
    (monitor.keepFrame frame now targets).visionMonitor = monitor.visionMonitor :=
  monitor.countLatency_visionMonitor frame

/-- A processed frame is kept with the targets of its own detection, without any where there is no detector;
if the detector fails, nothing is kept. -/
theorem processFrame_cases :
    (monitor.visionMonitor = none ∧ (monitor.processFrame detect frame now).2 = none ∧
      (monitor.processFrame detect frame now).1.visionMonitor = none ∧
      (monitor.processFrame detect frame now).1.latestProcessedFrame = some ⟨frame, now, []⟩) ∨
    (∃ vision batch, monitor.visionMonitor = some vision ∧ detect frame = .ok batch ∧
      (monitor.processFrame detect frame now).2 = none ∧
      (monitor.processFrame detect frame now).1.visionMonitor = some (vision.process batch now) ∧
      (monitor.processFrame detect frame now).1.latestProcessedFrame = some ⟨frame, now, batch.targets⟩) ∨
    (∃ vision error, monitor.visionMonitor = some vision ∧ detect frame = .error error ∧
      (monitor.processFrame detect frame now).2 = some error ∧
      (monitor.processFrame detect frame now).1.latestProcessedFrame = monitor.latestProcessedFrame) := by
  have hcount : (monitor.countFrame frame now).visionMonitor = monitor.visionMonitor := rfl
  cases hvision : monitor.visionMonitor with
  | none =>
      left
      rw [processFrame]
      simp only [hcount, hvision]
      refine ⟨trivial, trivial, ?_, rfl⟩
      rw [keepFrame_visionMonitor, hcount, hvision]
  | some vision =>
      right
      cases hdetect : detect frame with
      | ok batch =>
          left
          refine ⟨vision, batch, rfl, rfl, ?_⟩
          rw [processFrame]
          simp only [hcount, hvision, hdetect]
          exact ⟨trivial, keepFrame_visionMonitor _ frame now _, rfl⟩
      | error error =>
          right
          refine ⟨vision, error, rfl, rfl, ?_⟩
          rw [processFrame]
          simp only [hcount, hvision, hdetect]
          exact ⟨trivial, rfl⟩

end CameraMonitor

end OnboardAutonomy
