import OnboardAutonomy.CameraMonitor
import OnboardAutonomy.RunningStatistics

/-! What the snapshots of the camera monitor and of its vision monitor say of the frames that were processed:
the counters, the newest and the largest of the samples, and their average up to rounding. A frame on which the
detector fails is counted, and its latency is not. -/

namespace OnboardAutonomy

open Binary64

/-! ### The frames behind the statistics -/

/-- What the detector made of a frame, if there was one. -/
inductive DetectorOutcome where
  | unasked
  | detected (batch : TargetDetectionBatch)
  | failed (error : String)

/-- A frame that a poll has taken. -/
structure HandledFrame where
  frame : CameraFrame
  observedAt : TimePoint
  outcome : DetectorOutcome

namespace HandledFrame

/-- The poll has come to its end. -/
def kept (handled : HandledFrame) : Bool :=
  match handled.outcome with
  | .failed _ => false
  | _ => true

/-- The capture time that counts. -/
def stamp? (handled : HandledFrame) : Option Int := if handled.kept then handled.frame.capturedAt else none

/-- The latency that counts. -/
def latency? (handled : HandledFrame) : Option Int :=
  handled.stamp?.bind fun capturedAt =>
    if capturedAt ≤ handled.frame.receivedAt then some (handled.frame.receivedAt - capturedAt) else none

/-- The detection, with its time. -/
def detection? (handled : HandledFrame) : Option (TargetDetectionBatch × TimePoint) :=
  match handled.outcome with
  | .detected batch => some (batch, handled.observedAt)
  | _ => none

end HandledFrame

/-- The times in the snapshots, in milliseconds: a clock counts in nanoseconds, the detector in microseconds. -/
def latencyMs (nanoseconds : Int) : ℚ := nearest (nearest nanoseconds / 1000000)

def processingMs (detection : TargetDetectionBatch × TimePoint) : ℚ :=
  nearest (nearest detection.1.processingTime / 1000)

/-- A source and a monitor, beside the frames that the polls have taken. -/
structure MeasuredCamera where
  source : CameraSource
  monitor : CameraMonitor
  handled : List HandledFrame := []

inductive MeasuredCameraStep where
  | source (action : CameraSourceAction)
  | poll (detect : DetectorAnswer) (now : TimePoint)
  | take
  | disable

/-- The detector measures what it takes with a clock that does not go back. -/
def MeasuredCameraStep.Timed : MeasuredCameraStep → Prop
  | .poll detect _ => ∀ frame batch, detect frame = .ok batch → 0 ≤ batch.processingTime
  | _ => True

namespace MeasuredCamera

/-- What becomes of a frame that the monitor takes. -/
def outcome (monitor : CameraMonitor) (detect : DetectorAnswer) (frame : CameraFrame) : DetectorOutcome :=
  match monitor.visionMonitor with
  | none => .unasked
  | some _ =>
      match detect frame with
      | .ok batch => .detected batch
      | .error error => .failed error

def step (s : MeasuredCamera) : MeasuredCameraStep → MeasuredCamera
  | .source action => { s with source := s.source.apply action }
  | .poll detect now =>
      let (monitor, source, _) := s.monitor.poll detect s.source now
      { source := source
        monitor := monitor
        handled := s.handled ++
          (s.source.latestFrame.map fun frame => ⟨frame, now, outcome s.monitor detect frame⟩).toList }
  | .take => { s with monitor := s.monitor.takeLatestProcessedFrame.2 }
  | .disable => { s with monitor := s.monitor.disableTargetDetection }

/-- A source that has just been built, and a monitor with a detector or without. -/
def start (camera : Bytes) (detector : Option Bytes) : MeasuredCamera where
  source := { status := { description := camera } }
  monitor := { visionMonitor := detector.map fun description => { description := description } }

def run (s : MeasuredCamera) (steps : List MeasuredCameraStep) : MeasuredCamera := steps.foldl step s

end MeasuredCamera

/-! ### What the snapshots say -/

/-- The frames a second between the first capture time and the last. -/
def frameRate (stamps : List Int) : Option Binary64 := do
  let first ← stamps.head?
  let last ← stamps.getLast?
  if 1 < stamps.length ∧ first < last then some ((ofInt (stamps.length - 1)).div (secondsOf (last - first)))
  else none

/-- How long ago something was, unless it is ahead. -/
def ageMs (now time : TimePoint) : Option Binary64 :=
  if time ≤ now then some (millisecondsOf (now - time)) else none

/-- A snapshot of the camera monitor against the frames. -/
structure CameraShown (handled : List HandledFrame) (now : TimePoint) (snapshot : CameraSnapshot) : Prop where
  received : snapshot.receivedFrames = .ofNat handled.length
  size : (snapshot.width, snapshot.height) =
    handled.getLast?.elim (0, 0) fun last => (last.frame.width, last.frame.height)
  age : snapshot.latestFrameAgeMs = (handled.getLast?.map HandledFrame.observedAt).bind (ageMs now)
  stamped : snapshot.framesWithCaptureTimestamp = .ofNat (handled.filterMap HandledFrame.stamp?).length
  rate : snapshot.measuredFps = frameRate (handled.filterMap HandledFrame.stamp?)
  latency : Summarises (fun nanoseconds : Int => (nanoseconds : ℚ) / 1000000) latencyMs
    (handled.filterMap HandledFrame.latency?) snapshot.latestLatencyMs snapshot.averageLatencyMs
    snapshot.maximumLatencyMs

/-- A snapshot of the vision monitor against the detections. -/
structure VisionShown (detections : List (TargetDetectionBatch × TimePoint)) (now : TimePoint)
    (snapshot : VisionSnapshot) : Prop where
  processed : snapshot.processedFrames = .ofNat detections.length
  withTargets : snapshot.framesWithTargets =
    .ofNat (detections.filter fun detection => !detection.1.targets.isEmpty).length
  targets : snapshot.totalTargets = .ofNat (detections.map fun detection => detection.1.targets.length).sum
  latest : snapshot.latestTargets = detections.getLast?.elim [] fun detection => detection.1.targets
  age : snapshot.lastDetectionAgeMs =
    ((detections.filter fun detection => !detection.1.targets.isEmpty).getLast?.map Prod.snd).bind (ageMs now)
  processing : Summarises (fun detection => (detection.1.processingTime : ℚ) / 1000) processingMs detections
    snapshot.latestProcessingMs snapshot.averageProcessingMs snapshot.maximumProcessingMs

/-! ### What the monitors keep -/

/-- The state of the vision monitor against the frames. -/
structure VisionTallied (handled : List HandledFrame) (vision : VisionMonitor) : Prop where
  processed : vision.processedFrames = (handled.filterMap HandledFrame.detection?).length
  withTargets : vision.framesWithTargets =
    ((handled.filterMap HandledFrame.detection?).filter fun detection => !detection.1.targets.isEmpty).length
  targets : vision.totalTargets =
    ((handled.filterMap HandledFrame.detection?).map fun detection => detection.1.targets.length).sum
  latest : vision.latestTargets =
    (handled.filterMap HandledFrame.detection?).getLast?.elim [] fun detection => detection.1.targets
  detectedAt : vision.lastDetectionAt =
    ((handled.filterMap HandledFrame.detection?).filter fun detection =>
      !detection.1.targets.isEmpty).getLast?.map Prod.snd
  processing : Tally processingMs (handled.filterMap HandledFrame.detection?) vision.latestProcessingMs
    vision.totalProcessingMs vision.maximumProcessingMs

/-- The counters of the camera monitor against the frames. -/
structure CameraCounted (handled : List HandledFrame) (monitor : CameraMonitor) : Prop where
  received : monitor.receivedFrames = handled.length
  size : (monitor.width, monitor.height) =
    handled.getLast?.elim (0, 0) fun last => (last.frame.width, last.frame.height)
  observed : monitor.lastFrameObservedAt = handled.getLast?.map HandledFrame.observedAt

/-- Its capture times. -/
structure StampsTallied (handled : List HandledFrame) (monitor : CameraMonitor) : Prop where
  stamped : monitor.framesWithCaptureTimestamp = (handled.filterMap HandledFrame.stamp?).length
  first : monitor.firstCaptureAt = (handled.filterMap HandledFrame.stamp?).head?
  last : monitor.lastCaptureAt = (handled.filterMap HandledFrame.stamp?).getLast?

/-- Its latencies. -/
structure LatencyTallied (handled : List HandledFrame) (monitor : CameraMonitor) : Prop where
  samples : monitor.validLatencySamples = (handled.filterMap HandledFrame.latency?).length
  latency : Tally latencyMs (handled.filterMap HandledFrame.latency?) monitor.latestLatencyMs
    monitor.totalLatencyMs monitor.maximumLatencyMs

structure CameraTallied (handled : List HandledFrame) (monitor : CameraMonitor) : Prop where
  counted : CameraCounted handled monitor
  stamps : StampsTallied handled monitor
  latency : LatencyTallied handled monitor
  vision : ∀ vision, monitor.visionMonitor = some vision → VisionTallied handled vision

section Steps

variable {handled : List HandledFrame} {monitor : CameraMonitor} {next : HandledFrame}

theorem filterMap_concat {α β : Type} (f : α → Option β) (l : List α) (a : α) :
    (l ++ [a]).filterMap f = l.filterMap f ++ (f a).toList := by
  rw [List.filterMap_append]
  cases h : f a with
  | none => rw [List.filterMap_cons_none h]; rfl
  | some b => rw [List.filterMap_cons_some h]; rfl

theorem latencyMs_nonneg_iff (nanoseconds : Int) : 0 ≤ latencyMs nanoseconds ↔ 0 ≤ nanoseconds :=
  nearest_quotient_nonneg_iff nanoseconds (by norm_num)

/-- A latency is counted unless the clocks say that the frame came before it was captured. -/
theorem latency_ge_zero (nanoseconds : Int) :
    (millisecondsOf nanoseconds).ge .zero = true ↔ 0 ≤ nanoseconds := by
  have hmilliseconds : millisecondsOf nanoseconds = .finite (latencyMs nanoseconds) := rfl
  rw [hmilliseconds, Binary64.zero, ge_finite, decide_eq_true_iff, latencyMs_nonneg_iff]

theorem processingMs_nonneg_iff (detection : TargetDetectionBatch × TimePoint) :
    0 ≤ processingMs detection ↔ 0 ≤ detection.1.processingTime :=
  nearest_quotient_nonneg_iff detection.1.processingTime (by norm_num)

theorem CameraCounted.countFrame (h : CameraCounted handled monitor) (next : HandledFrame) :
    CameraCounted (handled ++ [next]) (monitor.countFrame next.frame next.observedAt) := by
  constructor
  case received =>
    rw [List.length_append, List.length_singleton, ← h.received]
    rfl
  case size =>
    rw [List.getLast?_concat]
    rfl
  case observed =>
    rw [List.getLast?_concat]
    rfl

theorem CameraCounted.countLatency (h : CameraCounted handled monitor) (frame : CameraFrame) :
    CameraCounted handled (monitor.countLatency frame) := by
  rw [CameraMonitor.countLatency]
  split
  · exact h
  · dsimp only
    split <;> exact ⟨h.received, h.size, h.observed⟩

/-- A frame without a capture time that counts. -/
theorem StampsTallied.skip (h : StampsTallied handled monitor) (hstamp : next.stamp? = none) :
    StampsTallied (handled ++ [next]) monitor := by
  constructor <;> rw [filterMap_concat, hstamp, Option.toList_none, List.append_nil]
  exacts [h.stamped, h.first, h.last]

theorem StampsTallied.countLatency (h : StampsTallied handled monitor) (hkept : next.kept = true) :
    StampsTallied (handled ++ [next]) (monitor.countLatency next.frame) := by
  have hstamp : next.stamp? = next.frame.capturedAt := if_pos hkept
  rw [CameraMonitor.countLatency]
  split
  · rename_i hnone
    exact h.skip (hstamp.trans hnone)
  · rename_i capturedAt hsome
    have hstamps : (handled ++ [next]).filterMap HandledFrame.stamp? =
        handled.filterMap HandledFrame.stamp? ++ [capturedAt] := by
      rw [filterMap_concat, hstamp, hsome]
      rfl
    have hfirst : some (monitor.firstCaptureAt.getD capturedAt) =
        (handled.filterMap HandledFrame.stamp? ++ [capturedAt]).head? := by
      rw [h.first]
      cases handled.filterMap HandledFrame.stamp? <;> rfl
    dsimp only
    split
    all_goals
      constructor <;> rw [hstamps]
      · rw [List.length_append, List.length_singleton, ← h.stamped]
      · exact hfirst
      · rw [List.getLast?_concat]

theorem LatencyTallied.skip (h : LatencyTallied handled monitor) (hlatency : next.latency? = none) :
    LatencyTallied (handled ++ [next]) monitor := by
  have hsame : (handled ++ [next]).filterMap HandledFrame.latency? = handled.filterMap HandledFrame.latency? := by
    rw [filterMap_concat, hlatency, Option.toList_none, List.append_nil]
  exact ⟨hsame ▸ h.samples, hsame ▸ h.latency⟩

theorem LatencyTallied.countLatency (h : LatencyTallied handled monitor) (hkept : next.kept = true) :
    LatencyTallied (handled ++ [next]) (monitor.countLatency next.frame) := by
  have hstamp : next.stamp? = next.frame.capturedAt := if_pos hkept
  rw [CameraMonitor.countLatency]
  split
  · rename_i hnone
    exact h.skip (by rw [HandledFrame.latency?, hstamp, hnone, Option.bind_none])
  · rename_i capturedAt hsome
    have hlatency : next.latency? = if capturedAt ≤ next.frame.receivedAt then
        some (next.frame.receivedAt - capturedAt) else none := by
      rw [HandledFrame.latency?, hstamp, hsome, Option.bind_some]
    dsimp only
    split
    · rename_i hge
      have hvalid := sub_nonneg.mp ((latency_ge_zero _).mp hge)
      rw [if_pos hvalid] at hlatency
      have hlatencies : (handled ++ [next]).filterMap HandledFrame.latency? =
          handled.filterMap HandledFrame.latency? ++ [next.frame.receivedAt - capturedAt] := by
        rw [filterMap_concat, hlatency]
        rfl
      constructor <;> rw [hlatencies]
      · rw [List.length_append, List.length_singleton, ← h.samples]
      · exact h.latency.sample ((latencyMs_nonneg_iff _).mpr (sub_nonneg.mpr hvalid))
    · rename_i hge
      rw [if_neg fun hvalid => hge ((latency_ge_zero _).mpr (sub_nonneg.mpr hvalid))] at hlatency
      have hskip := h.skip hlatency
      exact ⟨hskip.samples, hskip.latency⟩

/-- A frame that the vision monitor did not get, or failed on. -/
theorem VisionTallied.skip {vision : VisionMonitor} (h : VisionTallied handled vision)
    (hdetection : next.detection? = none) : VisionTallied (handled ++ [next]) vision := by
  have hsame :
      (handled ++ [next]).filterMap HandledFrame.detection? = handled.filterMap HandledFrame.detection? := by
    rw [filterMap_concat, hdetection, Option.toList_none, List.append_nil]
  constructor <;> rw [hsame]
  exacts [h.processed, h.withTargets, h.targets, h.latest, h.detectedAt, h.processing]

theorem VisionTallied.process {vision : VisionMonitor} (h : VisionTallied handled vision)
    {batch : TargetDetectionBatch} (hpositive : 0 ≤ batch.processingTime)
    (hdetection : next.detection? = some (batch, next.observedAt)) :
    VisionTallied (handled ++ [next]) (vision.process batch next.observedAt) := by
  have hdetections : (handled ++ [next]).filterMap HandledFrame.detection? =
      handled.filterMap HandledFrame.detection? ++ [(batch, next.observedAt)] := by
    rw [filterMap_concat, hdetection]
    rfl
  have htargets : (vision.process batch next.observedAt).framesWithTargets =
      (((handled ++ [next]).filterMap HandledFrame.detection?).filter
        fun detection => !detection.1.targets.isEmpty).length ∧
      (vision.process batch next.observedAt).lastDetectionAt =
        (((handled ++ [next]).filterMap HandledFrame.detection?).filter
          fun detection => !detection.1.targets.isEmpty).getLast?.map Prod.snd := by
    rw [hdetections, List.filter_append, VisionMonitor.process]
    cases hempty : batch.targets.isEmpty
    · rw [List.filter_cons_of_pos (by rw [hempty]; rfl), List.filter_nil, List.length_append, List.getLast?_concat]
      exact ⟨congrArg (· + 1) h.withTargets, rfl⟩
    · rw [List.filter_cons_of_neg (by rw [hempty]; exact Bool.false_ne_true), List.filter_nil, List.append_nil]
      exact ⟨h.withTargets, h.detectedAt⟩
  constructor
  case processed => rw [hdetections, List.length_append, List.length_singleton, ← h.processed]; rfl
  case withTargets => exact htargets.1
  case targets => rw [hdetections, List.map_append, List.sum_append, ← h.targets]; rfl
  case latest => rw [hdetections, List.getLast?_concat]; rfl
  case detectedAt => exact htargets.2
  case processing =>
    rw [hdetections]
    exact h.processing.sample ((processingMs_nonneg_iff (batch, next.observedAt)).mpr hpositive)

/-- The detector has been through with the frame. -/
theorem CameraTallied.keepFrame (hcounted : CameraCounted (handled ++ [next]) monitor)
    (hstamps : StampsTallied handled monitor) (hlatency : LatencyTallied handled monitor)
    (hvision : ∀ vision, monitor.visionMonitor = some vision → VisionTallied (handled ++ [next]) vision)
    (hkept : next.kept = true) (targets : List TargetObservation) :
    CameraTallied (handled ++ [next]) (monitor.keepFrame next.frame next.observedAt targets) := by
  have hcounted := hcounted.countLatency next.frame
  have hstamps := hstamps.countLatency hkept
  have hlatency := hlatency.countLatency hkept
  constructor
  case counted => exact ⟨hcounted.received, hcounted.size, hcounted.observed⟩
  case stamps => exact ⟨hstamps.stamped, hstamps.first, hstamps.last⟩
  case latency => exact ⟨hlatency.samples, hlatency.latency⟩
  case vision =>
    rw [CameraMonitor.keepFrame_visionMonitor]
    exact hvision

/-- One frame through the camera monitor. -/
theorem CameraTallied.processFrame (h : CameraTallied handled monitor) {detect : DetectorAnswer}
    (htimed : ∀ frame batch, detect frame = .ok batch → 0 ≤ batch.processingTime) (frame : CameraFrame)
    (now : TimePoint) :
    CameraTallied (handled ++ [⟨frame, now, MeasuredCamera.outcome monitor detect frame⟩])
      (monitor.processFrame detect frame now).1 := by
  have hcounted (outcome : DetectorOutcome) :
      CameraCounted (handled ++ [⟨frame, now, outcome⟩]) (monitor.countFrame frame now) :=
    h.counted.countFrame ⟨frame, now, outcome⟩
  have hstamps : StampsTallied handled (monitor.countFrame frame now) :=
    ⟨h.stamps.stamped, h.stamps.first, h.stamps.last⟩
  have hlatency : LatencyTallied handled (monitor.countFrame frame now) := ⟨h.latency.samples, h.latency.latency⟩
  have hcount : (monitor.countFrame frame now).visionMonitor = monitor.visionMonitor := rfl
  rw [CameraMonitor.processFrame, MeasuredCamera.outcome]
  cases hvision : monitor.visionMonitor with
  | none =>
      simp only [hcount, hvision]
      refine CameraTallied.keepFrame (hcounted .unasked) hstamps hlatency (fun vision hsome => ?_) rfl []
      rw [hcount, hvision] at hsome
      cases hsome
  | some vision =>
      cases hdetect : detect frame with
      | error error =>
          -- The exception leaves `poll` between the two counts.
          simp only [hcount, hvision]
          refine ⟨hcounted _, hstamps.skip rfl, hlatency.skip rfl, fun vision' hsome => ?_⟩
          exact (h.vision vision' hsome).skip rfl
      | ok batch =>
          simp only [hcount, hvision]
          have hcounted := hcounted (.detected batch)
          refine CameraTallied.keepFrame ?_ ?_ ?_ ?_ rfl _
          · exact ⟨hcounted.received, hcounted.size, hcounted.observed⟩
          · exact ⟨hstamps.stamped, hstamps.first, hstamps.last⟩
          · exact ⟨hlatency.samples, hlatency.latency⟩
          · rintro _ ⟨⟩
            exact (h.vision vision hvision).process (htimed frame batch hdetect) rfl

end Steps

namespace MeasuredCamera

theorem tallied_step {s : MeasuredCamera} (h : CameraTallied s.handled s.monitor) {step : MeasuredCameraStep}
    (htimed : step.Timed) : CameraTallied (s.step step).handled (s.step step).monitor := by
  cases step with
  | source action => exact h
  | poll detect now =>
      rw [MeasuredCamera.step, CameraMonitor.poll, CameraSource.takeLatestFrame]
      cases hwaiting : s.source.latestFrame with
      | none => simpa [hwaiting] using h
      | some frame => exact h.processFrame htimed frame now
  | take =>
      exact ⟨⟨h.counted.received, h.counted.size, h.counted.observed⟩,
        ⟨h.stamps.stamped, h.stamps.first, h.stamps.last⟩, ⟨h.latency.samples, h.latency.latency⟩, h.vision⟩
  | disable =>
      exact ⟨⟨h.counted.received, h.counted.size, h.counted.observed⟩,
        ⟨h.stamps.stamped, h.stamps.first, h.stamps.last⟩, ⟨h.latency.samples, h.latency.latency⟩,
        fun _ hvision => by cases hvision⟩

theorem tallied_start (camera : Bytes) (detector : Option Bytes) :
    CameraTallied (start camera detector).handled (start camera detector).monitor := by
  refine ⟨⟨rfl, rfl, rfl⟩, ⟨rfl, rfl, rfl⟩, ⟨rfl, .nothing _⟩, fun vision hvision => ?_⟩
  obtain ⟨description, -, rfl⟩ := Option.map_eq_some_iff.mp hvision
  exact ⟨rfl, rfl, rfl, rfl, rfl, .nothing _⟩

/-- The books are right after every run. -/
theorem tallied_run (camera : Bytes) (detector : Option Bytes) (steps : List MeasuredCameraStep)
    (htimed : ∀ step ∈ steps, step.Timed) :
    CameraTallied ((start camera detector).run steps).handled ((start camera detector).run steps).monitor := by
  induction steps using List.reverseRecOn with
  | nil => exact tallied_start camera detector
  | append_singleton before step ih =>
      obtain ⟨hbefore, hlast⟩ := List.forall_mem_append.mp htimed
      rw [run, List.foldl_append]
      exact tallied_step (ih hbefore) (hlast step List.mem_cons_self)

end MeasuredCamera

/-! ### The snapshots -/

theorem CameraTallied.shown {handled : List HandledFrame} {monitor : CameraMonitor}
    (h : CameraTallied handled monitor) (status : CameraSourceStatus) (now : TimePoint) :
    CameraShown handled now (monitor.snapshot status now) := by
  constructor
  case received => exact congrArg UInt64.ofNat h.counted.received
  case size => exact h.counted.size
  case age => rw [← h.counted.observed]; rfl
  case stamped => exact congrArg UInt64.ofNat h.stamps.stamped
  case rate =>
    have hseconds (first last : Int) : 0 < secondsOf (last - first) ↔ first < last := by
      rw [secondsOf, nearest_quotient_pos_iff _ (by norm_num), sub_pos]
    rw [frameRate, ← h.stamps.first, ← h.stamps.last, ← h.stamps.stamped, CameraMonitor.snapshot]
    simp only [hseconds]
  case latency =>
    refine h.latency.latency.summarises (fun nanoseconds hmem => ?_) h.latency.samples
    obtain ⟨_, -, -, hbound, -⟩ := h.latency.latency.maximum
    exact Near.quotient ((latencyMs_nonneg_iff nanoseconds).mp (hbound nanoseconds hmem).1) (by norm_num)

theorem VisionTallied.shown {handled : List HandledFrame} {vision : VisionMonitor}
    (h : VisionTallied handled vision) (now : TimePoint) :
    VisionShown (handled.filterMap HandledFrame.detection?) now (vision.snapshot now) := by
  constructor
  case processed => exact congrArg UInt64.ofNat h.processed
  case withTargets => exact congrArg UInt64.ofNat h.withTargets
  case targets => exact congrArg UInt64.ofNat h.targets
  case latest => exact h.latest
  case age => rw [← h.detectedAt]; rfl
  case processing =>
    refine h.processing.summarises (fun detection hmem => ?_) h.processed
    obtain ⟨_, -, -, hbound, -⟩ := h.processing.maximum
    exact Near.quotient ((processingMs_nonneg_iff detection).mp (hbound detection hmem).1) (by norm_num)

/-- What the snapshots say at any time of any run. The detector that a run starts with may be gone. -/
theorem snapshots_measured (camera : Bytes) (detector : Option Bytes) (steps : List MeasuredCameraStep)
    (htimed : ∀ step ∈ steps, step.Timed) (now : TimePoint) :
    let s := (MeasuredCamera.start camera detector).run steps
    CameraShown s.handled now (s.monitor.snapshot s.source.status now) ∧
      ∀ vision, s.monitor.visionMonitor = some vision →
        VisionShown (s.handled.filterMap HandledFrame.detection?) now (vision.snapshot now) := by
  intro s
  have htallied := MeasuredCamera.tallied_run camera detector steps htimed
  exact ⟨htallied.shown s.source.status now, fun vision hvision => (htallied.vision vision hvision).shown now⟩

def seenTarget : TargetObservation :=
  ⟨4, "airplane", ⟨.finite 1, .finite 1⟩, #v[⟨.zero, .zero⟩, ⟨.finite 2, .zero⟩, ⟨.finite 2, .finite 2⟩,
    ⟨.zero, .finite 2⟩], .finite 50⟩

/-- The frame of a time in milliseconds that is received so many nanoseconds later. -/
def measuredFrame (capturedMs delay : Int) : CameraFrame :=
  ⟨0, 2, 2, List.replicate 6 0, some (milliseconds capturedMs), milliseconds capturedMs + delay⟩

/-- Three frames: nothing is detected in the first, the detector fails on the second, and in the third there are two
targets. -/
def measuredSteps : List MeasuredCameraStep :=
  [.source (.deliver (measuredFrame 0 1500000)),
    .poll (fun frame => .ok ⟨frame.sequence, frame.capturedAt, 0, 1500, []⟩) 2000000,
    .source (.deliver (measuredFrame 50 7000000)),
    .poll (fun _ => .error "invalid YUV420 frame dimensions") 60000000,
    .source (.deliver (measuredFrame 100 2500000)),
    .poll (fun frame => .ok ⟨frame.sequence, frame.capturedAt, 0, 2500, [seenTarget, seenTarget]⟩) 103000000]

/-- The frame without a detection has no part in the latencies, and its capture time none in the rate. -/
theorem snapshots_measured_thrice :
    let s := (MeasuredCamera.start (literal "camera") (some (literal "detector"))).run measuredSteps
    let snapshot := s.monitor.snapshot s.source.status 105000000
    snapshot.receivedFrames = 3 ∧ snapshot.framesWithCaptureTimestamp = 2 ∧
      (∃ q, snapshot.averageLatencyMs = some (.finite q) ∧ Near 5 2 q) ∧
      ∃ vision, s.monitor.visionMonitor = some vision ∧ (vision.snapshot 105000000).processedFrames = 2 ∧
        (vision.snapshot 105000000).framesWithTargets = 1 ∧ (vision.snapshot 105000000).totalTargets = 2 ∧
        (vision.snapshot 105000000).latestTargets = [seenTarget, seenTarget] := by
  intro s snapshot
  have htimed : ∀ step ∈ measuredSteps, step.Timed := by
    refine List.forall_mem_cons.mpr ⟨trivial, List.forall_mem_cons.mpr ⟨?_, List.forall_mem_cons.mpr ⟨trivial,
      List.forall_mem_cons.mpr ⟨?_, List.forall_mem_cons.mpr ⟨trivial, List.forall_mem_singleton.mpr ?_⟩⟩⟩⟩⟩
    · rintro frame _ ⟨⟩
      exact Int.natCast_nonneg 1500
    · rintro frame _ ⟨⟩
    · rintro frame _ ⟨⟩
      exact Int.natCast_nonneg 2500
  obtain ⟨hcamera, hvisions⟩ :=
    snapshots_measured (literal "camera") (some (literal "detector")) measuredSteps htimed 105000000
  have hframes : s.handled.length = 3 ∧ (s.handled.filterMap HandledFrame.stamp?).length = 2 ∧
      s.handled.filterMap HandledFrame.latency? = [1500000, 2500000] := by
    decide +kernel
  have hdetections : (s.handled.filterMap HandledFrame.detection?).length = 2 ∧
      ((s.handled.filterMap HandledFrame.detection?).filter fun detection => !detection.1.targets.isEmpty).length = 1 ∧
      ((s.handled.filterMap HandledFrame.detection?).map fun detection => detection.1.targets.length).sum = 2 ∧
      ((s.handled.filterMap HandledFrame.detection?).getLast?.elim [] fun detection => detection.1.targets) =
        [seenTarget, seenTarget] := by
    decide +kernel
  obtain ⟨hlength, hstamps, hlatencies⟩ := hframes
  obtain ⟨hprocessed, hwithTargets, htargets, hlatest⟩ := hdetections
  have hlatency := hcamera.latency
  rw [hlatencies] at hlatency
  obtain ⟨q, hq, hnear⟩ := hlatency.average (List.cons_ne_nil _ _) (by decide)
  have hmean : ([1500000, 2500000].map fun nanoseconds : Int => (nanoseconds : ℚ) / 1000000).sum /
      ([1500000, 2500000] : List Int).length = 2 := by norm_num
  rw [hmean] at hnear
  obtain ⟨vision, hvision⟩ : ∃ vision, s.monitor.visionMonitor = some vision :=
    Option.isSome_iff_exists.mp (by decide +kernel)
  have hshown := hvisions vision hvision
  exact ⟨hcamera.received.trans (by rw [hlength]; rfl), hcamera.stamped.trans (by rw [hstamps]; rfl), ⟨q, hq, hnear⟩,
    vision, hvision, hshown.processed.trans (by rw [hprocessed]; rfl),
    hshown.withTargets.trans (by rw [hwithTargets]; rfl), hshown.targets.trans (by rw [htargets]; rfl),
    hshown.latest.trans hlatest⟩

end OnboardAutonomy
