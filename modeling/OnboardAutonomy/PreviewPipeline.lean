import OnboardAutonomy.CameraMonitor
import OnboardAutonomy.Histories
import OnboardAutonomy.Mailbox

/-! `AsyncCameraMonitor`: a worker polls a camera monitor and hands its frames on to a consumer. A frame passes
through three slots, that of the source, that of the monitor and that of the consumer. The worker touches
what it shares with the others at most once in a step, so the steps below, in any order, are all the
interleavings of the source, the worker and the consumer. -/

namespace OnboardAutonomy

/-- Where the worker is in its loop. -/
inductive PreviewWorker where
  | polling
  | processing (frame : CameraFrame) (now : TimePoint)
  | handingOver

structure PreviewPipeline where
  source : CameraSource
  monitor : CameraMonitor
  worker : PreviewWorker := .polling
  latestFrame : Option ProcessedCameraFrame := none
  latestError : Option String := none

/-- What happens in a run. -/
inductive PreviewEvent where
  | published (frame : CameraFrame)
  | taken (frame : CameraFrame)
  | detected (frame : CameraFrame) (targets : List TargetObservation)
  | failed (frame : CameraFrame) (error : String)
  | placed (frame : ProcessedCameraFrame)
  | obtained (frame : ProcessedCameraFrame)

/-- The detector answers for the frame that the worker asks it for in that step, if it does. -/
inductive PreviewStep where
  | source (action : CameraSourceAction)
  | worker (now : TimePoint) (detect : DetectorAnswer)
  | takeFrame
  | takeError

namespace PreviewPipeline

/-- The call of the detector in `processFrame`. -/
def asks (monitor : CameraMonitor) (detect : DetectorAnswer) (frame : CameraFrame) : List PreviewEvent :=
  match monitor.visionMonitor with
  | none => []
  | some _ =>
      match detect frame with
      | .ok batch => [.detected frame batch.targets]
      | .error error => [.failed frame error]

/-- The part of `poll` that takes the frame from the source. -/
def pollSource (p : PreviewPipeline) (now : TimePoint) : PreviewPipeline × List PreviewEvent :=
  match p.source.takeLatestFrame with
  | (none, source) =>
      ({ p with
        source := source
        worker := .handingOver }, [])
  | (some frame, source) =>
      ({ p with
        source := source
        worker := .processing frame now }, [.taken frame])

/-- The rest of `poll`, and `disable_failed_detector` when it throws. -/
def process (p : PreviewPipeline) (detect : DetectorAnswer) (frame : CameraFrame) (now : TimePoint) :
    PreviewPipeline × List PreviewEvent :=
  match p.monitor.processFrame detect frame now with
  | (monitor, none) =>
      ({ p with
        monitor := monitor
        worker := .handingOver }, asks p.monitor detect frame)
  | (monitor, some error) =>
      ({ p with
        monitor := monitor.disableTargetDetection
        latestError := some error
        worker := .handingOver }, asks p.monitor detect frame)

/-- The end of an iteration: a processed frame replaces what is in the consumer's slot. -/
def handOver (p : PreviewPipeline) : PreviewPipeline × List PreviewEvent :=
  match p.monitor.takeLatestProcessedFrame with
  | (some frame, monitor) =>
      ({ p with
        monitor := monitor
        latestFrame := some frame
        worker := .polling }, [.placed frame])
  | (none, monitor) =>
      ({ p with
        monitor := monitor
        worker := .polling }, [])

def step (p : PreviewPipeline) : PreviewStep → PreviewPipeline × List PreviewEvent
  | .source action =>
      ({ p with source := p.source.apply action }, (p.source.publishes action).map .published)
  | .worker now detect =>
      match p.worker with
      | .polling => p.pollSource now
      | .processing frame now => p.process detect frame now
      | .handingOver => p.handOver
  | .takeFrame => ({ p with latestFrame := none }, (p.latestFrame.map .obtained).toList)
  | .takeError => ({ p with latestError := none }, [])

/-- A monitor that has just been built on a source and a detector. -/
def start (camera detector : Bytes) : PreviewPipeline where
  source := { status := { description := camera } }
  monitor := { visionMonitor := some { description := detector } }

/-- A pipeline and what has happened so far. -/
def advance (r : PreviewPipeline × List PreviewEvent) (step : PreviewStep) :
    PreviewPipeline × List PreviewEvent := ((r.1.step step).1, r.2 ++ (r.1.step step).2)

def run (camera detector : Bytes) (steps : List PreviewStep) : PreviewPipeline × List PreviewEvent :=
  steps.foldl advance (start camera detector, [])

end PreviewPipeline

/-! ### What a log says -/

namespace PreviewEvent

def published? : PreviewEvent → Option CameraFrame
  | published frame => some frame
  | _ => none

def taken? : PreviewEvent → Option CameraFrame
  | taken frame => some frame
  | _ => none

/-- The frame that the detector was asked for. -/
def asked? : PreviewEvent → Option CameraFrame
  | detected frame _ => some frame
  | failed frame _ => some frame
  | _ => none

def placed? : PreviewEvent → Option ProcessedCameraFrame
  | placed frame => some frame
  | _ => none

def obtained? : PreviewEvent → Option ProcessedCameraFrame
  | obtained frame => some frame
  | _ => none

end PreviewEvent

namespace PreviewPipeline

/-- The frame that the worker has taken in the current iteration, unless its detection has failed. -/
def inHand (p : PreviewPipeline) : List CameraFrame :=
  match p.worker with
  | .polling => []
  | .processing frame _ => [frame]
  | .handingOver => p.monitor.latestProcessedFrame.toList.map (·.frame)

/-- The frame that the detector has not been asked for yet. -/
def unasked (p : PreviewPipeline) : List CameraFrame :=
  match p.worker with
  | .processing frame _ => [frame]
  | _ => []

/-- The three ways in which the worker gets past the detector. -/
theorem process_cases (p : PreviewPipeline) (detect : DetectorAnswer) (frame : CameraFrame) (now : TimePoint) :
    (p.monitor.visionMonitor = none ∧ ∃ monitor : CameraMonitor, monitor.visionMonitor = none ∧
      monitor.latestProcessedFrame = some ⟨frame, now, []⟩ ∧
      p.process detect frame now =
        ({ p with
          monitor := monitor
          worker := .handingOver }, [])) ∨
    (p.monitor.visionMonitor.isSome = true ∧ ∃ (monitor : CameraMonitor) (targets : List TargetObservation),
      monitor.visionMonitor.isSome = true ∧ monitor.latestProcessedFrame = some ⟨frame, now, targets⟩ ∧
      p.process detect frame now =
        ({ p with
          monitor := monitor
          worker := .handingOver }, [.detected frame targets])) ∨
    (p.monitor.visionMonitor.isSome = true ∧ ∃ (monitor : CameraMonitor) (error : String),
      monitor.visionMonitor = none ∧ monitor.latestProcessedFrame = p.monitor.latestProcessedFrame ∧
      p.process detect frame now =
        ({ p with
          monitor := monitor
          latestError := some error
          worker := .handingOver }, [.failed frame error])) := by
  have hprocess : p.process detect frame now = match p.monitor.processFrame detect frame now with
    | (monitor, none) => ({ p with monitor := monitor, worker := .handingOver }, asks p.monitor detect frame)
    | (monitor, some error) =>
        ({ p with
          monitor := monitor.disableTargetDetection
          latestError := some error
          worker := .handingOver }, asks p.monitor detect frame) := rfl
  have hcases := p.monitor.processFrame_cases detect frame now
  rcases hresult : p.monitor.processFrame detect frame now with ⟨monitor, error⟩
  rw [hresult] at hcases hprocess
  rcases hcases with ⟨hvision, rfl, hafter, hlatest⟩ | ⟨vision, batch, hvision, hdetect, rfl, hafter, hlatest⟩ |
    ⟨vision, message, hvision, hdetect, rfl, hlatest⟩
  · exact .inl ⟨hvision, monitor, hafter, hlatest, by rw [hprocess, asks, hvision]⟩
  · refine .inr (.inl ⟨by rw [hvision]; rfl, monitor, batch.targets, ?_, hlatest, ?_⟩)
    · rw [show monitor.visionMonitor = _ from hafter]
      rfl
    · rw [hprocess, asks, hvision, hdetect]
  · refine .inr (.inr ⟨by rw [hvision]; rfl, monitor.disableTargetDetection, message, rfl, hlatest, ?_⟩)
    rw [hprocess, asks, hvision, hdetect]

theorem pollSource_none {p : PreviewPipeline} (h : p.source.latestFrame = none) (now : TimePoint) :
    p.pollSource now = ({ p with worker := .handingOver }, []) := by
  obtain ⟨⟨status, latestFrame, message, next⟩, monitor, worker, slot, error⟩ := p
  obtain rfl : latestFrame = none := h
  rfl

theorem pollSource_some {p : PreviewPipeline} {frame : CameraFrame} (h : p.source.latestFrame = some frame)
    (now : TimePoint) : p.pollSource now =
      ({ p with
        source := { p.source with latestFrame := none }
        worker := .processing frame now }, [.taken frame]) := by
  rw [pollSource, CameraSource.takeLatestFrame, h]

theorem handOver_none {p : PreviewPipeline} (h : p.monitor.latestProcessedFrame = none) :
    p.handOver = ({ p with worker := .polling }, []) := by
  rw [handOver, CameraMonitor.takeLatestProcessedFrame, h]
  simp only [← h]

theorem handOver_some {p : PreviewPipeline} {frame : ProcessedCameraFrame}
    (h : p.monitor.latestProcessedFrame = some frame) : p.handOver =
      ({ p with
        monitor := { p.monitor with latestProcessedFrame := none }
        latestFrame := some frame
        worker := .polling }, [.placed frame]) := by
  rw [handOver, CameraMonitor.takeLatestProcessedFrame, h]

/-- What holds after each kind of step holds after a step. -/
theorem advance_rule {P : PreviewPipeline × List PreviewEvent → Prop} {p : PreviewPipeline}
    {log : List PreviewEvent} (step : PreviewStep)
    (source : ∀ action, P ({ p with source := p.source.apply action },
      log ++ (p.source.publishes action).map PreviewEvent.published))
    (pollSource : ∀ now, p.worker = .polling → P ((p.pollSource now).1, log ++ (p.pollSource now).2))
    (process : ∀ frame now detect, p.worker = .processing frame now →
      P ((p.process detect frame now).1, log ++ (p.process detect frame now).2))
    (handOver : p.worker = .handingOver → P (p.handOver.1, log ++ p.handOver.2))
    (takeFrame : P ({ p with latestFrame := none }, log ++ (p.latestFrame.map PreviewEvent.obtained).toList))
    (takeError : P ({ p with latestError := none }, log)) : P (advance (p, log) step) := by
  cases step with
  | source action => exact source action
  | takeFrame => exact takeFrame
  | takeError =>
      rw [advance, step, List.append_nil]
      exact takeError
  | worker now detect =>
      cases hworker : p.worker with
      | polling =>
          simp only [advance, PreviewPipeline.step, hworker]
          exact pollSource now hworker
      | processing frame taken =>
          simp only [advance, PreviewPipeline.step, hworker]
          exact process frame taken detect hworker
      | handingOver =>
          simp only [advance, PreviewPipeline.step, hworker]
          exact handOver hworker

/-! ### The order of the frames -/

/-- The consumer's frames, the frames on their way to it and the frame that waits in the source leave out
some of the published frames, and change nothing in their order. -/
structure Ordered (r : PreviewPipeline × List PreviewEvent) : Prop where
  through : ((r.2.filterMap PreviewEvent.obtained?).map (·.frame) ++ r.1.latestFrame.toList.map (·.frame) ++
    r.1.inHand ++ r.1.source.latestFrame.toList).Sublist (r.2.filterMap PreviewEvent.published?)
  asked : (r.2.filterMap PreviewEvent.asked? ++ r.1.unasked ++ r.1.source.latestFrame.toList).Sublist
    (r.2.filterMap PreviewEvent.published?)
  numbered : (r.2.filterMap PreviewEvent.published?).map CameraFrame.sequence =
    List.range' 1 r.1.source.nextSequence
  handed : r.1.monitor.latestProcessedFrame.isSome = true → r.1.worker = .handingOver

theorem ordered_start (camera detector : Bytes) : Ordered (start camera detector, []) where
  through := List.nil_sublist _
  asked := List.nil_sublist _
  numbered := rfl
  handed h := by cases h

theorem Ordered.source {p : PreviewPipeline} {log : List PreviewEvent} (h : Ordered (p, log))
    (action : CameraSourceAction) : Ordered ({ p with source := p.source.apply action },
      log ++ (p.source.publishes action).map PreviewEvent.published) := by
  obtain ⟨hthrough, hasked, hnumbered, hhanded⟩ := h
  rcases p.source.apply_cases action with ⟨frame, rfl⟩ | ⟨hpublishes, hnext, _, _, hslot⟩
  · refine ⟨?_, ?_, ?_, hhanded⟩
    · simp only [CameraSource.publishes, List.filterMap_append, List.map_cons, List.map_nil]
      simp only [List.filterMap_cons, List.filterMap_nil, PreviewEvent.obtained?, PreviewEvent.published?,
        List.append_nil]
      exact Mailbox.sublist_put _ hthrough
    · simp only [CameraSource.publishes, List.filterMap_append, List.map_cons, List.map_nil]
      simp only [List.filterMap_cons, List.filterMap_nil, PreviewEvent.asked?, PreviewEvent.published?,
        List.append_nil]
      exact Mailbox.sublist_put _ hasked
    · simp only [CameraSource.publishes, List.filterMap_append, List.map_cons, List.map_nil]
      simp only [List.filterMap_cons, List.filterMap_nil, PreviewEvent.published?, List.map_append, hnumbered]
      show _ = List.range' 1 (p.source.nextSequence + 1)
      rw [List.range'_1_concat, Nat.add_comm]
      rfl
  · have hwaiting : (p.source.apply action).latestFrame.toList.Sublist p.source.latestFrame.toList := by
      rw [hslot]
      split
      · exact List.nil_sublist _
      · exact List.Sublist.refl _
    rw [hpublishes, List.map_nil, List.append_nil]
    refine ⟨(hwaiting.append_left _).trans hthrough, (hwaiting.append_left _).trans hasked, ?_, hhanded⟩
    rw [hnumbered, hnext]

theorem Ordered.pollSource {p : PreviewPipeline} {log : List PreviewEvent} (h : Ordered (p, log))
    (hworker : p.worker = .polling) (now : TimePoint) :
    Ordered ((p.pollSource now).1, log ++ (p.pollSource now).2) := by
  obtain ⟨hthrough, hasked, hnumbered, hhanded⟩ := h
  have hempty : p.monitor.latestProcessedFrame = none := by
    rw [← Option.not_isSome_iff_eq_none]
    intro hsome
    cases hworker.symm.trans (hhanded hsome)
  simp only [inHand, unasked, hworker] at hthrough hasked
  cases hframe : p.source.latestFrame with
  | none =>
      rw [pollSource_none hframe, List.append_nil]
      refine ⟨?_, hasked, hnumbered, fun _ => rfl⟩
      simp only [inHand, hempty]
      exact hthrough
  | some frame =>
      rw [pollSource_some hframe]
      rw [hframe] at hthrough hasked
      refine ⟨?_, ?_, ?_, ?_⟩
      · simpa [List.filterMap_append, List.filterMap_cons, PreviewEvent.obtained?, PreviewEvent.published?,
          inHand] using hthrough
      · simpa [List.filterMap_append, List.filterMap_cons, PreviewEvent.asked?, PreviewEvent.published?,
          unasked] using hasked
      · simpa [List.filterMap_append, List.filterMap_cons, PreviewEvent.published?] using hnumbered
      · intro hsome
        rw [hempty] at hsome
        cases hsome

theorem Ordered.process {p : PreviewPipeline} {log : List PreviewEvent} (h : Ordered (p, log))
    {frame : CameraFrame} {now : TimePoint} (hworker : p.worker = .processing frame now)
    (detect : DetectorAnswer) :
    Ordered ((p.process detect frame now).1, log ++ (p.process detect frame now).2) := by
  obtain ⟨hthrough, hasked, hnumbered, hhanded⟩ := h
  have hempty : p.monitor.latestProcessedFrame = none := by
    rw [← Option.not_isSome_iff_eq_none]
    intro hsome
    cases hworker.symm.trans (hhanded hsome)
  simp only [inHand, unasked, hworker] at hthrough hasked
  rcases p.process_cases detect frame now with ⟨_, monitor, _, hlatest, hprocess⟩ |
    ⟨_, monitor, targets, _, hlatest, hprocess⟩ | ⟨_, monitor, error, _, hlatest, hprocess⟩
  · rw [hprocess, List.append_nil]
    refine ⟨?_, ?_, hnumbered, fun _ => rfl⟩
    · simp only [inHand, hlatest]
      exact hthrough
    · simp only [unasked, List.append_nil]
      exact ((List.sublist_append_left _ [frame]).append_right _).trans hasked
  · rw [hprocess]
    refine ⟨?_, ?_, ?_, fun _ => rfl⟩
    · simp only [inHand, hlatest]
      simpa [List.filterMap_append, List.filterMap_cons, PreviewEvent.obtained?, PreviewEvent.published?] using
        hthrough
    · simpa [List.filterMap_append, List.filterMap_cons, PreviewEvent.asked?, PreviewEvent.published?,
        unasked] using hasked
    · simpa [List.filterMap_append, List.filterMap_cons, PreviewEvent.published?] using hnumbered
  · rw [hprocess]
    refine ⟨?_, ?_, ?_, fun _ => rfl⟩
    · simp only [inHand, hlatest, hempty]
      have hdropped := ((List.sublist_append_left _ [frame]).append_right _).trans hthrough
      simpa [List.filterMap_append, List.filterMap_cons, PreviewEvent.obtained?, PreviewEvent.published?] using
        hdropped
    · simpa [List.filterMap_append, List.filterMap_cons, PreviewEvent.asked?, PreviewEvent.published?,
        unasked] using hasked
    · simpa [List.filterMap_append, List.filterMap_cons, PreviewEvent.published?] using hnumbered

theorem Ordered.handOver {p : PreviewPipeline} {log : List PreviewEvent} (h : Ordered (p, log))
    (hworker : p.worker = .handingOver) : Ordered (p.handOver.1, log ++ p.handOver.2) := by
  obtain ⟨hthrough, hasked, hnumbered, hhanded⟩ := h
  simp only [inHand, unasked, hworker] at hthrough hasked
  cases hlatest : p.monitor.latestProcessedFrame with
  | none =>
      rw [handOver_none hlatest, List.append_nil]
      refine ⟨?_, hasked, hnumbered, ?_⟩
      · rw [hlatest] at hthrough
        exact hthrough
      · intro hsome
        rw [hlatest] at hsome
        cases hsome
  | some frame =>
      rw [handOver_some hlatest]
      rw [hlatest] at hthrough
      refine ⟨?_, ?_, ?_, ?_⟩
      · rw [List.append_assoc] at hthrough
        have hreplaced := Mailbox.sublist_drop hthrough
        simpa [List.filterMap_append, List.filterMap_cons, PreviewEvent.obtained?, PreviewEvent.published?,
          inHand] using hreplaced
      · simpa [List.filterMap_append, List.filterMap_cons, PreviewEvent.asked?, PreviewEvent.published?,
          unasked] using hasked
      · simpa [List.filterMap_append, List.filterMap_cons, PreviewEvent.published?] using hnumbered
      · intro hsome
        cases hsome

theorem Ordered.takeFrame {p : PreviewPipeline} {log : List PreviewEvent} (h : Ordered (p, log)) :
    Ordered ({ p with latestFrame := none }, log ++ (p.latestFrame.map PreviewEvent.obtained).toList) := by
  obtain ⟨hthrough, hasked, hnumbered, hhanded⟩ := h
  have hhand : inHand { p with latestFrame := none } = p.inHand := rfl
  have hunasked : unasked { p with latestFrame := none } = p.unasked := rfl
  cases hslot : p.latestFrame with
  | none =>
      rw [Option.map_none, Option.toList_none, List.append_nil]
      simp only [hslot] at hthrough
      exact ⟨hthrough, hasked, hnumbered, hhanded⟩
  | some frame =>
      simp only [hslot] at hthrough
      refine ⟨?_, ?_, ?_, hhanded⟩
      · simpa [List.filterMap_append, List.filterMap_cons, PreviewEvent.obtained?, PreviewEvent.published?,
          hhand] using hthrough
      · simpa [List.filterMap_append, List.filterMap_cons, PreviewEvent.asked?, PreviewEvent.published?,
          hunasked] using hasked
      · simpa [List.filterMap_append, List.filterMap_cons, PreviewEvent.published?] using hnumbered

theorem Ordered.advance {p : PreviewPipeline} {log : List PreviewEvent} (h : Ordered (p, log))
    (step : PreviewStep) : Ordered (advance (p, log) step) := by
  apply advance_rule step
  · exact h.source
  · exact fun now hworker => h.pollSource hworker now
  · exact fun frame now detect hworker => h.process hworker detect
  · exact h.handOver
  · exact h.takeFrame
  · exact ⟨h.through, h.asked, h.numbered, h.handed⟩

/-- Only a worker that is past the detector has a processed frame in hand. -/
theorem Ordered.nothing_kept {r : PreviewPipeline × List PreviewEvent} (h : Ordered r)
    (hworker : ¬(r.1.worker = .handingOver)) : r.1.monitor.latestProcessedFrame = none := by
  rw [← Option.not_isSome_iff_eq_none]
  exact fun hsome => hworker (h.handed hsome)

/-! ### After a failure -/

/-- Once the detector has failed it is never asked again, and every frame that the worker takes from then on
is placed in the consumer's slot, but for the one it has in hand. -/
def Disabled (r : PreviewPipeline × List PreviewEvent) : Prop :=
  ∀ before frame error after, r.2 = before ++ .failed frame error :: after →
    r.1.monitor.visionMonitor = none ∧ (∀ event ∈ after, event.asked? = none) ∧
    after.filterMap PreviewEvent.taken? = (after.filterMap PreviewEvent.placed?).map (·.frame) ++ r.1.inHand

/-- The detector stays disabled over a step that does not ask it, and in which the worker loses no frame. -/
theorem Disabled.extend {p q : PreviewPipeline} {log events : List PreviewEvent} (h : Disabled (p, log))
    (hquiet : ∀ event ∈ events, event.asked? = none)
    (hvision : p.monitor.visionMonitor = none → q.monitor.visionMonitor = none)
    (hhand : p.monitor.visionMonitor = none → p.inHand ++ events.filterMap PreviewEvent.taken? =
      (events.filterMap PreviewEvent.placed?).map (·.frame) ++ q.inHand) : Disabled (q, log ++ events) := by
  intro before frame error after hlog
  rcases Histories.split_append hlog with ⟨rest, hbefore, rfl⟩ | ⟨middle, _, hevents⟩
  · obtain ⟨hnone, hrest, htaken⟩ := h before frame error rest hbefore
    refine ⟨hvision hnone, ?_, ?_⟩
    · intro event hmem
      rcases List.mem_append.mp hmem with hmem | hmem
      · exact hrest event hmem
      · exact hquiet event hmem
    · rw [List.filterMap_append, List.filterMap_append, List.map_append, htaken, List.append_assoc, hhand hnone,
        List.append_assoc]
  · have hfailed := hquiet (.failed frame error)
      (by rw [hevents]; exact List.mem_append_right _ List.mem_cons_self)
    cases hfailed

/-- While there is a detector, it has not failed. -/
theorem Disabled.not_failed {p : PreviewPipeline} {log : List PreviewEvent} (h : Disabled (p, log))
    (hvision : p.monitor.visionMonitor.isSome = true) (frame : CameraFrame) (error : String) :
    .failed frame error ∉ log := by
  intro hmem
  obtain ⟨before, after, hlog⟩ := List.append_of_mem hmem
  obtain ⟨hnone, _⟩ := h before frame error after hlog
  rw [show p.monitor.visionMonitor = none from hnone] at hvision
  cases hvision

theorem Disabled.source {p : PreviewPipeline} {log : List PreviewEvent} (h : Disabled (p, log))
    (action : CameraSourceAction) : Disabled ({ p with source := p.source.apply action },
      log ++ (p.source.publishes action).map PreviewEvent.published) := by
  apply h.extend
  · intro event hmem
    obtain ⟨frame, _, rfl⟩ := List.mem_map.mp hmem
    rfl
  · exact id
  · intro _
    have hhand : inHand { p with source := p.source.apply action } = p.inHand := rfl
    rw [hhand]
    cases action <;>
      simp [CameraSource.publishes, List.filterMap_cons, PreviewEvent.taken?, PreviewEvent.placed?]

theorem Disabled.pollSource {p : PreviewPipeline} {log : List PreviewEvent} (h : Disabled (p, log))
    (hworker : p.worker = .polling) (hempty : p.monitor.latestProcessedFrame = none) (now : TimePoint) :
    Disabled ((p.pollSource now).1, log ++ (p.pollSource now).2) := by
  cases hframe : p.source.latestFrame with
  | none =>
      rw [pollSource_none hframe]
      refine h.extend (fun _ hmem => absurd hmem List.not_mem_nil) id fun _ => ?_
      simp only [inHand, hworker, hempty]
      rfl
  | some frame =>
      rw [pollSource_some hframe]
      refine h.extend (List.forall_mem_singleton.mpr rfl) id fun _ => ?_
      simp only [inHand, hworker]
      rfl

/-- The failure of the detector is the last event, or lies behind. -/
theorem Disabled.process {p : PreviewPipeline} {log : List PreviewEvent} (h : Disabled (p, log))
    {frame : CameraFrame} {now : TimePoint} (hworker : p.worker = .processing frame now)
    (hempty : p.monitor.latestProcessedFrame = none) (detect : DetectorAnswer) :
    Disabled ((p.process detect frame now).1, log ++ (p.process detect frame now).2) := by
  rcases p.process_cases detect frame now with ⟨hvision, monitor, hnone, hlatest, hprocess⟩ |
    ⟨hvision, monitor, targets, _, hlatest, hprocess⟩ | ⟨hvision, monitor, error, hnone, hlatest, hprocess⟩
  all_goals rw [hprocess]
  · refine h.extend (fun _ hmem => absurd hmem List.not_mem_nil) (fun _ => hnone) fun _ => ?_
    simp only [inHand, hworker, hlatest]
    rfl
  · intro before failing error after hlog
    have hmem : PreviewEvent.failed failing error ∈ log ++ [.detected frame targets] := by
      rw [show log ++ [.detected frame targets] = _ from hlog]
      exact List.mem_append_right _ List.mem_cons_self
    rcases List.mem_append.mp hmem with hmem | hmem
    · exact absurd hmem (h.not_failed hvision failing error)
    · cases List.mem_singleton.mp hmem
  · intro before failing message after hlog
    rcases Histories.split_append hlog with ⟨rest, hbefore, _⟩ | ⟨middle, _, hevents⟩
    · refine absurd ?_ (h.not_failed hvision failing message)
      rw [hbefore]
      exact List.mem_append_right _ List.mem_cons_self
    · obtain ⟨rfl, hevent⟩ := List.append_eq_singleton_iff.mp hevents.symm |>.resolve_right nofun
      obtain ⟨-, rfl⟩ := List.cons.inj hevent
      refine ⟨hnone, fun _ hmem => absurd hmem List.not_mem_nil, ?_⟩
      simp only [inHand, hlatest, hempty]
      rfl

theorem Disabled.handOver {p : PreviewPipeline} {log : List PreviewEvent} (h : Disabled (p, log))
    (hworker : p.worker = .handingOver) : Disabled (p.handOver.1, log ++ p.handOver.2) := by
  cases hlatest : p.monitor.latestProcessedFrame with
  | none =>
      rw [handOver_none hlatest]
      refine h.extend (fun _ hmem => absurd hmem List.not_mem_nil) id fun _ => ?_
      simp only [inHand, hworker, hlatest]
      rfl
  | some frame =>
      rw [handOver_some hlatest]
      refine h.extend (List.forall_mem_singleton.mpr rfl) id fun _ => ?_
      simp only [inHand, hworker, hlatest]
      rfl

theorem Disabled.takeFrame {p : PreviewPipeline} {log : List PreviewEvent} (h : Disabled (p, log)) :
    Disabled ({ p with latestFrame := none }, log ++ (p.latestFrame.map PreviewEvent.obtained).toList) := by
  have hhand : inHand { p with latestFrame := none } = p.inHand := rfl
  apply h.extend
  · intro event hmem
    obtain ⟨frame, _, rfl⟩ := Option.map_eq_some_iff.mp (Option.mem_toList.mp hmem)
    rfl
  · exact id
  · intro _
    rw [hhand]
    cases p.latestFrame <;> simp [List.filterMap_cons, PreviewEvent.taken?, PreviewEvent.placed?]

theorem Disabled.advance {p : PreviewPipeline} {log : List PreviewEvent} (h : Disabled (p, log))
    (hordered : Ordered (p, log)) (step : PreviewStep) : Disabled (advance (p, log) step) := by
  apply advance_rule step
  · exact h.source
  · intro now hworker
    exact h.pollSource hworker (hordered.nothing_kept (by rw [hworker]; exact PreviewWorker.noConfusion)) now
  · intro frame now detect hworker
    exact h.process hworker (hordered.nothing_kept (by rw [hworker]; exact PreviewWorker.noConfusion)) detect
  · exact h.handOver
  · exact h.takeFrame
  · exact h

/-! ### Frames and their targets -/

/-- The worker took a frame when the detector had already failed. -/
def TakenAfterFailure (log : List PreviewEvent) (frame : CameraFrame) : Prop :=
  ∃ before after, log = before ++ .taken frame :: after ∧ ∃ failing error, .failed failing error ∈ before

/-- The targets of a frame are what the detector returned for it; a frame that was taken after the failure
has none. -/
def PairedFrame (log : List PreviewEvent) (processed : ProcessedCameraFrame) : Prop :=
  .detected processed.frame processed.targets ∈ log ∨
    (processed.targets = [] ∧ TakenAfterFailure log processed.frame)

theorem TakenAfterFailure.append {log : List PreviewEvent} {frame : CameraFrame}
    (h : TakenAfterFailure log frame) (events : List PreviewEvent) : TakenAfterFailure (log ++ events) frame := by
  obtain ⟨before, after, rfl, hfailed⟩ := h
  exact ⟨before, after ++ events, by rw [List.append_assoc, List.cons_append], hfailed⟩

theorem PairedFrame.append {log : List PreviewEvent} {processed : ProcessedCameraFrame}
    (h : PairedFrame log processed) (events : List PreviewEvent) : PairedFrame (log ++ events) processed :=
  h.imp (List.mem_append_left events) fun h => ⟨h.1, h.2.append events⟩

/-- Every processed frame, wherever it is, is paired with its targets. -/
structure Paired (r : PreviewPipeline × List PreviewEvent) : Prop where
  failed : r.1.monitor.visionMonitor = none → ∃ frame error, .failed frame error ∈ r.2
  hand : ∀ frame now, r.1.worker = .processing frame now → r.1.monitor.visionMonitor = none →
    TakenAfterFailure r.2 frame
  kept : ∀ processed ∈ r.1.monitor.latestProcessedFrame, PairedFrame r.2 processed
  slot : ∀ processed ∈ r.1.latestFrame, PairedFrame r.2 processed
  obtained : ∀ processed, .obtained processed ∈ r.2 → PairedFrame r.2 processed

theorem paired_start (camera detector : Bytes) : Paired (start camera detector, []) where
  failed h := by cases h
  hand _ _ h := by cases h
  kept _ h := by cases h
  slot _ h := by cases h
  obtained _ h := by cases h

/-- More events leave the frames paired that the consumer has obtained, unless they add one. -/
theorem Paired.obtained_append {r : PreviewPipeline × List PreviewEvent} (h : Paired r)
    {events : List PreviewEvent} (hquiet : ∀ event ∈ events, event.obtained? = none)
    (processed : ProcessedCameraFrame) (hmem : .obtained processed ∈ r.2 ++ events) :
    PairedFrame (r.2 ++ events) processed := by
  rcases List.mem_append.mp hmem with hmem | hmem
  · exact (h.obtained processed hmem).append events
  · cases hquiet _ hmem

theorem Paired.failed_append {r : PreviewPipeline × List PreviewEvent} (h : Paired r)
    (events : List PreviewEvent) (hnone : r.1.monitor.visionMonitor = none) :
    ∃ frame error, PreviewEvent.failed frame error ∈ r.2 ++ events := by
  obtain ⟨frame, error, hmem⟩ := h.failed hnone
  exact ⟨frame, error, List.mem_append_left events hmem⟩

theorem Paired.source {p : PreviewPipeline} {log : List PreviewEvent} (h : Paired (p, log))
    (action : CameraSourceAction) : Paired ({ p with source := p.source.apply action },
      log ++ (p.source.publishes action).map PreviewEvent.published) := by
  refine ⟨h.failed_append _, fun frame now hworker hnone => (h.hand frame now hworker hnone).append _,
    fun processed hmem => (h.kept processed hmem).append _,
    fun processed hmem => (h.slot processed hmem).append _, h.obtained_append ?_⟩
  intro event hmem
  obtain ⟨frame, _, rfl⟩ := List.mem_map.mp hmem
  rfl

/-- A frame that is taken while the detector is disabled is taken after its failure. -/
theorem Paired.pollSource {p : PreviewPipeline} {log : List PreviewEvent} (h : Paired (p, log))
    (now : TimePoint) : Paired ((p.pollSource now).1, log ++ (p.pollSource now).2) := by
  cases hframe : p.source.latestFrame with
  | none =>
      rw [pollSource_none hframe, List.append_nil]
      exact ⟨h.failed, fun _ _ hprocessing => (by cases hprocessing), h.kept, h.slot, h.obtained⟩
  | some frame =>
      rw [pollSource_some hframe]
      refine ⟨h.failed_append _, ?_, fun processed hmem => (h.kept processed hmem).append _,
        fun processed hmem => (h.slot processed hmem).append _,
        h.obtained_append (List.forall_mem_singleton.mpr rfl)⟩
      intro taken now hprocessing hnone
      obtain ⟨rfl, _⟩ := PreviewWorker.processing.inj hprocessing
      exact ⟨log, [], rfl, h.failed hnone⟩

theorem Paired.process {p : PreviewPipeline} {log : List PreviewEvent} (h : Paired (p, log))
    {frame : CameraFrame} {now : TimePoint} (hworker : p.worker = .processing frame now)
    (detect : DetectorAnswer) :
    Paired ((p.process detect frame now).1, log ++ (p.process detect frame now).2) := by
  rcases p.process_cases detect frame now with ⟨hvision, monitor, hnone, hlatest, hprocess⟩ |
    ⟨hvision, monitor, targets, hsome, hlatest, hprocess⟩ | ⟨hvision, monitor, error, hnone, hlatest, hprocess⟩
  all_goals rw [hprocess]
  · rw [List.append_nil]
    refine ⟨fun _ => h.failed hvision, fun _ _ hprocessing => (by cases hprocessing), ?_, h.slot, h.obtained⟩
    intro processed hmem
    obtain rfl := Option.some.inj (hlatest.symm.trans hmem)
    exact Or.inr ⟨rfl, h.hand frame now hworker hvision⟩
  · refine ⟨?_, fun _ _ hprocessing => (by cases hprocessing), ?_,
      fun processed hmem => (h.slot processed hmem).append _,
      h.obtained_append (List.forall_mem_singleton.mpr rfl)⟩
    · intro hnone
      rw [show monitor.visionMonitor = none from hnone] at hsome
      cases hsome
    · intro processed hmem
      obtain rfl := Option.some.inj (hlatest.symm.trans hmem)
      exact Or.inl (List.mem_append_right _ List.mem_cons_self)
  · refine ⟨fun _ => ⟨frame, error, List.mem_append_right _ List.mem_cons_self⟩,
      fun _ _ hprocessing => (by cases hprocessing), ?_,
      fun processed hmem => (h.slot processed hmem).append _,
      h.obtained_append (List.forall_mem_singleton.mpr rfl)⟩
    intro processed hmem
    exact (h.kept processed (hlatest.symm.trans hmem)).append _

theorem Paired.handOver {p : PreviewPipeline} {log : List PreviewEvent} (h : Paired (p, log)) :
    Paired (p.handOver.1, log ++ p.handOver.2) := by
  cases hlatest : p.monitor.latestProcessedFrame with
  | none =>
      rw [handOver_none hlatest, List.append_nil]
      exact ⟨h.failed, fun _ _ hprocessing => (by cases hprocessing), h.kept, h.slot, h.obtained⟩
  | some frame =>
      rw [handOver_some hlatest]
      refine ⟨h.failed_append _, fun _ _ hprocessing => (by cases hprocessing),
        fun _ hmem => (by cases hmem), ?_, h.obtained_append (List.forall_mem_singleton.mpr rfl)⟩
      intro processed hmem
      obtain rfl := Option.some.inj hmem
      exact (h.kept frame hlatest).append _

theorem Paired.takeFrame {p : PreviewPipeline} {log : List PreviewEvent} (h : Paired (p, log)) :
    Paired ({ p with latestFrame := none }, log ++ (p.latestFrame.map PreviewEvent.obtained).toList) := by
  refine ⟨h.failed_append _, fun frame now hworker hnone => (h.hand frame now hworker hnone).append _,
    fun processed hmem => (h.kept processed hmem).append _, fun _ hmem => (by cases hmem), ?_⟩
  intro processed hmem
  rcases List.mem_append.mp hmem with hmem | hmem
  · exact (h.obtained processed hmem).append _
  · obtain ⟨frame, hslot, hframe⟩ := Option.map_eq_some_iff.mp (Option.mem_toList.mp hmem)
    obtain rfl := PreviewEvent.obtained.inj hframe
    exact (h.slot frame hslot).append _

theorem Paired.advance {p : PreviewPipeline} {log : List PreviewEvent} (h : Paired (p, log))
    (step : PreviewStep) : Paired (advance (p, log) step) := by
  apply advance_rule step
  · exact h.source
  · exact fun now _ => h.pollSource now
  · exact fun frame now detect hworker => h.process hworker detect
  · exact fun _ => h.handOver
  · exact h.takeFrame
  · exact ⟨h.failed, h.hand, h.kept, h.slot, h.obtained⟩

/-! ### Runs -/

theorem run_invariants (camera detector : Bytes) (steps : List PreviewStep) :
    Ordered (run camera detector steps) ∧ Disabled (run camera detector steps) ∧
      Paired (run camera detector steps) := by
  induction steps using List.reverseRecOn with
  | nil =>
      refine ⟨ordered_start camera detector, ?_, paired_start camera detector⟩
      intro before frame error after hlog
      cases List.append_eq_nil_iff.mp hlog.symm |>.2
  | append_singleton steps step ih =>
      obtain ⟨hordered, hdisabled, hpaired⟩ := ih
      rw [run, List.foldl_append]
      exact ⟨hordered.advance step, hdisabled.advance hordered step, hpaired.advance step⟩

/-- In every interleaving of the source, the worker and the consumer: the consumer's frames are published
frames, in strictly increasing order; each has the targets that the detector returned for it, and the
detector is asked at most once for a frame, or it has none, when it was taken after the detector failed;
and from a failure on the detector is never asked again, and all that the worker takes is placed in the
consumer's slot, but for the frame it has in hand. -/
theorem run_ordered_paired (camera detector : Bytes) (steps : List PreviewStep) :
    (((run camera detector steps).2.filterMap PreviewEvent.obtained?).map (·.frame.sequence)).Pairwise (· < ·) ∧
    (∀ processed, .obtained processed ∈ (run camera detector steps).2 →
      .published processed.frame ∈ (run camera detector steps).2 ∧
      PairedFrame (run camera detector steps).2 processed) ∧
    ((run camera detector steps).2.filterMap PreviewEvent.asked?).Nodup ∧
    Disabled (run camera detector steps) := by
  obtain ⟨hordered, hdisabled, hpaired⟩ := run_invariants camera detector steps
  have hobtained : (((run camera detector steps).2.filterMap PreviewEvent.obtained?).map (·.frame)).Sublist
      ((run camera detector steps).2.filterMap PreviewEvent.published?) := by
    apply List.Sublist.trans ?_ hordered.through
    rw [List.append_assoc, List.append_assoc]
    exact List.sublist_append_left _ _
  refine ⟨?_, ?_, ?_, hdisabled⟩
  · have hsequences := hobtained.map CameraFrame.sequence
    rw [hordered.numbered, List.map_map] at hsequences
    exact List.Pairwise.sublist hsequences List.pairwise_lt_range'
  · intro processed hmem
    refine ⟨?_, hpaired.obtained processed hmem⟩
    have hframe : processed.frame ∈ (run camera detector steps).2.filterMap PreviewEvent.published? := by
      apply hobtained.subset
      apply List.mem_map.mpr
      exact ⟨processed, List.mem_filterMap.mpr ⟨_, hmem, rfl⟩, rfl⟩
    obtain ⟨event, hevent, hpublished⟩ := List.mem_filterMap.mp hframe
    cases event <;> cases hpublished
    exact hevent
  · have hnodup : ((run camera detector steps).2.filterMap PreviewEvent.published?).Nodup := by
      apply List.Nodup.of_map CameraFrame.sequence
      rw [hordered.numbered]
      exact List.nodup_range'
    apply List.Nodup.sublist ?_ hnodup
    apply List.Sublist.trans ?_ hordered.asked
    rw [List.append_assoc]
    exact List.sublist_append_left _ _

end PreviewPipeline

end OnboardAutonomy
