import OnboardAutonomy.CameraMonitor
import OnboardAutonomy.Mailbox

/-! A camera source and the monitor that polls it: where the frames go. Every published frame has been
processed, waits in the source, or is lost; the dropped frames of a snapshot are the lost ones as long as no
restart has cleared a waiting frame. A lost frame is counted when it is overwritten, and by the gap in the
sequence numbers once a later frame is processed; a cleared frame is in neither count at first. -/

namespace OnboardAutonomy

/-- The source and the monitor, beside the frames that were published and those that were processed. -/
structure ObservedCamera where
  source : CameraSource
  monitor : CameraMonitor
  published : List CameraFrame := []
  processed : List CameraFrame := []

inductive ObservedCameraStep where
  | source (action : CameraSourceAction)
  | poll (now : TimePoint)

namespace ObservedCamera

/-- A source that has just been built and a monitor without a detector. -/
def start (description : Bytes) : ObservedCamera where
  source := { status := { description := description } }
  monitor := { visionMonitor := none }

/-- The monitor never asks the detector it does not have. -/
def noDetector : DetectorAnswer := fun _ => .error "no detector"

def step (s : ObservedCamera) : ObservedCameraStep → ObservedCamera
  | .source action =>
      { s with
        source := s.source.apply action
        published := s.published ++ s.source.publishes action }
  | .poll now =>
      let (monitor, source, _) := s.monitor.poll noDetector s.source now
      { s with
        source := source
        monitor := monitor
        processed := s.processed ++ s.source.latestFrame.toList }

def run (s : ObservedCamera) (steps : List ObservedCameraStep) : ObservedCamera := steps.foldl step s

/-- The frame that waits in the source, if any. -/
def waiting (s : ObservedCamera) : List CameraFrame := s.source.latestFrame.toList

def dropped (s : ObservedCamera) : Nat := s.monitor.droppedFrames s.source.status

/-- The frames that were published, and neither processed nor wait. -/
def lost (s : ObservedCamera) : List CameraFrame := Mailbox.lost s.published (s.processed ++ s.waiting)

/-- What a snapshot says of the frames: all that were produced are accounted for, and each lost frame is
counted once. -/
def Conserved (s : ObservedCamera) : Prop :=
  s.source.status.producedFrames = s.monitor.receivedFrames + s.dropped + s.waiting.length ∧
    s.dropped = s.lost.length

instance (s : ObservedCamera) : Decidable s.Conserved := inferInstanceAs (Decidable (_ ∧ _))

/-- A step that clears a frame nobody has taken. -/
def clearsWaiting (s : ObservedCamera) : ObservedCameraStep → Bool
  | .source action => action.clears && s.source.latestFrame.isSome
  | .poll _ => false

/-! ### What every step keeps -/

/-- The books of the two: the frames are numbered from one, and both estimates of the losses stay below what
is lost. -/
structure Counted (s : ObservedCamera) : Prop where
  through : (s.processed ++ s.waiting).Sublist s.published
  numbered : s.published.map CameraFrame.sequence = List.range' 1 s.source.nextSequence
  produced : s.source.status.producedFrames = s.source.nextSequence
  received : s.monitor.receivedFrames = s.processed.length
  newest : ∀ frame ∈ s.source.latestFrame, frame.sequence = s.source.nextSequence
  overwritten : s.source.status.overwrittenFrames + s.monitor.receivedFrames + s.waiting.length ≤
    s.source.nextSequence
  unseen : s.monitor.lastSequence = none → s.monitor.droppedBeforeProcessing = 0 ∧ s.monitor.receivedFrames = 0
  gaps : ∀ last ∈ s.monitor.lastSequence, s.monitor.droppedBeforeProcessing + s.monitor.receivedFrames ≤ last ∧
    last + s.waiting.length ≤ s.source.nextSequence

theorem counted_start (description : Bytes) : (start description).Counted where
  through := List.nil_sublist _
  numbered := rfl
  produced := rfl
  received := rfl
  newest := by
    intro frame hframe
    cases hframe
  overwritten := Nat.le_refl 0
  unseen _ := ⟨rfl, rfl⟩
  gaps := by
    intro last hlast
    cases hlast

theorem step_poll_none {s : ObservedCamera} (h : s.source.latestFrame = none) (now : TimePoint) :
    s.step (.poll now) = s := by
  obtain ⟨⟨status, latestFrame, message, next⟩, monitor, published, processed⟩ := s
  obtain rfl : latestFrame = none := h
  simp [step, CameraMonitor.poll, CameraSource.takeLatestFrame]

theorem step_poll_some {s : ObservedCamera} {frame : CameraFrame} (h : s.source.latestFrame = some frame)
    (now : TimePoint) : s.step (.poll now) =
      { s with
        source := { s.source with latestFrame := none }
        monitor := (s.monitor.processFrame noDetector frame now).1
        processed := s.processed ++ [frame] } := by
  simp [step, CameraMonitor.poll, CameraSource.takeLatestFrame, h]

/-- A frame that is taken goes from the slot into the monitor's counts. -/
theorem Counted.poll {s : ObservedCamera} (hs : s.Counted) (now : TimePoint) : (s.step (.poll now)).Counted := by
  cases hframe : s.source.latestFrame with
  | none =>
      rw [step_poll_none hframe]
      exact hs
  | some frame =>
      rw [step_poll_some hframe]
      have hcounts := CameraMonitor.processFrame_counts s.monitor noDetector frame now
      obtain ⟨hreceived, hdropped, hlast⟩ := Prod.mk.inj hcounts |>.imp_right Prod.mk.inj
      have hwaiting : s.waiting = [frame] := by rw [waiting, hframe, Option.toList_some]
      have hnewest := hs.newest frame hframe
      have hoverwritten := hs.overwritten
      rw [hwaiting, List.length_singleton] at hoverwritten
      have hthrough := hs.through
      rw [hwaiting] at hthrough
      refine ⟨?_, hs.numbered, hs.produced, ?_, ?_, ?_, ?_, ?_⟩
      · exact (List.append_nil _).symm ▸ hthrough
      · show (s.monitor.processFrame noDetector frame now).1.receivedFrames = (s.processed ++ [frame]).length
        rw [hreceived, List.length_append, List.length_singleton, ← hs.received]
        rfl
      · intro later hlater
        cases hlater
      · show _ + (s.monitor.processFrame noDetector frame now).1.receivedFrames + 0 ≤ _
        rw [hreceived]
        exact hoverwritten
      · intro hnone
        cases hlast.symm.trans hnone
      · intro last hsome
        obtain rfl : frame.sequence = last := Option.some.inj (hlast.symm.trans hsome)
        refine ⟨?_, Nat.le_of_eq hnewest⟩
        show (s.monitor.processFrame noDetector frame now).1.droppedBeforeProcessing +
          (s.monitor.processFrame noDetector frame now).1.receivedFrames ≤ _
        rw [hdropped, hreceived]
        simp only [CameraMonitor.countFrame]
        cases hprevious : s.monitor.lastSequence with
        | none =>
            obtain ⟨hnone, _⟩ := hs.unseen hprevious
            dsimp only
            omega
        | some previous =>
            obtain ⟨hbefore, hroom⟩ := hs.gaps previous hprevious
            rw [hwaiting, List.length_singleton] at hroom
            dsimp only
            split <;> omega

/-- A new frame ends the list of published frames; the one that waits is overwritten. -/
theorem Counted.deliver {s : ObservedCamera} (hs : s.Counted) (frame : CameraFrame) :
    (s.step (.source (.deliver frame))).Counted := by
  have hoverwritten := hs.overwritten
  refine ⟨Mailbox.sublist_put _ hs.through, ?_, ?_, hs.received, ?_, ?_, hs.unseen, ?_⟩
  · show (s.published ++ [_]).map CameraFrame.sequence = List.range' 1 (s.source.nextSequence + 1)
    rw [List.map_append, hs.numbered, List.range'_1_concat, Nat.add_comm]
    rfl
  · show s.source.status.producedFrames + 1 = s.source.nextSequence + 1
    rw [hs.produced]
  · intro newest hnewest
    obtain rfl := Option.some.inj hnewest
    rfl
  · show (if s.source.latestFrame.isSome then s.source.status.overwrittenFrames + 1
      else s.source.status.overwrittenFrames) + s.monitor.receivedFrames + 1 ≤ s.source.nextSequence + 1
    rw [waiting] at hoverwritten
    cases hslot : s.source.latestFrame with
    | none =>
        rw [hslot] at hoverwritten
        simp at hoverwritten ⊢
        omega
    | some waiting =>
        rw [hslot] at hoverwritten
        simp at hoverwritten ⊢
        omega
  · intro last hlast
    obtain ⟨hbefore, hroom⟩ := hs.gaps last hlast
    refine ⟨hbefore, ?_⟩
    show last + 1 ≤ s.source.nextSequence + 1
    omega

/-- An action keeps the books, whatever it does to the slot. -/
theorem Counted.source {s : ObservedCamera} (hs : s.Counted) (action : CameraSourceAction) :
    (s.step (.source action)).Counted := by
  rcases s.source.apply_cases action with ⟨frame, rfl⟩ | ⟨hpublishes, hnext, hproduced, hoverwritten, hslot⟩
  · exact hs.deliver frame
  have hpublished : (s.step (.source action)).published = s.published := by
    show s.published ++ s.source.publishes action = s.published
    rw [hpublishes, List.append_nil]
  have hwaiting : (s.step (.source action)).waiting.Sublist s.waiting := by
    show (s.source.apply action).latestFrame.toList.Sublist s.source.latestFrame.toList
    rw [hslot]
    split
    · exact List.nil_sublist _
    · exact List.Sublist.refl _
  have hlength := hwaiting.length_le
  refine ⟨?_, ?_, ?_, hs.received, ?_, ?_, hs.unseen, ?_⟩
  · rw [hpublished]
    exact (hwaiting.append_left _).trans hs.through
  · rw [hpublished]
    show _ = List.range' 1 (s.source.apply action).nextSequence
    rw [hnext]
    exact hs.numbered
  · show (s.source.apply action).status.producedFrames = (s.source.apply action).nextSequence
    rw [hproduced, hnext]
    exact hs.produced
  · intro frame hframe
    show frame.sequence = (s.source.apply action).nextSequence
    rw [hnext]
    apply hs.newest frame
    have hmem := hwaiting.subset (Option.mem_toList.mpr hframe)
    exact Option.mem_toList.mp hmem
  · show (s.source.apply action).status.overwrittenFrames + _ + _ ≤ (s.source.apply action).nextSequence
    rw [hoverwritten, hnext]
    exact (Nat.add_le_add_left hlength _).trans hs.overwritten
  · intro last hlast
    obtain ⟨hbefore, hroom⟩ := hs.gaps last hlast
    refine ⟨hbefore, ?_⟩
    show last + _ ≤ (s.source.apply action).nextSequence
    rw [hnext]
    exact (Nat.add_le_add_left hlength _).trans hroom

theorem Counted.step {s : ObservedCamera} (hs : s.Counted) (step : ObservedCameraStep) :
    (s.step step).Counted := by
  cases step with
  | source action => exact hs.source action
  | poll now => exact hs.poll now

theorem Counted.run {s : ObservedCamera} (hs : s.Counted) (steps : List ObservedCameraStep) :
    (s.run steps).Counted := by
  induction steps generalizing s with
  | nil => exact hs
  | cons step steps ih => exact ih (hs.step step)

/-! ### Lost frames -/

/-- All lost frames were overwritten. -/
def OnlyOverwritten (s : ObservedCamera) : Prop :=
  s.source.status.overwrittenFrames + s.monitor.receivedFrames + s.waiting.length = s.source.nextSequence

theorem Counted.lost_length {s : ObservedCamera} (hs : s.Counted) :
    s.lost.length + s.monitor.receivedFrames + s.waiting.length = s.source.nextSequence := by
  have hnodup : s.published.Nodup := by
    apply List.Nodup.of_map CameraFrame.sequence
    rw [hs.numbered]
    exact List.nodup_range'
  have hlength := Mailbox.length_lost hnodup hs.through
  have hpublished := congrArg List.length hs.numbered
  rw [List.length_map, List.length_range'] at hpublished
  rw [List.length_append, hpublished] at hlength
  rw [hs.received, lost]
  omega

theorem Counted.conserved {s : ObservedCamera} (hs : s.Counted) (honly : s.OnlyOverwritten) : s.Conserved := by
  have hlost := hs.lost_length
  have hproduced := hs.produced
  rw [OnlyOverwritten] at honly
  have hdropped : s.dropped = s.source.status.overwrittenFrames := by
    apply Nat.max_eq_right
    cases hlast : s.monitor.lastSequence with
    | none =>
        obtain ⟨hnone, _⟩ := hs.unseen hlast
        omega
    | some last =>
        obtain ⟨hbefore, hroom⟩ := hs.gaps last hlast
        omega
  rw [Conserved, hdropped]
  omega

/-- As long as no step clears a waiting frame, frames are lost by being overwritten only. -/
theorem OnlyOverwritten.step {s : ObservedCamera} (honly : s.OnlyOverwritten) {step : ObservedCameraStep}
    (hkeeps : s.clearsWaiting step = false) : (s.step step).OnlyOverwritten := by
  rw [OnlyOverwritten, waiting] at honly
  cases step with
  | poll now =>
      cases hframe : s.source.latestFrame with
      | none =>
          rw [step_poll_none hframe]
          exact honly
      | some frame =>
          have hcounts := CameraMonitor.processFrame_counts s.monitor noDetector frame now
          have hreceived : (s.monitor.processFrame noDetector frame now).1.receivedFrames =
            s.monitor.receivedFrames + 1 := congrArg Prod.fst hcounts
          rw [step_poll_some hframe]
          rw [hframe, Option.toList_some, List.length_singleton] at honly
          show s.source.status.overwrittenFrames +
            (s.monitor.processFrame noDetector frame now).1.receivedFrames + 0 = _
          rw [hreceived]
          exact honly
  | source action =>
      rcases s.source.apply_cases action with ⟨frame, rfl⟩ | ⟨_, hnext, _, hoverwritten, hslot⟩
      · show (if s.source.latestFrame.isSome then s.source.status.overwrittenFrames + 1
          else s.source.status.overwrittenFrames) + s.monitor.receivedFrames + 1 = s.source.nextSequence + 1
        cases hframe : s.source.latestFrame with
        | none =>
            rw [hframe] at honly
            simp at honly ⊢
            omega
        | some waiting =>
            rw [hframe] at honly
            simp at honly ⊢
            omega
      · show (s.source.apply action).status.overwrittenFrames + s.monitor.receivedFrames +
          (s.source.apply action).latestFrame.toList.length = (s.source.apply action).nextSequence
        have hsame : (if action.clears then none else s.source.latestFrame) = s.source.latestFrame := by
          rw [clearsWaiting, Bool.and_eq_false_iff] at hkeeps
          rcases hkeeps with hkeeps | hnone
          · rw [hkeeps]
            rfl
          · rw [Option.isSome_eq_false_iff, Option.isNone_iff_eq_none] at hnone
            rw [hnone, ite_self]
        rw [hoverwritten, hslot, hsame, hnext]
        exact honly

/-- A frame that is cleared is in neither estimate: it was not overwritten, and no later frame was processed. -/
theorem Counted.not_conserved {s : ObservedCamera} (hs : s.Counted) {step : ObservedCameraStep}
    (hclears : s.clearsWaiting step = true) : ¬(s.step step).Conserved := by
  cases step with
  | poll now => cases hclears
  | source action =>
      rw [clearsWaiting, Bool.and_eq_true] at hclears
      obtain ⟨hclear, hframe⟩ := hclears
      obtain ⟨frame, hframe⟩ := Option.isSome_iff_exists.mp hframe
      rcases s.source.apply_cases action with ⟨frame, rfl⟩ | ⟨_, _, hproduced, hoverwritten, hslot⟩
      · cases hclear
      have hlength : s.waiting.length = 1 := by rw [waiting, hframe, Option.toList_some, List.length_singleton]
      have hcounted := hs.overwritten
      have hproducedBefore := hs.produced
      have hdropped : (s.step (.source action)).dropped + s.monitor.receivedFrames < s.source.nextSequence := by
        show max s.monitor.droppedBeforeProcessing (s.source.apply action).status.overwrittenFrames + _ < _
        rw [hoverwritten]
        cases hlast : s.monitor.lastSequence with
        | none =>
            obtain ⟨hnone, _⟩ := hs.unseen hlast
            omega
        | some last =>
            obtain ⟨hbefore, hroom⟩ := hs.gaps last hlast
            omega
      rintro ⟨hconserved, _⟩
      change (s.source.apply action).status.producedFrames = s.monitor.receivedFrames + _ +
        (s.source.apply action).latestFrame.toList.length at hconserved
      rw [hproduced, hslot, if_pos hclear] at hconserved
      simp at hconserved
      omega

/-! ### Runs -/

theorem run_concat (s : ObservedCamera) (steps : List ObservedCameraStep) (step : ObservedCameraStep) :
    s.run (steps ++ [step]) = (s.run steps).step step := by
  rw [run, List.foldl_append]
  rfl

/-- In a run of a source and its monitor every snapshot accounts for every frame, exactly if no step of the
run clears a frame that waits. -/
theorem run_conserved_iff (description : Bytes) (steps : List ObservedCameraStep) :
    (∀ before, before <+: steps → ((start description).run before).Conserved) ↔
      ∀ before step, before ++ [step] <+: steps →
        ((start description).run before).clearsWaiting step = false := by
  have hcounted := fun before => (counted_start description).run before
  apply Iff.intro
  · intro hconserved before step hprefix
    by_contra hclears
    rw [Bool.not_eq_false] at hclears
    apply (hcounted before).not_conserved hclears
    rw [← run_concat]
    exact hconserved _ hprefix
  · intro hkeeps before hprefix
    apply (hcounted before).conserved
    induction before using List.reverseRecOn with
    | nil => rfl
    | append_singleton before step ih =>
        rw [run_concat]
        exact (ih ((List.prefix_append before [step]).trans hprefix)).step (hkeeps before step hprefix)

/-- A frame of two by two pixels. -/
def smallFrame : CameraFrame where
  sequence := 0
  width := 2
  height := 2
  yuv420 := List.replicate 6 0
  capturedAt := none
  receivedAt := 0

/-- The camera process ends before its first frame is taken. -/
def earlyRestart : List ObservedCameraStep :=
  [.source .prepareAttempt, .source (.deliver smallFrame),
    .source (.setFailure (literal "gst-launch-1.0 exited with status 1")),
    .source (.setReconnecting (literal "gst-launch-1.0 exited with status 1"))]

theorem earlyRestart_uncounted :
    ((start (literal "GStreamer RTP/H.264 UDP 5601")).run earlyRestart).source.status.producedFrames = 1 ∧
    ((start (literal "GStreamer RTP/H.264 UDP 5601")).run earlyRestart).monitor.receivedFrames = 0 ∧
    ((start (literal "GStreamer RTP/H.264 UDP 5601")).run earlyRestart).dropped = 0 ∧
    ((start (literal "GStreamer RTP/H.264 UDP 5601")).run earlyRestart).waiting = [] ∧
    ¬((start (literal "GStreamer RTP/H.264 UDP 5601")).run earlyRestart).Conserved :=
  ⟨rfl, rfl, rfl, rfl, by decide⟩

end ObservedCamera

end OnboardAutonomy
