import OnboardAutonomy.RpicamCapture

/-! Capture timestamps stay with their frames: over any number of attempts, the frames published in an
attempt carry the timestamps parsed in it, in the same order and from the first on, and all published frames
are numbered 1, 2, 3, … without a gap. -/

namespace OnboardAutonomy

namespace CaptureEvent

def parsedIn? (attempt : Nat) : CaptureEvent → Option Int
  | parsed readerAttempt timestamp => if readerAttempt = attempt then some timestamp else none
  | published _ _ => none

def publishedIn? (attempt : Nat) : CaptureEvent → Option CameraFrame
  | parsed _ _ => none
  | published frameAttempt frame => if frameAttempt = attempt then some frame else none

def published? : CaptureEvent → Option CameraFrame
  | parsed _ _ => none
  | published _ frame => some frame

end CaptureEvent

/-- The timestamps parsed in an attempt. -/
def parsedIn (log : List CaptureEvent) (attempt : Nat) : List Int :=
  log.filterMap (CaptureEvent.parsedIn? attempt)

/-- The frames published in an attempt. -/
def publishedIn (log : List CaptureEvent) (attempt : Nat) : List CameraFrame :=
  log.filterMap (CaptureEvent.publishedIn? attempt)

def publishedFrames (log : List CaptureEvent) : List CameraFrame := log.filterMap CaptureEvent.published?

theorem parsedIn_append (log events : List CaptureEvent) (attempt : Nat) :
    parsedIn (log ++ events) attempt = parsedIn log attempt ++ parsedIn events attempt := List.filterMap_append

theorem publishedIn_append (log events : List CaptureEvent) (attempt : Nat) :
    publishedIn (log ++ events) attempt = publishedIn log attempt ++ publishedIn events attempt :=
  List.filterMap_append

theorem publishedFrames_append (log events : List CaptureEvent) :
    publishedFrames (log ++ events) = publishedFrames log ++ publishedFrames events := List.filterMap_append

/-- The phases in which the threads of an attempt run. -/
def CapturePhase.attempting : CapturePhase → Bool
  | .reading => true
  | .awaiting _ => true
  | .publishing _ => true
  | .joining _ => true
  | _ => false

namespace RpicamCapture

/-- The timestamp that the worker has taken from the queue and not published yet. -/
def pending (c : RpicamCapture) : List (Option Int) :=
  match c.phase with
  | .publishing frame => [frame.capturedAt]
  | _ => []

/-- The timestamps of the current attempt have been published, are in the worker's hands, or are queued, in
this order; and nothing has happened yet in later attempts. -/
structure InStep (r : RpicamCapture × List CaptureEvent) : Prop where
  reader : ∀ attempt ∈ r.1.metadataReader, attempt = r.1.attempt ∧ r.1.phase.attempting = true
  current : (parsedIn r.2 r.1.attempt).map some =
    (publishedIn r.2 r.1.attempt).map CameraFrame.capturedAt ++ r.1.pending ++ r.1.metadataTimestamps.map some
  past : ∀ attempt, (publishedIn r.2 attempt).map CameraFrame.capturedAt <+: (parsedIn r.2 attempt).map some
  future : ∀ attempt, r.1.attempt < attempt → parsedIn r.2 attempt = [] ∧ publishedIn r.2 attempt = []
  numbered : (publishedFrames r.2).map CameraFrame.sequence = List.range' 1 r.1.source.nextSequence

theorem inStep_start (config : RpicamCameraConfig) : InStep (start config, []) where
  reader _ h := by cases h
  current := rfl
  past _ := List.prefix_refl []
  future _ _ := ⟨rfl, rfl⟩
  numbered := rfl

section Steps

variable {c d : RpicamCapture} {log : List CaptureEvent}

/-- A step that neither moves a timestamp nor publishes a frame. -/
theorem InStep.quiet (h : InStep (c, log)) (hattempt : d.attempt = c.attempt)
    (hqueue : d.metadataTimestamps = c.metadataTimestamps) (hpending : d.pending = c.pending)
    (hnext : d.source.nextSequence = c.source.nextSequence)
    (hreader : ∀ attempt ∈ d.metadataReader, attempt = d.attempt ∧ d.phase.attempting = true) :
    InStep (d, log) := by
  refine ⟨hreader, ?_, h.past, ?_, ?_⟩
  · simp only [hattempt, hqueue, hpending]
    exact h.current
  · simp only [hattempt]
    exact h.future
  · rw [hnext]
    exact h.numbered

/-- Between two attempts no reader runs. -/
theorem InStep.no_reader (h : InStep (c, log)) (hphase : c.phase.attempting = false) :
    c.metadataReader = none := by
  cases hreader : c.metadataReader with
  | none => rfl
  | some attempt =>
      have hattempting := (h.reader attempt hreader).2
      rw [show c.phase.attempting = false from hphase] at hattempting
      cases hattempting

/-- While no reader runs, the worker may be in any phase. -/
theorem InStep.unread (h : InStep (c, log)) (hnone : c.metadataReader = none)
    (hreader : d.metadataReader = c.metadataReader) (hattempt : d.attempt = c.attempt)
    (hqueue : d.metadataTimestamps = c.metadataTimestamps) (hpending : d.pending = c.pending)
    (hnext : d.source.nextSequence = c.source.nextSequence) : InStep (d, log) := by
  refine h.quiet hattempt hqueue hpending hnext ?_
  intro attempt hmem
  rw [hreader, hnone] at hmem
  cases hmem

/-- An attempt begins with an empty queue. -/
theorem InStep.prepare (h : InStep (c, log)) (hphase : c.phase = .preparing) : InStep (c.prepare, log) := by
  have hnone := h.no_reader (by rw [hphase]; rfl)
  have hpending : c.pending = [] := by rw [pending, hphase]
  unfold RpicamCapture.prepare
  split
  · exact h.unread hnone rfl rfl rfl hpending.symm rfl
  · refine ⟨?_, ?_, h.past, ?_, h.numbered⟩
    · intro attempt hmem
      cases hnone.symm.trans hmem
    · obtain ⟨hparsed, hpublished⟩ := h.future (c.attempt + 1) (Nat.lt_succ_self _)
      show (parsedIn log (c.attempt + 1)).map some =
        (publishedIn log (c.attempt + 1)).map CameraFrame.capturedAt ++ [] ++ []
      rw [hparsed, hpublished]
      rfl
    · exact fun attempt hlater => h.future attempt (Nat.lt_of_succ_lt hlater)

theorem InStep.launch (h : InStep (c, log)) (hphase : c.phase = .launching) (answer : CaptureAnswer) :
    InStep (c.launch answer, log) := by
  have hnone := h.no_reader (by rw [hphase]; rfl)
  have hpending : c.pending = [] := by rw [pending, hphase]
  cases answer with
  | launched =>
      refine h.quiet rfl rfl hpending.symm rfl ?_
      intro attempt hmem
      exact ⟨(Option.some.inj hmem).symm, rfl⟩
  | pipesFailed reason => exact h.unread hnone rfl rfl rfl hpending.symm rfl
  | forkFailed reason => exact h.unread hnone rfl rfl rfl hpending.symm rfl
  | _ => exact h

theorem InStep.read (h : InStep (c, log)) (hphase : c.phase = .reading) (answer : CaptureAnswer) :
    InStep (c.read answer, log) := by
  have hpending : c.pending = [] := by rw [pending, hphase]
  have hreader : ∀ attempt ∈ c.metadataReader, attempt = c.attempt :=
    fun attempt hmem => (h.reader attempt hmem).1
  unfold RpicamCapture.read
  split
  · exact h.quiet rfl rfl hpending.symm rfl fun attempt hmem => ⟨hreader attempt hmem, rfl⟩
  · split
    · exact h.quiet rfl rfl hpending.symm rfl fun attempt hmem => ⟨hreader attempt hmem, rfl⟩
    · exact h.quiet rfl rfl hpending.symm rfl fun attempt hmem => ⟨hreader attempt hmem, rfl⟩
    · exact h

/-- The worker takes the oldest timestamp of the queue. -/
theorem InStep.waitForMetadata {frame : CameraFrame} (h : InStep (c, log)) (hphase : c.phase = .awaiting frame)
    (answer : CaptureAnswer) : InStep (c.waitForMetadata frame answer, log) := by
  have hpending : c.pending = [] := by rw [pending, hphase]
  have hreader : ∀ attempt ∈ c.metadataReader, attempt = c.attempt :=
    fun attempt hmem => (h.reader attempt hmem).1
  unfold RpicamCapture.waitForMetadata
  split
  · rename_i timestamp later hqueue
    refine ⟨fun attempt hmem => ⟨hreader attempt hmem, rfl⟩, ?_, h.past, h.future, h.numbered⟩
    have hcurrent := h.current
    simp only [hpending, hqueue] at hcurrent
    rw [hcurrent, List.append_nil, List.append_assoc]
    rfl
  · split
    · exact h.quiet rfl rfl hpending.symm rfl fun attempt hmem => ⟨hreader attempt hmem, rfl⟩
    · split
      · exact h.quiet rfl rfl hpending.symm rfl fun attempt hmem => ⟨hreader attempt hmem, rfl⟩
      · exact h

theorem publishedIn_published (attempt : Nat) (frame : CameraFrame) (other : Nat) :
    publishedIn [.published attempt frame] other = if attempt = other then [frame] else [] := by
  by_cases hsame : attempt = other <;> simp [publishedIn, CaptureEvent.publishedIn?, hsame]

theorem parsedIn_parsed (attempt : Nat) (timestamp : Int) (other : Nat) :
    parsedIn [.parsed attempt timestamp] other = if attempt = other then [timestamp] else [] := by
  by_cases hsame : attempt = other <;> simp [parsedIn, CaptureEvent.parsedIn?, hsame]

/-- The timestamp in the worker's hands is published with its frame. -/
theorem InStep.publish {frame : CameraFrame} (h : InStep (c, log)) (hphase : c.phase = .publishing frame) :
    InStep (c.publish frame,
      log ++ [.published c.attempt { frame with sequence := c.source.nextSequence + 1 }]) := by
  have hpending : c.pending = [frame.capturedAt] := by rw [pending, hphase]
  have hparsed : ∀ attempt, parsedIn (log ++ [.published c.attempt
      { frame with sequence := c.source.nextSequence + 1 }]) attempt = parsedIn log attempt := by
    intro attempt
    rw [parsedIn_append]
    exact List.append_nil _
  have hcurrent : (parsedIn log c.attempt).map some =
      (publishedIn (log ++ [.published c.attempt { frame with sequence := c.source.nextSequence + 1 }])
        c.attempt).map CameraFrame.capturedAt ++ c.metadataTimestamps.map some := by
    rw [publishedIn_append, publishedIn_published, if_pos rfl, List.map_append, h.current, hpending]
    rfl
  refine ⟨fun attempt hmem => ⟨(h.reader attempt hmem).1, rfl⟩, ?_, ?_, ?_, ?_⟩
  · rw [hparsed]
    show (parsedIn log c.attempt).map some = _ ++ [] ++ _
    rw [List.append_nil]
    exact hcurrent
  · intro attempt
    rw [hparsed]
    by_cases hsame : c.attempt = attempt
    · subst hsame
      exact ⟨_, hcurrent.symm⟩
    · rw [publishedIn_append, publishedIn_published, if_neg hsame, List.append_nil]
      exact h.past attempt
  · intro attempt hlater
    have hother : c.attempt ≠ attempt := Nat.ne_of_lt hlater
    rw [hparsed, publishedIn_append, publishedIn_published, if_neg hother, List.append_nil]
    exact h.future attempt hlater
  · rw [publishedFrames_append, List.map_append, h.numbered]
    show _ = List.range' 1 (c.source.nextSequence + 1)
    rw [List.range'_1_concat, Nat.add_comm]
    rfl

theorem InStep.join {result : ReadResult} (h : InStep (c, log)) (hphase : c.phase = .joining result)
    (answer : CaptureAnswer) : InStep (c.join result answer, log) := by
  have hpending : c.pending = [] := by rw [pending, hphase]
  unfold RpicamCapture.join
  split
  · exact h
  · rename_i hjoined
    rw [Bool.or_eq_true, not_or, Bool.not_eq_true, Option.isSome_eq_false_iff,
      Option.isNone_iff_eq_none] at hjoined
    split
    · split
      · exact h.unread hjoined.1 rfl rfl rfl hpending.symm rfl
      · exact h.unread hjoined.1 rfl rfl rfl hpending.symm rfl
    · exact h

theorem InStep.restart (h : InStep (c, log)) (hphase : c.phase = .restarting) : InStep (c.restart, log) := by
  have hnone := h.no_reader (by rw [hphase]; rfl)
  have hpending : c.pending = [] := by rw [pending, hphase]
  unfold RpicamCapture.restart
  split
  · exact h.unread hnone rfl rfl rfl hpending.symm rfl
  · exact h.unread hnone rfl rfl rfl hpending.symm rfl

theorem InStep.waitForRestart (h : InStep (c, log)) (hphase : c.phase = .waiting) (answer : CaptureAnswer) :
    InStep (c.waitForRestart answer, log) := by
  have hnone := h.no_reader (by rw [hphase]; rfl)
  have hpending : c.pending = [] := by rw [pending, hphase]
  unfold RpicamCapture.waitForRestart
  split
  · exact h.unread hnone rfl rfl rfl hpending.symm rfl
  · split
    · exact h.unread hnone rfl rfl rfl hpending.symm rfl
    · exact h

/-- A timestamp that the reader parses ends the queue of its attempt, which is the current one. -/
theorem InStep.parse (h : InStep (c, log)) {attempt : Nat} (hreader : c.metadataReader = some attempt)
    (timestamp : Int) : InStep ({ c with metadataTimestamps := c.metadataTimestamps ++ [timestamp] },
      log ++ [.parsed attempt timestamp]) := by
  obtain ⟨rfl, hattempting⟩ := h.reader attempt hreader
  have hpublished : ∀ attempt, publishedIn (log ++ [.parsed c.attempt timestamp]) attempt =
      publishedIn log attempt := by
    intro attempt
    rw [publishedIn_append]
    exact List.append_nil _
  refine ⟨h.reader, ?_, ?_, ?_, ?_⟩
  · rw [hpublished, parsedIn_append, parsedIn_parsed, if_pos rfl, List.map_append, h.current, List.append_assoc,
      List.map_append]
    rfl
  · intro attempt
    rw [hpublished, parsedIn_append, List.map_append]
    exact (h.past attempt).trans (List.prefix_append _ _)
  · intro attempt hlater
    rw [hpublished, parsedIn_append, parsedIn_parsed, if_neg (Nat.ne_of_lt hlater), List.append_nil]
    exact h.future attempt hlater
  · rw [publishedFrames_append]
    show ((publishedFrames log ++ []).map CameraFrame.sequence) = _
    rw [List.append_nil]
    exact h.numbered

theorem InStep.advance (h : InStep (c, log)) (step : CaptureStep) : InStep (advance (c, log) step) := by
  have hquiet : ∀ d, InStep (d, log) → InStep (d, log ++ []) := fun d hd => (List.append_nil log).symm ▸ hd
  cases step with
  | worker answer =>
      cases hphase : c.phase with
      | publishing frame =>
          simp only [RpicamCapture.advance, step, worker, events, hphase]
          exact h.publish hphase
      | preparing =>
          simp only [RpicamCapture.advance, step, worker, events, hphase]
          exact hquiet _ (h.prepare hphase)
      | launching =>
          simp only [RpicamCapture.advance, step, worker, events, hphase]
          exact hquiet _ (h.launch hphase answer)
      | reading =>
          simp only [RpicamCapture.advance, step, worker, events, hphase]
          exact hquiet _ (h.read hphase answer)
      | awaiting frame =>
          simp only [RpicamCapture.advance, step, worker, events, hphase]
          exact hquiet _ (h.waitForMetadata hphase answer)
      | joining result =>
          simp only [RpicamCapture.advance, step, worker, events, hphase]
          exact hquiet _ (h.join hphase answer)
      | restarting =>
          simp only [RpicamCapture.advance, step, worker, events, hphase]
          exact hquiet _ (h.restart hphase)
      | waiting =>
          simp only [RpicamCapture.advance, step, worker, events, hphase]
          exact hquiet _ (h.waitForRestart hphase answer)
      | stopped =>
          simp only [RpicamCapture.advance, step, worker, events, hphase]
          exact hquiet _ h
  | metadataLine line =>
      simp only [RpicamCapture.advance, step, events]
      cases hreader : c.metadataReader with
      | none => exact hquiet _ h
      | some attempt =>
          cases parseRpicamFrameWallClockNs line with
          | none => exact hquiet _ h
          | some timestamp => simpa only [hreader] using h.parse hreader timestamp
  | metadataEnd => exact hquiet _ (h.quiet rfl rfl rfl rfl fun _ hmem => by cases hmem)
  | errorLine line =>
      have hnext : (c.source.noteProcessMessage line).nextSequence = c.source.nextSequence := by
        rw [CameraSource.noteProcessMessage]
        split <;> rfl
      simp only [RpicamCapture.advance, step, events]
      split
      · exact hquiet _ (h.quiet rfl rfl rfl hnext h.reader)
      · exact hquiet _ h
  | errorEnd => exact hquiet _ (h.quiet rfl rfl rfl rfl h.reader)
  | takeFrame => exact hquiet _ (h.quiet rfl rfl rfl rfl h.reader)
  | requestStop => exact hquiet _ (h.quiet rfl rfl rfl rfl h.reader)

end Steps

/-! ### Runs -/

theorem inStep_run (config : RpicamCameraConfig) (steps : List CaptureStep) : InStep (run config steps) := by
  induction steps using List.reverseRecOn with
  | nil => exact inStep_start config
  | append_singleton steps step ih =>
      rw [run, List.foldl_append]
      exact ih.advance step

/-- The worker touches the slot where it publishes, and empties it between two attempts. -/
theorem worker_latestFrame (c : RpicamCapture) (answer : CaptureAnswer) (h : ∀ frame, c.phase ≠ .publishing frame) :
    (c.worker answer).source.latestFrame = c.source.latestFrame ∨ (c.worker answer).source.latestFrame = none := by
  unfold worker
  cases hphase : c.phase with
  | preparing =>
      unfold prepare
      dsimp only
      split
      · exact .inl rfl
      · exact .inr rfl
  | launching => cases answer <;> exact .inl rfl
  | reading =>
      unfold read
      dsimp only
      split
      · exact .inl rfl
      · cases answer <;> exact .inl rfl
  | awaiting frame =>
      unfold waitForMetadata
      dsimp only
      split
      · exact .inl rfl
      · split
        · exact .inl rfl
        · cases answer <;> exact .inl rfl
  | publishing frame => exact absurd hphase (h frame)
  | joining result =>
      unfold join
      dsimp only
      split
      · exact .inl rfl
      · cases answer with
        | childEnded status =>
            dsimp only
            split <;> exact .inl rfl
        | _ => exact .inl rfl
  | restarting =>
      unfold restart
      dsimp only
      split
      · exact .inl rfl
      · exact .inr rfl
  | waiting =>
      unfold waitForRestart
      dsimp only
      split
      · exact .inl rfl
      · cases answer <;> exact .inl rfl
  | stopped => exact .inl rfl

/-- A step publishes the frame that it leaves in the slot. -/
theorem step_published (c : RpicamCapture) (step : CaptureStep) :
    c.source.Published (c.step step).source (publishedFrames (c.events step)) := by
  cases step with
  | worker answer =>
      by_cases hpublishing : ∃ frame, c.phase = .publishing frame
      · obtain ⟨frame, hphase⟩ := hpublishing
        refine .inl ⟨{ frame with sequence := c.source.nextSequence + 1 }, ?_, ?_⟩
        · rw [events, hphase]
          rfl
        · rw [RpicamCapture.step, worker, hphase]
          rfl
      · have hother : ∀ frame, c.phase ≠ .publishing frame := fun frame h => hpublishing ⟨frame, h⟩
        refine .inr ⟨?_, c.worker_latestFrame answer hother⟩
        rw [events]
        split
        · exact absurd ‹_› (hother _)
        · rfl
  | metadataLine line =>
      refine .inr ⟨?_, .inl ?_⟩
      · rw [events]
        split <;> rfl
      · rw [RpicamCapture.step]
        split <;> rfl
  | errorLine line =>
      refine .inr ⟨rfl, .inl ?_⟩
      rw [RpicamCapture.step, CameraSource.noteProcessMessage]
      split
      · split <;> rfl
      · rfl
  | takeFrame => exact .inr ⟨rfl, .inr rfl⟩
  | _ => exact .inr ⟨rfl, .inl rfl⟩

/-- In every run the frame in the slot is the last one that was published. -/
theorem run_latestFrame (config : RpicamCameraConfig) (steps : List CaptureStep) :
    ∀ frame, (run config steps).1.source.latestFrame = some frame →
      (publishedFrames (run config steps).2).getLast? = some frame := by
  induction steps using List.reverseRecOn with
  | nil => exact fun _ h => (by cases h)
  | append_singleton steps step ih =>
      rw [run, List.foldl_append]
      have hlast := ((run config steps).1.step_published step).last ih
      rw [← publishedFrames_append] at hlast
      exact hlast

/-- In every interleaving of the threads, over any number of attempts: the frames published in an attempt
carry the first timestamps parsed in that attempt, in their order, and all published frames are numbered from
one without a gap. -/
theorem run_timestamps_paired (config : RpicamCameraConfig) (steps : List CaptureStep) :
    (∀ attempt, (publishedIn (run config steps).2 attempt).map CameraFrame.capturedAt <+:
      (parsedIn (run config steps).2 attempt).map some) ∧
    (publishedFrames (run config steps).2).map CameraFrame.sequence =
      List.range' 1 (publishedFrames (run config steps).2).length := by
  have hrun := inStep_run config steps
  refine ⟨hrun.past, ?_⟩
  have hlength := congrArg List.length hrun.numbered
  rw [List.length_map, List.length_range'] at hlength
  rw [hlength]
  exact hrun.numbered

end RpicamCapture

end OnboardAutonomy
