import OnboardAutonomy.Blocks
import OnboardAutonomy.GStreamerCapture

/-! The frames of the GStreamer source are the video of the camera process: over any number of attempts and
whatever the boundaries of the reads, the frames that are published in an attempt are the consecutive slices
of what the process wrote in it, from its first byte on. -/

namespace OnboardAutonomy

namespace GStreamerEvent

def wroteIn? (attempt : Nat) : GStreamerEvent → List UInt8
  | wrote pipeAttempt bytes => if pipeAttempt = attempt then bytes else []
  | _ => []

def publishedIn? (attempt : Nat) : GStreamerEvent → Option CameraFrame
  | published frameAttempt frame => if frameAttempt = attempt then some frame else none
  | _ => none

def published? : GStreamerEvent → Option CameraFrame
  | published _ frame => some frame
  | _ => none

end GStreamerEvent

namespace GStreamerCapture

/-- What the camera process wrote in an attempt. -/
def writtenOf (log : List GStreamerEvent) (attempt : Nat) : List UInt8 :=
  log.flatMap (GStreamerEvent.wroteIn? attempt)

/-- The frames published in an attempt. -/
def framesOf (log : List GStreamerEvent) (attempt : Nat) : List CameraFrame :=
  log.filterMap (GStreamerEvent.publishedIn? attempt)

def frames (log : List GStreamerEvent) : List CameraFrame := log.filterMap GStreamerEvent.published?

/-- The pictures of the frames of an attempt. -/
def picturesOf (log : List GStreamerEvent) (attempt : Nat) : List (List UInt8) :=
  (framesOf log attempt).map CameraFrame.yuv420

/-- An event that neither writes video nor publishes a frame. -/
def Silent (event : GStreamerEvent) : Prop :=
  (∀ attempt, event.wroteIn? attempt = []) ∧ event.published? = none

section Log

variable {log events : List GStreamerEvent} {attempt : Nat}

theorem publishedIn_of_none {event : GStreamerEvent} (h : event.published? = none) (attempt : Nat) :
    event.publishedIn? attempt = none := by
  cases event with
  | published frameAttempt frame => cases h
  | _ => rfl

theorem writtenOf_silent (h : ∀ event ∈ events, Silent event) (attempt : Nat) :
    writtenOf (log ++ events) attempt = writtenOf log attempt := by
  rw [writtenOf, List.flatMap_append, List.flatMap_eq_nil_iff.mpr fun event hmem => (h event hmem).1 attempt,
    List.append_nil]
  rfl

theorem framesOf_silent (h : ∀ event ∈ events, Silent event) (attempt : Nat) :
    framesOf (log ++ events) attempt = framesOf log attempt := by
  rw [framesOf, List.filterMap_append, List.filterMap_eq_nil_iff.mpr fun event hmem =>
    publishedIn_of_none (h event hmem).2 attempt, List.append_nil]
  rfl

theorem frames_eq_of_unpublished (h : ∀ event ∈ events, event.published? = none) :
    frames (log ++ events) = frames log := by
  rw [frames, List.filterMap_append, List.filterMap_eq_nil_iff.mpr h, List.append_nil]
  rfl

theorem frames_silent (h : ∀ event ∈ events, Silent event) : frames (log ++ events) = frames log :=
  frames_eq_of_unpublished fun event hmem => (h event hmem).2

theorem writtenOf_wrote (log : List GStreamerEvent) (attempt : Nat) (bytes : List UInt8) (other : Nat) :
    writtenOf (log ++ [.wrote attempt bytes]) other =
      writtenOf log other ++ if attempt = other then bytes else [] := by
  rw [writtenOf, List.flatMap_append, List.flatMap_singleton]
  rfl

theorem framesOf_published (log : List GStreamerEvent) (attempt : Nat) (frame : CameraFrame) (other : Nat) :
    framesOf (log ++ [.published attempt frame]) other =
      framesOf log other ++ if attempt = other then [frame] else [] := by
  rw [framesOf, List.filterMap_append]
  by_cases hsame : attempt = other <;> simp [framesOf, GStreamerEvent.publishedIn?, hsame]

theorem mem_frames_of_mem_framesOf {frame : CameraFrame} (h : frame ∈ framesOf log attempt) :
    frame ∈ frames log := by
  obtain ⟨event, hmem, hevent⟩ := List.mem_filterMap.mp h
  refine List.mem_filterMap.mpr ⟨event, hmem, ?_⟩
  cases event with
  | published frameAttempt frame' =>
      rw [GStreamerEvent.publishedIn?] at hevent
      split at hevent
      · exact hevent
      · cases hevent
  | _ => cases hevent

end Log

/-! ### What the error reader leaves alone -/

/-- Taking note of lines changes nothing but the last message. -/
theorem noteLines_eq (source : CameraSource) (lines : List Bytes) :
    noteLines source lines =
      { source with lastProcessMessage := (noteLines source lines).lastProcessMessage } := by
  induction lines generalizing source with
  | nil => rfl
  | cons line lines ih =>
      rw [noteLines, List.foldl_cons]
      refine (ih _).trans ?_
      rw [CameraSource.noteProcessMessage]
      split <;> rfl

theorem noteLines_nextSequence (source : CameraSource) (lines : List Bytes) :
    (noteLines source lines).nextSequence = source.nextSequence := by rw [noteLines_eq]

theorem noteLines_latestFrame (source : CameraSource) (lines : List Bytes) :
    (noteLines source lines).latestFrame = source.latestFrame := by rw [noteLines_eq]

theorem readErrors_keeps (c : GStreamerCapture) (count : Nat) :
    (c.readErrors count).source.nextSequence = c.source.nextSequence ∧
      (c.readErrors count).config = c.config ∧ (c.readErrors count).attempt = c.attempt ∧
      (c.readErrors count).phase = c.phase ∧ (c.readErrors count).video = c.video := by
  unfold readErrors
  split
  · exact ⟨rfl, rfl, rfl, rfl, rfl⟩
  · split
    · exact ⟨rfl, rfl, rfl, rfl, rfl⟩
    · exact ⟨noteLines_nextSequence _ _, rfl, rfl, rfl, rfl⟩

theorem endErrors_keeps (c : GStreamerCapture) :
    c.endErrors.source.nextSequence = c.source.nextSequence ∧ c.endErrors.config = c.config ∧
      c.endErrors.attempt = c.attempt ∧ c.endErrors.phase = c.phase ∧ c.endErrors.video = c.video := by
  unfold endErrors
  split
  · exact ⟨rfl, rfl, rfl, rfl, rfl⟩
  · exact ⟨noteLines_nextSequence _ _, rfl, rfl, rfl, rfl⟩

/-- The error reader does not touch the slot. -/
theorem readErrors_latestFrame (c : GStreamerCapture) (count : Nat) :
    (c.readErrors count).source.latestFrame = c.source.latestFrame := by
  unfold readErrors
  split
  · rfl
  · split
    · rfl
    · exact noteLines_latestFrame _ _

theorem endErrors_latestFrame (c : GStreamerCapture) : c.endErrors.source.latestFrame = c.source.latestFrame := by
  unfold endErrors
  split
  · rfl
  · exact noteLines_latestFrame _ _

theorem step_config (c : GStreamerCapture) (step : GStreamerStep) : (c.step step).config = c.config := by
  cases step with
  | worker answer =>
      have hmove := c.worker_move answer
      rw [GStreamerCapture.step]
      generalize c.worker answer = d, c.workerEvents answer = events at hmove
      cases hmove <;> rfl
  | errorBytes count => exact (c.readErrors_keeps count).2.1
  | errorEnd =>
      rw [GStreamerCapture.step]
      split
      · exact c.endErrors_keeps.2.1
      · rfl
  | errorBroken => exact c.endErrors_keeps.2.1
  | _ => rfl

end GStreamerCapture

/-- The bytes of the next frame that the worker has. -/
def GStreamerPhase.pending? : GStreamerPhase → Option (List UInt8)
  | .framing => some []
  | .reading r => some r.destination
  | .publishing yuv420 => some yuv420
  | _ => none

/-- The phases in which the worker has the video pipe. -/
def GStreamerPhase.piped : GStreamerPhase → Bool
  | .framing => true
  | .reading _ => true
  | .publishing _ => true
  | .closing _ _ => true
  | _ => false

theorem GStreamerPhase.pending?_of_unpiped {phase : GStreamerPhase} (h : phase.piped = false) :
    phase.pending? = none := by
  cases phase <;> first | rfl | cases h

namespace GStreamerCapture

/-- A frame with a whole picture of the configured size. -/
def Complete (c : GStreamerCapture) (frame : CameraFrame) : Prop :=
  frame.width = c.config.width ∧ frame.height = c.config.height ∧ frame.yuv420.length = c.frameSize

/-- The pictures of the current attempt, the bytes that the worker has of the next one, and what is in the pipe
are what the process wrote. -/
structure Lossless (r : GStreamerCapture × List GStreamerEvent) : Prop where
  piped : ∀ pipe, r.1.video = some pipe → pipe.attempt = r.1.attempt ∧ r.1.phase.piped = true
  current : ∀ pending, r.1.phase.pending? = some pending → pending.length ≤ r.1.frameSize ∧
    ∃ pipe, r.1.video = some pipe ∧
      (picturesOf r.2 r.1.attempt).flatten ++ pending ++ pipe.content = writtenOf r.2 r.1.attempt
  full : ∀ yuv420, r.1.phase = .publishing yuv420 → yuv420.length = r.1.frameSize
  past : ∀ attempt, Blocks.BeginsWith r.1.frameSize (picturesOf r.2 attempt) (writtenOf r.2 attempt)
  fresh : r.1.phase = .launching → framesOf r.2 r.1.attempt = [] ∧ writtenOf r.2 r.1.attempt = []
  future : ∀ attempt, r.1.attempt < attempt → framesOf r.2 attempt = [] ∧ writtenOf r.2 attempt = []
  complete : ∀ frame ∈ frames r.2, r.1.Complete frame
  numbered : (frames r.2).map CameraFrame.sequence = List.range' 1 r.1.source.nextSequence

theorem lossless_start (config : GStreamerCameraConfig) : Lossless (start config, []) where
  piped _ h := by cases h
  current _ h := by cases h
  full _ h := by cases h
  past attempt := .nil _ _
  fresh h := by cases h
  future _ _ := ⟨rfl, rfl⟩
  complete _ h := absurd h List.not_mem_nil
  numbered := rfl

section Steps

variable {c d : GStreamerCapture} {log events : List GStreamerEvent}

/-- A step that moves no byte. -/
theorem Lossless.quiet (h : Lossless (c, log)) (hsilent : ∀ event ∈ events, Silent event)
    (hconfig : d.config = c.config) (hattempt : d.attempt = c.attempt)
    (hnext : d.source.nextSequence = c.source.nextSequence)
    (hpiped : ∀ pipe, d.video = some pipe → pipe.attempt = c.attempt ∧ d.phase.piped = true)
    (hcurrent : ∀ pending, d.phase.pending? = some pending → pending.length ≤ c.frameSize ∧
      ∃ pipe, d.video = some pipe ∧
        (picturesOf log c.attempt).flatten ++ pending ++ pipe.content = writtenOf log c.attempt)
    (hfull : ∀ yuv420, d.phase = .publishing yuv420 → yuv420.length = c.frameSize)
    (hfresh : d.phase = .launching → c.phase = .launching) : Lossless (d, log ++ events) := by
  have hsize : d.frameSize = c.frameSize := by rw [frameSize, hconfig, frameSize]
  have hpictures : ∀ attempt, picturesOf (log ++ events) attempt = picturesOf log attempt := fun attempt => by
    rw [picturesOf, framesOf_silent hsilent, picturesOf]
  refine ⟨?_, ?_, ?_, ?_, ?_, ?_, ?_, ?_⟩
  · simpa only [hattempt] using hpiped
  · simpa only [hattempt, hpictures, writtenOf_silent hsilent, hsize] using hcurrent
  · simpa only [hsize] using hfull
  · intro attempt
    simpa only [hpictures, writtenOf_silent hsilent, hsize] using h.past attempt
  · intro hphase
    simpa only [hattempt, framesOf_silent hsilent, writtenOf_silent hsilent] using h.fresh (hfresh hphase)
  · intro attempt hlater
    simpa only [framesOf_silent hsilent, writtenOf_silent hsilent] using h.future attempt (hattempt ▸ hlater)
  · simpa only [frames_silent hsilent, Complete, hconfig, hsize] using h.complete
  · simpa only [frames_silent hsilent, hnext] using h.numbered

/-- A turn of the worker keeps what it has of the pipe and of the next frame. -/
theorem Turn.keeps {phase phase' : GStreamerPhase} (h : Turn c phase phase' events) :
    (∀ event ∈ events, Silent event) ∧ phase'.piped = phase.piped ∧
      (∀ pending, phase'.pending? = some pending → phase.pending? = some pending) ∧
      (∀ yuv420, phase' = .publishing yuv420 → phase = .publishing yuv420 ∨ c.frameSize ≤ yuv420.length) ∧
      (phase' = .launching → phase = .launching) := by
  have hnone : ∀ event ∈ ([] : List GStreamerEvent), Silent event := fun event hmem => absurd hmem List.not_mem_nil
  have hone {event : GStreamerEvent} (hsilent : Silent event) : ∀ event' ∈ [event], Silent event' :=
    fun event' hmem => List.mem_singleton.mp hmem ▸ hsilent
  cases h with
  | stay => exact ⟨hnone, rfl, fun _ h => h, fun _ h => .inl h, fun h => h⟩
  | beginFrame now =>
      exact ⟨hone ⟨fun _ => rfl, rfl⟩, rfl, fun _ h => h, fun _ h => (by cases h), fun h => (by cases h)⟩
  | filled r hfull =>
      refine ⟨hnone, rfl, fun _ h => h, fun yuv420 h => .inr ?_, fun h => (by cases h)⟩
      cases h
      exact hfull
  | stalled r now =>
      exact ⟨hone ⟨fun _ => rfl, rfl⟩, rfl, fun _ h => (by cases h), fun _ h => (by cases h), fun h => (by cases h)⟩
  | waited r now =>
      exact ⟨hone ⟨fun _ => rfl, rfl⟩, rfl, fun _ h => h, fun _ h => .inl h, fun h => h⟩
  | _ => exact ⟨hnone, rfl, fun _ h => (by cases h), fun _ h => (by cases h), fun h => (by cases h)⟩

theorem Lossless.turn (h : Lossless (c, log)) {phase : GStreamerPhase} (hturn : Turn c c.phase phase events) :
    Lossless ({ c with phase := phase }, log ++ events) := by
  obtain ⟨hsilent, hpiped, hpending, hfull, hfresh⟩ := hturn.keeps
  refine h.quiet hsilent rfl rfl rfl ?_ ?_ ?_ hfresh
  · intro pipe hvideo
    exact ⟨(h.piped pipe hvideo).1, hpiped.trans (h.piped pipe hvideo).2⟩
  · exact fun pending hp => h.current pending (hpending pending hp)
  · intro yuv420 hphase
    rcases hfull yuv420 hphase with hbefore | hlength
    · exact h.full yuv420 hbefore
    · exact le_antisymm (h.current yuv420 (hpending yuv420 (by rw [show phase = _ from hphase]; rfl))).1 hlength

/-- Without the pipe there is no part of a frame. -/
theorem Lossless.unpiped (h : Lossless (c, log)) (hsilent : ∀ event ∈ events, Silent event)
    (hconfig : d.config = c.config) (hattempt : d.attempt = c.attempt)
    (hnext : d.source.nextSequence = c.source.nextSequence) (hvideo : d.video = none)
    (hphase : d.phase.piped = false) (hfresh : d.phase ≠ .launching) : Lossless (d, log ++ events) := by
  refine h.quiet hsilent hconfig hattempt hnext ?_ ?_ ?_ (fun hl => absurd hl hfresh)
  · intro pipe hpipe
    rw [hvideo] at hpipe
    cases hpipe
  · intro pending hpending
    rw [GStreamerPhase.pending?_of_unpiped hphase] at hpending
    cases hpending
  · intro yuv420 hd
    rw [hd] at hphase
    cases hphase

theorem Lossless.no_pipe (h : Lossless (c, log)) (hphase : c.phase.piped = false) : c.video = none := by
  cases hvideo : c.video with
  | none => rfl
  | some pipe =>
      have hpiped := (h.piped pipe hvideo).2
      rw [show c.phase.piped = false from hphase] at hpiped
      cases hpiped

theorem Lossless.prepare (h : Lossless (c, log)) (hphase : c.phase = .preparing) :
    Lossless (c.prepareAttempt, log ++ []) := by
  have hvideo := h.no_pipe (by rw [hphase]; rfl)
  obtain ⟨hframes, hwritten⟩ := h.future (c.attempt + 1) (Nat.lt_succ_self _)
  rw [List.append_nil]
  refine ⟨?_, fun _ hp => (by cases hp), fun _ hp => (by cases hp), h.past, fun _ => ⟨hframes, hwritten⟩, ?_,
    h.complete, h.numbered⟩
  · intro pipe hpipe
    cases hvideo.symm.trans hpipe
  · exact fun attempt hlater => h.future attempt (Nat.lt_of_succ_lt hlater)

theorem Lossless.launch (h : Lossless (c, log)) (hphase : c.phase = .launching) :
    Lossless
      ({ c with
        video := some { attempt := c.attempt }
        errors := some { attempt := c.attempt }
        phase := .framing }, log ++ []) := by
  obtain ⟨hframes, hwritten⟩ := h.fresh hphase
  refine h.quiet (fun _ hmem => absurd hmem List.not_mem_nil) rfl rfl rfl ?_ ?_ ?_ ?_
  · intro pipe hpipe
    cases hpipe
    exact ⟨rfl, rfl⟩
  · intro pending hpending
    cases hpending
    refine ⟨Nat.zero_le _, _, rfl, ?_⟩
    rw [picturesOf, show framesOf log c.attempt = [] from hframes, show writtenOf log c.attempt = [] from hwritten]
    rfl
  · exact fun _ hp => (by cases hp)
  · exact fun hp => (by cases hp)

/-- Some bytes are taken from the pipe. -/
theorem Lossless.read (h : Lossless (c, log)) {r : FrameRead} {pipe : VideoPipe} {bytes rest : List UInt8}
    (now : Int) (hphase : c.phase = .reading r) (hvideo : c.video = some pipe)
    (hcontent : pipe.content = bytes ++ rest) (hfits : r.destination.length + bytes.length ≤ c.frameSize) :
    Lossless
      ({ c with
        video := some { pipe with content := rest }
        phase := .reading
          { destination := r.destination ++ bytes
            lastProgress := now } }, log ++ [.progressed c.attempt now]) := by
  have hsilent : Silent (.progressed c.attempt now) := ⟨fun _ => rfl, rfl⟩
  refine h.quiet (fun event hmem => List.mem_singleton.mp hmem ▸ hsilent) rfl rfl rfl ?_ ?_ ?_ ?_
  · intro pipe' hpipe
    cases hpipe
    exact ⟨(h.piped pipe hvideo).1, rfl⟩
  · intro pending hpending
    cases hpending
    obtain ⟨-, pipe', hvideo', hjoined⟩ := h.current r.destination (by rw [hphase]; rfl)
    cases hvideo.symm.trans hvideo'
    refine ⟨by rw [List.length_append]; exact hfits, _, rfl, ?_⟩
    rw [hcontent] at hjoined
    rw [← hjoined]
    simp only [List.append_assoc]
  · exact fun _ hp => (by cases hp)
  · exact fun hp => (by cases hp)

/-- A whole frame is published, and the next one begins behind it. -/
theorem Lossless.publish (h : Lossless (c, log)) {yuv420 : List UInt8} (receivedAt : Int)
    (hphase : c.phase = .publishing yuv420) :
    Lossless
      ({ c with
        source := c.source.deliver (c.completed yuv420 receivedAt)
        phase := .framing },
        log ++ [.published c.attempt { c.completed yuv420 receivedAt with
          sequence := c.source.nextSequence + 1 }]) := by
  have hlength := h.full yuv420 hphase
  obtain ⟨-, pipe, hvideo, hjoined⟩ := h.current yuv420 (by rw [hphase]; rfl)
  have hwritten : ∀ attempt, writtenOf (log ++ [.published c.attempt { c.completed yuv420 receivedAt with
      sequence := c.source.nextSequence + 1 }]) attempt = writtenOf log attempt := fun attempt => by
    rw [writtenOf, List.flatMap_append, List.flatMap_singleton]
    exact List.append_nil _
  have hpictures : ∀ attempt, picturesOf (log ++ [.published c.attempt { c.completed yuv420 receivedAt with
      sequence := c.source.nextSequence + 1 }]) attempt =
      picturesOf log attempt ++ if c.attempt = attempt then [yuv420] else [] := fun attempt => by
    rw [picturesOf, framesOf_published, List.map_append, apply_ite (List.map CameraFrame.yuv420)]
    rfl
  refine ⟨fun pipe' hpipe => ⟨(h.piped pipe' hpipe).1, rfl⟩, ?_, fun _ hp => (by cases hp), ?_,
    fun hp => (by cases hp), ?_, ?_, ?_⟩
  · intro pending hpending
    cases hpending
    refine ⟨Nat.zero_le _, pipe, hvideo, ?_⟩
    rw [hpictures, hwritten, if_pos rfl, List.flatten_append, List.flatten_singleton, List.append_nil]
    exact hjoined
  · intro attempt
    rw [hpictures, hwritten]
    by_cases hsame : c.attempt = attempt
    · subst hsame
      rw [if_pos rfl]
      exact (h.past c.attempt).concat hlength hjoined
    · rw [if_neg hsame, List.append_nil]
      exact h.past attempt
  · intro attempt hlater
    rw [framesOf_published, if_neg (Nat.ne_of_lt hlater), List.append_nil, hwritten]
    exact h.future attempt hlater
  · intro frame hmem
    rw [frames, List.filterMap_append] at hmem
    rcases List.mem_append.mp hmem with hmem | hmem
    · exact h.complete frame hmem
    · cases List.mem_singleton.mp hmem
      exact ⟨rfl, rfl, hlength⟩
  · rw [frames, List.filterMap_append, List.map_append]
    show (frames log).map CameraFrame.sequence ++ [c.source.nextSequence + 1] =
      List.range' 1 (c.source.nextSequence + 1)
    rw [h.numbered, List.range'_1_concat, Nat.add_comm]

theorem silent_failed (attempt : Nat) (failure : CaptureFailure) : Silent (.failed attempt failure) :=
  ⟨fun _ => rfl, rfl⟩

theorem Lossless.worker (h : Lossless (c, log)) (hmove : WorkerMove c d events) : Lossless (d, log ++ events) := by
  have hnone : ∀ event ∈ ([] : List GStreamerEvent), Silent event := fun event hmem => absurd hmem List.not_mem_nil
  cases hmove with
  | turn hturn => exact h.turn hturn
  | prepare hphase => exact h.prepare hphase
  | launch hphase => exact h.launch hphase
  | fail failure hphase =>
      have hvideo : c.video = none := h.no_pipe (by
        rcases hphase with ⟨hphase, -⟩ | ⟨result, status, hphase, -⟩ <;> rw [hphase] <;> rfl)
      refine h.unpiped (fun event hmem => ?_) rfl rfl rfl hvideo rfl (fun hp => (by cases hp))
      exact List.mem_singleton.mp hmem ▸ silent_failed _ _
  | read r pipe bytes rest now hphase hvideo hcontent hfits => exact h.read now hphase hvideo hcontent hfits
  | publish yuv420 receivedAt hphase => exact h.publish receivedAt hphase
  | reap result stop status hphase => exact h.unpiped hnone rfl rfl rfl rfl rfl (fun hp => (by cases hp))
  | recover hphase =>
      exact h.unpiped hnone rfl rfl rfl (h.no_pipe (by rw [hphase]; rfl)) rfl (fun hp => (by cases hp))
  | finish hphase =>
      exact h.unpiped hnone rfl rfl rfl (h.no_pipe (by rw [hphase]; rfl)) rfl (fun hp => (by cases hp))

/-- A step that touches neither the video pipe nor the worker's phase. -/
theorem Lossless.aside (h : Lossless (c, log)) (hsilent : ∀ event ∈ events, Silent event)
    (hconfig : d.config = c.config) (hattempt : d.attempt = c.attempt) (hphase : d.phase = c.phase)
    (hvideo : d.video = c.video) (hnext : d.source.nextSequence = c.source.nextSequence) :
    Lossless (d, log ++ events) := by
  refine h.quiet hsilent hconfig hattempt hnext ?_ ?_ ?_ ?_
  · simpa only [hvideo, hphase] using h.piped
  · simpa only [hvideo, hphase] using h.current
  · simpa only [hphase] using h.full
  · exact fun hp => hphase ▸ hp

/-- The process writes to the end of the pipe. -/
theorem Lossless.write (h : Lossless (c, log)) {pipe : VideoPipe} (hvideo : c.video = some pipe)
    (bytes : List UInt8) :
    Lossless ({ c with video := some { pipe with content := pipe.content ++ bytes } },
      log ++ [.wrote pipe.attempt bytes]) := by
  obtain ⟨hattempt, hpiped⟩ := h.piped pipe hvideo
  have hframes : ∀ attempt, framesOf (log ++ [.wrote pipe.attempt bytes]) attempt = framesOf log attempt :=
    fun attempt => by
      rw [framesOf, List.filterMap_append]
      exact List.append_nil _
  have hpictures : ∀ attempt, picturesOf (log ++ [.wrote pipe.attempt bytes]) attempt = picturesOf log attempt :=
    fun attempt => by rw [picturesOf, hframes, picturesOf]
  have hall : frames (log ++ [.wrote pipe.attempt bytes]) = frames log := by
    rw [frames, List.filterMap_append]
    exact List.append_nil _
  refine ⟨?_, ?_, h.full, ?_, ?_, ?_, ?_, ?_⟩
  · intro pipe' hpipe
    cases hpipe
    exact ⟨hattempt, hpiped⟩
  · intro pending hpending
    obtain ⟨hlength, pipe', hvideo', hjoined⟩ := h.current pending hpending
    cases hvideo.symm.trans hvideo'
    refine ⟨hlength, _, rfl, ?_⟩
    rw [hpictures, writtenOf_wrote, if_pos hattempt, ← hjoined]
    simp only [List.append_assoc]
  · intro attempt
    rw [hpictures, writtenOf_wrote]
    exact (h.past attempt).append _
  · intro hphase
    rw [show c.phase = .launching from hphase] at hpiped
    cases hpiped
  · intro attempt hlater
    rw [hframes, writtenOf_wrote, if_neg (hattempt ▸ Nat.ne_of_lt hlater), List.append_nil]
    exact h.future attempt hlater
  · rw [hall]
    exact h.complete
  · rw [hall]
    exact h.numbered

theorem Lossless.advance (h : Lossless (c, log)) (step : GStreamerStep) : Lossless (advance (c, log) step) := by
  have hnone : ∀ event ∈ ([] : List GStreamerEvent), Silent event := fun event hmem => absurd hmem List.not_mem_nil
  have hsame {d : GStreamerCapture} (hconfig : d.config = c.config) (hattempt : d.attempt = c.attempt)
      (hphase : d.phase = c.phase) (hvideo : d.video = c.video)
      (hnext : d.source.nextSequence = c.source.nextSequence) : Lossless (d, log ++ []) :=
    h.aside hnone hconfig hattempt hphase hvideo hnext
  cases step with
  | worker answer => exact h.worker (c.worker_move answer)
  | childWrites bytes =>
      simp only [GStreamerCapture.advance, GStreamerCapture.step, GStreamerCapture.events]
      cases hvideo : c.video with
      | none => exact hsame rfl rfl rfl hvideo.symm rfl
      | some pipe =>
          simp only [Option.map_some]
          split
          · exact hsame rfl rfl rfl hvideo.symm rfl
          · exact h.write hvideo bytes
  | childHangsUp =>
      refine h.quiet hnone rfl rfl rfl ?_ ?_ h.full id
      · intro pipe hpipe
        obtain ⟨pipe', hvideo, rfl⟩ := Option.map_eq_some_iff.mp hpipe
        exact h.piped pipe' hvideo
      · intro pending hpending
        obtain ⟨hlength, pipe, hvideo, hjoined⟩ := h.current pending hpending
        exact ⟨hlength, _, Option.map_eq_some_iff.mpr ⟨pipe, hvideo, rfl⟩, hjoined⟩
  | childComplains text => exact hsame rfl rfl rfl rfl rfl
  | childFallsSilent => exact hsame rfl rfl rfl rfl rfl
  | errorBytes count =>
      have hevents : ∀ event ∈ c.events (.errorBytes count), Silent event := by
        intro event hmem
        rw [GStreamerCapture.events] at hmem
        split at hmem
        · exact List.mem_singleton.mp hmem ▸ ⟨fun _ => rfl, rfl⟩
        · exact absurd hmem List.not_mem_nil
      obtain ⟨hsource, hrest⟩ := c.readErrors_keeps count
      exact h.aside hevents hrest.1 hrest.2.1 hrest.2.2.1 hrest.2.2.2 hsource
  | errorInterrupted => exact hsame rfl rfl rfl rfl rfl
  | errorEnd =>
      simp only [GStreamerCapture.advance, GStreamerCapture.step, GStreamerCapture.events]
      obtain ⟨hsource, hconfig, hattempt, hphase, hvideo⟩ := c.endErrors_keeps
      split
      · exact hsame hconfig hattempt hphase hvideo hsource
      · exact hsame rfl rfl rfl rfl rfl
  | errorBroken =>
      obtain ⟨hsource, hconfig, hattempt, hphase, hvideo⟩ := c.endErrors_keeps
      exact hsame hconfig hattempt hphase hvideo hsource
  | takeFrame => exact hsame rfl rfl rfl rfl rfl
  | requestStop => exact hsame rfl rfl rfl rfl rfl

end Steps

/-! ### Runs -/

theorem lossless_run (config : GStreamerCameraConfig) (steps : List GStreamerStep) :
    Lossless (run config steps) := by
  induction steps using List.reverseRecOn with
  | nil => exact lossless_start config
  | append_singleton steps step ih =>
      rw [run, List.foldl_append]
      exact ih.advance step

/-- A step publishes the frame that it leaves in the slot. -/
theorem step_published (c : GStreamerCapture) (step : GStreamerStep) :
    c.source.Published (c.step step).source (frames (c.events step)) := by
  cases step with
  | worker answer =>
      have hmove := c.worker_move answer
      show c.source.Published (c.worker answer).source (frames (c.workerEvents answer))
      generalize c.worker answer = d, c.workerEvents answer = events at hmove
      cases hmove with
      | turn hturn =>
          have hsilent := hturn.keeps.1
          exact .inr ⟨List.filterMap_eq_nil_iff.mpr fun event hmem => (hsilent event hmem).2, .inl rfl⟩
      | prepare => exact .inr ⟨rfl, .inr rfl⟩
      | publish yuv420 receivedAt => exact .inl ⟨_, rfl, rfl⟩
      | recover => exact .inr ⟨rfl, .inr rfl⟩
      | _ => exact .inr ⟨rfl, .inl rfl⟩
  | childWrites bytes =>
      refine .inr ⟨?_, .inl rfl⟩
      rw [events]
      split
      · split <;> rfl
      · rfl
  | errorBytes count =>
      refine .inr ⟨?_, .inl (c.readErrors_latestFrame count)⟩
      rw [events]
      split <;> rfl
  | errorEnd =>
      refine .inr ⟨rfl, .inl ?_⟩
      show (if c.errors.any _ then c.endErrors else c).source.latestFrame = _
      split
      · exact c.endErrors_latestFrame
      · rfl
  | errorBroken => exact .inr ⟨rfl, .inl c.endErrors_latestFrame⟩
  | takeFrame => exact .inr ⟨rfl, .inr rfl⟩
  | _ => exact .inr ⟨rfl, .inl rfl⟩

/-- In every run the frame in the slot is the last one that was published. -/
theorem run_latestFrame (config : GStreamerCameraConfig) (steps : List GStreamerStep) :
    ∀ frame, (run config steps).1.source.latestFrame = some frame →
      (frames (run config steps).2).getLast? = some frame := by
  induction steps using List.reverseRecOn with
  | nil => exact fun _ h => (by cases h)
  | append_singleton steps step ih =>
      rw [run, List.foldl_append]
      have hlast := ((run config steps).1.step_published step).last ih
      rw [frames, frames, ← List.filterMap_append] at hlast
      exact hlast

theorem run_config (config : GStreamerCameraConfig) (steps : List GStreamerStep) :
    (run config steps).1.config = config := by
  induction steps using List.reverseRecOn with
  | nil => rfl
  | append_singleton steps step ih =>
      rw [run, List.foldl_append]
      exact (step_config _ step).trans ih

/-- Over any number of attempts, for every interleaving of the threads with the camera process and whatever
the boundaries of the reads: the picture of a frame is the slice of what the process wrote in its attempt at
the number of the frame in it, of the configured size; the frames are numbered from one without a gap; and
while the worker waits with an empty pipe, every frame that was written as a whole has been published. -/
theorem run_frames_sliced (config : GStreamerCameraConfig) (steps : List GStreamerStep) :
    (∀ attempt i frame, (framesOf (run config steps).2 attempt)[i]? = some frame →
      frame.yuv420 = ((writtenOf (run config steps).2 attempt).drop
        ((frameBytes config.width config.height).toNat * i)).take (frameBytes config.width config.height).toNat ∧
      frame.yuv420.length = (frameBytes config.width config.height).toNat ∧
      frame.width = config.width ∧ frame.height = config.height) ∧
    (frames (run config steps).2).map CameraFrame.sequence =
      List.range' 1 (frames (run config steps).2).length ∧
    ∀ r pipe, (run config steps).1.phase = .reading r → (run config steps).1.video = some pipe →
      pipe.content = [] → r.destination.length < (frameBytes config.width config.height).toNat →
      (framesOf (run config steps).2 (run config steps).1.attempt).length =
        (writtenOf (run config steps).2 (run config steps).1.attempt).length /
          (frameBytes config.width config.height).toNat := by
  have hrun := lossless_run config steps
  have hsize : (run config steps).1.frameSize = (frameBytes config.width config.height).toNat := by
    rw [frameSize, run_config]
  rw [← hsize]
  refine ⟨?_, ?_, ?_⟩
  · intro attempt i frame hframe
    obtain ⟨hi, hget⟩ := List.getElem?_eq_some_iff.mp hframe
    have hslice := (hrun.past attempt).getElem_eq (i := i) (by rwa [picturesOf, List.length_map])
    simp only [picturesOf, List.getElem_map, hget] at hslice
    obtain ⟨hwidth, hheight, hlength⟩ :=
      hrun.complete frame (mem_frames_of_mem_framesOf (List.mem_of_getElem? hframe))
    rw [run_config] at hwidth hheight
    exact ⟨hslice, hlength, hwidth, hheight⟩
  · have hlength := congrArg List.length hrun.numbered
    rw [List.length_map, List.length_range'] at hlength
    rw [hlength]
    exact hrun.numbered
  · intro r pipe hphase hvideo hempty hshort
    obtain ⟨-, pipe', hvideo', hjoined⟩ := hrun.current r.destination (by rw [hphase]; rfl)
    cases hvideo.symm.trans hvideo'
    rw [hempty, List.append_nil] at hjoined
    have hcount := (hrun.past (run config steps).1.attempt).length_eq_div hjoined hshort
    rwa [picturesOf, List.length_map] at hcount

end GStreamerCapture

end OnboardAutonomy
