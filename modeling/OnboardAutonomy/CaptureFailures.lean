import OnboardAutonomy.VideoStream

/-! What the status of the GStreamer source says. Every attempt before the current one has failed once, and
from the failure of an attempt on the error tells it, with the last line of the error output of that attempt where
the process has ended by itself; no error outlives the first frame behind it. A source that has been stopped goes
on saying what it said when the stop came. -/

namespace OnboardAutonomy

open Lines

namespace GStreamerEvent

def complainedIn? (attempt : Nat) : GStreamerEvent → Bytes
  | complained readAttempt text => if readAttempt = attempt then text else []
  | _ => []

def failed? : GStreamerEvent → Option (Nat × CaptureFailure)
  | failed attempt failure => some (attempt, failure)
  | _ => none

end GStreamerEvent

theorem append_ne_empty {first : String} (rest : String) (h : first ≠ "") : first ++ rest ≠ "" :=
  fun heq => h (String.append_eq_empty_iff.mp heq).1

theorem literal_ne_nil {text : String} (h : text ≠ "") : literal text ≠ [] := fun hnil =>
  h (String.toByteArray_inj.mp (ByteArray.ext (Array.toList_inj.mp hnil)))

theorem ChildStatus.text_ne (detail : Bytes) (status : ChildStatus) : status.text detail ≠ [] := by
  cases status with
  | exited status =>
      unfold ChildStatus.text
      exact List.append_ne_nil_of_left_ne_nil (literal_ne_nil (append_ne_empty _ (by simp))) _
  | signalled signal =>
      unfold ChildStatus.text
      exact literal_ne_nil (append_ne_empty _ (by simp))
  | other =>
      unfold ChildStatus.text
      exact literal_ne_nil (by simp)

/-- Every failure has a text. -/
theorem CaptureFailure.text_ne (config : GStreamerCameraConfig) (detail : Bytes) (failure : CaptureFailure) :
    failure.text config detail ≠ [] := by
  cases failure with
  | pipes reason =>
      unfold CaptureFailure.text
      exact literal_ne_nil (append_ne_empty _ (by simp))
  | fork reason =>
      unfold CaptureFailure.text
      exact literal_ne_nil (append_ne_empty _ (by simp))
  | ended result status =>
      cases result with
      | timedOut =>
          unfold CaptureFailure.text
          exact literal_ne_nil (append_ne_empty _ (append_ne_empty _ (by simp)))
      | failed =>
          unfold CaptureFailure.text
          exact literal_ne_nil (by simp)
      | _ => exact status.text_ne detail

namespace GStreamerCapture

/-- The error output of an attempt, as far as it was read. -/
def complaintsOf (log : List GStreamerEvent) (attempt : Nat) : Bytes :=
  log.flatMap (GStreamerEvent.complainedIn? attempt)

/-- The failures, each with its attempt. -/
def failures (log : List GStreamerEvent) : List (Nat × CaptureFailure) := log.filterMap GStreamerEvent.failed?

/-- The last line that is not empty. -/
def lastLine (lines : List Bytes) : Bytes := (lines.filter fun line => !line.isEmpty).getLast?.getD []

/-- The error that tells a failure. -/
def describe (config : GStreamerCameraConfig) (log : List GStreamerEvent) (failure : Nat × CaptureFailure) : Bytes :=
  failure.2.text config (lastLine (lines 10 (complaintsOf log failure.1)))

/-- What the status says that has been set last in a phase: the restarts count the failures, but for one that no
restart has followed yet, and an error tells the last of them. -/
def ShowsIn (config : GStreamerCameraConfig) (log : List GStreamerEvent) (status : CameraSourceStatus) :
    CameraSourcePhase → Prop
  | .starting => status.error = [] ∧ status.restartCount = 0 ∧ failures log = [] ∧ framesOf log 1 = []
  | .streaming => status.error = [] ∧ status.restartCount = (failures log).length ∧
      framesOf log ((failures log).length + 1) ≠ []
  | .reconnecting => status.error ≠ [] ∧ status.restartCount = (failures log).length ∧
      framesOf log ((failures log).length + 1) = [] ∧
      ∃ failure, (failures log).getLast? = some failure ∧ status.error = describe config log failure
  | .failed => status.error ≠ [] ∧ status.restartCount + 1 = (failures log).length ∧
      ∃ failure, (failures log).getLast? = some failure ∧ status.error = describe config log failure
  | .stopped => False

/-- The status tells what has happened since the last failure; a stop changes nothing of it but the phase. -/
def Shows (config : GStreamerCameraConfig) (log : List GStreamerEvent) (status : CameraSourceStatus) : Prop :=
  ∃ phase, (status.phase = phase ∨ status.phase = .stopped) ∧ ShowsIn config log status phase

/-- Before a stop the status says what it says in its phase. -/
theorem Shows.of_running {config : GStreamerCameraConfig} {log : List GStreamerEvent} {status : CameraSourceStatus}
    (h : Shows config log status) (hrunning : status.phase ≠ .stopped) :
    ShowsIn config log status status.phase := by
  obtain ⟨phase, hphase, hshows⟩ := h
  rwa [hphase.resolve_right hrunning]

/-! ### The messages of the process -/

section Messages

theorem lastLine_concat (before : List Bytes) (line : Bytes) :
    lastLine (before ++ [line]) = if line.isEmpty then lastLine before else line := by
  rw [lastLine, List.filter_append]
  cases line with
  | nil => simp [lastLine]
  | cons byte line => simp

/-- The last message is the last line that is not empty. -/
theorem noteLines_lastProcessMessage {source : CameraSource} {before : List Bytes}
    (h : source.lastProcessMessage = lastLine before) (lines : List Bytes) :
    (noteLines source lines).lastProcessMessage = lastLine (before ++ lines) := by
  induction lines generalizing source before with
  | nil =>
      rw [List.append_nil]
      exact h
  | cons line lines ih =>
      rw [List.append_cons, noteLines, List.foldl_cons]
      refine ih ?_
      rw [lastLine_concat, CameraSource.noteProcessMessage]
      split
      · exact h
      · rfl

end Messages

end GStreamerCapture

/-- The phases of an attempt, from its preparation to its failure. -/
def GStreamerPhase.attempting : GStreamerPhase → Bool
  | .launching => true
  | .framing => true
  | .reading _ => true
  | .publishing _ => true
  | .closing _ _ => true
  | .joining _ _ => true
  | .reporting _ _ => true
  | .failing _ _ => true
  | _ => false

/-- The phases in which the error output may be read. -/
def GStreamerPhase.listening : GStreamerPhase → Bool
  | .framing => true
  | .reading _ => true
  | .publishing _ => true
  | .closing _ _ => true
  | .joining _ _ => true
  | _ => false

/-- The phases between two attempts. -/
def GStreamerPhase.resting : GStreamerPhase → Bool
  | .looping => true
  | .preparing => true
  | .scheduling => true
  | .waiting _ => true
  | _ => false

namespace GStreamerCapture

/-- How the status goes with what the worker is about to do. -/
structure Staged (r : GStreamerCapture × List GStreamerEvent) : Prop where
  resting : r.1.phase.resting = true → r.1.attempt = (failures r.2).length ∧
    (r.1.source.status.phase = .starting ∨ r.1.source.status.phase = .reconnecting)
  attempting : r.1.phase.attempting = true → r.1.attempt = (failures r.2).length + 1 ∧
    r.1.source.status.phase ≠ .failed ∧ r.1.source.status.phase ≠ .stopped
  checking : r.1.phase = .checking → r.1.stopRequested = true ∨
    r.1.attempt = (failures r.2).length ∧ r.1.source.status.phase = .failed
  recovering : r.1.phase = .recovering → r.1.attempt = (failures r.2).length ∧
    r.1.source.status.phase = .failed

/-- The error reader keeps up with the error output of the attempt. -/
structure Listened (r : GStreamerCapture × List GStreamerEvent) : Prop where
  heard : ∀ e, r.1.errors = some e → e.attempt = r.1.attempt ∧ r.1.phase.listening = true ∧
    Split 10 (complaintsOf r.2 r.1.attempt) e.reader.consumed e.reader.pending ∧
    r.1.source.lastProcessMessage = lastLine e.reader.consumed
  summed : r.1.errors = none → r.1.phase.attempting = true →
    r.1.source.lastProcessMessage = lastLine (lines 10 (complaintsOf r.2 r.1.attempt))
  fresh : r.1.phase = .launching → complaintsOf r.2 r.1.attempt = [] ∧ r.1.source.lastProcessMessage = []
  future : ∀ attempt, r.1.attempt < attempt → complaintsOf r.2 attempt = []

structure Told (r : GStreamerCapture × List GStreamerEvent) : Prop where
  staged : Staged r
  listened : Listened r
  counted : (failures r.2).map Prod.fst = List.range' 1 (failures r.2).length
  shows : Shows r.1.config r.2 r.1.source.status

theorem told_start (config : GStreamerCameraConfig) : Told (start config, []) where
  staged :=
    { resting := fun _ => ⟨rfl, .inl rfl⟩
      attempting := fun h => by cases h
      checking := fun h => by cases h
      recovering := fun h => by cases h }
  listened :=
    { heard := fun _ h => by cases h
      summed := fun _ h => by cases h
      fresh := fun h => by cases h
      future := fun _ _ => rfl }
  counted := rfl
  shows := ⟨.starting, .inl rfl, rfl, rfl, rfl, rfl⟩

section Steps

variable {c d : GStreamerCapture} {log events : List GStreamerEvent}

/-- An event that changes nothing of what a status tells. -/
def Mute (event : GStreamerEvent) : Prop :=
  (∀ attempt, event.complainedIn? attempt = []) ∧ event.failed? = none ∧ event.published? = none

theorem complaintsOf_mute (h : ∀ event ∈ events, Mute event) (attempt : Nat) :
    complaintsOf (log ++ events) attempt = complaintsOf log attempt := by
  rw [complaintsOf, List.flatMap_append, List.flatMap_eq_nil_iff.mpr fun event hmem => (h event hmem).1 attempt,
    List.append_nil]
  rfl

theorem failures_mute (h : ∀ event ∈ events, Mute event) : failures (log ++ events) = failures log := by
  rw [failures, List.filterMap_append, List.filterMap_eq_nil_iff.mpr fun event hmem => (h event hmem).2.1,
    List.append_nil]
  rfl

theorem framesOf_mute (h : ∀ event ∈ events, Mute event) (attempt : Nat) :
    framesOf (log ++ events) attempt = framesOf log attempt := by
  rw [framesOf, List.filterMap_append, List.filterMap_eq_nil_iff.mpr fun event hmem =>
    publishedIn_of_none (h event hmem).2.2 attempt, List.append_nil]
  rfl

/-- A status tells the same when the failures, the frames and what is told of the last failure are the same. -/
theorem Shows.congr {config : GStreamerCameraConfig} {log' : List GStreamerEvent} {status : CameraSourceStatus}
    (h : Shows config log status) (hfailures : failures log' = failures log)
    (hframes : ∀ attempt, framesOf log' attempt = framesOf log attempt)
    (hcomplaints : ∀ failure, (failures log).getLast? = some failure →
      complaintsOf log' failure.1 = complaintsOf log failure.1) : Shows config log' status := by
  obtain ⟨phase, hphase, hshows⟩ := h
  have htold {failure : Nat × CaptureFailure} (hlast : (failures log).getLast? = some failure) :
      describe config log' failure = describe config log failure := by
    rw [describe, describe, hcomplaints failure hlast]
  refine ⟨phase, hphase, ?_⟩
  unfold ShowsIn at hshows ⊢
  simp only [hfailures, hframes]
  cases phase with
  | starting => exact hshows
  | streaming => exact hshows
  | reconnecting =>
      obtain ⟨herror, hcount, hnone, failure, hlast, htext⟩ := hshows
      exact ⟨herror, hcount, hnone, failure, hlast, htext.trans (htold hlast).symm⟩
  | failed =>
      obtain ⟨herror, hcount, failure, hlast, htext⟩ := hshows
      exact ⟨herror, hcount, failure, hlast, htext.trans (htold hlast).symm⟩
  | stopped => exact hshows

theorem Shows.mute {config : GStreamerCameraConfig} {status : CameraSourceStatus} (h : Shows config log status)
    (hmute : ∀ event ∈ events, Mute event) : Shows config (log ++ events) status :=
  h.congr (failures_mute hmute) (framesOf_mute hmute) fun _ _ => complaintsOf_mute hmute _

/-- The last failure was in the attempt of its number. -/
theorem Told.last_attempt (h : Told (c, log)) {failure : Nat × CaptureFailure}
    (hlast : (failures log).getLast? = some failure) : failure.1 = (failures log).length := by
  have hcounted : (failures log).map Prod.fst = List.range' 1 (failures log).length := h.counted
  have hmap := congrArg List.getLast? hcounted
  rw [List.getLast?_map, hlast, Option.map_some, List.getLast?_range'] at hmap
  have hne : (failures log).length ≠ 0 := fun hzero => by
    rw [List.length_eq_zero_iff.mp hzero] at hlast
    cases hlast
  rw [if_neg hne] at hmap
  have hvalue := Option.some.inj hmap
  omega

theorem Turn.mute {phase phase' : GStreamerPhase} (h : Turn c phase phase' events) :
    ∀ event ∈ events, Mute event := by
  have hnone : ∀ event ∈ ([] : List GStreamerEvent), Mute event := fun event hmem => absurd hmem List.not_mem_nil
  have hone {event : GStreamerEvent} (hmute : Mute event) : ∀ event' ∈ [event], Mute event' :=
    fun event' hmem => List.mem_singleton.mp hmem ▸ hmute
  cases h with
  | beginFrame now => exact hone ⟨fun _ => rfl, rfl, rfl⟩
  | stalled f now => exact hone ⟨fun _ => rfl, rfl, rfl⟩
  | waited f now => exact hone ⟨fun _ => rfl, rfl, rfl⟩
  | _ => exact hnone

theorem Staged.turn (h : Staged (c, log)) {phase : GStreamerPhase} (hturn : Turn c c.phase phase events)
    (hfailures : failures (log ++ events) = failures log) : Staged ({ c with phase := phase }, log ++ events) := by
  generalize hphase : c.phase = before at hturn
  -- An attempt goes on, or a rest does.
  have hattempting (hbefore : c.phase.attempting = true) (hresting : phase.resting = false)
      (hchecking : phase ≠ .checking) (hrecovering : phase ≠ .recovering) :
      Staged ({ c with phase := phase }, log ++ events) :=
    ⟨fun hd => (by rw [show phase.resting = true from hd] at hresting; cases hresting),
      fun _ => (by rw [hfailures]; exact h.attempting hbefore), fun hd => absurd hd hchecking,
      fun hd => absurd hd hrecovering⟩
  have hresting (hbefore : c.phase.resting = true) (hattempting : phase.attempting = false)
      (hchecking : phase ≠ .checking) (hrecovering : phase ≠ .recovering) :
      Staged ({ c with phase := phase }, log ++ events) :=
    ⟨fun _ => (by rw [hfailures]; exact h.resting hbefore),
      fun hd => (by rw [show phase.attempting = true from hd] at hattempting; cases hattempting),
      fun hd => absurd hd hchecking, fun hd => absurd hd hrecovering⟩
  have hending (hd : phase = .ending) : Staged ({ c with phase := phase }, log ++ events) := by
    subst hd
    exact ⟨fun hd => (by cases hd), fun hd => (by cases hd), fun hd => (by cases hd), fun hd => (by cases hd)⟩
  cases hturn with
  | stay =>
      have hsame : ({ c with phase := phase } : GStreamerCapture) = c := by rw [← hphase]
      rw [hsame, List.append_nil]
      exact h
  | again => exact hresting (by rw [hphase]; rfl) rfl GStreamerPhase.noConfusion GStreamerPhase.noConfusion
  | schedule => exact hresting (by rw [hphase]; rfl) rfl GStreamerPhase.noConfusion GStreamerPhase.noConfusion
  | resume => exact hresting (by rw [hphase]; rfl) rfl GStreamerPhase.noConfusion GStreamerPhase.noConfusion
  | leave => exact hending rfl
  | leaveAttempt => exact hending rfl
  | leaveWait => exact hending rfl
  | quit result status hstopping =>
      exact ⟨fun hd => (by cases hd), fun hd => (by cases hd), fun _ => .inl hstopping, fun hd => (by cases hd)⟩
  | blamed result status hfailed => exact absurd hfailed (h.attempting (by rw [hphase]; rfl)).2.1
  | retry hgoing =>
      refine ⟨fun hd => (by cases hd), fun hd => (by cases hd), fun hd => (by cases hd), fun _ => ?_⟩
      rcases h.checking hphase with hstopping | hfailed
      · rw [hgoing] at hstopping
        cases hstopping
      · rw [hfailures]
        exact hfailed
  | _ => exact hattempting (by rw [hphase]; rfl) rfl GStreamerPhase.noConfusion GStreamerPhase.noConfusion

/-- A turn keeps the error reader in an attempt that it reads in. -/
theorem Turn.listens {phase phase' : GStreamerPhase} (h : Turn c phase phase' events) :
    (c.errors ≠ none → phase.listening = true → phase'.listening = true) ∧
      (phase'.attempting = true → phase.attempting = true) ∧ (phase' = .launching → phase = .launching) := by
  cases h with
  | joined result status hsilent => exact ⟨fun hne => absurd hsilent hne, id, fun hd => (by cases hd)⟩
  | stay => exact ⟨fun _ hl => hl, id, id⟩
  | _ =>
      exact ⟨fun _ hl => (by first | rfl | cases hl), fun hd => (by first | rfl | cases hd),
        fun hd => (by cases hd)⟩

theorem Listened.turn (h : Listened (c, log)) {phase : GStreamerPhase} (hturn : Turn c c.phase phase events) :
    Listened ({ c with phase := phase }, log ++ events) := by
  have hmute := hturn.mute
  obtain ⟨hlistening, hattempting, hlaunching⟩ := hturn.listens
  refine ⟨?_, ?_, ?_, ?_⟩
  · intro e he
    obtain ⟨hattempt, hl, hsplit, hlast⟩ := h.heard e he
    refine ⟨hattempt, hlistening (fun hnone => ?_) hl, ?_, hlast⟩
    · rw [show c.errors = some e from he] at hnone
      cases hnone
    · rw [complaintsOf_mute hmute]
      exact hsplit
  · intro hnone hd
    rw [complaintsOf_mute hmute]
    exact h.summed hnone (hattempting hd)
  · intro hd
    rw [complaintsOf_mute hmute]
    exact h.fresh (hlaunching hd)
  · intro attempt hlater
    rw [complaintsOf_mute hmute]
    exact h.future attempt hlater

theorem Told.turn (h : Told (c, log)) {phase : GStreamerPhase} (hturn : Turn c c.phase phase events) :
    Told ({ c with phase := phase }, log ++ events) := by
  have hfailures : failures (log ++ events) = failures log := failures_mute hturn.mute
  refine ⟨h.staged.turn hturn hfailures, h.listened.turn hturn, ?_, h.shows.mute hturn.mute⟩
  simpa only [hfailures] using h.counted

theorem Told.prepare (h : Told (c, log)) (hphase : c.phase = .preparing) :
    Told (c.prepareAttempt, log ++ []) := by
  obtain ⟨hattempt, hstatus⟩ := h.staged.resting (by rw [hphase]; rfl)
  have hfresh := h.listened.future (c.attempt + 1) (Nat.lt_succ_self _)
  have hsilent : c.errors = none := by
    cases herrors : c.errors with
    | none => rfl
    | some e =>
        have hl := (h.listened.heard e herrors).2.1
        rw [show c.phase = .preparing from hphase] at hl
        cases hl
  rw [List.append_nil]
  refine ⟨⟨fun hd => (by cases hd), fun _ => ⟨congrArg (· + 1) hattempt, ?_⟩, fun hd => (by cases hd),
    fun hd => (by cases hd)⟩, ⟨fun e he => ?_, fun _ _ => ?_, fun _ => ⟨hfresh, rfl⟩, fun attempt hlater => ?_⟩,
    h.counted, h.shows⟩
  · show c.source.status.phase ≠ .failed ∧ c.source.status.phase ≠ .stopped
    rcases hstatus with hs | hs <;> rw [show c.source.status.phase = _ from hs] <;> decide
  · rw [show c.errors = some e from he] at hsilent
    cases hsilent
  · show [] = lastLine (lines 10 (complaintsOf log (c.attempt + 1)))
    rw [show complaintsOf log (c.attempt + 1) = [] from hfresh]
    rfl
  · exact h.listened.future attempt (Nat.lt_of_succ_lt hlater)

theorem Told.launch (h : Told (c, log)) (hphase : c.phase = .launching) :
    Told
      ({ c with
        video := some { attempt := c.attempt }
        errors := some { attempt := c.attempt }
        phase := .framing }, log ++ []) := by
  obtain ⟨hcomplaints, hmessage⟩ := h.listened.fresh hphase
  rw [List.append_nil]
  refine ⟨⟨fun hd => (by cases hd), fun _ => h.staged.attempting (by rw [hphase]; rfl), fun hd => (by cases hd),
    fun hd => (by cases hd)⟩, ⟨fun e he => ?_, fun hnone => (by cases hnone), fun hd => (by cases hd),
    h.listened.future⟩, h.counted, h.shows⟩
  cases he
  refine ⟨rfl, rfl, ?_, hmessage⟩
  show Split 10 (complaintsOf log c.attempt) [] []
  rw [show complaintsOf log c.attempt = [] from hcomplaints]
  exact .free List.not_mem_nil

/-- A status that neither failed nor stopped counts the failures. -/
theorem Shows.restartCount {config : GStreamerCameraConfig} {status : CameraSourceStatus}
    (h : Shows config log status) (hfailed : status.phase ≠ .failed) (hstopped : status.phase ≠ .stopped) :
    status.restartCount = (failures log).length := by
  have hshows := h.of_running hstopped
  cases hphase : status.phase with
  | starting =>
      rw [hphase] at hshows
      obtain ⟨-, hcount, hnone, -⟩ := hshows
      rw [hcount, hnone]
      rfl
  | streaming =>
      rw [hphase] at hshows
      exact hshows.2.1
  | reconnecting =>
      rw [hphase] at hshows
      exact hshows.2.1
  | failed => exact absurd hphase hfailed
  | stopped => exact absurd hphase hstopped

theorem failures_failed (log : List GStreamerEvent) (attempt : Nat) (failure : CaptureFailure) :
    failures (log ++ [.failed attempt failure]) = failures log ++ [(attempt, failure)] := by
  rw [failures, List.filterMap_append]
  rfl

theorem complaintsOf_failed (log : List GStreamerEvent) (attempt : Nat) (failure : CaptureFailure) (other : Nat) :
    complaintsOf (log ++ [.failed attempt failure]) other = complaintsOf log other := by
  rw [complaintsOf, List.flatMap_append]
  exact List.append_nil _

theorem Told.fail (h : Told (c, log)) (failure : CaptureFailure)
    (hphase : c.phase = .launching ∧ (∀ result status, failure ≠ .ended result status) ∨
      ∃ result status, c.phase = .failing result status ∧ failure = .ended result status) :
    Told (c.fail failure, log ++ [.failed c.attempt failure]) := by
  have hattempting : c.phase.attempting = true := by
    rcases hphase with ⟨hp, -⟩ | ⟨result, status, hp, -⟩ <;> rw [hp] <;> rfl
  have hlistening : c.phase.listening = false := by
    rcases hphase with ⟨hp, -⟩ | ⟨result, status, hp, -⟩ <;> rw [hp] <;> rfl
  have hsilent : c.errors = none := by
    cases herrors : c.errors with
    | none => rfl
    | some e =>
        have hl := (h.listened.heard e herrors).2.1
        rw [show c.phase.listening = false from hlistening] at hl
        cases hl
  obtain ⟨hattempt, hfailed, hstopped⟩ := h.staged.attempting hattempting
  have hcount := h.shows.restartCount hfailed hstopped
  have hmessage := h.listened.summed hsilent hattempting
  have hlength : (failures (log ++ [.failed c.attempt failure])).length = c.attempt := by
    rw [failures_failed, List.length_append]
    exact hattempt.symm
  refine ⟨⟨fun hd => (by cases hd), fun hd => (by cases hd), fun _ => .inr ⟨hlength.symm, rfl⟩,
    fun hd => (by cases hd)⟩, ⟨fun e he => ?_, fun _ hd => (by cases hd), fun hd => (by cases hd),
    fun attempt hlater => ?_⟩, ?_, ?_⟩
  · rw [show c.errors = some e from he] at hsilent
    cases hsilent
  · rw [complaintsOf_failed]
    exact h.listened.future attempt hlater
  · have hcounted : (failures log).map Prod.fst = List.range' 1 (failures log).length := h.counted
    rw [failures_failed, List.map_append, hcounted, List.length_append]
    show List.range' 1 (failures log).length ++ [c.attempt] = List.range' 1 ((failures log).length + 1)
    rw [List.range'_1_concat, show c.attempt = (failures log).length + 1 from hattempt, Nat.add_comm]
  · refine ⟨.failed, .inl rfl, failure.text_ne c.config c.source.lastProcessMessage, ?_, (c.attempt, failure), ?_, ?_⟩
    · show c.source.status.restartCount + 1 = _
      rw [hlength, show c.source.status.restartCount = (failures log).length from hcount]
      exact hattempt.symm
    · rw [failures_failed, List.getLast?_concat]
    · show failure.text c.config c.source.lastProcessMessage = _
      rw [describe, complaintsOf_failed, show c.source.lastProcessMessage = _ from hmessage]
      rfl

theorem mute_progressed (attempt : Nat) (now : Int) : Mute (.progressed attempt now) := ⟨fun _ => rfl, rfl, rfl⟩

theorem mute_wrote (attempt : Nat) (bytes : List UInt8) : Mute (.wrote attempt bytes) := ⟨fun _ => rfl, rfl, rfl⟩

/-- A step that changes neither the status nor what is known of the error output. -/
theorem Told.aside (h : Told (c, log)) (hmute : ∀ event ∈ events, Mute event) (hconfig : d.config = c.config)
    (hattempt : d.attempt = c.attempt) (hstatus : d.source.status = c.source.status)
    (hmessage : d.source.lastProcessMessage = c.source.lastProcessMessage) (herrors : d.errors = c.errors)
    (hstop : c.stopRequested = true → d.stopRequested = true)
    (hphase : d.phase = c.phase ∨ (d.phase.attempting = true ∧ d.phase.listening = true ∧
      d.phase ≠ .launching ∧ d.phase ≠ .recovering ∧ d.phase ≠ .checking ∧ d.phase.resting = false ∧
      c.phase.attempting = true)) : Told (d, log ++ events) := by
  have hfailures : failures (log ++ events) = failures log := failures_mute hmute
  refine ⟨?_, ?_, ?_, ?_⟩
  · rcases hphase with hphase | ⟨ha, hl, hlaunching, hrecovering, hchecking, hresting, hbefore⟩
    · refine ⟨?_, ?_, fun hd => ?_, ?_⟩
      · simpa only [hphase, hattempt, hfailures, hstatus] using h.staged.resting
      · simpa only [hphase, hattempt, hfailures, hstatus] using h.staged.attempting
      · rw [show d.phase = c.phase from hphase] at hd
        simp only [hattempt, hfailures, hstatus]
        exact (h.staged.checking hd).imp_left hstop
      · simpa only [hphase, hattempt, hfailures, hstatus] using h.staged.recovering
    · refine ⟨fun hd => ?_, fun _ => ?_, fun hd => absurd hd hchecking, fun hd => absurd hd hrecovering⟩
      · rw [show d.phase.resting = true from hd] at hresting
        cases hresting
      · simp only [hattempt, hfailures, hstatus]
        exact h.staged.attempting hbefore
  · rcases hphase with hphase | ⟨ha, hl, hlaunching, hrecovering, hchecking, hresting, hbefore⟩
    · refine ⟨?_, ?_, ?_, ?_⟩
      · simpa only [herrors, hattempt, hphase, hmessage, complaintsOf_mute hmute] using h.listened.heard
      · simpa only [herrors, hattempt, hphase, hmessage, complaintsOf_mute hmute] using h.listened.summed
      · simpa only [hattempt, hphase, hmessage, complaintsOf_mute hmute] using h.listened.fresh
      · simpa only [hattempt, complaintsOf_mute hmute] using h.listened.future
    · refine ⟨?_, ?_, fun hd => absurd hd hlaunching, ?_⟩
      · intro e he
        rw [show d.errors = c.errors from herrors] at he
        obtain ⟨hsame, -, hsplit, hlast⟩ := h.listened.heard e he
        simp only [hattempt, hmessage, complaintsOf_mute hmute]
        exact ⟨hsame, hl, hsplit, hlast⟩
      · intro hnone _
        rw [show d.errors = c.errors from herrors] at hnone
        simp only [hattempt, hmessage, complaintsOf_mute hmute]
        exact h.listened.summed hnone hbefore
      · simpa only [hattempt, complaintsOf_mute hmute] using h.listened.future
  · simpa only [hfailures] using h.counted
  · simp only [hstatus, hconfig]
    exact h.shows.mute hmute

theorem framesOf_published_ne (log : List GStreamerEvent) (attempt : Nat) (frame : CameraFrame) :
    framesOf (log ++ [.published attempt frame]) attempt ≠ [] := by
  rw [framesOf_published, if_pos rfl]
  exact List.append_ne_nil_of_right_ne_nil _ (List.cons_ne_nil _ _)

theorem Told.publish (h : Told (c, log)) {yuv420 : List UInt8} (receivedAt : Int)
    (hphase : c.phase = .publishing yuv420) :
    Told
      ({ c with
        source := c.source.deliver (c.completed yuv420 receivedAt)
        phase := .framing },
       log ++ [.published c.attempt
        { c.completed yuv420 receivedAt with sequence := c.source.nextSequence + 1 }]) := by
  obtain ⟨hattempt, hfailed, hstopped⟩ := h.staged.attempting (by rw [hphase]; rfl)
  generalize hframe : ({ c.completed yuv420 receivedAt with sequence := c.source.nextSequence + 1 } : CameraFrame)
    = frame
  have hfailures : failures (log ++ [.published c.attempt frame]) = failures log := by
    rw [failures, List.filterMap_append]
    exact List.append_nil _
  have hcomplaints : ∀ attempt, complaintsOf (log ++ [.published c.attempt frame]) attempt =
      complaintsOf log attempt := fun attempt => by
    rw [complaintsOf, List.flatMap_append]
    exact List.append_nil _
  refine ⟨⟨fun hd => (by cases hd), fun _ => ?_, fun hd => (by cases hd), fun hd => (by cases hd)⟩,
    ⟨fun e he => ?_, fun hnone _ => ?_, fun hd => (by cases hd), fun attempt hlater => ?_⟩, ?_, ?_⟩
  · rw [hfailures]
    exact ⟨hattempt, CameraSourcePhase.noConfusion, CameraSourcePhase.noConfusion⟩
  · obtain ⟨hsame, -, hsplit, hlast⟩ := h.listened.heard e he
    rw [hcomplaints]
    exact ⟨hsame, rfl, hsplit, hlast⟩
  · rw [hcomplaints]
    exact h.listened.summed hnone (by rw [hphase]; rfl)
  · rw [hcomplaints]
    exact h.listened.future attempt hlater
  · simpa only [hfailures] using h.counted
  · refine ⟨.streaming, .inl rfl, rfl, ?_, ?_⟩
    · rw [hfailures]
      exact h.shows.restartCount hfailed hstopped
    · rw [hfailures, ← show c.attempt = (failures log).length + 1 from hattempt]
      exact framesOf_published_ne log c.attempt frame

theorem Told.recover (h : Told (c, log)) (hlossless : Lossless (c, log)) (hphase : c.phase = .recovering) :
    Told (c.recover, log ++ []) := by
  obtain ⟨hattempt, hfailed⟩ := h.staged.recovering hphase
  have hfailed' : c.source.status.phase = .failed := hfailed
  have hshows := h.shows.of_running (by rw [hfailed']; exact CameraSourcePhase.noConfusion)
  rw [hfailed'] at hshows
  obtain ⟨herror, hcount, hlast⟩ := hshows
  have hsilent : c.errors = none := by
    cases herrors : c.errors with
    | none => rfl
    | some e =>
        have hl := (h.listened.heard e herrors).2.1
        rw [show c.phase = .recovering from hphase] at hl
        cases hl
  -- The error of the failure is kept, since it is never empty.
  have hkept : (c.recover).source.status.error = c.source.status.error := by
    show (if c.source.status.error.isEmpty then _ else c.source.status.error) = _
    rw [if_neg fun hempty => herror (List.isEmpty_iff.mp hempty)]
  rw [List.append_nil]
  refine ⟨⟨fun _ => ⟨hattempt, .inr rfl⟩, fun hd => (by cases hd), fun hd => (by cases hd), fun hd => (by cases hd)⟩,
    ⟨fun e he => ?_, fun _ hd => (by cases hd), fun hd => (by cases hd), h.listened.future⟩, h.counted, ?_⟩
  · rw [show c.errors = some e from he] at hsilent
    cases hsilent
  · refine ⟨.reconnecting, .inl rfl, ?_⟩
    show (c.recover).source.status.error ≠ [] ∧ _
    rw [hkept]
    refine ⟨herror, hcount, ?_, hlast⟩
    exact (hlossless.future _ (by rw [← hattempt]; exact Nat.lt_succ_self _)).1

theorem Told.finish (h : Told (c, log)) (hphase : c.phase = .ending) : Told (c.finish, log ++ []) := by
  have hsilent : c.errors = none := by
    cases herrors : c.errors with
    | none => rfl
    | some e =>
        have hl := (h.listened.heard e herrors).2.1
        rw [show c.phase = .ending from hphase] at hl
        cases hl
  rw [List.append_nil]
  refine ⟨⟨fun hd => (by cases hd), fun hd => (by cases hd), fun hd => (by cases hd), fun hd => (by cases hd)⟩,
    ⟨fun e he => ?_, fun _ hd => (by cases hd), fun hd => (by cases hd), h.listened.future⟩, h.counted, ?_⟩
  · rw [show c.errors = some e from he] at hsilent
    cases hsilent
  · obtain ⟨phase, -, hshows⟩ := h.shows
    exact ⟨phase, .inr rfl, by cases phase <;> exact hshows⟩

theorem Told.worker (h : Told (c, log)) (hlossless : Lossless (c, log)) (hmove : WorkerMove c d events) :
    Told (d, log ++ events) := by
  have hnone : ∀ event ∈ ([] : List GStreamerEvent), Mute event := fun event hmem => absurd hmem List.not_mem_nil
  cases hmove with
  | turn hturn => exact h.turn hturn
  | prepare hphase => exact h.prepare hphase
  | launch hphase => exact h.launch hphase
  | fail failure hphase => exact h.fail failure hphase
  | read r pipe bytes rest now hphase =>
      refine h.aside (fun event hmem => List.mem_singleton.mp hmem ▸ mute_progressed _ now) rfl rfl rfl rfl rfl id
        (.inr ⟨rfl, rfl, GStreamerPhase.noConfusion, GStreamerPhase.noConfusion, GStreamerPhase.noConfusion, rfl, ?_⟩)
      rw [hphase]
      rfl
  | publish yuv420 receivedAt hphase => exact h.publish receivedAt hphase
  | reap result stop status hphase =>
      refine h.aside hnone rfl rfl rfl rfl rfl id
        (.inr ⟨rfl, rfl, GStreamerPhase.noConfusion, GStreamerPhase.noConfusion, GStreamerPhase.noConfusion, rfl, ?_⟩)
      rw [hphase]
      rfl
  | recover hphase => exact h.recover hlossless hphase
  | finish hphase => exact h.finish hphase

/-! ### The error reader -/

theorem attempting_of_listening {phase : GStreamerPhase} (h : phase.listening = true) :
    phase.attempting = true ∧ phase ≠ .launching := by
  cases phase <;> first | exact ⟨rfl, GStreamerPhase.noConfusion⟩ | cases h

theorem complaintsOf_complained (log : List GStreamerEvent) (attempt : Nat) (text : Bytes) (other : Nat) :
    complaintsOf (log ++ [.complained attempt text]) other =
      complaintsOf log other ++ if attempt = other then text else [] := by
  rw [complaintsOf, List.flatMap_append, List.flatMap_singleton]
  rfl

theorem noteLines_status (source : CameraSource) (lines : List Bytes) :
    (noteLines source lines).status = source.status := by rw [noteLines_eq]

/-- The error reader takes some bytes. -/
theorem Told.hear (h : Told (c, log)) {e : ErrorReader} (herrors : c.errors = some e) (content : Bytes)
    (first : UInt8) (more : Bytes) :
    Told
      ({ c with
        source := noteLines c.source
          ((e.reader.read 10 (.bytes first more)).consumed.drop e.reader.consumed.length)
        errors := some
          { e with
            content := content
            reader := e.reader.read 10 (.bytes first more) } },
       log ++ [.complained e.attempt (first :: more)]) := by
  obtain ⟨hsame, hlistening, hsplit, hlast⟩ := h.listened.heard e herrors
  obtain ⟨hattempting, hlaunching⟩ := attempting_of_listening hlistening
  obtain ⟨hattempt, hfailed, hstopped⟩ := h.staged.attempting hattempting
  have hfailures : failures (log ++ [.complained e.attempt (first :: more)]) = failures log := by
    rw [failures, List.filterMap_append]
    exact List.append_nil _
  have hframes : ∀ attempt, framesOf (log ++ [.complained e.attempt (first :: more)]) attempt =
      framesOf log attempt := fun attempt => by
    rw [framesOf, List.filterMap_append]
    exact List.append_nil _
  refine ⟨⟨?_, ?_, ?_, ?_⟩, ⟨?_, ?_, ?_, ?_⟩, ?_, ?_⟩
  · simpa only [hfailures, noteLines_status] using h.staged.resting
  · simpa only [hfailures, noteLines_status] using h.staged.attempting
  · simpa only [hfailures, noteLines_status] using h.staged.checking
  · simpa only [hfailures, noteLines_status] using h.staged.recovering
  · intro e' he'
    cases he'
    have hmore := hsplit.append (extractLines_split 10 (e.reader.pending ++ first :: more))
    refine ⟨hsame, hlistening, ?_, ?_⟩
    · rw [complaintsOf_complained, if_pos hsame]
      exact hmore
    · show (noteLines c.source ((e.reader.consumed ++ _).drop e.reader.consumed.length)).lastProcessMessage = _
      rw [List.drop_left]
      exact noteLines_lastProcessMessage hlast _
  · exact fun hnone => (by cases hnone)
  · exact fun hd => absurd hd hlaunching
  · intro attempt hlater
    rw [complaintsOf_complained, if_neg (by rw [hsame]; exact Nat.ne_of_lt hlater), List.append_nil]
    exact h.listened.future attempt hlater
  · simpa only [hfailures] using h.counted
  · rw [noteLines_status]
    refine h.shows.congr hfailures hframes fun failure hfailure => ?_
    -- The last failure was in an earlier attempt.
    have hearlier := h.last_attempt hfailure
    rw [complaintsOf_complained, if_neg, List.append_nil]
    rw [hsame, hearlier, show c.attempt = (failures log).length + 1 from hattempt]
    exact Nat.succ_ne_self _

/-- The error reader ends, with a last line that no newline ends. -/
theorem Told.deafen (h : Told (c, log)) {e : ErrorReader} (herrors : c.errors = some e) :
    Told
      ({ c with
        source := noteLines c.source (e.reader.finish.drop e.reader.consumed.length)
        errors := none }, log ++ []) := by
  obtain ⟨hsame, hlistening, hsplit, hlast⟩ := h.listened.heard e herrors
  obtain ⟨hattempting, hlaunching⟩ := attempting_of_listening hlistening
  have hfinish : e.reader.finish = lines 10 (complaintsOf log c.attempt) := by
    rw [hsplit.lines_eq, LineReader.finish]
    split
    · exact (List.append_nil _).symm
    · rfl
  have hconsumed : e.reader.finish = e.reader.consumed ++ e.reader.finish.drop e.reader.consumed.length := by
    rw [LineReader.finish]
    split
    · rw [List.drop_length, List.append_nil]
    · rw [List.drop_left]
  rw [List.append_nil]
  refine ⟨⟨?_, ?_, ?_, ?_⟩, ⟨fun _ he => (by cases he), fun _ _ => ?_, fun hd => absurd hd hlaunching,
    h.listened.future⟩, h.counted, ?_⟩
  · simpa only [noteLines_status] using h.staged.resting
  · simpa only [noteLines_status] using h.staged.attempting
  · simpa only [noteLines_status] using h.staged.checking
  · simpa only [noteLines_status] using h.staged.recovering
  · show (noteLines c.source _).lastProcessMessage = _
    rw [noteLines_lastProcessMessage hlast, ← hconsumed, hfinish]
  · rw [noteLines_status]
    exact h.shows

theorem Told.readErrors (h : Told (c, log)) (count : Nat) :
    Told (c.readErrors count, log ++ c.events (.errorBytes count)) := by
  have hnone : ∀ event ∈ ([] : List GStreamerEvent), Mute event := fun event hmem => absurd hmem List.not_mem_nil
  unfold GStreamerCapture.readErrors GStreamerCapture.events
  cases herrors : c.errors with
  | none => exact h.aside hnone rfl rfl rfl rfl rfl id (.inl rfl)
  | some e =>
      dsimp only
      cases htake : e.content.take count with
      | nil =>
          refine h.aside (fun event hmem => ?_) rfl rfl rfl rfl rfl id (.inl rfl)
          rw [List.mem_singleton.mp hmem]
          exact ⟨fun attempt => ite_self _, rfl, rfl⟩
      | cons first more => exact h.hear herrors _ first more

theorem Told.endErrors (h : Told (c, log)) : Told (c.endErrors, log ++ []) := by
  unfold GStreamerCapture.endErrors
  cases herrors : c.errors with
  | none =>
      rw [List.append_nil]
      exact h
  | some e => exact h.deafen herrors

/-- What the process does to its error pipe. -/
theorem Told.withErrors (h : Told (c, log)) (change : ErrorReader → ErrorReader)
    (hattempt : ∀ e, (change e).attempt = e.attempt) (hreader : ∀ e, (change e).reader = e.reader) :
    Told ({ c with errors := c.errors.map change }, log ++ []) := by
  rw [List.append_nil]
  refine ⟨⟨h.staged.resting, h.staged.attempting, h.staged.checking, h.staged.recovering⟩,
    ⟨?_, ?_, h.listened.fresh, h.listened.future⟩, h.counted, h.shows⟩
  · intro e he
    obtain ⟨e', herrors, rfl⟩ := Option.map_eq_some_iff.mp he
    rw [hattempt, hreader]
    exact h.listened.heard e' herrors
  · intro hnone
    exact h.listened.summed (Option.map_eq_none_iff.mp hnone)

theorem Told.advance (h : Told (c, log)) (hlossless : Lossless (c, log)) (step : GStreamerStep) :
    Told (advance (c, log) step) := by
  have hnone : ∀ event ∈ ([] : List GStreamerEvent), Mute event := fun event hmem => absurd hmem List.not_mem_nil
  cases step with
  | worker answer => exact h.worker hlossless (c.worker_move answer)
  | childWrites bytes =>
      refine h.aside (fun event hmem => ?_) rfl rfl rfl rfl rfl id (.inl rfl)
      rw [GStreamerCapture.events] at hmem
      split at hmem
      · split at hmem
        · exact absurd hmem List.not_mem_nil
        · exact List.mem_singleton.mp hmem ▸ mute_wrote _ bytes
      · exact absurd hmem List.not_mem_nil
  | childHangsUp => exact h.aside hnone rfl rfl rfl rfl rfl id (.inl rfl)
  | childComplains text =>
      refine h.withErrors _ (fun e => ?_) (fun e => ?_) <;> split <;> rfl
  | childFallsSilent => exact h.withErrors _ (fun _ => rfl) (fun _ => rfl)
  | errorBytes count => exact h.readErrors count
  | errorInterrupted => exact h.aside hnone rfl rfl rfl rfl rfl id (.inl rfl)
  | errorEnd =>
      simp only [GStreamerCapture.advance, GStreamerCapture.step, GStreamerCapture.events]
      split
      · exact h.endErrors
      · exact h.aside hnone rfl rfl rfl rfl rfl id (.inl rfl)
  | errorBroken => exact h.endErrors
  | takeFrame => exact h.aside hnone rfl rfl rfl rfl rfl id (.inl rfl)
  | requestStop => exact h.aside hnone rfl rfl rfl rfl rfl (fun _ => rfl) (.inl rfl)

end Steps

/-! ### Runs -/

theorem told_run (config : GStreamerCameraConfig) (steps : List GStreamerStep) : Told (run config steps) := by
  induction steps using List.reverseRecOn with
  | nil => exact told_start config
  | append_singleton steps step ih =>
      have hlossless := lossless_run config steps
      rw [run, List.foldl_append]
      exact ih.advance hlossless step

/-- For every interleaving of the threads with the camera processes, the attempts that failed are the first
ones, each once and in their order, and the status tells the same story: how many restarts have followed them, the
last of them with its cause and the last line that its process complained of as long as nothing has come since, and
nothing of it once a frame of the next attempt has come. A stop leaves that as it is. -/
theorem run_failures_told (config : GStreamerCameraConfig) (steps : List GStreamerStep) :
    (failures (run config steps).2).map Prod.fst = List.range' 1 (failures (run config steps).2).length ∧
      Shows config (run config steps).2 (run config steps).1.source.status := by
  have htold := told_run config steps
  refine ⟨htold.counted, ?_⟩
  have hshows := htold.shows
  rwa [run_config] at hshows

end GStreamerCapture

end OnboardAutonomy
