import OnboardAutonomy.ChildProcess
import OnboardAutonomy.LineReader
import OnboardAutonomy.RpicamCapture

/-! The GStreamer source: its worker starts the camera process, reads frames from the pipe that the process
writes to, one byte range after another, and starts it again when it ends or stalls; a second thread reads the
lines of its error output. A step below is what one thread or the process does between two accesses to what
they share; what a step gets from outside is its argument. Steps that are not possible in a state leave it as
it is. -/

namespace OnboardAutonomy

/-- The macros of `sys/wait.h` on a wait status. -/
def ChildStatus.ofWait (status : Int) : ChildStatus :=
  if status % 128 = 0 then .exited (status / 256 % 256).toNat
  else if status % 128 = 127 then .other
  else .signalled (status % 128).toNat

/-- The locals of `read_exact`. -/
structure FrameRead where
  destination : List UInt8 := []
  lastProgress : Int

/-- What a round of its loop comes to. -/
inductive FrameRound where
  | filled
  | ended (result : ReadResult)
  | stalled (now : Int)
  | progressed (bytes : List UInt8) (now : Int)
  | waited (now : Int)
  | nothing

/-- The read end of the video pipe, with what has been written and not read yet. -/
structure VideoPipe where
  attempt : Nat
  content : List UInt8 := []
  hungUp : Bool := false

/-- The thread that reads the error output, with its end of the pipe. -/
structure ErrorReader where
  attempt : Nat
  content : List UInt8 := []
  hungUp : Bool := false
  reader : LineReader UInt8 := {}

/-- Where the worker is in `run` and `run_once`. -/
inductive GStreamerPhase where
  | looping
  | preparing
  | launching
  | framing
  | reading (frame : FrameRead)
  | publishing (yuv420 : List UInt8)
  | closing (result : ReadResult) (stop : ChildStop)
  | joining (result : ReadResult) (status : ChildStatus)
  | reporting (result : ReadResult) (status : ChildStatus)
  | failing (result : ReadResult) (status : ChildStatus)
  | checking
  | recovering
  | scheduling
  | waiting (deadline : Int)
  | ending
  | stopped

/-- What the worker learns from outside. A count is how many bytes a read may give at most. -/
inductive GStreamerAnswer where
  | launched
  | pipesFailed (reason : String)
  | forkFailed (reason : String)
  | clock (now : Int)
  | idle (now : Int)
  | interrupted
  | broken
  | bytes (count : Nat) (now : Int)
  | endOfFile
  | child (answer : StopAnswer)

inductive GStreamerStep where
  | worker (answer : GStreamerAnswer)
  | childWrites (bytes : List UInt8)
  | childHangsUp
  | childComplains (text : List UInt8)
  | childFallsSilent
  | errorBytes (count : Nat)
  | errorInterrupted
  | errorEnd
  | errorBroken
  | takeFrame
  | requestStop

structure GStreamerCapture where
  config : GStreamerCameraConfig
  source : CameraSource
  phase : GStreamerPhase := .looping
  attempt : Nat := 0
  video : Option VideoPipe := none
  errors : Option ErrorReader := none
  stopRequested : Bool := false

/-- How an attempt failed. -/
inductive CaptureFailure where
  | pipes (reason : String)
  | fork (reason : String)
  | ended (result : ReadResult) (status : ChildStatus)

/-- What happens in an attempt. -/
inductive GStreamerEvent where
  | wrote (attempt : Nat) (bytes : List UInt8)
  | began (attempt : Nat) (now : Int)
  | progressed (attempt : Nat) (now : Int)
  | waited (attempt : Nat) (now : Int)
  | stalled (attempt : Nat) (now : Int)
  | published (attempt : Nat) (frame : CameraFrame)
  | complained (attempt : Nat) (text : List UInt8)
  | failed (attempt : Nat) (failure : CaptureFailure)

/-- What is told of a process that has ended by itself, where the detail is the last line of its error output. -/
def ChildStatus.text (detail : Bytes) : ChildStatus → Bytes
  | .exited status => literal ("gst-launch-1.0 exited with status " ++ toString status) ++
      (if detail.isEmpty then [] else literal ": " ++ detail)
  | .signalled signal => literal ("gst-launch-1.0 stopped by signal " ++ toString signal)
  | .other => literal "GStreamer I420 stream ended unexpectedly"

/-- What `set_failure` is given. -/
def CaptureFailure.text (config : GStreamerCameraConfig) (detail : Bytes) : CaptureFailure → Bytes
  | .pipes reason => literal ("unable to create GStreamer pipes: " ++ reason)
  | .fork reason => literal ("unable to fork GStreamer: " ++ reason)
  | .ended .timedOut _ => literal ("GStreamer frame stalled for " ++ toString config.frameTimeoutMs.toNat ++ " ms")
  | .ended .failed _ => literal "failed to read the GStreamer I420 stream"
  | .ended _ status => status.text detail

namespace GStreamerCapture

/-- `frame_size_`, which the constructor checks. -/
def frameSize (c : GStreamerCapture) : Nat := (frameBytes c.config.width c.config.height).toNat

def frameTimeout (c : GStreamerCapture) : Int := milliseconds c.config.frameTimeoutMs.toNat

/-- The head of the loop of `run`. -/
def loop (c : GStreamerCapture) : GStreamerCapture :=
  { c with phase := if c.stopRequested then .ending else .preparing }

def prepareAttempt (c : GStreamerCapture) : GStreamerCapture :=
  { c with
    source := c.source.prepareAttempt
    attempt := c.attempt + 1
    phase := .launching }

/-- `set_failure`. -/
def fail (c : GStreamerCapture) (failure : CaptureFailure) : GStreamerCapture :=
  { c with
    source := c.source.setFailure (failure.text c.config c.source.lastProcessMessage)
    phase := .checking }

/-- The pipes and the child, and the thread that reads its error output. -/
def launch (c : GStreamerCapture) : GStreamerAnswer → GStreamerCapture
  | .launched =>
      { c with
        video := some { attempt := c.attempt }
        errors := some { attempt := c.attempt }
        phase := .framing }
  | .pipesFailed reason => c.fail (.pipes reason)
  | .forkFailed reason => c.fail (.fork reason)
  | _ => c

/-- The end of the loop over the frames. -/
def close (c : GStreamerCapture) (result : ReadResult) : GStreamerCapture := { c with phase := .closing result {} }

/-- The head of the loop over the frames, which ends with the result of the last read. -/
def frame (c : GStreamerCapture) (answer : GStreamerAnswer) : GStreamerCapture :=
  if c.stopRequested then c.close .complete
  else
    match answer with
    | .clock now => { c with phase := .reading { lastProgress := now } }
    | _ => c

/-- What a `read` of the video pipe for the rest of a frame gives: nothing while the pipe is empty. -/
def available (c : GStreamerCapture) (r : FrameRead) (count : Nat) : List UInt8 :=
  c.video.elim [] fun pipe => pipe.content.take (min count (c.frameSize - r.destination.length))

/-- A round of the loop of `read_exact`. -/
def round (c : GStreamerCapture) (r : FrameRead) (answer : GStreamerAnswer) : FrameRound :=
  if c.frameSize ≤ r.destination.length then .filled
  else if c.stopRequested then .ended .stopped
  else
    match answer with
    | .idle now => if c.frameTimeout ≤ now - r.lastProgress then .stalled now else .waited now
    | .broken => .ended .failed
    | .endOfFile =>
        if c.video.any fun pipe => pipe.hungUp && pipe.content.isEmpty then .ended .endOfFile else .nothing
    | .bytes count now =>
        match c.available r count with
        | [] => .nothing
        | first :: more => .progressed (first :: more) now
    | _ => .nothing

def readExact (c : GStreamerCapture) (r : FrameRead) (answer : GStreamerAnswer) : GStreamerCapture :=
  match c.round r answer with
  | .filled => { c with phase := .publishing r.destination }
  | .ended result => c.close result
  | .stalled _ => c.close .timedOut
  | .progressed bytes now =>
      { c with
        video := c.video.map fun pipe => { pipe with content := pipe.content.drop bytes.length }
        phase := .reading
          { destination := r.destination ++ bytes
            lastProgress := now } }
  | .waited _ => c
  | .nothing => c

/-- The frame that is published. -/
def completed (c : GStreamerCapture) (yuv420 : List UInt8) (receivedAt : Int) : CameraFrame where
  sequence := 0
  width := c.config.width
  height := c.config.height
  yuv420 := yuv420
  capturedAt := none
  receivedAt := receivedAt

def publish (c : GStreamerCapture) (yuv420 : List UInt8) : GStreamerAnswer → GStreamerCapture
  | .clock receivedAt =>
      { c with
        source := c.source.deliver (c.completed yuv420 receivedAt)
        phase := .framing }
  | _ => c

/-- `stop_camera_child`, and the end of the video pipe. -/
def stopChild (c : GStreamerCapture) (result : ReadResult) (stop : ChildStop) : GStreamerAnswer → GStreamerCapture
  | .child answer =>
      let stop := stop.step answer
      if stop.stage = .returned then
        { c with
          video := none
          phase := .joining result (.ofWait stop.status) }
      else { c with phase := .closing result stop }
  | _ => c

/-- The join of the error reader. -/
def join (c : GStreamerCapture) (result : ReadResult) (status : ChildStatus) : GStreamerCapture :=
  if c.errors.isSome then c else { c with phase := .reporting result status }

/-- The end of `run_once`, which looks at the token first. -/
def report (c : GStreamerCapture) (result : ReadResult) (status : ChildStatus) : GStreamerCapture :=
  { c with phase := if c.stopRequested then .checking else .failing result status }

def failAttempt (c : GStreamerCapture) (result : ReadResult) (status : ChildStatus) : GStreamerCapture :=
  if c.source.status.phase = .failed then { c with phase := .checking } else c.fail (.ended result status)

/-- `run` after an attempt. -/
def check (c : GStreamerCapture) : GStreamerCapture :=
  { c with phase := if c.stopRequested then .ending else .recovering }

def recover (c : GStreamerCapture) : GStreamerCapture :=
  let failure := c.source.status.error
  { c with
    source := c.source.setReconnecting
      (if failure.isEmpty then literal "GStreamer camera stopped unexpectedly" else failure)
    phase := .scheduling }

/-- The deadline of `wait_for_restart`. -/
def schedule (c : GStreamerCapture) : GStreamerAnswer → GStreamerCapture
  | .clock now => { c with phase := .waiting (now + milliseconds c.config.restartDelayMs.toNat) }
  | _ => c

/-- A round of `wait_for_restart`, which looks at the token before the deadline and behind it. -/
def wait (c : GStreamerCapture) (deadline : Int) : GStreamerAnswer → GStreamerCapture
  | .clock now =>
      if c.stopRequested then { c with phase := .ending }
      else if now < deadline then c
      else { c with phase := .looping }
  | _ => c

/-- `set_stopped`. -/
def finish (c : GStreamerCapture) : GStreamerCapture :=
  { c with
    source := c.source.setStopped
    phase := .stopped }

def worker (c : GStreamerCapture) (answer : GStreamerAnswer) : GStreamerCapture :=
  match c.phase with
  | .looping => c.loop
  | .preparing => c.prepareAttempt
  | .launching => c.launch answer
  | .framing => c.frame answer
  | .reading r => c.readExact r answer
  | .publishing yuv420 => c.publish yuv420 answer
  | .closing result stop => c.stopChild result stop answer
  | .joining result status => c.join result status
  | .reporting result status => c.report result status
  | .failing result status => c.failAttempt result status
  | .checking => c.check
  | .recovering => c.recover
  | .scheduling => c.schedule answer
  | .waiting deadline => c.wait deadline answer
  | .ending => c.finish
  | .stopped => c

/-- Lines of the error output, handed to the consumer of `read_lines`. -/
def noteLines (source : CameraSource) (lines : List Bytes) : CameraSource :=
  lines.foldl CameraSource.noteProcessMessage source

/-- A `read` of the error pipe that gives some bytes. -/
def readErrors (c : GStreamerCapture) (count : Nat) : GStreamerCapture :=
  match c.errors with
  | none => c
  | some e =>
      match e.content.take count with
      | [] => c
      | first :: more =>
          let reader := e.reader.read 10 (.bytes first more)
          { c with
            source := noteLines c.source (reader.consumed.drop e.reader.consumed.length)
            errors := some
              { e with
                content := e.content.drop count
                reader := reader } }

/-- The end of `read_lines`. -/
def endErrors (c : GStreamerCapture) : GStreamerCapture :=
  match c.errors with
  | none => c
  | some e =>
      { c with
        source := noteLines c.source (e.reader.finish.drop e.reader.consumed.length)
        errors := none }

def step (c : GStreamerCapture) : GStreamerStep → GStreamerCapture
  | .worker answer => c.worker answer
  | .childWrites bytes =>
      { c with
        video := c.video.map fun pipe =>
          if pipe.hungUp then pipe else { pipe with content := pipe.content ++ bytes } }
  | .childHangsUp => { c with video := c.video.map fun pipe => { pipe with hungUp := true } }
  | .childComplains text =>
      { c with
        errors := c.errors.map fun e => if e.hungUp then e else { e with content := e.content ++ text } }
  | .childFallsSilent => { c with errors := c.errors.map fun e => { e with hungUp := true } }
  | .errorBytes count => c.readErrors count
  | .errorInterrupted => c
  | .errorEnd => if c.errors.any fun e => e.hungUp && e.content.isEmpty then c.endErrors else c
  | .errorBroken => c.endErrors
  | .takeFrame => { c with source := c.source.takeLatestFrame.2 }
  | .requestStop => { c with stopRequested := true }

/-- What a worker's step does in its attempt. -/
def workerEvents (c : GStreamerCapture) (answer : GStreamerAnswer) : List GStreamerEvent :=
  match c.phase, answer with
  | .launching, .pipesFailed reason => [.failed c.attempt (.pipes reason)]
  | .launching, .forkFailed reason => [.failed c.attempt (.fork reason)]
  | .framing, .clock now => if c.stopRequested then [] else [.began c.attempt now]
  | .reading r, _ =>
      match c.round r answer with
      | .stalled now => [.stalled c.attempt now]
      | .progressed _ now => [.progressed c.attempt now]
      | .waited now => [.waited c.attempt now]
      | _ => []
  | .publishing yuv420, .clock receivedAt =>
      [.published c.attempt { c.completed yuv420 receivedAt with sequence := c.source.nextSequence + 1 }]
  | .failing result status, _ =>
      if c.source.status.phase = .failed then [] else [.failed c.attempt (.ended result status)]
  | _, _ => []

def events (c : GStreamerCapture) : GStreamerStep → List GStreamerEvent
  | .worker answer => c.workerEvents answer
  | .childWrites bytes =>
      match c.video with
      | some pipe => if pipe.hungUp then [] else [.wrote pipe.attempt bytes]
      | none => []
  | .errorBytes count =>
      match c.errors with
      | some e => [.complained e.attempt (e.content.take count)]
      | none => []
  | _ => []

/-- The constructor, for a configuration that it accepts. -/
def start (config : GStreamerCameraConfig) : GStreamerCapture where
  config := config
  source := { status := { description := literal ("GStreamer RTP/H.264 UDP " ++ toString config.udpPort.toNat) } }

def advance (r : GStreamerCapture × List GStreamerEvent) (step : GStreamerStep) :
    GStreamerCapture × List GStreamerEvent :=
  (r.1.step step, r.2 ++ r.1.events step)

def run (config : GStreamerCameraConfig) (steps : List GStreamerStep) : GStreamerCapture × List GStreamerEvent :=
  steps.foldl advance (start config, [])

/-! ### What a step does -/

/-- The moves of the worker that leave what the threads share as it is. -/
inductive Turn (c : GStreamerCapture) : GStreamerPhase → GStreamerPhase → List GStreamerEvent → Prop where
  | stay (phase : GStreamerPhase) : Turn c phase phase []
  | again (going : c.stopRequested = false) : Turn c .looping .preparing []
  | leave (stopping : c.stopRequested = true) : Turn c .looping .ending []
  | halt (stopping : c.stopRequested = true) : Turn c .framing (.closing .complete {}) []
  | beginFrame (now : Int) (going : c.stopRequested = false) :
      Turn c .framing (.reading { lastProgress := now }) [.began c.attempt now]
  | filled (r : FrameRead) (full : c.frameSize ≤ r.destination.length) :
      Turn c (.reading r) (.publishing r.destination) []
  | ended (r : FrameRead) (result : ReadResult) (cause : result ≠ .timedOut) :
      Turn c (.reading r) (.closing result {}) []
  | stalled (r : FrameRead) (now : Int) (silent : c.frameTimeout ≤ now - r.lastProgress) :
      Turn c (.reading r) (.closing .timedOut {}) [.stalled c.attempt now]
  | waited (r : FrameRead) (now : Int) (recent : now - r.lastProgress < c.frameTimeout) :
      Turn c (.reading r) (.reading r) [.waited c.attempt now]
  | signal (result : ReadResult) (stop stop' : ChildStop) : Turn c (.closing result stop) (.closing result stop') []
  | joined (result : ReadResult) (status : ChildStatus) (silent : c.errors = none) :
      Turn c (.joining result status) (.reporting result status) []
  | quit (result : ReadResult) (status : ChildStatus) (stopping : c.stopRequested = true) :
      Turn c (.reporting result status) .checking []
  | blame (result : ReadResult) (status : ChildStatus) (going : c.stopRequested = false) :
      Turn c (.reporting result status) (.failing result status) []
  | blamed (result : ReadResult) (status : ChildStatus) (failed : c.source.status.phase = .failed) :
      Turn c (.failing result status) .checking []
  | leaveAttempt (stopping : c.stopRequested = true) : Turn c .checking .ending []
  | retry (going : c.stopRequested = false) : Turn c .checking .recovering []
  | schedule (deadline : Int) : Turn c .scheduling (.waiting deadline) []
  | leaveWait (deadline : Int) (stopping : c.stopRequested = true) : Turn c (.waiting deadline) .ending []
  | resume (deadline : Int) (going : c.stopRequested = false) : Turn c (.waiting deadline) .looping []

/-- A step of the worker, with what it does in its attempt. -/
inductive WorkerMove (c : GStreamerCapture) : GStreamerCapture → List GStreamerEvent → Prop where
  | turn {phase : GStreamerPhase} {events : List GStreamerEvent} (h : Turn c c.phase phase events) :
      WorkerMove c { c with phase := phase } events
  | prepare (h : c.phase = .preparing) : WorkerMove c c.prepareAttempt []
  | launch (h : c.phase = .launching) :
      WorkerMove c
        { c with
          video := some { attempt := c.attempt }
          errors := some { attempt := c.attempt }
          phase := .framing } []
  | fail (failure : CaptureFailure)
      (h : c.phase = .launching ∧ (∀ result status, failure ≠ .ended result status) ∨
        ∃ result status, c.phase = .failing result status ∧ failure = .ended result status) :
      WorkerMove c (c.fail failure) [.failed c.attempt failure]
  | read (r : FrameRead) (pipe : VideoPipe) (bytes rest : List UInt8) (now : Int) (h : c.phase = .reading r)
      (piped : c.video = some pipe) (content : pipe.content = bytes ++ rest)
      (fits : r.destination.length + bytes.length ≤ c.frameSize) :
      WorkerMove c
        { c with
          video := some { pipe with content := rest }
          phase := .reading
            { destination := r.destination ++ bytes
              lastProgress := now } } [.progressed c.attempt now]
  | publish (yuv420 : List UInt8) (receivedAt : Int) (h : c.phase = .publishing yuv420) :
      WorkerMove c
        { c with
          source := c.source.deliver (c.completed yuv420 receivedAt)
          phase := .framing }
        [.published c.attempt { c.completed yuv420 receivedAt with sequence := c.source.nextSequence + 1 }]
  | reap (result : ReadResult) (stop : ChildStop) (status : ChildStatus) (h : c.phase = .closing result stop) :
      WorkerMove c
        { c with
          video := none
          phase := .joining result status } []
  | recover (h : c.phase = .recovering) : WorkerMove c c.recover []
  | finish (h : c.phase = .ending) : WorkerMove c c.finish []

variable (c : GStreamerCapture)

theorem workerMove_stay : WorkerMove c c [] := .turn (.stay c.phase)

theorem workerMove_to {phase phase' : GStreamerPhase} {events : List GStreamerEvent} (hphase : c.phase = phase)
    (h : Turn c phase phase' events) : WorkerMove c { c with phase := phase' } events := .turn (hphase ▸ h)

theorem workerMove_loop (hphase : c.phase = .looping) : WorkerMove c c.loop [] := by
  unfold loop
  split
  · exact c.workerMove_to hphase (.leave ‹_›)
  · exact c.workerMove_to hphase (.again (Bool.eq_false_iff.mpr ‹_›))

theorem workerMove_launch (hphase : c.phase = .launching) (answer : GStreamerAnswer) :
    WorkerMove c (c.launch answer) (c.workerEvents answer) := by
  unfold workerEvents
  rw [hphase]
  cases answer with
  | launched => exact .launch hphase
  | pipesFailed reason => exact .fail _ (.inl ⟨hphase, fun _ _ => CaptureFailure.noConfusion⟩)
  | forkFailed reason => exact .fail _ (.inl ⟨hphase, fun _ _ => CaptureFailure.noConfusion⟩)
  | _ => exact c.workerMove_stay

theorem workerMove_frame (hphase : c.phase = .framing) (answer : GStreamerAnswer) :
    WorkerMove c (c.frame answer) (c.workerEvents answer) := by
  unfold workerEvents frame
  rw [hphase]
  by_cases hstop : c.stopRequested = true
  · cases answer <;> simp only [if_pos hstop] <;> exact c.workerMove_to hphase (.halt hstop)
  · cases answer with
    | clock now =>
        simp only [if_neg hstop]
        exact c.workerMove_to hphase (.beginFrame now (Bool.eq_false_iff.mpr hstop))
    | _ =>
        simp only [if_neg hstop]
        exact c.workerMove_stay

/-- What a round tells. The bytes that it gets come from the front of the pipe. -/
def Tells (r : FrameRead) : FrameRound → Prop
  | .filled => c.frameSize ≤ r.destination.length
  | .ended result => result ≠ .timedOut
  | .stalled now => c.frameTimeout ≤ now - r.lastProgress
  | .progressed bytes _ => ∃ pipe rest, c.video = some pipe ∧ pipe.content = bytes ++ rest ∧
      r.destination.length + bytes.length ≤ c.frameSize
  | .waited now => now - r.lastProgress < c.frameTimeout
  | .nothing => True

theorem available_spec {r : FrameRead} {count : Nat} {bytes : List UInt8} {now : Int}
    (hshort : r.destination.length < c.frameSize) (h : c.available r count = bytes) (hsome : bytes ≠ []) :
    c.Tells r (.progressed bytes now) := by
  unfold available at h
  cases hvideo : c.video with
  | none =>
      rw [hvideo] at h
      exact absurd h.symm hsome
  | some pipe =>
      rw [hvideo, Option.elim_some] at h
      have hlength := congrArg List.length h
      rw [List.length_take] at hlength
      refine ⟨pipe, pipe.content.drop (min count (c.frameSize - r.destination.length)), hvideo, ?_, by omega⟩
      rw [← h, List.take_append_drop]

theorem round_tells (r : FrameRead) (answer : GStreamerAnswer) : c.Tells r (c.round r answer) := by
  unfold round
  split
  · assumption
  next hshort =>
    split
    · exact ReadResult.noConfusion
    · cases answer with
      | broken => exact ReadResult.noConfusion
      | idle now =>
          dsimp only
          split
          · assumption
          · exact not_le.mp ‹_›
      | endOfFile =>
          dsimp only
          split
          · exact ReadResult.noConfusion
          · trivial
      | bytes count now =>
          dsimp only
          split
          · trivial
          · next first more havailable =>
              exact c.available_spec (not_le.mp hshort) havailable (List.cons_ne_nil first more)
      | _ => trivial

theorem workerMove_read {r : FrameRead} (hphase : c.phase = .reading r) (answer : GStreamerAnswer) :
    WorkerMove c (c.readExact r answer) (c.workerEvents answer) := by
  have htells := c.round_tells r answer
  have hevents : c.workerEvents answer =
      match c.round r answer with
      | .stalled now => [.stalled c.attempt now]
      | .progressed _ now => [.progressed c.attempt now]
      | .waited now => [.waited c.attempt now]
      | _ => [] := by
    unfold workerEvents
    rw [hphase]
  rw [hevents]
  unfold readExact
  cases hround : c.round r answer with
  | filled =>
      rw [hround] at htells
      exact c.workerMove_to hphase (.filled r htells)
  | ended result =>
      rw [hround] at htells
      exact c.workerMove_to hphase (.ended r result htells)
  | stalled now =>
      rw [hround] at htells
      exact c.workerMove_to hphase (.stalled r now htells)
  | waited now =>
      rw [hround] at htells
      have hmove := c.workerMove_to hphase (.waited r now htells)
      rwa [← hphase] at hmove
  | progressed bytes now =>
      rw [hround] at htells
      obtain ⟨pipe, rest, hpiped, hcontent, hfits⟩ := htells
      have hmove := WorkerMove.read r pipe bytes rest now hphase hpiped hcontent hfits
      simp only [hpiped, Option.map_some, hcontent, List.drop_left]
      exact hmove
  | nothing => exact c.workerMove_stay

theorem workerMove_publish {yuv420 : List UInt8} (hphase : c.phase = .publishing yuv420)
    (answer : GStreamerAnswer) : WorkerMove c (c.publish yuv420 answer) (c.workerEvents answer) := by
  unfold workerEvents
  rw [hphase]
  cases answer with
  | clock receivedAt => exact .publish yuv420 receivedAt hphase
  | _ => exact c.workerMove_stay

theorem workerMove_stopChild {result : ReadResult} {stop : ChildStop} (hphase : c.phase = .closing result stop)
    (answer : GStreamerAnswer) : WorkerMove c (c.stopChild result stop answer) [] := by
  cases answer with
  | child answer =>
      unfold stopChild
      dsimp only
      split
      · exact .reap result stop _ hphase
      · exact c.workerMove_to hphase (.signal result stop _)
  | _ => exact c.workerMove_stay

theorem workerMove_join {result : ReadResult} {status : ChildStatus} (hphase : c.phase = .joining result status) :
    WorkerMove c (c.join result status) [] := by
  unfold join
  split
  · exact c.workerMove_stay
  · exact c.workerMove_to hphase (.joined result status (Option.not_isSome_iff_eq_none.mp ‹_›))

theorem workerMove_report {result : ReadResult} {status : ChildStatus}
    (hphase : c.phase = .reporting result status) : WorkerMove c (c.report result status) [] := by
  unfold report
  split
  · exact c.workerMove_to hphase (.quit result status ‹_›)
  · exact c.workerMove_to hphase (.blame result status (Bool.eq_false_iff.mpr ‹_›))

theorem workerMove_failAttempt {result : ReadResult} {status : ChildStatus}
    (hphase : c.phase = .failing result status) (answer : GStreamerAnswer) :
    WorkerMove c (c.failAttempt result status) (c.workerEvents answer) := by
  have hevents : c.workerEvents answer =
      if c.source.status.phase = .failed then [] else [.failed c.attempt (.ended result status)] := by
    unfold workerEvents
    rw [hphase]
  rw [hevents]
  unfold failAttempt
  split
  · exact c.workerMove_to hphase (.blamed result status ‹_›)
  · exact .fail _ (.inr ⟨result, status, hphase, rfl⟩)

theorem workerMove_check (hphase : c.phase = .checking) : WorkerMove c c.check [] := by
  unfold check
  split
  · exact c.workerMove_to hphase (.leaveAttempt ‹_›)
  · exact c.workerMove_to hphase (.retry (Bool.eq_false_iff.mpr ‹_›))

theorem workerMove_schedule (hphase : c.phase = .scheduling) (answer : GStreamerAnswer) :
    WorkerMove c (c.schedule answer) [] := by
  cases answer with
  | clock now => exact c.workerMove_to hphase (.schedule _)
  | _ => exact c.workerMove_stay

theorem workerMove_wait {deadline : Int} (hphase : c.phase = .waiting deadline) (answer : GStreamerAnswer) :
    WorkerMove c (c.wait deadline answer) [] := by
  cases answer with
  | clock now =>
      unfold wait
      dsimp only
      split
      · exact c.workerMove_to hphase (.leaveWait deadline ‹_›)
      · split
        · exact c.workerMove_stay
        · exact c.workerMove_to hphase (.resume deadline (Bool.eq_false_iff.mpr ‹_›))
  | _ => exact c.workerMove_stay

theorem worker_move (answer : GStreamerAnswer) : WorkerMove c (c.worker answer) (c.workerEvents answer) := by
  have hquiet (hnone : c.workerEvents answer = []) (h : WorkerMove c (c.worker answer) []) :
      WorkerMove c (c.worker answer) (c.workerEvents answer) := hnone ▸ h
  cases hphase : c.phase with
  | launching => simpa only [worker, hphase] using c.workerMove_launch hphase answer
  | framing => simpa only [worker, hphase] using c.workerMove_frame hphase answer
  | reading r => simpa only [worker, hphase] using c.workerMove_read hphase answer
  | publishing yuv420 => simpa only [worker, hphase] using c.workerMove_publish hphase answer
  | failing result status => simpa only [worker, hphase] using c.workerMove_failAttempt hphase answer
  | looping =>
      refine hquiet (by simp only [workerEvents, hphase]) ?_
      simpa only [worker, hphase] using c.workerMove_loop hphase
  | preparing =>
      refine hquiet (by simp only [workerEvents, hphase]) ?_
      simpa only [worker, hphase] using WorkerMove.prepare hphase
  | closing result stop =>
      refine hquiet (by simp only [workerEvents, hphase]) ?_
      simpa only [worker, hphase] using c.workerMove_stopChild hphase answer
  | joining result status =>
      refine hquiet (by simp only [workerEvents, hphase]) ?_
      simpa only [worker, hphase] using c.workerMove_join hphase
  | reporting result status =>
      refine hquiet (by simp only [workerEvents, hphase]) ?_
      simpa only [worker, hphase] using c.workerMove_report hphase
  | checking =>
      refine hquiet (by simp only [workerEvents, hphase]) ?_
      simpa only [worker, hphase] using c.workerMove_check hphase
  | recovering =>
      refine hquiet (by simp only [workerEvents, hphase]) ?_
      simpa only [worker, hphase] using WorkerMove.recover hphase
  | scheduling =>
      refine hquiet (by simp only [workerEvents, hphase]) ?_
      simpa only [worker, hphase] using c.workerMove_schedule hphase answer
  | waiting deadline =>
      refine hquiet (by simp only [workerEvents, hphase]) ?_
      simpa only [worker, hphase] using c.workerMove_wait hphase answer
  | ending =>
      refine hquiet (by simp only [workerEvents, hphase]) ?_
      simpa only [worker, hphase] using WorkerMove.finish hphase
  | stopped =>
      refine hquiet (by simp only [workerEvents, hphase]) ?_
      simpa only [worker, hphase] using c.workerMove_stay

end GStreamerCapture

end OnboardAutonomy
