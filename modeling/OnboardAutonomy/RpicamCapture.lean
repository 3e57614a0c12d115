import OnboardAutonomy.CameraSource
import OnboardAutonomy.LaunchAdapters

/-! The rpicam source: its worker reads frames from one pipe of the camera process while a second thread reads
capture timestamps from another and queues them. A step below is what one thread does between two accesses
to what it shares; what a step gets from outside, from the system or the camera process, is its argument.
Steps that are not possible in a state leave it as it is. -/

namespace OnboardAutonomy

/-! ### The timestamps -/

/-- What follows the first occurrence of a key. -/
def afterFirst (key : List Char) : List Char → Option (List Char)
  | [] => if key.isEmpty then some [] else none
  | character :: text =>
      if key.isPrefixOf (character :: text) then some ((character :: text).drop key.length)
      else afterFirst key text

def kFrameWallClockKey : List Char := "\"FrameWallClock\"".toList

/-- `parse_rpicam_frame_wall_clock_ns`. -/
def parseRpicamFrameWallClockNs (line : List Char) : Option Int := do
  let afterKey ← afterFirst kFrameWallClockKey line
  match afterKey.dropWhile (· != ':') with
  | [] => none
  | _ :: afterColon =>
      let value := (afterColon.dropWhile (!·.isDigit)).takeWhile Char.isDigit
      match fromCharsUnsigned (2 ^ 63) value with
      | some (timestamp, []) => some timestamp
      | _ => none

/-! ### The threads -/

inductive ReadResult where
  | complete
  | stopped
  | endOfFile
  | timedOut
  | failed
  deriving DecidableEq

inductive ChildStatus where
  | exited (status : Nat)
  | signalled (signal : Nat)
  | other

/-- Where the worker is in `run` and `run_once`. -/
inductive CapturePhase where
  | preparing
  | launching
  | reading
  | awaiting (frame : CameraFrame)
  | publishing (frame : CameraFrame)
  | joining (result : ReadResult)
  | restarting
  | waiting
  | stopped

/-- The metadata reader is given by the attempt that it was started in. -/
structure RpicamCapture where
  config : RpicamCameraConfig
  source : CameraSource
  metadataTimestamps : List Int := []
  phase : CapturePhase := .preparing
  attempt : Nat := 0
  metadataReader : Option Nat := none
  errorReader : Bool := false
  stopRequested : Bool := false

/-- What the worker learns from outside. -/
inductive CaptureAnswer where
  | launched
  | pipesFailed (reason : String)
  | forkFailed (reason : String)
  | frame (yuv420 : List UInt8) (receivedAt : Int)
  | noFrame (result : ReadResult)
  | metadataTimeout
  | childEnded (status : ChildStatus)
  | restartDelayOver

inductive CaptureStep where
  | worker (answer : CaptureAnswer)
  | metadataLine (line : List Char)
  | metadataEnd
  | errorLine (line : Bytes)
  | errorEnd
  | takeFrame
  | requestStop

/-- What is read and published, by attempt. -/
inductive CaptureEvent where
  | parsed (attempt : Nat) (timestamp : Int)
  | published (attempt : Nat) (frame : CameraFrame)

namespace RpicamCapture

/-- The failure at the end of an attempt. -/
def failureText (c : RpicamCapture) (result : ReadResult) (status : ChildStatus) : Bytes :=
  let detail := c.source.lastProcessMessage
  match result, status with
  | .timedOut, _ => literal ("rpicam frame stalled for " ++ toString c.config.frameTimeoutMs.toNat ++ " ms")
  | .failed, _ => literal "failed to read the rpicam YUV stream"
  | _, .exited status => literal ("rpicam-vid exited with status " ++ toString status) ++
      (if detail.isEmpty then [] else literal ": " ++ detail)
  | _, .signalled signal => literal ("rpicam-vid stopped by signal " ++ toString signal)
  | _, .other => literal "rpicam YUV stream ended unexpectedly"

/-- `prepare_attempt`, at the head of the loop. -/
def prepare (c : RpicamCapture) : RpicamCapture :=
  if c.stopRequested then
    { c with
      source := c.source.setStopped
      phase := .stopped }
  else
    { c with
      source := c.source.prepareAttempt
      metadataTimestamps := []
      attempt := c.attempt + 1
      phase := .launching }

/-- The pipes and the child, and the threads that read from it. -/
def launch (c : RpicamCapture) : CaptureAnswer → RpicamCapture
  | .launched =>
      { c with
        metadataReader := some c.attempt
        errorReader := true
        phase := .reading }
  | .pipesFailed reason =>
      { c with
        source := c.source.setFailure (literal ("unable to create rpicam pipes: " ++ reason))
        phase := .restarting }
  | .forkFailed reason =>
      { c with
        source := c.source.setFailure (literal ("unable to fork rpicam-vid: " ++ reason))
        phase := .restarting }
  | _ => c

/-- `read_exact`, at the head of the loop over the frames. -/
def read (c : RpicamCapture) (answer : CaptureAnswer) : RpicamCapture :=
  if c.stopRequested then { c with phase := .joining .complete }
  else
    match answer with
    | .frame yuv420 receivedAt =>
        { c with
          phase := .awaiting
            { sequence := 0
              width := c.config.width
              height := c.config.height
              yuv420 := yuv420
              capturedAt := none
              receivedAt := receivedAt } }
    | .noFrame result => { c with phase := .joining result }
    | _ => c

/-- `wait_for_metadata`: it ends when there is a timestamp, when the source is stopped, or in time. -/
def waitForMetadata (c : RpicamCapture) (frame : CameraFrame) (answer : CaptureAnswer) : RpicamCapture :=
  match c.metadataTimestamps with
  | timestamp :: later =>
      { c with
        metadataTimestamps := later
        phase := .publishing { frame with capturedAt := some timestamp } }
  | [] =>
      if c.stopRequested then { c with phase := .joining .complete }
      else
        match answer with
        | .metadataTimeout =>
            { c with
              source := c.source.setFailure (literal "camera frame arrived without FrameWallClock metadata")
              phase := .joining .complete }
        | _ => c

def publish (c : RpicamCapture) (frame : CameraFrame) : RpicamCapture :=
  { c with
    source := c.source.deliver frame
    phase := .reading }

/-- The end of `run_once`: both readers are joined. -/
def join (c : RpicamCapture) (result : ReadResult) (answer : CaptureAnswer) : RpicamCapture :=
  if c.metadataReader.isSome || c.errorReader then c
  else
    match answer with
    | .childEnded status =>
        if c.stopRequested || c.source.status.phase = .failed then { c with phase := .restarting }
        else
          { c with
            source := c.source.setFailure (c.failureText result status)
            phase := .restarting }
    | _ => c

def restart (c : RpicamCapture) : RpicamCapture :=
  if c.stopRequested then
    { c with
      source := c.source.setStopped
      phase := .stopped }
  else
    let failure := c.source.status.error
    { c with
      source := c.source.setReconnecting
        (if failure.isEmpty then literal "rpicam camera stopped unexpectedly" else failure)
      phase := .waiting }

/-- `wait_for_restart`. -/
def waitForRestart (c : RpicamCapture) (answer : CaptureAnswer) : RpicamCapture :=
  if c.stopRequested then
    { c with
      source := c.source.setStopped
      phase := .stopped }
  else
    match answer with
    | .restartDelayOver => { c with phase := .preparing }
    | _ => c

def worker (c : RpicamCapture) (answer : CaptureAnswer) : RpicamCapture :=
  match c.phase with
  | .preparing => c.prepare
  | .launching => c.launch answer
  | .reading => c.read answer
  | .awaiting frame => c.waitForMetadata frame answer
  | .publishing frame => c.publish frame
  | .joining result => c.join result answer
  | .restarting => c.restart
  | .waiting => c.waitForRestart answer
  | .stopped => c

def step (c : RpicamCapture) : CaptureStep → RpicamCapture
  | .worker answer => c.worker answer
  | .metadataLine line =>
      match c.metadataReader, parseRpicamFrameWallClockNs line with
      | some _, some timestamp => { c with metadataTimestamps := c.metadataTimestamps ++ [timestamp] }
      | _, _ => c
  | .metadataEnd => { c with metadataReader := none }
  | .errorLine line => if c.errorReader then { c with source := c.source.noteProcessMessage line } else c
  | .errorEnd => { c with errorReader := false }
  | .takeFrame => { c with source := c.source.takeLatestFrame.2 }
  | .requestStop => { c with stopRequested := true }

/-- What a step reads or publishes. A timestamp belongs to the attempt of the reader that reads it. -/
def events (c : RpicamCapture) : CaptureStep → List CaptureEvent
  | .worker _ =>
      match c.phase with
      | .publishing frame => [.published c.attempt { frame with sequence := c.source.nextSequence + 1 }]
      | _ => []
  | .metadataLine line =>
      match c.metadataReader, parseRpicamFrameWallClockNs line with
      | some attempt, some timestamp => [.parsed attempt timestamp]
      | _, _ => []
  | _ => []

def start (config : RpicamCameraConfig) : RpicamCapture where
  config := config
  source := { status := { description := literal "rpicam-vid camera 0" } }

def advance (r : RpicamCapture × List CaptureEvent) (step : CaptureStep) : RpicamCapture × List CaptureEvent :=
  (r.1.step step, r.2 ++ r.1.events step)

def run (config : RpicamCameraConfig) (steps : List CaptureStep) : RpicamCapture × List CaptureEvent :=
  steps.foldl advance (start config, [])

end RpicamCapture

end OnboardAutonomy
