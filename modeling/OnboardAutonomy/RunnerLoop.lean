import OnboardAutonomy.CameraMonitor
import OnboardAutonomy.CompanionCore
import OnboardAutonomy.Histories
import OnboardAutonomy.PreviewServer

/-! The loop of the program, `CompanionRunner::run`: operator commands, a poll of the application, the previews
of the two cameras, and a snapshot when one is due. Signals, keys and the frames of the camera threads come in
between; what a step gets from outside is its argument. An exception leaves the loop. -/

namespace OnboardAutonomy

/-! ### The operator's keys -/

inductive RuntimeCommand where
  | shutdown
  deriving DecidableEq

/-- What `ConsoleCommandSource` makes of a key. -/
def runtimeCommand? (key : Char) : Option RuntimeCommand :=
  if key = 'q' ∨ key = 'Q' then some .shutdown else none

/-! ### The loop -/

/-- Where the loop is. -/
inductive LoopPhase where
  | heading
  | commanding
  | rechecking
  | polling
  | downward
  | forward
  | timing
  | returned
  | thrown

/-- What the loop learns from outside. A number of sinks served is how many return before one throws. -/
inductive LoopAnswer where
  | proceed
  | interrupted
  | polled (cameraNow now : TimePoint) (messages : List MavlinkMessage)
  | previews (served : Nat)
  | clock (now : TimePoint) (camera : Option CameraSnapshot) (vision : Option VisionSnapshot) (recordedAt : Int)
      (served : Nat)
  | threw

inductive LoopStep where
  | loop (answer : LoopAnswer)
  | signal
  | key (key : Char)
  | processed (stream : CameraPreviewStream) (frame : ProcessedCameraFrame)
  | detectionFailed (error : String)

structure RunnerLoop (ω : Type) where
  application : CompanionApplication ω
  snapshotInterval : Int
  nextSnapshot : TimePoint
  interactive : Bool
  forwardCamera : Bool
  snapshotSinks : List (Option Nat)
  previewSinks : List (Option Nat)
  keepRunning : Bool := true
  keys : List Char := []
  downwardFrame : Option ProcessedCameraFrame := none
  forwardFrame : Option ProcessedCameraFrame := none
  forwardError : Option String := none
  phase : LoopPhase := .heading

/-- What the loop does, and what comes to it. -/
inductive LoopEvent where
  | signalled
  | typed (key : Char)
  | read (key : Char)
  | processed (stream : CameraPreviewStream) (frame : ProcessedCameraFrame)
  | polled (cameraNow now : TimePoint) (messages : List MavlinkMessage)
  | previewed (stream : CameraPreviewStream) (frame : ProcessedCameraFrame) (sinks : List Nat)
  | complained (error : String)
  | skipped (now : TimePoint)
  | published (now : TimePoint) (camera : Option CameraSnapshot) (vision : Option VisionSnapshot)
      (snapshot : AppSnapshot) (recordedAt : Int) (sinks : List Nat)

/-- The calls of the sinks that are there, up to the first that throws. -/
def serve (sinks : List (Option Nat)) (served : Nat) : List Nat := (sinks.filterMap id).take served

/-- Every sink has returned. -/
def allServed (sinks : List (Option Nat)) (served : Nat) : Bool := decide ((sinks.filterMap id).length ≤ served)

namespace RunnerLoop

variable {ω : Type}

/-- The constructor, which wants a snapshot sink. -/
def start (application : CompanionApplication ω) (snapshotIntervalMs : UInt32) (now : TimePoint)
    (interactive forwardCamera : Bool) (snapshotSinks previewSinks : List (Option Nat)) :
    Except String (RunnerLoop ω) := do
  rejectIf snapshotSinks.isEmpty "at least one runtime snapshot sink is required"
  .ok
    { application := application
      snapshotInterval := milliseconds snapshotIntervalMs.toNat
      nextSnapshot := now
      interactive := interactive
      forwardCamera := forwardCamera
      snapshotSinks := snapshotSinks
      previewSinks := previewSinks }

/-- The condition of the loop. -/
def head (r : RunnerLoop ω) : RunnerLoop ω :=
  { r with phase := if r.keepRunning then .commanding else .returned }

/-- A round of `handle_runtime_commands`: a key is read, unless there is none or the read is interrupted. -/
def command (r : RunnerLoop ω) (answer : LoopAnswer) : RunnerLoop ω × List LoopEvent :=
  match r.interactive, answer, r.keys with
  | true, .proceed, key :: keys =>
      ({ r with
        keys := keys
        keepRunning := r.keepRunning && (runtimeCommand? key).isNone }, [.read key])
  | _, _, _ => ({ r with phase := .rechecking }, [])

def recheck (r : RunnerLoop ω) : RunnerLoop ω := { r with phase := if r.keepRunning then .polling else .returned }

def poll (port : OutboundPort ω) (r : RunnerLoop ω) : LoopAnswer → RunnerLoop ω × List LoopEvent
  | .polled cameraNow now messages =>
      ({ r with
        application := r.application.poll port cameraNow now messages
        phase := .downward }, [.polled cameraNow now messages])
  | .threw => ({ r with phase := .thrown }, [])
  | _ => (r, [])

/-- `publish_downward_camera_frame`. -/
def publishDownward (r : RunnerLoop ω) : LoopAnswer → RunnerLoop ω × List LoopEvent
  | .previews served =>
      match r.downwardFrame with
      | none => ({ r with phase := .forward }, [])
      | some frame =>
          ({ r with
            downwardFrame := none
            phase := if allServed r.previewSinks served then .forward else .thrown },
            [.previewed .downward frame (serve r.previewSinks served)])
  | .threw => ({ r with phase := .thrown }, [])
  | _ => (r, [])

/-- What `publish_forward_camera_frame` says of the detector. -/
def complaints (r : RunnerLoop ω) : List LoopEvent := r.forwardError.toList.map .complained

/-- `publish_forward_camera_frame`. -/
def publishForward (r : RunnerLoop ω) : LoopAnswer → RunnerLoop ω × List LoopEvent
  | .previews served =>
      if r.forwardCamera then
        match r.forwardFrame with
        | none => ({ r with forwardError := none, phase := .timing }, r.complaints)
        | some frame =>
            ({ r with
              forwardError := none
              forwardFrame := none
              phase := if allServed r.previewSinks served then .timing else .thrown },
              r.complaints ++ [.previewed .forward frame (serve r.previewSinks served)])
      else ({ r with phase := .timing }, [])
  | .threw => ({ r with phase := .thrown }, [])
  | _ => (r, [])

/-- The rest of a round of the loop: the snapshot, if it is due. -/
def finishRound (r : RunnerLoop ω) : LoopAnswer → RunnerLoop ω × List LoopEvent
  | .clock now camera vision recordedAt served =>
      if now < r.nextSnapshot then ({ r with phase := .heading }, [.skipped now])
      else
        let (application, snapshot) := r.application.snapshot now camera vision
        let events := [.published now camera vision snapshot recordedAt (serve r.snapshotSinks served)]
        if allServed r.snapshotSinks served then
          ({ r with
            application := application
            nextSnapshot := now + r.snapshotInterval
            phase := .heading }, events)
        else ({ r with application := application, phase := .thrown }, events)
  | .threw => ({ r with phase := .thrown }, [])
  | _ => (r, [])

def loop (port : OutboundPort ω) (r : RunnerLoop ω) (answer : LoopAnswer) : RunnerLoop ω × List LoopEvent :=
  match r.phase with
  | .heading => (r.head, [])
  | .commanding => r.command answer
  | .rechecking => (r.recheck, [])
  | .polling => r.poll port answer
  | .downward => r.publishDownward answer
  | .forward => r.publishForward answer
  | .timing => r.finishRound answer
  | .returned => (r, [])
  | .thrown => (r, [])

/-- A camera thread has processed a frame, which takes the place of one that nobody took. -/
def receive (r : RunnerLoop ω) (stream : CameraPreviewStream) (frame : ProcessedCameraFrame) : RunnerLoop ω :=
  match stream with
  | .downward => { r with downwardFrame := some frame }
  | .forward => { r with forwardFrame := some frame }

def step (port : OutboundPort ω) (r : RunnerLoop ω) : LoopStep → RunnerLoop ω × List LoopEvent
  | .loop answer => r.loop port answer
  | .signal => ({ r with keepRunning := false }, [.signalled])
  | .key key => ({ r with keys := r.keys ++ [key] }, [.typed key])
  | .processed stream frame => (r.receive stream frame, [.processed stream frame])
  | .detectionFailed error => ({ r with forwardError := some error }, [])

def advance (port : OutboundPort ω) (s : RunnerLoop ω × List LoopEvent) (step : LoopStep) :
    RunnerLoop ω × List LoopEvent :=
  ((s.1.step port step).1, s.2 ++ (s.1.step port step).2)

/-- The loop from its construction on. -/
def run (port : OutboundPort ω) (r : RunnerLoop ω) (steps : List LoopStep) : RunnerLoop ω × List LoopEvent :=
  steps.foldl (advance port) (r, [])

/-! ### What a step does -/

/-- The moves of the loop that only take it to another point of the round. -/
inductive LoopTurn (r : RunnerLoop ω) : LoopPhase → LoopPhase → Prop where
  | stay (phase : LoopPhase) : LoopTurn r phase phase
  | enter (going : r.keepRunning = true) : LoopTurn r .heading .commanding
  | leave (stopping : r.keepRunning = false) : LoopTurn r .heading .returned
  | silent : LoopTurn r .commanding .rechecking
  | go (going : r.keepRunning = true) : LoopTurn r .rechecking .polling
  | quit (stopping : r.keepRunning = false) : LoopTurn r .rechecking .returned
  | noFrame (none : r.downwardFrame = none) : LoopTurn r .downward .forward
  | noCamera (none : r.forwardCamera = false) : LoopTurn r .forward .timing
  | throwPoll : LoopTurn r .polling .thrown
  | throwDownward : LoopTurn r .downward .thrown
  | throwForward : LoopTurn r .forward .thrown
  | throwTiming : LoopTurn r .timing .thrown

/-- A step of the loop, with what it does. -/
inductive LoopMove (port : OutboundPort ω) (r : RunnerLoop ω) : RunnerLoop ω → List LoopEvent → Prop where
  | turn {phase : LoopPhase} (h : LoopTurn r r.phase phase) : LoopMove port r { r with phase := phase } []
  | read (key : Char) (keys : List Char) (h : r.phase = .commanding) (typed : r.keys = key :: keys) :
      LoopMove port r { r with keys := keys, keepRunning := r.keepRunning && (runtimeCommand? key).isNone }
        [.read key]
  | poll (cameraNow now : TimePoint) (messages : List MavlinkMessage) (h : r.phase = .polling) :
      LoopMove port r
        { r with
          application := r.application.poll port cameraNow now messages
          phase := .downward } [.polled cameraNow now messages]
  | downward (frame : ProcessedCameraFrame) (served : Nat) (h : r.phase = .downward)
      (waiting : r.downwardFrame = some frame) :
      LoopMove port r
        { r with
          downwardFrame := none
          phase := if allServed r.previewSinks served then .forward else .thrown }
        [.previewed .downward frame (serve r.previewSinks served)]
  | complain (h : r.phase = .forward) (waiting : r.forwardFrame = none) :
      LoopMove port r { r with forwardError := none, phase := .timing } r.complaints
  | forward (frame : ProcessedCameraFrame) (served : Nat) (h : r.phase = .forward)
      (waiting : r.forwardFrame = some frame) :
      LoopMove port r
        { r with
          forwardError := none
          forwardFrame := none
          phase := if allServed r.previewSinks served then .timing else .thrown }
        (r.complaints ++ [.previewed .forward frame (serve r.previewSinks served)])
  | skip (now : TimePoint) (h : r.phase = .timing) (early : now < r.nextSnapshot) :
      LoopMove port r { r with phase := .heading } [.skipped now]
  | publish (now : TimePoint) (camera : Option CameraSnapshot) (vision : Option VisionSnapshot) (recordedAt : Int)
      (served : Nat) (h : r.phase = .timing) (due : r.nextSnapshot ≤ now)
      (complete : allServed r.snapshotSinks served = true) :
      LoopMove port r
        { r with
          application := (r.application.snapshot now camera vision).1
          nextSnapshot := now + r.snapshotInterval
          phase := .heading }
        [.published now camera vision (r.application.snapshot now camera vision).2 recordedAt
          (serve r.snapshotSinks served)]
  | fail (now : TimePoint) (camera : Option CameraSnapshot) (vision : Option VisionSnapshot) (recordedAt : Int)
      (served : Nat) (h : r.phase = .timing) (due : r.nextSnapshot ≤ now) :
      LoopMove port r
        { r with
          application := (r.application.snapshot now camera vision).1
          phase := .thrown }
        [.published now camera vision (r.application.snapshot now camera vision).2 recordedAt
          (serve r.snapshotSinks served)]

section Moves

variable (port : OutboundPort ω) (r : RunnerLoop ω)

theorem loopMove_stay : LoopMove port r r [] := .turn (.stay r.phase)

theorem loopMove_to {phase phase' : LoopPhase} (hphase : r.phase = phase) (h : LoopTurn r phase phase') :
    LoopMove port r { r with phase := phase' } [] := .turn (hphase ▸ h)

theorem loopMove_head (hphase : r.phase = .heading) : LoopMove port r r.head [] := by
  unfold head
  split
  · exact loopMove_to port r hphase (.enter ‹_›)
  · exact loopMove_to port r hphase (.leave (Bool.eq_false_iff.mpr ‹_›))

theorem loopMove_command (hphase : r.phase = .commanding) (answer : LoopAnswer) :
    LoopMove port r (r.command answer).1 (r.command answer).2 := by
  unfold command
  split
  · exact .read _ _ hphase ‹_›
  · exact loopMove_to port r hphase .silent

theorem loopMove_recheck (hphase : r.phase = .rechecking) : LoopMove port r r.recheck [] := by
  unfold recheck
  split
  · exact loopMove_to port r hphase (.go ‹_›)
  · exact loopMove_to port r hphase (.quit (Bool.eq_false_iff.mpr ‹_›))

theorem loopMove_poll (hphase : r.phase = .polling) (answer : LoopAnswer) :
    LoopMove port r (r.poll port answer).1 (r.poll port answer).2 := by
  cases answer with
  | polled cameraNow now messages => exact .poll cameraNow now messages hphase
  | threw => exact loopMove_to port r hphase .throwPoll
  | _ => exact loopMove_stay port r

theorem loopMove_downward (hphase : r.phase = .downward) (answer : LoopAnswer) :
    LoopMove port r (r.publishDownward answer).1 (r.publishDownward answer).2 := by
  cases answer with
  | previews served =>
      unfold publishDownward
      dsimp only
      split
      · exact loopMove_to port r hphase (.noFrame ‹_›)
      · exact .downward _ served hphase ‹_›
  | threw => exact loopMove_to port r hphase .throwDownward
  | _ => exact loopMove_stay port r

theorem loopMove_forward (hphase : r.phase = .forward) (answer : LoopAnswer) :
    LoopMove port r (r.publishForward answer).1 (r.publishForward answer).2 := by
  cases answer with
  | previews served =>
      unfold publishForward
      dsimp only
      split
      · split
        · exact .complain hphase ‹_›
        · exact .forward _ served hphase ‹_›
      · exact loopMove_to port r hphase (.noCamera (Bool.eq_false_iff.mpr ‹_›))
  | threw => exact loopMove_to port r hphase .throwForward
  | _ => exact loopMove_stay port r

theorem loopMove_finishRound (hphase : r.phase = .timing) (answer : LoopAnswer) :
    LoopMove port r (r.finishRound answer).1 (r.finishRound answer).2 := by
  cases answer with
  | clock now camera vision recordedAt served =>
      unfold finishRound
      dsimp only
      split
      · exact .skip now hphase ‹_›
      · next hdue =>
          split
          · exact .publish now camera vision recordedAt served hphase (not_lt.mp hdue) ‹_›
          · exact .fail now camera vision recordedAt served hphase (not_lt.mp hdue)
  | threw => exact loopMove_to port r hphase .throwTiming
  | _ => exact loopMove_stay port r

theorem loop_move (answer : LoopAnswer) : LoopMove port r (r.loop port answer).1 (r.loop port answer).2 := by
  cases hphase : r.phase with
  | heading => simpa only [loop, hphase] using loopMove_head port r hphase
  | commanding => simpa only [loop, hphase] using loopMove_command port r hphase answer
  | rechecking => simpa only [loop, hphase] using loopMove_recheck port r hphase
  | polling => simpa only [loop, hphase] using loopMove_poll port r hphase answer
  | downward => simpa only [loop, hphase] using loopMove_downward port r hphase answer
  | forward => simpa only [loop, hphase] using loopMove_forward port r hphase answer
  | timing => simpa only [loop, hphase] using loopMove_finishRound port r hphase answer
  | returned => simpa only [loop, hphase] using loopMove_stay port r
  | thrown => simpa only [loop, hphase] using loopMove_stay port r

end Moves

end RunnerLoop

end OnboardAutonomy
