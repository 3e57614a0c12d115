import OnboardAutonomy.AppSnapshot

/-! A camera source as the rest of the program sees it: a status and a slot with the latest frame. Both
sources, rpicam and GStreamer, keep them in the same way. The worker of a source and whoever takes frames
from it share this state under one mutex, so every operation is one step. Frame numbers and counters are
natural numbers: 64 bits outlast any run. -/

namespace OnboardAutonomy

structure CameraFrame where
  sequence : Nat
  width : UInt32
  height : UInt32
  yuv420 : List UInt8
  capturedAt : Option Int
  receivedAt : Int
  deriving DecidableEq

structure CameraSourceStatus where
  phase : CameraSourcePhase := .starting
  description : Bytes
  error : Bytes := []
  producedFrames : Nat := 0
  overwrittenFrames : Nat := 0
  restartCount : Nat := 0

structure CameraSource where
  status : CameraSourceStatus
  latestFrame : Option CameraFrame := none
  lastProcessMessage : Bytes := []
  nextSequence : Nat := 0

namespace CameraSource

def takeLatestFrame (source : CameraSource) : Option CameraFrame × CameraSource :=
  (source.latestFrame, { source with latestFrame := none })

def prepareAttempt (source : CameraSource) : CameraSource :=
  { source with
    lastProcessMessage := []
    latestFrame := none }

def publish (source : CameraSource) (frame : CameraFrame) : CameraSource :=
  { source with
    latestFrame := some frame
    status :=
      { source.status with
        overwrittenFrames :=
          if source.latestFrame.isSome then source.status.overwrittenFrames + 1
          else source.status.overwrittenFrames
        producedFrames := source.status.producedFrames + 1
        phase := .streaming
        error := [] } }

/-- The end of a round of `run_once`: a frame is numbered and published. -/
def deliver (source : CameraSource) (frame : CameraFrame) : CameraSource :=
  let sequence := source.nextSequence + 1
  publish { source with nextSequence := sequence } { frame with sequence := sequence }

def setFailure (source : CameraSource) (error : Bytes) : CameraSource :=
  { source with
    status :=
      { source.status with
        phase := .failed
        error := error } }

def setReconnecting (source : CameraSource) (error : Bytes) : CameraSource :=
  { source with
    latestFrame := none
    status :=
      { source.status with
        phase := .reconnecting
        error := error
        restartCount := source.status.restartCount + 1 } }

def setStopped (source : CameraSource) : CameraSource :=
  { source with status := { source.status with phase := .stopped } }

/-- The error reader keeps the last line of the camera process. -/
def noteProcessMessage (source : CameraSource) (line : Bytes) : CameraSource :=
  if line.isEmpty then source else { source with lastProcessMessage := line }

end CameraSource

/-- What the threads of a source do to it. -/
inductive CameraSourceAction where
  | prepareAttempt
  | deliver (frame : CameraFrame)
  | noteProcessMessage (line : Bytes)
  | setFailure (error : Bytes)
  | setReconnecting (error : Bytes)
  | setStopped

def CameraSource.apply (source : CameraSource) : CameraSourceAction → CameraSource
  | .prepareAttempt => source.prepareAttempt
  | .deliver frame => source.deliver frame
  | .noteProcessMessage line => source.noteProcessMessage line
  | .setFailure error => source.setFailure error
  | .setReconnecting error => source.setReconnecting error
  | .setStopped => source.setStopped

/-- The frames that an action publishes. -/
def CameraSource.publishes (source : CameraSource) : CameraSourceAction → List CameraFrame
  | .deliver frame => [{ frame with sequence := source.nextSequence + 1 }]
  | _ => []

/-- A step that publishes a frame leaves it in the slot; another one leaves the slot as it was, or empty. -/
def CameraSource.Published (source source' : CameraSource) (frames : List CameraFrame) : Prop :=
  (∃ frame, frames = [frame] ∧ source'.latestFrame = some frame) ∨
    frames = [] ∧ (source'.latestFrame = source.latestFrame ∨ source'.latestFrame = none)

/-- So the frame in the slot is always the last one that was published. -/
theorem CameraSource.Published.last {source source' : CameraSource} {frames before : List CameraFrame}
    (h : source.Published source' frames)
    (hlast : ∀ frame, source.latestFrame = some frame → before.getLast? = some frame) (frame : CameraFrame)
    (hframe : source'.latestFrame = some frame) : (before ++ frames).getLast? = some frame := by
  rcases h with ⟨published, rfl, hslot⟩ | ⟨rfl, hsame | hnone⟩
  · rw [List.getLast?_concat, ← hslot, hframe]
  · rw [List.append_nil]
    exact hlast frame (hsame.symm.trans hframe)
  · rw [hnone] at hframe
    cases hframe

/-- The actions that empty the slot. -/
def CameraSourceAction.clears : CameraSourceAction → Bool
  | .prepareAttempt => true
  | .setReconnecting _ => true
  | _ => false

/-- An action delivers a frame, or leaves the counts alone and at most empties the slot. -/
theorem CameraSource.apply_cases (source : CameraSource) (action : CameraSourceAction) :
    (∃ frame, action = .deliver frame) ∨
    (source.publishes action = [] ∧ (source.apply action).nextSequence = source.nextSequence ∧
      (source.apply action).status.producedFrames = source.status.producedFrames ∧
      (source.apply action).status.overwrittenFrames = source.status.overwrittenFrames ∧
      (source.apply action).latestFrame = if action.clears then none else source.latestFrame) := by
  cases action with
  | deliver frame => exact Or.inl ⟨frame, rfl⟩
  | prepareAttempt => exact Or.inr ⟨rfl, rfl, rfl, rfl, rfl⟩
  | setReconnecting error => exact Or.inr ⟨rfl, rfl, rfl, rfl, rfl⟩
  | setFailure error => exact Or.inr ⟨rfl, rfl, rfl, rfl, rfl⟩
  | setStopped => exact Or.inr ⟨rfl, rfl, rfl, rfl, rfl⟩
  | noteProcessMessage line =>
      right
      rw [apply, noteProcessMessage]
      split <;> exact ⟨rfl, rfl, rfl, rfl, rfl⟩

end OnboardAutonomy
