import OnboardAutonomy.VehicleState
import OnboardAutonomy.CompanionLinkFailsafe
import OnboardAutonomy.TelemetryStreamConfigurator

/-! `AppSnapshot` and the records it is made of. Text composed by the program is a `String`; text that
comes from elsewhere stays a byte list: the warnings of the vehicle, what a camera process complains of, the
name of a model file. -/

namespace OnboardAutonomy

inductive LinkEventDirection where
  | outbound
  | inbound
  deriving DecidableEq

inductive LinkEventStatus where
  | neutral
  | pending
  | success
  | warning
  | failure
  deriving DecidableEq

structure LinkEvent where
  sequence : UInt64
  elapsed : Int
  direction : LinkEventDirection
  status : LinkEventStatus
  label : String
  detail : String
  deriving DecidableEq

structure LinkActivity where
  sequence : UInt64
  observedAt : Int
  messageName : String
  detail : String
  deriving DecidableEq

inductive TelemetrySetupState where
  | waitingForVehicle
  | configuring
  | active
  | failed
  deriving DecidableEq

/-- `map_telemetry_state`. -/
def mapTelemetryState : TelemetrySetupPhase → TelemetrySetupState
  | .waitingForVehicle => .waitingForVehicle
  | .configuring => .configuring
  | .active => .active
  | .failed => .failed

structure TelemetryStatus where
  state : TelemetrySetupState
  completedRequests : Nat
  totalRequests : Nat
  currentStream : String
  attempt : Nat
  failureResult : Option UInt8
  deriving DecidableEq

structure SimulatedWindProfile where
  speedMS : Binary64
  directionFromDeg : Binary64
  turbulenceMS : Binary64
  deriving DecidableEq

inductive CameraSourcePhase where
  | starting
  | streaming
  | reconnecting
  | stopped
  | failed
  deriving DecidableEq

structure CameraSnapshot where
  phase : CameraSourcePhase
  source : Bytes
  error : Bytes
  width : UInt32
  height : UInt32
  receivedFrames : UInt64
  droppedBeforeProcessing : UInt64
  cameraRestarts : UInt64
  framesWithCaptureTimestamp : UInt64
  measuredFps : Option Binary64
  latestLatencyMs : Option Binary64
  averageLatencyMs : Option Binary64
  maximumLatencyMs : Option Binary64
  latestFrameAgeMs : Option Binary64

structure ImagePoint where
  xPx : Binary64
  yPx : Binary64
  deriving DecidableEq

structure TargetObservation where
  id : Int32
  family : String
  center : ImagePoint
  corners : Vector ImagePoint 4
  confidencePercent : Binary64
  deriving DecidableEq

structure VisionSnapshot where
  detector : Bytes
  processedFrames : UInt64
  framesWithTargets : UInt64
  totalTargets : UInt64
  latestProcessingMs : Option Binary64
  averageProcessingMs : Option Binary64
  maximumProcessingMs : Option Binary64
  lastDetectionAgeMs : Option Binary64
  latestTargets : List TargetObservation

structure AppSnapshot where
  vehicle : VehicleSnapshot
  companionHeartbeatActive : Bool
  companionLinkFailsafe : CompanionLinkFailsafeSnapshot
  telemetry : TelemetryStatus
  simulatedWind : Option SimulatedWindProfile
  camera : Option CameraSnapshot
  vision : Option VisionSnapshot
  linkEvents : List LinkEvent
  elapsed : Int
  txActivity : Option LinkActivity
  rxActivity : Option LinkActivity

end OnboardAutonomy
