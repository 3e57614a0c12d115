import OnboardAutonomy.AppSnapshot
import OnboardAutonomy.Wrapping

/-! `ConsoleView`: the screen of the console. It is drawn by calls of `write_border` and `write_line`, one
after the other; the text of a line is made printable, wrapped, padded and painted. -/

namespace OnboardAutonomy.ConsoleView

open Wrapping

def kConsoleWidth : Nat := 80
def kInnerWidth : Nat := kConsoleWidth - 2
def kContentWidth : Nat := kInnerWidth - 2

instance : NeZero kContentWidth := ⟨by decide⟩

/-- The character ' '. -/
def space : UInt8 := 32

def newline : UInt8 := 10

def kDeleteCharacter : UInt8 := 127

inductive Tone where
  | normal
  | good
  | waiting
  | bad
  | accent
  | chrome
  | dim
  deriving DecidableEq

def ansiCode : Tone → Bytes
  | .normal => literal "\x1b[97m"
  | .good => literal "\x1b[92m"
  | .waiting => literal "\x1b[93m"
  | .bad => literal "\x1b[91m"
  | .accent => literal "\x1b[96m"
  | .chrome => literal "\x1b[94m"
  | .dim => literal "\x1b[90m"

def paint (value : Bytes) (tone : Tone) (useColor : Bool) : Bytes :=
  if !useColor then value else ansiCode tone ++ value ++ literal "\x1b[0m"

def printable (value : Bytes) : Bytes :=
  value.map fun character => if space ≤ character ∧ character ≠ kDeleteCharacter then character else space

/-- What is taken is not longer than the width, so the subtraction does not wrap. -/
def fitted (value : Bytes) (width : Nat) : Bytes :=
  value.take width ++ List.replicate (width - (value.take width).length) space

/-- The label of a border. -/
def borderLabel (title : String) : Bytes := if title.isEmpty then [] else literal ("-- " ++ title ++ " ")

/-- The titles are short, so the subtraction does not wrap. -/
def writeBorder (title : String) (useColor : Bool) : Bytes :=
  paint (literal "+" ++ borderLabel title ++
    List.replicate (kInnerWidth - (borderLabel title).length) 45 ++ literal "+") .chrome useColor ++ [newline]

/-- One turn of the loop of `write_line`. -/
def writeContent (content : Bytes) (tone : Tone) (useColor : Bool) : Bytes :=
  paint (literal "| ") .chrome useColor ++ paint (fitted content kContentWidth) tone useColor ++
    paint (literal " |") .chrome useColor ++ [newline]

def writeLine (value : Bytes) (tone : Tone) (useColor : Bool) : Bytes :=
  (wrap space kContentWidth (printable value)).flatMap fun content => writeContent content tone useColor

/-! ### What the screen reads of a snapshot, with text of any bytes -/

structure ScreenActivity where
  observedAt : Int
  messageName : Bytes
  detail : Bytes

structure ScreenFailsafe where
  phase : CompanionLinkFailsafePhase
  detail : Bytes
  configuredGcsSystemId : Option UInt8
  timeoutS : Option Binary64

def ScreenFailsafe.accepted (failsafe : ScreenFailsafe) : Bool := failsafe.phase == .accepted

structure ScreenCamera where
  phase : CameraSourcePhase
  error : Bytes
  width : UInt32
  height : UInt32
  receivedFrames : UInt64
  droppedBeforeProcessing : UInt64
  cameraRestarts : UInt64
  measuredFps : Option Binary64
  latestLatencyMs : Option Binary64
  averageLatencyMs : Option Binary64
  maximumLatencyMs : Option Binary64

structure ScreenTarget where
  family : Bytes
  center : ImagePoint
  confidencePercent : Binary64

structure ScreenVision where
  detector : Bytes
  processedFrames : UInt64
  averageProcessingMs : Option Binary64
  latestTargets : List ScreenTarget

structure ScreenSnapshot where
  vehicle : VehicleSnapshot
  companionHeartbeatActive : Bool
  companionLinkFailsafe : ScreenFailsafe
  telemetry : TelemetryStatus
  camera : Option ScreenCamera
  vision : Option ScreenVision
  elapsed : Int
  txActivity : Option ScreenActivity
  rxActivity : Option ScreenActivity

structure BoardTypeMatch where
  preferredName : Bytes
  aliases : List Bytes

/-- `BoardTypeResolver::resolve`. -/
abbrev BoardTypeResolver := UInt16 → Option BoardTypeMatch

/-! ### The texts -/

def gpsFixName : Option UInt8 → String
  | none => "WAITING"
  | some fixType =>
      match fixType.toNat with
      | 0 => "UNAVAILABLE"
      | 1 => "NO FIX"
      | 2 => "2D"
      | 3 => "3D"
      | 4 => "DGPS"
      | 5 => "RTK FLOAT"
      | 6 => "RTK FIXED"
      | 7 => "STATIC FIXED"
      | 8 => "PPP"
      | _ => "UNKNOWN"

def flightModeName : Option UInt32 → String
  | none => "UNKNOWN"
  | some mode =>
      match mode.toNat with
      | 0 => "STABILIZE"
      | 3 => "AUTO"
      | 4 => "GUIDED"
      | 5 => "LOITER"
      | 6 => "RTL"
      | 9 => "LAND"
      | 16 => "POSITION HOLD"
      | number => "MODE " ++ toString number

def autopilotName : Option UInt8 → String
  | none => "WAITING"
  | some type => if type = 3 then "ARDUPILOT" else "AUTOPILOT " ++ toString type.toNat

def firmwareReleaseName (releaseType : UInt8) : String :=
  if releaseType = 255 then "OFFICIAL"
  else if 192 ≤ releaseType then "RC"
  else if 128 ≤ releaseType then "BETA"
  else if 64 ≤ releaseType then "ALPHA"
  else "DEV"

def firmwareDetail (vehicle : VehicleSnapshot) : String :=
  if !vehicle.connected then "FIRMWARE WAITING"
  else
    match vehicle.autopilotMetadata with
    | none => "FIRMWARE REQUESTING"
    | some metadata =>
        "FIRMWARE " ++ toString metadata.firmwareMajor.toNat ++ "." ++ toString metadata.firmwareMinor.toNat ++
          "." ++ toString metadata.firmwarePatch.toNat ++ " " ++
          firmwareReleaseName metadata.firmwareReleaseType

def boardTypeId (boardVersion : UInt32) : UInt16 := (boardVersion >>> 16).toUInt16

def resolveBoardType (boardVersion : UInt32) (resolver : Option BoardTypeResolver) : Option BoardTypeMatch :=
  resolver.bind fun resolve => resolve (boardTypeId boardVersion)

def boardTypeName (boardVersion : UInt32) (resolver : Option BoardTypeResolver) : Bytes :=
  match resolveBoardType boardVersion resolver with
  | some found => found.preferredName
  | none => literal ("BOARD TYPE " ++ toString (boardTypeId boardVersion).toNat)

/-- What follows the name of the board. -/
def boardNumbers (boardVersion : UInt32) (resolver : Option BoardTypeResolver) : String :=
  " / ID " ++ toString (boardTypeId boardVersion).toNat ++ " / SILICON " ++
    toString (boardVersion &&& 0xFF).toNat ++
    match resolveBoardType boardVersion resolver with
    | some found =>
        if 1 < found.aliases.length then " / " ++ toString found.aliases.length ++ " ALIASES" else ""
    | none => ""

def boardDetail (vehicle : VehicleSnapshot) (resolver : Option BoardTypeResolver) : Bytes :=
  match vehicle.connected, vehicle.autopilotMetadata with
  | true, some metadata =>
      if metadata.boardVersion = 0 then literal "BOARD UNREPORTED"
      else boardTypeName metadata.boardVersion resolver ++ literal (boardNumbers metadata.boardVersion resolver)
  | _, _ => literal "BOARD WAITING"

def telemetryDetail (telemetry : TelemetryStatus) : String :=
  let progress := toString telemetry.completedRequests ++ "/" ++ toString telemetry.totalRequests
  match telemetry.state with
  | .waitingForVehicle => "TELEMETRY WAITING"
  | .configuring => "TELEMETRY SETUP " ++ progress ++ " ACCEPTED"
  | .active => "TELEMETRY READY / " ++ toString telemetry.totalRequests ++ " STREAMS"
  | .failed => "TELEMETRY FAILED / " ++ progress ++ " ACCEPTED"

/-- A part of a text that is there only with a value. -/
def optionalText {β : Type} (value : Option β) (text : β → String) : String := value.elim "" text

def companionLinkFailsafeDetail (failsafe : ScreenFailsafe) : Bytes :=
  if !failsafe.accepted then literal "LINK FAILSAFE / " ++ failsafe.detail
  else
    literal ("LINK FAILSAFE READY / ARDUPILOT LAND" ++
      (optionalText failsafe.timeoutS fun timeout => " / " ++ timeout.fixedTenths ++ " S") ++
      optionalText failsafe.configuredGcsSystemId fun systemId => " / SYSID " ++ toString systemId.toNat)

def companionLinkFailsafeTone (failsafe : ScreenFailsafe) : Tone :=
  match failsafe.phase with
  | .accepted => .good
  | .rejected => .bad
  | .readingParameters => .waiting
  | .waitingForVehicle => .dim

def metadataTone (snapshot : ScreenSnapshot) : Tone :=
  if snapshot.telemetry.state = .failed then .bad
  else if snapshot.telemetry.state = .active ∧ snapshot.vehicle.autopilotMetadata.isSome then .good
  else if snapshot.vehicle.connected then .waiting else .dim

def cameraPhaseName (camera : ScreenCamera) : String :=
  match camera.phase with
  | .starting => "CAMERA STARTING"
  | .streaming => "CAMERA STREAMING"
  | .reconnecting => "CAMERA RECONNECTING"
  | .stopped => "CAMERA STOPPED"
  | .failed => "CAMERA FAILED"

def cameraTone (camera : ScreenCamera) : Tone :=
  match camera.phase with
  | .starting => .waiting
  | .streaming => .good
  | .reconnecting => .waiting
  | .stopped => .dim
  | .failed => .bad

def cameraStreamDetail (camera : ScreenCamera) : String :=
  cameraPhaseName camera ++
    (if 0 < camera.width ∧ 0 < camera.height then
      "   |   " ++ toString camera.width.toNat ++ "x" ++ toString camera.height.toNat ++ " YUV420" else "") ++
    (optionalText camera.measuredFps fun fps => "   |   " ++ fps.fixedTenths ++ " FPS") ++
    "   |   " ++ toString camera.receivedFrames.toNat ++ " FRAMES" ++
    (if 0 < camera.cameraRestarts then "   |   " ++ toString camera.cameraRestarts.toNat ++ " RESTARTS" else "")

def cameraLatencyDetail (camera : ScreenCamera) : Bytes :=
  if !camera.error.isEmpty then camera.error
  else
    match camera.latestLatencyMs with
    | none => literal "WAITING FOR FRAMEWALLCLOCK METADATA"
    | some latest =>
        literal ("CAMERA LATENCY " ++ latest.fixedTenths ++ " MS LATEST" ++
          (optionalText camera.averageLatencyMs fun average => " / " ++ average.fixedTenths ++ " MS AVG") ++
          (optionalText camera.maximumLatencyMs fun maximum => " / " ++ maximum.fixedTenths ++ " MS MAX") ++
          "   |   DROP " ++ toString camera.droppedBeforeProcessing.toNat)

/-- What follows the name of the detector. -/
def visionNumbers (vision : ScreenVision) : String :=
  "   |   " ++ toString vision.processedFrames.toNat ++ " FRAMES" ++
    optionalText vision.averageProcessingMs fun average => "   |   " ++ average.fixedTenths ++ " MS AVG"

def visionPipelineDetail (vision : ScreenVision) : Bytes :=
  literal "VISION " ++ vision.detector ++ literal (visionNumbers vision)

/-- What follows the family of the first target. -/
def targetNumbers (target : ScreenTarget) (objects : Nat) : String :=
  "   |   CENTER " ++ target.center.xPx.fixedTenths ++ "/" ++ target.center.yPx.fixedTenths ++
    " PX   |   CONFIDENCE " ++ target.confidencePercent.fixedTenths ++ "%" ++
    if 1 < objects then "   |   " ++ toString objects ++ " OBJECTS" else ""

def visionTargetDetail (vision : ScreenVision) : Bytes :=
  match vision.latestTargets with
  | [] => literal "NO OBJECT DETECTED"
  | target :: _ => target.family ++ literal (targetNumbers target vision.latestTargets.length)

def visionTargetTone (vision : ScreenVision) : Tone := if vision.latestTargets.isEmpty then .dim else .good

def altitudeDetail (vehicle : VehicleSnapshot) : String :=
  match vehicle.relativeAltitudeM with
  | none => "--"
  | some altitude => altitude.fixedHundredths ++ " M"

def gpsDetail (vehicle : VehicleSnapshot) : String :=
  gpsFixName vehicle.gpsFixType ++
    optionalText vehicle.satellitesVisible fun satellites => " / " ++ toString satellites.toNat ++ " SAT"

def batteryDetail (vehicle : VehicleSnapshot) : String :=
  let parts := (vehicle.batteryVoltageV.map fun voltage => voltage.fixedHundredths ++ " V").toList ++
    (vehicle.batteryRemainingPct.map fun percent => toString percent.toInt ++ "%").toList
  if parts.isEmpty then "WAITING" else " / ".intercalate parts

/-- The age of an activity, in seconds as a `double`. -/
def activityAge (activity : ScreenActivity) (elapsed : Int) : String :=
  if activity.observedAt ≤ elapsed then
    "  / " ++ ((Binary64.ofInt (elapsed - activity.observedAt)).div 1000).fixedTenths ++ " S AGO"
  else "  / AGE UNKNOWN"

def activityDetail (direction : String) (activity : Option ScreenActivity) (elapsed : Int) : Bytes :=
  match activity with
  | none => literal (direction ++ "  WAITING FOR FIRST FRAME")
  | some activity =>
      literal (direction ++ "  ") ++ activity.messageName ++
        (if activity.detail.isEmpty then [] else literal ": " ++ activity.detail) ++
        literal (activityAge activity elapsed)

def overallStatus (snapshot : ScreenSnapshot) : String :=
  let telemetryComplete := snapshot.vehicle.gpsFixType.isSome && snapshot.vehicle.batteryVoltageV.isSome &&
    snapshot.vehicle.systemHealthKnown
  if !snapshot.vehicle.connected then "WAITING FOR FLIGHT CONTROLLER"
  else if !telemetryComplete then "CHECKING TELEMETRY"
  else if snapshot.vehicle.armable then "READY" else "NOT READY"

def overallTone (snapshot : ScreenSnapshot) : Tone :=
  if overallStatus snapshot = "READY" then .good
  else if overallStatus snapshot = "NOT READY" then .bad else .waiting

/-! ### The screen -/

/-- A call that draws a part of the screen. -/
inductive ScreenPart where
  | border (title : String)
  | line (value : Bytes) (tone : Tone)

def ScreenPart.write (useColor : Bool) : ScreenPart → Bytes
  | .border title => writeBorder title useColor
  | .line value tone => writeLine value tone useColor

def writeVehicle (vehicle : VehicleSnapshot) (resolver : Option BoardTypeResolver) : List ScreenPart :=
  let tone := if vehicle.connected then Tone.normal else Tone.dim
  [ .border "VEHICLE",
    .line (literal ("MODE " ++ flightModeName vehicle.flightMode ++ " / " ++
      (if vehicle.connected then (if vehicle.armed then "ARMED" else "DISARMED") else "ARM STATE UNKNOWN") ++
      "   |   ALT " ++ altitudeDetail vehicle)) tone,
    .line (literal ("GPS " ++ gpsDetail vehicle ++ "   |   BAT " ++ batteryDetail vehicle)) tone,
    .line (literal ("FC " ++ autopilotName vehicle.autopilotType ++ "   |   " ++ firmwareDetail vehicle)) tone,
    .line (boardDetail vehicle resolver) tone ]

def writeHealth (snapshot : ScreenSnapshot) : List ScreenPart :=
  [ .border "HEALTH",
    .line (literal (telemetryDetail snapshot.telemetry ++ "   |   COMPANION HEARTBEAT " ++
      if snapshot.companionHeartbeatActive then "ON" else "WAITING")) (metadataTone snapshot),
    .line (companionLinkFailsafeDetail snapshot.companionLinkFailsafe)
      (companionLinkFailsafeTone snapshot.companionLinkFailsafe) ] ++
  (if snapshot.vehicle.warnings.isEmpty then
    [ .line (literal
          (if snapshot.vehicle.connected then "NO ACTIVE WARNINGS" else "WARNINGS AVAILABLE AFTER CONNECTION"))
        (if snapshot.vehicle.connected then .good else .dim) ]
  else []) ++
  snapshot.vehicle.warnings.map fun warning => .line (literal "! " ++ warning) .bad

def writeCameraAndVision (snapshot : ScreenSnapshot) : List ScreenPart :=
  if snapshot.camera.isNone && snapshot.vision.isNone then []
  else
    [ .border "CAMERA / VISION" ] ++
    (snapshot.camera.elim [] fun camera =>
      [ .line (literal (cameraStreamDetail camera)) (cameraTone camera),
        .line (cameraLatencyDetail camera) (cameraTone camera) ]) ++
    snapshot.vision.elim [] fun vision =>
      [ .line (visionPipelineDetail vision) .accent,
        .line (visionTargetDetail vision) (visionTargetTone vision) ]

structure ConsoleViewOptions where
  useColor : Bool := false
  interactiveInput : Bool := false

def writeControls (interactiveInput : Bool) : List ScreenPart :=
  [ .border "CONTROLS",
    if !interactiveInput then .line (literal "LIVE VIEW   |   Ctrl+C exit") .dim
    else .line (literal "[Q] QUIT   |   OBSERVATION ONLY") .dim ]

/-- The calls of `render_console`, in their order. -/
def screenParts (snapshot : ScreenSnapshot) (transportDescription : Bytes) (interactiveInput : Bool)
    (resolver : Option BoardTypeResolver) : List ScreenPart :=
  [ .border "",
    .line (literal ("ONBOARD AUTONOMY   [ " ++ overallStatus snapshot ++ " ]")) (overallTone snapshot),
    .line (literal ("LINK " ++ (if snapshot.vehicle.connected then "ONLINE" else "WAITING") ++ "   ") ++
      transportDescription) (if snapshot.vehicle.connected then .accent else .dim) ] ++
  writeVehicle snapshot.vehicle resolver ++ writeHealth snapshot ++ writeCameraAndVision snapshot ++
  [ .border "MAVLINK / LAST FRAME",
    .line (activityDetail "TX" snapshot.txActivity snapshot.elapsed) .accent,
    .line (activityDetail "RX" snapshot.rxActivity snapshot.elapsed) .normal ] ++
  writeControls interactiveInput ++
  [ .border "" ]

def renderConsole (snapshot : ScreenSnapshot) (transportDescription : Bytes) (options : ConsoleViewOptions)
    (resolver : Option BoardTypeResolver) : Bytes :=
  (screenParts snapshot transportDescription options.interactiveInput resolver).flatMap
    (ScreenPart.write options.useColor)

end OnboardAutonomy.ConsoleView
