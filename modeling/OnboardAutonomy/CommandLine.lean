import OnboardAutonomy.AppSnapshot
import OnboardAutonomy.FromChars

/-! The command line: arguments are read from left to right into a draft, the draft is validated as a
whole, and only then does it become a launch state. An error is an `std::invalid_argument`. -/

namespace OnboardAutonomy

/-! ### Launch states -/

namespace Defaults

def kUdpBindAddress : String := "0.0.0.0"
def kMavlinkUdpPort : UInt16 := 14550
def kSerialBaudRate : UInt32 := 115200
def kCameraFramesPerSecond : UInt32 := 30
def kCameraSensorMode : String := "2304:1296:10:P"
def kCameraUdpPort : UInt16 := 5601
def kCameraPreviewPort : UInt16 := 8080
def kCameraFrameWidth : UInt32 := 640
def kCameraFrameHeight : UInt32 := 480
def kSnapshotIntervalMs : UInt32 := 1000
def kDegreesPerCircle : Binary64 := .finite 360

end Defaults

structure UdpConnectionOptions where
  bindAddress : String
  port : UInt16
  deriving DecidableEq

structure SerialConnectionOptions where
  device : String
  baudRate : UInt32
  deriving DecidableEq

inductive MavlinkConnectionOptions where
  | udp (options : UdpConnectionOptions)
  | serial (options : SerialConnectionOptions)
  deriving DecidableEq

inductive CameraSourceOptions where
  | rpicam (framesPerSecond : UInt32) (sensorMode : String)
  | gstreamer (udpPort : UInt16)
  deriving DecidableEq

structure ForwardCameraOptions where
  udpPort : UInt16
  frameWidth : UInt32
  frameHeight : UInt32
  deriving DecidableEq

structure CameraOptions where
  source : CameraSourceOptions
  frameWidth : UInt32
  frameHeight : UInt32
  deriving DecidableEq

structure OperatorInterfaceOptions where
  interactive : Bool
  jsonOutput : Bool
  snapshotIntervalMs : UInt32
  boardTypesFile : String
  deriving DecidableEq

/-- The preview is given by its port. -/
structure DiagnosticsOptions where
  cameraPreview : Option UInt16
  forwardCamera : Option ForwardCameraOptions
  logFile : String
  deriving DecidableEq

structure HardwareLaunchOptions where
  connection : MavlinkConnectionOptions
  camera : Option CameraOptions
  operatorInterface : OperatorInterfaceOptions
  diagnostics : DiagnosticsOptions
  deriving DecidableEq

structure SimulationLaunchOptions where
  connection : UdpConnectionOptions
  camera : Option CameraOptions
  wind : Option SimulatedWindProfile
  operatorInterface : OperatorInterfaceOptions
  diagnostics : DiagnosticsOptions
  deriving DecidableEq

inductive CommandLineOptions where
  | hardware (launch : HardwareLaunchOptions)
  | simulation (launch : SimulationLaunchOptions)
  deriving DecidableEq

namespace CommandLineOptions

/-- The connection of either kind of launch. A simulation is always observed over UDP. -/
def connection : CommandLineOptions → MavlinkConnectionOptions
  | hardware launch => launch.connection
  | simulation launch => .udp launch.connection

def camera : CommandLineOptions → Option CameraOptions
  | hardware launch => launch.camera
  | simulation launch => launch.camera

def wind : CommandLineOptions → Option SimulatedWindProfile
  | hardware _ => none
  | simulation launch => launch.wind

/-- `operator_options`. -/
def operatorInterface : CommandLineOptions → OperatorInterfaceOptions
  | hardware launch => launch.operatorInterface
  | simulation launch => launch.operatorInterface

/-- `diagnostics_options`. -/
def diagnostics : CommandLineOptions → DiagnosticsOptions
  | hardware launch => launch.diagnostics
  | simulation launch => launch.diagnostics

end CommandLineOptions

/-! ### The draft -/

inductive TransportBackend where
  | udp
  | serial
  deriving DecidableEq

inductive CameraBackend where
  | rpicam
  | gstreamer
  deriving DecidableEq

structure LaunchArgumentsDraft where
  udpBind : String := Defaults.kUdpBindAddress
  serialDevice : String := ""
  boardTypesFile : String := ""
  diagnosticLogFile : String := ""
  simulatedWind : Option SimulatedWindProfile := none
  forwardCameraUdpPort : Option UInt16 := none
  transport : TransportBackend := .udp
  baudRate : UInt32 := Defaults.kSerialBaudRate
  snapshotIntervalMs : UInt32 := Defaults.kSnapshotIntervalMs
  cameraBackend : CameraBackend := .rpicam
  cameraWidth : UInt32 := Defaults.kCameraFrameWidth
  cameraHeight : UInt32 := Defaults.kCameraFrameHeight
  cameraFps : UInt32 := Defaults.kCameraFramesPerSecond
  cameraSensorMode : String := Defaults.kCameraSensorMode
  udpPort : UInt16 := Defaults.kMavlinkUdpPort
  cameraUdpPort : UInt16 := Defaults.kCameraUdpPort
  cameraPreviewPort : UInt16 := Defaults.kCameraPreviewPort
  cameraEnabled : Bool := false
  cameraPreviewEnabled : Bool := false
  jsonOutput : Bool := false
  sitlMode : Bool := false
  interactive : Bool := false

/-- The options that were given, where that matters beside their values. -/
structure ExplicitOptions where
  udpBind : Bool := false
  udpPort : Bool := false
  serialDevice : Bool := false
  baudRate : Bool := false
  cameraSource : Bool := false
  cameraUdpPort : Bool := false
  cameraWidth : Bool := false
  cameraHeight : Bool := false
  cameraFps : Bool := false
  cameraSensorMode : Bool := false
  cameraPreviewPort : Bool := false
  diagnosticLogFile : Bool := false

/-! ### Numbers -/

def parseNumber {T : Type} (fromChars : List Char → Option (T × List Char)) (text option : String) :
    Except String T :=
  match fromChars text.toList with
  | some (value, []) => .ok value
  | _ => .error ("Invalid numeric value for " ++ option)

def fromCharsUInt16 (text : List Char) : Option (UInt16 × List Char) :=
  (fromCharsUnsigned UInt16.size text).map fun (value, rest) => (UInt16.ofNat value, rest)

def fromCharsUInt32 (text : List Char) : Option (UInt32 × List Char) :=
  (fromCharsUnsigned UInt32.size text).map fun (value, rest) => (UInt32.ofNat value, rest)

/-! ### Validation -/

/-- `if (condition) throw std::invalid_argument(message)`. -/
def rejectIf (condition : Bool) (message : String) : Except String Unit :=
  if condition then .error message else .ok ()

def validateTransport (options : LaunchArgumentsDraft) (explicitOptions : ExplicitOptions) :
    Except String Unit :=
  if options.transport = .udp then do
    rejectIf (explicitOptions.serialDevice || explicitOptions.baudRate)
      "--serial-device and --baud require --transport serial"
    rejectIf options.udpBind.isEmpty "--udp-bind cannot be empty"
    rejectIf (options.udpPort == 0) "--udp-port must be positive"
  else do
    rejectIf (explicitOptions.udpBind || explicitOptions.udpPort)
      "--udp-bind and --udp-port require --transport udp"
    rejectIf options.serialDevice.isEmpty "--transport serial requires --serial-device DEVICE"
    rejectIf (options.baudRate == 0) "--baud must be positive"
    rejectIf options.sitlMode "--sitl cannot be combined with --transport serial"

def supportedBitDepths : List UInt32 := [8, 10, 12, 14, 16]

/-- The loop over the parts of a sensor mode, and the packing that is left after them. -/
def validateSensorModeParts : List Nat → List Char → Except String Unit
  | [], mode => rejectIf (mode != ['P'] && mode != ['U']) "--camera-sensor-mode packing must be P or U"
  | part :: parts, mode =>
      match mode.dropWhile (· != ':') with
      | [] => .error "--camera-sensor-mode must be WIDTH:HEIGHT:DEPTH:P or :U"
      | _ :: rest => do
          let value ← parseNumber fromCharsUInt32 (String.ofList (mode.takeWhile (· != ':')))
            "--camera-sensor-mode"
          rejectIf (value == 0 || (part == 2 && !supportedBitDepths.contains value))
            "Invalid dimensions or depth for --camera-sensor-mode"
          validateSensorModeParts parts rest

def validateSensorMode (mode : String) : Except String Unit := validateSensorModeParts [0, 1, 2] mode.toList

def validateCamera (options : LaunchArgumentsDraft) (explicitOptions : ExplicitOptions) :
    Except String Unit := do
  let primarySettingUsed := explicitOptions.cameraSource || explicitOptions.cameraUdpPort ||
    explicitOptions.cameraFps || explicitOptions.cameraSensorMode
  rejectIf (primarySettingUsed && !options.cameraEnabled)
    "camera source, UDP port, and FPS options require --camera"
  let anyCamera := options.cameraEnabled || options.forwardCameraUdpPort.isSome
  rejectIf (!anyCamera && (explicitOptions.cameraWidth || explicitOptions.cameraHeight ||
      options.cameraPreviewEnabled))
    "camera dimensions and preview require --camera or --forward-camera-udp-port"
  rejectIf (anyCamera && (options.cameraWidth == 0 || options.cameraHeight == 0 ||
      options.cameraWidth % 2 != 0 || options.cameraHeight % 2 != 0))
    "camera width and height must be positive even values"
  if options.cameraEnabled then
    rejectIf (explicitOptions.cameraSensorMode && options.cameraBackend != .rpicam)
      "--camera-sensor-mode requires --camera-source rpicam"
    if options.cameraBackend = .rpicam then validateSensorMode options.cameraSensorMode
    rejectIf (options.cameraBackend == .rpicam && explicitOptions.cameraUdpPort)
      "--camera-udp-port requires --camera-source gstreamer"
    rejectIf (options.cameraBackend == .gstreamer && explicitOptions.cameraFps)
      "--camera-fps is available only for --camera-source rpicam"
    rejectIf (options.cameraBackend == .rpicam && options.cameraFps == 0) "--camera-fps must be positive"
    rejectIf (options.cameraBackend == .gstreamer && options.cameraUdpPort == 0)
      "--camera-udp-port must be positive"
  rejectIf (explicitOptions.cameraPreviewPort && !options.cameraPreviewEnabled)
    "--camera-preview-port requires --camera-preview"
  rejectIf (options.cameraPreviewEnabled && options.cameraPreviewPort == 0)
    "--camera-preview-port must be positive"
  match options.forwardCameraUdpPort with
  | none => .ok ()
  | some forwardPort => do
      rejectIf (!options.cameraPreviewEnabled) "--forward-camera-udp-port requires --camera-preview"
      rejectIf (forwardPort == 0) "--forward-camera-udp-port must be positive"
      rejectIf (options.cameraEnabled && options.cameraBackend == .gstreamer &&
          forwardPort == options.cameraUdpPort)
        "forward and downward camera UDP ports must differ"

/-- The rules for a simulated wind. -/
def validateWind (sitlMode : Bool) (wind : SimulatedWindProfile) : Except String Unit := do
  rejectIf (!sitlMode) "--sim-wind requires --sitl"
  rejectIf (!wind.speedMS.isFinite || wind.speedMS.lt .zero)
    "--sim-wind speed must be finite and non-negative"
  rejectIf (!wind.directionFromDeg.isFinite || wind.directionFromDeg.lt .zero ||
      wind.directionFromDeg.ge Defaults.kDegreesPerCircle)
    "--sim-wind direction must be in [0, 360)"
  rejectIf (!wind.turbulenceMS.isFinite || wind.turbulenceMS.lt .zero)
    "--sim-wind turbulence must be finite and non-negative"

def validateOptions (options : LaunchArgumentsDraft) (explicitOptions : ExplicitOptions) :
    Except String Unit := do
  rejectIf (options.snapshotIntervalMs == 0) "--snapshot-ms must be positive"
  rejectIf (options.interactive && options.jsonOutput) "--interactive cannot be combined with --json"
  rejectIf (options.diagnosticLogFile.isEmpty && explicitOptions.diagnosticLogFile)
    "--diagnostic-log cannot be empty"
  match options.simulatedWind with
  | some wind => validateWind options.sitlMode wind
  | none => .ok ()
  validateTransport options explicitOptions
  validateCamera options explicitOptions

/-! ### Launch states from drafts -/

def makeConnectionOptions (draft : LaunchArgumentsDraft) : MavlinkConnectionOptions :=
  if draft.transport = .udp then .udp { bindAddress := draft.udpBind, port := draft.udpPort }
  else .serial { device := draft.serialDevice, baudRate := draft.baudRate }

def makeCameraSourceOptions (draft : LaunchArgumentsDraft) : CameraSourceOptions :=
  if draft.cameraBackend = .rpicam then .rpicam draft.cameraFps draft.cameraSensorMode
  else .gstreamer draft.cameraUdpPort

def makeCameraOptions (draft : LaunchArgumentsDraft) : Option CameraOptions :=
  if !draft.cameraEnabled then none
  else some
    { source := makeCameraSourceOptions draft
      frameWidth := draft.cameraWidth
      frameHeight := draft.cameraHeight }

def makeCommandLineOptions (draft : LaunchArgumentsDraft) : CommandLineOptions :=
  let camera := makeCameraOptions draft
  let operatorInterface : OperatorInterfaceOptions :=
    { interactive := draft.interactive
      jsonOutput := draft.jsonOutput
      snapshotIntervalMs := draft.snapshotIntervalMs
      boardTypesFile := draft.boardTypesFile }
  let diagnostics : DiagnosticsOptions :=
    { cameraPreview := if draft.cameraPreviewEnabled then some draft.cameraPreviewPort else none
      forwardCamera := draft.forwardCameraUdpPort.map fun port =>
        { udpPort := port
          frameWidth := draft.cameraWidth
          frameHeight := draft.cameraHeight }
      logFile := draft.diagnosticLogFile }
  if draft.sitlMode then
    .simulation
      { connection := { bindAddress := draft.udpBind, port := draft.udpPort }
        camera := camera
        wind := draft.simulatedWind
        operatorInterface := operatorInterface
        diagnostics := diagnostics }
  else
    .hardware
      { connection := makeConnectionOptions draft
        camera := camera
        operatorInterface := operatorInterface
        diagnostics := diagnostics }

/-! ### The parser -/

/-- The arguments that are left, and what the ones before them have set. -/
structure ArgumentParser where
  arguments : List String
  draft : LaunchArgumentsDraft := {}
  explicitOptions : ExplicitOptions := {}

namespace ArgumentParser

def valueAfter (p : ArgumentParser) (option : String) : Except String (String × ArgumentParser) :=
  match p.arguments with
  | [] => .error ("Missing value after " ++ option)
  | value :: rest => .ok (value, { p with arguments := rest })

/-- A branch for an option with one value: the value is read, stored and marked as given. -/
def takeValue {T : Type} (p : ArgumentParser) (option : String) (read : String → Except String T)
    (store : LaunchArgumentsDraft → T → LaunchArgumentsDraft)
    (mark : ExplicitOptions → ExplicitOptions := id) : Except String (Option ArgumentParser) := do
  let (text, p) ← p.valueAfter option
  let value ← read text
  .ok (some { p with draft := store p.draft value, explicitOptions := mark p.explicitOptions })

def setFlag (p : ArgumentParser) (store : LaunchArgumentsDraft → LaunchArgumentsDraft) :
    Except String (Option ArgumentParser) := .ok (some { p with draft := store p.draft })

def readTransport (value : String) : Except String TransportBackend :=
  if value == "udp" then .ok .udp
  else if value == "serial" then .ok .serial
  else .error "--transport must be udp or serial"

/-- Nothing when the argument is none of these options. -/
def parseTransport (p : ArgumentParser) (argument : String) : Except String (Option ArgumentParser) :=
  if argument == "--transport" then
    p.takeValue argument readTransport fun draft value => { draft with transport := value }
  else if argument == "--udp-bind" then
    p.takeValue argument .ok (fun draft value => { draft with udpBind := value })
      fun options => { options with udpBind := true }
  else if argument == "--udp-port" then
    p.takeValue argument (parseNumber fromCharsUInt16 · argument)
      (fun draft value => { draft with udpPort := value }) fun options => { options with udpPort := true }
  else if argument == "--serial-device" then
    p.takeValue argument .ok (fun draft value => { draft with serialDevice := value })
      fun options => { options with serialDevice := true }
  else if argument == "--baud" then
    p.takeValue argument (parseNumber fromCharsUInt32 · argument)
      (fun draft value => { draft with baudRate := value }) fun options => { options with baudRate := true }
  else .ok none

def readCameraSource (source : String) : Except String CameraBackend :=
  if source != "rpicam" && source != "gstreamer" then
    .error "--camera-source must be rpicam or gstreamer"
  else .ok (if source == "rpicam" then .rpicam else .gstreamer)

def parseCamera (p : ArgumentParser) (argument : String) : Except String (Option ArgumentParser) :=
  if argument == "--camera" then p.setFlag fun draft => { draft with cameraEnabled := true }
  else if argument == "--camera-source" then
    p.takeValue argument readCameraSource (fun draft value => { draft with cameraBackend := value })
      fun options => { options with cameraSource := true }
  else if argument == "--camera-udp-port" then
    p.takeValue argument (parseNumber fromCharsUInt16 · argument)
      (fun draft value => { draft with cameraUdpPort := value })
      fun options => { options with cameraUdpPort := true }
  else if argument == "--camera-width" then
    p.takeValue argument (parseNumber fromCharsUInt32 · argument)
      (fun draft value => { draft with cameraWidth := value })
      fun options => { options with cameraWidth := true }
  else if argument == "--camera-height" then
    p.takeValue argument (parseNumber fromCharsUInt32 · argument)
      (fun draft value => { draft with cameraHeight := value })
      fun options => { options with cameraHeight := true }
  else if argument == "--camera-fps" then
    p.takeValue argument (parseNumber fromCharsUInt32 · argument)
      (fun draft value => { draft with cameraFps := value }) fun options => { options with cameraFps := true }
  else if argument == "--camera-sensor-mode" then
    p.takeValue argument .ok (fun draft value => { draft with cameraSensorMode := value })
      fun options => { options with cameraSensorMode := true }
  else if argument == "--camera-preview" then
    p.setFlag fun draft => { draft with cameraPreviewEnabled := true }
  else if argument == "--camera-preview-port" then
    p.takeValue argument (parseNumber fromCharsUInt16 · argument)
      (fun draft value => { draft with cameraPreviewPort := value })
      fun options => { options with cameraPreviewPort := true }
  else if argument == "--forward-camera-udp-port" then
    p.takeValue argument (parseNumber fromCharsUInt16 · argument)
      fun draft value => { draft with forwardCameraUdpPort := some value }
  else .ok none

def parseRuntime (p : ArgumentParser) (argument : String) : Except String (Option ArgumentParser) :=
  if argument == "--snapshot-ms" then
    p.takeValue argument (parseNumber fromCharsUInt32 · argument)
      fun draft value => { draft with snapshotIntervalMs := value }
  else if argument == "--board-types" then
    p.takeValue argument .ok fun draft value => { draft with boardTypesFile := value }
  else if argument == "--json" then p.setFlag fun draft => { draft with jsonOutput := true }
  else if argument == "--diagnostic-log" then
    p.takeValue argument .ok (fun draft value => { draft with diagnosticLogFile := value })
      fun options => { options with diagnosticLogFile := true }
  else if argument == "--sitl" then p.setFlag fun draft => { draft with sitlMode := true }
  else if argument == "--sim-wind" then do
    -- The members of a braced initializer are evaluated in order.
    let (speed, p) ← p.valueAfter argument
    let speed ← parseNumber fromCharsDouble speed argument
    let (direction, p) ← p.valueAfter argument
    let direction ← parseNumber fromCharsDouble direction argument
    let (turbulence, p) ← p.valueAfter argument
    let turbulence ← parseNumber fromCharsDouble turbulence argument
    let wind : SimulatedWindProfile :=
      { speedMS := speed, directionFromDeg := direction, turbulenceMS := turbulence }
    .ok (some { p with draft := { p.draft with simulatedWind := some wind } })
  else if argument == "--interactive" then p.setFlag fun draft => { draft with interactive := true }
  else .ok none

/-- The message that an unknown argument is refused with. -/
def reject (argument : String) : String :=
  if argument == "--serial" then "--serial was renamed; use --transport serial --serial-device DEVICE"
  else if argument == "--scenario" || argument == "--demo-flight" || argument == "--exit-after-scenario" then
    argument ++ " was removed; use telemetry and camera observation"
  else "Unknown argument: " ++ argument

/-- One round of the loop: an argument and its values. -/
def parseArgument (p : ArgumentParser) (argument : String) : Except String ArgumentParser := do
  match ← p.parseTransport argument with
  | some p => .ok p
  | none =>
    match ← p.parseCamera argument with
    | some p => .ok p
    | none =>
      match ← p.parseRuntime argument with
      | some p => .ok p
      | none => .error (reject argument)

/-- The loop. Every round takes an argument, so as many rounds as there are arguments are enough. -/
def parseAll : Nat → ArgumentParser → Except String ArgumentParser
  | 0, p => .ok p
  | rounds + 1, p =>
    match p.arguments with
    | [] => .ok p
    | argument :: rest => do
        let p ← ArgumentParser.parseArgument { p with arguments := rest } argument
        parseAll rounds p

def parse (p : ArgumentParser) : Except String CommandLineOptions := do
  let p ← parseAll p.arguments.length p
  validateOptions p.draft p.explicitOptions
  .ok (makeCommandLineOptions p.draft)

end ArgumentParser

def parseCommandLine (arguments : List String) : Except String CommandLineOptions :=
  ArgumentParser.parse { arguments := arguments }

end OnboardAutonomy
