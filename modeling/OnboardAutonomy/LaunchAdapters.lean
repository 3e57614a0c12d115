import OnboardAutonomy.LaunchStates

/-! From a launch state to the adapters of the program: the configuration that each adapter is handed, and
the adapter's own check of it. Only what depends on the configuration is here; the devices, sockets and
files that the adapters open are taken to be there. An error is an `std::invalid_argument`. -/

namespace OnboardAutonomy

/-! ### The configurations -/

inductive MissionConnection where
  | udp (bindAddress : String) (port : UInt16)
  | serial (device : String) (baudRate : UInt32)
  deriving DecidableEq

inductive MissionCameraSource where
  | rpicam (framesPerSecond : UInt32) (sensorMode : String)
  | gstreamer (udpPort : UInt16)
  deriving DecidableEq

structure MissionCameraConfig where
  source : MissionCameraSource
  frameWidth : UInt32
  frameHeight : UInt32
  deriving DecidableEq

structure MissionRuntimeConfig where
  connection : MissionConnection
  camera : Option MissionCameraConfig
  simulatedWind : Option SimulatedWindProfile
  deriving DecidableEq

def makeMissionConnection : MavlinkConnectionOptions → MissionConnection
  | .udp configured => .udp configured.bindAddress configured.port
  | .serial configured => .serial configured.device configured.baudRate

def makeMissionCameraSource : CameraSourceOptions → MissionCameraSource
  | .rpicam framesPerSecond sensorMode => .rpicam framesPerSecond sensorMode
  | .gstreamer udpPort => .gstreamer udpPort

def makeMissionCamera (configured : Option CameraOptions) : Option MissionCameraConfig :=
  configured.map fun camera =>
    { source := makeMissionCameraSource camera.source
      frameWidth := camera.frameWidth
      frameHeight := camera.frameHeight }

def makeMissionRuntimeConfig : CommandLineOptions → MissionRuntimeConfig
  | .hardware options =>
      { connection := makeMissionConnection options.connection
        camera := makeMissionCamera options.camera
        simulatedWind := none }
  | .simulation options =>
      { connection := .udp options.connection.bindAddress options.connection.port
        camera := makeMissionCamera options.camera
        simulatedWind := options.wind }

structure RpicamCameraConfig where
  width : UInt32
  height : UInt32
  framesPerSecond : UInt32
  sensorMode : String
  frameTimeoutMs : UInt32 := 2000
  restartDelayMs : UInt32 := 500

structure GStreamerCameraConfig where
  width : UInt32
  height : UInt32
  udpPort : UInt16
  frameTimeoutMs : UInt32 := 2000
  restartDelayMs : UInt32 := 500

structure HttpCameraPreviewConfig where
  bindAddress : String
  port : UInt16
  maximumFramesPerSecond : UInt32
  downwardCamera : Bool
  forwardCamera : Bool

/-! ### The adapters' checks -/

/-- The size of a YUV 4:2:0 frame in 64-bit arithmetic. -/
def frameBytes (width height : UInt32) : UInt64 :=
  let pixels := width.toUInt64 * height.toUInt64
  pixels + pixels / 2

/-- `checked_frame_size` of the rpicam source. -/
def RpicamCameraConfig.checkedFrameSize (config : RpicamCameraConfig) : Except String UInt64 := do
  rejectIf (config.width == 0 || config.height == 0 || config.framesPerSecond == 0 ||
      config.frameTimeoutMs == 0 || config.restartDelayMs == 0 || config.width % 2 != 0 ||
      config.height % 2 != 0)
    ("camera width, height and FPS must be positive; recovery timings must be non-zero; " ++
      "YUV420 dimensions must be even")
  let bytes := frameBytes config.width config.height
  rejectIf (decide (UInt64.size - 1 < bytes.toNat)) "camera frame size is too large"
  .ok bytes

def kPackedI420WidthAlignment : UInt32 := 8

/-- `checked_frame_size` of the GStreamer source. -/
def GStreamerCameraConfig.checkedFrameSize (config : GStreamerCameraConfig) : Except String UInt64 := do
  rejectIf (config.width == 0 || config.height == 0 || config.udpPort == 0 ||
      config.frameTimeoutMs == 0 || config.restartDelayMs == 0 ||
      config.width % kPackedI420WidthAlignment != 0 || config.height % 2 != 0)
    ("GStreamer camera dimensions and UDP port must be positive, recovery timings must be non-zero; " ++
      "I420 width must be divisible by 8 and height must be even")
  let bytes := frameBytes config.width config.height
  rejectIf (decide (UInt64.size - 1 < bytes.toNat)) "GStreamer camera frame size is too large"
  .ok bytes

/-- `to_posix_baud`, where the speed is given by its rate. -/
def toPosixBaud (baudRate : UInt32) : Except String UInt32 :=
  if baudRate = 57600 then .ok 57600
  else if baudRate = 115200 then .ok 115200
  else if baudRate = 460800 then .ok 460800
  else if baudRate = 921600 then .ok 921600
  else .error "Unsupported serial baud rate"

def checkedFrameInterval (maximumFramesPerSecond : UInt32) : Except String UInt32 := do
  rejectIf (maximumFramesPerSecond == 0 || decide (60 < maximumFramesPerSecond))
    "preview frame rate must be between 1 and 60"
  .ok (1000000 / maximumFramesPerSecond)

/-- The check in the constructor of `HttpCameraPreviewServer`. -/
def HttpCameraPreviewConfig.check (config : HttpCameraPreviewConfig) : Except String Unit := do
  let _ ← checkedFrameInterval config.maximumFramesPerSecond
  rejectIf (config.bindAddress.isEmpty || config.port == 0 ||
      (!config.downwardCamera && !config.forwardCamera))
    "invalid HTTP camera preview configuration"

/-! ### The program -/

section Program

-- `inet_pton(AF_INET, ·)` reads the address.
variable (inetPton : String → Bool)

/-- The check in `make_transport_for`. -/
def makeTransportFor : MissionConnection → Except String Unit
  | .udp bindAddress _ => rejectIf (!inetPton bindAddress) "UDP bind address must be IPv4"
  | .serial _ baudRate => do
      let _ ← toPosixBaud baudRate
      .ok ()

/-- The check in `make_camera_source`. -/
def makeCameraSource (config : MissionRuntimeConfig) : Except String Unit :=
  match config.camera with
  | none => .ok ()
  | some camera => do
      let _ ← match camera.source with
        | .rpicam framesPerSecond sensorMode =>
            RpicamCameraConfig.checkedFrameSize
              { width := camera.frameWidth
                height := camera.frameHeight
                framesPerSecond := framesPerSecond
                sensorMode := sensorMode }
        | .gstreamer udpPort =>
            GStreamerCameraConfig.checkedFrameSize
              { width := camera.frameWidth
                height := camera.frameHeight
                udpPort := udpPort }
      .ok ()

def makeCameraPreview (launch : CommandLineOptions) : Except String Unit :=
  match launch.diagnostics.cameraPreview with
  | none => .ok ()
  | some port => HttpCameraPreviewConfig.check
      { bindAddress := "0.0.0.0"
        port := port
        maximumFramesPerSecond := 10
        downwardCamera := launch.camera.isSome
        forwardCamera := launch.diagnostics.forwardCamera.isSome }

def makeForwardPreviewCamera (launch : CommandLineOptions) : Except String Unit :=
  match launch.diagnostics.forwardCamera with
  | none => .ok ()
  | some camera => do
      let _ ← GStreamerCameraConfig.checkedFrameSize
        { width := camera.frameWidth
          height := camera.frameHeight
          udpPort := camera.udpPort }
      .ok ()

/-- The adapters that `run_program` builds for a launch state, in its order. -/
def makeAdapters (launch : CommandLineOptions) : Except String Unit := do
  let config := makeMissionRuntimeConfig launch
  makeTransportFor inetPton config.connection
  makeCameraSource config
  makeCameraPreview launch
  makeForwardPreviewCamera launch

end Program

/-! ### What the checks ask for -/

theorem discard_ok {α : Type} {check : Except String α} :
    (check >>= fun _ => Except.ok ()) = .ok () ↔ ∃ value, check = .ok value := by
  cases check with
  | error message => simp [bind, Except.bind]
  | ok value => simp [bind, Except.bind]

/-- The size of a frame fits: it is a 64-bit number, as is the type it is checked against. -/
theorem frameBytes_fits (width height : UInt32) :
    decide (UInt64.size - 1 < (frameBytes width height).toNat) = false := by
  have hsize := (frameBytes width height).toNat_lt
  rw [decide_eq_false_iff_not, show UInt64.size = 2 ^ 64 from rfl]
  omega

theorem RpicamCameraConfig.checkedFrameSize_ok {width height framesPerSecond : UInt32} {sensorMode : String} :
    (∃ size, RpicamCameraConfig.checkedFrameSize
      { width := width
        height := height
        framesPerSecond := framesPerSecond
        sensorMode := sensorMode } = .ok size) ↔
    width ≠ 0 ∧ height ≠ 0 ∧ framesPerSecond ≠ 0 ∧ width % 2 = 0 ∧ height % 2 = 0 := by
  simp only [RpicamCameraConfig.checkedFrameSize, check_bind_ok, rejectIf_ok, frameBytes_fits]
  simp [and_assoc]

theorem GStreamerCameraConfig.checkedFrameSize_ok {width height : UInt32} {udpPort : UInt16} :
    (∃ size, GStreamerCameraConfig.checkedFrameSize
      { width := width
        height := height
        udpPort := udpPort } = .ok size) ↔
    width ≠ 0 ∧ height ≠ 0 ∧ udpPort ≠ 0 ∧ width % 8 = 0 ∧ height % 2 = 0 := by
  simp only [GStreamerCameraConfig.checkedFrameSize, check_bind_ok, rejectIf_ok, frameBytes_fits,
    kPackedI420WidthAlignment]
  simp [and_assoc]

theorem HttpCameraPreviewConfig.check_ok {port : UInt16} {downwardCamera forwardCamera : Bool} :
    HttpCameraPreviewConfig.check
      { bindAddress := "0.0.0.0"
        port := port
        maximumFramesPerSecond := 10
        downwardCamera := downwardCamera
        forwardCamera := forwardCamera } = .ok () ↔
    port ≠ 0 ∧ (downwardCamera || forwardCamera) = true := by
  show rejectIf _ _ = .ok () ↔ _
  rw [rejectIf_ok]
  cases downwardCamera <;> cases forwardCamera <;> simp

/-- The rates of a serial connection that the platform has a speed for. -/
def supportedBaudRates : List UInt32 := [57600, 115200, 460800, 921600]

theorem toPosixBaud_ok {baudRate : UInt32} :
    (∃ speed, toPosixBaud baudRate = .ok speed) ↔ baudRate ∈ supportedBaudRates := by
  simp only [toPosixBaud, supportedBaudRates, List.mem_cons, List.not_mem_nil, or_false]
  split_ifs <;> simp_all

theorem makeMissionRuntimeConfig_eq (launch : CommandLineOptions) :
    makeMissionRuntimeConfig launch =
      { connection := makeMissionConnection launch.connection
        camera := makeMissionCamera launch.camera
        simulatedWind := launch.wind } := by
  cases launch <;> rfl

theorem makeAdapters_ok {inetPton : String → Bool} {launch : CommandLineOptions} :
    makeAdapters inetPton launch = .ok () ↔
      makeTransportFor inetPton (makeMissionConnection launch.connection) = .ok () ∧
      makeCameraSource (makeMissionRuntimeConfig launch) = .ok () ∧
      makeCameraPreview launch = .ok () ∧ makeForwardPreviewCamera launch = .ok () := by
  simp only [makeAdapters, check_bind_ok, makeMissionRuntimeConfig_eq]

/-! ### Accepted command lines -/

/-- What the adapters ask for beyond the rules of the command line. -/
structure AdapterRules (inetPton : String → Bool) (given : Given) : Prop where
  udp : given.draft.transport = .udp → inetPton given.draft.udpBind = true
  serial : given.draft.transport = .serial → given.draft.baudRate ∈ supportedBaudRates
  width : (given.draft.cameraEnabled = true ∧ given.draft.cameraBackend = .gstreamer) ∨
    given.draft.forwardCameraUdpPort.isSome = true → given.draft.cameraWidth % 8 = 0

section Accepted

variable {given : Given} (hrules : LaunchRules given.draft given.explicitOptions)
include hrules

theorem makeTransportFor_ok (inetPton : String → Bool) :
    makeTransportFor inetPton (makeMissionConnection (makeCommandLineOptions given.draft).connection) = .ok () ↔
      (given.draft.transport = .udp → inetPton given.draft.udpBind = true) ∧
      (given.draft.transport = .serial → given.draft.baudRate ∈ supportedBaudRates) := by
  rw [makeCommandLineOptions_connection hrules, makeConnectionOptions]
  cases htransport : given.draft.transport with
  | udp => simp [makeMissionConnection, makeTransportFor, rejectIf_ok]
  | serial =>
      simp only [makeMissionConnection, makeTransportFor, reduceCtorEq, if_false]
      rw [discard_ok, toPosixBaud_ok]
      simp

theorem makeCameraSource_ok :
    makeCameraSource (makeMissionRuntimeConfig (makeCommandLineOptions given.draft)) = .ok () ↔
      (given.draft.cameraEnabled = true → given.draft.cameraBackend = .gstreamer →
        given.draft.cameraWidth % 8 = 0) := by
  rw [makeMissionRuntimeConfig_eq, makeCommandLineOptions_camera, makeCameraOptions]
  cases henabled : given.draft.cameraEnabled with
  | false => simp [makeCameraSource, makeMissionCamera]
  | true =>
      have hany : given.draft.anyCamera = true := by
        rw [LaunchArgumentsDraft.anyCamera, henabled, Bool.true_or]
      obtain ⟨hwidth, hheight, hevenWidth, hevenHeight⟩ := hrules.camera.size hany
      rw [makeCameraSourceOptions]
      cases hbackend : given.draft.cameraBackend with
      | rpicam =>
          obtain ⟨_, _, hfps⟩ := hrules.camera.rpicam henabled hbackend
          show (RpicamCameraConfig.checkedFrameSize _ >>= fun _ => Except.ok ()) = .ok () ↔ _
          rw [discard_ok, RpicamCameraConfig.checkedFrameSize_ok]
          simp [hwidth, hheight, hfps, hevenWidth, hevenHeight]
      | gstreamer =>
          obtain ⟨_, _, hport⟩ := hrules.camera.gstreamer henabled hbackend
          show (GStreamerCameraConfig.checkedFrameSize _ >>= fun _ => Except.ok ()) = .ok () ↔ _
          rw [discard_ok, GStreamerCameraConfig.checkedFrameSize_ok]
          simp [hwidth, hheight, hport, hevenHeight]

/-- The preview is always configured well. -/
theorem makeCameraPreview_ok : makeCameraPreview (makeCommandLineOptions given.draft) = .ok () := by
  rw [makeCameraPreview, makeCommandLineOptions_diagnostics, makeCommandLineOptions_camera, makeCameraOptions]
  cases henabled : given.draft.cameraPreviewEnabled with
  | false => rfl
  | true =>
      have hport := hrules.camera.previewPort henabled
      have hany := hrules.camera.shared (by rw [henabled, Bool.or_true])
      rw [LaunchArgumentsDraft.anyCamera] at hany
      apply HttpCameraPreviewConfig.check_ok.mpr
      refine ⟨hport, ?_⟩
      rw [Option.isSome_map]
      cases hcamera : given.draft.cameraEnabled with
      | false =>
          rw [hcamera] at hany
          exact hany
      | true => rfl

theorem makeForwardPreviewCamera_ok :
    makeForwardPreviewCamera (makeCommandLineOptions given.draft) = .ok () ↔
      (given.draft.forwardCameraUdpPort.isSome = true → given.draft.cameraWidth % 8 = 0) := by
  rw [makeForwardPreviewCamera, makeCommandLineOptions_diagnostics]
  cases hforward : given.draft.forwardCameraUdpPort with
  | none => simp
  | some port =>
      have hany : given.draft.anyCamera = true := by
        rw [LaunchArgumentsDraft.anyCamera, hforward, Option.isSome_some, Bool.or_true]
      obtain ⟨hwidth, hheight, _, hevenHeight⟩ := hrules.camera.size hany
      obtain ⟨_, hport, _⟩ := hrules.camera.forward port hforward
      show (GStreamerCameraConfig.checkedFrameSize _ >>= fun _ => Except.ok ()) = .ok () ↔ _
      rw [discard_ok, GStreamerCameraConfig.checkedFrameSize_ok]
      simp [hwidth, hheight, hport, hevenHeight]

theorem makeAdapters_iff (inetPton : String → Bool) :
    makeAdapters inetPton (makeCommandLineOptions given.draft) = .ok () ↔ AdapterRules inetPton given := by
  rw [makeAdapters_ok, makeTransportFor_ok hrules, makeCameraSource_ok hrules, makeForwardPreviewCamera_ok hrules]
  apply Iff.intro
  · rintro ⟨⟨hudp, hserial⟩, hprimary, _, hforward⟩
    refine ⟨hudp, hserial, ?_⟩
    rintro (⟨henabled, hbackend⟩ | hsome)
    · exact hprimary henabled hbackend
    · exact hforward hsome
  · intro h
    exact ⟨⟨h.udp, h.serial⟩, fun henabled hbackend => h.width (.inl ⟨henabled, hbackend⟩),
      makeCameraPreview_ok hrules, fun hsome => h.width (.inr hsome)⟩

end Accepted

/-- The adapters of an accepted command line are configured well exactly if its last values keep the rules
that the parser leaves to them. -/
theorem accepted_constructible_iff (inetPton : String → Bool) (arguments : List String)
    (launch : CommandLineOptions) (h : parseCommandLine arguments = .ok launch) :
    ∃ groups : List OptionGroup, arguments = groups.flatMap OptionGroup.tokens ∧
      (makeAdapters inetPton launch = .ok () ↔ AdapterRules inetPton (Given.last groups)) := by
  obtain ⟨groups, rfl⟩ := parseCommandLine_grouped h
  obtain ⟨_, hrules, rfl⟩ := (parseCommandLine_groups groups launch).mp h
  exact ⟨groups, rfl, makeAdapters_iff hrules inetPton⟩

/-- A serial launch at a rate of the platform. -/
def serialLaunch (baudRate : UInt32) : CommandLineOptions :=
  .hardware
    { connection := .serial { device := "/dev/ttyAMA0", baudRate := baudRate }
      camera := none
      operatorInterface :=
        { interactive := false
          jsonOutput := false
          snapshotIntervalMs := Defaults.kSnapshotIntervalMs
          boardTypesFile := "" }
      diagnostics := { cameraPreview := none, forwardCamera := none, logFile := "" } }

theorem serialLaunch_constructible : ∃ groups : List OptionGroup,
    ["--transport", "serial", "--serial-device", "/dev/ttyAMA0", "--baud", "57600"] =
      groups.flatMap OptionGroup.tokens ∧
    (makeAdapters (fun address => address == "0.0.0.0") (serialLaunch 57600) = .ok () ↔
      AdapterRules (fun address => address == "0.0.0.0") (Given.last groups)) :=
  accepted_constructible_iff _ ["--transport", "serial", "--serial-device", "/dev/ttyAMA0", "--baud", "57600"]
    (serialLaunch 57600) rfl

/-- The launch state of a GStreamer camera that is 642 pixels wide. -/
def narrowLaunch : CommandLineOptions :=
  .hardware
    { connection := .udp { bindAddress := Defaults.kUdpBindAddress, port := Defaults.kMavlinkUdpPort }
      camera := some { source := .gstreamer Defaults.kCameraUdpPort, frameWidth := 642, frameHeight := 480 }
      operatorInterface :=
        { interactive := false
          jsonOutput := false
          snapshotIntervalMs := Defaults.kSnapshotIntervalMs
          boardTypesFile := "" }
      diagnostics := { cameraPreview := none, forwardCamera := none, logFile := "" } }

/-- Two accepted command lines whose launch states are refused: a width that is no multiple of eight, and a
rate without a speed. -/
theorem narrowLaunch_refused :
    (parseCommandLine ["--camera", "--camera-source", "gstreamer", "--camera-width", "642"] = .ok narrowLaunch ∧
      makeAdapters (fun address => address == "0.0.0.0") narrowLaunch = .error
        ("GStreamer camera dimensions and UDP port must be positive, recovery timings must be non-zero; " ++
          "I420 width must be divisible by 8 and height must be even")) ∧
    (parseCommandLine ["--transport", "serial", "--serial-device", "/dev/ttyAMA0", "--baud", "9600"] =
        .ok (serialLaunch 9600) ∧
      makeAdapters (fun address => address == "0.0.0.0") (serialLaunch 9600) =
        .error "Unsupported serial baud rate") :=
  ⟨⟨rfl, rfl⟩, rfl, rfl⟩

/-! ### The ports a launch receives on -/

/-- The UDP ports that a launch state makes the process receive on. -/
def CommandLineOptions.receivePorts (launch : CommandLineOptions) : List UInt16 :=
  (match launch.connection with
    | .udp options => [options.port]
    | .serial _ => []) ++
  (match launch.camera.map (·.source) with
    | some (.gstreamer udpPort) => [udpPort]
    | _ => []) ++
  (launch.diagnostics.forwardCamera.map (·.udpPort)).toList

/-- The port of the primary camera of a draft, if it receives on one. -/
def LaunchArgumentsDraft.primaryPort (draft : LaunchArgumentsDraft) : Option UInt16 :=
  if draft.cameraEnabled && draft.cameraBackend == .gstreamer then some draft.cameraUdpPort else none

theorem makeCommandLineOptions_receivePorts {given : Given}
    (hrules : LaunchRules given.draft given.explicitOptions) (hudp : given.draft.transport = .udp) :
    (makeCommandLineOptions given.draft).receivePorts =
      given.draft.udpPort :: (given.draft.primaryPort.toList ++ given.draft.forwardCameraUdpPort.toList) := by
  rw [CommandLineOptions.receivePorts, makeCommandLineOptions_connection hrules, makeConnectionOptions,
    if_pos hudp, makeCommandLineOptions_camera, makeCameraOptions, makeCommandLineOptions_diagnostics,
    LaunchArgumentsDraft.primaryPort]
  cases hcamera : given.draft.cameraEnabled <;> cases hbackend : given.draft.cameraBackend <;>
    cases hforward : given.draft.forwardCameraUdpPort <;> simp [makeCameraSourceOptions, hbackend]

/-- The MAVLink port of some given values is none of a camera's. -/
structure PortsApart (given : Given) : Prop where
  primary : given.draft.cameraEnabled = true → given.draft.cameraBackend = .gstreamer →
    given.draft.udpPort ≠ given.draft.cameraUdpPort
  forward : given.draft.forwardCameraUdpPort ≠ some given.draft.udpPort

/-- The ports of an accepted command line over UDP are pairwise distinct exactly if the MAVLink port is none
of a camera's: the parser compares the ports of the two cameras only. -/
theorem accepted_ports_nodup_iff (arguments : List String) (launch : CommandLineOptions)
    (h : parseCommandLine arguments = .ok launch) (hudp : ∃ options, launch.connection = .udp options) :
    ∃ groups : List OptionGroup, arguments = groups.flatMap OptionGroup.tokens ∧
      (launch.receivePorts.Nodup ↔ PortsApart (Given.last groups)) := by
  obtain ⟨groups, rfl⟩ := parseCommandLine_grouped h
  obtain ⟨_, hrules, rfl⟩ := (parseCommandLine_groups groups launch).mp h
  have htransport : (Given.last groups).draft.transport = .udp := by
    obtain ⟨options, hconnection⟩ := hudp
    rw [makeCommandLineOptions_connection hrules, makeConnectionOptions] at hconnection
    by_contra hserial
    rw [if_neg hserial] at hconnection
    cases hconnection
  refine ⟨groups, rfl, ?_⟩
  rw [makeCommandLineOptions_receivePorts hrules htransport]
  apply Iff.intro
  · intro hnodup
    obtain ⟨hfirst, _⟩ := List.nodup_cons.mp hnodup
    refine ⟨?_, ?_⟩
    · intro henabled hbackend hsame
      apply hfirst
      rw [LaunchArgumentsDraft.primaryPort, henabled, hbackend, hsame]
      exact List.mem_cons_self
    · intro hforward
      apply hfirst
      rw [hforward]
      exact List.mem_append_right _ List.mem_cons_self
  · intro hapart
    have hforward : ∀ port, (Given.last groups).draft.forwardCameraUdpPort = some port →
        (Given.last groups).draft.udpPort ≠ port := by
      rintro port hport rfl
      exact hapart.forward hport
    by_cases hprimary : (Given.last groups).draft.cameraEnabled = true ∧
      (Given.last groups).draft.cameraBackend = .gstreamer
    · have hfirst := hapart.primary hprimary.1 hprimary.2
      rw [LaunchArgumentsDraft.primaryPort, hprimary.1, hprimary.2]
      cases hport : (Given.last groups).draft.forwardCameraUdpPort with
      | none => simp [hfirst]
      | some port =>
          obtain ⟨_, _, hcameras⟩ := hrules.camera.forward port hport
          have hsecond := hcameras hprimary.1 hprimary.2
          simp [hfirst, hforward port hport, Ne.symm hsecond]
    · have hnone : (Given.last groups).draft.primaryPort = none := by
        rw [LaunchArgumentsDraft.primaryPort, if_neg]
        rwa [Bool.and_eq_true, beq_iff_eq]
      rw [hnone]
      cases hport : (Given.last groups).draft.forwardCameraUdpPort with
      | none => simp
      | some port => simp [hforward port hport]

/-- A simulation whose primary camera receives on the MAVLink port. -/
def sharedPortLaunch (port : UInt16) : CommandLineOptions :=
  .simulation
    { connection := { bindAddress := Defaults.kUdpBindAddress, port := port }
      camera := some
        { source := .gstreamer Defaults.kCameraUdpPort
          frameWidth := Defaults.kCameraFrameWidth
          frameHeight := Defaults.kCameraFrameHeight }
      wind := none
      operatorInterface :=
        { interactive := false
          jsonOutput := false
          snapshotIntervalMs := Defaults.kSnapshotIntervalMs
          boardTypesFile := "" }
      diagnostics := { cameraPreview := none, forwardCamera := none, logFile := "" } }

theorem sharedPortLaunch_default : ∃ groups : List OptionGroup,
    ["--sitl", "--camera", "--camera-source", "gstreamer"] = groups.flatMap OptionGroup.tokens ∧
    ((sharedPortLaunch Defaults.kMavlinkUdpPort).receivePorts.Nodup ↔ PortsApart (Given.last groups)) :=
  accepted_ports_nodup_iff ["--sitl", "--camera", "--camera-source", "gstreamer"]
    (sharedPortLaunch Defaults.kMavlinkUdpPort) rfl ⟨_, rfl⟩

/-- An accepted command line that gives the MAVLink socket the default port of the camera. -/
theorem sharedPortLaunch_clash :
    parseCommandLine ["--sitl", "--udp-port", "5601", "--camera", "--camera-source", "gstreamer"] =
      .ok (sharedPortLaunch 5601) ∧
    (sharedPortLaunch 5601).connection = .udp { bindAddress := "0.0.0.0", port := 5601 } ∧
    ¬(sharedPortLaunch 5601).receivePorts.Nodup :=
  ⟨rfl, rfl, by decide⟩

end OnboardAutonomy
