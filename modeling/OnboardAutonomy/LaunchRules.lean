import OnboardAutonomy.CommandLineGrammar
import Mathlib.Tactic.MkIffOfInductiveProp

/-! What the validation of a draft lets through: each check of `validate_options` as a rule about the draft
and the set of given options. -/

namespace OnboardAutonomy

theorem rejectIf_ok {condition : Bool} {message : String} {result : Unit} :
    rejectIf condition message = .ok result ↔ condition = false := by
  cases condition <;> simp [rejectIf]

theorem check_bind_ok {check : Except String Unit} {α : Type} {rest : Unit → Except String α} {result : α} :
    (check >>= rest) = .ok result ↔ check = .ok () ∧ rest () = .ok result := by
  cases check <;> simp [bind, Except.bind]

/-! ### The sensor mode -/

/-- A sensor mode: the width, the height and the bit depth as positive 32-bit numerals, and the packing. -/
def IsSensorMode (mode : String) : Prop :=
  ∃ width height depth packing : String,
    mode = width ++ ":" ++ height ++ ":" ++ depth ++ ":" ++ packing ∧
    (∃ value, CliOption.uint32 width = some value ∧ value ≠ 0) ∧
    (∃ value, CliOption.uint32 height = some value ∧ value ≠ 0) ∧
    (∃ value ∈ supportedBitDepths, CliOption.uint32 depth = some value) ∧
    (packing = "P" ∨ packing = "U")

theorem toOption_eq_some {α : Type} {result : Except String α} {value : α} :
    result.toOption = some value ↔ result = .ok value := by
  cases result <;> simp [Except.toOption]

theorem parseUInt32_ok {text option : String} {value : UInt32} :
    parseNumber fromCharsUInt32 text option = .ok value ↔ CliOption.uint32 text = some value := by
  rw [← toOption_eq_some, parseUInt32_toOption]

/-- A numeral holds no separator. -/
theorem separator_notMem {text : List Char} {value : UInt32}
    (h : CliOption.uint32 (String.ofList text) = some value) : ∀ character ∈ text, (character != ':') = true := by
  obtain ⟨_, hnumeral, _⟩ := Option.map_eq_some_iff.mp h
  rw [numeral, String.toList_ofList] at hnumeral
  split at hnumeral
  · rename_i hdigits
    simp only [Bool.and_eq_true, List.all_eq_true] at hdigits
    intro character hmem
    have hdigit := hdigits.1.2 character hmem
    rw [bne_iff_ne]
    rintro rfl
    cases hdigit
  · cases hnumeral

/-- One part of a sensor mode. -/
theorem validateSensorModeParts_cons {part : Nat} {parts : List Nat} {mode : List Char} :
    validateSensorModeParts (part :: parts) mode = .ok () ↔ ∃ field rest, mode = field ++ ':' :: rest ∧
      (∃ value, CliOption.uint32 (String.ofList field) = some value ∧ value ≠ 0 ∧
        (part = 2 → value ∈ supportedBitDepths)) ∧
      validateSensorModeParts parts rest = .ok () := by
  have hvalue : ∀ value : UInt32, (value == 0 || (part == 2 && !supportedBitDepths.contains value)) = false ↔
      value ≠ 0 ∧ (part = 2 → value ∈ supportedBitDepths) := by
    intro value
    simp
  rw [validateSensorModeParts]
  apply Iff.intro
  · intro h
    split at h
    · cases h
    · rename_i separator rest hdrop
      have hseparator : separator = ':' := by
        have hne : mode.dropWhile (· != ':') ≠ [] := by
          rw [hdrop]
          exact List.cons_ne_nil separator rest
        have hhead := List.head_dropWhile_not (· != ':') hne
        simpa [hdrop] using hhead
      have hsplit : mode = mode.takeWhile (· != ':') ++ ':' :: rest := by
        rw [hseparator] at hdrop
        rw [← hdrop, List.takeWhile_append_dropWhile]
      cases hparse : parseNumber fromCharsUInt32 (String.ofList (mode.takeWhile (· != ':')))
        "--camera-sensor-mode" with
      | error message =>
          rw [hparse] at h
          cases h
      | ok value =>
          rw [hparse] at h
          obtain ⟨hcheck, hrest⟩ := check_bind_ok.mp h
          exact ⟨_, rest, hsplit, ⟨value, parseUInt32_ok.mp hparse, (hvalue value).mp (rejectIf_ok.mp hcheck)⟩,
            hrest⟩
  · rintro ⟨field, rest, rfl, ⟨value, hnumeral, hrules⟩, hrest⟩
    have hfield := separator_notMem hnumeral
    have hdrop : (field ++ ':' :: rest).dropWhile (· != ':') = ':' :: rest := by
      rw [List.dropWhile_append_of_pos hfield]
      rfl
    have htake : (field ++ ':' :: rest).takeWhile (· != ':') = field := by
      rw [List.takeWhile_append_of_pos hfield]
      exact List.append_nil field
    rw [hdrop, htake]
    show (parseNumber fromCharsUInt32 (String.ofList field) "--camera-sensor-mode" >>= _) = Except.ok ()
    rw [parseUInt32_ok.mpr hnumeral]
    exact check_bind_ok.mpr ⟨rejectIf_ok.mpr ((hvalue value).mpr hrules), hrest⟩

theorem validateSensorMode_ok {mode : String} : validateSensorMode mode = .ok () ↔ IsSensorMode mode := by
  have hpacking : ∀ packing : List Char, validateSensorModeParts [] packing = .ok () ↔
      packing = ['P'] ∨ packing = ['U'] := by
    intro packing
    rw [validateSensorModeParts, rejectIf_ok]
    by_cases hp : packing = ['P'] <;> simp [hp]
  rw [validateSensorMode, validateSensorModeParts_cons, IsSensorMode]
  apply Iff.intro
  · rintro ⟨width, rest, hmode, ⟨w, hw, hwidth, _⟩, hrest⟩
    obtain ⟨height, rest, rfl, ⟨h, hh, hheight, _⟩, hrest⟩ := validateSensorModeParts_cons.mp hrest
    obtain ⟨depth, packing, rfl, ⟨d, hd, _, hdepth⟩, hrest⟩ := validateSensorModeParts_cons.mp hrest
    refine ⟨.ofList width, .ofList height, .ofList depth, .ofList packing, ?_, ⟨w, hw, hwidth⟩,
      ⟨h, hh, hheight⟩, ⟨d, hdepth rfl, hd⟩, ?_⟩
    · apply String.toList_inj.mp
      simp [hmode]
    · rcases (hpacking packing).mp hrest with rfl | rfl
      · exact Or.inl rfl
      · exact Or.inr rfl
  · rintro ⟨width, height, depth, packing, rfl, ⟨w, hw, hwidth⟩, ⟨h, hh, hheight⟩, ⟨d, hdepth, hd⟩, hp⟩
    have hdnonzero : d ≠ 0 := by
      rintro rfl
      exact absurd hdepth (by decide)
    refine ⟨width.toList, height.toList ++ ':' :: (depth.toList ++ ':' :: packing.toList), ?_,
      ⟨w, by rwa [String.ofList_toList], hwidth, fun h => absurd h (by decide)⟩, ?_⟩
    · simp
    apply validateSensorModeParts_cons.mpr
    refine ⟨height.toList, _, rfl, ⟨h, by rwa [String.ofList_toList], hheight, fun h => absurd h (by decide)⟩, ?_⟩
    apply validateSensorModeParts_cons.mpr
    refine ⟨depth.toList, _, rfl, ⟨d, by rwa [String.ofList_toList], hdnonzero, fun _ => hdepth⟩, ?_⟩
    apply (hpacking _).mpr
    rcases hp with rfl | rfl
    · exact Or.inl rfl
    · exact Or.inr rfl

/-! ### The connection -/

/-- The rules of `validate_transport`: a connection takes the options of its own transport only. -/
@[mk_iff] structure TransportRules (options : LaunchArgumentsDraft) (explicitOptions : ExplicitOptions) : Prop where
  udp : options.transport = .udp → explicitOptions.serialDevice = false ∧ explicitOptions.baudRate = false ∧
    options.udpBind ≠ "" ∧ options.udpPort ≠ 0
  serial : options.transport = .serial → explicitOptions.udpBind = false ∧ explicitOptions.udpPort = false ∧
    options.serialDevice ≠ "" ∧ options.baudRate ≠ 0 ∧ options.sitlMode = false

theorem validateTransport_ok {options : LaunchArgumentsDraft} {explicitOptions : ExplicitOptions} :
    validateTransport options explicitOptions = .ok () ↔ TransportRules options explicitOptions := by
  rw [transportRules_iff]
  cases htransport : options.transport <;>
    simp [validateTransport, htransport, check_bind_ok, rejectIf_ok, and_assoc]

/-! ### The cameras -/

/-- A camera of either kind is configured. -/
def LaunchArgumentsDraft.anyCamera (options : LaunchArgumentsDraft) : Bool :=
  options.cameraEnabled || options.forwardCameraUdpPort.isSome

/-- The rules of `validate_camera`. -/
@[mk_iff] structure CameraRules (options : LaunchArgumentsDraft) (explicitOptions : ExplicitOptions) : Prop where
  primary : (explicitOptions.cameraSource || explicitOptions.cameraUdpPort || explicitOptions.cameraFps ||
    explicitOptions.cameraSensorMode) = true → options.cameraEnabled = true
  shared : (explicitOptions.cameraWidth || explicitOptions.cameraHeight ||
    options.cameraPreviewEnabled) = true → options.anyCamera = true
  size : options.anyCamera = true → options.cameraWidth ≠ 0 ∧ options.cameraHeight ≠ 0 ∧
    options.cameraWidth % 2 = 0 ∧ options.cameraHeight % 2 = 0
  rpicam : options.cameraEnabled = true → options.cameraBackend = .rpicam →
    IsSensorMode options.cameraSensorMode ∧ explicitOptions.cameraUdpPort = false ∧
      options.cameraFps ≠ 0
  gstreamer : options.cameraEnabled = true → options.cameraBackend = .gstreamer →
    explicitOptions.cameraSensorMode = false ∧ explicitOptions.cameraFps = false ∧ options.cameraUdpPort ≠ 0
  previewGiven : explicitOptions.cameraPreviewPort = true → options.cameraPreviewEnabled = true
  previewPort : options.cameraPreviewEnabled = true → options.cameraPreviewPort ≠ 0
  forward : ∀ port, options.forwardCameraUdpPort = some port → options.cameraPreviewEnabled = true ∧
    port ≠ 0 ∧
    (options.cameraEnabled = true → options.cameraBackend = .gstreamer → port ≠ options.cameraUdpPort)

theorem validateCamera_ok {options : LaunchArgumentsDraft} {explicitOptions : ExplicitOptions} :
    validateCamera options explicitOptions = .ok () ↔ CameraRules options explicitOptions := by
  rw [cameraRules_iff]
  cases hcamera : options.cameraEnabled <;> cases hbackend : options.cameraBackend <;>
    cases hforward : options.forwardCameraUdpPort <;>
    simp [validateCamera, LaunchArgumentsDraft.anyCamera, check_bind_ok, rejectIf_ok, validateSensorMode_ok,
      hcamera, hbackend, hforward, and_assoc]

/-! ### All options -/

/-- The rules of `validate_options`. -/
@[mk_iff] structure LaunchRules (options : LaunchArgumentsDraft) (explicitOptions : ExplicitOptions) : Prop where
  snapshot : options.snapshotIntervalMs ≠ 0
  output : ¬(options.interactive = true ∧ options.jsonOutput = true)
  log : explicitOptions.diagnosticLogFile = true → options.diagnosticLogFile ≠ ""
  wind : ∀ wind, options.simulatedWind = some wind → validateWind options.sitlMode wind = .ok ()
  transport : TransportRules options explicitOptions
  camera : CameraRules options explicitOptions

theorem validateOptions_ok {options : LaunchArgumentsDraft} {explicitOptions : ExplicitOptions} :
    validateOptions options explicitOptions = .ok () ↔ LaunchRules options explicitOptions := by
  rw [launchRules_iff]
  cases hwind : options.simulatedWind <;>
    cases hlog : explicitOptions.diagnosticLogFile <;>
    simp [validateOptions, check_bind_ok, rejectIf_ok, validateTransport_ok, validateCamera_ok, hwind, hlog]

end OnboardAutonomy
