import OnboardAutonomy.CommandLine
import Mathlib.Logic.Function.Basic
import Mathlib.Data.List.Induction

/-! The grammar of the command line. The arguments are groups, each an option with as many values as it
takes; what a group means depends on its option and its values alone, and only the last group of an option
counts. The parser accepts exactly the groups that are well formed and whose last values pass the
validation, and its launch state holds all of them. -/

namespace OnboardAutonomy

inductive CliOption where
  | transport
  | udpBind
  | udpPort
  | serialDevice
  | baud
  | sitl
  | camera
  | cameraSource
  | cameraSensorMode
  | cameraUdpPort
  | cameraWidth
  | cameraHeight
  | cameraFps
  | forwardCameraUdpPort
  | cameraPreview
  | cameraPreviewPort
  | json
  | snapshotMs
  | diagnosticLog
  | boardTypes
  | simWind
  | interactive
  deriving DecidableEq

namespace CliOption

def name : CliOption → String
  | transport => "--transport"
  | udpBind => "--udp-bind"
  | udpPort => "--udp-port"
  | serialDevice => "--serial-device"
  | baud => "--baud"
  | sitl => "--sitl"
  | camera => "--camera"
  | cameraSource => "--camera-source"
  | cameraSensorMode => "--camera-sensor-mode"
  | cameraUdpPort => "--camera-udp-port"
  | cameraWidth => "--camera-width"
  | cameraHeight => "--camera-height"
  | cameraFps => "--camera-fps"
  | forwardCameraUdpPort => "--forward-camera-udp-port"
  | cameraPreview => "--camera-preview"
  | cameraPreviewPort => "--camera-preview-port"
  | json => "--json"
  | snapshotMs => "--snapshot-ms"
  | diagnosticLog => "--diagnostic-log"
  | boardTypes => "--board-types"
  | simWind => "--sim-wind"
  | interactive => "--interactive"

/-- The number of values that an option takes. -/
def arity : CliOption → Nat
  | sitl | camera | cameraPreview | json | interactive => 0
  | simWind => 3
  | _ => 1

/-- What the values of an option stand for. -/
abbrev Value : CliOption → Type
  | transport => TransportBackend
  | udpBind | serialDevice | cameraSensorMode | diagnosticLog | boardTypes => String
  | udpPort | cameraUdpPort | forwardCameraUdpPort | cameraPreviewPort => UInt16
  | baud | cameraWidth | cameraHeight | cameraFps | snapshotMs => UInt32
  | sitl | camera | cameraPreview | json | interactive => Unit
  | cameraSource => CameraBackend
  | simWind => SimulatedWindProfile

/-- The reading of a single value. -/
def one {T : Type} (read : String → Option T) : List String → Option T
  | [text] => read text
  | _ => none

/-- A flag takes no value. -/
def flag : List String → Option Unit
  | [] => some ()
  | _ => none

def transportNamed (text : String) : Option TransportBackend :=
  if text = "udp" then some .udp else if text = "serial" then some .serial else none

def cameraSourceNamed (text : String) : Option CameraBackend :=
  if text = "rpicam" then some .rpicam else if text = "gstreamer" then some .gstreamer else none

def uint16 (text : String) : Option UInt16 := (numeral UInt16.size text).map UInt16.ofNat

def uint32 (text : String) : Option UInt32 := (numeral UInt32.size text).map UInt32.ofNat

/-- A floating-point number that takes up the whole text. -/
def real (text : String) : Option Binary64 :=
  match fromCharsDouble text.toList with
  | some (value, []) => some value
  | _ => none

def windProfile : List String → Option SimulatedWindProfile
  | [speed, direction, turbulence] => do
      let speed ← real speed
      let direction ← real direction
      let turbulence ← real turbulence
      some { speedMS := speed, directionFromDeg := direction, turbulenceMS := turbulence }
  | _ => none

/-- What some values of an option mean. Nothing when they are not well formed for it. -/
def read : (option : CliOption) → List String → Option option.Value
  | transport => one transportNamed
  | udpBind | serialDevice | cameraSensorMode | diagnosticLog | boardTypes => one some
  | udpPort | cameraUdpPort | forwardCameraUdpPort | cameraPreviewPort => one uint16
  | baud | cameraWidth | cameraHeight | cameraFps | snapshotMs => one uint32
  | sitl | camera | cameraPreview | json | interactive => flag
  | cameraSource => one cameraSourceNamed
  | simWind => windProfile

end CliOption

/-! ### What is given -/

/-- The value given for each option, if any. -/
abbrev Given : Type := (option : CliOption) → Option option.Value

namespace Given

/-- The draft that holds some given values, and the defaults beside them. -/
def draft (given : Given) : LaunchArgumentsDraft where
  udpBind := (given .udpBind).getD Defaults.kUdpBindAddress
  serialDevice := (given .serialDevice).getD ""
  boardTypesFile := (given .boardTypes).getD ""
  diagnosticLogFile := (given .diagnosticLog).getD ""
  simulatedWind := given .simWind
  forwardCameraUdpPort := given .forwardCameraUdpPort
  transport := (given .transport).getD .udp
  baudRate := (given .baud).getD Defaults.kSerialBaudRate
  snapshotIntervalMs := (given .snapshotMs).getD Defaults.kSnapshotIntervalMs
  cameraBackend := (given .cameraSource).getD .rpicam
  cameraWidth := (given .cameraWidth).getD Defaults.kCameraFrameWidth
  cameraHeight := (given .cameraHeight).getD Defaults.kCameraFrameHeight
  cameraFps := (given .cameraFps).getD Defaults.kCameraFramesPerSecond
  cameraSensorMode := (given .cameraSensorMode).getD Defaults.kCameraSensorMode
  udpPort := (given .udpPort).getD Defaults.kMavlinkUdpPort
  cameraUdpPort := (given .cameraUdpPort).getD Defaults.kCameraUdpPort
  cameraPreviewPort := (given .cameraPreviewPort).getD Defaults.kCameraPreviewPort
  cameraEnabled := (given .camera).isSome
  cameraPreviewEnabled := (given .cameraPreview).isSome
  jsonOutput := (given .json).isSome
  sitlMode := (given .sitl).isSome
  interactive := (given .interactive).isSome

/-- The set of given options, as far as the validation asks for it. -/
def explicitOptions (given : Given) : ExplicitOptions where
  udpBind := (given .udpBind).isSome
  udpPort := (given .udpPort).isSome
  serialDevice := (given .serialDevice).isSome
  baudRate := (given .baud).isSome
  cameraSource := (given .cameraSource).isSome
  cameraUdpPort := (given .cameraUdpPort).isSome
  cameraWidth := (given .cameraWidth).isSome
  cameraHeight := (given .cameraHeight).isSome
  cameraFps := (given .cameraFps).isSome
  cameraSensorMode := (given .cameraSensorMode).isSome
  cameraPreviewPort := (given .cameraPreviewPort).isSome
  diagnosticLogFile := (given .diagnosticLog).isSome

/-- The parser once some values were given. -/
def parser (given : Given) (arguments : List String) : ArgumentParser :=
  { arguments := arguments, draft := given.draft, explicitOptions := given.explicitOptions }

def give (given : Given) (option : CliOption) (value : option.Value) : Given :=
  Function.update given option (some value)

end Given

/-! ### One round of the parser -/

theorem toOption_bind {α β : Type} (x : Except String α) (f : α → Except String β) :
    (x >>= f).toOption = x.toOption.bind fun a => (f a).toOption := by
  cases x <;> rfl

theorem parseNumber_toOption {T : Type} (fromChars : List Char → Option (T × List Char))
    (text option : String) : (parseNumber fromChars text option).toOption =
      match fromChars text.toList with
      | some (value, []) => some value
      | _ => none := by
  rw [parseNumber]
  split <;> simp_all [Except.toOption]

theorem numeral_eq {T : Type} (size : Nat) (cast : Nat → T) (text : String) :
    (match (fromCharsUnsigned size text.toList).map fun r => (cast r.1, r.2) with
      | some (value, []) => some value
      | _ => none) = (numeral size text).map cast := by
  have hwhole := fromCharsUnsigned_whole size text
  cases hread : fromCharsUnsigned size text.toList with
  | none =>
      cases hnumeral : numeral size text with
      | none => rfl
      | some value => cases hread.symm.trans ((hwhole value).mpr hnumeral)
  | some r =>
      obtain ⟨value, rest⟩ := r
      cases rest with
      | nil => rw [(hwhole value).mp hread]; rfl
      | cons character rest =>
          cases hnumeral : numeral size text with
          | none => rfl
          | some value' => cases hread.symm.trans ((hwhole value').mpr hnumeral)

theorem parseUInt16_toOption (text option : String) :
    (parseNumber fromCharsUInt16 text option).toOption = CliOption.uint16 text := by
  rw [parseNumber_toOption]
  exact numeral_eq UInt16.size UInt16.ofNat text

theorem parseUInt32_toOption (text option : String) :
    (parseNumber fromCharsUInt32 text option).toOption = CliOption.uint32 text := by
  rw [parseNumber_toOption]
  exact numeral_eq UInt32.size UInt32.ofNat text

theorem parseDouble_toOption (text option : String) :
    (parseNumber fromCharsDouble text option).toOption = CliOption.real text := by
  rw [parseNumber_toOption, CliOption.real]
  rcases fromCharsDouble text.toList with _ | ⟨value, _ | ⟨character, rest⟩⟩ <;> rfl

namespace ArgumentParser

variable {T : Type} {read : String → Except String T} {spec : String → Option T}

/-- A branch for an option with one value refuses the argument that the value's reading refuses. -/
theorem takeValue_toOption (hread : ∀ text, (read text).toOption = spec text) (p : ArgumentParser)
    (option : String) (store : LaunchArgumentsDraft → T → LaunchArgumentsDraft)
    (mark : ExplicitOptions → ExplicitOptions) : (p.takeValue option read store mark).toOption =
      match p.arguments with
      | [] => none
      | text :: rest => (spec text).map fun value => some
          { arguments := rest, draft := store p.draft value, explicitOptions := mark p.explicitOptions } := by
  obtain ⟨arguments, draft, explicitOptions⟩ := p
  cases arguments with
  | nil => rfl
  | cons text rest =>
      rw [takeValue, toOption_bind]
      show ((read text >>= fun value => _) : Except String _).toOption = _
      rw [toOption_bind, hread]
      show _ = (spec text).map _
      cases spec text <;> rfl

theorem readTransport_toOption (text : String) :
    (readTransport text).toOption = CliOption.transportNamed text := by
  simp only [readTransport, CliOption.transportNamed, beq_iff_eq]
  split
  · rfl
  · split <;> rfl

theorem readCameraSource_toOption (text : String) :
    (readCameraSource text).toOption = CliOption.cameraSourceNamed text := by
  simp only [readCameraSource, CliOption.cameraSourceNamed, bne_iff_ne, Bool.and_eq_true, ne_eq, beq_iff_eq]
  by_cases hrpicam : text = "rpicam"
  · simp [hrpicam, Except.toOption]
  · by_cases hgstreamer : text = "gstreamer" <;> simp [hrpicam, hgstreamer, Except.toOption]

end ArgumentParser

/-- The parser after an option's group, if it is there and well formed. -/
def Given.afterGroup (given : Given) (option : CliOption) (arguments : List String) : Option ArgumentParser :=
  if option.arity ≤ arguments.length then
    (option.read (arguments.take option.arity)).map fun value =>
      (given.give option value).parser (arguments.drop option.arity)
  else none

namespace ArgumentParser

variable {p : ArgumentParser} {argument : String} {found : Option ArgumentParser}

theorem parseArgument_of_transport (h : (p.parseTransport argument).toOption = found.map some) :
    (p.parseArgument argument).toOption = found := by
  rw [parseArgument, toOption_bind, h]
  cases found <;> rfl

theorem parseArgument_of_camera (hother : p.parseTransport argument = .ok none)
    (h : (p.parseCamera argument).toOption = found.map some) :
    (p.parseArgument argument).toOption = found := by
  rw [parseArgument, hother]
  show ((p.parseCamera argument >>= _) : Except String ArgumentParser).toOption = found
  rw [toOption_bind, h]
  cases found <;> rfl

theorem parseArgument_of_runtime (htransport : p.parseTransport argument = .ok none)
    (hcamera : p.parseCamera argument = .ok none)
    (h : (p.parseRuntime argument).toOption = found.map some) :
    (p.parseArgument argument).toOption = found := by
  rw [parseArgument, htransport]
  show ((p.parseCamera argument >>= _) : Except String ArgumentParser).toOption = found
  rw [hcamera]
  show ((p.parseRuntime argument >>= _) : Except String ArgumentParser).toOption = found
  rw [toOption_bind, h]
  cases found <;> rfl

end ArgumentParser

section Branches

variable (given : Given) (arguments : List String) (option : CliOption)

/-- The branch of an option with one value. -/
theorem takeValue_afterGroup (name : String) {read : String → Except String option.Value}
    {store : LaunchArgumentsDraft → option.Value → LaunchArgumentsDraft}
    {mark : ExplicitOptions → ExplicitOptions} (harity : option.arity = 1)
    (hread : ∀ text, (read text).toOption = option.read [text])
    (hstore : ∀ value rest, ArgumentParser.mk rest (store given.draft value) (mark given.explicitOptions) =
      (given.give option value).parser rest) :
    ((given.parser arguments).takeValue name read store mark).toOption =
      (given.afterGroup option arguments).map some := by
  rw [ArgumentParser.takeValue_toOption hread, Given.afterGroup, harity]
  cases arguments with
  | nil => rfl
  | cons text rest =>
      have hlength : 1 ≤ (text :: rest).length := Nat.le_add_left 1 rest.length
      rw [if_pos hlength]
      show (option.read [text]).map _ = ((option.read [text]).map _).map some
      rw [Option.map_map]
      apply congrArg (Option.map · (option.read [text]))
      funext value
      exact congrArg some (hstore value rest)

/-- The branch of a flag. -/
theorem setFlag_afterGroup {store : LaunchArgumentsDraft → LaunchArgumentsDraft} (value : option.Value)
    (harity : option.arity = 0) (hread : option.read [] = some value)
    (hstore : ArgumentParser.mk arguments (store given.draft) given.explicitOptions =
      (given.give option value).parser arguments) :
    ((given.parser arguments).setFlag store).toOption = (given.afterGroup option arguments).map some := by
  rw [Given.afterGroup, harity, if_pos (Nat.zero_le _), List.take_zero, hread, List.drop_zero]
  exact congrArg (fun p => some (some p)) hstore

end Branches

/-- The branch of `--sim-wind`, which takes three numbers. -/
theorem simWind_afterGroup (given : Given) (arguments : List String) :
    ((given.parser arguments).parseRuntime CliOption.simWind.name).toOption =
      (given.afterGroup .simWind arguments).map some := by
  simp only [ArgumentParser.parseRuntime, CliOption.name, String.reduceBEq, Bool.false_eq_true, if_false,
    if_true, toOption_bind, parseDouble_toOption]
  rcases arguments with _ | ⟨speed, _ | ⟨direction, _ | ⟨turbulence, rest⟩⟩⟩
  · rfl
  · show (CliOption.real speed).bind _ = none
    cases CliOption.real speed <;> rfl
  · show (CliOption.real speed).bind _ = none
    cases CliOption.real speed with
    | none => rfl
    | some _ =>
        show (CliOption.real direction).bind _ = none
        cases CliOption.real direction <;> rfl
  · have hlength : CliOption.simWind.arity ≤ (speed :: direction :: turbulence :: rest).length :=
      Nat.le_add_left 3 rest.length
    rw [Given.afterGroup, if_pos hlength]
    show (CliOption.real speed).bind _ =
      Option.map some (Option.map _ (CliOption.windProfile [speed, direction, turbulence]))
    rw [CliOption.windProfile]
    cases CliOption.real speed with
    | none => rfl
    | some _ =>
        show (CliOption.real direction).bind _ =
          Option.map some (Option.map _ ((CliOption.real direction).bind _))
        cases CliOption.real direction with
        | none => rfl
        | some _ =>
            show (CliOption.real turbulence).bind _ =
              Option.map some (Option.map _ ((CliOption.real turbulence).bind _))
            cases CliOption.real turbulence <;> rfl

/-- One round of the parser takes one group. -/
theorem parseArgument_name (given : Given) (option : CliOption) (arguments : List String) :
    ((given.parser arguments).parseArgument option.name).toOption = given.afterGroup option arguments := by
  cases option with
  | transport =>
      apply ArgumentParser.parseArgument_of_transport
      simp only [ArgumentParser.parseTransport, CliOption.name, String.reduceBEq, if_true]
      exact takeValue_afterGroup given arguments .transport _ rfl ArgumentParser.readTransport_toOption
        fun _ _ => rfl
  | udpBind =>
      apply ArgumentParser.parseArgument_of_transport
      simp only [ArgumentParser.parseTransport, CliOption.name, String.reduceBEq, Bool.false_eq_true, if_false,
        if_true]
      exact takeValue_afterGroup given arguments .udpBind _ rfl (fun _ => rfl) fun _ _ => rfl
  | udpPort =>
      apply ArgumentParser.parseArgument_of_transport
      simp only [ArgumentParser.parseTransport, CliOption.name, String.reduceBEq, Bool.false_eq_true, if_false,
        if_true]
      exact takeValue_afterGroup given arguments .udpPort _ rfl (parseUInt16_toOption · _) fun _ _ => rfl
  | serialDevice =>
      apply ArgumentParser.parseArgument_of_transport
      simp only [ArgumentParser.parseTransport, CliOption.name, String.reduceBEq, Bool.false_eq_true, if_false,
        if_true]
      exact takeValue_afterGroup given arguments .serialDevice _ rfl (fun _ => rfl) fun _ _ => rfl
  | baud =>
      apply ArgumentParser.parseArgument_of_transport
      simp only [ArgumentParser.parseTransport, CliOption.name, String.reduceBEq, Bool.false_eq_true, if_false,
        if_true]
      exact takeValue_afterGroup given arguments .baud _ rfl (parseUInt32_toOption · _) fun _ _ => rfl
  | cameraSource =>
      apply ArgumentParser.parseArgument_of_camera rfl
      simp only [ArgumentParser.parseCamera, CliOption.name, String.reduceBEq, Bool.false_eq_true, if_false,
        if_true]
      exact takeValue_afterGroup given arguments .cameraSource _ rfl ArgumentParser.readCameraSource_toOption
        fun _ _ => rfl
  | cameraUdpPort =>
      apply ArgumentParser.parseArgument_of_camera rfl
      simp only [ArgumentParser.parseCamera, CliOption.name, String.reduceBEq, Bool.false_eq_true, if_false,
        if_true]
      exact takeValue_afterGroup given arguments .cameraUdpPort _ rfl (parseUInt16_toOption · _) fun _ _ => rfl
  | cameraWidth =>
      apply ArgumentParser.parseArgument_of_camera rfl
      simp only [ArgumentParser.parseCamera, CliOption.name, String.reduceBEq, Bool.false_eq_true, if_false,
        if_true]
      exact takeValue_afterGroup given arguments .cameraWidth _ rfl (parseUInt32_toOption · _) fun _ _ => rfl
  | cameraHeight =>
      apply ArgumentParser.parseArgument_of_camera rfl
      simp only [ArgumentParser.parseCamera, CliOption.name, String.reduceBEq, Bool.false_eq_true, if_false,
        if_true]
      exact takeValue_afterGroup given arguments .cameraHeight _ rfl (parseUInt32_toOption · _) fun _ _ => rfl
  | cameraFps =>
      apply ArgumentParser.parseArgument_of_camera rfl
      simp only [ArgumentParser.parseCamera, CliOption.name, String.reduceBEq, Bool.false_eq_true, if_false,
        if_true]
      exact takeValue_afterGroup given arguments .cameraFps _ rfl (parseUInt32_toOption · _) fun _ _ => rfl
  | cameraSensorMode =>
      apply ArgumentParser.parseArgument_of_camera rfl
      simp only [ArgumentParser.parseCamera, CliOption.name, String.reduceBEq, Bool.false_eq_true, if_false,
        if_true]
      exact takeValue_afterGroup given arguments .cameraSensorMode _ rfl (fun _ => rfl) fun _ _ => rfl
  | cameraPreviewPort =>
      apply ArgumentParser.parseArgument_of_camera rfl
      simp only [ArgumentParser.parseCamera, CliOption.name, String.reduceBEq, Bool.false_eq_true, if_false,
        if_true]
      exact takeValue_afterGroup given arguments .cameraPreviewPort _ rfl (parseUInt16_toOption · _)
        fun _ _ => rfl
  | forwardCameraUdpPort =>
      apply ArgumentParser.parseArgument_of_camera rfl
      simp only [ArgumentParser.parseCamera, CliOption.name, String.reduceBEq, Bool.false_eq_true, if_false,
        if_true]
      exact takeValue_afterGroup given arguments .forwardCameraUdpPort _ rfl (parseUInt16_toOption · _)
        fun _ _ => rfl
  | camera =>
      apply ArgumentParser.parseArgument_of_camera rfl
      simp only [ArgumentParser.parseCamera, CliOption.name, String.reduceBEq, Bool.false_eq_true, if_false,
        if_true]
      exact setFlag_afterGroup given arguments .camera () rfl rfl rfl
  | cameraPreview =>
      apply ArgumentParser.parseArgument_of_camera rfl
      simp only [ArgumentParser.parseCamera, CliOption.name, String.reduceBEq, Bool.false_eq_true, if_false,
        if_true]
      exact setFlag_afterGroup given arguments .cameraPreview () rfl rfl rfl
  | snapshotMs =>
      apply ArgumentParser.parseArgument_of_runtime rfl rfl
      simp only [ArgumentParser.parseRuntime, CliOption.name, String.reduceBEq, Bool.false_eq_true, if_false,
        if_true]
      exact takeValue_afterGroup given arguments .snapshotMs _ rfl (parseUInt32_toOption · _) fun _ _ => rfl
  | boardTypes =>
      apply ArgumentParser.parseArgument_of_runtime rfl rfl
      simp only [ArgumentParser.parseRuntime, CliOption.name, String.reduceBEq, Bool.false_eq_true, if_false,
        if_true]
      exact takeValue_afterGroup given arguments .boardTypes _ rfl (fun _ => rfl) fun _ _ => rfl
  | diagnosticLog =>
      apply ArgumentParser.parseArgument_of_runtime rfl rfl
      simp only [ArgumentParser.parseRuntime, CliOption.name, String.reduceBEq, Bool.false_eq_true, if_false,
        if_true]
      exact takeValue_afterGroup given arguments .diagnosticLog _ rfl (fun _ => rfl) fun _ _ => rfl
  | json =>
      apply ArgumentParser.parseArgument_of_runtime rfl rfl
      simp only [ArgumentParser.parseRuntime, CliOption.name, String.reduceBEq, Bool.false_eq_true, if_false,
        if_true]
      exact setFlag_afterGroup given arguments .json () rfl rfl rfl
  | sitl =>
      apply ArgumentParser.parseArgument_of_runtime rfl rfl
      simp only [ArgumentParser.parseRuntime, CliOption.name, String.reduceBEq, Bool.false_eq_true, if_false,
        if_true]
      exact setFlag_afterGroup given arguments .sitl () rfl rfl rfl
  | interactive =>
      apply ArgumentParser.parseArgument_of_runtime rfl rfl
      simp only [ArgumentParser.parseRuntime, CliOption.name, String.reduceBEq, Bool.false_eq_true, if_false,
        if_true]
      exact setFlag_afterGroup given arguments .interactive () rfl rfl rfl
  | simWind => exact ArgumentParser.parseArgument_of_runtime rfl rfl (simWind_afterGroup given arguments)

/-- An argument that is no option is refused. -/
theorem parseArgument_unknown {p : ArgumentParser} {argument : String}
    (h : ∀ option : CliOption, ¬(argument = option.name)) : (p.parseArgument argument).toOption = none := by
  have htransport : p.parseTransport argument = .ok none := by
    simp only [ArgumentParser.parseTransport, beq_iff_eq]
    exact (if_neg (h .transport)).trans <| (if_neg (h .udpBind)).trans <| (if_neg (h .udpPort)).trans <|
      (if_neg (h .serialDevice)).trans <| if_neg (h .baud)
  have hcamera : p.parseCamera argument = .ok none := by
    simp only [ArgumentParser.parseCamera, beq_iff_eq]
    exact (if_neg (h .camera)).trans <| (if_neg (h .cameraSource)).trans <|
      (if_neg (h .cameraUdpPort)).trans <| (if_neg (h .cameraWidth)).trans <|
      (if_neg (h .cameraHeight)).trans <| (if_neg (h .cameraFps)).trans <|
      (if_neg (h .cameraSensorMode)).trans <| (if_neg (h .cameraPreview)).trans <|
      (if_neg (h .cameraPreviewPort)).trans <| if_neg (h .forwardCameraUdpPort)
  have hruntime : p.parseRuntime argument = .ok none := by
    simp only [ArgumentParser.parseRuntime, beq_iff_eq]
    exact (if_neg (h .snapshotMs)).trans <| (if_neg (h .boardTypes)).trans <| (if_neg (h .json)).trans <|
      (if_neg (h .diagnosticLog)).trans <| (if_neg (h .sitl)).trans <| (if_neg (h .simWind)).trans <|
      if_neg (h .interactive)
  rw [ArgumentParser.parseArgument, htransport]
  show ((p.parseCamera argument >>= _) : Except String ArgumentParser).toOption = none
  rw [hcamera]
  show ((p.parseRuntime argument >>= _) : Except String ArgumentParser).toOption = none
  rw [hruntime]
  rfl

/-! ### Groups -/

/-- An option with as many values as it takes. -/
structure OptionGroup where
  option : CliOption
  values : List String
  length_eq : values.length = option.arity

namespace OptionGroup

/-- The arguments that a group is written as. -/
def tokens (group : OptionGroup) : List String := group.option.name :: group.values

def value (group : OptionGroup) : Option group.option.Value := group.option.read group.values

end OptionGroup

/-- The last value that some groups give to each option. -/
def Given.last (groups : List OptionGroup) : Given := fun option =>
  ((groups.filter fun group => group.option = option).getLast?).bind fun group => option.read group.values

theorem Given.last_concat (groups : List OptionGroup) {group : OptionGroup} {value : group.option.Value}
    (h : group.value = some value) :
    Given.last (groups ++ [group]) = (Given.last groups).give group.option value := by
  funext option
  rw [Given.give, Given.last, List.filter_append]
  by_cases hsame : option = group.option
  · subst hsame
    have hkept : [group].filter (fun other => other.option = group.option) = [group] := by simp
    rw [Function.update_self, hkept, List.getLast?_concat]
    exact h
  · have hdropped : [group].filter (fun other => other.option = option) = [] := by simp [Ne.symm hsame]
    rw [Function.update_of_ne hsame, hdropped, List.append_nil]
    rfl

theorem Given.afterGroup_tokens (given : Given) (group : OptionGroup) (rest : List String) :
    given.afterGroup group.option (group.values ++ rest) =
      group.value.map fun value => (given.give group.option value).parser rest := by
  have hlength : group.option.arity ≤ (group.values ++ rest).length := by
    rw [List.length_append, group.length_eq]
    exact Nat.le_add_right _ _
  rw [Given.afterGroup, if_pos hlength, ← group.length_eq, List.take_left, List.drop_left]
  rfl

/-- The parser over a list of groups. -/
theorem parseAll_groups (groups : List OptionGroup) : ∀ (seen : List OptionGroup) (rounds : Nat),
    (groups.flatMap OptionGroup.tokens).length ≤ rounds →
    (ArgumentParser.parseAll rounds ((Given.last seen).parser (groups.flatMap OptionGroup.tokens))).toOption =
      if ∀ group ∈ groups, group.value.isSome = true then some ((Given.last (seen ++ groups)).parser [])
      else none := by
  induction groups with
  | nil =>
      intro seen rounds _
      rw [if_pos (fun _ hmem => absurd hmem List.not_mem_nil), List.append_nil]
      cases rounds <;> rfl
  | cons group groups ih =>
      intro seen rounds hrounds
      rw [List.flatMap_cons, OptionGroup.tokens] at hrounds ⊢
      cases rounds with
      | zero => cases hrounds
      | succ rounds =>
          rw [List.cons_append] at hrounds ⊢
          show ((ArgumentParser.parseArgument ((Given.last seen).parser _) group.option.name >>=
            ArgumentParser.parseAll rounds) : Except String ArgumentParser).toOption = _
          rw [toOption_bind, parseArgument_name, Given.afterGroup_tokens]
          cases hvalue : group.value with
          | none =>
              rw [if_neg]
              · rfl
              · intro hall
                have := hall group List.mem_cons_self
                rw [hvalue] at this
                cases this
          | some value =>
              rw [Option.map_some, Option.bind_some, ← Given.last_concat seen hvalue]
              have hrest : (groups.flatMap OptionGroup.tokens).length ≤ rounds := by
                simp only [List.length_cons, List.length_append] at hrounds
                omega
              rw [ih (seen ++ [group]) rounds hrest, List.append_assoc, List.singleton_append]
              have hhead : group.value.isSome = true := by
                rw [hvalue]
                rfl
              simp only [List.forall_mem_cons, hhead, true_and]

/-- Whatever the parser accepts is a list of groups. -/
theorem parseAll_ok {rounds : Nat} : ∀ {arguments : List String} {seen : List OptionGroup}
    {q : ArgumentParser}, arguments.length ≤ rounds →
    ArgumentParser.parseAll rounds ((Given.last seen).parser arguments) = .ok q →
    ∃ groups : List OptionGroup, arguments = groups.flatMap OptionGroup.tokens := by
  induction rounds with
  | zero =>
      intro arguments _ _ hrounds _
      exact ⟨[], List.eq_nil_of_length_eq_zero (Nat.le_zero.mp hrounds)⟩
  | succ rounds ih =>
      intro arguments seen q hrounds h
      cases arguments with
      | nil => exact ⟨[], rfl⟩
      | cons argument rest =>
          have hbind : ((ArgumentParser.parseArgument ((Given.last seen).parser rest) argument >>=
            ArgumentParser.parseAll rounds) : Except String ArgumentParser) = .ok q := h
          cases hround : ArgumentParser.parseArgument ((Given.last seen).parser rest) argument with
          | error message =>
              rw [hround] at hbind
              cases hbind
          | ok p =>
              rw [hround] at hbind
              have hsome : (ArgumentParser.parseArgument ((Given.last seen).parser rest) argument).toOption =
                  some p := by
                rw [hround]
                rfl
              by_cases hknown : ∃ option : CliOption, argument = option.name
              · obtain ⟨option, rfl⟩ := hknown
                rw [parseArgument_name, Given.afterGroup] at hsome
                split at hsome
                · rename_i hlength
                  obtain ⟨value, hvalue, hp⟩ := Option.map_eq_some_iff.mp hsome
                  let group : OptionGroup :=
                    ⟨option, rest.take option.arity, List.length_take_of_le hlength⟩
                  have hgroup : group.value = some value := hvalue
                  rw [← hp, ← Given.last_concat seen hgroup] at hbind
                  have hshort : (rest.drop option.arity).length ≤ rounds := by
                    rw [List.length_drop]
                    rw [List.length_cons] at hrounds
                    omega
                  obtain ⟨groups, hgroups⟩ := ih hshort hbind
                  refine ⟨group :: groups, ?_⟩
                  rw [List.flatMap_cons, ← hgroups, OptionGroup.tokens, List.cons_append,
                    List.take_append_drop]
                · cases hsome
              · rw [parseArgument_unknown fun option heq => hknown ⟨option, heq⟩] at hsome
                cases hsome

end OnboardAutonomy
