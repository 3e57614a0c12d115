import OnboardAutonomy.LaunchRules

/-! What an accepted command line launches. The launch state holds the last value of every option that was
given, in every place where it has one, and the defaults elsewhere; so the order of the options does not
matter beyond the order of an option's own repetitions. -/

namespace OnboardAutonomy

/-! ### What a launch state holds -/

/-- The places of a launch state that hold an option's value. -/
def CommandLineOptions.held (launch : CommandLineOptions) : (option : CliOption) → List option.Value
  | .transport =>
      match launch.connection with
      | .udp _ => [.udp]
      | .serial _ => [.serial]
  | .udpBind =>
      match launch.connection with
      | .udp options => [options.bindAddress]
      | .serial _ => []
  | .udpPort =>
      match launch.connection with
      | .udp options => [options.port]
      | .serial _ => []
  | .serialDevice =>
      match launch.connection with
      | .udp _ => []
      | .serial options => [options.device]
  | .baud =>
      match launch.connection with
      | .udp _ => []
      | .serial options => [options.baudRate]
  | .sitl =>
      match launch with
      | .hardware _ => []
      | .simulation _ => [()]
  | .camera => launch.camera.toList.map fun _ => ()
  | .cameraSource => launch.camera.toList.map fun camera =>
      match camera.source with
      | .rpicam _ _ => .rpicam
      | .gstreamer _ => .gstreamer
  | .cameraSensorMode => launch.camera.toList.flatMap fun camera =>
      match camera.source with
      | .rpicam _ sensorMode => [sensorMode]
      | .gstreamer _ => []
  | .cameraUdpPort => launch.camera.toList.flatMap fun camera =>
      match camera.source with
      | .rpicam _ _ => []
      | .gstreamer udpPort => [udpPort]
  | .cameraWidth =>
      launch.camera.toList.map (·.frameWidth) ++ launch.diagnostics.forwardCamera.toList.map (·.frameWidth)
  | .cameraHeight =>
      launch.camera.toList.map (·.frameHeight) ++ launch.diagnostics.forwardCamera.toList.map (·.frameHeight)
  | .cameraFps => launch.camera.toList.flatMap fun camera =>
      match camera.source with
      | .rpicam framesPerSecond _ => [framesPerSecond]
      | .gstreamer _ => []
  | .forwardCameraUdpPort => launch.diagnostics.forwardCamera.toList.map (·.udpPort)
  | .cameraPreview => launch.diagnostics.cameraPreview.toList.map fun _ => ()
  | .cameraPreviewPort => launch.diagnostics.cameraPreview.toList
  | .json => if launch.operatorInterface.jsonOutput then [()] else []
  | .snapshotMs => [launch.operatorInterface.snapshotIntervalMs]
  | .diagnosticLog => [launch.diagnostics.logFile]
  | .boardTypes => [launch.operatorInterface.boardTypesFile]
  | .simWind => launch.wind.toList
  | .interactive => if launch.operatorInterface.interactive then [()] else []

/-- The default of an option. A flag has none, nor has an option that adds something to the launch. -/
def CliOption.default : (option : CliOption) → Option option.Value
  | .transport => some .udp
  | .udpBind => some Defaults.kUdpBindAddress
  | .udpPort => some Defaults.kMavlinkUdpPort
  | .baud => some Defaults.kSerialBaudRate
  | .cameraSource => some .rpicam
  | .cameraSensorMode => some Defaults.kCameraSensorMode
  | .cameraUdpPort => some Defaults.kCameraUdpPort
  | .cameraWidth => some Defaults.kCameraFrameWidth
  | .cameraHeight => some Defaults.kCameraFrameHeight
  | .cameraFps => some Defaults.kCameraFramesPerSecond
  | .cameraPreviewPort => some Defaults.kCameraPreviewPort
  | .snapshotMs => some Defaults.kSnapshotIntervalMs
  | .diagnosticLog | .boardTypes => some ""
  | .serialDevice | .sitl | .camera | .forwardCameraUdpPort | .cameraPreview | .json | .simWind
  | .interactive => none

/-- The places for a value hold what was given, and there is one; without a given value they hold the
default. -/
def Carries {α : Type} (held : List α) (default given : Option α) : Prop :=
  match given with
  | some value => held ≠ [] ∧ ∀ copy ∈ held, copy = value
  | none => ∀ copy ∈ held, default = some copy

section Carries

variable {α : Type} {default : α} {given : Option α}

theorem carries_toList (default given : Option α) : Carries given.toList default given := by
  cases given <;> simp [Carries]

theorem carries_getD (default : α) (given : Option α) : Carries [given.getD default] (some default) given := by
  cases given <;> simp [Carries]

/-- An option may be left out where it is not given. -/
theorem carries_nil {default : Option α} (h : given.isSome = false) : Carries [] default given := by
  rw [Option.isSome_eq_false_iff, Option.isNone_iff_eq_none] at h
  rw [h]
  exact fun _ hmem => absurd hmem List.not_mem_nil

/-- A value may be held in several places, if there is one when it is given. -/
theorem carries_copies {held : List α} (hcopies : ∀ copy ∈ held, copy = given.getD default)
    (hheld : given.isSome = true → held ≠ []) : Carries held (some default) given := by
  cases given with
  | none =>
      intro copy hmem
      rw [hcopies copy hmem]
      rfl
  | some value => exact ⟨hheld rfl, hcopies⟩

theorem carries_flag (given : Option Unit) : Carries (if given.isSome then [()] else []) none given := by
  rcases given with _ | ⟨⟩ <;> simp [Carries]

end Carries

/-- A launch state that carries all given values and the defaults beside them. -/
def CommandLineOptions.Launches (launch : CommandLineOptions) (given : Given) : Prop :=
  ∀ option, Carries (launch.held option) option.default (given option)

/-! ### The parts of a launch state -/

section Parts

variable {given : Given}

theorem makeCommandLineOptions_connection (hrules : LaunchRules given.draft given.explicitOptions) :
    (makeCommandLineOptions given.draft).connection = makeConnectionOptions given.draft := by
  rw [makeCommandLineOptions]
  split
  · rename_i hsitl
    cases htransport : given.draft.transport with
    | udp => simp [CommandLineOptions.connection, makeConnectionOptions, htransport]
    | serial =>
        have hhardware := (hrules.transport.serial htransport).2.2.2.2
        rw [hsitl] at hhardware
        cases hhardware
  · rfl

theorem makeCommandLineOptions_camera (draft : LaunchArgumentsDraft) :
    (makeCommandLineOptions draft).camera = makeCameraOptions draft := by
  rw [makeCommandLineOptions]
  split <;> rfl

theorem makeCommandLineOptions_wind (hrules : LaunchRules given.draft given.explicitOptions) :
    (makeCommandLineOptions given.draft).wind = given .simWind := by
  rw [makeCommandLineOptions]
  split
  · rfl
  · rename_i hhardware
    cases hwind : given .simWind with
    | none => rfl
    | some wind =>
        have hcheck := hrules.wind wind hwind
        rw [validateWind, Bool.eq_false_iff.mpr hhardware] at hcheck
        cases (check_bind_ok.mp hcheck).1

theorem makeCommandLineOptions_operatorInterface (draft : LaunchArgumentsDraft) :
    (makeCommandLineOptions draft).operatorInterface =
      { interactive := draft.interactive
        jsonOutput := draft.jsonOutput
        snapshotIntervalMs := draft.snapshotIntervalMs
        boardTypesFile := draft.boardTypesFile } := by
  rw [makeCommandLineOptions]
  split <;> rfl

theorem makeCommandLineOptions_diagnostics (draft : LaunchArgumentsDraft) :
    (makeCommandLineOptions draft).diagnostics =
      { cameraPreview := if draft.cameraPreviewEnabled then some draft.cameraPreviewPort else none
        forwardCamera := draft.forwardCameraUdpPort.map fun port =>
          { udpPort := port
            frameWidth := draft.cameraWidth
            frameHeight := draft.cameraHeight }
        logFile := draft.diagnosticLogFile } := by
  rw [makeCommandLineOptions]
  split <;> rfl

theorem makeCommandLineOptions_sitl (draft : LaunchArgumentsDraft) :
    (makeCommandLineOptions draft).held .sitl = if draft.sitlMode then [()] else [] := by
  rw [makeCommandLineOptions]
  split <;> rfl

/-! ### Nothing given is dropped -/

variable (hrules : LaunchRules given.draft given.explicitOptions)
include hrules

theorem connection_carries {option : CliOption}
    (h : option = .transport ∨ option = .udpBind ∨ option = .udpPort ∨ option = .serialDevice ∨ option = .baud) :
    Carries ((makeCommandLineOptions given.draft).held option) option.default (given option) := by
  have hconnection := makeCommandLineOptions_connection hrules
  rw [makeConnectionOptions] at hconnection
  have htransport : given.draft.transport = (given .transport).getD .udp := rfl
  cases hkind : given.draft.transport with
  | udp =>
      rw [if_pos hkind] at hconnection
      obtain ⟨hdevice, hbaud, _⟩ := hrules.transport.udp hkind
      rcases h with rfl | rfl | rfl | rfl | rfl
      all_goals simp only [CommandLineOptions.held, hconnection]
      · rw [← hkind, htransport]
        exact carries_getD _ _
      · exact carries_getD _ _
      · exact carries_getD _ _
      · exact carries_nil hdevice
      · exact carries_nil hbaud
  | serial =>
      have hserial : ¬given.draft.transport = .udp := by
        rw [hkind]
        decide
      rw [if_neg hserial] at hconnection
      obtain ⟨hbind, hport, hdevice, _⟩ := hrules.transport.serial hkind
      rcases h with rfl | rfl | rfl | rfl | rfl
      all_goals simp only [CommandLineOptions.held, hconnection]
      · rw [← hkind, htransport]
        exact carries_getD _ _
      · exact carries_nil hbind
      · exact carries_nil hport
      · cases hgiven : given .serialDevice with
        | none => exact absurd (congrArg (Option.getD · "") hgiven) hdevice
        | some device =>
            have hdraft : given.draft.serialDevice = device := congrArg (Option.getD · "") hgiven
            rw [hdraft]
            exact carries_toList none (some device)
      · exact carries_getD _ _

theorem camera_carries {option : CliOption}
    (h : option = .camera ∨ option = .cameraSource ∨ option = .cameraSensorMode ∨ option = .cameraUdpPort ∨
      option = .cameraFps) :
    Carries ((makeCommandLineOptions given.draft).held option) option.default (given option) := by
  have hcamera := makeCommandLineOptions_camera given.draft
  have henabled : given.draft.cameraEnabled = (given .camera).isSome := rfl
  rw [makeCameraOptions, henabled] at hcamera
  cases hgiven : (given .camera).isSome with
  | false =>
      rw [hgiven] at hcamera henabled
      have hprimary := mt hrules.camera.primary (Bool.eq_false_iff.mp henabled)
      simp only [Bool.not_eq_true, Bool.or_eq_false_iff] at hprimary
      obtain ⟨⟨⟨hsource, hport⟩, hfps⟩, hmode⟩ := hprimary
      rcases h with rfl | rfl | rfl | rfl | rfl
      all_goals simp only [CommandLineOptions.held, hcamera]
      · exact carries_nil hgiven
      · exact carries_nil hsource
      · exact carries_nil hmode
      · exact carries_nil hport
      · exact carries_nil hfps
  | true =>
      rw [hgiven] at hcamera henabled
      have hflag := carries_flag (given .camera)
      rw [hgiven] at hflag
      have hbackend : given.draft.cameraBackend = (given .cameraSource).getD .rpicam := rfl
      have hsource := carries_getD .rpicam (given .cameraSource)
      rw [← hbackend] at hsource
      cases hkind : given.draft.cameraBackend with
      | rpicam =>
          rw [hkind] at hsource
          rw [makeCameraSourceOptions, if_pos hkind] at hcamera
          obtain ⟨_, hport, _⟩ := hrules.camera.rpicam henabled hkind
          rcases h with rfl | rfl | rfl | rfl | rfl
          all_goals simp only [CommandLineOptions.held, hcamera]
          · exact hflag
          · exact hsource
          · exact carries_getD _ _
          · exact carries_nil hport
          · exact carries_getD _ _
      | gstreamer =>
          have hother : ¬given.draft.cameraBackend = .rpicam := by
            rw [hkind]
            decide
          rw [hkind] at hsource
          rw [makeCameraSourceOptions, if_neg hother] at hcamera
          obtain ⟨hmode, hfps, _⟩ := hrules.camera.gstreamer henabled hkind
          rcases h with rfl | rfl | rfl | rfl | rfl
          all_goals simp only [CommandLineOptions.held, hcamera]
          · exact hflag
          · exact hsource
          · exact carries_nil hmode
          · exact carries_getD _ _
          · exact carries_nil hfps

/-- The size of the frames is shared by both cameras. -/
theorem cameraSize_carries {option : CliOption} (h : option = .cameraWidth ∨ option = .cameraHeight) :
    Carries ((makeCommandLineOptions given.draft).held option) option.default (given option) := by
  have hcamera := makeCommandLineOptions_camera given.draft
  have hdiagnostics := makeCommandLineOptions_diagnostics given.draft
  have hshared := hrules.camera.shared
  rw [LaunchArgumentsDraft.anyCamera] at hshared
  rw [makeCameraOptions] at hcamera
  rcases h with rfl | rfl
  all_goals
    apply carries_copies
    · intro copy hmem
      rw [CommandLineOptions.held, hcamera, hdiagnostics] at hmem
      rcases List.mem_append.mp hmem with hmem | hmem
      · split at hmem
        · cases hmem
        · exact List.mem_singleton.mp hmem
      · cases hforward : given.draft.forwardCameraUdpPort with
        | none =>
            rw [hforward] at hmem
            cases hmem
        | some port =>
            rw [hforward] at hmem
            exact List.mem_singleton.mp hmem
    · intro hgiven hnil
      rw [CommandLineOptions.held, hcamera, hdiagnostics] at hnil
      obtain ⟨hprimary, hforward⟩ := List.append_eq_nil_iff.mp hnil
      have hany := hshared (by simp [Given.explicitOptions, hgiven])
      cases henabled : given.draft.cameraEnabled with
      | true =>
          rw [henabled] at hprimary
          cases hprimary
      | false =>
          rw [henabled, Bool.false_or] at hany
          obtain ⟨port, hport⟩ := Option.isSome_iff_exists.mp hany
          rw [hport] at hforward
          cases hforward

theorem diagnostics_carries {option : CliOption}
    (h : option = .cameraPreview ∨ option = .cameraPreviewPort ∨ option = .forwardCameraUdpPort ∨
      option = .diagnosticLog) :
    Carries ((makeCommandLineOptions given.draft).held option) option.default (given option) := by
  have hdiagnostics := makeCommandLineOptions_diagnostics given.draft
  have henabled : given.draft.cameraPreviewEnabled = (given .cameraPreview).isSome := rfl
  have hport : given.draft.cameraPreviewPort = (given .cameraPreviewPort).getD Defaults.kCameraPreviewPort := rfl
  have hforward : given.draft.forwardCameraUdpPort = given .forwardCameraUdpPort := rfl
  rcases h with rfl | rfl | rfl | rfl
  all_goals simp only [CommandLineOptions.held, hdiagnostics, henabled, hport, hforward]
  · have hflag := carries_flag (given .cameraPreview)
    cases hgiven : (given .cameraPreview).isSome with
    | false =>
        rw [hgiven] at hflag
        exact hflag
    | true =>
        rw [hgiven] at hflag
        exact hflag
  · split
    · exact carries_getD _ _
    · rename_i habsent
      exact carries_nil (Bool.eq_false_iff.mpr (mt hrules.camera.previewGiven habsent))
  · cases given .forwardCameraUdpPort with
    | none => exact carries_toList none none
    | some port => exact carries_toList none (some port)
  · exact carries_getD _ _

/-- An accepted draft becomes a launch state that holds all that was given. -/
theorem makeCommandLineOptions_launches : (makeCommandLineOptions given.draft).Launches given := by
  have hoperator := makeCommandLineOptions_operatorInterface given.draft
  intro option
  cases option with
  | transport => exact connection_carries hrules (.inl rfl)
  | udpBind => exact connection_carries hrules (.inr (.inl rfl))
  | udpPort => exact connection_carries hrules (.inr (.inr (.inl rfl)))
  | serialDevice => exact connection_carries hrules (.inr (.inr (.inr (.inl rfl))))
  | baud => exact connection_carries hrules (.inr (.inr (.inr (.inr rfl))))
  | sitl =>
      rw [makeCommandLineOptions_sitl]
      exact carries_flag (given .sitl)
  | camera => exact camera_carries hrules (.inl rfl)
  | cameraSource => exact camera_carries hrules (.inr (.inl rfl))
  | cameraSensorMode => exact camera_carries hrules (.inr (.inr (.inl rfl)))
  | cameraUdpPort => exact camera_carries hrules (.inr (.inr (.inr (.inl rfl))))
  | cameraFps => exact camera_carries hrules (.inr (.inr (.inr (.inr rfl))))
  | cameraWidth => exact cameraSize_carries hrules (.inl rfl)
  | cameraHeight => exact cameraSize_carries hrules (.inr rfl)
  | cameraPreview => exact diagnostics_carries hrules (.inl rfl)
  | cameraPreviewPort => exact diagnostics_carries hrules (.inr (.inl rfl))
  | forwardCameraUdpPort => exact diagnostics_carries hrules (.inr (.inr (.inl rfl)))
  | diagnosticLog => exact diagnostics_carries hrules (.inr (.inr (.inr rfl)))
  | json =>
      rw [CommandLineOptions.held, hoperator]
      exact carries_flag (given .json)
  | interactive =>
      rw [CommandLineOptions.held, hoperator]
      exact carries_flag (given .interactive)
  | snapshotMs =>
      rw [CommandLineOptions.held, hoperator]
      exact carries_getD _ _
  | boardTypes =>
      rw [CommandLineOptions.held, hoperator]
      exact carries_getD _ _
  | simWind =>
      rw [CommandLineOptions.held, makeCommandLineOptions_wind hrules]
      exact carries_toList none (given .simWind)

end Parts

/-! ### The parser -/

/-- The command line of some groups is accepted if they are well formed and their last values keep the
rules; the launch state is that of the last values. -/
theorem parseCommandLine_groups (groups : List OptionGroup) (launch : CommandLineOptions) :
    parseCommandLine (groups.flatMap OptionGroup.tokens) = .ok launch ↔
      (∀ group ∈ groups, group.value.isSome = true) ∧
        LaunchRules (Given.last groups).draft (Given.last groups).explicitOptions ∧
        launch = makeCommandLineOptions (Given.last groups).draft := by
  have hparser := parseAll_groups groups [] _ (Nat.le_refl _)
  rw [List.nil_append] at hparser
  have hstart : ({ arguments := groups.flatMap OptionGroup.tokens } : ArgumentParser) =
      (Given.last []).parser (groups.flatMap OptionGroup.tokens) := rfl
  rw [parseCommandLine, ArgumentParser.parse, hstart, ← toOption_eq_some, toOption_bind]
  show (Option.bind (ArgumentParser.parseAll _ ((Given.last []).parser _)).toOption _) = some launch ↔ _
  have harguments : ((Given.last []).parser (groups.flatMap OptionGroup.tokens)).arguments =
    groups.flatMap OptionGroup.tokens := rfl
  rw [harguments, hparser]
  split
  · rename_i hread
    rw [Option.bind_some, toOption_eq_some, check_bind_ok]
    show validateOptions (Given.last groups).draft (Given.last groups).explicitOptions = .ok () ∧ _ ↔ _
    rw [validateOptions_ok]
    apply Iff.intro
    · rintro ⟨hrules, hlaunch⟩
      exact ⟨hread, hrules, (Except.ok.inj hlaunch).symm⟩
    · rintro ⟨_, hrules, hlaunch⟩
      exact ⟨hrules, congrArg Except.ok hlaunch.symm⟩
  · rename_i hread
    apply Iff.intro
    · intro h
      cases h
    · intro h
      exact absurd h.1 hread

/-- Whatever is accepted is a list of groups. -/
theorem parseCommandLine_grouped {arguments : List String} {launch : CommandLineOptions}
    (h : parseCommandLine arguments = .ok launch) :
    ∃ groups : List OptionGroup, arguments = groups.flatMap OptionGroup.tokens := by
  rw [parseCommandLine, ArgumentParser.parse] at h
  have hstart : ({ arguments := arguments } : ArgumentParser) = (Given.last []).parser arguments := rfl
  rw [hstart] at h
  cases hparser : ArgumentParser.parseAll arguments.length ((Given.last []).parser arguments) with
  | error message =>
      have h' : (ArgumentParser.parseAll arguments.length ((Given.last []).parser arguments) >>= _) =
        Except.ok launch := h
      rw [hparser] at h'
      cases h'
  | ok p => exact parseAll_ok (Nat.le_refl _) hparser

/-- An order of the same groups in which every option's own groups keep their order. -/
def Reordered (groups groups' : List OptionGroup) : Prop :=
  ∀ option, groups'.filter (fun group => group.option = option) =
    groups.filter (fun group => group.option = option)

theorem Reordered.mem_iff {groups groups' : List OptionGroup} (h : Reordered groups groups')
    (group : OptionGroup) : group ∈ groups' ↔ group ∈ groups := by
  have hmem : ∀ groups : List OptionGroup,
      group ∈ groups ↔ group ∈ groups.filter (fun other => other.option = group.option) := by
    intro groups
    simp
  rw [hmem groups', h group.option, ← hmem groups]

theorem Reordered.last_eq {groups groups' : List OptionGroup} (h : Reordered groups groups') :
    Given.last groups' = Given.last groups := by
  funext option
  rw [Given.last, Given.last, h option]

/-- An option that well-formed groups hold is given. -/
theorem Given.last_isSome {groups : List OptionGroup} (hread : ∀ group ∈ groups, group.value.isSome = true)
    (option : CliOption) :
    (Given.last groups option).isSome = true ↔ ∃ group ∈ groups, group.option = option := by
  rw [Given.last]
  cases hlast : (groups.filter fun group => group.option = option).getLast? with
  | none =>
      have hnil := List.getLast?_eq_none_iff.mp hlast
      apply Iff.intro
      · intro h
        cases h
      · rintro ⟨group, hmem, hoption⟩
        have hfiltered : group ∈ groups.filter (fun group => group.option = option) :=
          List.mem_filter.mpr ⟨hmem, decide_eq_true hoption⟩
        rw [hnil] at hfiltered
        cases hfiltered
  | some group =>
      obtain ⟨hmem, hoption⟩ := List.mem_filter.mp (List.mem_of_getLast? hlast)
      obtain rfl := of_decide_eq_true hoption
      rw [Option.bind_some]
      exact ⟨fun _ => ⟨group, hmem, rfl⟩, fun _ => hread group hmem⟩

/-- The parser accepts exactly the well-formed groups whose last values keep the rules. What it launches
holds the last value of every given option and the default of every other, it is a simulation if `--sitl`
is given, and it does not depend on the order of the options. -/
theorem parseCommandLine_exact (arguments : List String) :
    ((∃ launch, parseCommandLine arguments = .ok launch) ↔ ∃ groups : List OptionGroup,
      arguments = groups.flatMap OptionGroup.tokens ∧ (∀ group ∈ groups, group.value.isSome = true) ∧
        LaunchRules (Given.last groups).draft (Given.last groups).explicitOptions) ∧
    (∀ groups launch, arguments = groups.flatMap OptionGroup.tokens → parseCommandLine arguments = .ok launch →
      launch.Launches (Given.last groups) ∧
      ((∃ simulation, launch = .simulation simulation) ↔ ∃ group ∈ groups, group.option = .sitl)) ∧
    (∀ groups groups', arguments = groups.flatMap OptionGroup.tokens → Reordered groups groups' →
      (parseCommandLine (groups'.flatMap OptionGroup.tokens)).toOption = (parseCommandLine arguments).toOption) := by
  refine ⟨?_, ?_, ?_⟩
  · apply Iff.intro
    · rintro ⟨launch, h⟩
      obtain ⟨groups, rfl⟩ := parseCommandLine_grouped h
      obtain ⟨hread, hrules, _⟩ := (parseCommandLine_groups groups launch).mp h
      exact ⟨groups, rfl, hread, hrules⟩
    · rintro ⟨groups, rfl, hread, hrules⟩
      exact ⟨_, (parseCommandLine_groups groups _).mpr ⟨hread, hrules, rfl⟩⟩
  · rintro groups launch rfl h
    obtain ⟨hread, hrules, rfl⟩ := (parseCommandLine_groups groups launch).mp h
    refine ⟨makeCommandLineOptions_launches hrules, ?_⟩
    rw [← Given.last_isSome hread .sitl, makeCommandLineOptions]
    show _ ↔ (Given.last groups).draft.sitlMode = true
    cases (Given.last groups).draft.sitlMode <;> simp
  · rintro groups groups' rfl hreordered
    apply Option.ext
    intro launch
    rw [toOption_eq_some, toOption_eq_some, parseCommandLine_groups, parseCommandLine_groups, hreordered.last_eq]
    simp only [hreordered.mem_iff]

/-- Options in any order, one of them twice. -/
example : (parseCommandLine ["--camera-width", "320", "--json", "--camera", "--camera-width", "1280"]).toOption =
    (parseCommandLine ["--camera", "--camera-width", "320", "--camera-width", "1280", "--json"]).toOption := by
  rfl

end OnboardAutonomy
