import OnboardAutonomy.ConsoleText

/-! What the screen can do to the terminal that shows it. A control character can only reach the screen in a
word of a text that the screen is given, or by cutting such a word. -/

namespace OnboardAutonomy

open ConsoleView in
/-- A snapshot as the screen reads it. -/
def AppSnapshot.screen (snapshot : AppSnapshot) : ScreenSnapshot :=
  { vehicle := snapshot.vehicle
    companionHeartbeatActive := snapshot.companionHeartbeatActive
    companionLinkFailsafe :=
      { phase := snapshot.companionLinkFailsafe.phase
        detail := literal snapshot.companionLinkFailsafe.detail
        configuredGcsSystemId := snapshot.companionLinkFailsafe.configuredGcsSystemId
        timeoutS := snapshot.companionLinkFailsafe.timeoutS }
    telemetry := snapshot.telemetry
    camera := snapshot.camera.map fun camera =>
      { phase := camera.phase
        error := camera.error
        width := camera.width
        height := camera.height
        receivedFrames := camera.receivedFrames
        droppedBeforeProcessing := camera.droppedBeforeProcessing
        cameraRestarts := camera.cameraRestarts
        measuredFps := camera.measuredFps
        latestLatencyMs := camera.latestLatencyMs
        averageLatencyMs := camera.averageLatencyMs
        maximumLatencyMs := camera.maximumLatencyMs }
    vision := snapshot.vision.map fun vision =>
      { detector := vision.detector
        processedFrames := vision.processedFrames
        averageProcessingMs := vision.averageProcessingMs
        latestTargets := vision.latestTargets.map fun target =>
          { family := literal target.family
            center := target.center
            confidencePercent := target.confidencePercent } }
    elapsed := snapshot.elapsed
    txActivity := snapshot.txActivity.map fun activity =>
      { observedAt := activity.observedAt
        messageName := literal activity.messageName
        detail := literal activity.detail }
    rxActivity := snapshot.rxActivity.map fun activity =>
      { observedAt := activity.observedAt
        messageName := literal activity.messageName
        detail := literal activity.detail } }

namespace ConsoleView

open Wrapping ControlCharacters

/-- The words of a text at the start of a line, as the lines cut them, hold no control character. -/
def StartsClean (value : Bytes) : Prop :=
  ∀ word ∈ lineWords kContentWidth space (printable value), ¬HasControl word

/-- The words of a text behind a space, cut from their start where they are longer than a line, hold no
control character. -/
def ContinuesClean (value : Bytes) : Prop :=
  ∀ word ∈ words space (printable value), ∀ piece ∈ pieces kContentWidth word, ¬HasControl piece

theorem continuesClean_iff (value : Bytes) : ContinuesClean value ↔
    ∀ piece ∈ (words space (printable value)).flatMap (pieces kContentWidth), ¬HasControl piece := by
  rw [List.forall_mem_flatMap]
  rfl

theorem printable_append (before after : Bytes) :
    printable (before ++ after) = printable before ++ printable after :=
  List.map_append

theorem printable_space (value : Bytes) : printable (space :: value) = space :: printable value := rfl

theorem startsClean_append {before : Bytes} (after : Bytes) (hnonempty : before ≠ []) :
    StartsClean (before ++ space :: after) ↔ StartsClean before ∧ ContinuesClean after := by
  have hprintable : printable before ≠ [] := fun hnil => hnonempty (List.map_eq_nil_iff.mp hnil)
  rw [StartsClean, printable_append, printable_space, lineWords_append _ hprintable, List.forall_mem_append,
    continuesClean_iff]
  rfl

theorem continuesClean_append (before after : Bytes) :
    ContinuesClean (before ++ space :: after) ↔ ContinuesClean before ∧ ContinuesClean after := by
  rw [ContinuesClean, printable_append, printable_space, words_append, List.forall_mem_append]
  rfl

theorem Plain.startsClean {value : Bytes} (h : Plain value) : StartsClean value := by
  intro word hword
  rw [h.printable, ← wrap_words] at hword
  obtain ⟨line, hline, hword⟩ := List.mem_flatMap.mp hword
  apply not_hasControl_harmless
  intro byte hbyte
  exact h.harmless byte (mem_of_mem_wrap value line hline byte (mem_of_mem_words hword hbyte))

theorem Plain.continuesClean {value : Bytes} (h : Plain value) : ContinuesClean value := by
  have hstart : Plain (literal "!" ++ space :: value) :=
    plain_append.mpr ⟨by decide, List.forall_mem_cons.mpr ⟨by decide, h⟩⟩
  exact ((startsClean_append value (by decide)).mp hstart.startsClean).2

/-- Plain text behind a space makes no difference. -/
theorem startsClean_append_plain (value : Bytes) {after : Bytes} (h : Plain after) :
    StartsClean (value ++ space :: after) ↔ StartsClean value := by
  by_cases hnil : value = []
  · subst hnil
    have hplain : Plain (space :: after) := List.forall_mem_cons.mpr ⟨by decide, h⟩
    exact iff_of_true hplain.startsClean (Plain.startsClean (List.forall_mem_nil _))
  · rw [startsClean_append after hnil]
    exact and_iff_left h.continuesClean

theorem continuesClean_append_plain (value : Bytes) {after : Bytes} (h : Plain after) :
    ContinuesClean (value ++ space :: after) ↔ ContinuesClean value := by
  rw [continuesClean_append]
  exact and_iff_left h.continuesClean

/-- Behind plain text and a space a text continues. -/
theorem startsClean_plain_append {before : Bytes} (h : Plain before) (hnonempty : before ≠ []) (value : Bytes) :
    StartsClean (before ++ space :: value) ↔ ContinuesClean value := by
  rw [startsClean_append value hnonempty]
  exact and_iff_right h.startsClean

/-! ### The parts of the screen -/

theorem hasControl_lines (lines : List Bytes) :
    HasControl (lines.flatMap fun line => line ++ [newline]) ↔ ∃ line ∈ lines, HasControl line := by
  induction lines with
  | nil => exact iff_of_false not_hasControl_nil nofun
  | cons line lines ih =>
      rw [List.flatMap_cons, List.append_assoc, List.singleton_append,
        hasControl_append (by decide : Harmless newline), ih, List.exists_mem_cons_iff]

namespace ScreenPart

/-- A border is clean; a line is when its text is. -/
def Clean : ScreenPart → Prop
  | .border _ => True
  | .line value _ => StartsClean value

theorem hasControl_field (field : Bytes) :
    HasControl (literal "| " ++ field ++ literal " |") ↔ ∃ word ∈ words space field, HasControl word := by
  have hleft : Plain (literal "| ") := by decide
  have hright : Plain (literal " |") := by decide
  rw [hasControl_append_harmless hright.harmless, hasControl_harmless_append hleft.harmless,
    hasControl_words (by decide : Harmless space)]

/-- The lines of a part hold a control character when its text is not clean. -/
theorem hasControl_iff {part : ScreenPart} (h : part.WellFormed) :
    (∃ line ∈ part.lines, HasControl line) ↔ ¬part.Clean := by
  cases part with
  | border title =>
      refine iff_of_false ?_ fun hdirty => hdirty trivial
      rintro ⟨line, hline, hcontrol⟩
      rw [List.mem_singleton.mp hline] at hcontrol
      exact not_hasControl_harmless (border_plain h.1).harmless hcontrol
  | line value tone =>
      have hdirty : ¬(ScreenPart.line value tone).Clean ↔
          ∃ word ∈ (contentFields value).flatMap (words space), HasControl word := by
        rw [contentFields_words]
        simp only [Clean, StartsClean, not_forall, not_not, exists_prop]
      rw [hdirty]
      constructor
      · rintro ⟨line, hline, hcontrol⟩
        obtain ⟨field, hfield, rfl⟩ := List.mem_map.mp hline
        obtain ⟨word, hword, hcontrol⟩ := (hasControl_field field).mp hcontrol
        exact ⟨word, List.mem_flatMap.mpr ⟨field, hfield, hword⟩, hcontrol⟩
      · rintro ⟨word, hword, hcontrol⟩
        obtain ⟨field, hfield, hword⟩ := List.mem_flatMap.mp hword
        exact ⟨_, List.mem_map_of_mem hfield, (hasControl_field field).mpr ⟨word, hword, hcontrol⟩⟩

end ScreenPart

/-- The screen holds no control character when every part of it is clean. -/
theorem not_hasControl_iff (snapshot : ScreenSnapshot) (transportDescription : Bytes) (interactiveInput : Bool)
    (resolver : Option BoardTypeResolver) :
    ¬HasControl (renderConsole snapshot transportDescription ⟨false, interactiveInput⟩ resolver) ↔
      ∀ part ∈ screenParts snapshot transportDescription interactiveInput resolver, part.Clean := by
  have hparts := screenParts_wellFormed snapshot transportDescription interactiveInput resolver
  rw [renderConsole_lines, hasControl_lines]
  constructor
  · intro hnone part hpart
    by_contra hdirty
    obtain ⟨line, hline, hcontrol⟩ := (ScreenPart.hasControl_iff (hparts part hpart)).mpr hdirty
    exact hnone ⟨line, List.mem_flatMap.mpr ⟨part, hpart, hline⟩, hcontrol⟩
  · rintro hclean ⟨line, hline, hcontrol⟩
    obtain ⟨part, hpart, hline⟩ := List.mem_flatMap.mp hline
    exact (ScreenPart.hasControl_iff (hparts part hpart)).mp ⟨line, hline, hcontrol⟩ (hclean part hpart)

/-! ### The texts of the screen -/

theorem forall_mem_none {β : Type} {P : β → Prop} : ∀ x ∈ (none : Option β), P x := fun _ hmem =>
  absurd hmem (Option.not_mem_none _)

theorem forall_mem_some {β : Type} {P : β → Prop} {x : β} : (∀ y ∈ some x, P y) ↔ P x := by
  simp only [Option.mem_some_iff, forall_eq']

/-- Plain text that begins with a space makes no difference at the end of a text. -/
theorem startsClean_before {value after : Bytes} (h : Plain after) (hhead : after.head? = some space) :
    StartsClean (value ++ after) ↔ StartsClean value := by
  obtain ⟨rest, rfl⟩ := List.head?_eq_some_iff.mp hhead
  exact startsClean_append_plain value (List.forall_mem_cons.mp h).2

theorem continuesClean_before {value after : Bytes} (h : Plain after) (hhead : after.head? = some space) :
    ContinuesClean (value ++ after) ↔ ContinuesClean value := by
  obtain ⟨rest, rfl⟩ := List.head?_eq_some_iff.mp hhead
  exact continuesClean_append_plain value (List.forall_mem_cons.mp h).2

/-- The name of the board that the screen is given, if it shows one. -/
def shownBoardName (vehicle : VehicleSnapshot) (resolver : Option BoardTypeResolver) : Option Bytes :=
  match vehicle.connected, vehicle.autopilotMetadata with
  | true, some metadata =>
      if metadata.boardVersion = 0 then none
      else (resolveBoardType metadata.boardVersion resolver).map BoardTypeMatch.preferredName
  | _, _ => none

theorem boardDetail_clean (vehicle : VehicleSnapshot) (resolver : Option BoardTypeResolver) :
    StartsClean (boardDetail vehicle resolver) ↔ ∀ name ∈ shownBoardName vehicle resolver, StartsClean name := by
  have hwaiting : Plain (literal "BOARD WAITING") := by decide
  have hunreported : Plain (literal "BOARD UNREPORTED") := by decide
  unfold boardDetail shownBoardName
  cases vehicle.connected with
  | false => exact iff_of_true hwaiting.startsClean forall_mem_none
  | true =>
      cases vehicle.autopilotMetadata with
      | none => exact iff_of_true hwaiting.startsClean forall_mem_none
      | some metadata =>
          by_cases hversion : metadata.boardVersion = 0
          · simp only [if_pos hversion]
            exact iff_of_true hunreported.startsClean forall_mem_none
          · have hnumber : Plain (literal
                ("BOARD TYPE " ++ toString (boardTypeId metadata.boardVersion).toNat)) :=
              plain_joined (by decide) (plain_nat _)
            simp only [if_neg hversion]
            rw [startsClean_before (boardNumbers_plain _ resolver) (boardNumbers_head _ _), boardTypeName]
            cases resolveBoardType metadata.boardVersion resolver with
            | none => exact iff_of_true hnumber.startsClean forall_mem_none
            | some found => exact forall_mem_some.symm

theorem companionLinkFailsafeDetail_clean (failsafe : ScreenFailsafe) :
    StartsClean (companionLinkFailsafeDetail failsafe) ↔
      (failsafe.accepted = false → ContinuesClean failsafe.detail) := by
  have hprogram : Plain (literal "LINK FAILSAFE /") := by decide
  cases haccepted : failsafe.accepted with
  | false =>
      have htext : companionLinkFailsafeDetail failsafe =
          literal "LINK FAILSAFE /" ++ space :: failsafe.detail := by
        rw [companionLinkFailsafeDetail, haccepted]
        rfl
      rw [htext, startsClean_plain_append hprogram (by decide)]
      exact ⟨fun h _ => h, fun h => h rfl⟩
  | true => exact iff_of_true (failsafeReady_plain haccepted).startsClean fun h => Bool.noConfusion h

theorem cameraLatencyDetail_clean (camera : ScreenCamera) :
    StartsClean (cameraLatencyDetail camera) ↔ StartsClean camera.error := by
  have hempty : Plain [] := List.forall_mem_nil _
  cases herror : camera.error with
  | nil => exact iff_of_true (cameraLatency_plain herror).startsClean hempty.startsClean
  | cons byte error =>
      rw [cameraLatencyDetail, herror]
      exact Iff.rfl

theorem visionPipelineDetail_clean (vision : ScreenVision) :
    StartsClean (visionPipelineDetail vision) ↔ ContinuesClean vision.detector := by
  have hvision : Plain (literal "VISION") := by decide
  have htext : visionPipelineDetail vision =
      literal "VISION" ++ space :: (vision.detector ++ literal (visionNumbers vision)) := by
    rw [visionPipelineDetail, List.append_assoc]
    rfl
  rw [htext, startsClean_plain_append hvision (by decide),
    continuesClean_before (visionNumbers_plain vision) (visionNumbers_head vision)]

theorem visionTargetDetail_clean (vision : ScreenVision) :
    StartsClean (visionTargetDetail vision) ↔
      ∀ target ∈ vision.latestTargets.head?, StartsClean target.family := by
  have hnone : Plain (literal "NO OBJECT DETECTED") := by decide
  unfold visionTargetDetail
  cases vision.latestTargets with
  | nil => exact iff_of_true hnone.startsClean forall_mem_none
  | cons target targets =>
      refine (startsClean_before (targetNumbers_plain target _) (targetNumbers_head target _)).trans ?_
      exact (forall_mem_some (P := fun shown : ScreenTarget => StartsClean shown.family)).symm

/-- The name of an activity as it is shown: a colon follows it when there is a detail. -/
def shownName (activity : ScreenActivity) : Bytes :=
  if activity.detail.isEmpty then activity.messageName else activity.messageName ++ literal ":"

structure ActivityClean (activity : ScreenActivity) : Prop where
  name : ContinuesClean (shownName activity)
  detail : ContinuesClean activity.detail

theorem activityDetail_clean {direction : String} (h : Plain (literal direction))
    (activity : Option ScreenActivity) (elapsed : Int) :
    StartsClean (activityDetail direction activity elapsed) ↔ ∀ shown ∈ activity, ActivityClean shown := by
  have hfront : Plain (literal direction ++ [space]) := plain_append.mpr ⟨h, by decide⟩
  cases activity with
  | none =>
      have hwaiting : Plain (literal (direction ++ "  WAITING FOR FIRST FRAME")) := plain_joined h (by decide)
      exact iff_of_true hwaiting.startsClean forall_mem_none
  | some activity =>
      have hage := activityAge_plain activity elapsed
      have hhead := activityAge_head activity elapsed
      refine Iff.trans ?_ forall_mem_some.symm
      have htext : activityDetail direction (some activity) elapsed = (literal direction ++ [space]) ++ space ::
          (activity.messageName ++ ((if activity.detail.isEmpty then [] else literal ": " ++ activity.detail) ++
            literal (activityAge activity elapsed))) := by
        simp only [activityDetail, literal_append, List.append_assoc]
        rfl
      rw [htext, startsClean_plain_append hfront (List.append_ne_nil_of_right_ne_nil _ (List.cons_ne_nil _ _))]
      have hclean : ActivityClean activity ↔
          ContinuesClean (shownName activity) ∧ ContinuesClean activity.detail :=
        ⟨fun h => ⟨h.name, h.detail⟩, fun h => ⟨h.1, h.2⟩⟩
      rw [hclean, shownName]
      cases activity.detail with
      | nil =>
          simp only [List.isEmpty_nil, if_true, List.nil_append]
          rw [continuesClean_before hage hhead]
          have hempty : Plain [] := by decide
          exact (and_iff_left hempty.continuesClean).symm
      | cons byte detail =>
          have hsplit : activity.messageName ++ (literal ": " ++ byte :: detail ++
              literal (activityAge activity elapsed)) = (activity.messageName ++ literal ":") ++
                space :: (byte :: detail ++ literal (activityAge activity elapsed)) := by
            simp only [List.append_assoc]
            rfl
          simp only [List.isEmpty_cons, Bool.false_eq_true, if_false]
          rw [hsplit, continuesClean_append, continuesClean_before hage hhead]

/-! ### The whole screen -/

/-- What the screen is given holds no control character where it is shown, as the lines cut it. -/
structure GivenClean (snapshot : ScreenSnapshot) (transportDescription : Bytes)
    (resolver : Option BoardTypeResolver) : Prop where
  transport : ContinuesClean transportDescription
  board : ∀ name ∈ shownBoardName snapshot.vehicle resolver, StartsClean name
  failsafe : snapshot.companionLinkFailsafe.accepted = false →
    ContinuesClean snapshot.companionLinkFailsafe.detail
  warnings : ∀ warning ∈ snapshot.vehicle.warnings, ContinuesClean warning
  cameraError : ∀ camera ∈ snapshot.camera, StartsClean camera.error
  detector : ∀ vision ∈ snapshot.vision, ContinuesClean vision.detector
  target : ∀ vision ∈ snapshot.vision, ∀ target ∈ vision.latestTargets.head?, StartsClean target.family
  txActivity : ∀ activity ∈ snapshot.txActivity, ActivityClean activity
  rxActivity : ∀ activity ∈ snapshot.rxActivity, ActivityClean activity

theorem writeVehicle_clean (vehicle : VehicleSnapshot) (resolver : Option BoardTypeResolver) :
    (∀ part ∈ writeVehicle vehicle resolver, part.Clean) ↔
      ∀ name ∈ shownBoardName vehicle resolver, StartsClean name := by
  rw [← boardDetail_clean]
  have hmode : Plain (literal ("MODE " ++ flightModeName vehicle.flightMode ++ " / " ++
      (if vehicle.connected then (if vehicle.armed then "ARMED" else "DISARMED") else "ARM STATE UNKNOWN") ++
      "   |   ALT " ++ altitudeDetail vehicle)) := by
    refine plain_joined (plain_joined (plain_joined (plain_joined (plain_joined (by decide)
      (flightModeName_plain _)) (by decide)) ?_) (by decide)) (altitudeDetail_plain vehicle)
    split
    · split <;> decide
    · decide
  have hgps : Plain (literal ("GPS " ++ gpsDetail vehicle ++ "   |   BAT " ++ batteryDetail vehicle)) :=
    plain_joined (plain_joined (plain_joined (by decide) (gpsDetail_plain vehicle)) (by decide))
      (batteryDetail_plain vehicle)
  have hfirmware : Plain (literal ("FC " ++ autopilotName vehicle.autopilotType ++ "   |   " ++
      firmwareDetail vehicle)) :=
    plain_joined (plain_joined (plain_joined (by decide) (autopilotName_plain _)) (by decide))
      (firmwareDetail_plain vehicle)
  simp only [writeVehicle, List.forall_mem_cons]
  exact ⟨fun h => h.2.2.2.2.1,
    fun h => ⟨trivial, hmode.startsClean, hgps.startsClean, hfirmware.startsClean, h, List.forall_mem_nil _⟩⟩

theorem writeHealth_clean (snapshot : ScreenSnapshot) :
    (∀ part ∈ writeHealth snapshot, part.Clean) ↔
      (snapshot.companionLinkFailsafe.accepted = false →
        ContinuesClean snapshot.companionLinkFailsafe.detail) ∧
      ∀ warning ∈ snapshot.vehicle.warnings, ContinuesClean warning := by
  have htelemetry : Plain (literal (telemetryDetail snapshot.telemetry ++ "   |   COMPANION HEARTBEAT " ++
      if snapshot.companionHeartbeatActive then "ON" else "WAITING")) := by
    refine plain_joined (plain_joined (telemetryDetail_plain _) (by decide)) ?_
    split <;> decide
  have hexclamation : Plain (literal "!") := by decide
  have hquiet : Plain (literal
      (if snapshot.vehicle.connected then "NO ACTIVE WARNINGS" else "WARNINGS AVAILABLE AFTER CONNECTION")) := by
    split <;> decide
  have hwarning : ∀ warning, (ScreenPart.line (literal "! " ++ warning) .bad).Clean ↔ ContinuesClean warning :=
    fun warning => startsClean_plain_append hexclamation (by decide) warning
  simp only [writeHealth, List.forall_mem_append, List.forall_mem_cons, List.forall_mem_map]
  constructor
  · rintro ⟨⟨⟨-, -, hfailsafe, -⟩, -⟩, hwarnings⟩
    exact ⟨(companionLinkFailsafeDetail_clean _).mp hfailsafe,
      fun warning hmem => (hwarning warning).mp (hwarnings warning hmem)⟩
  · rintro ⟨hfailsafe, hwarnings⟩
    have hnil : ∀ part ∈ ([] : List ScreenPart), part.Clean := List.forall_mem_nil _
    have hdetail := (companionLinkFailsafeDetail_clean _).mpr hfailsafe
    refine ⟨⟨⟨trivial, htelemetry.startsClean, hdetail, hnil⟩, ?_⟩,
      fun warning hmem => (hwarning warning).mpr (hwarnings warning hmem)⟩
    split
    · exact List.forall_mem_singleton.mpr hquiet.startsClean
    · exact List.forall_mem_nil _

theorem writeCameraAndVision_clean (snapshot : ScreenSnapshot) :
    (∀ part ∈ writeCameraAndVision snapshot, part.Clean) ↔
      (∀ camera ∈ snapshot.camera, StartsClean camera.error) ∧
      (∀ vision ∈ snapshot.vision, ContinuesClean vision.detector) ∧
      ∀ vision ∈ snapshot.vision, ∀ target ∈ vision.latestTargets.head?, StartsClean target.family := by
  have hcamera : ∀ camera : Option ScreenCamera,
      (∀ part ∈ camera.elim [] fun camera =>
        [ScreenPart.line (literal (cameraStreamDetail camera)) (cameraTone camera),
          .line (cameraLatencyDetail camera) (cameraTone camera)], part.Clean) ↔
        ∀ shown ∈ camera, StartsClean shown.error := by
    rintro (_ | camera)
    · exact iff_of_true (List.forall_mem_nil _) forall_mem_none
    · refine Iff.trans ?_ (forall_mem_some (P := fun shown : ScreenCamera => StartsClean shown.error)).symm
      rw [← cameraLatencyDetail_clean]
      simp only [Option.elim_some, List.forall_mem_cons]
      exact ⟨fun h => h.2.1, fun h => ⟨(cameraStreamDetail_plain camera).startsClean, h, List.forall_mem_nil _⟩⟩
  have hvision : ∀ vision : Option ScreenVision,
      (∀ part ∈ vision.elim [] fun vision =>
        [ScreenPart.line (visionPipelineDetail vision) .accent,
          .line (visionTargetDetail vision) (visionTargetTone vision)], part.Clean) ↔
        (∀ shown ∈ vision, ContinuesClean shown.detector) ∧
          ∀ shown ∈ vision, ∀ target ∈ shown.latestTargets.head?, StartsClean target.family := by
    rintro (_ | vision)
    · exact iff_of_true (List.forall_mem_nil _) ⟨forall_mem_none, forall_mem_none⟩
    · simp only [forall_mem_some, ← visionPipelineDetail_clean, ← visionTargetDetail_clean, Option.elim_some,
        List.forall_mem_cons]
      exact ⟨fun h => ⟨h.1, h.2.1⟩, fun h => ⟨h.1, h.2, List.forall_mem_nil _⟩⟩
  rw [← hcamera, ← hvision]
  unfold writeCameraAndVision
  split
  · rename_i hneither
    rw [Bool.and_eq_true, Option.isNone_iff_eq_none, Option.isNone_iff_eq_none] at hneither
    rw [hneither.1, hneither.2]
    exact iff_of_true (List.forall_mem_nil _) ⟨List.forall_mem_nil _, List.forall_mem_nil _⟩
  · rw [List.forall_mem_append, List.forall_mem_append]
    exact ⟨fun h => ⟨h.1.2, h.2⟩, fun h => ⟨⟨List.forall_mem_singleton.mpr trivial, h.1⟩, h.2⟩⟩

theorem screenParts_clean (snapshot : ScreenSnapshot) (transportDescription : Bytes) (interactiveInput : Bool)
    (resolver : Option BoardTypeResolver) :
    (∀ part ∈ screenParts snapshot transportDescription interactiveInput resolver, part.Clean) ↔
      GivenClean snapshot transportDescription resolver := by
  have hstatus : Plain (literal ("ONBOARD AUTONOMY   [ " ++ overallStatus snapshot ++ " ]")) :=
    plain_joined (plain_joined (by decide) (overallStatus_plain snapshot)) (by decide)
  have hlink : StartsClean (literal ("LINK " ++ (if snapshot.vehicle.connected then "ONLINE" else "WAITING") ++
      "   ") ++ transportDescription) ↔ ContinuesClean transportDescription := by
    cases snapshot.vehicle.connected
    · exact startsClean_plain_append (by decide : Plain (literal "LINK WAITING  ")) (by decide) _
    · exact startsClean_plain_append (by decide : Plain (literal "LINK ONLINE  ")) (by decide) _
  have htx := activityDetail_clean (by decide : Plain (literal "TX")) snapshot.txActivity snapshot.elapsed
  have hrx := activityDetail_clean (by decide : Plain (literal "RX")) snapshot.rxActivity snapshot.elapsed
  have hcontrols : ∀ part ∈ writeControls interactiveInput, part.Clean := by
    refine List.forall_mem_cons.mpr ⟨trivial, List.forall_mem_singleton.mpr ?_⟩
    split
    · exact (by decide : Plain (literal "LIVE VIEW   |   Ctrl+C exit")).startsClean
    · exact (by decide : Plain (literal "[Q] QUIT   |   OBSERVATION ONLY")).startsClean
  simp only [screenParts, List.forall_mem_append, List.forall_mem_cons, writeVehicle_clean, writeHealth_clean,
    writeCameraAndVision_clean]
  constructor
  · rintro ⟨⟨⟨⟨⟨⟨⟨-, -, htransport, -⟩, hboard⟩, hfailsafe, hwarnings⟩, hcamera, hdetector, htarget⟩, -, hsent,
      hreceived, -⟩, -⟩, -⟩
    exact ⟨hlink.mp htransport, hboard, hfailsafe, hwarnings, hcamera, hdetector, htarget, htx.mp hsent,
      hrx.mp hreceived⟩
  · rintro ⟨htransport, hboard, hfailsafe, hwarnings, hcamera, hdetector, htarget, hsent, hreceived⟩
    have hnil : ∀ part ∈ ([] : List ScreenPart), part.Clean := List.forall_mem_nil _
    exact ⟨⟨⟨⟨⟨⟨⟨trivial, hstatus.startsClean, hlink.mpr htransport, hnil⟩, hboard⟩, hfailsafe, hwarnings⟩,
      hcamera, hdetector, htarget⟩, trivial, htx.mpr hsent, hrx.mpr hreceived, hnil⟩, hcontrols⟩, trivial, hnil⟩

/-- The screen without colour is free of control characters, newlines apart, exactly when what it is given
is clean where it is shown: the sanitising replaces bytes below 128 only, and a line may end in the middle of
the encoding of a character. -/
theorem terminal_safe_iff (snapshot : ScreenSnapshot) (transportDescription : Bytes) (interactiveInput : Bool)
    (resolver : Option BoardTypeResolver) :
    ¬HasControl (renderConsole snapshot transportDescription ⟨false, interactiveInput⟩ resolver) ↔
      GivenClean snapshot transportDescription resolver := by
  calc ¬HasControl (renderConsole snapshot transportDescription ⟨false, interactiveInput⟩ resolver)
    _ ↔ ∀ part ∈ screenParts snapshot transportDescription interactiveInput resolver, part.Clean :=
        not_hasControl_iff snapshot transportDescription interactiveInput resolver
    _ ↔ GivenClean snapshot transportDescription resolver :=
        screenParts_clean snapshot transportDescription interactiveInput resolver

/-- A vehicle that warns with the one-character CSI. -/
def csiSnapshot : AppSnapshot :=
  { vehicle := { connected := true, warnings := [[0x9B]] }
    companionHeartbeatActive := false
    companionLinkFailsafe := {}
    telemetry :=
      { state := .waitingForVehicle
        completedRequests := 0
        totalRequests := 0
        currentStream := ""
        attempt := 0
        failureResult := none }
    simulatedWind := none
    camera := none
    vision := none
    linkEvents := []
    elapsed := 0
    txActivity := none
    rxActivity := none }

theorem csiSnapshot_hasControl : HasControl (renderConsole csiSnapshot.screen [] ⟨false, false⟩ none) := by
  by_contra hnone
  have hclean := ((screenParts_clean _ _ _ _).mp ((not_hasControl_iff _ _ _ _).mp hnone)).warnings [0x9B]
    List.mem_cons_self
  have hword : words space (printable [0x9B]) = [[0x9B]] := words_of_free (by decide) (by decide)
  refine hclean [0x9B] ?_ [0x9B] ?_ (hasControl_byte (by decide) (by decide))
  · rw [hword]
    exact List.mem_singleton.mpr rfl
  · rw [pieces_short (by decide)]
    exact List.mem_singleton.mpr rfl

end ConsoleView
end OnboardAutonomy
