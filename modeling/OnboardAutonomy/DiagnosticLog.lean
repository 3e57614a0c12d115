import OnboardAutonomy.Attempts
import OnboardAutonomy.JsonDiagnostics
import OnboardAutonomy.Lines

/-! The diagnostic log as a file of lines: what the sink has written can be read back line by line, and however
the file was cut off, its complete lines are the first records. -/

namespace OnboardAutonomy

open Json

namespace SnapshotJson

/-! ### The names in a record -/

@[simp] theorem differ_optional {α : Type} {number : α → Json}
    (hnumber : ∀ value, Everywhere NamesDiffer (number value)) (value : Option α) :
    Everywhere NamesDiffer (optional number value) := by
  cases value with
  | none => exact differ_null
  | some value => exact hnumber value

theorem differ_camera (camera : Option CameraSnapshot) : Everywhere NamesDiffer (cameraJson camera) := by
  cases camera with
  | none => exact differ_null
  | some camera => exact differ_object.mpr ⟨by simp, by simp⟩

theorem differ_target (target : TargetObservation) : Everywhere NamesDiffer (targetJson target) :=
  differ_object.mpr ⟨by simp, by simp⟩

theorem differ_vision (vision : Option VisionSnapshot) : Everywhere NamesDiffer (visionJson vision) := by
  cases vision with
  | none => exact differ_null
  | some vision => exact differ_object.mpr ⟨by simp, by simp [differ_array, differ_target]⟩

theorem differ_linkEvent (event : LinkEvent) : Everywhere NamesDiffer (linkEventJson event) :=
  differ_object.mpr ⟨by simp, by simp⟩

theorem differ_linkActivity (activity : Option LinkActivity) :
    Everywhere NamesDiffer (linkActivityJson activity) := by
  cases activity with
  | none => exact differ_null
  | some activity => exact differ_object.mpr ⟨by simp, by simp⟩

theorem differ_telemetry (telemetry : TelemetryStatus) : Everywhere NamesDiffer (telemetryJson telemetry) :=
  differ_object.mpr ⟨by simp, by simp⟩

theorem differ_simulatedWind (wind : Option SimulatedWindProfile) :
    Everywhere NamesDiffer (simulatedWindJson wind) := by
  cases wind with
  | none => exact differ_null
  | some wind => exact differ_object.mpr ⟨by simp, by simp⟩

theorem differ_failsafe (failsafe : CompanionLinkFailsafeSnapshot) :
    Everywhere NamesDiffer (failsafeJson failsafe) :=
  differ_object.mpr ⟨by simp, by simp⟩

theorem differ_snapshot (snapshot : AppSnapshot) (recordedAtUnixMs : Int) :
    Everywhere NamesDiffer (snapshotJson snapshot recordedAtUnixMs) := by
  refine differ_object.mpr ⟨?_, ?_⟩
  · simp only [vehicleFields, List.cons_append, List.nil_append, List.map_cons, List.map_nil]
    decide +kernel
  · refine List.forall_mem_append.mpr ⟨by simp [vehicleFields, differ_array], ?_⟩
    simp [differ_array, differ_camera, differ_vision, differ_linkEvent, differ_linkActivity, differ_telemetry,
      differ_simulatedWind, differ_failsafe]

end SnapshotJson

theorem differ_event (name : String) (recordedAtMs elapsed : Int) (detail : Bytes) {context : Json}
    (hcontext : Everywhere NamesDiffer context) :
    Everywhere NamesDiffer (eventJson name recordedAtMs elapsed detail context) :=
  differ_object.mpr ⟨by simp, by simp [hcontext]⟩

theorem differ_call (call : Delivery) (recordedAtMs : Int) : Everywhere NamesDiffer (callJson call recordedAtMs) := by
  cases call with
  | linkEvent linkEvent => exact differ_event _ _ _ _ (SnapshotJson.differ_linkEvent linkEvent)
  | failsafeTransition previous current elapsed =>
      exact differ_event _ _ _ _ (differ_object.mpr ⟨by simp, by simp⟩)

theorem differ_transition (previous : Option AppSnapshot) (snapshot : AppSnapshot) (recordedAtMs : Int) :
    ∀ record ∈ transitionJson previous snapshot recordedAtMs, Everywhere NamesDiffer record := by
  have hempty : Everywhere NamesDiffer (.object []) := differ_object.mpr ⟨by simp, by simp⟩
  unfold transitionJson
  split
  · exact List.forall_mem_singleton.mpr (differ_event _ _ _ _ (differ_object.mpr ⟨by simp, by simp⟩))
  · refine List.forall_mem_append.mpr ⟨?_, ?_⟩
    · split
      · exact List.forall_mem_singleton.mpr (differ_event _ _ _ _ hempty)
      · exact List.forall_mem_nil _
    · split
      · exact List.forall_mem_singleton.mpr (differ_event _ _ _ _ hempty)
      · exact List.forall_mem_nil _

/-! ### The numbers in a record -/

/-- A number that the program can hold: an integer of 64 bits, signed or not, or a double. -/
def MachineNumber : Json → Prop
  | .integer value => -2 ^ 63 ≤ value ∧ value < 2 ^ 64
  | .number (.finite value) => Binary64.nearest value = value
  | _ => True

instance : DecidablePred MachineNumber
  | .integer value => inferInstanceAs (Decidable (-2 ^ 63 ≤ value ∧ value < 2 ^ 64))
  | .number (.finite value) => inferInstanceAs (Decidable (Binary64.nearest value = value))
  | .null => .isTrue trivial
  | .boolean _ => .isTrue trivial
  | .number .posInf => .isTrue trivial
  | .number .negInf => .isTrue trivial
  | .number .nan => .isTrue trivial
  | .string _ => .isTrue trivial
  | .array _ => .isTrue trivial
  | .object _ => .isTrue trivial

/-- Decimal numerals keep them all. -/
theorem numberKept_decimals : (json : Json) → Everywhere MachineNumber json → Everywhere (NumberKept decimals) json := by
  refine Everywhere.mono fun json h => ?_
  cases json with
  | integer value => trivial
  | number value =>
      cases value with
      | finite value => exact h
      | _ => trivial
  | _ => trivial

namespace CompanionRunner

variable {ω : Type} {port : OutboundPort ω}

/-- A record names each of its fields once. -/
theorem differ_records (events : List RunnerEvent) : ∀ (a : CompanionApplication ω) (previous : Option AppSnapshot),
    ∀ record ∈ runRecords port a previous events, Everywhere NamesDiffer record := by
  induction events with
  | nil => exact fun _ _ => List.forall_mem_nil _
  | cons event events ih =>
      intro a previous
      refine List.forall_mem_append.mpr ⟨?_, ih _ _⟩
      cases event with
      | poll cameraNow now messages recordedAt =>
          intro record hmem
          obtain ⟨n, hn, rfl⟩ := List.mem_mapIdx.mp hmem
          exact differ_call _ _
      | publish now camera vision recordedAtMs =>
          exact List.forall_mem_cons.mpr ⟨SnapshotJson.differ_snapshot _ _, differ_transition _ _ _⟩

variable {printer : Json.Printer} {r r' : CompanionRunner ω}

/-- A heartbeat, and a publication one second later. -/
def connectedEvents : List RunnerEvent :=
  [.poll 0 0 [⟨1, 1, .heartbeat ⟨2, 3, 0, 0, 4⟩⟩] fun _ => 0, .publish (seconds 1) none none 1000]

def connectedStart : CompanionRunner Unit := { application := .start () none [some kDiagnosticSink] }

end CompanionRunner

end OnboardAutonomy
