import OnboardAutonomy.AppSnapshot
import OnboardAutonomy.Json

/-! `SnapshotJson`: the record of an `AppSnapshot`. The texts in it that do not come from the program decide
whether the record can be printed. -/

namespace OnboardAutonomy

def companionLinkFailsafePhaseName : CompanionLinkFailsafePhase → String
  | .waitingForVehicle => "waiting_for_vehicle"
  | .readingParameters => "reading_parameters"
  | .accepted => "accepted"
  | .rejected => "rejected"

def ardupilotGcsFailsafeActionName : ArduPilotGcsFailsafeAction → String
  | .disabled => "disabled"
  | .rtl => "rtl"
  | .removedContinueMission => "removed_continue_mission"
  | .smartRtlOrRtl => "smart_rtl_or_rtl"
  | .smartRtlOrLand => "smart_rtl_or_land"
  | .land => "land"
  | .autoLandStartOrRtl => "auto_land_start_or_rtl"
  | .brakeOrLand => "brake_or_land"

def cameraPhaseName : CameraSourcePhase → String
  | .starting => "starting"
  | .streaming => "streaming"
  | .reconnecting => "reconnecting"
  | .stopped => "stopped"
  | .failed => "failed"

def telemetryStateName : TelemetrySetupState → String
  | .waitingForVehicle => "waiting_for_vehicle"
  | .configuring => "configuring"
  | .active => "active"
  | .failed => "failed"

def linkDirectionName : LinkEventDirection → String
  | .outbound => "outbound"
  | .inbound => "inbound"

def linkStatusName : LinkEventStatus → String
  | .neutral => "neutral"
  | .pending => "pending"
  | .success => "success"
  | .warning => "warning"
  | .failure => "failure"

namespace SnapshotJson

/-- `optional_number`, `optional_byte` and the like: a number, or null. -/
def optional {α : Type} (number : α → Json) (value : Option α) : Json := value.elim .null number

/-- The fields of `vehicle_json`. -/
def vehicleFields (vehicle : VehicleSnapshot) : List (String × Json) :=
  let metadata := vehicle.autopilotMetadata
  [("connected", .boolean vehicle.connected),
    ("gps_ready", .boolean vehicle.gpsReady),
    ("navigation_ready", .boolean vehicle.navigationReady),
    ("battery_ready", .boolean vehicle.batteryReady),
    ("system_health_known", .boolean vehicle.systemHealthKnown),
    ("system_health_ok", .boolean vehicle.systemHealthOk),
    ("armable", .boolean vehicle.armable),
    ("armed", .boolean vehicle.armed),
    ("system_id", optional (.integer ·.toNat) vehicle.systemId),
    ("component_id", optional (.integer ·.toNat) vehicle.componentId),
    ("vehicle_type", optional (.integer ·.toNat) vehicle.vehicleType),
    ("autopilot_type", optional (.integer ·.toNat) vehicle.autopilotType),
    ("system_status", optional (.integer ·.toNat) vehicle.systemStatus),
    ("flight_mode", optional (.integer ·.toNat) vehicle.flightMode),
    ("gps_fix_type", optional (.integer ·.toNat) vehicle.gpsFixType),
    ("satellites_visible", optional (.integer ·.toNat) vehicle.satellitesVisible),
    ("relative_altitude_m", optional .number vehicle.relativeAltitudeM),
    ("local_north_m", optional .number vehicle.localNorthM),
    ("local_east_m", optional .number vehicle.localEastM),
    ("local_down_m", optional .number vehicle.localDownM),
    ("roll_rad", optional .number vehicle.rollRad),
    ("pitch_rad", optional .number vehicle.pitchRad),
    ("yaw_rad", optional .number vehicle.yawRad),
    ("yaw_rate_rad_per_second", optional .number vehicle.yawRateRadPerSecond),
    ("battery_voltage_v", optional .number vehicle.batteryVoltageV),
    ("battery_current_a", optional .number vehicle.batteryCurrentA),
    ("battery_remaining_pct", optional (.integer ·.toInt) vehicle.batteryRemainingPct),
    ("battery_arming_voltage_v", optional .number vehicle.batteryArmingVoltageV),
    ("warnings", .array (vehicle.warnings.map .string)),
    ("firmware_major", optional (.integer ·.firmwareMajor.toNat) metadata),
    ("firmware_minor", optional (.integer ·.firmwareMinor.toNat) metadata),
    ("firmware_patch", optional (.integer ·.firmwarePatch.toNat) metadata),
    ("firmware_release_type", optional (.integer ·.firmwareReleaseType.toNat) metadata),
    ("autopilot_capabilities", optional (.integer ·.capabilities.toNat) metadata),
    ("board_version", optional (.integer ·.boardVersion.toNat) metadata),
    ("board_vendor_id", optional (.integer ·.vendorId.toNat) metadata),
    ("board_product_id", optional (.integer ·.productId.toNat) metadata)]

def cameraJson (camera : Option CameraSnapshot) : Json :=
  match camera with
  | none => .null
  | some camera =>
      .object
        [("phase", .text (cameraPhaseName camera.phase)),
          ("source", .string camera.source),
          ("error", .string camera.error),
          ("width", .integer camera.width.toNat),
          ("height", .integer camera.height.toNat),
          ("received_frames", .integer camera.receivedFrames.toNat),
          ("dropped_before_processing", .integer camera.droppedBeforeProcessing.toNat),
          ("camera_restarts", .integer camera.cameraRestarts.toNat),
          ("frames_with_capture_timestamp", .integer camera.framesWithCaptureTimestamp.toNat),
          ("measured_fps", optional .number camera.measuredFps),
          ("latest_latency_ms", optional .number camera.latestLatencyMs),
          ("average_latency_ms", optional .number camera.averageLatencyMs),
          ("maximum_latency_ms", optional .number camera.maximumLatencyMs),
          ("latest_frame_age_ms", optional .number camera.latestFrameAgeMs)]

def targetJson (target : TargetObservation) : Json :=
  .object
    [("id", .integer target.id.toInt),
      ("family", .text target.family),
      ("center_x_px", .number target.center.xPx),
      ("center_y_px", .number target.center.yPx),
      ("confidence_percent", .number target.confidencePercent)]

def visionJson (vision : Option VisionSnapshot) : Json :=
  match vision with
  | none => .null
  | some vision =>
      .object
        [("detector", .string vision.detector),
          ("processed_frames", .integer vision.processedFrames.toNat),
          ("frames_with_targets", .integer vision.framesWithTargets.toNat),
          ("total_targets", .integer vision.totalTargets.toNat),
          ("latest_processing_ms", optional .number vision.latestProcessingMs),
          ("average_processing_ms", optional .number vision.averageProcessingMs),
          ("maximum_processing_ms", optional .number vision.maximumProcessingMs),
          ("last_detection_age_ms", optional .number vision.lastDetectionAgeMs),
          ("targets", .array (vision.latestTargets.map targetJson))]

def linkEventJson (event : LinkEvent) : Json :=
  .object
    [("sequence", .integer event.sequence.toNat),
      ("elapsed_ms", .integer event.elapsed),
      ("direction", .text (linkDirectionName event.direction)),
      ("status", .text (linkStatusName event.status)),
      ("label", .text event.label),
      ("detail", .text event.detail)]

def linkActivityJson (activity : Option LinkActivity) : Json :=
  match activity with
  | none => .null
  | some activity =>
      .object
        [("sequence", .integer activity.sequence.toNat),
          ("observed_at_ms", .integer activity.observedAt),
          ("message_name", .text activity.messageName),
          ("detail", .text activity.detail)]

def telemetryJson (telemetry : TelemetryStatus) : Json :=
  .object
    [("state", .text (telemetryStateName telemetry.state)),
      ("completed_requests", .integer telemetry.completedRequests),
      ("total_requests", .integer telemetry.totalRequests),
      ("current_stream", .text telemetry.currentStream),
      ("attempt", .integer telemetry.attempt),
      ("failure_result", optional (.integer ·.toNat) telemetry.failureResult)]

def simulatedWindJson (wind : Option SimulatedWindProfile) : Json :=
  match wind with
  | none => .null
  | some wind =>
      .object
        [("speed_m_s", .number wind.speedMS),
          ("direction_from_deg", .number wind.directionFromDeg),
          ("turbulence_m_s", .number wind.turbulenceMS)]

def failsafeJson (failsafe : CompanionLinkFailsafeSnapshot) : Json :=
  .object
    [("phase", .text (companionLinkFailsafePhaseName failsafe.phase)),
      ("detail", .text failsafe.detail),
      ("heartbeat_system_id", optional (.integer ·.toNat) failsafe.heartbeatSystemId),
      ("configured_gcs_system_id", optional (.integer ·.toNat) failsafe.configuredGcsSystemId),
      ("action", optional (.text <| ardupilotGcsFailsafeActionName ·) failsafe.action),
      ("timeout_s", optional .number failsafe.timeoutS),
      ("options", optional (.integer ·.toNat) failsafe.options),
      ("parameters_received", .integer failsafe.parametersReceived),
      ("parameters_required", .integer failsafe.parametersRequired)]

/-- `snapshot_json`: assigning a name that is not there yet adds a field. -/
def snapshotJson (snapshot : AppSnapshot) (recordedAtUnixMs : Int) : Json :=
  .object (vehicleFields snapshot.vehicle ++
    [("record_type", .text "snapshot"),
      ("recorded_at_unix_ms", .integer recordedAtUnixMs),
      ("elapsed_ms", .integer snapshot.elapsed),
      ("companion_heartbeat_active", .boolean snapshot.companionHeartbeatActive),
      ("telemetry_setup", telemetryJson snapshot.telemetry),
      ("simulated_wind", simulatedWindJson snapshot.simulatedWind),
      ("companion_link_failsafe", failsafeJson snapshot.companionLinkFailsafe),
      ("camera", cameraJson snapshot.camera),
      ("vision", visionJson snapshot.vision),
      ("link_events", .array (snapshot.linkEvents.map linkEventJson)),
      ("tx_activity", linkActivityJson snapshot.txActivity),
      ("rx_activity", linkActivityJson snapshot.rxActivity)])

/-! ### What can be printed -/

@[simp] theorem printable_optional {α : Type} {number : α → Json} (hnumber : ∀ value, (number value).Printable)
    (value : Option α) : (optional number value).Printable := by
  cases value with
  | none => exact Json.printable_null
  | some value => exact hnumber value

theorem printable_vehicle (vehicle : VehicleSnapshot) :
    (Json.object (vehicleFields vehicle)).Printable ↔ ∀ text ∈ vehicle.warnings, ValidText text := by
  simp [vehicleFields]

theorem printable_camera (camera : Option CameraSnapshot) :
    (cameraJson camera).Printable ↔ ∀ shown ∈ camera, ValidText shown.source ∧ ValidText shown.error := by
  cases camera <;> simp [cameraJson]

theorem printable_vision (vision : Option VisionSnapshot) :
    (visionJson vision).Printable ↔ ∀ shown ∈ vision, ValidText shown.detector := by
  cases vision <;> simp [visionJson, targetJson]

theorem printable_linkEvent (event : LinkEvent) : (linkEventJson event).Printable := by
  simp [linkEventJson]

theorem printable_linkActivity (activity : Option LinkActivity) : (linkActivityJson activity).Printable := by
  cases activity <;> simp [linkActivityJson]

theorem printable_simulatedWind (wind : Option SimulatedWindProfile) : (simulatedWindJson wind).Printable := by
  cases wind <;> simp [simulatedWindJson]

theorem printable_telemetry (telemetry : TelemetryStatus) : (telemetryJson telemetry).Printable := by
  simp [telemetryJson]

theorem printable_failsafe (failsafe : CompanionLinkFailsafeSnapshot) : (failsafeJson failsafe).Printable := by
  simp [failsafeJson]

/-- The texts of a snapshot that do not come from the program are UTF-8. -/
structure TextsValid (snapshot : AppSnapshot) : Prop where
  warnings : ∀ text ∈ snapshot.vehicle.warnings, ValidText text
  camera : ∀ shown ∈ snapshot.camera, ValidText shown.source ∧ ValidText shown.error
  vision : ∀ shown ∈ snapshot.vision, ValidText shown.detector

/-- The record of a snapshot can be printed exactly when these texts are UTF-8. -/
theorem printable_snapshot (snapshot : AppSnapshot) (recordedAtUnixMs : Int) :
    (snapshotJson snapshot recordedAtUnixMs).Printable ↔ TextsValid snapshot := by
  rw [snapshotJson, Json.printable_object_append, printable_vehicle]
  simp only [Json.printable_object_cons, printable_camera, printable_vision, Json.printable_text,
    Json.printable_integer, Json.printable_boolean, Json.printable_array, Json.printable_object_nil,
    printable_telemetry, printable_failsafe, printable_simulatedWind, printable_linkActivity, List.forall_mem_map,
    printable_linkEvent, implies_true, true_and, and_true]
  exact ⟨fun h => ⟨h.1, h.2.1, h.2.2⟩, fun h => ⟨h.warnings, h.camera, h.vision⟩⟩

end SnapshotJson
end OnboardAutonomy
