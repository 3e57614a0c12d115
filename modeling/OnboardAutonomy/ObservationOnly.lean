import OnboardAutonomy.CompanionCore

/-! Observation only: what the application hands to the transport, poll by poll. -/

namespace OnboardAutonomy

/-- A companion heartbeat, a request for a message or its interval, or a request to read a parameter. -/
def OutboundMessage.ObservesOnly (frame : OutboundMessage) : Prop :=
  match frame.payload with
  | .heartbeat fields =>
      fields = { type := 18, autopilot := 8, baseMode := 0, customMode := 0, systemStatus := 4 }
  | .commandLong fields =>
      fields.command = MAV_CMD_SET_MESSAGE_INTERVAL ∨ fields.command = MAV_CMD_REQUEST_MESSAGE
  | .paramRequestRead _ => True

/-- A request that waits for the telemetry setup: a parameter read or a message request. -/
def OutboundMessage.AwaitsSetup (frame : OutboundMessage) : Prop :=
  match frame.payload with
  | .heartbeat _ => False
  | .commandLong fields => fields.command = MAV_CMD_REQUEST_MESSAGE
  | .paramRequestRead _ => True

/-- A frame handed over in a poll with this snapshot and this configurator. -/
structure Allowed (vehicle : VehicleSnapshot) (configurator : TelemetryStreamConfigurator)
    (frame : OutboundMessage) : Prop where
  observes : frame.ObservesOnly
  connected : vehicle.connected = true
  sysid : vehicle.systemId = some frame.sysid
  compid : frame.compid = 191
  target : ∀ system, frame.targetSystem = some system → vehicle.systemId = some system
  setup : frame.AwaitsSetup → configurator.phase = .active ∧ configurator.vehicleSystemId = vehicle.systemId

/-! ### The frames of a poll -/

namespace CompanionApplication

variable {ω : Type} (port : OutboundPort ω)

theorem act_allowed (a : CompanionApplication ω) (vehicle : VehicleSnapshot) (now : TimePoint) :
    HandsOnly port (Allowed vehicle (a.observed vehicle now).telemetryConfigurator) (a.observed vehicle now)
      (a.act port vehicle now) := by
  have hready : (a.observed vehicle now).telemetryReady = true →
      vehicle.connected = true ∧ (a.observed vehicle now).telemetryConfigurator.phase = .active ∧
        (a.observed vehicle now).telemetryConfigurator.vehicleSystemId = vehicle.systemId := fun h => by
    have hactive : (a.observed vehicle now).telemetryConfigurator.phase = .active := by
      simpa [telemetryReady] using h
    obtain ⟨hconnected, hsystem⟩ := TelemetryStreamConfigurator.update_active hactive
    exact ⟨hconnected, hactive, hsystem⟩
  apply act_handsOnly
  · intro systemId hconnected hsystem
    exact ⟨rfl, hconnected, hsystem, rfl, nofun, fun h => h.elim⟩
  · intro frame hframe
    obtain ⟨hconnected, systemId, _, _, _, hsystem, rfl⟩ := TelemetryStreamConfigurator.update_source hframe
    exact ⟨Or.inl rfl, hconnected, hsystem, rfl, fun _ htarget => hsystem.trans htarget, fun h =>
      absurd (show MAV_CMD_SET_MESSAGE_INTERVAL = MAV_CMD_REQUEST_MESSAGE from h) (by decide)⟩
  · intro systemId parameterId h hsystem
    obtain ⟨hconnected, hactive, hsetup⟩ := hready h
    exact ⟨trivial, hconnected, hsystem, rfl, fun _ htarget => hsystem.trans htarget,
      fun _ => ⟨hactive, hsetup⟩⟩
  · intro systemId h hsystem
    obtain ⟨hconnected, hactive, hsetup⟩ := hready h
    exact ⟨Or.inr rfl, hconnected, hsystem, rfl, fun _ htarget => hsystem.trans htarget,
      fun _ => ⟨hactive, hsetup⟩⟩

/-- In every poll of every run, each frame handed over is allowed by the poll's own snapshot and by the
configurator as the poll leaves it. -/
theorem poll_hands_allowed (world : ω) (simulatedWind : Option SimulatedWindProfile)
    (observationSinks : List (Option Nat)) (before : List CompanionEvent) (cameraNow now : TimePoint)
    (messages : List MavlinkMessage) :
    let a := run port (start world simulatedWind observationSinks) before
    let vehicle := ((a.pollInputs cameraNow now messages).vehicleState.snapshot now).2
    let polled := a.poll port cameraNow now messages
    ∃ frames, polled.handed = a.handed ++ frames ∧
      ∀ frame ∈ frames, Allowed vehicle polled.telemetryConfigurator frame := by
  intro a vehicle polled
  have hact := act_allowed port (a.afterInputs cameraNow now messages) vehicle now
  obtain ⟨frames, hframes, hallowed⟩ := hact.outbound
  have hconfigurator := congrArg CompanionCore.telemetryConfigurator hact.core
  refine ⟨frames, ?_, fun frame hmem => ?_⟩
  · have hinputs : (a.afterInputs cameraNow now messages).handed = a.handed :=
      congrArg Prod.snd (afterInputs_outbound a cameraNow now messages)
    rw [← hinputs]
    exact congrArg Prod.snd hframes
  · have hpolled : polled.telemetryConfigurator = _ := hconfigurator
    rw [hpolled]
    exact hallowed frame hmem

end CompanionApplication
end OnboardAutonomy
