import OnboardAutonomy.CompanionApplication

/-! The three state machines of the application on their own: the vehicle state, the failsafe and the
stream configurator. What they do in a poll depends on the inbound messages and the time only, neither on
the transport nor on the journal. -/

namespace OnboardAutonomy

structure CompanionCore where
  vehicleState : VehicleState := {}
  companionLinkFailsafe : CompanionLinkFailsafe := {}
  telemetryConfigurator : TelemetryStreamConfigurator := {}

namespace CompanionCore

def handle (c : CompanionCore) (call : Option HandlerCall) (now : TimePoint) : CompanionCore :=
  match call with
  | none => c
  | some (.commandAck acknowledgement) =>
      { c with telemetryConfigurator := c.telemetryConfigurator.onCommandAck acknowledgement now }
  | some (.parameterValue parameter) =>
      { c with
        companionLinkFailsafe := c.companionLinkFailsafe.onParameter parameter.sourceSystem
          parameter.sourceComponent parameter.id parameter.value }

def ingestMessage (c : CompanionCore) (now : TimePoint) (message : MavlinkMessage) : CompanionCore :=
  let decoded := MavlinkDecoder.handleMessage c.vehicleState message now
  { c with vehicleState := decoded.1 }.handle decoded.2 now

def ingest (c : CompanionCore) (now : TimePoint) (messages : List MavlinkMessage) : CompanionCore :=
  messages.foldl (fun c message => c.ingestMessage now message) c

/-- What the snapshot of a poll makes the failsafe and the configurator do. -/
def observe (c : CompanionCore) (vehicle : VehicleSnapshot) (now : TimePoint) : CompanionCore :=
  { c with
    companionLinkFailsafe := c.companionLinkFailsafe.observeVehicle vehicle.connected vehicle.systemId
    telemetryConfigurator :=
      (c.telemetryConfigurator.update vehicle.connected vehicle.systemId now).1 }

def poll (c : CompanionCore) (now : TimePoint) (messages : List MavlinkMessage) : CompanionCore :=
  let c := c.ingest now messages
  let (state, vehicle) := c.vehicleState.snapshot now
  { c with vehicleState := state }.observe vehicle now

/-- A query only drops the old warnings. -/
def query (c : CompanionCore) (now : TimePoint) : CompanionCore :=
  { c with vehicleState := (c.vehicleState.snapshot now).1 }

theorem ingestMessage_vehicleState (c : CompanionCore) (now : TimePoint) (message : MavlinkMessage) :
    (c.ingestMessage now message).vehicleState = (MavlinkDecoder.handleMessage c.vehicleState message now).1 := by
  simp only [ingestMessage, handle]
  split <;> rfl

end CompanionCore

/-- What the program asks of the application: a poll, or a snapshot for publication. -/
inductive CompanionEvent where
  | poll (cameraNow now : TimePoint) (messages : List MavlinkMessage)
  | snapshot (now : TimePoint)

def CompanionEvent.time : CompanionEvent → TimePoint
  | .poll _ now _ => now
  | .snapshot now => now

def CompanionCore.step (c : CompanionCore) : CompanionEvent → CompanionCore
  | .poll _ now messages => c.poll now messages
  | .snapshot now => c.query now

namespace CompanionApplication

variable {ω : Type}

def step (port : OutboundPort ω) (a : CompanionApplication ω) : CompanionEvent → CompanionApplication ω
  | .poll cameraNow now messages => a.poll port cameraNow now messages
  | .snapshot now => (a.snapshot now none none).1

def run (port : OutboundPort ω) (a : CompanionApplication ω) (events : List CompanionEvent) :
    CompanionApplication ω := events.foldl (step port) a

/-- A transport that accepts every frame. -/
def acceptingPort : OutboundPort Unit where
  send _ _ := (true, ())

def core (a : CompanionApplication ω) : CompanionCore :=
  { vehicleState := a.vehicleState
    companionLinkFailsafe := a.companionLinkFailsafe
    telemetryConfigurator := a.telemetryConfigurator }

/-- The port and the frames handed to it. -/
def outbound (a : CompanionApplication ω) : ω × List OutboundMessage := (a.port, a.handed)

/-! ### Steps that only write the journal -/

/-- A step that neither moves the state machines nor hands over a frame. -/
structure Quiet (a a' : CompanionApplication ω) : Prop where
  core : a'.core = a.core
  outbound : a'.outbound = a.outbound

theorem Quiet.refl (a : CompanionApplication ω) : Quiet a a := ⟨rfl, rfl⟩

theorem Quiet.trans {a b c : CompanionApplication ω} (hab : Quiet a b) (hbc : Quiet b c) : Quiet a c :=
  ⟨hbc.core.trans hab.core, hbc.outbound.trans hab.outbound⟩

theorem recordEvent_quiet (a : CompanionApplication ω) (direction : LinkEventDirection)
    (status : LinkEventStatus) (label detail : String) (now : TimePoint) :
    Quiet a (a.recordEvent direction status label detail now) := ⟨rfl, rfl⟩

theorem recordActivity_quiet (a : CompanionApplication ω) (direction : LinkEventDirection)
    (messageName detail : String) (now : TimePoint) :
    Quiet a (a.recordActivity direction messageName detail now) := ⟨rfl, rfl⟩

theorem observeFailsafePhase_quiet (a : CompanionApplication ω) (now : TimePoint) :
    Quiet a (a.observeFailsafePhase now) := by
  simp only [observeFailsafePhase]
  split
  · exact Quiet.refl a
  · exact ⟨rfl, rfl⟩

theorem observeMetadata_quiet (a : CompanionApplication ω) (vehicle : VehicleSnapshot) (now : TimePoint) :
    Quiet a (a.observeMetadata vehicle now) := by
  simp only [observeMetadata]
  split
  · split <;> exact ⟨rfl, rfl⟩
  · exact ⟨rfl, rfl⟩

theorem observeFlightMode_quiet (a : CompanionApplication ω) (vehicle : VehicleSnapshot) (now : TimePoint) :
    Quiet a (a.observeFlightMode vehicle now) := by
  simp only [observeFlightMode]
  split
  · split <;> exact ⟨rfl, rfl⟩
  · exact ⟨rfl, rfl⟩

theorem observeArmed_quiet (a : CompanionApplication ω) (vehicle : VehicleSnapshot) (now : TimePoint) :
    Quiet a (a.observeArmed vehicle now) := by
  simp only [observeArmed]
  split <;> exact ⟨rfl, rfl⟩

theorem observeVehicle_quiet (a : CompanionApplication ω) (vehicle : VehicleSnapshot) (now : TimePoint) :
    Quiet a (a.observeVehicle vehicle now) := by
  simp only [observeVehicle]
  split
  · split <;> exact ⟨rfl, rfl⟩
  split
  · exact ⟨rfl, rfl⟩
  · exact ((observeMetadata_quiet a vehicle now).trans (observeFlightMode_quiet _ vehicle now)).trans
      (observeArmed_quiet _ vehicle now)

/-! ### Taking in messages -/

theorem onCommandAck_core (a : CompanionApplication ω) (acknowledgement : CommandAck) (now : TimePoint) :
    (a.onCommandAck acknowledgement now).core = a.core.handle (some (.commandAck acknowledgement)) now := by
  simp only [onCommandAck]
  split <;> rfl

theorem onCommandAck_outbound (a : CompanionApplication ω) (acknowledgement : CommandAck)
    (now : TimePoint) : (a.onCommandAck acknowledgement now).outbound = a.outbound := by
  simp only [onCommandAck]
  split <;> rfl

/-- A parameter reaches the failsafe; what follows only writes the journal. -/
theorem onParameter_quiet (a : CompanionApplication ω) (parameter : ParameterValue) (now : TimePoint) :
    Quiet
      { a with
        companionLinkFailsafe := a.companionLinkFailsafe.onParameter parameter.sourceSystem
          parameter.sourceComponent parameter.id parameter.value }
      (a.onParameter parameter now) := by
  simp only [onParameter]
  split
  · exact (observeFailsafePhase_quiet _ now).trans (recordActivity_quiet ..)
  · exact observeFailsafePhase_quiet _ now

theorem handle_core (a : CompanionApplication ω) (call : Option HandlerCall) (now : TimePoint) :
    (a.handle call now).core = a.core.handle call now := by
  rcases call with _ | ⟨acknowledgement | parameter⟩
  · rfl
  · exact onCommandAck_core a acknowledgement now
  · exact (onParameter_quiet a parameter now).core

theorem handle_outbound (a : CompanionApplication ω) (call : Option HandlerCall) (now : TimePoint) :
    (a.handle call now).outbound = a.outbound := by
  rcases call with _ | ⟨acknowledgement | parameter⟩
  · rfl
  · exact onCommandAck_outbound a acknowledgement now
  · exact (onParameter_quiet a parameter now).outbound

theorem ingestMessage_core (now : TimePoint) (a : CompanionApplication ω) (message : MavlinkMessage) :
    (ingestMessage now a message).core = a.core.ingestMessage now message :=
  handle_core _ _ now

theorem pollInputs_core (a : CompanionApplication ω) (cameraNow now : TimePoint)
    (messages : List MavlinkMessage) :
    (a.pollInputs cameraNow now messages).core = a.core.ingest now messages := by
  have hstep : ∀ (b : CompanionApplication ω) (message : MavlinkMessage),
      b.core.ingestMessage now message = (ingestMessage now b message).core := fun b message =>
    (ingestMessage_core now b message).symm
  exact (List.foldl_hom core hstep).symm

theorem pollInputs_outbound (a : CompanionApplication ω) (cameraNow now : TimePoint)
    (messages : List MavlinkMessage) : (a.pollInputs cameraNow now messages).outbound = a.outbound := by
  refine List.foldlRecOn (motive := fun b : CompanionApplication ω => b.outbound = a.outbound) messages
    (ingestMessage now) ?_ ?_
  · rfl
  · intro b hb message _
    exact (handle_outbound _ _ now).trans hb

/-- The application of a poll once it has read its messages and the vehicle. -/
def afterInputs (a : CompanionApplication ω) (cameraNow now : TimePoint) (messages : List MavlinkMessage) :
    CompanionApplication ω :=
  { a.pollInputs cameraNow now messages with
    vehicleState := ((a.pollInputs cameraNow now messages).vehicleState.snapshot now).1 }

theorem afterInputs_outbound (a : CompanionApplication ω) (cameraNow now : TimePoint)
    (messages : List MavlinkMessage) : (a.afterInputs cameraNow now messages).outbound = a.outbound :=
  pollInputs_outbound a cameraNow now messages

/-- The failsafe sees the vehicle; what follows only writes the journal and the timers. -/
theorem updateVehicleConnection_quiet (a : CompanionApplication ω) (vehicle : VehicleSnapshot)
    (now : TimePoint) :
    Quiet
      { a with
        companionLinkFailsafe := a.companionLinkFailsafe.observeVehicle vehicle.connected vehicle.systemId }
      (a.updateVehicleConnection vehicle now) := by
  simp only [updateVehicleConnection]
  apply (observeFailsafePhase_quiet _ now).trans
  split <;> split
  · exact ⟨(observeVehicle_quiet _ vehicle now).core, (observeVehicle_quiet _ vehicle now).outbound⟩
  · exact ⟨(observeVehicle_quiet _ vehicle now).core, (observeVehicle_quiet _ vehicle now).outbound⟩
  · exact ⟨(observeVehicle_quiet _ vehicle now).core, (observeVehicle_quiet _ vehicle now).outbound⟩
  · exact observeVehicle_quiet _ vehicle now

/-! ### Handing over frames -/

section HandsOnly

variable (port : OutboundPort ω)

/-- The port after frames were handed to it, one after the other. -/
def sendAll (world : ω) (frames : List OutboundMessage) : ω :=
  frames.foldl (fun world frame => (port.send world frame).2) world

/-- A step that leaves the state machines alone and hands over only frames of some kind. -/
structure HandsOnly (P : OutboundMessage → Prop) (a a' : CompanionApplication ω) : Prop where
  core : a'.core = a.core
  outbound : ∃ frames, a'.outbound = (sendAll port a.port frames, a.handed ++ frames) ∧
    ∀ frame ∈ frames, P frame

variable {port} {P : OutboundMessage → Prop} {a b c : CompanionApplication ω}

theorem Quiet.handsOnly (h : Quiet a b) : HandsOnly port P a b :=
  ⟨h.core, [], by rw [h.outbound, List.append_nil]; rfl, fun _ hmem => absurd hmem List.not_mem_nil⟩

theorem HandsOnly.trans (hab : HandsOnly port P a b) (hbc : HandsOnly port P b c) : HandsOnly port P a c := by
  obtain ⟨first, hfirst, hfirstP⟩ := hab.outbound
  obtain ⟨second, hsecond, hsecondP⟩ := hbc.outbound
  refine ⟨hbc.core.trans hab.core, first ++ second, ?_, ?_⟩
  · obtain ⟨hport, hhanded⟩ := Prod.mk.inj hfirst
    rw [hsecond, hport, hhanded, List.append_assoc, sendAll, sendAll, sendAll, List.foldl_append]
  · intro frame hmem
    exact (List.mem_append.mp hmem).elim (hfirstP frame) (hsecondP frame)

theorem HandsOnly.quiet (hab : HandsOnly port P a b) (hbc : Quiet b c) : HandsOnly port P a c :=
  hab.trans hbc.handsOnly

end HandsOnly

variable (port : OutboundPort ω)

theorem writeFrame_handsOnly {P : OutboundMessage → Prop} (a : CompanionApplication ω)
    {frame : OutboundMessage} (hframe : P frame) (now : TimePoint) (messageName detail : String) :
    HandsOnly port P a (a.writeFrame port frame now messageName detail).2 := by
  have hmem : ∀ other ∈ [frame], P other := fun other hother => List.mem_singleton.mp hother ▸ hframe
  simp only [writeFrame]
  split <;> exact ⟨rfl, [frame], rfl, hmem⟩

theorem sendCompanionHeartbeat_handsOnly {P : OutboundMessage → Prop} (a : CompanionApplication ω)
    (vehicle : VehicleSnapshot) (now : TimePoint)
    (hframe : ∀ systemId, vehicle.connected = true → vehicle.systemId = some systemId →
      P (encodeCompanionHeartbeat systemId)) :
    HandsOnly port P a (a.sendCompanionHeartbeat port vehicle now) := by
  simp only [sendCompanionHeartbeat]
  split
  · exact (Quiet.refl a).handsOnly
  split
  · rename_i systemId hconnected hsystem
    have hwrite := writeFrame_handsOnly port a (hframe systemId hconnected hsystem) now "HEARTBEAT" ""
    split
    · exact hwrite.quiet ⟨rfl, rfl⟩
    · exact hwrite.quiet ⟨rfl, rfl⟩
  · exact Quiet.handsOnly ⟨rfl, rfl⟩

/-- The configurator is updated; what follows hands over the frame it asks for. -/
theorem updateTelemetrySetup_handsOnly {P : OutboundMessage → Prop} (a : CompanionApplication ω)
    (vehicle : VehicleSnapshot) (now : TimePoint)
    (hframe : ∀ frame,
      (a.telemetryConfigurator.update vehicle.connected vehicle.systemId now).2 = some frame → P frame) :
    HandsOnly port P
      { a with
        telemetryConfigurator :=
          (a.telemetryConfigurator.update vehicle.connected vehicle.systemId now).1 }
      (a.updateTelemetrySetup port vehicle now) := by
  simp only [updateTelemetrySetup]
  split
  · exact (Quiet.refl _).handsOnly
  · rename_i frame hsome
    exact (writeFrame_handsOnly port _ (hframe frame hsome) now _ _).quiet (recordEvent_quiet ..)

theorem requestFailsafeParameter_handsOnly {P : OutboundMessage → Prop} (a : CompanionApplication ω)
    (vehicle : VehicleSnapshot) (telemetryReady : Bool) (now : TimePoint)
    (hframe : ∀ systemId parameterId, telemetryReady = true → vehicle.systemId = some systemId →
      P (paramRequestRead systemId parameterId)) :
    HandsOnly port P a (a.requestFailsafeParameter port vehicle telemetryReady now) := by
  simp only [requestFailsafeParameter]
  split
  · rename_i systemId hsystem
    split
    · exact (Quiet.refl a).handsOnly
    · have hwrite := writeFrame_handsOnly port a
        (hframe systemId (failsafeParameterId a.failsafeParameterIndex) rfl hsystem) now
        "PARAM_REQUEST_READ" (failsafeParameterName a.failsafeParameterIndex)
      split
      · exact hwrite.quiet ⟨rfl, rfl⟩
      · exact hwrite.quiet ⟨rfl, rfl⟩
  · exact (Quiet.refl a).handsOnly

theorem requestAutopilotVersion_handsOnly {P : OutboundMessage → Prop} (a : CompanionApplication ω)
    (vehicle : VehicleSnapshot) {systemId : UInt8} (now : TimePoint)
    (hframe : P (encodeAutopilotVersionRequest systemId)) :
    HandsOnly port P a (a.requestAutopilotVersion port vehicle systemId now) := by
  simp only [requestAutopilotVersion]
  split
  · exact (writeFrame_handsOnly port a hframe now _ _).quiet ⟨rfl, rfl⟩
  · exact (Quiet.refl a).handsOnly

theorem requestBatteryParameter_handsOnly {P : OutboundMessage → Prop} (a : CompanionApplication ω)
    (vehicle : VehicleSnapshot) {systemId : UInt8} (now : TimePoint)
    (hframe : P (encodeBatteryArmingVoltageRequest systemId)) :
    HandsOnly port P a (a.requestBatteryParameter port vehicle systemId now) := by
  simp only [requestBatteryParameter]
  split
  · exact (Quiet.refl a).handsOnly
  · exact (writeFrame_handsOnly port a hframe now _ _).quiet ⟨rfl, rfl⟩

theorem requestVehicleMetadata_handsOnly {P : OutboundMessage → Prop} (a : CompanionApplication ω)
    (vehicle : VehicleSnapshot) (telemetryReady : Bool) (now : TimePoint)
    (hversion : ∀ systemId, telemetryReady = true → vehicle.systemId = some systemId →
      P (encodeAutopilotVersionRequest systemId))
    (hbattery : ∀ systemId, telemetryReady = true → vehicle.systemId = some systemId →
      P (encodeBatteryArmingVoltageRequest systemId)) :
    HandsOnly port P a (a.requestVehicleMetadata port vehicle telemetryReady now) := by
  simp only [requestVehicleMetadata]
  split
  · rename_i systemId hsystem
    exact (requestAutopilotVersion_handsOnly port a vehicle now (hversion systemId rfl hsystem)).trans
      (requestBatteryParameter_handsOnly port _ vehicle now (hbattery systemId rfl hsystem))
  · exact (Quiet.refl a).handsOnly

/-! ### A whole poll -/

/-- The state machines after the snapshot of a poll was observed, before any frame is handed over. -/
def observed (a : CompanionApplication ω) (vehicle : VehicleSnapshot) (now : TimePoint) :
    CompanionApplication ω :=
  { a with
    companionLinkFailsafe := a.companionLinkFailsafe.observeVehicle vehicle.connected vehicle.systemId
    telemetryConfigurator := (a.telemetryConfigurator.update vehicle.connected vehicle.systemId now).1 }

/-- The frames of a poll come from four places. -/
theorem act_handsOnly {P : OutboundMessage → Prop} (a : CompanionApplication ω) (vehicle : VehicleSnapshot)
    (now : TimePoint)
    (hheartbeat : ∀ systemId, vehicle.connected = true → vehicle.systemId = some systemId →
      P (encodeCompanionHeartbeat systemId))
    (hsetup : ∀ frame,
      (a.telemetryConfigurator.update vehicle.connected vehicle.systemId now).2 = some frame → P frame)
    (hread : ∀ systemId parameterId, (a.observed vehicle now).telemetryReady = true →
      vehicle.systemId = some systemId → P (paramRequestRead systemId parameterId))
    (hversion : ∀ systemId, (a.observed vehicle now).telemetryReady = true →
      vehicle.systemId = some systemId → P (encodeAutopilotVersionRequest systemId)) :
    HandsOnly port P (a.observed vehicle now) (a.act port vehicle now) := by
  have hbefore := (updateVehicleConnection_quiet a vehicle now).handsOnly.trans
    (sendCompanionHeartbeat_handsOnly port (a.updateVehicleConnection vehicle now) vehicle now hheartbeat)
  simp only [act]
  generalize (a.updateVehicleConnection vehicle now).sendCompanionHeartbeat port vehicle now = b at hbefore ⊢
  have hstate : b.vehicleState = a.vehicleState := congrArg CompanionCore.vehicleState hbefore.core
  have hfailsafe : b.companionLinkFailsafe =
      a.companionLinkFailsafe.observeVehicle vehicle.connected vehicle.systemId :=
    congrArg CompanionCore.companionLinkFailsafe hbefore.core
  have hconfigurator : b.telemetryConfigurator = a.telemetryConfigurator :=
    congrArg CompanionCore.telemetryConfigurator hbefore.core
  have hupdate := updateTelemetrySetup_handsOnly port b vehicle now (by rw [hconfigurator]; exact hsetup)
  rw [hconfigurator] at hupdate
  have hmiddle : HandsOnly port P (a.observed vehicle now)
      { b with
        telemetryConfigurator :=
          (a.telemetryConfigurator.update vehicle.connected vehicle.systemId now).1 } := by
    refine ⟨?_, hbefore.outbound⟩
    simp only [core, observed, hstate, hfailsafe]
  have hobserved := hmiddle.trans hupdate
  generalize b.updateTelemetrySetup port vehicle now = c at hobserved ⊢
  have hready : c.telemetryReady = (a.observed vehicle now).telemetryReady :=
    congrArg (fun core => core.telemetryConfigurator.phase == .active) hobserved.core
  rw [hready]
  exact (hobserved.trans (requestFailsafeParameter_handsOnly port c vehicle _ now hread)).trans
    (requestVehicleMetadata_handsOnly port _ vehicle _ now hversion fun systemId =>
      hread systemId batteryArmingVoltageId)

theorem act_core (a : CompanionApplication ω) (vehicle : VehicleSnapshot) (now : TimePoint) :
    (a.act port vehicle now).core = a.core.observe vehicle now := by
  have hact : HandsOnly port (fun _ => True) (a.observed vehicle now) (a.act port vehicle now) :=
    act_handsOnly port a vehicle now (fun _ _ _ => trivial) (fun _ _ => trivial) (fun _ _ _ _ => trivial)
      fun _ _ _ => trivial
  exact hact.core

/-- A poll moves the state machines as they move on their own. -/
theorem poll_core (a : CompanionApplication ω) (cameraNow now : TimePoint) (messages : List MavlinkMessage) :
    (a.poll port cameraNow now messages).core = a.core.poll now messages := by
  have hinputs := pollInputs_core a cameraNow now messages
  simp only [poll]
  rw [act_core, CompanionCore.poll, ← hinputs]
  rfl

theorem step_core (a : CompanionApplication ω) (event : CompanionEvent) :
    (a.step port event).core = a.core.step event := by
  cases event with
  | poll cameraNow now messages => exact poll_core port a cameraNow now messages
  | snapshot now => rfl

theorem run_core (a : CompanionApplication ω) (events : List CompanionEvent) :
    (run port a events).core = events.foldl CompanionCore.step a.core := by
  induction events generalizing a with
  | nil => rfl
  | cons event events ih =>
      rw [run, List.foldl_cons, List.foldl_cons, ← step_core port]
      exact ih (a.step port event)

/-! ### The port sees the frames that are handed to it, and nothing else -/

theorem poll_outbound (a : CompanionApplication ω) (cameraNow now : TimePoint)
    (messages : List MavlinkMessage) : ∃ frames,
      (a.poll port cameraNow now messages).outbound = (sendAll port a.port frames, a.handed ++ frames) := by
  have hinputs := afterInputs_outbound a cameraNow now messages
  obtain ⟨hport, hhanded⟩ := Prod.mk.inj hinputs
  have hact : HandsOnly port (fun _ => True) _ (a.poll port cameraNow now messages) :=
    act_handsOnly port (a.afterInputs cameraNow now messages)
      ((a.pollInputs cameraNow now messages).vehicleState.snapshot now).2 now (fun _ _ _ => trivial)
      (fun _ _ => trivial) (fun _ _ _ _ => trivial) fun _ _ _ => trivial
  obtain ⟨frames, hframes, -⟩ := hact.outbound
  refine ⟨frames, hframes.trans ?_⟩
  rw [← hport, ← hhanded]
  rfl

theorem step_outbound (a : CompanionApplication ω) (event : CompanionEvent) : ∃ frames,
    (a.step port event).outbound = (sendAll port a.port frames, a.handed ++ frames) := by
  cases event with
  | poll cameraNow now messages => exact poll_outbound port a cameraNow now messages
  | snapshot now => exact ⟨[], by rw [List.append_nil]; rfl⟩

theorem run_outbound (events : List CompanionEvent) : ∀ a : CompanionApplication ω, ∃ frames,
    (run port a events).outbound = (sendAll port a.port frames, a.handed ++ frames) := by
  induction events with
  | nil =>
      intro a
      exact ⟨[], by rw [List.append_nil]; rfl⟩
  | cons event events ih =>
      intro a
      obtain ⟨first, hfirst⟩ := step_outbound port a event
      obtain ⟨hport, hhanded⟩ := Prod.mk.inj hfirst
      obtain ⟨rest, hrest⟩ := ih (a.step port event)
      refine ⟨first ++ rest, hrest.trans ?_⟩
      rw [hport, hhanded, List.append_assoc, sendAll, sendAll, sendAll, List.foldl_append]

/-- After a run the port is what sending the frames handed over has made of it. -/
theorem run_port (world : ω) (simulatedWind : Option SimulatedWindProfile)
    (observationSinks : List (Option Nat)) (events : List CompanionEvent) :
    (run port (start world simulatedWind observationSinks) events).port =
      sendAll port world (run port (start world simulatedWind observationSinks) events).handed := by
  obtain ⟨frames, hframes⟩ := run_outbound port events (start world simulatedWind observationSinks)
  obtain ⟨hport, hhanded⟩ := Prod.mk.inj hframes
  rw [hport, hhanded]
  rfl

end CompanionApplication
end OnboardAutonomy
