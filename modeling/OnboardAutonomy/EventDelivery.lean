import OnboardAutonomy.CompanionCore
import OnboardAutonomy.ChangeLog

/-! The delivery of events. Every call of the sinks is written down in one log; the link events of the log are
those that the steps raise, numbered, the history that a snapshot shows holds the last of them, and the failsafe
transitions of the log are the changes of the failsafe's phase. -/

namespace OnboardAutonomy

open ChangeLog

/-- The link event of a call, if it is one. -/
def Delivery.event? : Delivery → Option LinkEvent
  | .linkEvent event => some event
  | .failsafeTransition _ _ _ => none

/-- The two phases of a failsafe transition. -/
def Delivery.transition? : Delivery → Option (CompanionLinkFailsafePhase × CompanionLinkFailsafePhase)
  | .linkEvent _ => none
  | .failsafeTransition previous current _ => some (previous, current.phase)

/-- The link events among some calls. -/
def linkEventsOf (calls : List Delivery) : List LinkEvent := calls.filterMap Delivery.event?

/-- The failsafe transitions among some calls. -/
def transitionsOf (calls : List Delivery) :
    List (CompanionLinkFailsafePhase × CompanionLinkFailsafePhase) := calls.filterMap Delivery.transition?

theorem linkEventsOf_append (calls more : List Delivery) :
    linkEventsOf (calls ++ more) = linkEventsOf calls ++ linkEventsOf more := List.filterMap_append

theorem transitionsOf_append (calls more : List Delivery) :
    transitionsOf (calls ++ more) = transitionsOf calls ++ transitionsOf more := List.filterMap_append

/-- What a link event tells, without its number. -/
structure LinkFact where
  direction : LinkEventDirection
  status : LinkEventStatus
  label : String
  detail : String
  elapsed : Int

def LinkEvent.fact (event : LinkEvent) : LinkFact where
  direction := event.direction
  status := event.status
  label := event.label
  detail := event.detail
  elapsed := event.elapsed

/-- The time since the start, in milliseconds. -/
def elapsedSince (startedAt now : TimePoint) : Int := (now - startedAt).tdiv 1000000

namespace Journal

/-- What one sink was told, in order. -/
def toldTo (j : Journal) (sink : Nat) : List Delivery :=
  j.deliveries.filterMap fun delivery => if delivery.1 = sink then some delivery.2 else none

/-- The journal has made these calls: each went to every sink, the link events among them carry the numbers
from 1 on, and the last of them are kept. -/
structure Tells (j : Journal) (sinks : List (Option Nat)) (calls : List Delivery) : Prop where
  attached : j.observationSinks = sinks
  delivered : j.deliveries = calls.flatMap fun call => (sinks.filterMap id).map fun sink => (sink, call)
  counted : j.nextEventSequence = UInt64.ofNat (linkEventsOf calls).length
  numbered : (linkEventsOf calls).map LinkEvent.sequence =
    (List.range (linkEventsOf calls).length).map fun index => UInt64.ofNat (index + 1)
  kept : j.linkEvents = (linkEventsOf calls).rtake kMaximumLinkEvents

variable {j : Journal} {sinks : List (Option Nat)} {calls : List Delivery}

theorem tells_fresh (sinks : List (Option Nat)) : Tells { observationSinks := sinks } sinks [] :=
  ⟨rfl, rfl, rfl, rfl, rfl⟩

theorem Tells.startClock (h : Tells j sinks calls) (now : TimePoint) : Tells (j.startClock now) sinks calls := by
  unfold Journal.startClock
  split
  · exact h
  · exact ⟨h.attached, h.delivered, h.counted, h.numbered, h.kept⟩

/-- The deliveries after one more call. -/
theorem Tells.deliveries_deliver (h : Tells j sinks calls) (call : Delivery) :
    (j.deliver call).deliveries =
      (calls ++ [call]).flatMap fun call => (sinks.filterMap id).map fun sink => (sink, call) := by
  rw [List.flatMap_append, List.flatMap_singleton, ← h.delivered, ← h.attached]
  rfl

theorem Tells.transition (h : Tells j sinks calls) (previous : CompanionLinkFailsafePhase)
    (current : CompanionLinkFailsafeSnapshot) (elapsed : Int) :
    Tells (j.deliver (.failsafeTransition previous current elapsed)) sinks
      (calls ++ [.failsafeTransition previous current elapsed]) := by
  have hevents : linkEventsOf (calls ++ [.failsafeTransition previous current elapsed]) =
      linkEventsOf calls := by
    rw [linkEventsOf_append]
    exact List.append_nil _
  refine ⟨h.attached, h.deliveries_deliver _, ?_, ?_, ?_⟩
  · rw [hevents]
    exact h.counted
  · rw [hevents]
    exact h.numbered
  · rw [hevents]
    exact h.kept

/-- A link event takes the next number, reaches every sink, and pushes the oldest one out of the
history. -/
theorem Tells.linkEvent (h : Tells j sinks calls) {event : LinkEvent}
    (hsequence : event.sequence = j.nextEventSequence + 1) :
    Tells
      { j.deliver (.linkEvent event) with
        nextEventSequence := j.nextEventSequence + 1
        linkEvents :=
          if kMaximumLinkEvents < (j.linkEvents ++ [event]).length then (j.linkEvents ++ [event]).tail
          else j.linkEvents ++ [event] } sinks (calls ++ [.linkEvent event]) := by
  have hevents : linkEventsOf (calls ++ [.linkEvent event]) = linkEventsOf calls ++ [event] :=
    linkEventsOf_append calls _
  have hnext : j.nextEventSequence + 1 = UInt64.ofNat ((linkEventsOf calls).length + 1) := by
    rw [UInt64.ofNat_add, ← h.counted]
    rfl
  refine ⟨h.attached, h.deliveries_deliver _, ?_, ?_, ?_⟩
  · show j.nextEventSequence + 1 = _
    rw [hevents, List.length_append, hnext]
    rfl
  · rw [hevents, List.length_append, List.length_singleton, List.range_succ, List.map_append,
      List.map_append, h.numbered, List.map_singleton, List.map_singleton, hsequence, hnext]
  · rw [hevents, ← rtake_push, ← h.kept]

theorem startClock_of_running {startedAt : TimePoint} (h : j.startedAt = some startedAt) (now : TimePoint) :
    j.startClock now = j := by
  rw [Journal.startClock, h]
  rfl

theorem startClock_startedAt (j : Journal) (now : TimePoint) :
    (j.startClock now).startedAt = some (j.startedAt.getD now) := by
  unfold Journal.startClock
  cases hstarted : j.startedAt with
  | none => rfl
  | some startedAt => exact hstarted

theorem Tells.recordEvent (h : Tells j sinks calls) {startedAt : TimePoint} (hclock : j.startedAt = some startedAt)
    (direction : LinkEventDirection) (status : LinkEventStatus) (label detail : String) (now : TimePoint) :
    ∃ event, Tells (j.recordEvent direction status label detail now) sinks (calls ++ [.linkEvent event]) ∧
      event.fact = ⟨direction, status, label, detail, elapsedSince startedAt now⟩ := by
  refine ⟨_, (h.startClock now).linkEvent rfl, ?_⟩
  rw [LinkEvent.fact, startClock_of_running hclock, Journal.elapsedAt, hclock]
  rfl

/-- A sink is told a call as often as it is attached. -/
theorem filterMap_calls (sinks : List (Option Nat)) (sink : Nat) (call : Delivery) :
    (((sinks.filterMap id).map fun other => (other, call)).filterMap fun delivery : Nat × Delivery =>
        if delivery.1 = sink then some delivery.2 else none) =
      List.replicate (sinks.count (some sink)) call := by
  induction sinks with
  | nil => rfl
  | cons entry sinks ih =>
      rw [List.count_cons]
      cases entry with
      | none =>
          rw [List.filterMap_cons_none rfl, ih]
          rfl
      | some other =>
          rw [List.filterMap_cons_some (f := id) (b := other) rfl, List.map_cons, List.filterMap_cons]
          by_cases hsame : other = sink
          · simp only [hsame, if_true, ih, beq_self_eq_true, List.replicate_succ]
          · simp only [hsame, if_false, ih, beq_iff_eq, Option.some.injEq, Nat.add_zero]

theorem Tells.toldTo (h : Tells j sinks calls) {sink : Nat} (honce : sinks.count (some sink) = 1) :
    j.toldTo sink = calls := by
  simp only [Journal.toldTo, h.delivered, List.filterMap_flatMap, filterMap_calls, honce]
  exact List.flatMap_singleton' calls

end Journal

/-! ### The phases that the failsafe goes through -/

namespace CompanionCore

/-- The failsafe's phase after each of some messages. -/
def ingestPhases (c : CompanionCore) (now : TimePoint) : List MavlinkMessage → List CompanionLinkFailsafePhase
  | [] => []
  | message :: messages =>
      let c := c.ingestMessage now message
      c.companionLinkFailsafe.snapshot.phase :: c.ingestPhases now messages

/-- Its phases in a poll: after each message, and after the vehicle was observed. -/
def phases (c : CompanionCore) : CompanionEvent → List CompanionLinkFailsafePhase
  | .poll _ now messages =>
      c.ingestPhases now messages ++ [(c.poll now messages).companionLinkFailsafe.snapshot.phase]
  | .snapshot _ => []

/-- Its phases in a run. -/
def runPhases (c : CompanionCore) : List CompanionEvent → List CompanionLinkFailsafePhase
  | [] => []
  | event :: events => c.phases event ++ (c.step event).runPhases events

end CompanionCore

namespace CompanionApplication

variable {ω : Type} {a b c : CompanionApplication ω}

/-! ### The link events that the steps raise -/

section Facts

variable (elapsed : Int)

/-- An acknowledgement to this component. -/
def ackFacts (a : CompanionApplication ω) (acknowledgement : CommandAck) : List LinkFact :=
  if acknowledgement.targetComponent == 0 || acknowledgement.targetComponent == kCompanionComponentId then
    [⟨.inbound, mapEventStatus acknowledgement.result, mavCommandName acknowledgement.command,
      acknowledgementDetail a.telemetryConfigurator.snapshot acknowledgement, elapsed⟩]
  else []

def handleFacts (a : CompanionApplication ω) (call : Option HandlerCall) : List LinkFact :=
  match call with
  | some (.commandAck acknowledgement) => ackFacts elapsed a acknowledgement
  | _ => []

def inputFacts (now : TimePoint) (a : CompanionApplication ω) : List MavlinkMessage → List LinkFact
  | [] => []
  | message :: messages =>
      handleFacts elapsed a (MavlinkDecoder.handleMessage a.vehicleState message now).2 ++
        inputFacts now (ingestMessage now a message) messages

def metadataFacts (a : CompanionApplication ω) (vehicle : VehicleSnapshot) : List LinkFact :=
  match vehicle.autopilotMetadata with
  | some metadata =>
      if a.autopilotMetadataWasAvailable then []
      else
        [⟨.inbound, .success, "AUTOPILOT_VERSION",
          toString metadata.firmwareMajor.toNat ++ "." ++ toString metadata.firmwareMinor.toNat ++ "." ++
            toString metadata.firmwarePatch.toNat, elapsed⟩]
  | none => []

def flightModeFacts (a : CompanionApplication ω) (vehicle : VehicleSnapshot) : List LinkFact :=
  match vehicle.flightMode with
  | some mode =>
      if some mode = a.previousFlightMode then []
      else [⟨.inbound, .success, "HEARTBEAT", "MODE " ++ flightModeName mode, elapsed⟩]
  | none => []

def armedFacts (a : CompanionApplication ω) (vehicle : VehicleSnapshot) : List LinkFact :=
  if a.previousArmed.any (· != vehicle.armed) then
    [⟨.inbound, .success, "HEARTBEAT", if vehicle.armed then "ARMED" else "DISARMED", elapsed⟩]
  else []

/-- A connection that is lost or new; while it lasts, what has changed. -/
def watchFacts (a : CompanionApplication ω) (vehicle : VehicleSnapshot) : List LinkFact :=
  if !vehicle.connected then
    if a.vehicleWasConnected then [⟨.inbound, .warning, "LINK", "HEARTBEAT LOST", elapsed⟩] else []
  else if !a.vehicleWasConnected then [⟨.inbound, .success, "HEARTBEAT", onlineDetail vehicle, elapsed⟩]
  else metadataFacts elapsed a vehicle ++ flightModeFacts elapsed a vehicle ++ armedFacts elapsed a vehicle

/-- A frame that was written, or that the transport has not taken. -/
def writeFact (sent : Bool) (label detail : String) : LinkFact :=
  ⟨.outbound, writeStatus sent, label, detail ++ writeFailure sent, elapsed⟩

variable (port : OutboundPort ω)

def setupFacts (a : CompanionApplication ω) (vehicle : VehicleSnapshot) (now : TimePoint) : List LinkFact :=
  let (configurator, frame) := a.telemetryConfigurator.update vehicle.connected vehicle.systemId now
  match frame with
  | none => []
  | some frame =>
      let setup := configurator.snapshot
      [writeFact elapsed (port.send a.port frame).1 "SET_INTERVAL"
        (setup.currentStream ++ " | ATTEMPT " ++ toString setup.attempt)]

def failsafeFacts (a : CompanionApplication ω) (vehicle : VehicleSnapshot) (telemetryReady : Bool)
    (now : TimePoint) : List LinkFact :=
  match telemetryReady, vehicle.systemId with
  | true, some systemId =>
      if now < a.nextFailsafeParameterRequest then []
      else
        [writeFact elapsed
          (port.send a.port (paramRequestRead systemId (failsafeParameterId a.failsafeParameterIndex))).1
          "PARAM READ" (failsafeParameterName a.failsafeParameterIndex)]
  | _, _ => []

def versionFacts (a : CompanionApplication ω) (vehicle : VehicleSnapshot) (systemId : UInt8) (now : TimePoint) :
    List LinkFact :=
  if vehicle.autopilotMetadata.isNone && decide (a.nextAutopilotVersionRequest ≤ now) then
    [writeFact elapsed (port.send a.port (encodeAutopilotVersionRequest systemId)).1 "REQUEST_VERSION"
      "AUTOPILOT_VERSION"]
  else []

def batteryFacts (a : CompanionApplication ω) (vehicle : VehicleSnapshot) (systemId : UInt8) (now : TimePoint) :
    List LinkFact :=
  if vehicle.batteryArmingVoltageV.isSome || decide (now < a.nextBatteryParameterRequest) then []
  else
    [writeFact elapsed (port.send a.port (encodeBatteryArmingVoltageRequest systemId)).1 "PARAM READ"
      "BATT_ARM_VOLT"]

def requestFacts (a : CompanionApplication ω) (vehicle : VehicleSnapshot) (telemetryReady : Bool) (now : TimePoint) :
    List LinkFact :=
  match telemetryReady, vehicle.systemId with
  | true, some systemId =>
      versionFacts elapsed port a vehicle systemId now ++
        batteryFacts elapsed port (a.requestAutopilotVersion port vehicle systemId now) vehicle systemId now
  | _, _ => []

/-- The part of a poll after the snapshot: the heartbeat is the one frame that no event tells of. -/
def actFacts (a : CompanionApplication ω) (vehicle : VehicleSnapshot) (now : TimePoint) : List LinkFact :=
  let beaten := (a.updateVehicleConnection vehicle now).sendCompanionHeartbeat port vehicle now
  let configured := beaten.updateTelemetrySetup port vehicle now
  let requested := configured.requestFailsafeParameter port vehicle configured.telemetryReady now
  watchFacts elapsed a vehicle ++ setupFacts elapsed port beaten vehicle now ++
    failsafeFacts elapsed port configured vehicle configured.telemetryReady now ++
    requestFacts elapsed port requested vehicle configured.telemetryReady now

end Facts

section Runs

variable (port : OutboundPort ω)

/-- The link events of a step. The clock has been running since the first step. -/
def stepFacts (a : CompanionApplication ω) : CompanionEvent → List LinkFact
  | .poll cameraNow now messages =>
      let elapsed := elapsedSince (a.journal.startedAt.getD cameraNow) now
      inputFacts elapsed now { a with journal := a.journal.startClock cameraNow } messages ++
        actFacts elapsed port (a.afterInputs cameraNow now messages)
          ((a.pollInputs cameraNow now messages).vehicleState.snapshot now).2 now
  | .snapshot _ => []

/-- The link events of a run. -/
def runFacts (a : CompanionApplication ω) : List CompanionEvent → List LinkFact
  | [] => []
  | event :: events => stepFacts port a event ++ runFacts (a.step port event) events

end Runs

/-! ### Steps that record link events and no transition -/

/-- While the clock is running, these link events are recorded. -/
structure EventsOnly (startedAt : TimePoint) (facts : List LinkFact) (a a' : CompanionApplication ω) : Prop where
  phase : a'.previousFailsafePhase = a.previousFailsafePhase
  clock : a.journal.startedAt = some startedAt → a'.journal.startedAt = some startedAt
  journal : a.journal.startedAt = some startedAt → ∀ sinks calls, a.journal.Tells sinks calls →
    ∃ events : List LinkEvent, a'.journal.Tells sinks (calls ++ events.map Delivery.linkEvent) ∧
      events.map LinkEvent.fact = facts

variable {startedAt : TimePoint} {first second : List LinkFact}

theorem EventsOnly.of_eq (hphase : b.previousFailsafePhase = a.previousFailsafePhase)
    (hjournal : b.journal = a.journal) : EventsOnly startedAt [] a b := by
  refine ⟨hphase, fun hclock => by rw [hjournal, hclock], ?_⟩
  intro _ sinks calls h
  rw [hjournal]
  exact ⟨[], by rw [List.map_nil, List.append_nil]; exact h, rfl⟩

theorem EventsOnly.trans (hab : EventsOnly startedAt first a b) (hbc : EventsOnly startedAt second b c) :
    EventsOnly startedAt (first ++ second) a c := by
  refine ⟨hbc.phase.trans hab.phase, fun hclock => hbc.clock (hab.clock hclock), ?_⟩
  intro hclock sinks calls h
  obtain ⟨before, hbefore, hfirst⟩ := hab.journal hclock sinks calls h
  obtain ⟨after, hafter, hsecond⟩ := hbc.journal (hab.clock hclock) sinks _ hbefore
  refine ⟨before ++ after, ?_, ?_⟩
  · rw [List.map_append, ← List.append_assoc]
    exact hafter
  · rw [List.map_append, hfirst, hsecond]

/-- A change of something else behind the events. -/
theorem EventsOnly.and_set (hab : EventsOnly startedAt first a b)
    (hphase : c.previousFailsafePhase = b.previousFailsafePhase) (hjournal : c.journal = b.journal) :
    EventsOnly startedAt first a c := by
  have htrans := hab.trans (.of_eq hphase hjournal)
  rwa [List.append_nil] at htrans

theorem recordEvent_eventsOnly (a : CompanionApplication ω) (direction : LinkEventDirection)
    (status : LinkEventStatus) (label detail : String) (now : TimePoint) :
    EventsOnly startedAt [⟨direction, status, label, detail, elapsedSince startedAt now⟩] a
      (a.recordEvent direction status label detail now) := by
  refine ⟨rfl, fun hclock => ?_, ?_⟩
  · show (a.journal.startClock now).startedAt = _
    rw [Journal.startClock_of_running hclock, hclock]
  · intro hclock sinks calls h
    obtain ⟨event, hevent, hfact⟩ := h.recordEvent hclock direction status label detail now
    exact ⟨[event], hevent, congrArg (fun fact => [fact]) hfact⟩

theorem recordActivity_eventsOnly (a : CompanionApplication ω) (direction : LinkEventDirection)
    (messageName detail : String) (now : TimePoint) :
    EventsOnly startedAt [] a (a.recordActivity direction messageName detail now) := by
  refine ⟨rfl, fun hclock => ?_, ?_⟩
  · show (a.journal.startClock now).startedAt = _
    rw [Journal.startClock_of_running hclock, hclock]
  · intro _ sinks calls h
    exact ⟨[], by rw [List.map_nil, List.append_nil]; exact h.startClock now, rfl⟩

theorem onMessage_eventsOnly (a : CompanionApplication ω) (message : MavlinkMessage) (now : TimePoint) :
    EventsOnly startedAt [] a (a.onMessage message now) := recordActivity_eventsOnly a ..

theorem onCommandAck_eventsOnly (a : CompanionApplication ω) (acknowledgement : CommandAck)
    (now : TimePoint) :
    EventsOnly startedAt (ackFacts (elapsedSince startedAt now) a acknowledgement) a
      (a.onCommandAck acknowledgement now) := by
  simp only [onCommandAck, ackFacts]
  split
  · have hrecorded : EventsOnly startedAt _ a _ := (recordEvent_eventsOnly a .inbound
      (mapEventStatus acknowledgement.result) (mavCommandName acknowledgement.command)
      (acknowledgementDetail a.telemetryConfigurator.snapshot acknowledgement) now).trans
      (recordActivity_eventsOnly _ .inbound "COMMAND_ACK"
        (commandAckActivityDetail acknowledgement.command acknowledgement.result) now)
    exact hrecorded.and_set rfl rfl
  · exact .of_eq rfl rfl

theorem observeMetadata_eventsOnly (a : CompanionApplication ω) (vehicle : VehicleSnapshot)
    (now : TimePoint) :
    EventsOnly startedAt (metadataFacts (elapsedSince startedAt now) a vehicle) a
      (a.observeMetadata vehicle now) := by
  unfold observeMetadata metadataFacts
  cases vehicle.autopilotMetadata with
  | none => exact .of_eq rfl rfl
  | some metadata =>
      dsimp only
      split
      · exact .of_eq rfl rfl
      · exact (recordEvent_eventsOnly a ..).and_set rfl rfl

theorem observeFlightMode_eventsOnly (a : CompanionApplication ω) (vehicle : VehicleSnapshot)
    (now : TimePoint) :
    EventsOnly startedAt (flightModeFacts (elapsedSince startedAt now) a vehicle) a
      (a.observeFlightMode vehicle now) := by
  unfold observeFlightMode flightModeFacts
  cases vehicle.flightMode with
  | none => exact .of_eq rfl rfl
  | some mode =>
      dsimp only
      split
      · exact .of_eq rfl rfl
      · exact (recordEvent_eventsOnly a ..).and_set rfl rfl

theorem observeArmed_eventsOnly (a : CompanionApplication ω) (vehicle : VehicleSnapshot) (now : TimePoint) :
    EventsOnly startedAt (armedFacts (elapsedSince startedAt now) a vehicle) a (a.observeArmed vehicle now) := by
  simp only [observeArmed, armedFacts]
  split
  · exact (recordEvent_eventsOnly a ..).and_set rfl rfl
  · exact .of_eq rfl rfl

theorem flightModeFacts_observeMetadata (elapsed : Int) (a : CompanionApplication ω) (vehicle : VehicleSnapshot)
    (now : TimePoint) :
    flightModeFacts elapsed (a.observeMetadata vehicle now) vehicle = flightModeFacts elapsed a vehicle := by
  have hsame : (a.observeMetadata vehicle now).previousFlightMode = a.previousFlightMode := by
    unfold observeMetadata
    cases vehicle.autopilotMetadata with
    | none => rfl
    | some metadata =>
        dsimp only
        split <;> rfl
  unfold flightModeFacts
  rw [hsame]

theorem armedFacts_observe (elapsed : Int) (a : CompanionApplication ω) (vehicle : VehicleSnapshot)
    (now : TimePoint) :
    armedFacts elapsed ((a.observeMetadata vehicle now).observeFlightMode vehicle now) vehicle =
      armedFacts elapsed a vehicle := by
  have hmode (b : CompanionApplication ω) : (b.observeFlightMode vehicle now).previousArmed = b.previousArmed := by
    unfold observeFlightMode
    cases vehicle.flightMode with
    | none => rfl
    | some mode =>
        dsimp only
        split <;> rfl
  have hmetadata : (a.observeMetadata vehicle now).previousArmed = a.previousArmed := by
    unfold observeMetadata
    cases vehicle.autopilotMetadata with
    | none => rfl
    | some metadata =>
        dsimp only
        split <;> rfl
  unfold armedFacts
  rw [hmode, hmetadata]

theorem observeVehicle_eventsOnly (a : CompanionApplication ω) (vehicle : VehicleSnapshot)
    (now : TimePoint) :
    EventsOnly startedAt (watchFacts (elapsedSince startedAt now) a vehicle) a (a.observeVehicle vehicle now) := by
  simp only [observeVehicle, watchFacts]
  split
  · split
    · exact (recordEvent_eventsOnly a ..).and_set rfl rfl
    · exact .of_eq rfl rfl
  split
  · exact (recordEvent_eventsOnly a ..).and_set rfl rfl
  · rw [← flightModeFacts_observeMetadata _ a vehicle now, ← armedFacts_observe _ a vehicle now]
    exact ((observeMetadata_eventsOnly a vehicle now).trans (observeFlightMode_eventsOnly _ vehicle now)).trans
      (observeArmed_eventsOnly _ vehicle now)

section Schedulers

variable (port : OutboundPort ω)

theorem writeFrame_sent (a : CompanionApplication ω) (frame : OutboundMessage) (now : TimePoint)
    (messageName detail : String) :
    (a.writeFrame port frame now messageName detail).1 = (port.send a.port frame).1 := by
  simp only [writeFrame]
  split
  · rename_i hsent
    exact hsent.symm
  · rename_i hsent
    exact (Bool.eq_false_iff.mpr hsent).symm

theorem writeFrame_eventsOnly (a : CompanionApplication ω) (frame : OutboundMessage) (now : TimePoint)
    (messageName detail : String) :
    EventsOnly startedAt [] a (a.writeFrame port frame now messageName detail).2 := by
  have hhanded : EventsOnly startedAt [] a
      { a with port := (port.send a.port frame).2, handed := a.handed ++ [frame] } := .of_eq rfl rfl
  simp only [writeFrame]
  split
  · exact hhanded.trans (recordActivity_eventsOnly _ .outbound messageName detail now)
  · exact hhanded

/-- A frame is handed to the transport, and the attempt recorded. -/
theorem attempt_eventsOnly (a : CompanionApplication ω) (frame : OutboundMessage) (now : TimePoint)
    (messageName activity label detail : String) {b : CompanionApplication ω}
    (hphase : b.previousFailsafePhase = (a.writeFrame port frame now messageName activity).2.previousFailsafePhase)
    (hjournal : b.journal = (a.writeFrame port frame now messageName activity).2.journal) :
    EventsOnly startedAt
      [writeFact (elapsedSince startedAt now) (port.send a.port frame).1 label detail] a
      (b.recordEvent .outbound (writeStatus (a.writeFrame port frame now messageName activity).1) label
        (detail ++ writeFailure (a.writeFrame port frame now messageName activity).1) now) := by
  rw [writeFrame_sent]
  exact ((writeFrame_eventsOnly port a frame now messageName activity).and_set hphase hjournal).trans
    (recordEvent_eventsOnly b ..)

theorem sendCompanionHeartbeat_eventsOnly (a : CompanionApplication ω) (vehicle : VehicleSnapshot)
    (now : TimePoint) : EventsOnly startedAt [] a (a.sendCompanionHeartbeat port vehicle now) := by
  simp only [sendCompanionHeartbeat]
  split
  · exact .of_eq rfl rfl
  split
  · split
    · exact (writeFrame_eventsOnly port a _ now _ _).and_set rfl rfl
    · exact (writeFrame_eventsOnly port a _ now _ _).and_set rfl rfl
  · exact .of_eq rfl rfl

theorem updateTelemetrySetup_eventsOnly (a : CompanionApplication ω) (vehicle : VehicleSnapshot)
    (now : TimePoint) :
    EventsOnly startedAt (setupFacts (elapsedSince startedAt now) port a vehicle now) a
      (a.updateTelemetrySetup port vehicle now) := by
  unfold updateTelemetrySetup setupFacts
  generalize a.telemetryConfigurator.update vehicle.connected vehicle.systemId now = updated
  obtain ⟨configurator, frame⟩ := updated
  have hupdated : EventsOnly startedAt [] a { a with telemetryConfigurator := configurator } := .of_eq rfl rfl
  cases frame with
  | none => exact hupdated
  | some frame =>
      let setup := configurator.snapshot
      exact hupdated.trans (attempt_eventsOnly port { a with telemetryConfigurator := configurator } frame now
        "COMMAND_LONG" ("SET_INTERVAL " ++ setup.currentStream) "SET_INTERVAL"
        (setup.currentStream ++ " | ATTEMPT " ++ toString setup.attempt) rfl rfl)

theorem requestFailsafeParameter_eventsOnly (a : CompanionApplication ω) (vehicle : VehicleSnapshot)
    (telemetryReady : Bool) (now : TimePoint) :
    EventsOnly startedAt (failsafeFacts (elapsedSince startedAt now) port a vehicle telemetryReady now) a
      (a.requestFailsafeParameter port vehicle telemetryReady now) := by
  unfold requestFailsafeParameter failsafeFacts
  cases telemetryReady with
  | false => exact .of_eq rfl rfl
  | true =>
      cases vehicle.systemId with
      | none => exact .of_eq rfl rfl
      | some systemId =>
          dsimp only
          split
          · exact .of_eq rfl rfl
          · have hattempt : EventsOnly startedAt _ a _ := attempt_eventsOnly port a
              (paramRequestRead systemId (failsafeParameterId a.failsafeParameterIndex)) now
              "PARAM_REQUEST_READ" (failsafeParameterName a.failsafeParameterIndex) "PARAM READ"
              (failsafeParameterName a.failsafeParameterIndex) rfl rfl
            split
            · exact hattempt.and_set rfl rfl
            · exact hattempt.and_set rfl rfl

theorem requestAutopilotVersion_eventsOnly (a : CompanionApplication ω) (vehicle : VehicleSnapshot)
    (systemId : UInt8) (now : TimePoint) :
    EventsOnly startedAt (versionFacts (elapsedSince startedAt now) port a vehicle systemId now) a
      (a.requestAutopilotVersion port vehicle systemId now) := by
  simp only [requestAutopilotVersion, versionFacts]
  split
  · exact attempt_eventsOnly port a _ now _ _ _ _ rfl rfl
  · exact .of_eq rfl rfl

theorem requestBatteryParameter_eventsOnly (a : CompanionApplication ω) (vehicle : VehicleSnapshot)
    (systemId : UInt8) (now : TimePoint) :
    EventsOnly startedAt (batteryFacts (elapsedSince startedAt now) port a vehicle systemId now) a
      (a.requestBatteryParameter port vehicle systemId now) := by
  simp only [requestBatteryParameter, batteryFacts]
  split
  · exact .of_eq rfl rfl
  · exact attempt_eventsOnly port a _ now _ _ _ _ rfl rfl

theorem requestVehicleMetadata_eventsOnly (a : CompanionApplication ω) (vehicle : VehicleSnapshot)
    (telemetryReady : Bool) (now : TimePoint) :
    EventsOnly startedAt (requestFacts (elapsedSince startedAt now) port a vehicle telemetryReady now) a
      (a.requestVehicleMetadata port vehicle telemetryReady now) := by
  unfold requestVehicleMetadata requestFacts
  cases telemetryReady with
  | false => exact .of_eq rfl rfl
  | true =>
      cases vehicle.systemId with
      | none => exact .of_eq rfl rfl
      | some systemId =>
          exact (requestAutopilotVersion_eventsOnly port a vehicle systemId now).trans
            (requestBatteryParameter_eventsOnly port _ vehicle systemId now)

theorem watchFacts_observeFailsafePhase (elapsed : Int) (a : CompanionApplication ω) (vehicle : VehicleSnapshot)
    (now : TimePoint) :
    watchFacts elapsed (a.observeFailsafePhase now) vehicle = watchFacts elapsed a vehicle := by
  simp only [observeFailsafePhase]
  split <;> rfl

/-- What follows the failsafe in `update_vehicle_connection`. -/
theorem updateVehicleConnection_eventsOnly (a : CompanionApplication ω) (vehicle : VehicleSnapshot)
    (now : TimePoint) :
    EventsOnly startedAt (watchFacts (elapsedSince startedAt now) a vehicle)
      ({ a with companionLinkFailsafe :=
          a.companionLinkFailsafe.observeVehicle vehicle.connected vehicle.systemId }.observeFailsafePhase now)
      (a.updateVehicleConnection vehicle now) := by
  have hsame := watchFacts_observeFailsafePhase (elapsedSince startedAt now)
    { a with companionLinkFailsafe := a.companionLinkFailsafe.observeVehicle vehicle.connected vehicle.systemId }
    vehicle now
  rw [show watchFacts (elapsedSince startedAt now) a vehicle = _ from hsame.symm]
  simp only [updateVehicleConnection]
  generalize CompanionApplication.observeFailsafePhase _ now = b
  generalize hrestarted : ({ b with
      failsafeParameterIndex := 0
      nextFailsafeParameterRequest := now } : CompanionApplication ω) = restarted
  have hrestart : EventsOnly startedAt [] b restarted := by
    subst hrestarted
    exact .of_eq rfl rfl
  have hobserved : EventsOnly startedAt (watchFacts (elapsedSince startedAt now) b vehicle) b
      (restarted.observeVehicle vehicle now) := by
    have hrestartedFacts : watchFacts (elapsedSince startedAt now) restarted vehicle =
        watchFacts (elapsedSince startedAt now) b vehicle := by
      subst hrestarted
      rfl
    rw [← hrestartedFacts]
    exact hrestart.trans (observeVehicle_eventsOnly restarted vehicle now)
  split <;> split
  · exact hobserved.and_set rfl rfl
  · exact (observeVehicle_eventsOnly b vehicle now).and_set rfl rfl
  · exact hobserved
  · exact observeVehicle_eventsOnly b vehicle now

/-- What follows the failsafe in a poll. -/
theorem act_eventsOnly (a : CompanionApplication ω) (vehicle : VehicleSnapshot) (now : TimePoint) :
    EventsOnly startedAt (actFacts (elapsedSince startedAt now) port a vehicle now)
      ({ a with companionLinkFailsafe :=
          a.companionLinkFailsafe.observeVehicle vehicle.connected vehicle.systemId }.observeFailsafePhase now)
      (a.act port vehicle now) := by
  have hbeaten : EventsOnly startedAt _ _ _ := (updateVehicleConnection_eventsOnly a vehicle now).trans
    (sendCompanionHeartbeat_eventsOnly port _ vehicle now)
  rw [List.append_nil] at hbeaten
  exact ((hbeaten.trans (updateTelemetrySetup_eventsOnly port _ vehicle now)).trans
    (requestFailsafeParameter_eventsOnly port _ vehicle _ now)).trans
    (requestVehicleMetadata_eventsOnly port _ vehicle _ now)

end Schedulers

/-! ### The log and the phases -/

/-- The calls made so far report the changes of the phases seen so far, and these link events. -/
structure Watches (a : CompanionApplication ω) (sinks : List (Option Nat)) (clock : Option TimePoint)
    (seen : List CompanionLinkFailsafePhase) (facts : List LinkFact) : Prop where
  phase : a.previousFailsafePhase = seen.getLastD .waitingForVehicle
  clock : a.journal.startedAt = clock
  log : ∃ calls, a.journal.Tells sinks calls ∧ transitionsOf calls = changes .waitingForVehicle seen ∧
    (linkEventsOf calls).map LinkEvent.fact = facts

variable {sinks : List (Option Nat)} {clock : Option TimePoint} {seen : List CompanionLinkFailsafePhase}
  {facts : List LinkFact}

theorem EventsOnly.watches (hab : EventsOnly startedAt first a b)
    (h : a.Watches sinks (some startedAt) seen facts) : b.Watches sinks (some startedAt) seen (facts ++ first) := by
  obtain ⟨calls, hcalls, htransitions, hfacts⟩ := h.log
  obtain ⟨events, hevents, hfirst⟩ := hab.journal h.clock sinks calls hcalls
  refine ⟨hab.phase.trans h.phase, hab.clock h.clock, _, hevents, ?_, ?_⟩
  · have hnone : transitionsOf (events.map Delivery.linkEvent) = [] := by
      rw [transitionsOf, List.filterMap_map]
      exact List.filterMap_eq_nil_iff.mpr fun _ _ => rfl
    rw [transitionsOf_append, hnone, List.append_nil, htransitions]
  · have hall : linkEventsOf (events.map Delivery.linkEvent) = events := by
      rw [linkEventsOf, List.filterMap_map]
      exact List.filterMap_some
    rw [linkEventsOf_append, hall, List.map_append, hfacts, hfirst]

/-- A phase that was just seen is seen again. -/
theorem Watches.again (h : a.Watches sinks clock seen facts)
    (hcurrent : a.previousFailsafePhase = a.companionLinkFailsafe.snapshot.phase) :
    a.Watches sinks clock (seen ++ [a.companionLinkFailsafe.snapshot.phase]) facts := by
  obtain ⟨calls, hcalls, htransitions, hfacts⟩ := h.log
  refine ⟨?_, h.clock, calls, hcalls, ?_, hfacts⟩
  · rw [List.getLastD_concat, hcurrent]
  · rw [changes_append, changes_singleton, ← h.phase, if_pos hcurrent.symm, List.append_nil, htransitions]

theorem observeFailsafePhase_current (a : CompanionApplication ω) (now : TimePoint) :
    (a.observeFailsafePhase now).previousFailsafePhase = a.companionLinkFailsafe.snapshot.phase := by
  simp only [observeFailsafePhase, beq_iff_eq]
  split
  · rename_i hsame
    exact hsame.symm
  · rfl

theorem Watches.observeFailsafePhase (h : a.Watches sinks clock seen facts) (now : TimePoint) :
    (a.observeFailsafePhase now).Watches sinks clock (seen ++ [a.companionLinkFailsafe.snapshot.phase]) facts := by
  have hcurrent := observeFailsafePhase_current a now
  simp only [CompanionApplication.observeFailsafePhase, beq_iff_eq] at hcurrent ⊢
  split
  · rename_i hsame
    exact h.again hsame.symm
  · rename_i hother
    obtain ⟨calls, hcalls, htransitions, hfacts⟩ := h.log
    refine ⟨by rw [List.getLastD_concat], h.clock, _, hcalls.transition .., ?_, ?_⟩
    · rw [transitionsOf_append, changes_append, changes_singleton, ← h.phase, if_neg hother, htransitions]
      rfl
    · rw [linkEventsOf_append, List.map_append, hfacts]
      exact List.append_nil _

/-- The phase that was last reported is the failsafe's. -/
def UpToDate (a : CompanionApplication ω) : Prop :=
  a.previousFailsafePhase = a.companionLinkFailsafe.snapshot.phase

theorem onParameter_eventsOnly (a : CompanionApplication ω) (parameter : ParameterValue) (now : TimePoint) :
    EventsOnly startedAt []
      ({ a with
          companionLinkFailsafe := a.companionLinkFailsafe.onParameter parameter.sourceSystem
            parameter.sourceComponent parameter.id parameter.value }.observeFailsafePhase now)
      (a.onParameter parameter now) := by
  simp only [onParameter]
  split
  · exact recordActivity_eventsOnly ..
  · exact .of_eq rfl rfl

theorem handle_watches (h : a.Watches sinks (some startedAt) seen facts) (hcurrent : a.UpToDate)
    (call : Option HandlerCall) (now : TimePoint) :
    (a.handle call now).Watches sinks (some startedAt)
        (seen ++ [(a.handle call now).companionLinkFailsafe.snapshot.phase])
        (facts ++ handleFacts (elapsedSince startedAt now) a call) ∧
      (a.handle call now).UpToDate := by
  rcases call with _ | ⟨acknowledgement | parameter⟩
  · refine ⟨?_, hcurrent⟩
    show a.Watches sinks (some startedAt) (seen ++ [a.companionLinkFailsafe.snapshot.phase]) (facts ++ [])
    rw [List.append_nil]
    exact h.again hcurrent
  · have hevents : EventsOnly startedAt _ a _ := onCommandAck_eventsOnly a acknowledgement now
    have hsame : (a.onCommandAck acknowledgement now).companionLinkFailsafe = a.companionLinkFailsafe :=
      congrArg CompanionCore.companionLinkFailsafe (onCommandAck_core a acknowledgement now)
    have hcurrent' : (a.onCommandAck acknowledgement now).UpToDate := by
      rw [UpToDate, hevents.phase, hsame]
      exact hcurrent
    exact ⟨(hevents.watches h).again hcurrent', hcurrent'⟩
  · have hevents : EventsOnly startedAt _ _ _ := onParameter_eventsOnly a parameter now
    have hsame := congrArg CompanionCore.companionLinkFailsafe (onParameter_quiet a parameter now).core
    have hstored : Watches { a with
        companionLinkFailsafe := a.companionLinkFailsafe.onParameter parameter.sourceSystem
          parameter.sourceComponent parameter.id parameter.value } sinks (some startedAt) seen facts :=
      ⟨h.phase, h.clock, h.log⟩
    refine ⟨?_, ?_⟩
    · show (a.onParameter parameter now).Watches sinks (some startedAt)
        (seen ++ [(a.onParameter parameter now).companionLinkFailsafe.snapshot.phase]) (facts ++ [])
      rw [show (a.onParameter parameter now).companionLinkFailsafe = _ from hsame]
      exact hevents.watches (hstored.observeFailsafePhase now)
    · show (a.onParameter parameter now).UpToDate
      rw [UpToDate, hevents.phase, observeFailsafePhase_current,
        show (a.onParameter parameter now).companionLinkFailsafe = _ from hsame]
      rfl

/-- The events of some messages, once the clock is running. -/
theorem ingest_watches (now : TimePoint) (messages : List MavlinkMessage) :
    ∀ (a : CompanionApplication ω) (seen : List CompanionLinkFailsafePhase) (facts : List LinkFact),
      a.Watches sinks (some startedAt) seen facts → a.UpToDate →
      (messages.foldl (ingestMessage now) a).Watches sinks (some startedAt)
        (seen ++ a.core.ingestPhases now messages)
        (facts ++ inputFacts (elapsedSince startedAt now) now a messages) := by
  induction messages with
  | nil =>
      intro a seen facts h _
      rw [CompanionCore.ingestPhases, inputFacts, List.append_nil, List.append_nil]
      exact h
  | cons message messages ih =>
      intro a seen facts h hcurrent
      have hactivity : EventsOnly startedAt [] a { a.onMessage message now with
          vehicleState := (MavlinkDecoder.handleMessage a.vehicleState message now).1 } :=
        (onMessage_eventsOnly a message now).and_set rfl rfl
      have hnoted := hactivity.watches h
      rw [List.append_nil] at hnoted
      obtain ⟨hmessage, hlater⟩ := handle_watches hnoted hcurrent
        (MavlinkDecoder.handleMessage a.vehicleState message now).2 now
      rw [CompanionCore.ingestPhases, inputFacts, ← ingestMessage_core, List.append_cons, ← List.append_assoc]
      exact ih (ingestMessage now a message) _ _ hmessage hlater

theorem pollInputs_watches (h : a.Watches sinks clock seen facts) (hcurrent : a.UpToDate)
    (cameraNow now : TimePoint) (messages : List MavlinkMessage) :
    (a.pollInputs cameraNow now messages).Watches sinks (some (clock.getD cameraNow))
      (seen ++ a.core.ingestPhases now messages)
      (facts ++ inputFacts (elapsedSince (clock.getD cameraNow) now) now
        { a with journal := a.journal.startClock cameraNow } messages) := by
  obtain ⟨calls, hcalls, hlog⟩ := h.log
  have hclock := a.journal.startClock_startedAt cameraNow
  rw [h.clock] at hclock
  exact ingest_watches now messages { a with journal := a.journal.startClock cameraNow } seen facts
    ⟨h.phase, hclock, calls, hcalls.startClock cameraNow, hlog⟩ hcurrent

variable (port : OutboundPort ω)

theorem act_watches (h : a.Watches sinks (some startedAt) seen facts) (vehicle : VehicleSnapshot)
    (now : TimePoint) :
    (a.act port vehicle now).Watches sinks (some startedAt)
        (seen ++ [(a.act port vehicle now).companionLinkFailsafe.snapshot.phase])
        (facts ++ actFacts (elapsedSince startedAt now) port a vehicle now) ∧
      (a.act port vehicle now).UpToDate := by
  have hevents : EventsOnly startedAt _ _ _ := act_eventsOnly port a vehicle now
  have hsame : (a.act port vehicle now).companionLinkFailsafe =
      a.companionLinkFailsafe.observeVehicle vehicle.connected vehicle.systemId :=
    congrArg CompanionCore.companionLinkFailsafe (act_core port a vehicle now)
  have hobserved : Watches { a with companionLinkFailsafe :=
      a.companionLinkFailsafe.observeVehicle vehicle.connected vehicle.systemId } sinks (some startedAt) seen facts :=
    ⟨h.phase, h.clock, h.log⟩
  refine ⟨?_, ?_⟩
  · rw [hsame]
    exact hevents.watches (hobserved.observeFailsafePhase now)
  · rw [UpToDate, hevents.phase, observeFailsafePhase_current, hsame]

/-- The clock after a step. -/
def clockAfter (clock : Option TimePoint) : CompanionEvent → Option TimePoint
  | .poll cameraNow _ _ => some (clock.getD cameraNow)
  | .snapshot now => some (clock.getD now)

theorem step_watches (h : a.Watches sinks clock seen facts) (hcurrent : a.UpToDate) (event : CompanionEvent) :
    (a.step port event).Watches sinks (clockAfter clock event) (seen ++ a.core.phases event)
        (facts ++ stepFacts port a event) ∧
      (a.step port event).UpToDate := by
  cases event with
  | poll cameraNow now messages =>
      have hinputs := pollInputs_watches h hcurrent cameraNow now messages
      have hpruned : Watches (a.afterInputs cameraNow now messages) sinks (some (clock.getD cameraNow))
          (seen ++ a.core.ingestPhases now messages) _ :=
        ⟨hinputs.phase, hinputs.clock, hinputs.log⟩
      obtain ⟨hact, hlater⟩ := act_watches port hpruned
        ((a.pollInputs cameraNow now messages).vehicleState.snapshot now).2 now
      refine ⟨?_, hlater⟩
      rw [CompanionCore.phases, stepFacts, h.clock, ← List.append_assoc, ← List.append_assoc,
        ← poll_core port a cameraNow now messages]
      exact hact
  | snapshot now =>
      obtain ⟨calls, hcalls, hlog⟩ := h.log
      have hclock := a.journal.startClock_startedAt now
      rw [h.clock] at hclock
      rw [CompanionCore.phases, stepFacts, List.append_nil, List.append_nil]
      exact ⟨⟨h.phase, hclock, calls, hcalls.startClock now, hlog⟩, hcurrent⟩

theorem run_watches (events : List CompanionEvent) : ∀ (a : CompanionApplication ω) (clock : Option TimePoint)
    (seen : List CompanionLinkFailsafePhase) (facts : List LinkFact), a.Watches sinks clock seen facts → a.UpToDate →
    (run port a events).Watches sinks (events.foldl clockAfter clock) (seen ++ a.core.runPhases events)
        (facts ++ runFacts port a events) ∧
      (run port a events).UpToDate := by
  induction events with
  | nil =>
      intro a clock seen facts h hcurrent
      rw [CompanionCore.runPhases, runFacts, List.append_nil, List.append_nil]
      exact ⟨h, hcurrent⟩
  | cons event events ih =>
      intro a clock seen facts h hcurrent
      obtain ⟨hstep, hlater⟩ := step_watches port h hcurrent event
      rw [CompanionCore.runPhases, runFacts, ← step_core port, ← List.append_assoc, ← List.append_assoc]
      exact ih (a.step port event) _ _ _ hstep hlater

/-- One log of calls reaches every sink in full. Its link events are those that the steps raise, in their order,
numbered from 1 on by a counter of 64 bits; a snapshot shows the last eight of them; and its transitions are the
changes of the failsafe's phase: they lead from `waiting_for_vehicle` to the current phase, and replaying them
visits every phase. -/
theorem run_delivers (world : ω) (simulatedWind : Option SimulatedWindProfile)
    (observationSinks : List (Option Nat)) (events : List CompanionEvent) :
    let a := run port (start world simulatedWind observationSinks) events
    let phases := (start world simulatedWind observationSinks).core.runPhases events
    ∃ calls,
      (a.journal.deliveries =
          calls.flatMap fun call => (observationSinks.filterMap id).map fun sink => (sink, call)) ∧
      (∀ sink, observationSinks.count (some sink) = 1 → a.journal.toldTo sink = calls) ∧
      ((linkEventsOf calls).map LinkEvent.fact =
        runFacts port (start world simulatedWind observationSinks) events) ∧
      ((linkEventsOf calls).map LinkEvent.sequence =
        (List.range (linkEventsOf calls).length).map fun index => UInt64.ofNat (index + 1)) ∧
      ((linkEventsOf calls).length < 2 ^ 64 →
        (linkEventsOf calls).map (fun event => event.sequence.toNat) =
          List.range' 1 (linkEventsOf calls).length) ∧
      (∀ now camera vision, (a.snapshot now camera vision).2.linkEvents =
        (linkEventsOf calls).drop ((linkEventsOf calls).length - min 8 (linkEventsOf calls).length)) ∧
      Linked .waitingForVehicle (transitionsOf calls) a.companionLinkFailsafe.snapshot.phase ∧
      .waitingForVehicle :: (transitionsOf calls).map Prod.snd =
        (.waitingForVehicle :: phases).destutter (· ≠ ·) := by
  intro a phases
  have hstart : (start world simulatedWind observationSinks).Watches observationSinks none [] [] :=
    ⟨rfl, rfl, [], Journal.tells_fresh observationSinks, rfl, rfl⟩
  obtain ⟨hwatches, hcurrent⟩ := run_watches port events _ _ _ _ hstart rfl
  obtain ⟨calls, hcalls, htransitions, hfacts⟩ := hwatches.log
  refine ⟨calls, hcalls.delivered, fun _ honce => hcalls.toldTo honce, hfacts, hcalls.numbered, ?_, ?_, ?_, ?_⟩
  · intro hbound
    rw [show (fun event : LinkEvent => event.sequence.toNat) = UInt64.toNat ∘ LinkEvent.sequence from rfl,
      ← List.map_map, hcalls.numbered, List.map_map, List.range'_eq_map_range]
    apply List.map_congr_left
    intro index hindex
    have hless : index + 1 < 2 ^ 64 := by
      have := List.mem_range.mp hindex
      omega
    exact (UInt64.toNat_ofNat_of_lt' hless).trans (Nat.add_comm index 1)
  · intro now camera vision
    show a.journal.linkEvents = _
    rw [hcalls.kept, List.rtake]
    congr 1
    rw [kMaximumLinkEvents]
    omega
  · rw [htransitions, show a.companionLinkFailsafe.snapshot.phase = _ from hcurrent.symm.trans hwatches.phase]
    exact linked_changes ..
  · rw [htransitions, replay_changes]
    rfl

end CompanionApplication
end OnboardAutonomy
