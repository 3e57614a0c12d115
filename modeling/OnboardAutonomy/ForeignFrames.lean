import OnboardAutonomy.CompanionCore
import OnboardAutonomy.Insertion

/-! Foreign frames do not interfere. Two runs of the application differ in messages that were inserted
while a controller was connected and that come from another source. They are related by a simulation: the
states agree but for the activity log and, inside a poll, for warnings that are too old to be reported. -/

namespace OnboardAutonomy

/-! ### The vehicle state -/

namespace VehicleState

/-- The states agree once the old warnings are dropped. -/
def SameAt (now : TimePoint) (s t : VehicleState) : Prop := s.eraseOldWarnings now = t.eraseOldWarnings now

theorem eraseOldWarnings_sameAt (s : VehicleState) (now : TimePoint) : SameAt now (s.eraseOldWarnings now) s :=
  s.eraseOldWarnings_idem now

end VehicleState

namespace MavlinkDecoder

open VehicleState

/-- The source of the message is not the connected controller. -/
def Foreign (s : VehicleState) (message : MavlinkMessage) (now : TimePoint) : Prop :=
  isFresh s.lastHeartbeat now kHeartbeatTimeout = true ∧ selected s message = false

instance (s : VehicleState) (message : MavlinkMessage) (now : TimePoint) :
    Decidable (Foreign s message now) := inferInstanceAs (Decidable (_ ∧ _))

/-- A message acts on a state as on the state without its old warnings. -/
theorem handleMessage_erased (s : VehicleState) (message : MavlinkMessage) (now : TimePoint) :
    SameAt now (handleMessage s message now).1 (handleMessage (s.eraseOldWarnings now) message now).1 ∧
      (handleMessage s message now).2 = (handleMessage (s.eraseOldWarnings now) message now).2 := by
  have hkept : (s.eraseOldWarnings now).lastHeartbeat = s.lastHeartbeat ∧
      selected (s.eraseOldWarnings now) message = selected s message := ⟨rfl, rfl⟩
  cases hpayload : isHeartbeat message with
  | false =>
      rw [handleMessage_other s now hpayload, handleMessage_other _ now hpayload, hkept.1, hkept.2,
        s.eraseOldWarnings_idem]
      exact ⟨rfl, rfl⟩
  | true =>
      obtain ⟨heartbeat, hheartbeat⟩ := exists_heartbeat hpayload
      rw [handleMessage_heartbeat s now hheartbeat, handleMessage_heartbeat _ now hheartbeat]
      refine ⟨?_, rfl⟩
      rw [handleHeartbeat_eq, handleHeartbeat_eq, hkept.1, hkept.2, s.eraseOldWarnings_idem]
      split
      · rfl
      · exact (s.eraseOldWarnings_sameAt now).symm

theorem handleMessage_sameAt {s t : VehicleState} {now : TimePoint} (h : SameAt now s t)
    (message : MavlinkMessage) :
    SameAt now (handleMessage s message now).1 (handleMessage t message now).1 ∧
      (handleMessage s message now).2 = (handleMessage t message now).2 := by
  obtain ⟨hstate, hcall⟩ := handleMessage_erased s message now
  obtain ⟨hstate', hcall'⟩ := handleMessage_erased t message now
  rw [← h] at hstate' hcall'
  exact ⟨hstate.trans hstate'.symm, hcall.trans hcall'.symm⟩

/-- A foreign message changes at most which old warnings are kept, and reaches no handler. -/
theorem handleMessage_foreign {s : VehicleState} {message : MavlinkMessage} {now : TimePoint}
    (h : Foreign s message now) :
    SameAt now (handleMessage s message now).1 s ∧ (handleMessage s message now).2 = none := by
  obtain ⟨hconnected, hforeign⟩ := h
  cases hpayload : isHeartbeat message with
  | false =>
      rw [handleMessage_other s now hpayload, hforeign, Bool.and_false]
      exact ⟨s.eraseOldWarnings_sameAt now, rfl⟩
  | true =>
      obtain ⟨heartbeat, hheartbeat⟩ := exists_heartbeat hpayload
      rw [handleMessage_heartbeat s now hheartbeat, handleHeartbeat_eq, hconnected, hforeign]
      refine ⟨?_, rfl⟩
      split
      · exact s.eraseOldWarnings_sameAt now
      · rfl

end MavlinkDecoder

/-! ### Logs that agree but for numbers and receptions -/

/-- An activity without its number. -/
def LinkActivity.unnumbered (activity : LinkActivity) : LinkActivity := { activity with sequence := 0 }

/-- The logs agree on what was sent last, but for its number. -/
def ActivityLog.Agrees (l m : ActivityLog) : Prop :=
  l.txActivity.map LinkActivity.unnumbered = m.txActivity.map LinkActivity.unnumbered

theorem ActivityLog.Agrees.record {l m : ActivityLog} (h : l.Agrees m) (direction : LinkEventDirection)
    (observedAt : Int) (messageName detail : String) :
    (l.record direction observedAt messageName detail).Agrees
      (m.record direction observedAt messageName detail) := by
  cases direction with
  | outbound => rfl
  | inbound => exact h

theorem ActivityLog.Agrees.receive {l m : ActivityLog} (h : l.Agrees m) (observedAt : Int)
    (messageName detail : String) : l.Agrees (m.record .inbound observedAt messageName detail) := h

namespace Journal

theorem startClock_started (j : Journal) (now : TimePoint) : (j.startClock now).startedAt.isSome = true := by
  simp only [startClock]
  split
  · assumption
  · rfl

theorem startClock_of_started {j : Journal} (h : j.startedAt.isSome = true) (now : TimePoint) :
    j.startClock now = j := by
  rw [startClock, if_pos h]

end Journal

namespace CompanionApplication

variable {ω : Type}

/-! ### The simulation -/

/-- The applications agree but for their activity logs and for a relation between the vehicle states. -/
def Alike (R : VehicleState → VehicleState → Prop) (a b : CompanionApplication ω) : Prop :=
  ∃ state log, b = { a with vehicleState := state, activity := log } ∧ R a.vehicleState state ∧
    a.activity.Agrees log

variable {R : VehicleState → VehicleState → Prop} {a b : CompanionApplication ω}

theorem Alike.recordEvent (h : Alike R a b) (direction : LinkEventDirection) (status : LinkEventStatus)
    (label detail : String) (now : TimePoint) :
    Alike R (a.recordEvent direction status label detail now)
      (b.recordEvent direction status label detail now) := by
  obtain ⟨state, log, rfl, hstate, hlog⟩ := h
  exact ⟨state, log, rfl, hstate, hlog⟩

theorem Alike.recordActivity (h : Alike R a b) (direction : LinkEventDirection)
    (messageName detail : String) (now : TimePoint) :
    Alike R (a.recordActivity direction messageName detail now)
      (b.recordActivity direction messageName detail now) := by
  obtain ⟨state, log, rfl, hstate, hlog⟩ := h
  exact ⟨state, _, rfl, hstate, hlog.record ..⟩

theorem Alike.observeFailsafePhase (h : Alike R a b) (now : TimePoint) :
    Alike R (a.observeFailsafePhase now) (b.observeFailsafePhase now) := by
  obtain ⟨state, log, rfl, hstate, hlog⟩ := h
  simp only [CompanionApplication.observeFailsafePhase]
  split <;> exact ⟨state, log, rfl, hstate, hlog⟩

theorem Alike.onMessage (h : Alike R a b) (message : MavlinkMessage) (now : TimePoint) :
    Alike R (a.onMessage message now) (b.onMessage message now) :=
  h.recordActivity ..

theorem Alike.onCommandAck (h : Alike R a b) (acknowledgement : CommandAck) (now : TimePoint) :
    Alike R (a.onCommandAck acknowledgement now) (b.onCommandAck acknowledgement now) := by
  obtain ⟨state, log, rfl, hstate, hlog⟩ := h
  simp only [CompanionApplication.onCommandAck]
  split
  · exact ⟨state, _, rfl, hstate, hlog.record ..⟩
  · exact ⟨state, log, rfl, hstate, hlog⟩

theorem Alike.onParameter (h : Alike R a b) (parameter : ParameterValue) (now : TimePoint) :
    Alike R (a.onParameter parameter now) (b.onParameter parameter now) := by
  have hseen : Alike R
      { a with
        companionLinkFailsafe := a.companionLinkFailsafe.onParameter parameter.sourceSystem
          parameter.sourceComponent parameter.id parameter.value }
      { b with
        companionLinkFailsafe := b.companionLinkFailsafe.onParameter parameter.sourceSystem
          parameter.sourceComponent parameter.id parameter.value } := by
    obtain ⟨state, log, rfl, hstate, hlog⟩ := h
    exact ⟨state, log, rfl, hstate, hlog⟩
  simp only [CompanionApplication.onParameter]
  split
  · exact (hseen.observeFailsafePhase now).recordActivity ..
  · exact hseen.observeFailsafePhase now

theorem Alike.handle (h : Alike R a b) (call : Option HandlerCall) (now : TimePoint) :
    Alike R (a.handle call now) (b.handle call now) := by
  rcases call with _ | ⟨acknowledgement | parameter⟩
  · exact h
  · exact h.onCommandAck acknowledgement now
  · exact h.onParameter parameter now

theorem Alike.observeMetadata (h : Alike R a b) (vehicle : VehicleSnapshot) (now : TimePoint) :
    Alike R (a.observeMetadata vehicle now) (b.observeMetadata vehicle now) := by
  obtain ⟨state, log, rfl, hstate, hlog⟩ := h
  simp only [CompanionApplication.observeMetadata]
  split
  · split <;> exact ⟨state, log, rfl, hstate, hlog⟩
  · exact ⟨state, log, rfl, hstate, hlog⟩

theorem Alike.observeFlightMode (h : Alike R a b) (vehicle : VehicleSnapshot) (now : TimePoint) :
    Alike R (a.observeFlightMode vehicle now) (b.observeFlightMode vehicle now) := by
  obtain ⟨state, log, rfl, hstate, hlog⟩ := h
  simp only [CompanionApplication.observeFlightMode]
  split
  · split <;> exact ⟨state, log, rfl, hstate, hlog⟩
  · exact ⟨state, log, rfl, hstate, hlog⟩

theorem Alike.observeArmed (h : Alike R a b) (vehicle : VehicleSnapshot) (now : TimePoint) :
    Alike R (a.observeArmed vehicle now) (b.observeArmed vehicle now) := by
  obtain ⟨state, log, rfl, hstate, hlog⟩ := h
  simp only [CompanionApplication.observeArmed]
  split <;> exact ⟨state, log, rfl, hstate, hlog⟩

theorem Alike.observeVehicle (h : Alike R a b) (vehicle : VehicleSnapshot) (now : TimePoint) :
    Alike R (a.observeVehicle vehicle now) (b.observeVehicle vehicle now) := by
  have hwatched : b.vehicleWasConnected = a.vehicleWasConnected := by
    obtain ⟨state, log, rfl, -, -⟩ := h
    rfl
  simp only [CompanionApplication.observeVehicle, hwatched]
  split
  · obtain ⟨state, log, rfl, hstate, hlog⟩ := h
    split <;> exact ⟨state, log, rfl, hstate, hlog⟩
  split
  · obtain ⟨state, log, rfl, hstate, hlog⟩ := h
    exact ⟨state, log, rfl, hstate, hlog⟩
  · exact ((h.observeMetadata vehicle now).observeFlightMode vehicle now).observeArmed vehicle now

theorem Alike.restartParameterRequests (h : Alike R a b) (newlyConnected : Bool) (now : TimePoint) :
    Alike R
      (if newlyConnected then { a with failsafeParameterIndex := 0, nextFailsafeParameterRequest := now }
        else a)
      (if newlyConnected then { b with failsafeParameterIndex := 0, nextFailsafeParameterRequest := now }
        else b) := by
  obtain ⟨state, log, rfl, hstate, hlog⟩ := h
  split <;> exact ⟨state, log, rfl, hstate, hlog⟩

theorem Alike.dropHeartbeat (h : Alike R a b) (vehicle : VehicleSnapshot) :
    Alike R (if !vehicle.connected then { a with companionHeartbeatActive := false } else a)
      (if !vehicle.connected then { b with companionHeartbeatActive := false } else b) := by
  obtain ⟨state, log, rfl, hstate, hlog⟩ := h
  split <;> exact ⟨state, log, rfl, hstate, hlog⟩

theorem Alike.updateVehicleConnection (h : Alike R a b) (vehicle : VehicleSnapshot) (now : TimePoint) :
    Alike R (a.updateVehicleConnection vehicle now) (b.updateVehicleConnection vehicle now) := by
  have hnew : (vehicle.connected && !b.vehicleWasConnected) =
      (vehicle.connected && !a.vehicleWasConnected) := by
    obtain ⟨state, log, rfl, -, -⟩ := h
    rfl
  have hseen : Alike R
      { a with
        companionLinkFailsafe := a.companionLinkFailsafe.observeVehicle vehicle.connected vehicle.systemId }
      { b with
        companionLinkFailsafe :=
          b.companionLinkFailsafe.observeVehicle vehicle.connected vehicle.systemId } := by
    obtain ⟨state, log, rfl, hstate, hlog⟩ := h
    exact ⟨state, log, rfl, hstate, hlog⟩
  simp only [CompanionApplication.updateVehicleConnection, hnew]
  have hrestarted := (hseen.observeFailsafePhase now).restartParameterRequests
    (vehicle.connected && !a.vehicleWasConnected) now
  exact (hrestarted.observeVehicle vehicle now).dropHeartbeat vehicle

/-! ### The schedulers -/

variable (port : OutboundPort ω)

theorem Alike.writeFrame (h : Alike R a b) (frame : OutboundMessage) (now : TimePoint)
    (messageName detail : String) :
    (a.writeFrame port frame now messageName detail).1 = (b.writeFrame port frame now messageName detail).1 ∧
      Alike R (a.writeFrame port frame now messageName detail).2
        (b.writeFrame port frame now messageName detail).2 := by
  obtain ⟨state, log, rfl, hstate, hlog⟩ := h
  simp only [CompanionApplication.writeFrame]
  split
  · exact ⟨rfl, state, _, rfl, hstate, hlog.record ..⟩
  · exact ⟨rfl, state, log, rfl, hstate, hlog⟩

theorem Alike.sendCompanionHeartbeat (h : Alike R a b) (vehicle : VehicleSnapshot) (now : TimePoint) :
    Alike R (a.sendCompanionHeartbeat port vehicle now) (b.sendCompanionHeartbeat port vehicle now) := by
  have htimer : b.nextHeartbeat = a.nextHeartbeat := by
    obtain ⟨state, log, rfl, -, -⟩ := h
    rfl
  simp only [CompanionApplication.sendCompanionHeartbeat, htimer]
  split
  · exact h
  split
  · rename_i systemId _ _
    obtain ⟨hsent, state, log, heq, hstate, hlog⟩ :=
      h.writeFrame port (encodeCompanionHeartbeat systemId) now "HEARTBEAT" ""
    rw [← hsent, heq]
    split <;> exact ⟨state, log, rfl, hstate, hlog⟩
  · obtain ⟨state, log, rfl, hstate, hlog⟩ := h
    exact ⟨state, log, rfl, hstate, hlog⟩

theorem Alike.updateTelemetrySetup (h : Alike R a b) (vehicle : VehicleSnapshot) (now : TimePoint) :
    Alike R (a.updateTelemetrySetup port vehicle now) (b.updateTelemetrySetup port vehicle now) := by
  have hconfigurator : b.telemetryConfigurator = a.telemetryConfigurator := by
    obtain ⟨state, log, rfl, -, -⟩ := h
    rfl
  simp only [CompanionApplication.updateTelemetrySetup, hconfigurator]
  generalize a.telemetryConfigurator.update vehicle.connected vehicle.systemId now = updated
  have hupdated : Alike R { a with telemetryConfigurator := updated.1 }
      { b with telemetryConfigurator := updated.1 } := by
    obtain ⟨state, log, rfl, hstate, hlog⟩ := h
    exact ⟨state, log, rfl, hstate, hlog⟩
  split
  · exact hupdated
  · rename_i frame _
    obtain ⟨hsent, hwritten⟩ := hupdated.writeFrame port frame now "COMMAND_LONG"
      ("SET_INTERVAL " ++ updated.1.snapshot.currentStream)
    rw [← hsent]
    exact hwritten.recordEvent ..

theorem Alike.requestFailsafeParameter (h : Alike R a b) (vehicle : VehicleSnapshot)
    (telemetryReady : Bool) (now : TimePoint) :
    Alike R (a.requestFailsafeParameter port vehicle telemetryReady now)
      (b.requestFailsafeParameter port vehicle telemetryReady now) := by
  have htimer : b.nextFailsafeParameterRequest = a.nextFailsafeParameterRequest ∧
      b.failsafeParameterIndex = a.failsafeParameterIndex := by
    obtain ⟨state, log, rfl, -, -⟩ := h
    exact ⟨rfl, rfl⟩
  simp only [CompanionApplication.requestFailsafeParameter, htimer.1, htimer.2]
  split
  · rename_i systemId _
    split
    · exact h
    · obtain ⟨hsent, hwritten⟩ := h.writeFrame port
        (paramRequestRead systemId (failsafeParameterId a.failsafeParameterIndex)) now "PARAM_REQUEST_READ"
        (failsafeParameterName a.failsafeParameterIndex)
      rw [← hsent]
      obtain ⟨state, log, heq, hstate, hlog⟩ := hwritten
      rw [heq]
      split <;> exact ⟨state, log, rfl, hstate, hlog⟩
  · exact h

theorem Alike.requestAutopilotVersion (h : Alike R a b) (vehicle : VehicleSnapshot) (systemId : UInt8)
    (now : TimePoint) :
    Alike R (a.requestAutopilotVersion port vehicle systemId now)
      (b.requestAutopilotVersion port vehicle systemId now) := by
  have htimer : b.nextAutopilotVersionRequest = a.nextAutopilotVersionRequest := by
    obtain ⟨state, log, rfl, -, -⟩ := h
    rfl
  simp only [CompanionApplication.requestAutopilotVersion, htimer]
  split
  · obtain ⟨hsent, state, log, heq, hstate, hlog⟩ := h.writeFrame port
      (encodeAutopilotVersionRequest systemId) now "COMMAND_LONG" "REQUEST AUTOPILOT_VERSION"
    rw [← hsent, heq]
    exact ⟨state, log, rfl, hstate, hlog⟩
  · exact h

theorem Alike.requestBatteryParameter (h : Alike R a b) (vehicle : VehicleSnapshot) (systemId : UInt8)
    (now : TimePoint) :
    Alike R (a.requestBatteryParameter port vehicle systemId now)
      (b.requestBatteryParameter port vehicle systemId now) := by
  have htimer : b.nextBatteryParameterRequest = a.nextBatteryParameterRequest := by
    obtain ⟨state, log, rfl, -, -⟩ := h
    rfl
  simp only [CompanionApplication.requestBatteryParameter, htimer]
  split
  · exact h
  · obtain ⟨hsent, state, log, heq, hstate, hlog⟩ := h.writeFrame port
      (encodeBatteryArmingVoltageRequest systemId) now "PARAM_REQUEST_READ" "BATT_ARM_VOLT"
    rw [← hsent, heq]
    exact ⟨state, log, rfl, hstate, hlog⟩

theorem Alike.requestVehicleMetadata (h : Alike R a b) (vehicle : VehicleSnapshot) (telemetryReady : Bool)
    (now : TimePoint) :
    Alike R (a.requestVehicleMetadata port vehicle telemetryReady now)
      (b.requestVehicleMetadata port vehicle telemetryReady now) := by
  simp only [CompanionApplication.requestVehicleMetadata]
  split
  · exact (h.requestAutopilotVersion port vehicle _ now).requestBatteryParameter port vehicle _ now
  · exact h

theorem Alike.act (h : Alike R a b) (vehicle : VehicleSnapshot) (now : TimePoint) :
    Alike R (a.act port vehicle now) (b.act port vehicle now) := by
  have hsetup := ((h.updateVehicleConnection vehicle now).sendCompanionHeartbeat port vehicle
    now).updateTelemetrySetup port vehicle now
  simp only [CompanionApplication.act]
  generalize CompanionApplication.updateTelemetrySetup port _ vehicle now = c at hsetup ⊢
  generalize CompanionApplication.updateTelemetrySetup port _ vehicle now = d at hsetup ⊢
  have hready : d.telemetryReady = c.telemetryReady := by
    obtain ⟨state, log, rfl, -, -⟩ := hsetup
    rfl
  rw [hready]
  exact (hsetup.requestFailsafeParameter port vehicle _ now).requestVehicleMetadata port vehicle _ now

/-! ### Inside a poll -/

theorem Alike.ingestMessage {now : TimePoint} (h : Alike (VehicleState.SameAt now) a b)
    (message : MavlinkMessage) :
    Alike (VehicleState.SameAt now) (ingestMessage now a message) (ingestMessage now b message) := by
  obtain ⟨state, log, heq, hstate, hlog⟩ := h.onMessage message now
  obtain ⟨hdecoded, hcall⟩ := MavlinkDecoder.handleMessage_sameAt hstate message
  simp only [CompanionApplication.ingestMessage, heq, hcall]
  have hread : Alike (VehicleState.SameAt now)
      { a.onMessage message now with
        vehicleState := (MavlinkDecoder.handleMessage (a.onMessage message now).vehicleState message now).1 }
      { a.onMessage message now with
        vehicleState := (MavlinkDecoder.handleMessage state message now).1
        activity := log } := ⟨_, log, rfl, hdecoded, hlog⟩
  exact hread.handle _ now

/-- A foreign message leaves the second application alike. -/
theorem Alike.ingestForeign {now : TimePoint} (h : Alike (VehicleState.SameAt now) a b)
    (hstarted : a.journal.startedAt.isSome = true) {message : MavlinkMessage}
    (hforeign : MavlinkDecoder.Foreign b.vehicleState message now) :
    Alike (VehicleState.SameAt now) a (CompanionApplication.ingestMessage now b message) := by
  obtain ⟨state, log, rfl, hstate, hlog⟩ := h
  obtain ⟨hsame, hcall⟩ := MavlinkDecoder.handleMessage_foreign hforeign
  have hheard : MavlinkDecoder.handleMessage state message now =
      ((MavlinkDecoder.handleMessage state message now).1, none) := Prod.ext rfl hcall
  simp only [CompanionApplication.ingestMessage, CompanionApplication.onMessage,
    CompanionApplication.recordActivity, Journal.startClock_of_started hstarted]
  rw [hheard]
  exact ⟨_, _, rfl, hstate.trans hsame.symm, hlog.receive ..⟩

theorem handle_started (h : a.journal.startedAt.isSome = true) (call : Option HandlerCall) (now : TimePoint) :
    (a.handle call now).journal.startedAt.isSome = true := by
  have hphase : ∀ c : CompanionApplication ω, c.journal.startedAt.isSome = true →
      (c.observeFailsafePhase now).journal.startedAt.isSome = true := fun c hc => by
    simp only [observeFailsafePhase]
    split <;> exact hc
  rcases call with _ | ⟨acknowledgement | parameter⟩
  · exact h
  · simp only [handle, onCommandAck]
    split
    · exact Journal.startClock_started _ now
    · exact h
  · simp only [handle, onParameter]
    split
    · exact Journal.startClock_started _ now
    · exact hphase _ h

theorem ingestMessage_vehicleState (now : TimePoint) (a : CompanionApplication ω) (message : MavlinkMessage) :
    (CompanionApplication.ingestMessage now a message).vehicleState =
      (MavlinkDecoder.handleMessage a.vehicleState message now).1 := by
  have hcore := congrArg CompanionCore.vehicleState (ingestMessage_core now a message)
  rw [core, CompanionCore.ingestMessage_vehicleState] at hcore
  exact hcore

theorem foldl_ingestMessage_alike {now : TimePoint} (h : Alike (VehicleState.SameAt now) a b)
    (hstarted : a.journal.startedAt.isSome = true) {messages : List (Bool × MavlinkMessage)}
    (hforeign : Insertion.Admitted (fun s message => (MavlinkDecoder.handleMessage s message now).1)
      (fun s message => MavlinkDecoder.Foreign s message now) b.vehicleState messages) :
    Alike (VehicleState.SameAt now)
      ((Insertion.kept messages).foldl (CompanionApplication.ingestMessage now) a)
      ((Insertion.everything messages).foldl (CompanionApplication.ingestMessage now) b) := by
  have hrelated := Insertion.foldl_related (CompanionApplication.ingestMessage now)
    (R := fun c d => Alike (VehicleState.SameAt now) c d ∧ c.journal.startedAt.isSome = true)
    (fun c d message hcd =>
      ⟨hcd.1.ingestMessage message, handle_started (Journal.startClock_started _ now) _ now⟩)
    (fun c d message hcd hmay => ⟨hcd.1.ingestForeign hcd.2 hmay, hcd.2⟩) messages a b ⟨h, hstarted⟩
    (Insertion.Admitted.of_part _ (ingestMessage_vehicleState now) messages b hforeign)
  exact hrelated.1

theorem Alike.pollInputs (h : Alike Eq a b) (cameraNow now : TimePoint)
    {messages : List (Bool × MavlinkMessage)}
    (hforeign : Insertion.Admitted (fun s message => (MavlinkDecoder.handleMessage s message now).1)
      (fun s message => MavlinkDecoder.Foreign s message now) b.vehicleState messages) :
    Alike (VehicleState.SameAt now) (a.pollInputs cameraNow now (Insertion.kept messages))
      (b.pollInputs cameraNow now (Insertion.everything messages)) := by
  have hbegun : Alike (VehicleState.SameAt now) { a with journal := a.journal.startClock cameraNow }
      { b with journal := b.journal.startClock cameraNow } := by
    obtain ⟨state, log, rfl, rfl, hlog⟩ := h
    exact ⟨_, log, rfl, rfl, hlog⟩
  exact foldl_ingestMessage_alike hbegun (Journal.startClock_started _ cameraNow) hforeign

/-- A poll with inserted foreign messages does what the poll without them does. -/
theorem Alike.poll (h : Alike Eq a b) (cameraNow now : TimePoint) {messages : List (Bool × MavlinkMessage)}
    (hforeign : Insertion.Admitted (fun s message => (MavlinkDecoder.handleMessage s message now).1)
      (fun s message => MavlinkDecoder.Foreign s message now) b.vehicleState messages) :
    Alike Eq (a.poll port cameraNow now (Insertion.kept messages))
      (b.poll port cameraNow now (Insertion.everything messages)) := by
  have hinputs := h.pollInputs cameraNow now hforeign
  simp only [CompanionApplication.poll]
  generalize a.pollInputs cameraNow now (Insertion.kept messages) = c at hinputs ⊢
  generalize b.pollInputs cameraNow now (Insertion.everything messages) = d at hinputs ⊢
  obtain ⟨state, log, rfl, hstate, hlog⟩ := hinputs
  have hreported : state.snapshot now = c.vehicleState.snapshot now := by
    rw [VehicleState.snapshot, VehicleState.snapshot, show _ = _ from hstate]
  have hread : Alike Eq { c with vehicleState := (c.vehicleState.snapshot now).1 }
      { c with vehicleState := (c.vehicleState.snapshot now).1, activity := log } := ⟨_, log, rfl, rfl, hlog⟩
  simp only [hreported]
  exact hread.act port _ now

theorem Alike.snapshot (h : Alike Eq a b) (now : TimePoint) (camera : Option CameraSnapshot)
    (vision : Option VisionSnapshot) :
    Alike Eq (a.snapshot now camera vision).1 (b.snapshot now camera vision).1 := by
  obtain ⟨state, log, rfl, rfl, hlog⟩ := h
  exact ⟨_, log, rfl, rfl, hlog⟩

end CompanionApplication

/-! ### Two runs -/

/-- What a snapshot shows beside the last reception and the numbers of the activities. -/
def AppSnapshot.withoutReception (snapshot : AppSnapshot) : AppSnapshot :=
  { snapshot with txActivity := snapshot.txActivity.map LinkActivity.unnumbered, rxActivity := none }

/-- An event of both runs. The marked messages of a poll arrive in the second run only. -/
inductive TwinEvent where
  | poll (cameraNow now : TimePoint) (messages : List (Bool × MavlinkMessage))
  | snapshot (now : TimePoint)

namespace TwinEvent

def plain : TwinEvent → CompanionEvent
  | .poll cameraNow now messages => .poll cameraNow now (Insertion.kept messages)
  | .snapshot now => .snapshot now

def disturbed : TwinEvent → CompanionEvent
  | .poll cameraNow now messages => .poll cameraNow now (Insertion.everything messages)
  | .snapshot now => .snapshot now

/-- Each marked message arrives while a controller is connected and comes from another source. -/
def Foreign (s : VehicleState) : TwinEvent → Prop
  | .poll _ now messages =>
      Insertion.Admitted (fun s message => (MavlinkDecoder.handleMessage s message now).1)
        (fun s message => MavlinkDecoder.Foreign s message now) s messages
  | .snapshot _ => True

instance (s : VehicleState) (event : TwinEvent) : Decidable (event.Foreign s) :=
  match event with
  | .poll _ _ _ => inferInstanceAs (Decidable (Insertion.Admitted _ _ _ _))
  | .snapshot _ => inferInstanceAs (Decidable True)

end TwinEvent

namespace CompanionApplication

variable {ω : Type} (port : OutboundPort ω)

/-- Along the second run every marked message is foreign. -/
def DisturbedBy : CompanionApplication ω → List TwinEvent → Prop
  | _, [] => True
  | a, event :: events => event.Foreign a.vehicleState ∧ DisturbedBy (a.step port event.disturbed) events

instance decidableDisturbedBy :
    ∀ (a : CompanionApplication ω) (events : List TwinEvent), Decidable (DisturbedBy port a events)
  | _, [] => inferInstanceAs (Decidable True)
  | a, event :: events =>
      have : Decidable (DisturbedBy port (a.step port event.disturbed) events) :=
        decidableDisturbedBy (a.step port event.disturbed) events
      inferInstanceAs (Decidable (_ ∧ _))

theorem Alike.step {a b : CompanionApplication ω} (h : Alike Eq a b) (event : TwinEvent)
    (hforeign : event.Foreign b.vehicleState) :
    Alike Eq (a.step port event.plain) (b.step port event.disturbed) := by
  cases event with
  | poll cameraNow now messages => exact h.poll port cameraNow now hforeign
  | snapshot now => exact h.snapshot now none none

theorem Alike.run (events : List TwinEvent) :
    ∀ {a b : CompanionApplication ω}, Alike Eq a b → DisturbedBy port b events →
      Alike Eq (run port a (events.map TwinEvent.plain)) (run port b (events.map TwinEvent.disturbed)) := by
  induction events with
  | nil =>
      intro a b h _
      exact h
  | cons event events ih =>
      intro a b h hforeign
      exact ih (h.step port event hforeign.1) hforeign.2

/-- What can be seen of two applications is the same but for receptions and activity numbers. -/
structure Indistinguishable (a b : CompanionApplication ω) : Prop where
  snapshots : ∀ now camera vision, (a.snapshot now camera vision).2.withoutReception =
    (b.snapshot now camera vision).2.withoutReception
  linkEvents : a.journal.linkEvents = b.journal.linkEvents
  deliveries : a.journal.deliveries = b.journal.deliveries
  handed : a.handed = b.handed
  port : a.port = b.port

theorem Alike.indistinguishable {a b : CompanionApplication ω} (h : Alike Eq a b) :
    Indistinguishable a b := by
  obtain ⟨state, log, rfl, rfl, hlog⟩ := h
  refine ⟨fun now camera vision => ?_, rfl, rfl, rfl, rfl⟩
  simp only [CompanionApplication.snapshot, AppSnapshot.withoutReception, show _ = _ from hlog]

/-- Messages of other sources, inserted anywhere while a controller is connected, cannot be told from what
the application shows, records, delivers or writes. -/
theorem foreign_frames_unseen (world : ω) (simulatedWind : Option SimulatedWindProfile)
    (observationSinks : List (Option Nat)) (events : List TwinEvent)
    (hforeign : DisturbedBy port (start world simulatedWind observationSinks) events) :
    Indistinguishable (run port (start world simulatedWind observationSinks) (events.map TwinEvent.plain))
      (run port (start world simulatedWind observationSinks) (events.map TwinEvent.disturbed)) := by
  have hstart : Alike Eq (start world simulatedWind observationSinks)
      (start world simulatedWind observationSinks) := ⟨_, _, rfl, rfl, rfl⟩
  exact (hstart.run port events hforeign).indistinguishable

/-- A controller under which another system announces itself, warns and acknowledges a command. -/
def disturbedEvents : List TwinEvent :=
  [.poll 0 0
      [(false, ⟨1, 1, .heartbeat ⟨2, 3, 0, 0, 4⟩⟩), (true, ⟨9, 1, .heartbeat ⟨2, 3, 128, 4, 4⟩⟩)],
    .poll (seconds 1) (seconds 1)
      [(true, ⟨9, 1, .statustext ⟨2, literal "PreArm: Battery"⟩⟩), (false, ⟨1, 1, .gpsRawInt ⟨3, 11⟩⟩),
        (true, ⟨1, 2, .commandAck ⟨511, 0, 0, 0, 1, 191⟩⟩)],
    .snapshot (seconds 2)]

theorem disturbedEvents_unseen :
    Indistinguishable (run acceptingPort (start () none [some 7]) (disturbedEvents.map TwinEvent.plain))
      (run acceptingPort (start () none [some 7]) (disturbedEvents.map TwinEvent.disturbed)) :=
  foreign_frames_unseen acceptingPort () none [some 7] disturbedEvents (by decide +kernel)

end CompanionApplication
end OnboardAutonomy
