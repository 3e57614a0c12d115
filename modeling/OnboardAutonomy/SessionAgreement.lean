import OnboardAutonomy.CompanionCore

/-! Agreement on the session. The vehicle state starts a session when a heartbeat makes it reset its
telemetry; the failsafe and the stream configurator end theirs when the snapshot of a poll shows no vehicle
or another one. An audit numbers the messages of a run and remembers which of them started the last session
and which of them the failsafe and the configurator rest on. They agree unless a gap between heartbeats
falls between two polls and is over by the end of the second. -/

namespace OnboardAutonomy

/-! ### What the failsafe and the configurator rest on -/

namespace CompanionLinkFailsafe

/-- An accepted policy rests on all four values. -/
structure Complete (f : CompanionLinkFailsafe) : Prop where
  required : f.snapshot.parametersRequired = 4
  accepted : f.snapshot.phase = .accepted → ∀ i, (f.held i).isSome = true

theorem validate_held (f : CompanionLinkFailsafe) (i : Fin 4) : f.validate.held i = f.held i := by
  simp only [validate]
  split <;> (fin_cases i <;> rfl)

theorem validate_heartbeatSystemId (f : CompanionLinkFailsafe) :
    f.validate.snapshot.heartbeatSystemId = f.snapshot.heartbeatSystemId := by
  simp only [validate]
  split <;> rfl

theorem Complete.reset (systemId : Option UInt8) : Complete (reset systemId) := by
  cases systemId with
  | none => exact ⟨rfl, nofun⟩
  | some systemId => exact ⟨rfl, nofun⟩

theorem Complete.observeVehicle {f : CompanionLinkFailsafe} (h : Complete f) (connected : Bool)
    (systemId : Option UInt8) : Complete (f.observeVehicle connected systemId) := by
  rw [observeVehicle_eq]
  split
  · exact h
  · exact Complete.reset _

theorem Complete.validate {f : CompanionLinkFailsafe} (h : f.snapshot.parametersRequired = 4) :
    Complete f.validate := by
  refine ⟨?_, fun hphase i => ?_⟩
  · simp only [CompanionLinkFailsafe.validate]
    split <;> exact h
  · rw [validate_held]
    by_cases hmissing : f.receivedCount < f.snapshot.parametersRequired
    · simp only [CompanionLinkFailsafe.validate, if_pos hmissing] at hphase
      cases hphase
    · rw [h] at hmissing
      exact not_not.mp (mt f.receivedCount_lt_iff.mpr hmissing) i

theorem Complete.onParameter {f : CompanionLinkFailsafe} (h : Complete f)
    (sourceSystem sourceComponent : UInt8) (id : Bytes) (value : Binary64) :
    Complete (f.onParameter sourceSystem sourceComponent id value) := by
  rcases f.onParameter_cases sourceSystem sourceComponent id value with hsame | ⟨index, -, -, hstored⟩
  · rw [hsame]
    exact h
  · rw [hstored]
    exact Complete.validate (by rw [store_snapshot]; exact h.required)

theorem onParameter_heartbeatSystemId (f : CompanionLinkFailsafe) (sourceSystem sourceComponent : UInt8)
    (id : Bytes) (value : Binary64) :
    (f.onParameter sourceSystem sourceComponent id value).snapshot.heartbeatSystemId =
      f.snapshot.heartbeatSystemId := by
  rcases f.onParameter_cases sourceSystem sourceComponent id value with hsame | ⟨index, -, -, hstored⟩
  · rw [hsame]
  · rw [hstored, validate_heartbeatSystemId, store_snapshot]

/-- A value that is held after a parameter was held before, or is the parameter's own. -/
theorem held_onParameter {f : CompanionLinkFailsafe} {sourceSystem sourceComponent : UInt8} {id : Bytes}
    {value : Binary64} {i : Fin 4}
    (h : ((f.onParameter sourceSystem sourceComponent id value).held i).isSome = true) :
    (f.held i).isSome = true ∨ f.hears sourceSystem sourceComponent = true ∧ id = parameterName i := by
  rcases f.onParameter_cases sourceSystem sourceComponent id value with
    hsame | ⟨index, hhears, hid, hstored⟩
  · rw [hsame] at h
    exact Or.inl h
  · rw [hstored, validate_held, held_store] at h
    by_cases hindex : i = index
    · exact Or.inr ⟨hhears, hindex ▸ hid⟩
    · rw [if_neg hindex] at h
      exact Or.inl h

/-- A value that is held after a vehicle is seen is one of that vehicle. -/
theorem held_observeVehicle {f : CompanionLinkFailsafe} {connected : Bool} {systemId : Option UInt8}
    {i : Fin 4} (h : ((f.observeVehicle connected systemId).held i).isSome = true) :
    (f.held i).isSome = true ∧ f.snapshot.heartbeatSystemId = shown connected systemId := by
  rw [observeVehicle_eq] at h
  split at h
  · exact ⟨h, ‹_›⟩
  · fin_cases i <;> cases h

end CompanionLinkFailsafe

namespace TelemetryStreamConfigurator

theorem update_vehicleSystemId (c : TelemetryStreamConfigurator) (connected : Bool)
    (vehicleSystemId : Option UInt8) (now : TimePoint) :
    (c.update connected vehicleSystemId now).1.vehicleSystemId =
      CompanionLinkFailsafe.shown connected vehicleSystemId := by
  rcases connected with _ | _ <;> rcases vehicleSystemId with _ | systemId
  · rfl
  · rfl
  · rfl
  · obtain ⟨known, -, hknown, hupdate⟩ := c.update_connected systemId now
    rw [hupdate, requestNext_vehicleSystemId, hknown]
    rfl

/-- A request that is complete after an update was made of the vehicle of the update. -/
theorem lt_update {c : TelemetryStreamConfigurator} {connected : Bool} {vehicleSystemId : Option UInt8}
    {now : TimePoint} {i : Nat} (h : i < (c.update connected vehicleSystemId now).1.currentRequest) :
    i < c.currentRequest ∧ connected = true ∧ c.vehicleSystemId = vehicleSystemId := by
  rcases connected with _ | _ <;> rcases vehicleSystemId with _ | systemId
  · exact absurd h (Nat.not_lt_zero i)
  · exact absurd h (Nat.not_lt_zero i)
  · exact absurd h (Nat.not_lt_zero i)
  · obtain ⟨known, rfl | rfl, hknown, hupdate⟩ := c.update_connected systemId now
    · rw [hupdate, requestNext_currentRequest] at h
      exact ⟨h, rfl, hknown⟩
    · rw [hupdate, requestNext_currentRequest] at h
      exact absurd h (Nat.not_lt_zero i)

end TelemetryStreamConfigurator

namespace MavlinkDecoder

/-- A heartbeat that may select a controller. -/
def selecting (message : MavlinkMessage) : Bool :=
  match message.payload with
  | .heartbeat heartbeat => autopilotHeartbeat message heartbeat
  | _ => false

/-- A heartbeat that may select, unless another controller is connected. -/
def takenIn (s : VehicleState) (message : MavlinkMessage) (now : TimePoint) : Bool :=
  selecting message && !(isFresh s.lastHeartbeat now kHeartbeatTimeout && !selected s message)

/-- The message makes the vehicle state reset its telemetry: it is a heartbeat that is taken in and that
finds the link lost or another controller. -/
def startsSession (s : VehicleState) (message : MavlinkMessage) (now : TimePoint) : Bool :=
  takenIn s message now && (s.reconnecting now || s.controllerChanged message.sysid message.compid)

/-- A session starts exactly where a heartbeat that is taken in resets the telemetry. -/
theorem handleMessage_takenIn {s : VehicleState} {message : MavlinkMessage} {now : TimePoint}
    (h : takenIn s message now = true) : ∃ heartbeat, message.payload = .heartbeat heartbeat ∧
      handleMessage s message now =
        ({ (if startsSession s message now then (s.eraseOldWarnings now).resetTelemetry
            else s.eraseOldWarnings now) with
          lastHeartbeat := some now
          systemId := some message.sysid
          componentId := some message.compid
          vehicleType := some heartbeat.type
          autopilotType := some heartbeat.autopilot
          systemStatus := some heartbeat.systemStatus
          flightMode := some heartbeat.customMode
          armed := (heartbeat.baseMode &&& kMavModeFlagSafetyArmed) != 0 }, none) := by
  have htaken := h
  rw [takenIn, Bool.and_eq_true, Bool.not_eq_true'] at h
  obtain ⟨hselecting, hpassed⟩ := h
  simp only [selecting] at hselecting
  split at hselecting
  · rename_i heartbeat hheartbeat
    refine ⟨heartbeat, hheartbeat, ?_⟩
    rw [handleMessage_heartbeat s now hheartbeat, handleHeartbeat_eq, if_pos hselecting, hpassed,
      startsSession, htaken, Bool.true_and]
    rfl
  · cases hselecting

theorem isFresh_self (now : TimePoint) : isFresh (some now) now kHeartbeatTimeout = true := by
  simp [isFresh, kHeartbeatTimeout, seconds]

/-- A message that may not select is only heard while a controller is connected. -/
theorem handleMessage_unheard {s : VehicleState} {message : MavlinkMessage} {now : TimePoint}
    (hlost : isFresh s.lastHeartbeat now kHeartbeatTimeout = false) (h : selecting message = false) :
    (handleMessage s message now).1.lastHeartbeat = s.lastHeartbeat ∧
      (handleMessage s message now).2 = none := by
  cases hpayload : isHeartbeat message with
  | false =>
      rw [handleMessage_other s now hpayload, hlost, Bool.false_and]
      exact ⟨rfl, rfl⟩
  | true =>
      obtain ⟨heartbeat, hheartbeat⟩ := exists_heartbeat hpayload
      have hinvalid : autopilotHeartbeat message heartbeat = false := by
        simpa [selecting, hheartbeat] using h
      rw [handleMessage_heartbeat s now hheartbeat, handleHeartbeat_eq, hinvalid]
      exact ⟨rfl, rfl⟩

/-- A heartbeat that may select connects its controller when none is connected. -/
theorem handleMessage_selects {s : VehicleState} {message : MavlinkMessage} {now : TimePoint}
    (hlost : isFresh s.lastHeartbeat now kHeartbeatTimeout = false) (h : selecting message = true) :
    (handleMessage s message now).1.lastHeartbeat = some now ∧
      (handleMessage s message now).1.systemId = some message.sysid ∧
      (handleMessage s message now).2 = none := by
  have htaken : takenIn s message now = true := by
    rw [takenIn, h, hlost]
    rfl
  obtain ⟨heartbeat, -, hhandled⟩ := handleMessage_takenIn htaken
  rw [hhandled]
  exact ⟨rfl, rfl, rfl⟩

/-- While a controller is connected no session starts. -/
theorem startsSession_of_connected {s : VehicleState} (message : MavlinkMessage) {now : TimePoint}
    (h : isFresh s.lastHeartbeat now kHeartbeatTimeout = true) : startsSession s message now = false := by
  rw [startsSession, takenIn, VehicleState.reconnecting, h, Bool.true_and, Bool.not_not, Bool.not_true,
    Bool.and_false, Bool.false_or]
  cases hselected : selected s message with
  | false => rw [Bool.and_false, Bool.false_and]
  | true =>
      have hsame : s.controllerChanged message.sysid message.compid = false := by
        rw [selected, Bool.and_eq_true, beq_iff_eq, beq_iff_eq] at hselected
        simp [VehicleState.controllerChanged, ← hselected.1, ← hselected.2]
      rw [hsame, Bool.and_false]

/-- A message that is no heartbeat leaves the link and the identity alone. -/
theorem dispatch_link (s : VehicleState) {message : MavlinkMessage} (now : TimePoint)
    (h : isHeartbeat message = false) :
    (dispatch s message now).1.lastHeartbeat = s.lastHeartbeat ∧
      (dispatch s message now).1.systemId = s.systemId := by
  obtain ⟨sysid, compid, payload⟩ := message
  cases payload with
  | heartbeat => cases h
  | sysStatus =>
      simp only [dispatch, VehicleState.onSystemStatus_eq, VehicleState.updateBattery_eq, and_self]
  | batteryStatus =>
      simp only [dispatch, VehicleState.onBattery, VehicleState.updateBattery_eq, and_self]
  | paramValue | autopilotVersion =>
      simp only [dispatch]
      split <;> exact ⟨rfl, rfl⟩
  | statustext =>
      simp only [dispatch, VehicleState.onStatusText]
      split <;> exact ⟨rfl, rfl⟩
  | _ => exact ⟨rfl, rfl⟩

/-- A connected controller stays connected through the messages of a poll. -/
theorem handleMessage_connected {s : VehicleState} (message : MavlinkMessage) {now : TimePoint}
    (h : isFresh s.lastHeartbeat now kHeartbeatTimeout = true) :
    isFresh (handleMessage s message now).1.lastHeartbeat now kHeartbeatTimeout = true ∧
      (handleMessage s message now).1.systemId = s.systemId := by
  cases hpayload : isHeartbeat message with
  | false =>
      rw [handleMessage_other s now hpayload]
      split
      · obtain ⟨hlast, hsystem⟩ := dispatch_link (s.eraseOldWarnings now) now hpayload
        exact ⟨by rw [hlast]; exact h, hsystem⟩
      · exact ⟨h, rfl⟩
  | true =>
      obtain ⟨heartbeat, hheartbeat⟩ := exists_heartbeat hpayload
      rw [handleMessage_heartbeat s now hheartbeat, handleHeartbeat_eq, h, Bool.true_and]
      split
      · split
        · exact ⟨h, rfl⟩
        · rename_i hselected
          rw [Bool.not_eq_true', Bool.not_eq_false, selected, Bool.and_eq_true, beq_iff_eq] at hselected
          exact ⟨isFresh_self now, hselected.1⟩
      · exact ⟨h, rfl⟩

end MavlinkDecoder

/-! ### The audit -/

/-- The messages of a run are numbered from 1. -/
structure Audit where
  received : Nat := 0
  /-- The message that last started a session. -/
  sessionStart : Nat := 0
  /-- The message whose value the failsafe last took under a parameter id. -/
  valueAt : Bytes → Nat := fun _ => 0
  /-- The message that last completed a request of the stream setup. -/
  completedAt : Nat → Nat := fun _ => 0

namespace Audit

/-- The next message starts a session, gives the failsafe a value, or completes a request. -/
def message (audit : Audit) (c : CompanionCore) (now : TimePoint) (message : MavlinkMessage) : Audit :=
  let number := audit.received + 1
  let call := (MavlinkDecoder.handleMessage c.vehicleState message now).2
  { received := number
    sessionStart :=
      if MavlinkDecoder.startsSession c.vehicleState message now then number else audit.sessionStart
    valueAt :=
      match call with
      | some (.parameterValue parameter) =>
          if c.companionLinkFailsafe.hears parameter.sourceSystem parameter.sourceComponent then
            Function.update audit.valueAt parameter.id number
          else audit.valueAt
      | _ => audit.valueAt
    completedAt :=
      match call with
      | some (.commandAck acknowledgement) =>
          if c.telemetryConfigurator.completes acknowledgement then
            Function.update audit.completedAt c.telemetryConfigurator.currentRequest number
          else audit.completedAt
      | _ => audit.completedAt }

end Audit

/-- The state machines with the audit of their run. -/
structure AuditedCore where
  core : CompanionCore := {}
  audit : Audit := {}

namespace AuditedCore

def ingestMessage (now : TimePoint) (c : AuditedCore) (message : MavlinkMessage) : AuditedCore :=
  { core := c.core.ingestMessage now message, audit := c.audit.message c.core now message }

def ingest (c : AuditedCore) (now : TimePoint) (messages : List MavlinkMessage) : AuditedCore :=
  messages.foldl (ingestMessage now) c

def step (c : AuditedCore) : CompanionEvent → AuditedCore
  | .poll cameraNow now messages =>
      { core := c.core.step (.poll cameraNow now messages), audit := (c.ingest now messages).audit }
  | .snapshot now => { c with core := c.core.step (.snapshot now) }

def run (events : List CompanionEvent) : AuditedCore := events.foldl step {}

end AuditedCore

/-- What the failsafe and the configurator conclude rests on messages of the current session, and so does
whatever they have kept. -/
structure SessionAgreement (c : CompanionCore) (audit : Audit) : Prop where
  accepted : c.companionLinkFailsafe.snapshot.phase = .accepted →
    ∀ i, audit.sessionStart < audit.valueAt (CompanionLinkFailsafe.parameterName i)
  active : c.telemetryConfigurator.phase = .active →
    ∀ i < kStreamRequests.length, audit.sessionStart < audit.completedAt i
  values : ∀ i, (c.companionLinkFailsafe.held i).isSome = true →
    audit.sessionStart < audit.valueAt (CompanionLinkFailsafe.parameterName i)
  requests : ∀ i < c.telemetryConfigurator.currentRequest, audit.sessionStart < audit.completedAt i

/-- The failsafe or the configurator has kept something that it was told. -/
def CompanionCore.Informed (c : CompanionCore) : Prop :=
  (∃ i, (c.companionLinkFailsafe.held i).isSome = true) ∨ 0 < c.telemetryConfigurator.currentRequest

/-- A gap that no poll sees: the last poll showed a system, its heartbeats have stopped for too long, and the
first heartbeat of this poll that may select a controller is of that system again. -/
def CompanionCore.HiddenGap (c : CompanionCore) (now : TimePoint) (messages : List MavlinkMessage) : Prop :=
  isFresh c.vehicleState.lastHeartbeat now kHeartbeatTimeout = false ∧ c.Informed ∧
    (messages.find? MavlinkDecoder.selecting).any
      (fun message => c.companionLinkFailsafe.snapshot.heartbeatSystemId == some message.sysid) = true

instance (c : CompanionCore) : Decidable c.Informed := inferInstanceAs (Decidable (_ ∨ _))

instance (c : CompanionCore) (now : TimePoint) (messages : List MavlinkMessage) :
    Decidable (c.HiddenGap now messages) := inferInstanceAs (Decidable (_ ∧ _ ∧ _))

/-- No poll of a run has a hidden gap. -/
def CompanionCore.GapsSeen : CompanionCore → List CompanionEvent → Prop
  | _, [] => True
  | c, .poll cameraNow now messages :: events =>
      ¬c.HiddenGap now messages ∧ GapsSeen (c.step (.poll cameraNow now messages)) events
  | c, .snapshot now :: events => GapsSeen (c.step (.snapshot now)) events

instance CompanionCore.decidableGapsSeen :
    ∀ (c : CompanionCore) (events : List CompanionEvent), Decidable (c.GapsSeen events)
  | _, [] => inferInstanceAs (Decidable True)
  | c, .poll cameraNow now messages :: events =>
      have : Decidable ((c.step (.poll cameraNow now messages)).GapsSeen events) :=
        decidableGapsSeen (c.step (.poll cameraNow now messages)) events
      inferInstanceAs (Decidable (_ ∧ _))
  | c, .snapshot now :: events => decidableGapsSeen (c.step (.snapshot now)) events

namespace CompanionCore

theorem ingestMessage_systems (c : CompanionCore) (now : TimePoint) (message : MavlinkMessage) :
    (c.ingestMessage now message).companionLinkFailsafe.snapshot.heartbeatSystemId =
        c.companionLinkFailsafe.snapshot.heartbeatSystemId ∧
      (c.ingestMessage now message).telemetryConfigurator.vehicleSystemId =
        c.telemetryConfigurator.vehicleSystemId := by
  simp only [ingestMessage, handle]
  split
  · exact ⟨rfl, rfl⟩
  · exact ⟨rfl, TelemetryStreamConfigurator.onCommandAck_vehicleSystemId ..⟩
  · exact ⟨CompanionLinkFailsafe.onParameter_heartbeatSystemId .., rfl⟩

end CompanionCore

/-! ### What a message keeps -/

namespace CompanionCore

/-- A value that is held after a message was held before, or the message brought it. -/
theorem held_ingestMessage {c : CompanionCore} {now : TimePoint} {message : MavlinkMessage} {i : Fin 4}
    (h : ((c.ingestMessage now message).companionLinkFailsafe.held i).isSome = true) :
    (c.companionLinkFailsafe.held i).isSome = true ∨
      ∃ parameter, (MavlinkDecoder.handleMessage c.vehicleState message now).2 =
          some (.parameterValue parameter) ∧
        c.companionLinkFailsafe.hears parameter.sourceSystem parameter.sourceComponent = true ∧
        parameter.id = CompanionLinkFailsafe.parameterName i := by
  simp only [ingestMessage, handle] at h
  split at h
  · exact Or.inl h
  · exact Or.inl h
  · rename_i parameter hcall
    exact (CompanionLinkFailsafe.held_onParameter h).imp_right fun hown => ⟨parameter, hcall, hown⟩

/-- A request that is complete after a message was complete before, or the message completed it. -/
theorem lt_ingestMessage {c : CompanionCore} {now : TimePoint} {message : MavlinkMessage} {i : Nat}
    (h : i < (c.ingestMessage now message).telemetryConfigurator.currentRequest) :
    i < c.telemetryConfigurator.currentRequest ∨
      ∃ acknowledgement, (MavlinkDecoder.handleMessage c.vehicleState message now).2 =
          some (.commandAck acknowledgement) ∧
        c.telemetryConfigurator.completes acknowledgement = true ∧
        i = c.telemetryConfigurator.currentRequest := by
  simp only [ingestMessage, handle] at h
  split at h
  · exact Or.inl h
  · rename_i acknowledgement hcall
    exact (TelemetryStreamConfigurator.lt_onCommandAck h).imp_right fun hown => ⟨acknowledgement, hcall, hown⟩
  · exact Or.inl h

end CompanionCore

namespace Audit

variable (audit : Audit) (c : CompanionCore) (now : TimePoint) (message : MavlinkMessage)

theorem valueAt_message_of_heard {parameter : ParameterValue}
    (hcall : (MavlinkDecoder.handleMessage c.vehicleState message now).2 = some (.parameterValue parameter))
    (hhears : c.companionLinkFailsafe.hears parameter.sourceSystem parameter.sourceComponent = true) :
    (audit.message c now message).valueAt parameter.id = audit.received + 1 := by
  simp only [Audit.message, hcall, hhears, if_true, Function.update_self]

theorem completedAt_message_of_completes {acknowledgement : CommandAck}
    (hcall : (MavlinkDecoder.handleMessage c.vehicleState message now).2 = some (.commandAck acknowledgement))
    (hcompletes : c.telemetryConfigurator.completes acknowledgement = true) :
    (audit.message c now message).completedAt c.telemetryConfigurator.currentRequest =
      audit.received + 1 := by
  simp only [Audit.message, hcall, hcompletes, if_true, Function.update_self]

/-- An entry stays, or becomes the number of the message. -/
theorem lt_recorded {κ : Type} [DecidableEq κ] {entries entries' : κ → Nat} {n number : Nat}
    (hentries : entries' = entries ∨ ∃ key, entries' = Function.update entries key number) (k : κ)
    (hnew : n < number) (h : n < entries k) : n < entries' k := by
  rcases hentries with rfl | ⟨key, rfl⟩
  · exact h
  · rw [Function.update_apply]
    split
    · exact hnew
    · exact h

theorem lt_valueAt_message {n : Nat} {id : Bytes} (hnew : n < audit.received + 1)
    (h : n < audit.valueAt id) : n < (audit.message c now message).valueAt id := by
  refine lt_recorded ?_ id hnew h
  simp only [Audit.message]
  split
  · split
    · exact Or.inr ⟨_, rfl⟩
    · exact Or.inl rfl
  · exact Or.inl rfl

theorem lt_completedAt_message {n i : Nat} (hnew : n < audit.received + 1) (h : n < audit.completedAt i) :
    n < (audit.message c now message).completedAt i := by
  refine lt_recorded ?_ i hnew h
  simp only [Audit.message]
  split
  · split
    · exact Or.inr ⟨_, rfl⟩
    · exact Or.inl rfl
  · exact Or.inl rfl

end Audit

namespace AuditedCore

/-- Whatever the failsafe and the configurator have kept rests on messages of the current session. -/
structure Grounded (c : AuditedCore) : Prop where
  numbered : c.audit.sessionStart ≤ c.audit.received
  values : ∀ i, (c.core.companionLinkFailsafe.held i).isSome = true →
    c.audit.sessionStart < c.audit.valueAt (CompanionLinkFailsafe.parameterName i)
  requests : ∀ i < c.core.telemetryConfigurator.currentRequest,
    c.audit.sessionStart < c.audit.completedAt i

/-- A message that starts no session may bring something to keep. -/
theorem Grounded.ingestMessage {c : AuditedCore} (h : Grounded c) {now : TimePoint} {message : MavlinkMessage}
    (hsession : MavlinkDecoder.startsSession c.core.vehicleState message now = false) :
    Grounded (AuditedCore.ingestMessage now c message) := by
  have hstart : (AuditedCore.ingestMessage now c message).audit.sessionStart = c.audit.sessionStart := by
    simp only [AuditedCore.ingestMessage, Audit.message, hsession]
    rfl
  have hnew : c.audit.sessionStart < c.audit.received + 1 := Nat.lt_succ_of_le h.numbered
  refine ⟨hstart.trans_le hnew.le, fun i hheld => ?_, fun i hlt => ?_⟩
  · rw [hstart]
    rcases CompanionCore.held_ingestMessage hheld with hbefore | ⟨parameter, hcall, hhears, hid⟩
    · exact c.audit.lt_valueAt_message c.core now message hnew (h.values i hbefore)
    · rw [← hid]
      exact (c.audit.valueAt_message_of_heard c.core now message hcall hhears) ▸ hnew
  · rw [hstart]
    rcases CompanionCore.lt_ingestMessage hlt with hbefore | ⟨acknowledgement, hcall, hcompletes, rfl⟩
    · exact c.audit.lt_completedAt_message c.core now message hnew (h.requests i hbefore)
    · exact (c.audit.completedAt_message_of_completes c.core now message hcall hcompletes) ▸ hnew

/-! ### What the messages of a poll keep -/

theorem ingest_core (now : TimePoint) (messages : List MavlinkMessage) :
    ∀ c : AuditedCore, (c.ingest now messages).core = c.core.ingest now messages := by
  induction messages with
  | nil =>
      intro _
      exact rfl
  | cons message messages ih =>
      intro c
      exact ih (AuditedCore.ingestMessage now c message)

theorem ingestMessage_numbered {c : AuditedCore} (h : c.audit.sessionStart ≤ c.audit.received)
    (now : TimePoint) (message : MavlinkMessage) :
    (AuditedCore.ingestMessage now c message).audit.sessionStart ≤
      (AuditedCore.ingestMessage now c message).audit.received := by
  simp only [AuditedCore.ingestMessage, Audit.message]
  split
  · exact le_rfl
  · exact h.trans (Nat.le_succ _)

theorem ingest_numbered (now : TimePoint) (messages : List MavlinkMessage) :
    ∀ c : AuditedCore, c.audit.sessionStart ≤ c.audit.received →
      (c.ingest now messages).audit.sessionStart ≤ (c.ingest now messages).audit.received := by
  induction messages with
  | nil =>
      intro _ h
      exact h
  | cons message messages ih =>
      intro c h
      exact ih _ (ingestMessage_numbered h now message)

theorem ingest_systems (now : TimePoint) (messages : List MavlinkMessage) :
    ∀ c : CompanionCore,
      (c.ingest now messages).companionLinkFailsafe.snapshot.heartbeatSystemId =
          c.companionLinkFailsafe.snapshot.heartbeatSystemId ∧
        (c.ingest now messages).telemetryConfigurator.vehicleSystemId =
          c.telemetryConfigurator.vehicleSystemId := by
  induction messages with
  | nil =>
      intro _
      exact ⟨rfl, rfl⟩
  | cons message messages ih =>
      intro c
      obtain ⟨hfailsafe, hconfigurator⟩ := ih (c.ingestMessage now message)
      obtain ⟨hfailsafe', hconfigurator'⟩ := c.ingestMessage_systems now message
      exact ⟨hfailsafe.trans hfailsafe', hconfigurator.trans hconfigurator'⟩

/-- The controller is connected at the time of the poll. -/
def Connected (c : AuditedCore) (now : TimePoint) : Prop :=
  isFresh c.core.vehicleState.lastHeartbeat now kHeartbeatTimeout = true

theorem Connected.ingestMessage {c : AuditedCore} {now : TimePoint} (h : c.Connected now)
    (message : MavlinkMessage) : (AuditedCore.ingestMessage now c message).Connected now ∧
      (AuditedCore.ingestMessage now c message).core.vehicleState.systemId = c.core.vehicleState.systemId := by
  have hstate := CompanionCore.ingestMessage_vehicleState c.core now message
  simp only [Connected, AuditedCore.ingestMessage, hstate]
  exact MavlinkDecoder.handleMessage_connected message h

/-- While the controller is connected nothing kept goes stale. -/
theorem Connected.ingest {now : TimePoint} (messages : List MavlinkMessage) :
    ∀ {c : AuditedCore}, c.Connected now → (c.ingest now messages).Connected now ∧
      (c.ingest now messages).core.vehicleState.systemId = c.core.vehicleState.systemId ∧
      (Grounded c → Grounded (c.ingest now messages)) := by
  induction messages with
  | nil =>
      intro c h
      exact ⟨h, rfl, id⟩
  | cons message messages ih =>
      intro c h
      obtain ⟨hconnected, hsystem⟩ := h.ingestMessage message
      obtain ⟨hend, hsystemEnd, hgrounded⟩ := ih hconnected
      exact ⟨hend, hsystemEnd.trans hsystem, fun hg =>
        hgrounded (hg.ingestMessage (MavlinkDecoder.startsSession_of_connected message h))⟩

/-- The snapshot will show a system that the failsafe has not observed. -/
def Replaced (c : AuditedCore) (now : TimePoint) : Prop :=
  c.Connected now ∧ ∃ sysid, c.core.vehicleState.systemId = some sysid ∧
    c.core.companionLinkFailsafe.snapshot.heartbeatSystemId ≠ some sysid

theorem Replaced.ingest {c : AuditedCore} {now : TimePoint} (h : c.Replaced now)
    (messages : List MavlinkMessage) : (c.ingest now messages).Replaced now := by
  obtain ⟨hconnected, sysid, hsystem, hother⟩ := h
  obtain ⟨hend, hsystemEnd, -⟩ := hconnected.ingest messages
  refine ⟨hend, sysid, hsystemEnd.trans hsystem, ?_⟩
  rw [ingest_core, (ingest_systems now messages c.core).1]
  exact hother

/-- A message that reaches no handler leaves the failsafe and the configurator alone. -/
theorem ingestMessage_unheard {c : CompanionCore} {now : TimePoint} {message : MavlinkMessage}
    (h : (MavlinkDecoder.handleMessage c.vehicleState message now).2 = none) :
    c.ingestMessage now message =
      { c with vehicleState := (MavlinkDecoder.handleMessage c.vehicleState message now).1 } := by
  simp only [CompanionCore.ingestMessage, h]
  rfl

/-- When the controller is lost, a heartbeat that may select connects its system, and nothing else changes
yet. -/
theorem ingestMessage_selecting {c : AuditedCore} {now : TimePoint} {message : MavlinkMessage}
    (hstale : isFresh c.core.vehicleState.lastHeartbeat now kHeartbeatTimeout = false)
    (h : MavlinkDecoder.selecting message = true) :
    (AuditedCore.ingestMessage now c message).Connected now ∧
      (AuditedCore.ingestMessage now c message).core.vehicleState.systemId = some message.sysid ∧
      (AuditedCore.ingestMessage now c message).core.companionLinkFailsafe = c.core.companionLinkFailsafe ∧
      (AuditedCore.ingestMessage now c message).core.telemetryConfigurator = c.core.telemetryConfigurator := by
  obtain ⟨hlast, hsystem, hcall⟩ := MavlinkDecoder.handleMessage_selects hstale h
  simp only [Connected, AuditedCore.ingestMessage, ingestMessage_unheard hcall, hlast, hsystem, and_self,
    and_true]
  exact MavlinkDecoder.isFresh_self now

/-- Any other message changes nothing that matters. -/
theorem ingestMessage_unselecting {c : AuditedCore} {now : TimePoint} {message : MavlinkMessage}
    (hstale : isFresh c.core.vehicleState.lastHeartbeat now kHeartbeatTimeout = false)
    (h : MavlinkDecoder.selecting message = false) :
    (AuditedCore.ingestMessage now c message).core.vehicleState.lastHeartbeat =
        c.core.vehicleState.lastHeartbeat ∧
      (AuditedCore.ingestMessage now c message).core.companionLinkFailsafe = c.core.companionLinkFailsafe ∧
      (AuditedCore.ingestMessage now c message).core.telemetryConfigurator = c.core.telemetryConfigurator ∧
      MavlinkDecoder.startsSession c.core.vehicleState message now = false := by
  obtain ⟨hlast, hcall⟩ := MavlinkDecoder.handleMessage_unheard hstale h
  simp only [AuditedCore.ingestMessage, ingestMessage_unheard hcall, hlast, true_and]
  rw [MavlinkDecoder.startsSession, MavlinkDecoder.takenIn, h]
  rfl

/-- A heartbeat that may select ends what was kept, because it is of another system, or finds nothing
kept. -/
theorem Grounded.selecting {c : AuditedCore} (h : Grounded c) {now : TimePoint} {message : MavlinkMessage}
    (hstale : isFresh c.core.vehicleState.lastHeartbeat now kHeartbeatTimeout = false)
    (hselecting : MavlinkDecoder.selecting message = true)
    (hseen : c.core.Informed → c.core.companionLinkFailsafe.snapshot.heartbeatSystemId ≠ some message.sysid) :
    (AuditedCore.ingestMessage now c message).Connected now ∧
      (Grounded (AuditedCore.ingestMessage now c message) ∨
        (AuditedCore.ingestMessage now c message).Replaced now) := by
  obtain ⟨hconnected, hsystem, hfailsafe, hconfigurator⟩ := ingestMessage_selecting hstale hselecting
  refine ⟨hconnected, ?_⟩
  by_cases hinformed : c.core.Informed
  · refine Or.inr ⟨hconnected, message.sysid, hsystem, ?_⟩
    rw [hfailsafe]
    exact hseen hinformed
  · refine Or.inl ⟨ingestMessage_numbered h.numbered now message, ?_, ?_⟩
    · intro i hheld
      rw [hfailsafe] at hheld
      exact absurd (Or.inl ⟨i, hheld⟩) hinformed
    · intro i hlt
      rw [hconfigurator] at hlt
      exact absurd (Or.inr (Nat.zero_lt_of_lt hlt)) hinformed

/-- When the controller is lost, the first heartbeat that may select decides. -/
theorem Grounded.ingest_lost {now : TimePoint} (messages : List MavlinkMessage) :
    ∀ {c : AuditedCore}, Grounded c → ¬c.Connected now → ¬c.core.HiddenGap now messages →
      Grounded (c.ingest now messages) ∨ (c.ingest now messages).Replaced now := by
  induction messages with
  | nil =>
      intro c h _ _
      exact Or.inl h
  | cons message messages ih =>
      intro c h hlost hseen
      have hstale : isFresh c.core.vehicleState.lastHeartbeat now kHeartbeatTimeout = false :=
        Bool.eq_false_iff.mpr hlost
      cases hselecting : MavlinkDecoder.selecting message with
      | true =>
          have hfind : (message :: messages).find? MavlinkDecoder.selecting = some message :=
            List.find?_cons_of_pos hselecting
          have hother : c.core.Informed →
              c.core.companionLinkFailsafe.snapshot.heartbeatSystemId ≠ some message.sysid := by
            intro hinformed hsame
            exact hseen ⟨hstale, hinformed, by rw [hfind, hsame]; exact beq_self_eq_true _⟩
          obtain ⟨hconnected, hkept⟩ := h.selecting hstale hselecting hother
          exact hkept.imp (hconnected.ingest messages).2.2 fun hreplaced => hreplaced.ingest messages
      | false =>
          obtain ⟨hlast, hfailsafe, hconfigurator, hsession⟩ := ingestMessage_unselecting hstale hselecting
          apply ih (h.ingestMessage hsession)
          · rw [Connected, hlast]
            exact hlost
          · rintro ⟨-, hinformed, hfirst⟩
            rw [CompanionCore.Informed, hfailsafe, hconfigurator] at hinformed
            rw [hfailsafe] at hfirst
            refine hseen ⟨hstale, hinformed, ?_⟩
            rw [List.find?_cons_of_neg (by rw [hselecting]; exact Bool.false_ne_true)]
            exact hfirst

/-- After the messages of a poll without a hidden gap. -/
theorem Grounded.ingest {c : AuditedCore} (h : Grounded c) {now : TimePoint} {messages : List MavlinkMessage}
    (hseen : ¬c.core.HiddenGap now messages) :
    Grounded (c.ingest now messages) ∨ (c.ingest now messages).Replaced now := by
  by_cases hconnected : c.Connected now
  · exact Or.inl ((hconnected.ingest messages).2.2 h)
  · exact h.ingest_lost messages hconnected hseen

/-! ### Polls -/

/-- Between the events of a run. -/
structure Settled (c : AuditedCore) : Prop where
  grounded : Grounded c
  complete : c.core.companionLinkFailsafe.Complete
  inRange : c.core.telemetryConfigurator.InRange
  systems : c.core.companionLinkFailsafe.snapshot.heartbeatSystemId =
    c.core.telemetryConfigurator.vehicleSystemId

theorem Settled.start : Settled {} := by
  refine ⟨⟨le_rfl, fun i hheld => ?_, fun i hlt => absurd hlt (Nat.not_lt_zero i)⟩, ⟨rfl, nofun⟩,
    TelemetryStreamConfigurator.InRange.reset, rfl⟩
  fin_cases i <;> cases hheld

theorem Settled.agreement {c : AuditedCore} (h : Settled c) : SessionAgreement c.core c.audit where
  accepted hphase i := h.grounded.values i (h.complete.accepted hphase i)
  active hphase i hlt := h.grounded.requests i (h.inRange.active hphase ▸ hlt)
  values := h.grounded.values
  requests := h.grounded.requests

theorem ingest_complete (now : TimePoint) (messages : List MavlinkMessage) :
    ∀ c : CompanionCore, c.companionLinkFailsafe.Complete → c.telemetryConfigurator.InRange →
      (c.ingest now messages).companionLinkFailsafe.Complete ∧
        (c.ingest now messages).telemetryConfigurator.InRange := by
  induction messages with
  | nil =>
      intro _ hcomplete hrange
      exact ⟨hcomplete, hrange⟩
  | cons message messages ih =>
      intro c hcomplete hrange
      apply ih (c.ingestMessage now message)
      · simp only [CompanionCore.ingestMessage, CompanionCore.handle]
        split
        · exact hcomplete
        · exact hcomplete
        · exact hcomplete.onParameter ..
      · simp only [CompanionCore.ingestMessage, CompanionCore.handle]
        split
        · exact hrange
        · exact hrange.onCommandAck ..
        · exact hrange

/-- What is kept of a replaced system ends with the snapshot. -/
theorem observe_grounded {c : AuditedCore} {now : TimePoint}
    (hnumbered : c.audit.sessionStart ≤ c.audit.received)
    (hsystems : c.core.companionLinkFailsafe.snapshot.heartbeatSystemId =
      c.core.telemetryConfigurator.vehicleSystemId) (hkept : Grounded c ∨ c.Replaced now) :
    Grounded { c with
      core := { c.core with vehicleState := (c.core.vehicleState.snapshot now).1 }.observe
        (c.core.vehicleState.snapshot now).2 now } := by
  have hconnected : (c.core.vehicleState.snapshot now).2.connected =
      isFresh c.core.vehicleState.lastHeartbeat now kHeartbeatTimeout := VehicleState.observe_connected _ now
  have hsystemId : (c.core.vehicleState.snapshot now).2.systemId = c.core.vehicleState.systemId :=
    VehicleState.observe_systemId _ now
  refine ⟨hnumbered, fun i hheld => ?_, fun i hlt => ?_⟩
  · obtain ⟨hbefore, hobserved⟩ := CompanionLinkFailsafe.held_observeVehicle hheld
    rcases hkept with hgrounded | ⟨hlive, sysid, hsystem, hother⟩
    · exact hgrounded.values i hbefore
    · rw [hconnected, hsystemId, show isFresh _ now kHeartbeatTimeout = true from hlive, hsystem] at hobserved
      exact absurd hobserved hother
  · obtain ⟨hbefore, -, hobserved⟩ := TelemetryStreamConfigurator.lt_update hlt
    rcases hkept with hgrounded | ⟨-, sysid, hsystem, hother⟩
    · exact hgrounded.requests i hbefore
    · refine absurd ?_ hother
      calc c.core.companionLinkFailsafe.snapshot.heartbeatSystemId
          = c.core.telemetryConfigurator.vehicleSystemId := hsystems
        _ = (c.core.vehicleState.snapshot now).2.systemId := hobserved
        _ = c.core.vehicleState.systemId := hsystemId
        _ = some sysid := hsystem

/-- One poll, provided its gap is not hidden. -/
theorem Settled.poll {c : AuditedCore} (h : Settled c) (cameraNow : TimePoint) {now : TimePoint}
    {messages : List MavlinkMessage} (hseen : ¬c.core.HiddenGap now messages) :
    Settled (c.step (.poll cameraNow now messages)) := by
  have hsystems : (c.ingest now messages).core.companionLinkFailsafe.snapshot.heartbeatSystemId =
      (c.ingest now messages).core.telemetryConfigurator.vehicleSystemId := by
    rw [ingest_core]
    obtain ⟨hfailsafe, hconfigurator⟩ := ingest_systems now messages c.core
    calc (c.core.ingest now messages).companionLinkFailsafe.snapshot.heartbeatSystemId
        = c.core.companionLinkFailsafe.snapshot.heartbeatSystemId := hfailsafe
      _ = c.core.telemetryConfigurator.vehicleSystemId := h.systems
      _ = (c.core.ingest now messages).telemetryConfigurator.vehicleSystemId := hconfigurator.symm
  obtain ⟨hcomplete, hrange⟩ := ingest_complete now messages c.core h.complete h.inRange
  have hgrounded := observe_grounded (ingest_numbered now messages c h.grounded.numbered) hsystems
    (h.grounded.ingest hseen)
  rw [ingest_core] at hgrounded
  refine ⟨hgrounded, hcomplete.observeVehicle _ _, hrange.update _ _ now, ?_⟩
  exact (CompanionLinkFailsafe.observeVehicle_heartbeatSystemId _ _ _).trans
    (TelemetryStreamConfigurator.update_vehicleSystemId _ _ _ now).symm

theorem Settled.snapshot {c : AuditedCore} (h : Settled c) (now : TimePoint) :
    Settled (c.step (.snapshot now)) :=
  ⟨⟨h.grounded.numbered, h.grounded.values, h.grounded.requests⟩, h.complete, h.inRange, h.systems⟩

theorem step_core (c : AuditedCore) (event : CompanionEvent) : (c.step event).core = c.core.step event := by
  cases event <;> rfl

theorem Settled.run (events : List CompanionEvent) :
    ∀ {c : AuditedCore}, Settled c → c.core.GapsSeen events → Settled (events.foldl AuditedCore.step c) := by
  induction events with
  | nil =>
      intro c h _
      exact h
  | cons event events ih =>
      intro c h hseen
      cases event with
      | poll cameraNow now messages => exact ih (h.poll cameraNow hseen.1) hseen.2
      | snapshot now => exact ih (h.snapshot now) hseen

theorem run_core (events : List CompanionEvent) :
    ∀ c : AuditedCore, (events.foldl AuditedCore.step c).core = events.foldl CompanionCore.step c.core := by
  induction events with
  | nil =>
      intro _
      exact rfl
  | cons event events ih =>
      intro c
      rw [List.foldl_cons, List.foldl_cons, ← step_core]
      exact ih (c.step event)

end AuditedCore

namespace CompanionApplication

/-- In a run without hidden gaps all components agree on the session after every event. -/
theorem session_agreement {ω : Type} (port : OutboundPort ω) (world : ω)
    (simulatedWind : Option SimulatedWindProfile) (observationSinks : List (Option Nat))
    (events : List CompanionEvent) (hseen : CompanionCore.GapsSeen {} events) :
    SessionAgreement (run port (start world simulatedWind observationSinks) events).core
      (AuditedCore.run events).audit := by
  have hsettled := AuditedCore.Settled.start.run events hseen
  have hcore : (run port (start world simulatedWind observationSinks) events).core =
      (AuditedCore.run events).core := by
    rw [run_core]
    exact (AuditedCore.run_core events {}).symm
  rw [hcore]
  exact hsettled.agreement

/-- The four parameters of an accepted policy, from the autopilot of system 1. -/
def acceptedPolicy : List MavlinkMessage :=
  [⟨1, 1, .paramValue ⟨literal "FS_GCS_ENABLE", .finite 5, 9⟩⟩,
    ⟨1, 1, .paramValue ⟨literal "FS_GCS_TIMEOUT", .finite 5, 9⟩⟩,
    ⟨1, 1, .paramValue ⟨literal "FS_OPTIONS", .finite 0, 9⟩⟩,
    ⟨1, 1, .paramValue ⟨literal "SYSID_MYGCS", .finite 1, 9⟩⟩]

def firstHeartbeat : MavlinkMessage := ⟨1, 1, .heartbeat ⟨2, 3, 0, 0, 4⟩⟩

/-- The link is lost for five seconds; a poll falls into the gap. -/
def seenGapEvents : List CompanionEvent :=
  [.poll 0 0 [firstHeartbeat], .poll (seconds 1) (seconds 1) acceptedPolicy, .poll (seconds 4) (seconds 4) [],
    .poll (seconds 5) (seconds 5) (firstHeartbeat :: acceptedPolicy)]

theorem seenGapEvents_agree : SessionAgreement (run acceptingPort (start () none []) seenGapEvents).core
    (AuditedCore.run seenGapEvents).audit :=
  session_agreement acceptingPort () none [] seenGapEvents (by decide +kernel)

/-- The same gap, but no poll falls into it. -/
def hiddenGapEvents : List CompanionEvent :=
  [.poll 0 0 [firstHeartbeat], .poll (seconds 1) (seconds 1) acceptedPolicy,
    .poll (seconds 5) (seconds 5) [firstHeartbeat]]

theorem hiddenGapEvents_disagree : ¬∀ events : List CompanionEvent,
    (events.map CompanionEvent.time).Pairwise (· ≤ ·) →
      (run acceptingPort (start () none []) events).core.companionLinkFailsafe.snapshot.phase = .accepted →
      ∀ i, (AuditedCore.run events).audit.sessionStart <
        (AuditedCore.run events).audit.valueAt (CompanionLinkFailsafe.parameterName i) := by
  intro hagreement
  have hvalue := hagreement hiddenGapEvents (by decide) (by decide +kernel) 0
  exact absurd hvalue (by decide +kernel)

end CompanionApplication
end OnboardAutonomy
