import OnboardAutonomy.CompanionCore

/-! The timers of the application: the four due times, the index of the next failsafe parameter and the flag
of the last connection. Most steps of a poll leave all of them alone; each scheduler writes its own. -/

namespace OnboardAutonomy

structure Timers where
  nextHeartbeat : TimePoint
  nextBatteryParameterRequest : TimePoint
  nextFailsafeParameterRequest : TimePoint
  nextAutopilotVersionRequest : TimePoint
  failsafeParameterIndex : Nat
  vehicleWasConnected : Bool

namespace CompanionApplication

variable {ω : Type}

def timers (a : CompanionApplication ω) : Timers :=
  { nextHeartbeat := a.nextHeartbeat
    nextBatteryParameterRequest := a.nextBatteryParameterRequest
    nextFailsafeParameterRequest := a.nextFailsafeParameterRequest
    nextAutopilotVersionRequest := a.nextAutopilotVersionRequest
    failsafeParameterIndex := a.failsafeParameterIndex
    vehicleWasConnected := a.vehicleWasConnected }

/-! ### Taking in messages and watching the vehicle -/

theorem observeFailsafePhase_timers (a : CompanionApplication ω) (now : TimePoint) :
    (a.observeFailsafePhase now).timers = a.timers := by
  simp only [observeFailsafePhase]
  split <;> rfl

theorem observeMetadata_timers (a : CompanionApplication ω) (vehicle : VehicleSnapshot) (now : TimePoint) :
    (a.observeMetadata vehicle now).timers = a.timers := by
  simp only [observeMetadata]
  split
  · split <;> rfl
  · rfl

theorem observeFlightMode_timers (a : CompanionApplication ω) (vehicle : VehicleSnapshot) (now : TimePoint) :
    (a.observeFlightMode vehicle now).timers = a.timers := by
  simp only [observeFlightMode]
  split
  · split <;> rfl
  · rfl

theorem observeArmed_timers (a : CompanionApplication ω) (vehicle : VehicleSnapshot) (now : TimePoint) :
    (a.observeArmed vehicle now).timers = a.timers := by
  simp only [observeArmed]
  split <;> rfl

theorem observeVehicle_timers (a : CompanionApplication ω) (vehicle : VehicleSnapshot) (now : TimePoint) :
    (a.observeVehicle vehicle now).timers = { a.timers with vehicleWasConnected := vehicle.connected } := by
  unfold observeVehicle
  cases hconnected : vehicle.connected with
  | false => cases hwas : a.vehicleWasConnected <;> rfl
  | true =>
      cases hwas : a.vehicleWasConnected with
      | false => rfl
      | true =>
          calc (((a.observeMetadata vehicle now).observeFlightMode vehicle now).observeArmed vehicle now).timers
              = a.timers := by rw [observeArmed_timers, observeFlightMode_timers, observeMetadata_timers]
            _ = { a.timers with vehicleWasConnected := true } := by rw [← hwas]; rfl

/-- The poll that first sees a connection starts the failsafe requests over. -/
theorem updateVehicleConnection_timers (a : CompanionApplication ω) (vehicle : VehicleSnapshot)
    (now : TimePoint) : (a.updateVehicleConnection vehicle now).timers =
      { a.timers with
        failsafeParameterIndex :=
          if vehicle.connected && !a.vehicleWasConnected then 0 else a.failsafeParameterIndex
        nextFailsafeParameterRequest :=
          if vehicle.connected && !a.vehicleWasConnected then now else a.nextFailsafeParameterRequest
        vehicleWasConnected := vehicle.connected } := by
  have hphase := observeFailsafePhase_timers
    { a with
      companionLinkFailsafe := a.companionLinkFailsafe.observeVehicle vehicle.connected vehicle.systemId } now
  simp only [updateVehicleConnection]
  generalize CompanionApplication.observeFailsafePhase _ now = b at hphase ⊢
  have hlast : ∀ c : CompanionApplication ω,
      (if (!vehicle.connected) = true then { c with companionHeartbeatActive := false } else c).timers =
        c.timers := by
    intro c
    split <;> rfl
  rw [hlast, observeVehicle_timers]
  have hb : b.timers = a.timers := hphase
  split
  · rw [← hb]
    rfl
  · rw [hb]
    rfl

theorem handle_timers (a : CompanionApplication ω) (call : Option HandlerCall) (now : TimePoint) :
    (a.handle call now).timers = a.timers := by
  rcases call with _ | ⟨acknowledgement | parameter⟩
  · rfl
  · simp only [handle, onCommandAck]
    split <;> rfl
  · simp only [handle, onParameter]
    split
    · exact observeFailsafePhase_timers _ now
    · exact observeFailsafePhase_timers _ now

theorem pollInputs_timers (a : CompanionApplication ω) (cameraNow now : TimePoint)
    (messages : List MavlinkMessage) : (a.pollInputs cameraNow now messages).timers = a.timers := by
  refine List.foldlRecOn (motive := fun b : CompanionApplication ω => b.timers = a.timers) messages
    (ingestMessage now) ?_ ?_
  · rfl
  · intro b hb message _
    exact (handle_timers _ _ now).trans hb

theorem afterInputs_timers (a : CompanionApplication ω) (cameraNow now : TimePoint)
    (messages : List MavlinkMessage) : (a.afterInputs cameraNow now messages).timers = a.timers :=
  pollInputs_timers a cameraNow now messages

/-! ### The schedulers -/

variable (port : OutboundPort ω)

theorem writeFrame_timers (a : CompanionApplication ω) (frame : OutboundMessage) (now : TimePoint)
    (messageName detail : String) :
    (a.writeFrame port frame now messageName detail).2.timers = a.timers := by
  simp only [writeFrame]
  split <;> rfl

theorem writeFrame_handed (a : CompanionApplication ω) (frame : OutboundMessage) (now : TimePoint)
    (messageName detail : String) :
    (a.writeFrame port frame now messageName detail).2.handed = a.handed ++ [frame] := by
  simp only [writeFrame]
  split <;> rfl

theorem sendCompanionHeartbeat_timers (a : CompanionApplication ω) (vehicle : VehicleSnapshot)
    (now : TimePoint) : (a.sendCompanionHeartbeat port vehicle now).timers =
      { a.timers with
        nextHeartbeat := if now < a.nextHeartbeat then a.nextHeartbeat else now + kHeartbeatInterval } := by
  by_cases hearly : now < a.nextHeartbeat
  · rw [sendCompanionHeartbeat, if_pos hearly, if_pos hearly]
    rfl
  · simp only [sendCompanionHeartbeat, if_neg hearly]
    have hwritten : ∀ b : CompanionApplication ω, b.timers = a.timers →
        ({ b with nextHeartbeat := now + kHeartbeatInterval } : CompanionApplication ω).timers =
          { a.timers with nextHeartbeat := now + kHeartbeatInterval } := by
      intro b hb
      rw [← hb]
      rfl
    apply hwritten
    split
    · split
      · exact writeFrame_timers ..
      · exact writeFrame_timers ..
    · rfl

theorem updateTelemetrySetup_timers (a : CompanionApplication ω) (vehicle : VehicleSnapshot)
    (now : TimePoint) : (a.updateTelemetrySetup port vehicle now).timers = a.timers := by
  simp only [updateTelemetrySetup]
  split
  · rfl
  · exact writeFrame_timers ..

theorem requestVehicleMetadata_timers (a : CompanionApplication ω) (vehicle : VehicleSnapshot)
    (telemetryReady : Bool) (now : TimePoint) :
    ∃ version battery, (a.requestVehicleMetadata port vehicle telemetryReady now).timers =
      { a.timers with
        nextAutopilotVersionRequest := version
        nextBatteryParameterRequest := battery } := by
  have hversion : ∀ (b : CompanionApplication ω) (systemId : UInt8), ∃ version,
      (b.requestAutopilotVersion port vehicle systemId now).timers =
        { b.timers with nextAutopilotVersionRequest := version } := by
    intro b systemId
    simp only [requestAutopilotVersion]
    split
    · refine ⟨now + kAutopilotVersionRetryInterval, ?_⟩
      rw [← writeFrame_timers port b (encodeAutopilotVersionRequest systemId) now "COMMAND_LONG"
        "REQUEST AUTOPILOT_VERSION"]
      rfl
    · exact ⟨_, rfl⟩
  have hbattery : ∀ (b : CompanionApplication ω) (systemId : UInt8), ∃ battery,
      (b.requestBatteryParameter port vehicle systemId now).timers =
        { b.timers with nextBatteryParameterRequest := battery } := by
    intro b systemId
    simp only [requestBatteryParameter]
    split
    · exact ⟨_, rfl⟩
    · refine ⟨now + kBatteryParameterRetryInterval, ?_⟩
      rw [← writeFrame_timers port b (encodeBatteryArmingVoltageRequest systemId) now "PARAM_REQUEST_READ"
        "BATT_ARM_VOLT"]
      rfl
  simp only [requestVehicleMetadata]
  split
  · rename_i systemId _
    obtain ⟨version, hversion⟩ := hversion a systemId
    obtain ⟨battery, hbattery⟩ := hbattery (a.requestAutopilotVersion port vehicle systemId now) systemId
    refine ⟨version, battery, ?_⟩
    rw [hbattery, hversion]
  · exact ⟨_, _, rfl⟩

/-- The failsafe request of a poll is due. -/
def failsafeDue (a : CompanionApplication ω) (vehicle : VehicleSnapshot) (telemetryReady : Bool)
    (now : TimePoint) : Bool :=
  telemetryReady && vehicle.systemId.isSome && decide (a.nextFailsafeParameterRequest ≤ now)

/-- The index after a request. -/
def nextFailsafeIndex (index : Nat) : Nat :=
  if index + 1 < CompanionLinkFailsafe.parameterNames.length then index + 1 else 0

/-- How long after a request the next one is due. -/
def failsafeGap (index : Nat) (accepted : Bool) : Int :=
  if index + 1 < CompanionLinkFailsafe.parameterNames.length then kFailsafeParameterSpacing
  else if accepted then kAcceptedFailsafeRefreshInterval else kRejectedFailsafeRetryInterval

theorem requestFailsafeParameter_not_due {a : CompanionApplication ω} {vehicle : VehicleSnapshot}
    {telemetryReady : Bool} {now : TimePoint} (h : a.failsafeDue vehicle telemetryReady now = false) :
    a.requestFailsafeParameter port vehicle telemetryReady now = a := by
  simp only [requestFailsafeParameter]
  split
  · rename_i systemId hsystem
    rw [failsafeDue, hsystem, Option.isSome_some, Bool.and_self, Bool.true_and, decide_eq_false_iff_not,
      not_le] at h
    rw [if_pos h]
  · rfl

/-- A request that is due goes out, and moves the index and the due time. -/
theorem requestFailsafeParameter_due {a : CompanionApplication ω} {vehicle : VehicleSnapshot}
    {telemetryReady : Bool} {now : TimePoint} (h : a.failsafeDue vehicle telemetryReady now = true) :
    ∃ systemId, vehicle.systemId = some systemId ∧
      (a.requestFailsafeParameter port vehicle telemetryReady now).handed =
        a.handed ++ [paramRequestRead systemId (failsafeParameterId a.failsafeParameterIndex)] ∧
      (a.requestFailsafeParameter port vehicle telemetryReady now).timers =
        { a.timers with
          failsafeParameterIndex := nextFailsafeIndex a.failsafeParameterIndex
          nextFailsafeParameterRequest := now +
            failsafeGap a.failsafeParameterIndex a.companionLinkFailsafe.snapshot.accepted } := by
  rw [failsafeDue, Bool.and_eq_true, Bool.and_eq_true, Option.isSome_iff_exists, decide_eq_true_eq] at h
  obtain ⟨⟨rfl, systemId, hsystem⟩, hdue⟩ := h
  refine ⟨systemId, hsystem, ?_⟩
  generalize hname : failsafeParameterName a.failsafeParameterIndex = name
  generalize hframe : paramRequestRead systemId (failsafeParameterId a.failsafeParameterIndex) = frame
  have hhanded := writeFrame_handed port a frame now "PARAM_REQUEST_READ" name
  have htimers := writeFrame_timers port a frame now "PARAM_REQUEST_READ" name
  have hhands : HandsOnly port (fun _ => True) a (a.writeFrame port frame now "PARAM_REQUEST_READ" name).2 :=
    writeFrame_handsOnly port a trivial now "PARAM_REQUEST_READ" name
  have hcore := hhands.core
  simp only [requestFailsafeParameter, hsystem, if_neg (not_lt.mpr hdue), nextFailsafeIndex, failsafeGap, hname,
    hframe]
  generalize a.writeFrame port frame now "PARAM_REQUEST_READ" name = written at hhanded htimers hcore ⊢
  obtain ⟨sent, b⟩ := written
  have haccepted : b.companionLinkFailsafe = a.companionLinkFailsafe :=
    congrArg CompanionCore.companionLinkFailsafe hcore
  rw [← htimers, ← haccepted]
  split
  · exact ⟨hhanded, rfl⟩
  · exact ⟨hhanded, rfl⟩

end CompanionApplication
end OnboardAutonomy
