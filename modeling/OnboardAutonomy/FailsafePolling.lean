import OnboardAutonomy.HeartbeatCadence

/-! Polling the failsafe parameters. The four names are requested in turn, and the turn starts over when the
vehicle comes online. Index and due time are written at three sites; what they hold at any moment is
determined by the requests made since then. -/

namespace OnboardAutonomy

open CompanionLinkFailsafe (parameterNames)

/-- The failsafe parameter that a frame asks for. -/
def OutboundMessage.failsafeParameter (frame : OutboundMessage) : Option String :=
  match frame.payload with
  | .paramRequestRead request => parameterNames.find? fun name =>
      request.paramId == literal name ++ List.replicate (kMaximumParameterIdLength - (literal name).length) 0
  | _ => none

theorem paramRequestRead_failsafeParameter (systemId : UInt8) {index : Nat}
    (hindex : index < parameterNames.length) :
    (paramRequestRead systemId (CompanionApplication.failsafeParameterId index)).failsafeParameter =
      some (CompanionApplication.failsafeParameterName index) := by
  have hall : ∀ index : Fin parameterNames.length,
      (paramRequestRead 0 (CompanionApplication.failsafeParameterId index)).failsafeParameter =
        some (CompanionApplication.failsafeParameterName index) := by decide
  exact hall ⟨index, hindex⟩

/-- A request for a failsafe parameter, with what the policy was when it was made. -/
structure FailsafeRequest where
  time : TimePoint
  name : String
  accepted : Bool
  deriving DecidableEq

namespace CompanionApplication

variable {ω : Type} (port : OutboundPort ω)

/-- The requests of a step. -/
def failsafeRequests (a : CompanionApplication ω) (event : CompanionEvent) : List FailsafeRequest :=
  (a.handedIn port event).filterMap fun frame => frame.failsafeParameter.map fun name =>
    { time := event.time
      name := name
      accepted := (a.step port event).companionLinkFailsafe.snapshot.accepted }

/-- A step that sees the vehicle come online. `observe_vehicle` raises the flag where it records the online
event, and lowers it where it records the lost one. -/
def ComesOnline (a : CompanionApplication ω) (event : CompanionEvent) : Prop :=
  a.vehicleWasConnected = false ∧ (a.step port event).vehicleWasConnected = true

instance (a : CompanionApplication ω) (event : CompanionEvent) : Decidable (a.ComesOnline port event) :=
  inferInstanceAs (Decidable (_ ∧ _))

/-- The requests of a connection after one more step: a new connection has none before it. -/
def stepRequests (a : CompanionApplication ω) (known : List FailsafeRequest) (event : CompanionEvent) :
    List FailsafeRequest :=
  (if a.ComesOnline port event then [] else known) ++ a.failsafeRequests port event

/-- The requests of a run since it last saw the vehicle come online, after the ones already known. -/
def connectionRequests (a : CompanionApplication ω) (known : List FailsafeRequest) :
    List CompanionEvent → List FailsafeRequest
  | [] => known
  | event :: events => connectionRequests (a.step port event) (a.stepRequests port known event) events

/-! ### What a poll does -/

/-- The application of a poll when the failsafe scheduler runs. -/
def prepared (a : CompanionApplication ω) (vehicle : VehicleSnapshot) (now : TimePoint) :
    CompanionApplication ω :=
  ((a.updateVehicleConnection vehicle now).sendCompanionHeartbeat port vehicle now).updateTelemetrySetup port
    vehicle now

theorem prepared_timers (a : CompanionApplication ω) (vehicle : VehicleSnapshot) (now : TimePoint) :
    ∃ heartbeat, (a.prepared port vehicle now).timers =
      { (a.updateVehicleConnection vehicle now).timers with nextHeartbeat := heartbeat } := by
  have hsetup := updateTelemetrySetup_timers port
    ((a.updateVehicleConnection vehicle now).sendCompanionHeartbeat port vehicle now) vehicle now
  exact ⟨_, hsetup.trans (sendCompanionHeartbeat_timers port _ vehicle now)⟩

/-- The frames of a poll before the failsafe scheduler ask for no failsafe parameter. -/
theorem prepared_handed (a : CompanionApplication ω) (vehicle : VehicleSnapshot) (now : TimePoint) :
    ∃ others, (a.prepared port vehicle now).handed = a.handed ++ others ∧
      ∀ frame ∈ others, frame.failsafeParameter = none := by
  have hbefore : HandsOnly port (fun frame => frame.failsafeParameter = none) _
      ((a.updateVehicleConnection vehicle now).sendCompanionHeartbeat port vehicle now) :=
    (updateVehicleConnection_quiet a vehicle now).handsOnly.trans
      (sendCompanionHeartbeat_handsOnly port _ vehicle now fun _ _ _ => rfl)
  have hsetup := updateTelemetrySetup_handsOnly port (P := fun frame => frame.failsafeParameter = none)
    ((a.updateVehicleConnection vehicle now).sendCompanionHeartbeat port vehicle now) vehicle now
    (fun frame hframe => by
      obtain ⟨_, _, _, _, _, _, rfl⟩ := TelemetryStreamConfigurator.update_source hframe
      rfl)
  obtain ⟨first, hfirst, hnone⟩ := hbefore.outbound
  obtain ⟨second, hsecond, hnone'⟩ := hsetup.outbound
  refine ⟨first ++ second, ?_, ?_⟩
  · rw [prepared, (Prod.mk.inj hsecond).2, ← List.append_assoc]
    exact congrArg (· ++ second) (Prod.mk.inj hfirst).2
  · intro frame hframe
    exact (List.mem_append.mp hframe).elim (hnone frame) (hnone' frame)

/-- The setup is only complete while the vehicle is connected. -/
theorem prepared_ready {a : CompanionApplication ω} {vehicle : VehicleSnapshot} {now : TimePoint}
    (h : (a.prepared port vehicle now).telemetryReady = true) : vehicle.connected = true := by
  have hcore := (updateTelemetrySetup_handsOnly port (P := fun _ => True)
    ((a.updateVehicleConnection vehicle now).sendCompanionHeartbeat port vehicle now) vehicle now
    fun _ _ => trivial).core
  have hupdated : (a.prepared port vehicle now).telemetryConfigurator = _ :=
    congrArg CompanionCore.telemetryConfigurator hcore
  rw [telemetryReady, beq_iff_eq, hupdated] at h
  exact (TelemetryStreamConfigurator.update_active h).1

/-- What the failsafe scheduler can do in a poll that starts it with some index and due time: nothing, or
the request of that index. -/
inductive FailsafeTurn (a' : CompanionApplication ω) (connected : Bool) (now due : TimePoint) (index : Nat) :
    List String → Prop where
  | idle (hindex : a'.failsafeParameterIndex = index) (hdue : a'.nextFailsafeParameterRequest = due) :
      FailsafeTurn a' connected now due index []
  | request (hconnected : connected = true) (hpassed : due ≤ now)
      (hindex : a'.failsafeParameterIndex = nextFailsafeIndex index)
      (hdue : a'.nextFailsafeParameterRequest =
        now + failsafeGap index a'.companionLinkFailsafe.snapshot.accepted) :
      FailsafeTurn a' connected now due index [failsafeParameterName index]

theorem FailsafeTurn.congr {a b : CompanionApplication ω} {connected : Bool} {now due : TimePoint} {index : Nat}
    {names : List String} (h : FailsafeTurn a connected now due index names)
    (hindex : b.failsafeParameterIndex = a.failsafeParameterIndex)
    (hdue : b.nextFailsafeParameterRequest = a.nextFailsafeParameterRequest)
    (hfailsafe : b.companionLinkFailsafe = a.companionLinkFailsafe) :
    FailsafeTurn b connected now due index names := by
  cases h with
  | idle hindex' hdue' => exact .idle (hindex.trans hindex') (hdue.trans hdue')
  | request hconnected hpassed hindex' hdue' =>
      refine .request hconnected hpassed (hindex.trans hindex') ?_
      rw [hdue, hdue', hfailsafe]

theorem requestFailsafeParameter_wasConnected (a : CompanionApplication ω) (vehicle : VehicleSnapshot)
    (telemetryReady : Bool) (now : TimePoint) :
    (a.requestFailsafeParameter port vehicle telemetryReady now).vehicleWasConnected =
      a.vehicleWasConnected := by
  cases hdue : a.failsafeDue vehicle telemetryReady now with
  | false => rw [requestFailsafeParameter_not_due port hdue]
  | true =>
      obtain ⟨_, _, _, htimers⟩ := requestFailsafeParameter_due port hdue
      exact congrArg Timers.vehicleWasConnected htimers

theorem requestFailsafeParameter_turn {a : CompanionApplication ω} {vehicle : VehicleSnapshot}
    {now : TimePoint} (hindex : a.failsafeParameterIndex < parameterNames.length)
    (hready : a.telemetryReady = true → vehicle.connected = true) :
    ∃ frames, (a.requestFailsafeParameter port vehicle a.telemetryReady now).handed = a.handed ++ frames ∧
      FailsafeTurn (a.requestFailsafeParameter port vehicle a.telemetryReady now) vehicle.connected now
        a.nextFailsafeParameterRequest a.failsafeParameterIndex
        (frames.filterMap OutboundMessage.failsafeParameter) := by
  cases hdue : a.failsafeDue vehicle a.telemetryReady now with
  | false =>
      rw [requestFailsafeParameter_not_due port hdue]
      exact ⟨[], (List.append_nil _).symm, .idle rfl rfl⟩
  | true =>
      obtain ⟨systemId, -, hhanded, htimers⟩ := requestFailsafeParameter_due port hdue
      have hcore := (requestFailsafeParameter_handsOnly port (P := fun _ => True) a vehicle a.telemetryReady
        now fun _ _ _ _ => trivial).core
      have hfailsafe := congrArg CompanionCore.companionLinkFailsafe hcore
      rw [failsafeDue, Bool.and_eq_true, Bool.and_eq_true, decide_eq_true_eq] at hdue
      refine ⟨_, hhanded, ?_⟩
      rw [List.filterMap_cons_some (paramRequestRead_failsafeParameter systemId hindex), List.filterMap_nil]
      refine .request (hready hdue.1.1) hdue.2 (congrArg Timers.failsafeParameterIndex htimers) ?_
      rw [show (a.requestFailsafeParameter port vehicle a.telemetryReady now).companionLinkFailsafe =
        a.companionLinkFailsafe from hfailsafe]
      exact congrArg Timers.nextFailsafeParameterRequest htimers

/-- The failsafe scheduler in a poll. What follows it asks for no failsafe parameter. -/
theorem act_turn {a : CompanionApplication ω} {vehicle : VehicleSnapshot} {now : TimePoint}
    (hindex : (a.updateVehicleConnection vehicle now).failsafeParameterIndex < parameterNames.length) :
    ∃ frames, (a.act port vehicle now).handed = a.handed ++ frames ∧
      FailsafeTurn (a.act port vehicle now) vehicle.connected now
        (a.updateVehicleConnection vehicle now).nextFailsafeParameterRequest
        (a.updateVehicleConnection vehicle now).failsafeParameterIndex
        (frames.filterMap OutboundMessage.failsafeParameter) ∧
      (a.act port vehicle now).vehicleWasConnected = vehicle.connected := by
  obtain ⟨heartbeat, hprepared⟩ := prepared_timers port a vehicle now
  obtain ⟨before, hbefore, hnone⟩ := prepared_handed port a vehicle now
  have hready : (a.prepared port vehicle now).telemetryReady = true → vehicle.connected = true :=
    prepared_ready port
  have hact : a.act port vehicle now = ((a.prepared port vehicle now).requestFailsafeParameter port vehicle
      (a.prepared port vehicle now).telemetryReady now).requestVehicleMetadata port vehicle
        (a.prepared port vehicle now).telemetryReady now := rfl
  rw [hact]
  generalize a.prepared port vehicle now = d at hprepared hbefore hready
  have hindexEq : d.failsafeParameterIndex = (a.updateVehicleConnection vehicle now).failsafeParameterIndex :=
    congrArg Timers.failsafeParameterIndex hprepared
  have hdueEq : d.nextFailsafeParameterRequest =
      (a.updateVehicleConnection vehicle now).nextFailsafeParameterRequest :=
    congrArg Timers.nextFailsafeParameterRequest hprepared
  rw [← hindexEq] at hindex
  rw [← hindexEq, ← hdueEq]
  obtain ⟨asked, hasked, hturn⟩ := requestFailsafeParameter_turn port hindex hready
  have hwas : (d.requestFailsafeParameter port vehicle d.telemetryReady now).vehicleWasConnected =
      vehicle.connected := by
    rw [requestFailsafeParameter_wasConnected,
      show d.vehicleWasConnected = (a.updateVehicleConnection vehicle now).vehicleWasConnected from
        congrArg Timers.vehicleWasConnected hprepared]
    exact congrArg Timers.vehicleWasConnected (updateVehicleConnection_timers a vehicle now)
  have hmeta := requestVehicleMetadata_handsOnly port (P := fun frame => frame.failsafeParameter = none)
    (d.requestFailsafeParameter port vehicle d.telemetryReady now) vehicle d.telemetryReady now
    (fun _ _ _ => rfl) fun _ _ _ => rfl
  obtain ⟨_, _, htimers⟩ := requestVehicleMetadata_timers port
    (d.requestFailsafeParameter port vehicle d.telemetryReady now) vehicle d.telemetryReady now
  generalize d.requestFailsafeParameter port vehicle d.telemetryReady now = e at *
  obtain ⟨after, hafter, hnone'⟩ := hmeta.outbound
  have hfailsafe := congrArg CompanionCore.companionLinkFailsafe hmeta.core
  generalize e.requestVehicleMetadata port vehicle d.telemetryReady now = f at *
  refine ⟨before ++ asked ++ after, ?_, ?_, ?_⟩
  · rw [(Prod.mk.inj hafter).2, hasked, hbefore, List.append_assoc, List.append_assoc, List.append_assoc]
  · rw [List.filterMap_append, List.filterMap_append, List.filterMap_eq_nil_iff.mpr hnone,
      List.filterMap_eq_nil_iff.mpr hnone', List.nil_append, List.append_nil]
    exact hturn.congr (congrArg Timers.failsafeParameterIndex htimers)
      (congrArg Timers.nextFailsafeParameterRequest htimers) hfailsafe
  · exact (congrArg Timers.vehicleWasConnected htimers).trans hwas

/-! ### What the requests of a connection determine -/

/-- Requests made in turn: the names over and over, each request the gap of the one before it later. -/
structure InTurn (requests : List FailsafeRequest) : Prop where
  names : ∀ i request, requests[i]? = some request → parameterNames[i % 4]? = some request.name
  spaced : ∀ i earlier later, requests[i]? = some earlier → requests[i + 1]? = some later →
    earlier.time + failsafeGap (i % 4) earlier.accepted ≤ later.time

theorem InTurn.nil : InTurn [] := ⟨nofun, nofun⟩

theorem InTurn.concat {requests : List FailsafeRequest} (h : InTurn requests) {next : FailsafeRequest}
    (hname : parameterNames[requests.length % 4]? = some next.name)
    (htime : ∀ i last, requests[i]? = some last → i + 1 = requests.length →
      last.time + failsafeGap (i % 4) last.accepted ≤ next.time) : InTurn (requests ++ [next]) := by
  have hcases : ∀ i request, (requests ++ [next])[i]? = some request →
      requests[i]? = some request ∨ i = requests.length ∧ request = next := by
    intro i request hrequest
    rw [List.getElem?_append] at hrequest
    split at hrequest
    · exact Or.inl hrequest
    · rw [List.getElem?_singleton] at hrequest
      split at hrequest
      · exact Or.inr ⟨by omega, (Option.some.inj hrequest).symm⟩
      · cases hrequest
  refine ⟨?_, ?_⟩
  · intro i request hrequest
    rcases hcases i request hrequest with hold | ⟨rfl, rfl⟩
    · exact h.names i request hold
    · exact hname
  · intro i earlier later hearlier hlater
    rcases hcases i earlier hearlier with hold | ⟨rfl, rfl⟩
    · rcases hcases (i + 1) later hlater with hold' | ⟨hlast, rfl⟩
      · exact h.spaced i earlier later hold hold'
      · exact htime i earlier hold hlast
    · rcases hcases (requests.length + 1) later hlater with hold' | ⟨hlast, -⟩
      · have hless := (List.getElem?_eq_some_iff.mp hold').1
        omega
      · omega

/-- Index and due time after the requests of a connection. -/
structure FailsafeState (requests : List FailsafeRequest) (index : Nat) (due : TimePoint) : Prop where
  turn : InTurn requests
  index : index = requests.length % 4
  due : ∀ i last, requests[i]? = some last → i + 1 = requests.length →
    due = last.time + failsafeGap (i % 4) last.accepted

theorem FailsafeState.nil (due : TimePoint) : FailsafeState [] 0 due := ⟨InTurn.nil, rfl, nofun⟩

theorem nextFailsafeIndex_mod (n : Nat) : nextFailsafeIndex (n % 4) = (n + 1) % 4 := by
  have hlength : parameterNames.length = 4 := rfl
  rw [nextFailsafeIndex, hlength]
  split <;> omega

theorem FailsafeState.turned {a : CompanionApplication ω} {requests : List FailsafeRequest} {index : Nat}
    {connected : Bool} {now due : TimePoint} {names : List String} (h : FailsafeState requests index due)
    (hturn : FailsafeTurn a connected now due index names) :
    FailsafeState
      (requests ++ names.map fun name => ⟨now, name, a.companionLinkFailsafe.snapshot.accepted⟩)
      a.failsafeParameterIndex a.nextFailsafeParameterRequest := by
  cases hturn with
  | idle hindex hdue =>
      rw [List.map_nil, List.append_nil, hindex, hdue]
      exact h
  | request hconnected hpassed hindex hdue =>
      obtain ⟨hinturn, rfl, hlast⟩ := h
      have hless : requests.length % 4 < parameterNames.length := Nat.mod_lt _ (by decide)
      refine ⟨hinturn.concat ?_ ?_, ?_, ?_⟩
      · rw [failsafeParameterName, List.getD_eq_getElem?_getD, List.getElem?_eq_getElem hless]
        rfl
      · intro i last hi hend
        rw [← hlast i last hi hend]
        exact hpassed
      · rw [hindex, nextFailsafeIndex_mod, List.length_append]
        rfl
      · intro i last hi hend
        rw [List.length_append, List.length_map, List.length_singleton, Nat.add_right_cancel_iff] at hend
        rw [hend, List.map_singleton, List.getElem?_concat_length] at hi
        rw [hdue, hend, ← Option.some.inj hi]

/-! ### Runs -/

theorem failsafeRequests_of_handed {a : CompanionApplication ω} {event : CompanionEvent}
    {frames : List OutboundMessage} (h : (a.step port event).handed = a.handed ++ frames) :
    a.failsafeRequests port event =
      (frames.filterMap OutboundMessage.failsafeParameter).map fun name =>
        ⟨event.time, name, (a.step port event).companionLinkFailsafe.snapshot.accepted⟩ := by
  rw [failsafeRequests, handedIn, h, List.drop_left, List.map_filterMap]

theorem poll_failsafeState {a : CompanionApplication ω} {known : List FailsafeRequest}
    (cameraNow now : TimePoint) (messages : List MavlinkMessage)
    (h : FailsafeState known a.failsafeParameterIndex a.nextFailsafeParameterRequest) :
    FailsafeState (a.stepRequests port known (.poll cameraNow now messages))
        (a.step port (.poll cameraNow now messages)).failsafeParameterIndex
        (a.step port (.poll cameraNow now messages)).nextFailsafeParameterRequest ∧
      (a.failsafeRequests port (.poll cameraNow now messages) ≠ [] →
        (a.step port (.poll cameraNow now messages)).vehicleWasConnected = true) := by
  have hbHanded : (a.afterInputs cameraNow now messages).handed = a.handed :=
    (Prod.mk.inj (afterInputs_outbound a cameraNow now messages)).2
  have hbTimers := afterInputs_timers a cameraNow now messages
  have hstep : a.step port (.poll cameraNow now messages) =
    (a.afterInputs cameraNow now messages).act port (a.polledVehicle cameraNow now messages) now := rfl
  generalize a.polledVehicle cameraNow now messages = vehicle at hstep
  generalize a.afterInputs cameraNow now messages = b at hstep hbHanded hbTimers
  have hconnection := updateVehicleConnection_timers b vehicle now
  rw [hbTimers, show b.vehicleWasConnected = a.vehicleWasConnected from
      congrArg Timers.vehicleWasConnected hbTimers,
    show b.failsafeParameterIndex = a.failsafeParameterIndex from
      congrArg Timers.failsafeParameterIndex hbTimers,
    show b.nextFailsafeParameterRequest = a.nextFailsafeParameterRequest from
      congrArg Timers.nextFailsafeParameterRequest hbTimers] at hconnection
  have hstart : FailsafeState (if vehicle.connected && !a.vehicleWasConnected then [] else known)
      (b.updateVehicleConnection vehicle now).failsafeParameterIndex
      (b.updateVehicleConnection vehicle now).nextFailsafeParameterRequest := by
    rw [show (b.updateVehicleConnection vehicle now).failsafeParameterIndex = _ from
        congrArg Timers.failsafeParameterIndex hconnection,
      show (b.updateVehicleConnection vehicle now).nextFailsafeParameterRequest = _ from
        congrArg Timers.nextFailsafeParameterRequest hconnection]
    dsimp only
    split
    · exact FailsafeState.nil now
    · exact h
  have hindex : (b.updateVehicleConnection vehicle now).failsafeParameterIndex < parameterNames.length := by
    rw [hstart.index]
    exact Nat.mod_lt _ (by decide)
  obtain ⟨frames, hframes, hturn, hwas⟩ := act_turn port hindex
  rw [← hstep] at hframes hturn hwas
  rw [hbHanded] at hframes
  have hcomes : a.ComesOnline port (.poll cameraNow now messages) ↔
      (vehicle.connected && !a.vehicleWasConnected) = true := by
    rw [ComesOnline, hwas, Bool.and_eq_true, Bool.not_eq_true', and_comm]
  rw [stepRequests, failsafeRequests_of_handed port hframes, if_congr hcomes rfl rfl]
  refine ⟨hstart.turned hturn, ?_⟩
  intro hrequests
  rw [hwas]
  generalize frames.filterMap OutboundMessage.failsafeParameter = names at hturn hrequests
  cases hturn with
  | idle => exact absurd rfl hrequests
  | request hconnected => exact hconnected

/-- Taking a snapshot makes no request. -/
theorem snapshot_failsafeRequests (a : CompanionApplication ω) (known : List FailsafeRequest)
    (now : TimePoint) :
    a.failsafeRequests port (.snapshot now) = [] ∧ a.stepRequests port known (.snapshot now) = known := by
  have hnone : a.failsafeRequests port (.snapshot now) = [] := by
    rw [failsafeRequests, handedIn_snapshot, List.filterMap_nil]
  refine ⟨hnone, ?_⟩
  rw [stepRequests, hnone, List.append_nil, if_neg]
  rintro ⟨hwas, hnow⟩
  exact Bool.noConfusion (hwas.symm.trans hnow)

theorem run_failsafeState (events : List CompanionEvent) : ∀ (a : CompanionApplication ω)
    (known : List FailsafeRequest),
    FailsafeState known a.failsafeParameterIndex a.nextFailsafeParameterRequest →
    FailsafeState (a.connectionRequests port known events) (run port a events).failsafeParameterIndex
      (run port a events).nextFailsafeParameterRequest := by
  induction events with
  | nil =>
      intro a known h
      exact h
  | cons event events ih =>
      intro a known h
      apply ih
      cases event with
      | poll cameraNow now messages => exact (poll_failsafeState port cameraNow now messages h).1
      | snapshot now =>
          rw [(snapshot_failsafeRequests port a known now).2]
          exact h

/-- The names that any four requests in a row ask for. -/
theorem InTurn.window {requests : List FailsafeRequest} (h : InTurn requests) {i : Nat}
    (hi : i + 4 ≤ requests.length) {name : String} (hname : name ∈ parameterNames) :
    name ∈ ((requests.drop i).take 4).map FailsafeRequest.name := by
  obtain ⟨index, hindex⟩ := List.mem_iff_getElem?.mp hname
  have hless : index < 4 := (List.getElem?_eq_some_iff.mp hindex).1
  -- the position in the window whose turn it is to ask for this name
  obtain ⟨offset, hoffset, hturn⟩ : ∃ offset < 4, (i + offset) % 4 = index :=
    ⟨(index + 4 - i % 4) % 4, by omega⟩
  have hrequest : requests[i + offset]? = some (requests.get ⟨i + offset, by omega⟩) :=
    List.getElem?_eq_getElem _
  have hsame := h.names (i + offset) _ hrequest
  rw [hturn, hindex] at hsame
  refine List.mem_map.mpr ⟨_, List.mem_of_getElem? (i := offset) ?_, (Option.some.inj hsame).symm⟩
  rw [List.getElem?_take_of_lt hoffset, List.getElem?_drop]
  exact hrequest

/-- After any run the index is in range, and the requests since the vehicle came online name the four
parameters in turn, from the first on: any four in a row name all of them. Within a turn they are 200 ms
apart at least; from the end of a turn to the next it is two seconds at least, and ten when the policy was
accepted at that end. A step that makes a request sees the vehicle connected, so all requests are made within
a connection. -/
theorem failsafe_polling (world : ω) (simulatedWind : Option SimulatedWindProfile)
    (observationSinks : List (Option Nat)) (events : List CompanionEvent) :
    let a := run port (start world simulatedWind observationSinks) events
    let requests := (start world simulatedWind observationSinks).connectionRequests port [] events
    a.failsafeParameterIndex < 4 ∧
    (∀ i request, requests[i]? = some request →
      ["FS_GCS_ENABLE", "FS_GCS_TIMEOUT", "FS_OPTIONS", "SYSID_MYGCS"][i % 4]? = some request.name) ∧
    (∀ i, i + 4 ≤ requests.length →
      ∀ name ∈ ["FS_GCS_ENABLE", "FS_GCS_TIMEOUT", "FS_OPTIONS", "SYSID_MYGCS"],
        name ∈ ((requests.drop i).take 4).map FailsafeRequest.name) ∧
    (∀ i earlier later, requests[i]? = some earlier → requests[i + 1]? = some later →
      (i % 4 < 3 → earlier.time + milliseconds 200 ≤ later.time) ∧
      (i % 4 = 3 → earlier.time + (if earlier.accepted then seconds 10 else seconds 2) ≤ later.time)) ∧
    ∀ event, a.failsafeRequests port event ≠ [] → (a.step port event).vehicleWasConnected = true := by
  intro a requests
  have hstate : FailsafeState requests a.failsafeParameterIndex a.nextFailsafeParameterRequest :=
    run_failsafeState port events (start world simulatedWind observationSinks) [] (FailsafeState.nil 0)
  refine ⟨?_, hstate.turn.names, fun i hi name hname => hstate.turn.window hi hname, ?_, ?_⟩
  · rw [hstate.index]
    exact Nat.mod_lt _ (by decide)
  · intro i earlier later hearlier hlater
    have hgap := hstate.turn.spaced i earlier later hearlier hlater
    have hlength : parameterNames.length = 4 := rfl
    rw [failsafeGap, hlength] at hgap
    refine ⟨?_, ?_⟩
    · intro hinside
      rw [if_pos (by omega)] at hgap
      exact hgap
    · intro hend
      rw [if_neg (by omega)] at hgap
      exact hgap
  · intro event hrequests
    cases event with
    | poll cameraNow now messages => exact (poll_failsafeState port cameraNow now messages hstate).2 hrequests
    | snapshot now => exact absurd (snapshot_failsafeRequests port a [] now).1 hrequests

end CompanionApplication
end OnboardAutonomy
