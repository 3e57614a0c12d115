import OnboardAutonomy.SessionAgreement
import OnboardAutonomy.PollTimers
import OnboardAutonomy.FailsafeVerdict
import OnboardAutonomy.Pacing

/-! The cadence of the companion heartbeat. The timer of `send_companion_heartbeat` paces the polls; a poll
that it lets through writes a heartbeat when its snapshot is connected, and over a connected stretch
heartbeats follow each other faster than any timeout the failsafe accepts. -/

namespace OnboardAutonomy

open Pacing

/-- A connected vehicle state knows the system it is connected to. -/
def VehicleState.Identified (s : VehicleState) : Prop := s.lastHeartbeat.isSome = true → s.systemId.isSome = true

theorem VehicleState.Identified.snapshot {s : VehicleState} (h : s.Identified) (now : TimePoint)
    (hconnected : (s.snapshot now).2.connected = true) :
    ∃ systemId, (s.snapshot now).2.systemId = some systemId := by
  simp only [VehicleState.snapshot, VehicleState.observe_connected, VehicleState.observe_systemId] at hconnected ⊢
  apply Option.isSome_iff_exists.mp
  apply h
  show (s.eraseOldWarnings now).lastHeartbeat.isSome = true
  cases hlast : (s.eraseOldWarnings now).lastHeartbeat with
  | none =>
      rw [hlast] at hconnected
      cases hconnected
  | some _ => rfl

theorem handleMessage_identified {s : VehicleState} (h : s.Identified) (message : MavlinkMessage)
    (now : TimePoint) : (MavlinkDecoder.handleMessage s message now).1.Identified := by
  cases hpayload : MavlinkDecoder.isHeartbeat message with
  | false =>
      rw [MavlinkDecoder.handleMessage_other s now hpayload]
      split
      · obtain ⟨hlast, hsystem⟩ := MavlinkDecoder.dispatch_link (s.eraseOldWarnings now) now hpayload
        intro hsome
        rw [hlast] at hsome
        rw [hsystem]
        exact h hsome
      · exact h
  | true =>
      obtain ⟨heartbeat, hheartbeat⟩ := MavlinkDecoder.exists_heartbeat hpayload
      rw [MavlinkDecoder.handleMessage_heartbeat s now hheartbeat, MavlinkDecoder.handleHeartbeat_eq]
      split
      · split
        · exact h
        · intro _
          exact rfl
      · exact h

namespace CompanionCore

theorem ingest_identified (now : TimePoint) (messages : List MavlinkMessage) : ∀ c : CompanionCore,
    c.vehicleState.Identified → (c.ingest now messages).vehicleState.Identified := by
  induction messages with
  | nil =>
      intro c h
      exact h
  | cons message messages ih =>
      intro c h
      apply ih
      rw [ingestMessage_vehicleState]
      exact handleMessage_identified h message now

theorem step_identified {c : CompanionCore} (h : c.vehicleState.Identified) (event : CompanionEvent) :
    (c.step event).vehicleState.Identified := by
  cases event with
  | poll cameraNow now messages => exact ingest_identified now messages c h
  | snapshot now => exact h

theorem run_identified (events : List CompanionEvent) : ∀ c : CompanionCore, c.vehicleState.Identified →
    (events.foldl step c).vehicleState.Identified := by
  induction events with
  | nil =>
      intro c h
      exact h
  | cons event events ih =>
      intro c h
      exact ih _ (step_identified h event)

end CompanionCore

/-! ### What a poll does to the timer -/

/-- A frame that tells the vehicle that the companion is there. -/
def OutboundMessage.isHeartbeat (frame : OutboundMessage) : Bool :=
  match frame.payload with
  | .heartbeat _ => true
  | _ => false

namespace CompanionApplication

variable {ω : Type}

/-- The heartbeats of a poll that the timer lets through. -/
def heartbeatFor (vehicle : VehicleSnapshot) : List OutboundMessage :=
  match vehicle.connected, vehicle.systemId with
  | true, some systemId => [encodeCompanionHeartbeat systemId]
  | _, _ => []

section Timer

variable (port : OutboundPort ω)

theorem requestFailsafeParameter_nextHeartbeat (a : CompanionApplication ω) (vehicle : VehicleSnapshot)
    (telemetryReady : Bool) (now : TimePoint) :
    (a.requestFailsafeParameter port vehicle telemetryReady now).nextHeartbeat = a.nextHeartbeat := by
  cases hdue : a.failsafeDue vehicle telemetryReady now with
  | false => rw [requestFailsafeParameter_not_due port hdue]
  | true =>
      obtain ⟨_, _, _, htimers⟩ := requestFailsafeParameter_due port hdue
      exact congrArg Timers.nextHeartbeat htimers

theorem requestVehicleMetadata_nextHeartbeat (a : CompanionApplication ω) (vehicle : VehicleSnapshot)
    (telemetryReady : Bool) (now : TimePoint) :
    (a.requestVehicleMetadata port vehicle telemetryReady now).nextHeartbeat = a.nextHeartbeat := by
  obtain ⟨_, _, htimers⟩ := requestVehicleMetadata_timers port a vehicle telemetryReady now
  exact congrArg Timers.nextHeartbeat htimers

theorem afterInputs_nextHeartbeat (a : CompanionApplication ω) (cameraNow now : TimePoint)
    (messages : List MavlinkMessage) :
    (a.afterInputs cameraNow now messages).nextHeartbeat = a.nextHeartbeat :=
  congrArg Timers.nextHeartbeat (afterInputs_timers a cameraNow now messages)

theorem updateVehicleConnection_nextHeartbeat (a : CompanionApplication ω) (vehicle : VehicleSnapshot)
    (now : TimePoint) : (a.updateVehicleConnection vehicle now).nextHeartbeat = a.nextHeartbeat :=
  congrArg Timers.nextHeartbeat (updateVehicleConnection_timers a vehicle now)

/-- Only the heartbeat scheduler moves the timer in a poll. -/
theorem act_nextHeartbeat (a : CompanionApplication ω) (vehicle : VehicleSnapshot) (now : TimePoint) :
    (a.act port vehicle now).nextHeartbeat =
      if now < a.nextHeartbeat then a.nextHeartbeat else now + kHeartbeatInterval := by
  have hsent := congrArg Timers.nextHeartbeat
    (sendCompanionHeartbeat_timers port (a.updateVehicleConnection vehicle now) vehicle now)
  have hsetup := congrArg Timers.nextHeartbeat (updateTelemetrySetup_timers port
    ((a.updateVehicleConnection vehicle now).sendCompanionHeartbeat port vehicle now) vehicle now)
  rw [act, requestVehicleMetadata_nextHeartbeat, requestFailsafeParameter_nextHeartbeat,
    ← updateVehicleConnection_nextHeartbeat a vehicle now]
  exact hsetup.trans hsent

theorem sendCompanionHeartbeat_handed (a : CompanionApplication ω) (vehicle : VehicleSnapshot)
    (now : TimePoint) : (a.sendCompanionHeartbeat port vehicle now).handed =
      a.handed ++ if now < a.nextHeartbeat then [] else heartbeatFor vehicle := by
  by_cases hearly : now < a.nextHeartbeat
  · rw [sendCompanionHeartbeat, if_pos hearly, if_pos hearly, List.append_nil]
  · simp only [sendCompanionHeartbeat, heartbeatFor, if_neg hearly]
    cases vehicle.connected with
    | false => exact (List.append_nil _).symm
    | true =>
        cases vehicle.systemId with
        | none => exact (List.append_nil _).symm
        | some systemId =>
            have hwrite := writeFrame_handed port a (encodeCompanionHeartbeat systemId) now "HEARTBEAT" ""
            show CompanionApplication.handed (if _ then _ else _) = _
            split
            · exact hwrite
            · exact hwrite

/-- The frames that follow the heartbeat in a poll are none. -/
theorem act_handed (a : CompanionApplication ω) (vehicle : VehicleSnapshot) (now : TimePoint) :
    ∃ others, (a.act port vehicle now).handed =
        a.handed ++ (if now < a.nextHeartbeat then [] else heartbeatFor vehicle) ++ others ∧
      ∀ frame ∈ others, frame.isHeartbeat = false := by
  have hsent := sendCompanionHeartbeat_handed port (a.updateVehicleConnection vehicle now) vehicle now
  rw [updateVehicleConnection_nextHeartbeat,
    (Prod.mk.inj (updateVehicleConnection_quiet a vehicle now).outbound).2] at hsent
  have hrest : HandsOnly port (fun frame => frame.isHeartbeat = false) _ (a.act port vehicle now) :=
    ((updateTelemetrySetup_handsOnly port
      ((a.updateVehicleConnection vehicle now).sendCompanionHeartbeat port vehicle now) vehicle now
      (fun frame hframe => by
        obtain ⟨_, _, _, _, _, _, rfl⟩ := TelemetryStreamConfigurator.update_source hframe
        rfl)).trans
      (requestFailsafeParameter_handsOnly port _ vehicle _ now fun _ _ _ _ => rfl)).trans
      (requestVehicleMetadata_handsOnly port _ vehicle _ now (fun _ _ _ => rfl) fun _ _ _ => rfl)
  obtain ⟨others, hothers, hnone⟩ := hrest.outbound
  refine ⟨others, ?_, hnone⟩
  rw [← hsent]
  exact (Prod.mk.inj hothers).2

end Timer

/-! ### The heartbeats of a run -/

section Runs

variable (port : OutboundPort ω)

/-- The frames that a step hands to the port. -/
def handedIn (a : CompanionApplication ω) (event : CompanionEvent) : List OutboundMessage :=
  (a.step port event).handed.drop a.handed.length

/-- The frames that the port accepts when it is handed some. -/
def accepted (world : ω) : List OutboundMessage → List OutboundMessage
  | [] => []
  | frame :: frames =>
      let (sent, world) := port.send world frame
      if sent then frame :: accepted world frames else accepted world frames

/-- The times of the attempts to write a heartbeat. -/
def heartbeatAttempts (a : CompanionApplication ω) : List CompanionEvent → List TimePoint
  | [] => []
  | event :: events =>
      (((a.handedIn port event).filter OutboundMessage.isHeartbeat).map fun _ => event.time) ++
        heartbeatAttempts (a.step port event) events

/-- The times of the heartbeats that were written. -/
def heartbeats (a : CompanionApplication ω) : List CompanionEvent → List TimePoint
  | [] => []
  | event :: events =>
      (((accepted port a.port (a.handedIn port event)).filter OutboundMessage.isHeartbeat).map
        fun _ => event.time) ++ heartbeats (a.step port event) events

/-- The times at which `send_companion_heartbeat` schedules the next heartbeat. -/
def schedulings (a : CompanionApplication ω) : List CompanionEvent → List TimePoint
  | [] => []
  | .poll cameraNow now messages :: events =>
      (if now < a.nextHeartbeat then [] else [now]) ++
        schedulings (a.step port (.poll cameraNow now messages)) events
  | .snapshot now :: events => schedulings (a.step port (.snapshot now)) events

/-- The snapshot that a poll acts on. -/
def polledVehicle (a : CompanionApplication ω) (cameraNow now : TimePoint) (messages : List MavlinkMessage) :
    VehicleSnapshot := ((a.pollInputs cameraNow now messages).vehicleState.snapshot now).2

/-- Every poll sees the vehicle connected, and every write succeeds. -/
def Steady (a : CompanionApplication ω) : List CompanionEvent → Prop
  | [] => True
  | .poll cameraNow now messages :: events =>
      (a.polledVehicle cameraNow now messages).connected = true ∧
      accepted port a.port (a.handedIn port (.poll cameraNow now messages)) =
        a.handedIn port (.poll cameraNow now messages) ∧
      Steady (a.step port (.poll cameraNow now messages)) events
  | .snapshot now :: events => Steady (a.step port (.snapshot now)) events

instance decidableSteady : (a : CompanionApplication ω) → DecidablePred (a.Steady port)
  | _, [] => .isTrue trivial
  | a, .poll cameraNow now messages :: events =>
      haveI := decidableSteady (a.step port (.poll cameraNow now messages)) events
      inferInstanceAs (Decidable (_ ∧ _ ∧ _))
  | a, .snapshot now :: events => decidableSteady (a.step port (.snapshot now)) events

end Runs

/-- The times of the polls. -/
def pollTimes (events : List CompanionEvent) : List TimePoint :=
  events.filterMap fun
    | .poll _ now _ => some now
    | .snapshot _ => none

theorem pollTimes_poll (cameraNow now : TimePoint) (messages : List MavlinkMessage)
    (events : List CompanionEvent) :
    pollTimes (.poll cameraNow now messages :: events) = now :: pollTimes events := rfl

variable (port : OutboundPort ω)

theorem poll_nextHeartbeat (a : CompanionApplication ω) (cameraNow now : TimePoint)
    (messages : List MavlinkMessage) : (a.poll port cameraNow now messages).nextHeartbeat =
      if now < a.nextHeartbeat then a.nextHeartbeat else now + kHeartbeatInterval := by
  have hact := act_nextHeartbeat port (a.afterInputs cameraNow now messages)
    (a.polledVehicle cameraNow now messages) now
  rw [afterInputs_nextHeartbeat] at hact
  exact hact

/-- A poll hands over one heartbeat when the timer lets it through and its snapshot is connected. -/
theorem handedIn_poll (a : CompanionApplication ω) (cameraNow now : TimePoint)
    (messages : List MavlinkMessage) :
    (a.handedIn port (.poll cameraNow now messages)).filter OutboundMessage.isHeartbeat =
      if now < a.nextHeartbeat then [] else heartbeatFor (a.polledVehicle cameraNow now messages) := by
  obtain ⟨others, hothers, hnone⟩ := act_handed port (a.afterInputs cameraNow now messages)
    (a.polledVehicle cameraNow now messages) now
  have hhanded : (a.step port (.poll cameraNow now messages)).handed = a.handed ++
      ((if now < a.nextHeartbeat then [] else heartbeatFor (a.polledVehicle cameraNow now messages)) ++
        others) := by
    rw [afterInputs_nextHeartbeat, (Prod.mk.inj (afterInputs_outbound a cameraNow now messages)).2,
      List.append_assoc] at hothers
    exact hothers
  have hlast : others.filter OutboundMessage.isHeartbeat = [] :=
    List.filter_eq_nil_iff.mpr fun frame hframe => Bool.not_eq_true _ ▸ hnone frame hframe
  rw [handedIn, hhanded, List.drop_left, List.filter_append, hlast, List.append_nil]
  split
  · rfl
  · simp only [heartbeatFor]
    split <;> rfl

theorem handedIn_snapshot (a : CompanionApplication ω) (now : TimePoint) :
    a.handedIn port (.snapshot now) = [] := List.drop_length

theorem schedulings_eq (events : List CompanionEvent) : ∀ a : CompanionApplication ω,
    a.schedulings port events = pace kHeartbeatInterval a.nextHeartbeat (pollTimes events) ∧
      (run port a events).nextHeartbeat = dueAfter kHeartbeatInterval a.nextHeartbeat (pollTimes events) := by
  induction events with
  | nil =>
      intro a
      exact ⟨rfl, rfl⟩
  | cons event events ih =>
      intro a
      cases event with
      | snapshot now => exact ih _
      | poll cameraNow now messages =>
          obtain ⟨hschedulings, hdue⟩ := ih (a.step port (.poll cameraNow now messages))
          have hnext : (a.step port (.poll cameraNow now messages)).nextHeartbeat = _ :=
            poll_nextHeartbeat port a cameraNow now messages
          rw [hnext] at hschedulings hdue
          refine ⟨?_, hdue⟩
          rw [schedulings, hschedulings, pollTimes_poll, pace]
          split
          · rfl
          · rfl

/-- Attempts are only made when the timer lets a poll through. -/
theorem heartbeatAttempts_sublist (events : List CompanionEvent) : ∀ a : CompanionApplication ω,
    (a.heartbeatAttempts port events).Sublist (pace kHeartbeatInterval a.nextHeartbeat (pollTimes events)) := by
  induction events with
  | nil =>
      intro a
      exact List.Sublist.refl _
  | cons event events ih =>
      intro a
      cases event with
      | snapshot now =>
          rw [heartbeatAttempts, handedIn_snapshot]
          exact ih _
      | poll cameraNow now messages =>
          have hlater := ih (a.step port (.poll cameraNow now messages))
          have hnext : (a.step port (.poll cameraNow now messages)).nextHeartbeat = _ :=
            poll_nextHeartbeat port a cameraNow now messages
          rw [hnext] at hlater
          rw [heartbeatAttempts, handedIn_poll, pollTimes_poll, pace]
          by_cases hearly : now < a.nextHeartbeat
          · rw [if_pos hearly] at hlater ⊢
            rw [if_pos hearly]
            exact hlater
          · rw [if_neg hearly] at hlater ⊢
            rw [if_neg hearly]
            simp only [heartbeatFor]
            split
            · exact hlater.cons_cons now
            · exact hlater.cons now

/-- A connected poll knows the system of its vehicle. -/
theorem polledVehicle_systemId {a : CompanionApplication ω} (hidentified : a.vehicleState.Identified)
    {cameraNow now : TimePoint} {messages : List MavlinkMessage}
    (hconnected : (a.polledVehicle cameraNow now messages).connected = true) :
    ∃ systemId, (a.polledVehicle cameraNow now messages).systemId = some systemId := by
  have hingest := CompanionCore.ingest_identified now messages a.core hidentified
  rw [← pollInputs_core a cameraNow now messages] at hingest
  exact VehicleState.Identified.snapshot hingest now hconnected

/-- Over a steady stretch a heartbeat is written whenever the timer lets a poll through. -/
theorem heartbeats_steady (events : List CompanionEvent) : ∀ a : CompanionApplication ω,
    a.vehicleState.Identified → a.Steady port events →
    a.heartbeats port events = pace kHeartbeatInterval a.nextHeartbeat (pollTimes events) := by
  induction events with
  | nil =>
      intro a _ _
      exact rfl
  | cons event events ih =>
      intro a hidentified hsteady
      have hlater : (a.step port event).vehicleState.Identified := by
        have hstep := CompanionCore.step_identified (c := a.core) hidentified event
        rw [← step_core port] at hstep
        exact hstep
      cases event with
      | snapshot now =>
          rw [heartbeats, handedIn_snapshot]
          exact ih _ hlater hsteady
      | poll cameraNow now messages =>
          obtain ⟨hconnected, hwritten, hsteady⟩ := hsteady
          obtain ⟨systemId, hsystem⟩ := polledVehicle_systemId hidentified hconnected
          have hrest := ih _ hlater hsteady
          have hnext : (a.step port (.poll cameraNow now messages)).nextHeartbeat = _ :=
            poll_nextHeartbeat port a cameraNow now messages
          rw [hnext] at hrest
          rw [heartbeats, hwritten, handedIn_poll, hrest, pollTimes_poll, pace]
          by_cases hearly : now < a.nextHeartbeat
          · simp only [if_pos hearly]
            rfl
          · simp only [if_neg hearly, heartbeatFor, hconnected, hsystem]
            rfl

theorem run_identified (world : ω) (simulatedWind : Option SimulatedWindProfile)
    (observationSinks : List (Option Nat)) (events : List CompanionEvent) :
    (run port (start world simulatedWind observationSinks) events).vehicleState.Identified := by
  have hrun := CompanionCore.run_identified events (start world simulatedWind observationSinks).core nofun
  rw [← run_core port] at hrun
  exact hrun

/-- A connected poll that is due writes a heartbeat. -/
theorem heartbeatAttempts_due {a : CompanionApplication ω} (hidentified : a.vehicleState.Identified)
    {cameraNow now : TimePoint} {messages : List MavlinkMessage}
    (hconnected : (a.polledVehicle cameraNow now messages).connected = true) (hdue : a.nextHeartbeat ≤ now) :
    a.heartbeatAttempts port [.poll cameraNow now messages] = [now] := by
  obtain ⟨systemId, hsystem⟩ := polledVehicle_systemId hidentified hconnected
  simp only [heartbeatAttempts, handedIn_poll, if_neg (not_lt.mpr hdue), heartbeatFor, hconnected, hsystem]
  rfl

/-- Two seconds, in the unit of the clock, are within a timeout of two seconds or more. -/
theorem lt_timeout_of_close {earlier later : Int} {timeout : ℚ} (hclose : later < earlier + seconds 2)
    (htimeout : 2 ≤ timeout) : ((later - earlier : Int) : ℚ) < timeout * 1000000000 := by
  have hgap : later - earlier < 2000000000 := by
    rw [seconds] at hclose
    omega
  calc ((later - earlier : Int) : ℚ) < 2000000000 := by exact_mod_cast hgap
    _ = 2 * 1000000000 := by norm_num
    _ ≤ timeout * 1000000000 := by linarith

/-- The heartbeat is never attempted twice within a second, and a connected poll that is due attempts it.
So over a stretch of connected polls less than a second apart whose writes succeed, heartbeats follow each
other within less than two seconds, which is less than every timeout an accepted failsafe shows; the first
one is as close to the first poll, and from one second after it on the last heartbeat is never older than a
second. Polls are timed by a clock that starts at 0. -/
theorem heartbeat_cadence (world : ω) (simulatedWind : Option SimulatedWindProfile)
    (observationSinks : List (Option Nat)) :
    (∀ events, ((start world simulatedWind observationSinks).heartbeatAttempts port events).Pairwise
      fun earlier later => earlier + seconds 1 ≤ later) ∧
    (∀ events cameraNow now messages,
      ((run port (start world simulatedWind observationSinks) events).polledVehicle cameraNow now
        messages).connected = true →
      ((start world simulatedWind observationSinks).schedulings port events).getLast?.elim 0
        (· + seconds 1) ≤ now →
      (run port (start world simulatedWind observationSinks) events).heartbeatAttempts port
        [.poll cameraNow now messages] = [now]) ∧
    ∀ before stretch,
      (0 :: pollTimes (before ++ stretch)).Pairwise (· ≤ ·) →
      ((pollTimes stretch).IsChain fun earlier later => later < earlier + seconds 1) →
      (run port (start world simulatedWind observationSinks) before).Steady port stretch →
      let beats := (run port (start world simulatedWind observationSinks) before).heartbeats port stretch
      (beats.IsChain fun earlier later => later < earlier + seconds 2) ∧
      (∀ calls, (runFailsafe calls).snapshot.accepted = true →
        ∃ timeout, (runFailsafe calls).snapshot.timeoutS = some (.finite timeout) ∧
          beats.IsChain fun earlier later => ((later - earlier : Int) : ℚ) < timeout * 1000000000) ∧
      ∀ first ∈ (pollTimes stretch).head?,
        (∀ beat ∈ beats.head?, beat < first + seconds 2) ∧
        ∀ poll ∈ pollTimes stretch, first + seconds 1 ≤ poll →
          ∃ beat ∈ beats, beat ≤ poll ∧ poll < beat + seconds 1 := by
  refine ⟨?_, ?_, ?_⟩
  · intro events
    exact (pace_apart (by decide) _).sublist (heartbeatAttempts_sublist port events _)
  · intro events cameraNow now messages hconnected hdue
    apply heartbeatAttempts_due port (run_identified port world simulatedWind observationSinks events) hconnected
    obtain ⟨hschedulings, hnext⟩ := schedulings_eq port events (start world simulatedWind observationSinks)
    rw [hnext, dueAfter_eq, ← hschedulings]
    exact hdue
  · intro before stretch hordered hclose hsteady beats
    obtain ⟨hepoch, hsorted⟩ := List.pairwise_cons.mp hordered
    rw [pollTimes, List.filterMap_append] at hepoch hsorted
    obtain ⟨-, hstretch, hbefore⟩ := List.pairwise_append.mp hsorted
    have hbeats : beats = pace kHeartbeatInterval _ (pollTimes stretch) :=
      heartbeats_steady port stretch _ (run_identified port world simulatedWind observationSinks before) hsteady
    rw [(schedulings_eq port before _).2] at hbeats
    generalize hdue : dueAfter kHeartbeatInterval _ (pollTimes before) = due at hbeats
    have hgaps : beats.IsChain fun earlier later => later < earlier + seconds 2 := by
      rw [hbeats]
      apply (pace_close_of_polls (by decide) hclose).imp
      intro earlier later hless
      rw [add_assoc] at hless
      exact hless
    refine ⟨hgaps, ?_, ?_⟩
    · intro calls haccepted
      obtain ⟨timeout, htimeout, hlow, -⟩ := runFailsafe_accepted haccepted
      refine ⟨timeout, htimeout, hgaps.imp ?_⟩
      intro earlier later hless
      exact lt_timeout_of_close hless hlow
    · intro first hfirst
      have hmem : first ∈ pollTimes stretch := List.mem_of_mem_head? hfirst
      have hdueFirst : due ≤ first + kHeartbeatInterval := by
        rw [← hdue]
        apply dueAfter_le
        · intro poll hpoll
          exact hbefore poll hpoll first hmem
        · exact (hepoch first (List.mem_append_right _ hmem)).trans (le_add_of_nonneg_right (by decide))
      refine ⟨?_, ?_⟩
      · obtain ⟨polls, hpolls⟩ : ∃ polls, pollTimes stretch = first :: polls := by
          cases hlist : pollTimes stretch with
          | nil => rw [hlist] at hmem; cases hmem
          | cons head polls => rw [hlist] at hfirst; cases Option.some.inj hfirst; exact ⟨polls, rfl⟩
        intro beat hbeat
        rw [hbeats, hpolls] at hbeat
        rw [hpolls] at hclose
        have hless := head_pace_lt_of_polls (by decide) (by decide) hdueFirst hclose beat hbeat
        rw [add_assoc] at hless
        exact hless
      · intro poll hpoll hlate
        rw [hbeats]
        exact pace_covers (by decide) hstretch hpoll (hdueFirst.trans hlate)

/-- A poll with a heartbeat of the flight controller. -/
def steadyPoll (now : TimePoint) : CompanionEvent := .poll now now [⟨1, 1, .heartbeat ⟨2, 3, 0, 0, 4⟩⟩]

def steadyStretch : List CompanionEvent :=
  [steadyPoll (milliseconds 700), .snapshot (milliseconds 800), steadyPoll (milliseconds 1400),
    steadyPoll (milliseconds 2100), steadyPoll (milliseconds 2800), steadyPoll (milliseconds 3500)]

/-- Five polls of a connected stretch, of which every other one writes a heartbeat. -/
theorem heartbeat_cadence_steady :
    let a := run acceptingPort (start () none [some 0]) [steadyPoll 0]
    a.heartbeats acceptingPort steadyStretch = [milliseconds 1400, milliseconds 2800] ∧
      (a.heartbeats acceptingPort steadyStretch).IsChain (fun earlier later => later < earlier + seconds 2) ∧
      ∀ poll ∈ pollTimes steadyStretch, milliseconds 700 + seconds 1 ≤ poll →
        ∃ beat ∈ a.heartbeats acceptingPort steadyStretch, beat ≤ poll ∧ poll < beat + seconds 1 := by
  intro a
  have hbeats : a.heartbeats acceptingPort steadyStretch = [milliseconds 1400, milliseconds 2800] := by
    decide +kernel
  have hsteady : a.Steady acceptingPort steadyStretch := by decide +kernel
  obtain ⟨hclose, -, hfresh⟩ := (heartbeat_cadence acceptingPort () none [some 0]).2.2 [steadyPoll 0] steadyStretch
    (by decide) (by decide) hsteady
  exact ⟨hbeats, hclose, (hfresh (milliseconds 700) rfl).2⟩

end CompanionApplication
end OnboardAutonomy
