import OnboardAutonomy.TelemetryAgreement
import Mathlib.Algebra.Order.BigOperators.Group.List
import Mathlib.Algebra.Order.Group.Nat
import Mathlib.Algebra.Group.Action.Defs

/-! What the configurator sends between two resets: the streams in the order of the table, each at most three
times, and again only when two seconds have passed. The history of a session is the frames it has sent and
the acknowledgements it has consumed. -/

namespace OnboardAutonomy

open TelemetryStreamConfigurator

/-! ### The state of the configurator -/

namespace TelemetryStreamConfigurator

/-- A rejected request keeps its attempts, and nothing is awaited for it any more. -/
structure Coherent (c : TelemetryStreamConfigurator) : Prop where
  completed : c.completedRequests = c.currentRequest
  inRange : InRange c
  active_iff : c.phase = .active ↔ c.currentRequest = kStreamRequests.length
  attempts : c.attempt ≤ kMaximumAttempts
  idle : c.phase = .active → c.attempt = 0
  awaiting : c.awaitingAck = true ↔ 1 ≤ c.attempt ∧ c.failureResult = none
  rejected : c.failureResult ≠ none → c.phase = .failed ∧ 1 ≤ c.attempt

theorem Coherent.reset : Coherent reset where
  completed := rfl
  inRange := InRange.reset
  active_iff := iff_of_false nofun (show 0 ≠ kStreamRequests.length by decide)
  attempts := Nat.zero_le _
  idle := nofun
  awaiting := by decide
  rejected h := absurd rfl h

theorem Coherent.beginSetup (vehicleSystemId : UInt8) : Coherent (beginSetup vehicleSystemId) where
  completed := rfl
  inRange := InRange.beginSetup vehicleSystemId
  active_iff := iff_of_false nofun (show 0 ≠ kStreamRequests.length by decide)
  attempts := Nat.zero_le _
  idle := nofun
  awaiting := iff_of_false Bool.false_ne_true fun hboth => nomatch hboth.1
  rejected h := absurd rfl h

variable {c : TelemetryStreamConfigurator}

theorem Coherent.not_rejected (h : Coherent c) (hphase : c.phase = .configuring) : c.failureResult = none := by
  by_contra hresult
  exact absurd (hphase.symm.trans (h.rejected hresult).1) (by decide)

/-- While requests are made, an acknowledgement is awaited from the first attempt on. -/
theorem Coherent.awaiting_iff (h : Coherent c) (hphase : c.phase = .configuring) :
    c.awaitingAck = true ↔ 1 ≤ c.attempt := by
  rw [h.awaiting, and_iff_left (h.not_rejected hphase)]

theorem Coherent.attempt_lt (h : Coherent c) (hphase : c.phase = .configuring)
    (hleft : c.awaitingAck = true → c.attempt < kMaximumAttempts) : c.attempt < kMaximumAttempts := by
  by_cases hawaiting : c.awaitingAck = true
  · exact hleft hawaiting
  · rw [h.awaiting_iff hphase] at hawaiting
    have hmaximum : kMaximumAttempts = 3 := rfl
    omega

theorem Coherent.requestNext (h : Coherent c) (now : TimePoint) : Coherent (c.requestNext now).1 := by
  have hrange := h.inRange.requestNext now
  rcases c.requestNext_cases now with ⟨-, hnext⟩ | ⟨hphase, hdue, hspent, hnext⟩ | ⟨hphase, hleft, hnext⟩ <;>
    rw [hnext] at hrange ⊢
  · exact h
  · refine ⟨h.completed, hrange, ⟨hrange.active, ?_⟩, h.attempts, nofun, ?_, fun hresult => absurd rfl hresult⟩
    · intro hlast
      exact absurd (hphase.symm.trans (h.active_iff.mpr hlast)) (by decide)
    · have hawaiting := h.awaiting
      rw [h.not_rejected hphase] at hawaiting
      exact hawaiting
  · have hattempt := h.attempt_lt hphase fun hawaiting => (hleft hawaiting).2
    refine ⟨h.completed, hrange, h.active_iff, hattempt, ?_, ?_, ?_⟩
    · intro hactive
      exact absurd (hphase.symm.trans hactive) (by decide)
    · exact iff_of_true rfl ⟨Nat.le_add_left 1 c.attempt, h.not_rejected hphase⟩
    · intro hresult
      exact absurd (h.not_rejected hphase) hresult

theorem Coherent.onCommandAck (h : Coherent c) (acknowledgement : CommandAck) (now : TimePoint) :
    Coherent (c.onCommandAck acknowledgement now) := by
  have hrange := h.inRange.onCommandAck acknowledgement now
  rcases c.onCommandAck_cases acknowledgement now with
    ⟨-, hack⟩ | ⟨hexpects, ⟨-, hack⟩ | ⟨-, -, hack⟩ | ⟨-, hack⟩⟩ <;> rw [hack] at hrange ⊢
  · exact h
  · exact ⟨h.completed, hrange, h.active_iff, h.attempts, h.idle, h.awaiting, h.rejected⟩
  · obtain ⟨hphase, hawaiting, -⟩ := expectsAck_iff.mp hexpects
    have hattempt := (h.awaiting_iff hphase).mp hawaiting
    refine ⟨h.completed, hrange, ⟨hrange.active, ?_⟩, h.attempts, nofun, ?_, fun _ => ⟨rfl, hattempt⟩⟩
    · intro hlast
      exact absurd (hphase.symm.trans (h.active_iff.mpr hlast)) (by decide)
    · exact iff_of_false Bool.false_ne_true fun hboth => nomatch hboth.2
  · refine ⟨congrArg (· + 1) h.completed, hrange, ⟨hrange.active, fun hlast => if_pos hlast⟩, Nat.zero_le _,
      fun _ => rfl, ?_, fun hresult => absurd rfl hresult⟩
    · exact iff_of_false Bool.false_ne_true fun hboth => nomatch hboth.1

end TelemetryStreamConfigurator

/-! ### The frames of a session -/

/-- The attempt at a stream, counted from zero. -/
def StreamRequest.frame (stream : StreamRequest) (systemId : UInt8) (attempt : Nat) : OutboundMessage :=
  encodeSetMessageInterval systemId stream.messageId stream.intervalMicroseconds (UInt8.ofNat attempt)

/-- A message asks for the interval of a stream. -/
def StreamRequest.asks (stream : StreamRequest) (message : OutboundMessage) : Bool :=
  match message.payload with
  | .commandLong command =>
      command.command == MAV_CMD_SET_MESSAGE_INTERVAL && command.param1 == .single stream.messageId.toNat
  | _ => false

def OutboundMessage.confirmation (message : OutboundMessage) : Option UInt8 :=
  match message.payload with
  | .commandLong command => some command.confirmation
  | _ => none

/-- As many attempts at the streams, in their order, as the counts say. -/
def plannedFrames (systemId : UInt8) (streams : List StreamRequest) (counts : List Nat) : List OutboundMessage :=
  (streams.zip counts).flatMap fun (stream, count) => (List.range count).map (stream.frame systemId)

theorem asks_frame {a b : StreamRequest} (ha : a ∈ kStreamRequests) (hb : b ∈ kStreamRequests)
    (systemId : UInt8) (attempt : Nat) : a.asks (b.frame systemId attempt) = true ↔ a = b := by
  have hasks : a.asks (b.frame systemId attempt) = true ↔
      (.single b.messageId.toNat : Binary64) = .single a.messageId.toNat := by
    simp [StreamRequest.asks, StreamRequest.frame, encodeSetMessageInterval, encodeCommandLong]
  rw [hasks]
  apply Iff.intro
  · intro hsame
    apply SetupNetwork.stream_eq_of_messageId a ha b hb
    rw [← (SetupNetwork.single_stream a ha).1, ← hsame, (SetupNetwork.single_stream b hb).1]
  · rintro rfl
    rfl

theorem plannedFrames_concat {systemId : UInt8} {streams : List StreamRequest} {counts : List Nat}
    (hlength : counts.length < streams.length) (count : Nat) :
    plannedFrames systemId streams (counts ++ [count]) =
      plannedFrames systemId streams counts ++
        (List.range count).map (streams[counts.length].frame systemId) := by
  induction counts generalizing streams with
  | nil =>
      obtain _ | ⟨stream, streams⟩ := streams
      · exact absurd hlength (Nat.not_lt_zero _)
      · rw [plannedFrames, plannedFrames, List.nil_append, List.zip_cons_cons, List.zip_nil_right,
          List.flatMap_singleton]
        rfl
  | cons first counts ih =>
      obtain _ | ⟨stream, streams⟩ := streams
      · exact absurd hlength (Nat.not_lt_zero _)
      · have htail := ih (Nat.lt_of_succ_lt_succ hlength)
        rw [plannedFrames] at htail ⊢
        rw [List.cons_append, List.zip_cons_cons, List.flatMap_cons, htail, ← List.append_assoc]
        rfl

theorem plannedFrames_concat_zero (systemId : UInt8) (streams : List StreamRequest) (counts : List Nat) :
    plannedFrames systemId streams (counts ++ [0]) = plannedFrames systemId streams counts := by
  induction counts generalizing streams with
  | nil =>
      obtain _ | ⟨stream, streams⟩ := streams
      · rfl
      · rw [plannedFrames, List.nil_append, List.zip_cons_cons, List.zip_nil_right]
        rfl
  | cons count counts ih =>
      obtain _ | ⟨stream, streams⟩ := streams
      · rfl
      · have htail := ih streams
        rw [plannedFrames] at htail ⊢
        rw [List.cons_append, List.zip_cons_cons, List.flatMap_cons, htail]
        rfl

theorem mem_plannedFrames {systemId : UInt8} {streams : List StreamRequest} {counts : List Nat}
    {message : OutboundMessage} (h : message ∈ plannedFrames systemId streams counts) :
    ∃ stream ∈ streams, ∃ attempt, message = stream.frame systemId attempt := by
  obtain ⟨⟨stream, count⟩, hpair, hmessage⟩ := List.mem_flatMap.mp h
  obtain ⟨attempt, -, rfl⟩ := List.mem_map.mp hmessage
  exact ⟨stream, (List.of_mem_zip hpair).1, attempt, rfl⟩

/-- The frames for one stream are the attempts at it. -/
theorem filter_plannedFrames (systemId : UInt8) {streams : List StreamRequest}
    (hstreams : streams ⊆ kStreamRequests) (hnodup : streams.Nodup) (counts : List Nat) {index : Nat}
    (hindex : index < streams.length) :
    (plannedFrames systemId streams counts).filter streams[index].asks =
      (List.range (counts.getD index 0)).map (streams[index].frame systemId) := by
  induction streams generalizing counts index with
  | nil => exact absurd hindex (Nat.not_lt_zero _)
  | cons stream streams ih =>
      obtain ⟨hstream, htable⟩ := List.cons_subset.mp hstreams
      obtain ⟨hnew, hnodup⟩ := List.nodup_cons.mp hnodup
      obtain _ | ⟨count, counts⟩ := counts
      · rfl
      have hsplit : plannedFrames systemId (stream :: streams) (count :: counts) =
          (List.range count).map (stream.frame systemId) ++ plannedFrames systemId streams counts := by
        rw [plannedFrames, List.zip_cons_cons, List.flatMap_cons]
        rfl
      rw [hsplit, List.filter_append]
      obtain _ | index := index
      · rw [List.filter_eq_self.mpr, List.filter_eq_nil_iff.mpr, List.append_nil]
        · rfl
        · intro message hmessage hasks
          obtain ⟨other, hother, attempt, rfl⟩ := mem_plannedFrames hmessage
          exact hnew ((asks_frame hstream (htable hother) systemId attempt).mp hasks ▸ hother)
        · intro message hmessage
          obtain ⟨attempt, -, rfl⟩ := List.mem_map.mp hmessage
          exact (asks_frame hstream hstream systemId attempt).mpr rfl
      · have hrest : index < streams.length := Nat.lt_of_succ_lt_succ hindex
        have hmem := List.getElem_mem hrest
        rw [List.getElem_cons_succ, List.filter_eq_nil_iff.mpr, List.nil_append,
          ih htable hnodup counts hrest]
        · rfl
        · intro message hmessage hasks
          obtain ⟨attempt, -, rfl⟩ := List.mem_map.mp hmessage
          exact hnew ((asks_frame (htable hmem) hstream systemId attempt).mp hasks ▸ hmem)

theorem length_plannedFrames {systemId : UInt8} {streams : List StreamRequest} {counts : List Nat} {most : Nat}
    (hcounts : ∀ count ∈ counts, count ≤ most) :
    (plannedFrames systemId streams counts).length ≤ streams.length * most := by
  have hpair : ∀ pair ∈ streams.zip counts,
      ((List.range pair.2).map (pair.1.frame systemId)).length ≤ most := by
    intro pair hpair
    rw [List.length_map, List.length_range]
    exact hcounts pair.2 (List.of_mem_zip hpair).2
  have hsum := List.sum_le_card_nsmul ((streams.zip counts).map fun pair =>
    ((List.range pair.2).map (pair.1.frame systemId)).length) most (List.forall_mem_map.mpr hpair)
  rw [List.length_map, List.length_zip, smul_eq_mul] at hsum
  rw [plannedFrames, List.length_flatMap]
  exact hsum.trans (Nat.mul_le_mul_right most (Nat.min_le_left _ _))

/-- The frames are the attempts at the completed requests, and at the current one. -/
def Planned (c : TelemetryStreamConfigurator) (frames : List OutboundMessage) : Prop :=
  ∃ counts, counts.length = c.currentRequest ∧ (∀ count ∈ counts, count ≤ kMaximumAttempts) ∧
    frames = plannedFrames (c.vehicleSystemId.getD 0) kStreamRequests (counts ++ [c.attempt])

section Planned

variable {c : TelemetryStreamConfigurator} {frames : List OutboundMessage}

theorem Planned.attempted (h : Planned c frames) (hindex : c.currentRequest < kStreamRequests.length)
    (now : TimePoint) : Planned (c.attempted now) (frames ++ [c.attemptFrame]) := by
  obtain ⟨counts, hlength, hcounts, hframes⟩ := h
  have hattempt : c.attemptFrame =
      kStreamRequests[c.currentRequest].frame (c.vehicleSystemId.getD 0) c.attempt := by
    rw [attemptFrame, requestAt, List.getD_eq_getElem _ _ hindex]
    rfl
  refine ⟨counts, hlength, hcounts, ?_⟩
  simp only [← hlength] at hindex hattempt
  rw [hframes, hattempt, TelemetryStreamConfigurator.attempted, plannedFrames_concat hindex,
    plannedFrames_concat hindex, List.range_succ, List.map_append, List.append_assoc]
  rfl

theorem Planned.completed (h : Planned c frames) (hattempt : c.attempt ≤ kMaximumAttempts) :
    Planned c.completed frames := by
  obtain ⟨counts, hlength, hcounts, hframes⟩ := h
  refine ⟨counts ++ [c.attempt], ?_, ?_, ?_⟩
  · rw [List.length_append, hlength]
    rfl
  · exact List.forall_mem_append.mpr ⟨hcounts, List.forall_mem_singleton.mpr hattempt⟩
  · rw [hframes]
    exact (plannedFrames_concat_zero _ _ _).symm

theorem Planned.onCommandAck (h : Planned c frames) (hattempt : c.attempt ≤ kMaximumAttempts)
    (acknowledgement : CommandAck) (now : TimePoint) : Planned (c.onCommandAck acknowledgement now) frames := by
  rcases c.onCommandAck_cases acknowledgement now with
    ⟨-, hack⟩ | ⟨-, ⟨-, hack⟩ | ⟨-, -, hack⟩ | ⟨-, hack⟩⟩ <;> rw [hack]
  · exact h
  · exact h
  · exact h
  · exact h.completed hattempt

/-- The frames for the current stream are the attempts at it. -/
theorem Planned.current (h : Planned c frames) (hindex : c.currentRequest < kStreamRequests.length) :
    frames.filter (requestAt c.currentRequest).asks =
      (List.range c.attempt).map ((requestAt c.currentRequest).frame (c.vehicleSystemId.getD 0)) := by
  obtain ⟨counts, hlength, -, hframes⟩ := h
  have hattempt : (counts ++ [c.attempt]).getD c.currentRequest 0 = c.attempt := by
    rw [← hlength, List.getD_append_right _ _ _ _ (Nat.le_refl _), Nat.sub_self]
    rfl
  rw [hframes, requestAt, List.getD_eq_getElem _ _ hindex,
    filter_plannedFrames _ (List.Subset.refl kStreamRequests) (by decide) _ hindex, hattempt]

/-- It has been asked for exactly if there was an attempt. -/
theorem Planned.asked_iff (h : Planned c frames) (hindex : c.currentRequest < kStreamRequests.length) :
    (∃ message ∈ frames, (requestAt c.currentRequest).asks message = true) ↔ 1 ≤ c.attempt := by
  have hcurrent := congrArg List.length (h.current hindex)
  rw [List.length_map, List.length_range] at hcurrent
  rw [← hcurrent, Nat.one_le_iff_ne_zero, ← Nat.pos_iff_ne_zero, List.length_filter_pos_iff]

end Planned

/-! ### Sessions -/

inductive SetupCall where
  | update (connected : Bool) (vehicleSystemId : Option UInt8)
  | onCommandAck (acknowledgement : CommandAck)

inductive SetupEvent where
  | sent (message : OutboundMessage)
  | consumed (acknowledgement : CommandAck)

/-- The frame an event sends. -/
def SetupEvent.frame : SetupEvent → Option OutboundMessage
  | .sent message => some message
  | .consumed _ => none

/-- After a frame, and after an acknowledgement that the request is in progress, its repetition has to wait. -/
def SetupEvent.defers : SetupEvent → Bool
  | .sent _ => true
  | .consumed acknowledgement => acknowledgement.result == MAV_RESULT_IN_PROGRESS

/-- The configurator, with what happened since it was last reset. -/
structure SetupSession where
  configurator : TelemetryStreamConfigurator := {}
  events : List (SetupEvent × TimePoint) := []

namespace SetupSession

def frames (s : SetupSession) : List OutboundMessage := s.events.filterMap fun event => event.1.frame

/-- A disconnect, or a change of the system id. -/
def resets (s : SetupSession) : SetupCall → Bool
  | .update connected vehicleSystemId =>
      !connected || vehicleSystemId.isNone || s.configurator.vehicleSystemId != vehicleSystemId
  | .onCommandAck _ => false

def step (s : SetupSession) (call : SetupCall × TimePoint) : SetupSession :=
  match call.1 with
  | .update connected vehicleSystemId =>
      let (configurator, frame) := s.configurator.update connected vehicleSystemId call.2
      { configurator := configurator
        events := (if s.resets call.1 then [] else s.events) ++
          frame.toList.map fun message => (.sent message, call.2) }
  | .onCommandAck acknowledgement =>
      { configurator := s.configurator.onCommandAck acknowledgement call.2
        events :=
          if s.configurator.expectsAck acknowledgement then s.events ++ [(.consumed acknowledgement, call.2)]
          else s.events }

def run (calls : List (SetupCall × TimePoint)) : SetupSession := calls.foldl step {}

/-- A stream is asked for again two seconds after all that defers it. -/
def Spaced (events : List (SetupEvent × TimePoint)) : Prop :=
  ∀ before message time after, events = before ++ (.sent message, time) :: after →
    ∀ stream ∈ kStreamRequests, stream.asks message = true →
      (∃ event ∈ before, ∃ earlier ∈ event.1.frame, stream.asks earlier = true) →
      ∀ event ∈ before, event.1.defers = true → event.2 + seconds 2 ≤ time

/-- The limits on what a session sends. -/
structure Budgeted (s : SetupSession) : Prop where
  coherent : Coherent s.configurator
  /-- The frames are attempts at the streams of the table, in its order. -/
  ordered : ∃ systemId counts, (∀ count ∈ counts, count ≤ kMaximumAttempts) ∧
    s.frames = plannedFrames systemId kStreamRequests counts
  perStream : ∀ stream ∈ kStreamRequests, (s.frames.filter stream.asks).length ≤ 3
  confirmations : ∀ stream ∈ kStreamRequests,
    (s.frames.filter stream.asks).map OutboundMessage.confirmation <+: [some 0, some 1, some 2]
  total : s.frames.length ≤ 18
  spaced : Spaced s.events

/-- What a call does to the progress of a session. -/
structure Progress (s : SetupSession) (call : SetupCall × TimePoint) : Prop where
  /-- A stream is advanced by an acknowledgement that is consumed after a frame for it was sent. -/
  advance : s.resets call.1 = false →
    (s.step call).configurator.currentRequest ≠ s.configurator.currentRequest →
      ∃ acknowledgement, call.1 = .onCommandAck acknowledgement ∧
        s.configurator.completes acknowledgement = true ∧
        (s.step call).configurator.currentRequest = s.configurator.currentRequest + 1 ∧
        ∃ message ∈ s.frames, (requestAt s.configurator.currentRequest).asks message = true
  /-- After a failure nothing is sent and nothing changes. -/
  failed : s.configurator.phase = .failed → s.resets call.1 = false → s.step call = s

/-! ### What a session keeps -/

structure Tracked (s : SetupSession) (now : TimePoint) : Prop where
  coherent : Coherent s.configurator
  planned : Planned s.configurator s.frames
  past : ∀ event ∈ s.events, event.2 ≤ now
  deferred : s.configurator.awaitingAck = true → ∀ event ∈ s.events, event.1.defers = true →
    event.2 + seconds 2 ≤ s.configurator.acknowledgementDeadline
  spaced : Spaced s.events

theorem Spaced.nil : Spaced [] := by
  intro before message time after h
  exact absurd h.symm (by simp)

theorem Spaced.concat {events : List (SetupEvent × TimePoint)} (h : Spaced events)
    {event : SetupEvent} {now : TimePoint}
    (hlast : ∀ message ∈ event.frame, ∀ stream ∈ kStreamRequests, stream.asks message = true →
      (∃ other ∈ events, ∃ earlier ∈ other.1.frame, stream.asks earlier = true) →
      ∀ other ∈ events, other.1.defers = true → other.2 + seconds 2 ≤ now) :
    Spaced (events ++ [(event, now)]) := by
  intro before message time after hsplit
  rcases List.eq_nil_or_concat after with rfl | ⟨after, last, rfl⟩
  · obtain ⟨rfl, hevent⟩ := List.append_inj' hsplit rfl
    rw [List.cons.injEq, Prod.mk.injEq] at hevent
    obtain ⟨⟨rfl, rfl⟩, -⟩ := hevent
    exact hlast message rfl
  · rw [List.concat_eq_append, ← List.cons_append, ← List.append_assoc] at hsplit
    exact h before message time after (List.append_inj' hsplit rfl).1

theorem frames_concat (configurator : TelemetryStreamConfigurator) (events : List (SetupEvent × TimePoint))
    (event : SetupEvent × TimePoint) :
    (⟨configurator, events ++ [event]⟩ : SetupSession).frames =
      (⟨configurator, events⟩ : SetupSession).frames ++ event.1.frame.toList := by
  have hlast : [event].filterMap (fun event => event.1.frame) = event.1.frame.toList := by
    rw [List.filterMap_cons]
    cases event.1.frame <;> rfl
  rw [frames, List.filterMap_append, hlast]
  rfl

theorem mem_frames {s : SetupSession} {message : OutboundMessage} :
    message ∈ s.frames ↔ ∃ event ∈ s.events, message ∈ event.1.frame := by
  rw [frames, List.mem_filterMap]
  rfl

/-- Nothing in a session is of a later time, once it has been extended. -/
theorem Tracked.past_concat {s : SetupSession} {now : TimePoint} (h : s.Tracked now) (event : SetupEvent) :
    ∀ other ∈ s.events ++ [(event, now)], other.2 ≤ now :=
  List.forall_mem_append.mpr ⟨h.past, List.forall_mem_singleton.mpr (Int.le_refl now)⟩

theorem Tracked.fresh {configurator : TelemetryStreamConfigurator} (hcoherent : Coherent configurator)
    (hcurrent : configurator.currentRequest = 0) (hattempt : configurator.attempt = 0) (now : TimePoint) :
    Tracked ⟨configurator, []⟩ now where
  coherent := hcoherent
  planned := by
    refine ⟨[], hcurrent.symm, fun _ hcount => absurd hcount List.not_mem_nil, ?_⟩
    rw [hattempt]
    rfl
  past _ hevent := absurd hevent List.not_mem_nil
  deferred _ _ hevent := absurd hevent List.not_mem_nil
  spaced := Spaced.nil

theorem Tracked.later {s : SetupSession} {now later : TimePoint} (h : s.Tracked now) (hlater : now ≤ later) :
    s.Tracked later where
  coherent := h.coherent
  planned := h.planned
  past event hevent := (h.past event hevent).trans hlater
  deferred := h.deferred
  spaced := h.spaced

/-- The requests of an update with the vehicle the session is about. -/
def request (s : SetupSession) (now : TimePoint) : SetupSession :=
  { configurator := (s.configurator.requestNext now).1
    events := s.events ++ (s.configurator.requestNext now).2.toList.map fun message => (.sent message, now) }

theorem Tracked.request {s : SetupSession} {now : TimePoint} (h : s.Tracked now) :
    (s.request now).Tracked now := by
  have hcoherent := h.coherent.requestNext now
  rw [SetupSession.request]
  rcases s.configurator.requestNext_cases now with
    ⟨-, hnext⟩ | ⟨-, -, -, hnext⟩ | ⟨hphase, hleft, hnext⟩ <;> rw [hnext] at hcoherent ⊢
  · rw [Option.toList_none, List.map_nil, List.append_nil]
    exact h
  · rw [Option.toList_none, List.map_nil, List.append_nil]
    exact ⟨hcoherent, h.planned, h.past, h.deferred, h.spaced⟩
  · have hindex := h.coherent.inRange.configuring hphase
    rw [Option.toList_some, List.map_singleton]
    refine ⟨hcoherent, ?_, h.past_concat _, ?_, h.spaced.concat ?_⟩
    · rw [frames_concat]
      exact h.planned.attempted hindex now
    · intro _ event hevent _
      exact Int.add_le_add_right (h.past_concat _ event hevent) _
    · intro message hmessage stream hstream hasks hearlier other hother hdefers
      obtain rfl : s.configurator.attemptFrame = message := Option.some.inj hmessage
      obtain rfl : stream = requestAt s.configurator.currentRequest :=
        (asks_frame hstream (SetupNetwork.requestAt_mem hindex) _ _).mp hasks
      have hattempt : 1 ≤ s.configurator.attempt := by
        rw [← h.planned.asked_iff hindex]
        obtain ⟨event, hevent, earlier, hframe, hearlier⟩ := hearlier
        exact ⟨earlier, mem_frames.mpr ⟨event, hevent, hframe⟩, hearlier⟩
      have hawaiting := (h.coherent.awaiting_iff hphase).mpr hattempt
      have hoverdue := (hleft hawaiting).1
      rw [overdue, Bool.and_eq_true, decide_eq_true_eq] at hoverdue
      exact (h.deferred hawaiting other hother hdefers).trans hoverdue.2

/-- An update makes its request, in a new session where the vehicle is a new one. -/
theorem step_update (s : SetupSession) (connected : Bool) (vehicleSystemId : Option UInt8) (now : TimePoint) :
    (s.resets (.update connected vehicleSystemId) = true ∧
        s.step (.update connected vehicleSystemId, now) = {}) ∨
      (s.resets (.update connected vehicleSystemId) = false ∧
        s.step (.update connected vehicleSystemId, now) = s.request now) ∨
      s.resets (.update connected vehicleSystemId) = true ∧
        ∃ systemId, s.step (.update connected vehicleSystemId, now) =
          SetupSession.request ⟨beginSetup systemId, []⟩ now := by
  cases connected with
  | false => exact Or.inl ⟨rfl, rfl⟩
  | true =>
      cases vehicleSystemId with
      | none => exact Or.inl ⟨rfl, rfl⟩
      | some systemId =>
          by_cases hsystem : s.configurator.vehicleSystemId = some systemId
          · refine Or.inr (Or.inl ?_)
            have hresets : s.resets (.update true (some systemId)) = false := by simp [resets, hsystem]
            refine ⟨hresets, ?_⟩
            simp [step, hresets, update, hsystem, request]
          · refine Or.inr (Or.inr ?_)
            have hresets : s.resets (.update true (some systemId)) = true := by simp [resets, hsystem]
            refine ⟨hresets, systemId, ?_⟩
            simp [step, hresets, update, hsystem, request]

theorem step_unexpected {s : SetupSession} {acknowledgement : CommandAck}
    (h : s.configurator.expectsAck acknowledgement = false) (now : TimePoint) :
    s.step (.onCommandAck acknowledgement, now) = s := by
  simp [step, onCommandAck, h]

/-- Where the setup is not under way no request is made. -/
theorem request_idle {s : SetupSession} (h : s.configurator.phase ≠ .configuring) (now : TimePoint) :
    s.request now = s := by
  rcases s.configurator.requestNext_cases now with ⟨-, hnext⟩ | ⟨hphase, -⟩ | ⟨hphase, -⟩
  · rw [request, hnext, Option.toList_none, List.map_nil, List.append_nil]
  · exact absurd hphase h
  · exact absurd hphase h

theorem Tracked.onCommandAck {s : SetupSession} {now : TimePoint} (h : s.Tracked now)
    (acknowledgement : CommandAck) : (s.step (.onCommandAck acknowledgement, now)).Tracked now := by
  have hcoherent := h.coherent.onCommandAck acknowledgement now
  rcases s.configurator.onCommandAck_cases acknowledgement now with ⟨hexpects, -⟩ | ⟨hexpects, hconsumed⟩
  · rw [step_unexpected hexpects]
    exact h
  have hstep : s.step (.onCommandAck acknowledgement, now) =
      ⟨s.configurator.onCommandAck acknowledgement now,
        s.events ++ [(.consumed acknowledgement, now)]⟩ := by
    simp [step, hexpects]
  rw [hstep]
  refine ⟨hcoherent, ?_, h.past_concat _, ?_, h.spaced.concat fun _ hframe => nomatch hframe⟩
  · rw [frames_concat]
    exact (List.append_nil s.frames).symm ▸ h.planned.onCommandAck h.coherent.attempts acknowledgement now
  · intro hawaiting event hevent _
    rcases hconsumed with ⟨-, hack⟩ | ⟨-, -, hack⟩ | ⟨-, hack⟩
    · rw [hack]
      exact Int.add_le_add_right (h.past_concat _ event hevent) _
    · rw [hack] at hawaiting
      exact absurd hawaiting Bool.false_ne_true
    · rw [hack] at hawaiting
      exact absurd hawaiting Bool.false_ne_true

theorem Tracked.step {s : SetupSession} {call : SetupCall × TimePoint} (h : s.Tracked call.2) :
    (s.step call).Tracked call.2 := by
  obtain ⟨call, now⟩ := call
  cases call with
  | update connected vehicleSystemId =>
      rcases s.step_update connected vehicleSystemId now with
        ⟨-, hstep⟩ | ⟨-, hstep⟩ | ⟨-, systemId, hstep⟩ <;>
        rw [hstep]
      · exact Tracked.fresh Coherent.reset rfl rfl now
      · exact h.request
      · exact (Tracked.fresh (Coherent.beginSetup systemId) rfl rfl now).request
  | onCommandAck acknowledgement => exact h.onCommandAck acknowledgement

/-- What a session keeps puts it within its limits. -/
theorem Tracked.budgeted {s : SetupSession} {now : TimePoint} (h : s.Tracked now) : s.Budgeted := by
  obtain ⟨counts, hlength, hcounts, hframes⟩ := h.planned
  have hall : ∀ count ∈ counts ++ [s.configurator.attempt], count ≤ kMaximumAttempts :=
    List.forall_mem_append.mpr ⟨hcounts, List.forall_mem_singleton.mpr h.coherent.attempts⟩
  have hstream : ∀ stream ∈ kStreamRequests, ∃ count ≤ kMaximumAttempts,
      s.frames.filter stream.asks =
        (List.range count).map (stream.frame (s.configurator.vehicleSystemId.getD 0)) := by
    intro stream hmem
    obtain ⟨index, hindex, rfl⟩ := List.getElem_of_mem hmem
    refine ⟨(counts ++ [s.configurator.attempt]).getD index 0, ?_, ?_⟩
    · rw [List.getD_eq_getElem?_getD]
      cases hcount : (counts ++ [s.configurator.attempt])[index]? with
      | none => exact Nat.zero_le _
      | some count => exact hall count (List.mem_of_getElem? hcount)
    · rw [hframes]
      exact filter_plannedFrames _ (List.Subset.refl kStreamRequests) (by decide) _ hindex
  refine ⟨h.coherent, ⟨_, _, hall, hframes⟩, ?_, ?_, ?_, h.spaced⟩
  · intro stream hmem
    obtain ⟨count, hcount, hfilter⟩ := hstream stream hmem
    rw [hfilter, List.length_map, List.length_range]
    exact hcount
  · intro stream hmem
    obtain ⟨count, hcount, hfilter⟩ := hstream stream hmem
    have hinit : List.range count <+: List.range 3 := by
      rw [← Nat.min_eq_left hcount, ← List.take_range]
      exact List.take_prefix _ _
    rw [hfilter, List.map_map]
    exact hinit.map _
  · rw [hframes]
    exact length_plannedFrames hall

theorem Tracked.progress {s : SetupSession} {now : TimePoint} (h : s.Tracked now)
    (call : SetupCall × TimePoint) : s.Progress call := by
  obtain ⟨call, later⟩ := call
  cases call with
  | update connected vehicleSystemId =>
      have hstep : s.resets (.update connected vehicleSystemId) = false →
          s.step (.update connected vehicleSystemId, later) = s.request later := by
        intro hresets
        rcases s.step_update connected vehicleSystemId later with ⟨hreset, -⟩ | ⟨-, hstep⟩ | ⟨hreset, -⟩
        · exact absurd (hresets.symm.trans hreset) Bool.false_ne_true
        · exact hstep
        · exact absurd (hresets.symm.trans hreset) Bool.false_ne_true
      refine ⟨fun hresets hcurrent => absurd ?_ hcurrent, fun hfailed hresets => ?_⟩
      · rw [hstep hresets]
        exact requestNext_currentRequest _ _
      · rw [hstep hresets]
        exact request_idle (by rw [hfailed]; decide) later
  | onCommandAck acknowledgement =>
      refine ⟨fun _ hcurrent => ?_, fun hfailed _ => step_unexpected ?_ later⟩
      · rcases s.configurator.onCommandAck_currentRequest acknowledgement later with hsame | ⟨hcompletes, hnext⟩
        · exact absurd hsame hcurrent
        · refine ⟨acknowledgement, rfl, hcompletes, hnext, ?_⟩
          rw [completes, Bool.and_eq_true, expectsAck_iff] at hcompletes
          obtain ⟨⟨hphase, hawaiting, -⟩, -⟩ := hcompletes
          rw [h.planned.asked_iff (h.coherent.inRange.configuring hphase)]
          exact (h.coherent.awaiting_iff hphase).mp hawaiting
      · rw [← Bool.not_eq_true, expectsAck_iff, hfailed]
        exact fun hexpects => absurd hexpects.1 (by decide)

/-! ### Runs -/

theorem run_tracked {calls : List (SetupCall × TimePoint)} (hclock : (calls.map Prod.snd).Pairwise (· ≤ ·))
    {now : TimePoint} (hnow : ∀ call ∈ calls, call.2 ≤ now) : (run calls).Tracked now := by
  induction calls using List.reverseRecOn generalizing now with
  | nil => exact Tracked.fresh Coherent.reset rfl rfl now
  | append_singleton calls call ih =>
      rw [List.map_append, List.pairwise_append] at hclock
      have hbefore : ∀ other ∈ calls, other.2 ≤ call.2 := by
        intro other hother
        exact hclock.2.2 other.2 (List.mem_map_of_mem hother) call.2 List.mem_cons_self
      rw [run, List.foldl_append]
      exact (ih hclock.1 hbefore).step.later (hnow call (List.mem_append_right _ List.mem_cons_self))

/-- Whatever is called, a session stays within its limits and advances as its acknowledgements say. -/
theorem run_budgeted {calls : List (SetupCall × TimePoint)} (hclock : (calls.map Prod.snd).Pairwise (· ≤ ·)) :
    (run calls).Budgeted ∧ ∀ call, (run calls).Progress call := by
  have hlast : ∃ now, ∀ call ∈ calls, call.2 ≤ now := by
    rcases List.eq_nil_or_concat calls with rfl | ⟨before, last, rfl⟩
    · exact ⟨0, fun _ hcall => absurd hcall List.not_mem_nil⟩
    · rw [List.concat_eq_append, List.map_append, List.pairwise_append] at hclock
      refine ⟨last.2, ?_⟩
      rw [List.concat_eq_append]
      refine List.forall_mem_append.mpr ⟨fun call hcall => ?_, List.forall_mem_singleton.mpr (Int.le_refl _)⟩
      exact hclock.2.2 call.2 (List.mem_map_of_mem hcall) last.2 List.mem_cons_self
  obtain ⟨now, hnow⟩ := hlast
  have htracked := run_tracked hclock hnow
  exact ⟨htracked.budgeted, htracked.progress⟩

/-- The first stream is asked for and denied. -/
def deniedCalls : List (SetupCall × TimePoint) :=
  [(.update true (some 1), 0), (.onCommandAck { acceptance 1 with result := MAV_RESULT_DENIED }, seconds 1)]

theorem deniedCalls_budgeted : (run deniedCalls).Budgeted ∧ ∀ call, (run deniedCalls).Progress call :=
  run_budgeted (by decide)

/-- The attempt of a rejected request stays, though nothing is awaited any more. -/
theorem deniedCalls_not_awaiting :
    (deniedCalls.map Prod.snd).Pairwise (· ≤ ·) ∧
      (run deniedCalls).configurator.phase = .failed ∧
      ¬((run deniedCalls).configurator.awaitingAck = true ↔ 1 ≤ (run deniedCalls).configurator.attempt) := by
  decide

end SetupSession

end OnboardAutonomy
