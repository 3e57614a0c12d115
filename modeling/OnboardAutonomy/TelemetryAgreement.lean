import OnboardAutonomy.TelemetryStreamConfigurator
import Mathlib.Logic.Function.Basic
import Mathlib.Data.List.GetD

/-! The configurator and one autopilot, joined by two lossy first-in-first-out channels. The autopilot
applies every interval it is asked for and acknowledges it once. An acknowledgement on the wire does not
name the stream; the model remembers which one it answers, and no decision of either party looks at it. -/

namespace OnboardAutonomy

open TelemetryStreamConfigurator

/-- An acknowledgement under way, with the message id whose interval it confirms. -/
structure StreamReply where
  acknowledgement : CommandAck
  answers : Nat

/-- What the autopilot of a system sends back to the companion. -/
def acceptance (systemId : UInt8) : CommandAck :=
  { sourceSystem := systemId
    sourceComponent := 1
    command := MAV_CMD_SET_MESSAGE_INTERVAL
    result := MAV_RESULT_ACCEPTED
    targetSystem := systemId
    targetComponent := kCompanionComponentId }

/-- Both parties and the channels between them, the oldest message first. -/
structure SetupNetwork where
  configurator : TelemetryStreamConfigurator := {}
  requests : List OutboundMessage := []
  replies : List StreamReply := []
  intervals : Nat → Option Nat := fun _ => none

/-- What happens next: the companion polls, a channel delivers its oldest message, or a message is lost. -/
inductive SetupMove where
  | update (now : TimePoint)
  | deliverRequest
  | deliverReply (now : TimePoint)
  | loseRequest (position : Nat)
  | loseReply (position : Nat)

namespace SetupNetwork

/-- The autopilot handles a request. -/
def serve (systemId : UInt8) (n : SetupNetwork) (request : OutboundMessage) : SetupNetwork :=
  match request.payload with
  | .commandLong command =>
      if command.command = MAV_CMD_SET_MESSAGE_INTERVAL then
        { n with
          intervals := Function.update n.intervals command.param1.toNat (some command.param2.toNat)
          replies := n.replies ++ [{ acknowledgement := acceptance systemId, answers := command.param1.toNat }] }
      else n
  | _ => n

/-- One move while the vehicle is connected under a system id. -/
def step (systemId : UInt8) (n : SetupNetwork) : SetupMove → SetupNetwork
  | .update now =>
      let (configurator, frame) := n.configurator.update true (some systemId) now
      { n with configurator := configurator, requests := n.requests ++ frame.toList }
  | .deliverRequest =>
      match n.requests with
      | [] => n
      | request :: rest => serve systemId { n with requests := rest } request
  | .deliverReply now =>
      match n.replies with
      | [] => n
      | reply :: rest =>
          { n with
            configurator := n.configurator.onCommandAck reply.acknowledgement now
            replies := rest }
  | .loseRequest position => { n with requests := n.requests.eraseIdx position }
  | .loseReply position => { n with replies := n.replies.eraseIdx position }

def run (systemId : UInt8) (moves : List SetupMove) : SetupNetwork := moves.foldl (step systemId) {}

/-- The stream is set up as requested. -/
def Applied (n : SetupNetwork) (stream : StreamRequest) : Prop :=
  n.intervals stream.messageId.toNat = some stream.intervalMicroseconds.toNat

/-- An acknowledgement delivered while one is awaited answers a request for the stream being requested. -/
def Attributed (n : SetupNetwork) : SetupMove → Prop
  | .deliverReply _ => ∀ reply ∈ n.replies.head?,
      n.configurator.phase = .configuring → n.configurator.awaitingAck = true →
        reply.answers = (requestAt n.configurator.currentRequest).messageId.toNat
  | _ => True

/-- Every move of a run meets this condition in the state it is made in. -/
def AttributedRun (systemId : UInt8) : SetupNetwork → List SetupMove → Prop
  | _, [] => True
  | n, move :: rest => n.Attributed move ∧ AttributedRun systemId (n.step systemId move) rest

instance (n : SetupNetwork) : (move : SetupMove) → Decidable (n.Attributed move)
  | .deliverReply _ => inferInstanceAs (Decidable (∀ reply ∈ n.replies.head?,
      n.configurator.phase = .configuring → n.configurator.awaitingAck = true →
        reply.answers = (requestAt n.configurator.currentRequest).messageId.toNat))
  | .update _ => isTrue trivial
  | .deliverRequest => isTrue trivial
  | .loseRequest _ => isTrue trivial
  | .loseReply _ => isTrue trivial

instance decidableAttributedRun (systemId : UInt8) :
    (n : SetupNetwork) → (moves : List SetupMove) → Decidable (AttributedRun systemId n moves)
  | _, [] => isTrue trivial
  | n, move :: rest =>
      have := decidableAttributedRun systemId (n.step systemId move) rest
      inferInstanceAs (Decidable (n.Attributed move ∧ AttributedRun systemId (n.step systemId move) rest))

/-! ### The streams -/

theorem requestAt_mem {index : Nat} (h : index < kStreamRequests.length) :
    requestAt index ∈ kStreamRequests := by
  rw [requestAt, List.getD_eq_getElem _ _ h]
  exact List.getElem_mem h

theorem mem_requestAt {stream : StreamRequest} (h : stream ∈ kStreamRequests) :
    ∃ index < kStreamRequests.length, requestAt index = stream := by
  obtain ⟨index, hlt, heq⟩ := List.getElem_of_mem h
  exact ⟨index, hlt, by rw [requestAt, List.getD_eq_getElem _ _ hlt, heq]⟩

/-- No two streams share a message id. -/
theorem stream_eq_of_messageId : ∀ a ∈ kStreamRequests, ∀ b ∈ kStreamRequests,
    a.messageId.toNat = b.messageId.toNat → a = b := by decide

/-- The `float` parameters carry the ids and intervals of the streams exactly. -/
theorem single_stream : ∀ stream ∈ kStreamRequests,
    (Binary64.single stream.messageId.toNat).toNat = stream.messageId.toNat ∧
      (Binary64.single stream.intervalMicroseconds.toNat).toNat = stream.intervalMicroseconds.toNat := by
  decide +kernel

/-! ### The invariant -/

/-- A request for one of the streams, at some attempt. -/
def IsRequestFor (systemId : UInt8) (stream : StreamRequest) (message : OutboundMessage) : Prop :=
  ∃ confirmation, message = encodeSetMessageInterval systemId stream.messageId stream.intervalMicroseconds
    confirmation

structure Consistent (systemId : UInt8) (n : SetupNetwork) : Prop where
  inRange : InRange n.configurator
  requests : ∀ message ∈ n.requests, ∃ stream ∈ kStreamRequests, IsRequestFor systemId stream message
  replies : ∀ reply ∈ n.replies, ∃ stream ∈ kStreamRequests, reply.answers = stream.messageId.toNat ∧
    n.Applied stream
  completed : ∀ index < n.configurator.currentRequest, n.Applied (requestAt index)

/-- What an update sends is a request for one of the streams. -/
theorem isRequestFor_attemptFrame {c : TelemetryStreamConfigurator} (h : InRange c) {systemId : UInt8}
    (hsystem : c.vehicleSystemId = some systemId) (hphase : c.phase = .configuring) :
    ∃ stream ∈ kStreamRequests, IsRequestFor systemId stream c.attemptFrame :=
  ⟨_, requestAt_mem (h.configuring hphase), _, by rw [attemptFrame, hsystem]; rfl⟩

/-- Serving a request applies its stream and undoes no other. -/
theorem serve_request {systemId : UInt8} {stream : StreamRequest} {message : OutboundMessage}
    (n : SetupNetwork) (hstream : stream ∈ kStreamRequests) (hrequest : IsRequestFor systemId stream message) :
    serve systemId n message =
      { n with
        intervals :=
          Function.update n.intervals stream.messageId.toNat (some stream.intervalMicroseconds.toNat)
        replies := n.replies ++
          [{ acknowledgement := acceptance systemId, answers := stream.messageId.toNat }] } := by
  obtain ⟨confirmation, rfl⟩ := hrequest
  obtain ⟨hid, hinterval⟩ := single_stream stream hstream
  rw [serve, encodeSetMessageInterval, encodeCommandLong]
  simp only [if_pos, hid, hinterval]

theorem Applied.update {n n' : SetupNetwork} {stream other : StreamRequest}
    (hn : n'.intervals =
      Function.update n.intervals stream.messageId.toNat (some stream.intervalMicroseconds.toNat))
    (hstream : stream ∈ kStreamRequests) (hother : other ∈ kStreamRequests) (h : n.Applied other) :
    n'.Applied other := by
  rw [Applied, hn]
  by_cases hid : other.messageId.toNat = stream.messageId.toNat
  · rw [stream_eq_of_messageId other hother stream hstream hid, Function.update_self]
  · rw [Function.update_of_ne hid]
    exact h

theorem Consistent.initial (systemId : UInt8) : Consistent systemId {} where
  inRange := InRange.reset
  requests _ h := absurd h List.not_mem_nil
  replies _ h := absurd h List.not_mem_nil
  completed _ h := absurd h (Nat.not_lt_zero _)

theorem Consistent.update {systemId : UInt8} {n : SetupNetwork} (h : Consistent systemId n)
    (now : TimePoint) : Consistent systemId (n.step systemId (.update now)) := by
  obtain ⟨known, hknown, hsystem, hupdate⟩ := n.configurator.update_connected systemId now
  have hrange : InRange known := by
    rcases hknown with rfl | rfl
    · exact h.inRange
    · exact InRange.beginSetup systemId
  have hcurrent : known.currentRequest ≤ n.configurator.currentRequest := by
    rcases hknown with rfl | rfl
    · exact le_refl _
    · exact Nat.zero_le _
  simp only [SetupNetwork.step, hupdate]
  refine ⟨hrange.requestNext now, fun message hmem => ?_, h.replies, fun index hindex => ?_⟩
  · rcases List.mem_append.mp hmem with hold | hnew
    · exact h.requests message hold
    · obtain ⟨hphase, rfl⟩ := requestNext_frame (Option.mem_toList.mp hnew)
      exact isRequestFor_attemptFrame hrange hsystem hphase
  · rw [requestNext_currentRequest] at hindex
    exact h.completed index (hindex.trans_le hcurrent)

theorem Consistent.serve {systemId : UInt8} {n : SetupNetwork} (h : Consistent systemId n)
    {request : OutboundMessage} {rest : List OutboundMessage} (hrequests : n.requests = request :: rest) :
    Consistent systemId (SetupNetwork.serve systemId { n with requests := rest } request) := by
  obtain ⟨stream, hstream, hrequest⟩ := h.requests request (by rw [hrequests]; exact List.mem_cons_self ..)
  rw [serve_request _ hstream hrequest]
  refine ⟨h.inRange, fun message hmem => ?_, fun reply hmem => ?_, fun index hindex => ?_⟩
  · exact h.requests message (by rw [hrequests]; exact List.mem_cons_of_mem _ hmem)
  · rcases List.mem_append.mp hmem with hold | hnew
    · obtain ⟨other, hother, hanswers, happlied⟩ := h.replies reply hold
      exact ⟨other, hother, hanswers, happlied.update rfl hstream hother⟩
    · rw [List.mem_singleton.mp hnew]
      exact ⟨stream, hstream, rfl, Function.update_self ..⟩
  · exact (h.completed index hindex).update rfl hstream
      (requestAt_mem (hindex.trans_le h.inRange.le))

theorem Consistent.acknowledge {systemId : UInt8} {n : SetupNetwork} (h : Consistent systemId n)
    {reply : StreamReply} {rest : List StreamReply} (hreplies : n.replies = reply :: rest) (now : TimePoint)
    (hattributed : n.configurator.phase = .configuring → n.configurator.awaitingAck = true →
      reply.answers = (requestAt n.configurator.currentRequest).messageId.toNat) :
    Consistent systemId { n with
      configurator := n.configurator.onCommandAck reply.acknowledgement now
      replies := rest } := by
  refine ⟨h.inRange.onCommandAck _ now, h.requests, fun other hmem => ?_, fun index hindex => ?_⟩
  · exact h.replies other (by rw [hreplies]; exact List.mem_cons_of_mem _ hmem)
  rcases lt_onCommandAck hindex with hbefore | ⟨hcompletes, rfl⟩
  · exact h.completed index hbefore
  · rw [completes, Bool.and_eq_true, expectsAck_iff] at hcompletes
    obtain ⟨⟨hphase, hawaiting, -⟩, -⟩ := hcompletes
    obtain ⟨stream, hstream, hanswers, happlied⟩ :=
      h.replies reply (by rw [hreplies]; exact List.mem_cons_self ..)
    have hcurrent := requestAt_mem (h.inRange.configuring hphase)
    have hid := (hattributed hphase hawaiting).symm.trans hanswers
    rw [stream_eq_of_messageId _ hcurrent stream hstream hid]
    exact happlied

/-- One move keeps the invariant, provided the acknowledgement it delivers is attributed rightly. -/
theorem Consistent.step {systemId : UInt8} {n : SetupNetwork} (h : Consistent systemId n)
    {move : SetupMove} (hattributed : n.Attributed move) : Consistent systemId (n.step systemId move) := by
  cases move with
  | update now => exact h.update now
  | deliverRequest =>
      simp only [SetupNetwork.step]
      split
      · exact h
      · rename_i request rest hrequests
        exact h.serve hrequests
  | deliverReply now =>
      simp only [SetupNetwork.step]
      split
      · exact h
      · rename_i reply rest hreplies
        exact h.acknowledge hreplies now (hattributed reply (by rw [hreplies]; rfl))
  | loseRequest position =>
      exact ⟨h.inRange, fun message hmem => h.requests message (List.mem_of_mem_eraseIdx hmem), h.replies,
        h.completed⟩
  | loseReply position =>
      exact ⟨h.inRange, h.requests, fun reply hmem => h.replies reply (List.mem_of_mem_eraseIdx hmem),
        h.completed⟩

theorem Consistent.run {systemId : UInt8} {n : SetupNetwork} (h : Consistent systemId n)
    {moves : List SetupMove} (hattributed : AttributedRun systemId n moves) :
    Consistent systemId (moves.foldl (SetupNetwork.step systemId) n) := by
  induction moves generalizing n with
  | nil => exact h
  | cons move moves ih => exact ih (h.step hattributed.1) hattributed.2

/-- As long as every awaited acknowledgement answers the stream it is credited to, active setup means that
the autopilot applies all six intervals. -/
theorem active_applied_of_attributed (systemId : UInt8) (moves : List SetupMove)
    (hattributed : AttributedRun systemId {} moves)
    (hactive : (run systemId moves).configurator.phase = .active) :
    ∀ stream ∈ kStreamRequests, (run systemId moves).Applied stream := by
  intro stream hstream
  have hconsistent : Consistent systemId (run systemId moves) :=
    (Consistent.initial systemId).run hattributed
  obtain ⟨index, hlt, rfl⟩ := mem_requestAt hstream
  apply hconsistent.completed index
  rw [hconsistent.inRange.active hactive]
  exact hlt

/-- A request and its acknowledgement, a tenth of a second later. -/
def exchange (now : TimePoint) : List SetupMove :=
  [.update now, .deliverRequest, .deliverReply (now + milliseconds 100)]

/-- Six exchanges; the first request is repeated after two seconds, and its second copy is lost. -/
def orderlyMoves : List SetupMove :=
  [.update 0, .update (seconds 2), .deliverRequest, .loseRequest 0, .deliverReply (seconds 2)] ++
    (List.range 5).flatMap fun k => exchange (seconds (k + 3))

theorem orderlyMoves_applied : (run 1 orderlyMoves).configurator.phase = .active ∧
    ∀ stream ∈ kStreamRequests, (run 1 orderlyMoves).Applied stream := by
  have hactive : (run 1 orderlyMoves).configurator.phase = .active := by decide +kernel
  exact ⟨hactive, active_applied_of_attributed 1 orderlyMoves (by decide +kernel) hactive⟩

/-- The first request is repeated after two seconds and both copies are acknowledged. The second
acknowledgement is taken for the request of the next stream, which was lost. -/
def lateAcknowledgement : List SetupMove :=
  [.update 0, .update (seconds 2), .deliverRequest, .deliverRequest, .deliverReply (seconds 2),
    .update (seconds 2), .loseRequest 0, .deliverReply (seconds 2)] ++
    (List.range 4).flatMap fun k => exchange (seconds (k + 3))

theorem lateAcknowledgement_not_applied :
    ¬∀ (systemId : UInt8) (moves : List SetupMove), (run systemId moves).configurator.phase = .active →
      ∀ stream ∈ kStreamRequests, (run systemId moves).Applied stream := by
  intro hclaim
  have hactive : (run 1 lateAcknowledgement).configurator.phase = .active := by decide +kernel
  have hnever : (run 1 lateAcknowledgement).intervals 24 = none := by decide +kernel
  have happlied := hclaim 1 lateAcknowledgement hactive ⟨24, 500000, "GPS_RAW_INT at 2 Hz"⟩ (by decide)
  exact absurd (hnever.symm.trans happlied) (by decide)

end SetupNetwork
end OnboardAutonomy
