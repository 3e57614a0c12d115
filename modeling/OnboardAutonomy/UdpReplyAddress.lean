import OnboardAutonomy.OutboundFraming
import OnboardAutonomy.SessionAgreement
import Mathlib.Data.List.Induction

/-! The reply address over UDP. `UdpTransport` answers to the sender of the datagram it has read last,
whatever that datagram holds. The socket and the framing of the MAVLink library are left open; the endpoints
that have sent an accepted message of the controller in its session are recorded beside the run. -/

namespace OnboardAutonomy

/-- An IPv4 address with a port. -/
structure Endpoint where
  address : UInt32
  port : UInt16
  deriving DecidableEq

/-- A datagram with the endpoint that sent it, or that it is sent to. -/
structure Datagram where
  endpoint : Endpoint
  bytes : Bytes
  deriving DecidableEq

def kTransportReceiveBufferSize : Nat := 4096

/-! ### The transport -/

/-- What `sendto` reports: a count, a transient error, or an error that is thrown. -/
inductive SendResult where
  | sent (count : Nat)
  | transient
  | failed
  deriving DecidableEq

structure UdpSocket (κ : Type) where
  sendto : κ → Datagram → SendResult × κ
  sendto_le : ∀ k datagram count, (sendto k datagram).1 = .sent count → count ≤ datagram.bytes.length

/-- The transport keeps the datagrams it has sent. After an exception has left it, the program ends and
nothing more is sent. -/
structure UdpTransport (κ : Type) where
  socket : κ
  peer : Option Endpoint := none
  thrown : Bool := false
  sent : List Datagram := []

namespace UdpTransport

variable {κ : Type}

/-- `read`: at most one datagram, cut at the size of the buffer. A read that throws ends the run. -/
def read (t : UdpTransport κ) (received : Option Datagram) : Bytes × UdpTransport κ :=
  match received with
  | none => ([], t)
  | some datagram =>
      (datagram.bytes.take kTransportReceiveBufferSize, { t with peer := some datagram.endpoint })

def write (socket : UdpSocket κ) (t : UdpTransport κ) (source : Bytes) : Nat × UdpTransport κ :=
  match t.thrown, t.peer with
  | false, some peer =>
      match socket.sendto t.socket ⟨peer, source⟩ with
      | (.sent count, k) => (count, { t with socket := k, sent := t.sent ++ [⟨peer, source⟩] })
      | (.transient, k) => (0, { t with socket := k })
      | (.failed, k) => (0, { t with socket := k, thrown := true })
  | _, _ => (0, t)

theorem write_le (socket : UdpSocket κ) (t : UdpTransport κ) (source : Bytes) :
    (t.write socket source).1 ≤ source.length := by
  unfold write
  split
  · split
    · rename_i count k hsend
      exact socket.sendto_le t.socket ⟨_, source⟩ count (by rw [hsend])
    · exact Nat.zero_le _
    · exact Nat.zero_le _
  · exact Nat.zero_le _

/-- Between two states of the transport datagrams were sent to its peer only. -/
structure Answers (t t' : UdpTransport κ) : Prop where
  peer : t'.peer = t.peer
  sent : ∃ datagrams, t'.sent = t.sent ++ datagrams ∧ ∀ datagram ∈ datagrams, t.peer = some datagram.endpoint

theorem Answers.quiet {t t' : UdpTransport κ} (hpeer : t'.peer = t.peer) (hsent : t'.sent = t.sent) :
    Answers t t' :=
  ⟨hpeer, [], by rw [hsent, List.append_nil], fun _ hmem => absurd hmem List.not_mem_nil⟩

theorem Answers.trans {t t' t'' : UdpTransport κ} (h : Answers t t') (h' : Answers t' t'') : Answers t t'' := by
  obtain ⟨first, hfirst, hfirstPeer⟩ := h.sent
  obtain ⟨second, hsecond, hsecondPeer⟩ := h'.sent
  refine ⟨h'.peer.trans h.peer, first ++ second, by rw [hsecond, hfirst, List.append_assoc], ?_⟩
  intro datagram hmem
  rcases List.mem_append.mp hmem with hmem | hmem
  · exact hfirstPeer datagram hmem
  · exact h.peer.symm.trans (hsecondPeer datagram hmem)

theorem write_answers (socket : UdpSocket κ) (t : UdpTransport κ) (source : Bytes) :
    Answers t (t.write socket source).2 := by
  unfold write
  split
  · rename_i peer _ hpeer
    split
    · refine ⟨rfl, [⟨peer, source⟩], rfl, fun datagram hmem => ?_⟩
      rw [List.mem_singleton.mp hmem]
      exact hpeer
    · exact Answers.quiet rfl rfl
    · exact Answers.quiet rfl rfl
  · exact Answers.quiet rfl rfl

end UdpTransport

/-- A socket is one connection. -/
def udpTransport {κ : Type} (socket : UdpSocket κ) : Transport (UdpTransport κ) where
  write := UdpTransport.write socket
  connection _ := 0
  write_le := UdpTransport.write_le socket

section Answers

variable {κ σ : Type} (socket : UdpSocket κ)

theorem writeLoop_answers (frame : Bytes) (fuel : Nat) : ∀ (offset : Nat) (t : UdpTransport κ),
    t.Answers (PartialWrites.writeLoop (udpTransport socket) frame fuel offset t).2.2 := by
  induction fuel with
  | zero =>
      intro _ _
      exact UdpTransport.Answers.quiet rfl rfl
  | succ fuel ih =>
      intro offset t
      have hwrite : t.Answers ((udpTransport socket).write t (frame.drop offset)).2 :=
        t.write_answers socket (frame.drop offset)
      rw [PartialWrites.writeLoop]
      split
      · generalize (udpTransport socket).write t (frame.drop offset) = result at hwrite ⊢
        obtain ⟨written, t'⟩ := result
        simp only
        split
        · exact hwrite
        · exact hwrite.trans (ih _ t')
      · exact UdpTransport.Answers.quiet rfl rfl

theorem sendAll_answers (library : MavlinkLibrary σ) (messages : List OutboundMessage) :
    ∀ w : Wire (UdpTransport κ) σ, w.transport.Answers
      (CompanionApplication.sendAll (wirePort library (udpTransport socket)) w messages).transport := by
  induction messages with
  | nil =>
      intro _
      exact UdpTransport.Answers.quiet rfl rfl
  | cons message messages ih =>
      intro w
      exact (writeLoop_answers socket _ _ 0 w.transport).trans
        (ih ((wirePort library (udpTransport socket)).send w message).2)

end Answers

/-! ### The companion over UDP -/

/-- The part of the MAVLink library that finds messages in bytes. -/
structure MavlinkFraming (π : Type) where
  frameCharBuffer : π → UInt8 → Option MavlinkMessage × π

/-- The framed messages of `ingest`, in their order. -/
def MavlinkFraming.messages {π : Type} (framing : MavlinkFraming π) : π → Bytes → List MavlinkMessage × π
  | state, [] => ([], state)
  | state, byte :: bytes =>
      let (message, state) := framing.frameCharBuffer state byte
      let (messages, state) := framing.messages state bytes
      (message.toList ++ messages, state)

namespace MavlinkDecoder

/-- The message is one of the controller's that the decoder acts on. -/
def accepts (s : VehicleState) (message : MavlinkMessage) (now : TimePoint) : Bool :=
  if isHeartbeat message then takenIn s message now
  else isFresh s.lastHeartbeat now kHeartbeatTimeout && selected s message

/-- The message begins the session of a controller: the first one, or a later one. -/
def beginsSession (s : VehicleState) (message : MavlinkMessage) (now : TimePoint) : Bool :=
  isHeartbeat message && accepts s message now && (s.lastHeartbeat.isNone || startsSession s message now)

/-- The endpoints of the controller in its session, after the messages of a datagram. -/
def controllerEndpoints (sender : Endpoint) (now : TimePoint) :
    VehicleState → List Endpoint → List MavlinkMessage → List Endpoint
  | _, known, [] => known
  | s, known, message :: messages =>
      controllerEndpoints sender now (handleMessage s message now).1
        (if beginsSession s message now then [sender]
          else if accepts s message now then known ++ [sender] else known) messages

end MavlinkDecoder

inductive UdpEvent where
  | poll (cameraNow now : TimePoint) (received : Option Datagram)
  | snapshot (now : TimePoint)

def UdpEvent.received : UdpEvent → Option Datagram
  | .poll _ _ received => received
  | .snapshot _ => none

/-- The sender of the last datagram that was read. -/
def lastSender (events : List UdpEvent) : Option Endpoint :=
  (events.filterMap UdpEvent.received).getLast?.map Datagram.endpoint

structure UdpCompanion (κ σ π : Type) where
  application : CompanionApplication (Wire (UdpTransport κ) σ)
  framing : π
  endpoints : List Endpoint := []

namespace UdpCompanion

variable {κ σ π : Type} (socket : UdpSocket κ) (library : MavlinkLibrary σ) (framing : MavlinkFraming π)

def sent (c : UdpCompanion κ σ π) : List Datagram := c.application.port.transport.sent

def step (c : UdpCompanion κ σ π) : UdpEvent → UdpCompanion κ σ π
  | .poll cameraNow now received =>
      let (bytes, transport) := c.application.port.transport.read received
      let (messages, state) := framing.messages c.framing bytes
      { application :=
          { c.application with port := { c.application.port with transport := transport } }.poll
            (wirePort library (udpTransport socket)) cameraNow now messages
        framing := state
        endpoints :=
          match received with
          | none => c.endpoints
          | some datagram =>
              MavlinkDecoder.controllerEndpoints datagram.endpoint now c.application.vehicleState c.endpoints
                messages }
  | .snapshot now => { c with application := (c.application.snapshot now none none).1 }

def start (k : κ) (numbered : σ) (state : π) (simulatedWind : Option SimulatedWindProfile)
    (observationSinks : List (Option Nat)) : UdpCompanion κ σ π :=
  { application := CompanionApplication.start { transport := { socket := k }, library := numbered }
      simulatedWind observationSinks
    framing := state }

def run (c : UdpCompanion κ σ π) (events : List UdpEvent) : UdpCompanion κ σ π :=
  events.foldl (step socket library framing) c

/-! ### Where the frames go -/

/-- The peer after an event is the sender of the datagram that the event has read, or the peer before. -/
def peerAfter (peer : Option Endpoint) (event : UdpEvent) : Option Endpoint :=
  (event.received.map Datagram.endpoint).or peer

theorem lastSender_concat (events : List UdpEvent) (event : UdpEvent) :
    lastSender (events ++ [event]) = peerAfter (lastSender events) event := by
  cases hreceived : event.received <;> simp [lastSender, peerAfter, List.filterMap_append, hreceived]

/-- One event sends to the peer that it leaves. -/
theorem step_answers (c : UdpCompanion κ σ π) (event : UdpEvent) :
    (c.step socket library framing event).application.port.transport.peer =
        peerAfter c.application.port.transport.peer event ∧
      ∃ datagrams, (c.step socket library framing event).sent = c.sent ++ datagrams ∧
        ∀ datagram ∈ datagrams,
          peerAfter c.application.port.transport.peer event = some datagram.endpoint := by
  cases event with
  | snapshot now => exact ⟨rfl, [], (List.append_nil _).symm, fun _ hmem => absurd hmem List.not_mem_nil⟩
  | poll cameraNow now received =>
      have hread : (c.application.port.transport.read received).2.peer =
            peerAfter c.application.port.transport.peer (.poll cameraNow now received) ∧
          (c.application.port.transport.read received).2.sent = c.application.port.transport.sent := by
        cases received <;> exact ⟨rfl, rfl⟩
      obtain ⟨frames, hframes⟩ := CompanionApplication.poll_outbound (wirePort library (udpTransport socket))
        { c.application with
          port := { c.application.port with transport := (c.application.port.transport.read received).2 } }
        cameraNow now
        (framing.messages c.framing (c.application.port.transport.read received).1).1
      have hanswers := sendAll_answers socket library frames
        { c.application.port with transport := (c.application.port.transport.read received).2 }
      have hport := congrArg (fun outbound => (Prod.fst outbound).transport) hframes
      simp only [CompanionApplication.outbound] at hport
      rw [← hport] at hanswers
      obtain ⟨datagrams, hsent, hpeer⟩ := hanswers.sent
      refine ⟨hanswers.peer.trans hread.1, datagrams, ?_, fun datagram hmem => ?_⟩
      · exact hsent.trans (by rw [hread.2]; rfl)
      · exact hread.1.symm.trans (hpeer datagram hmem)

theorem run_concat (c : UdpCompanion κ σ π) (events : List UdpEvent) (event : UdpEvent) :
    run socket library framing c (events ++ [event]) =
      (run socket library framing c events).step socket library framing event := by
  rw [run, List.foldl_append]
  rfl

/-- The peer of a run is the sender of the last datagram that was read. -/
theorem run_peer (k : κ) (numbered : σ) (state : π) (simulatedWind : Option SimulatedWindProfile)
    (observationSinks : List (Option Nat)) (events : List UdpEvent) :
    (run socket library framing (start k numbered state simulatedWind observationSinks)
      events).application.port.transport.peer = lastSender events := by
  induction events using List.reverseRecOn with
  | nil => rfl
  | append_singleton events event ih =>
      rw [run_concat, (step_answers socket library framing _ event).1, ih, lastSender_concat]

/-- Every frame is sent to the sender of the datagram that was read last, whatever that datagram holds. So
the frames of an event reach an endpoint of the controller exactly when that datagram came from one. -/
theorem reply_to_last_sender (k : κ) (numbered : σ) (state : π)
    (simulatedWind : Option SimulatedWindProfile) (observationSinks : List (Option Nat))
    (events : List UdpEvent) (event : UdpEvent) :
    let before := run socket library framing (start k numbered state simulatedWind observationSinks) events
    let after := before.step socket library framing event
    ∃ datagrams, after.sent = before.sent ++ datagrams ∧
      (∀ datagram ∈ datagrams, lastSender (events ++ [event]) = some datagram.endpoint) ∧
      (datagrams ≠ [] → ((∀ datagram ∈ datagrams, datagram.endpoint ∈ after.endpoints) ↔
        ∃ endpoint ∈ after.endpoints, lastSender (events ++ [event]) = some endpoint)) := by
  intro before after
  obtain ⟨-, datagrams, hsent, hpeer⟩ := before.step_answers socket library framing event
  have hlast : ∀ datagram ∈ datagrams, lastSender (events ++ [event]) = some datagram.endpoint :=
    fun datagram hmem => by
      rw [lastSender_concat, ← run_peer socket library framing k numbered state simulatedWind observationSinks]
      exact hpeer datagram hmem
  refine ⟨datagrams, hsent, hlast, fun hsome => ⟨fun hreach => ?_, ?_⟩⟩
  · obtain ⟨datagram, hmem⟩ := List.exists_mem_of_ne_nil datagrams hsome
    exact ⟨datagram.endpoint, hreach datagram hmem, hlast datagram hmem⟩
  · rintro ⟨endpoint, hknown, hsender⟩ datagram hmem
    have heq := hsender.symm.trans (hlast datagram hmem)
    cases heq
    exact hknown

/-! ### A datagram of another endpoint -/

/-- A socket that sends every datagram. -/
def openSocket : UdpSocket Unit where
  sendto _ datagram := (.sent datagram.bytes.length, ())
  sendto_le _ datagram count h := by
    cases h
    exact le_rfl

/-- A heartbeat of system 1, component 1, numbered 0. -/
def controllerFrame : Bytes := [253, 9, 0, 0, 0, 1, 1, 0, 0, 0, 0, 0, 0, 0, 2, 3, 0, 4, 3, 74, 215]

/-- The framing of the bytes of that heartbeat, which are kept until it is complete. -/
def controllerFraming : MavlinkFraming Bytes where
  frameCharBuffer kept byte :=
    if kept ++ [byte] = controllerFrame then (some ⟨1, 1, .heartbeat ⟨2, 3, 0, 0, 4⟩⟩, [])
    else (none, kept ++ [byte])

def controllerEndpoint : Endpoint := ⟨0x7F000001, 14550⟩

def otherEndpoint : Endpoint := ⟨0xC0A80009, 9999⟩

def connectEvents : List UdpEvent := [.poll 0 0 (some ⟨controllerEndpoint, controllerFrame⟩)]

/-- One second later two bytes arrive from another endpoint. -/
def strayEvent : UdpEvent := .poll (seconds 1) (seconds 1) (some ⟨otherEndpoint, [1, 2]⟩)

/-- The companion's next heartbeat goes to the other endpoint, while the controller is connected. -/
theorem strayEvent_redirects :
    let before := run openSocket CompanionApplication.firstFrames controllerFraming (start () 0 [] none []) connectEvents
    let after := before.step openSocket CompanionApplication.firstFrames controllerFraming strayEvent
    (after.application.vehicleState.snapshot (seconds 1)).2.connected = true ∧
      ¬∀ datagram ∈ after.sent.drop before.sent.length, datagram.endpoint ∈ after.endpoints := by
  intro before after
  exact ⟨by decide +kernel, by decide +kernel⟩

end UdpCompanion
end OnboardAutonomy
