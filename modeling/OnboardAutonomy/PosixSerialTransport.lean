import OnboardAutonomy.LaunchAdapters
import OnboardAutonomy.Ownership
import OnboardAutonomy.Pacing

/-! The serial transport: one descriptor that is opened by the constructor, closed when an operation on it
fails, and opened again by a later read or write. What the system answers to the calls of a function is the
argument of its definition, and every call on a descriptor is recorded with what it does to its ownership. -/

namespace OnboardAutonomy

open Ownership Pacing

/-- `std::invalid_argument` and `std::runtime_error`. -/
inductive SerialError where
  | invalidArgument (text : String)
  | runtimeError (text : String)
  deriving DecidableEq

/-- The answers of `open`, `tcgetattr` and `tcsetattr`: a descriptor, and the texts of the errors. -/
structure OpenAnswers where
  opened : Except String Nat
  attributes : Except String Unit
  configured : Except String Unit

/-- `open_serial_device`, with its calls on descriptors. -/
def openSerialDevice (device : String) (baudRate : UInt32) (answers : OpenAnswers) :
    Except SerialError Nat × List (Event Nat) :=
  match toPosixBaud baudRate with
  | .error text => (.error (.invalidArgument text), [])
  | .ok _ =>
      match answers.opened with
      | .error reason =>
          (.error (.runtimeError ("Unable to open serial device " ++ device ++ ": " ++ reason)), [])
      | .ok descriptor =>
          match answers.attributes with
          | .error reason =>
              (.error (.runtimeError ("Unable to read serial settings for " ++ device ++ ": " ++ reason)),
                [.acquire descriptor, .use descriptor, .release descriptor])
          | .ok () =>
              match answers.configured with
              | .error reason =>
                  (.error (.runtimeError ("Unable to configure serial device " ++ device ++ ": " ++ reason)),
                    [.acquire descriptor, .use descriptor, .use descriptor, .release descriptor])
              | .ok () => (.ok descriptor, [.acquire descriptor, .use descriptor, .use descriptor])

/-- `EAGAIN`, `EINTR`, and any other. -/
inductive Errno where
  | again
  | interrupted
  | other (code : Nat)

/-- `revents` of a `poll` for input. -/
structure PollEvents where
  input : Bool
  error : Bool
  hangUp : Bool
  invalid : Bool

/-- The answers to a read: the clock before a reconnect, the calls of a reconnect, `poll`, `read`, and the
clock at a disconnect. -/
structure ReadAnswers where
  now : Int
  reopened : OpenAnswers
  polled : Except Errno (Option PollEvents)
  received : Except Errno (List UInt8)
  disconnected : Int

structure WriteAnswers where
  now : Int
  reopened : OpenAnswers
  sent : Except Errno Nat
  disconnected : Int

/-- The times are in nanoseconds, the interval in milliseconds. A descriptor of -1 is `none`. -/
structure PosixSerialTransport where
  device : String
  baudRate : UInt32
  reconnectInterval : Int
  nextReconnectAttempt : Int := 0
  fileDescriptor : Option Nat := none
  /-- The calls on descriptors so far. -/
  descriptors : List (Event Nat) := []
  /-- The disconnects and the attempts to open the device again. -/
  reconnects : List (Retry Int) := []

namespace PosixSerialTransport

/-- The constructor, with its calls on descriptors. -/
def create (device : String) (baudRate : UInt32) (reconnectInterval : Int) (answers : OpenAnswers) :
    Except SerialError PosixSerialTransport × List (Event Nat) :=
  if reconnectInterval < 0 then
    (.error (.invalidArgument "Serial reconnect interval cannot be negative"), [])
  else
    let (result, events) := openSerialDevice device baudRate answers
    match result with
    | .error error => (.error error, events)
    | .ok descriptor =>
        (.ok
          { device := device
            baudRate := baudRate
            reconnectInterval := reconnectInterval
            fileDescriptor := some descriptor
            descriptors := events }, events)

/-- The destructor: all calls on descriptors when it is done. -/
def destroy (t : PosixSerialTransport) : List (Event Nat) :=
  t.descriptors ++ t.fileDescriptor.toList.map .release

def reconnectDelay (t : PosixSerialTransport) : Int := t.reconnectInterval * 1000000

/-- `ensure_connected`, which catches a `std::runtime_error` only. -/
def ensureConnected (t : PosixSerialTransport) (now : Int) (answers : OpenAnswers) :
    Except SerialError Bool × PosixSerialTransport :=
  match t.fileDescriptor with
  | some _ => (.ok true, t)
  | none =>
      if now < t.nextReconnectAttempt then (.ok false, t)
      else
        let (result, events) := openSerialDevice t.device t.baudRate answers
        let attempted : PosixSerialTransport :=
          { t with
            descriptors := t.descriptors ++ events
            reconnects := t.reconnects ++ [.attempted now] }
        match result with
        | .ok descriptor => (.ok true, { attempted with fileDescriptor := some descriptor })
        | .error (.runtimeError _) =>
            (.ok false,
              { attempted with
                nextReconnectAttempt := now + t.reconnectDelay
                reconnects := attempted.reconnects ++ [.lost now] })
        | .error (.invalidArgument text) => (.error (.invalidArgument text), attempted)

def disconnect (t : PosixSerialTransport) (now : Int) : PosixSerialTransport :=
  { t with
    descriptors := t.descriptors ++ t.fileDescriptor.toList.map .release
    fileDescriptor := none
    nextReconnectAttempt := now + t.reconnectDelay
    reconnects := t.reconnects ++ [.lost now] }

/-- A call on the descriptor. -/
def call (t : PosixSerialTransport) : PosixSerialTransport :=
  { t with descriptors := t.descriptors ++ t.fileDescriptor.toList.map .use }

/-- The part of `read` behind `poll`. -/
def receive (t : PosixSerialTransport) (answers : ReadAnswers) : List UInt8 × PosixSerialTransport :=
  match answers.received with
  | .error .again => ([], t.call)
  | .error .interrupted => ([], t.call)
  | .error (.other _) => ([], t.call.disconnect answers.disconnected)
  | .ok bytes => (bytes, t.call)

/-- The part of `read` that is reached when the transport is connected. -/
def readConnected (t : PosixSerialTransport) (answers : ReadAnswers) : List UInt8 × PosixSerialTransport :=
  match answers.polled with
  | .error .interrupted => ([], t.call)
  | .error _ => ([], t.call.disconnect answers.disconnected)
  | .ok none => ([], t.call)
  | .ok (some revents) =>
      if revents.error || revents.hangUp || revents.invalid then ([], t.call.disconnect answers.disconnected)
      else if !revents.input then ([], t.call)
      else t.call.receive answers

def read (t : PosixSerialTransport) (answers : ReadAnswers) :
    Except SerialError (List UInt8) × PosixSerialTransport :=
  match t.ensureConnected answers.now answers.reopened with
  | (.error error, t') => (.error error, t')
  | (.ok false, t') => (.ok [], t')
  | (.ok true, t') =>
      let (bytes, t'') := t'.readConnected answers
      (.ok bytes, t'')

def writeConnected (t : PosixSerialTransport) (answers : WriteAnswers) : Nat × PosixSerialTransport :=
  match answers.sent with
  | .error .again => (0, t.call)
  | .error .interrupted => (0, t.call)
  | .error (.other _) => (0, t.call.disconnect answers.disconnected)
  | .ok sent => (sent, t.call)

def write (t : PosixSerialTransport) (answers : WriteAnswers) :
    Except SerialError Nat × PosixSerialTransport :=
  match t.ensureConnected answers.now answers.reopened with
  | (.error error, t') => (.error error, t')
  | (.ok false, t') => (.ok 0, t')
  | (.ok true, t') =>
      let (sent, t'') := t'.writeConnected answers
      (.ok sent, t'')

def description (t : PosixSerialTransport) : String :=
  "serial://" ++ t.device ++ "?baud=" ++ toString t.baudRate.toNat

inductive Operation where
  | read (answers : ReadAnswers)
  | write (answers : WriteAnswers)

def step (t : PosixSerialTransport) : Operation → PosixSerialTransport
  | .read answers => (t.read answers).2
  | .write answers => (t.write answers).2

def run (t : PosixSerialTransport) (operations : List Operation) : PosixSerialTransport :=
  operations.foldl step t

end PosixSerialTransport

/-! ### The opener -/

/-- The opener leaves the descriptor that it returns, and no other. -/
theorem openSerialDevice_exclusive (device : String) (baudRate : UInt32) (answers : OpenAnswers) :
    Exclusive none (openSerialDevice device baudRate answers).2
      (openSerialDevice device baudRate answers).1.toOption := by
  unfold openSerialDevice
  split
  · exact .nil none
  · split
    · exact .nil none
    · split
      · exact .acquire (.use (.release (.nil none)))
      · split
        · exact .acquire (.use (.use (.release (.nil none))))
        · exact .acquire (.use (.use (.nil (some _))))

/-- With a supported baud rate every failure is a `std::runtime_error`. -/
theorem openSerialDevice_runtimeError {device : String} {baudRate : UInt32} {answers : OpenAnswers}
    {baud : UInt32} (hbaud : toPosixBaud baudRate = .ok baud) {error : SerialError}
    (h : (openSerialDevice device baudRate answers).1 = .error error) :
    ∃ text, error = .runtimeError text := by
  rw [openSerialDevice, hbaud] at h
  dsimp only at h
  split at h
  · cases h
    exact ⟨_, rfl⟩
  · split at h
    · cases h
      exact ⟨_, rfl⟩
    · split at h
      · cases h
        exact ⟨_, rfl⟩
      · cases h

theorem openSerialDevice_supported {device : String} {baudRate : UInt32} {answers : OpenAnswers}
    {descriptor : Nat} (h : (openSerialDevice device baudRate answers).1 = .ok descriptor) :
    ∃ baud, toPosixBaud baudRate = .ok baud := by
  rw [openSerialDevice] at h
  split at h
  · cases h
  · next baud hbaud => exact ⟨baud, hbaud⟩

/-! ### One operation -/

namespace PosixSerialTransport

/-- The loss that has not been made up for. -/
def lostAt (t : PosixSerialTransport) : Option Int :=
  match t.fileDescriptor with
  | some _ => none
  | none => some (t.nextReconnectAttempt - t.reconnectDelay)

structure Sound (t : PosixSerialTransport) (interval : Int) : Prop where
  configured : t.reconnectInterval = interval
  supported : ∃ baud, toPosixBaud t.baudRate = .ok baud
  owned : Exclusive none t.descriptors t.fileDescriptor
  paced : Retries t.reconnectDelay none t.reconnects t.lostAt

theorem sound_create {device : String} {baudRate : UInt32} {interval : Int} {answers : OpenAnswers}
    {t : PosixSerialTransport} (h : (create device baudRate interval answers).1 = .ok t) :
    t.Sound interval := by
  have hexclusive := openSerialDevice_exclusive device baudRate answers
  unfold create at h
  split at h
  · cases h
  · dsimp only at h
    split at h
    · cases h
    · next descriptor hopened =>
        cases h
        rw [hopened] at hexclusive
        exact ⟨rfl, openSerialDevice_supported hopened, hexclusive, .nil none⟩

variable {t : PosixSerialTransport} {interval : Int} {descriptor : Nat}

theorem sound_call (h : t.Sound interval) (hconnected : t.fileDescriptor = some descriptor) :
    t.call.Sound interval := by
  refine ⟨h.configured, h.supported, ?_, h.paced⟩
  have howned := h.owned
  rw [hconnected] at howned
  rw [call, hconnected]
  exact howned.append (.use (.nil (some descriptor)))

theorem sound_disconnect (h : t.Sound interval) (hconnected : t.fileDescriptor = some descriptor)
    (now : Int) : (t.disconnect now).Sound interval := by
  refine ⟨h.configured, h.supported, ?_, ?_⟩
  · have howned := h.owned
    rw [hconnected] at howned
    rw [disconnect, hconnected]
    exact howned.append (.release (.nil none))
  · have hpaced := h.paced
    have hlost : (t.disconnect now).lostAt = some now := congrArg some (Int.add_sub_cancel now _)
    rw [lostAt, hconnected] at hpaced
    rw [hlost]
    exact hpaced.append (.lost (.nil (some now)))

/-- `ensure_connected` never throws, and leaves a descriptor behind when it says so. -/
theorem ensureConnected_spec (h : t.Sound interval) (now : Int) (answers : OpenAnswers) :
    ∃ connected, (t.ensureConnected now answers).1 = .ok connected ∧
      (t.ensureConnected now answers).2.Sound interval ∧ (connected = true →
        ∃ descriptor, (t.ensureConnected now answers).2.fileDescriptor = some descriptor) := by
  unfold ensureConnected
  split
  · next descriptor hconnected => exact ⟨true, rfl, h, fun _ => ⟨descriptor, hconnected⟩⟩
  · next hnone =>
      split
      · exact ⟨false, rfl, h, Bool.noConfusion⟩
      · next hdue =>
          obtain ⟨baud, hbaud⟩ := h.supported
          have howned := h.owned
          have hpaced := h.paced
          rw [hnone] at howned
          rw [lostAt, hnone] at hpaced
          have hexclusive := howned.append (openSerialDevice_exclusive t.device t.baudRate answers)
          have hinterval : t.nextReconnectAttempt - t.reconnectDelay + t.reconnectDelay ≤ now := by omega
          have hattempted := hpaced.append (.attempted hinterval (.nil none))
          dsimp only
          split
          · next descriptor hopened =>
              rw [hopened] at hexclusive
              exact ⟨true, rfl, ⟨h.configured, ⟨baud, hbaud⟩, hexclusive, hattempted⟩,
                fun _ => ⟨descriptor, rfl⟩⟩
          · next text hopened =>
              rw [hopened] at hexclusive
              refine ⟨false, rfl, ⟨h.configured, ⟨baud, hbaud⟩, ?_, ?_⟩, Bool.noConfusion⟩
              · rw [hnone]
                exact hexclusive
              · rw [lostAt]
                simp only [hnone, reconnectDelay, Int.add_sub_cancel]
                exact hattempted.append (.lost (.nil (some now)))
          · next text hopened =>
              obtain ⟨_, herror⟩ := openSerialDevice_runtimeError hbaud hopened
              cases herror

/-- What an operation on a connected transport may leave: it has made a call, or it has disconnected. -/
theorem sound_readConnected (h : t.Sound interval) (hconnected : t.fileDescriptor = some descriptor)
    (answers : ReadAnswers) : (t.readConnected answers).2.Sound interval := by
  have hcall := sound_call h hconnected
  have hlost := sound_disconnect hcall hconnected answers.disconnected
  have hreceive : (t.call.receive answers).2.Sound interval := by
    have hcall' := sound_call hcall hconnected
    unfold receive
    split
    · exact hcall'
    · exact hcall'
    · exact sound_disconnect hcall' hconnected answers.disconnected
    · exact hcall'
  unfold readConnected
  split
  · exact hcall
  · exact hlost
  · exact hcall
  · split
    · exact hlost
    · split
      · exact hcall
      · exact hreceive

theorem sound_writeConnected (h : t.Sound interval) (hconnected : t.fileDescriptor = some descriptor)
    (answers : WriteAnswers) : (t.writeConnected answers).2.Sound interval := by
  have hcall := sound_call h hconnected
  unfold writeConnected
  split
  · exact hcall
  · exact hcall
  · exact sound_disconnect hcall hconnected answers.disconnected
  · exact hcall

theorem read_spec (h : t.Sound interval) (answers : ReadAnswers) :
    ∃ bytes, (t.read answers).1 = .ok bytes ∧ (t.read answers).2.Sound interval := by
  obtain ⟨connected, hok, hsound, hopen⟩ := ensureConnected_spec h answers.now answers.reopened
  rw [read]
  generalize t.ensureConnected answers.now answers.reopened = result at hok hsound hopen
  obtain ⟨outcome, t'⟩ := result
  cases hok
  cases connected with
  | false => exact ⟨[], rfl, hsound⟩
  | true =>
      obtain ⟨descriptor, hconnected⟩ := hopen rfl
      exact ⟨_, rfl, sound_readConnected hsound hconnected answers⟩

theorem write_spec (h : t.Sound interval) (answers : WriteAnswers) :
    ∃ sent, (t.write answers).1 = .ok sent ∧ (t.write answers).2.Sound interval := by
  obtain ⟨connected, hok, hsound, hopen⟩ := ensureConnected_spec h answers.now answers.reopened
  rw [write]
  generalize t.ensureConnected answers.now answers.reopened = result at hok hsound hopen
  obtain ⟨outcome, t'⟩ := result
  cases hok
  cases connected with
  | false => exact ⟨0, rfl, hsound⟩
  | true =>
      obtain ⟨descriptor, hconnected⟩ := hopen rfl
      exact ⟨_, rfl, sound_writeConnected hsound hconnected answers⟩

/-! ### A run -/

theorem sound_run (h : t.Sound interval) (operations : List Operation) :
    (t.run operations).Sound interval := by
  refine List.foldlRecOn (motive := fun t : PosixSerialTransport => t.Sound interval) operations step h
    fun t' ht' operation _ => ?_
  cases operation with
  | read answers =>
      obtain ⟨_, -, hsound⟩ := read_spec ht' answers
      exact hsound
  | write answers =>
      obtain ⟨_, -, hsound⟩ := write_spec ht' answers
      exact hsound

theorem Sound.destroyed (h : t.Sound interval) : Exclusive none t.destroy none := by
  refine h.owned.append ?_
  cases t.fileDescriptor with
  | none => exact .nil none
  | some descriptor => exact .release (.nil none)

/-- When the constructor throws, it has closed what it opened. -/
theorem create_throws {device : String} {baudRate : UInt32} {answers : OpenAnswers} {error : SerialError}
    (h : (create device baudRate interval answers).1 = .error error) :
    Exclusive none (create device baudRate interval answers).2 none := by
  have hexclusive := openSerialDevice_exclusive device baudRate answers
  unfold create at h ⊢
  split at h
  · next hnegative =>
      rw [if_pos hnegative]
      exact .nil none
  · next hinterval =>
      rw [if_neg hinterval]
      dsimp only at h ⊢
      split at h
      · next error' hopened =>
          rw [hopened] at hexclusive
          exact hexclusive
      · cases h

end PosixSerialTransport

open PosixSerialTransport in
/-- Whatever the system answers, the transport has one descriptor at a time, calls nothing on one that it has
closed, and has closed each as often as it was opened when the constructor throws or the destructor is done.
After the constructor no read or write throws, and what follows a disconnect or a failed attempt to open the
device again is an attempt that is made a reconnect interval later at least. -/
theorem posixSerialTransport_owns (device : String) (baudRate : UInt32) (reconnectInterval : Int)
    (answers : OpenAnswers) :
    (∀ error, (create device baudRate reconnectInterval answers).1 = .error error →
      Disciplined (create device baudRate reconnectInterval answers).2 ∧
      ∀ descriptor, (create device baudRate reconnectInterval answers).2.count (.acquire descriptor) =
        (create device baudRate reconnectInterval answers).2.count (.release descriptor)) ∧
    ∀ t, (create device baudRate reconnectInterval answers).1 = .ok t → ∀ operations,
      Disciplined (t.run operations).destroy ∧
      (∀ descriptor, (t.run operations).destroy.count (.acquire descriptor) =
        (t.run operations).destroy.count (.release descriptor)) ∧
      (∀ answers, ∃ bytes, ((t.run operations).read answers).1 = .ok bytes) ∧
      (∀ answers, ∃ sent, ((t.run operations).write answers).1 = .ok sent) ∧
      ∀ before lost event after, (t.run operations).reconnects = before ++ .lost lost :: event :: after →
        ∃ attempted, event = .attempted attempted ∧ lost + reconnectInterval * 1000000 ≤ attempted := by
  refine ⟨fun error herror => ?_, fun t hcreated operations => ?_⟩
  · have hexclusive := create_throws herror
    exact ⟨hexclusive.disciplined, fun descriptor => hexclusive.count_eq descriptor⟩
  · have hsound := sound_run (sound_create hcreated) operations
    have hexclusive := hsound.destroyed
    refine ⟨hexclusive.disciplined, fun descriptor => hexclusive.count_eq descriptor, fun answers => ?_,
      fun answers => ?_, fun before lost event after hreconnects => ?_⟩
    · obtain ⟨bytes, hok, -⟩ := read_spec hsound answers
      exact ⟨bytes, hok⟩
    · obtain ⟨sent, hok, -⟩ := write_spec hsound answers
      exact ⟨sent, hok⟩
    · have hpaced := hsound.paced
      rw [hreconnects, reconnectDelay, hsound.configured] at hpaced
      exact hpaced.next

end OnboardAutonomy
