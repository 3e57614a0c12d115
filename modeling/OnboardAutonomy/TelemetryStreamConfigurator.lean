import OnboardAutonomy.MavlinkDecoder
import OnboardAutonomy.MavlinkEncoder

/-! `TelemetryStreamConfigurator`: asks the vehicle for six message streams, one after the other, and waits
for an acknowledgement of each. -/

namespace OnboardAutonomy

structure StreamRequest where
  messageId : UInt32
  intervalMicroseconds : UInt32
  name : String
  deriving DecidableEq

def kStreamRequests : List StreamRequest :=
  [⟨1, 1000000, "SYS_STATUS at 1 Hz"⟩,
    ⟨24, 500000, "GPS_RAW_INT at 2 Hz"⟩,
    ⟨147, 1000000, "BATTERY_STATUS at 1 Hz"⟩,
    ⟨33, 200000, "GLOBAL_POSITION_INT at 5 Hz"⟩,
    ⟨32, 100000, "LOCAL_POSITION_NED at 10 Hz"⟩,
    ⟨30, 100000, "ATTITUDE at 10 Hz"⟩]

def kAcknowledgementTimeout : Int := seconds 2
def kMaximumAttempts : Nat := 3

def MAV_RESULT_ACCEPTED : UInt8 := 0
def MAV_RESULT_TEMPORARILY_REJECTED : UInt8 := 1
def MAV_RESULT_DENIED : UInt8 := 2
def MAV_RESULT_UNSUPPORTED : UInt8 := 3
def MAV_RESULT_FAILED : UInt8 := 4
def MAV_RESULT_IN_PROGRESS : UInt8 := 5
def MAV_RESULT_CANCELLED : UInt8 := 6

inductive TelemetrySetupPhase where
  | waitingForVehicle
  | configuring
  | active
  | failed
  deriving DecidableEq

structure TelemetrySetupSnapshot where
  phase : TelemetrySetupPhase := .waitingForVehicle
  completedRequests : Nat := 0
  totalRequests : Nat := 0
  currentStream : String := ""
  attempt : Nat := 0
  failureResult : Option UInt8 := none
  deriving DecidableEq

structure TelemetryStreamConfigurator where
  phase : TelemetrySetupPhase := .waitingForVehicle
  vehicleSystemId : Option UInt8 := none
  currentRequest : Nat := 0
  completedRequests : Nat := 0
  attempt : Nat := 0
  awaitingAck : Bool := false
  acknowledgementDeadline : TimePoint := 0
  failureResult : Option UInt8 := none
  deriving DecidableEq

namespace TelemetryStreamConfigurator

def reset : TelemetryStreamConfigurator := {}

/-- `begin`. -/
def beginSetup (vehicleSystemId : UInt8) : TelemetryStreamConfigurator :=
  { reset with phase := .configuring, vehicleSystemId := some vehicleSystemId }

/-- `kStreamRequests.at`, which is only reached with an index in range (`InRange`). -/
def requestAt (index : Nat) : StreamRequest := kStreamRequests.getD index ⟨0, 0, ""⟩

/-- The part of `update` after the vehicle is known. -/
def requestNext (c : TelemetryStreamConfigurator) (now : TimePoint) :
    TelemetryStreamConfigurator × Option OutboundMessage :=
  if c.phase != .configuring then (c, none)
  else if c.awaitingAck && decide (now < c.acknowledgementDeadline) then (c, none)
  else if c.awaitingAck && decide (kMaximumAttempts ≤ c.attempt) then
    ({ c with phase := .failed, failureResult := none }, none)
  else
    let request := requestAt c.currentRequest
    ({ c with
        attempt := c.attempt + 1
        awaitingAck := true
        acknowledgementDeadline := now + kAcknowledgementTimeout },
      some (encodeSetMessageInterval (c.vehicleSystemId.getD 0) request.messageId
        request.intervalMicroseconds (UInt8.ofNat c.attempt)))

def update (c : TelemetryStreamConfigurator) (connected : Bool) (vehicleSystemId : Option UInt8)
    (now : TimePoint) : TelemetryStreamConfigurator × Option OutboundMessage :=
  match connected, vehicleSystemId with
  | true, some systemId =>
      (if c.vehicleSystemId == some systemId then c else beginSetup systemId).requestNext now
  | _, _ => (reset, none)

/-- An acknowledgement that counts for the request in flight. -/
def expectsAck (c : TelemetryStreamConfigurator) (acknowledgement : CommandAck) : Bool :=
  c.phase == .configuring && c.awaitingAck &&
    acknowledgement.command == MAV_CMD_SET_MESSAGE_INTERVAL &&
    c.vehicleSystemId == some acknowledgement.sourceSystem &&
    (acknowledgement.targetSystem == 0 || c.vehicleSystemId == some acknowledgement.targetSystem) &&
    (acknowledgement.targetComponent == 0 || acknowledgement.targetComponent == kCompanionComponentId)

def onCommandAck (c : TelemetryStreamConfigurator) (acknowledgement : CommandAck) (now : TimePoint) :
    TelemetryStreamConfigurator :=
  if !c.expectsAck acknowledgement then c
  else if acknowledgement.result == MAV_RESULT_IN_PROGRESS then
    { c with acknowledgementDeadline := now + kAcknowledgementTimeout }
  else if acknowledgement.result != MAV_RESULT_ACCEPTED then
    { c with phase := .failed, failureResult := some acknowledgement.result, awaitingAck := false }
  else
    { c with
      completedRequests := c.completedRequests + 1
      currentRequest := c.currentRequest + 1
      attempt := 0
      awaitingAck := false
      failureResult := none
      phase := if c.currentRequest + 1 = kStreamRequests.length then .active else c.phase }

def snapshot (c : TelemetryStreamConfigurator) : TelemetrySetupSnapshot :=
  { phase := c.phase
    completedRequests := c.completedRequests
    totalRequests := kStreamRequests.length
    attempt := c.attempt
    failureResult := c.failureResult
    currentStream :=
      if c.currentRequest < kStreamRequests.length then (requestAt c.currentRequest).name else "" }

/-! ### What a step can do -/

/-- The acknowledgement of the request in flight is not due any more. -/
def overdue (c : TelemetryStreamConfigurator) (now : TimePoint) : Bool :=
  c.awaitingAck && decide (c.acknowledgementDeadline ≤ now)

/-- After an attempt at the current request. -/
def attempted (c : TelemetryStreamConfigurator) (now : TimePoint) : TelemetryStreamConfigurator :=
  { c with
    attempt := c.attempt + 1
    awaitingAck := true
    acknowledgementDeadline := now + kAcknowledgementTimeout }

/-- The frame of an attempt at the current request. -/
def attemptFrame (c : TelemetryStreamConfigurator) : OutboundMessage :=
  encodeSetMessageInterval (c.vehicleSystemId.getD 0) (requestAt c.currentRequest).messageId
    (requestAt c.currentRequest).intervalMicroseconds (UInt8.ofNat c.attempt)

/-- A request is made, or the setup gives up, or nothing happens. -/
theorem requestNext_cases (c : TelemetryStreamConfigurator) (now : TimePoint) :
    (c.phase ≠ .configuring ∨ c.awaitingAck = true ∧ now < c.acknowledgementDeadline) ∧
        c.requestNext now = (c, none) ∨
      c.phase = .configuring ∧ c.overdue now = true ∧ kMaximumAttempts ≤ c.attempt ∧
        c.requestNext now = ({ c with phase := .failed, failureResult := none }, none) ∨
      c.phase = .configuring ∧ (c.awaitingAck = true → c.overdue now = true ∧ c.attempt < kMaximumAttempts) ∧
        c.requestNext now = (c.attempted now, some c.attemptFrame) := by
  unfold requestNext
  split
  · rename_i hphase
    exact Or.inl ⟨Or.inl (by simpa using hphase), rfl⟩
  rename_i hphase
  have hconfiguring : c.phase = .configuring := by simpa using hphase
  split
  · rename_i hwaiting
    exact Or.inl ⟨Or.inr (by simpa using hwaiting), rfl⟩
  rename_i hdue
  have hoverdue : c.awaitingAck = true → c.overdue now = true := fun hawaiting => by
    simpa [overdue, hawaiting] using hdue
  split
  · rename_i hspent
    rw [Bool.and_eq_true, decide_eq_true_eq] at hspent
    exact Or.inr (Or.inl ⟨hconfiguring, hoverdue hspent.1, hspent.2, rfl⟩)
  · rename_i hleft
    refine Or.inr (Or.inr ⟨hconfiguring, fun hawaiting => ⟨hoverdue hawaiting, ?_⟩, rfl⟩)
    simpa [hawaiting] using hleft

theorem expectsAck_iff {c : TelemetryStreamConfigurator} {acknowledgement : CommandAck} :
    c.expectsAck acknowledgement = true ↔
      c.phase = .configuring ∧ c.awaitingAck = true ∧
      acknowledgement.command = MAV_CMD_SET_MESSAGE_INTERVAL ∧
      c.vehicleSystemId = some acknowledgement.sourceSystem ∧
      (acknowledgement.targetSystem = 0 ∨ c.vehicleSystemId = some acknowledgement.targetSystem) ∧
      (acknowledgement.targetComponent = 0 ∨ acknowledgement.targetComponent = kCompanionComponentId) := by
  simp [expectsAck, and_assoc]

/-- After the current request was acknowledged. -/
def completed (c : TelemetryStreamConfigurator) : TelemetryStreamConfigurator :=
  { c with
    completedRequests := c.completedRequests + 1
    currentRequest := c.currentRequest + 1
    attempt := 0
    awaitingAck := false
    failureResult := none
    phase := if c.currentRequest + 1 = kStreamRequests.length then .active else c.phase }

/-- An acknowledgement that is expected delays the request, ends the setup or completes the request. -/
theorem onCommandAck_cases (c : TelemetryStreamConfigurator) (acknowledgement : CommandAck)
    (now : TimePoint) :
    c.expectsAck acknowledgement = false ∧ c.onCommandAck acknowledgement now = c ∨
      c.expectsAck acknowledgement = true ∧
        (acknowledgement.result = MAV_RESULT_IN_PROGRESS ∧ c.onCommandAck acknowledgement now =
            { c with acknowledgementDeadline := now + kAcknowledgementTimeout } ∨
          acknowledgement.result ≠ MAV_RESULT_IN_PROGRESS ∧ acknowledgement.result ≠ MAV_RESULT_ACCEPTED ∧
            c.onCommandAck acknowledgement now =
              { c with phase := .failed, failureResult := some acknowledgement.result, awaitingAck := false } ∨
          acknowledgement.result = MAV_RESULT_ACCEPTED ∧
            c.onCommandAck acknowledgement now = c.completed) := by
  unfold onCommandAck
  cases hexpects : c.expectsAck acknowledgement with
  | false => exact Or.inl ⟨rfl, rfl⟩
  | true =>
      refine Or.inr ⟨rfl, ?_⟩
      rw [Bool.not_true, if_neg Bool.false_ne_true]
      by_cases hprogress : acknowledgement.result = MAV_RESULT_IN_PROGRESS
      · exact Or.inl ⟨hprogress, by rw [if_pos (beq_iff_eq.mpr hprogress)]⟩
      rw [if_neg (mt beq_iff_eq.mp hprogress)]
      by_cases haccepted : acknowledgement.result = MAV_RESULT_ACCEPTED
      · exact Or.inr (Or.inr ⟨haccepted, by rw [if_neg (by simpa using haccepted)]; rfl⟩)
      · exact Or.inr (Or.inl ⟨hprogress, haccepted, by rw [if_pos (bne_iff_ne.mpr haccepted)]⟩)

/-! ### The index stays in range -/

/-- While requests are made, the index names one of them; it is past the end once all are done. -/
structure InRange (c : TelemetryStreamConfigurator) : Prop where
  le : c.currentRequest ≤ kStreamRequests.length
  configuring : c.phase = .configuring → c.currentRequest < kStreamRequests.length
  active : c.phase = .active → c.currentRequest = kStreamRequests.length

theorem InRange.reset : InRange reset := ⟨Nat.zero_le _, nofun, nofun⟩

theorem InRange.beginSetup (vehicleSystemId : UInt8) : InRange (beginSetup vehicleSystemId) :=
  ⟨Nat.zero_le _, fun _ => (by decide : 0 < kStreamRequests.length), nofun⟩

theorem InRange.requestNext {c : TelemetryStreamConfigurator} (h : InRange c) (now : TimePoint) :
    InRange (c.requestNext now).1 := by
  rcases c.requestNext_cases now with ⟨-, hnext⟩ | ⟨-, -, -, hnext⟩ | ⟨-, -, hnext⟩ <;> rw [hnext]
  · exact h
  · exact ⟨h.le, nofun, nofun⟩
  · exact ⟨h.le, h.configuring, h.active⟩

theorem InRange.update {c : TelemetryStreamConfigurator} (h : InRange c) (connected : Bool)
    (vehicleSystemId : Option UInt8) (now : TimePoint) : InRange (c.update connected vehicleSystemId now).1 := by
  unfold TelemetryStreamConfigurator.update
  split
  · apply InRange.requestNext
    split
    · exact h
    · exact InRange.beginSetup _
  · exact InRange.reset

theorem InRange.completed {c : TelemetryStreamConfigurator} (h : InRange c) (hphase : c.phase = .configuring) :
    InRange c.completed := by
  have hlt := h.configuring hphase
  rw [TelemetryStreamConfigurator.completed]
  by_cases hlast : c.currentRequest + 1 = kStreamRequests.length
  · rw [if_pos hlast]
    exact ⟨hlast.le, nofun, fun _ => hlast⟩
  · rw [if_neg hlast]
    exact ⟨Nat.succ_le_of_lt hlt, fun _ => lt_of_le_of_ne (Nat.succ_le_of_lt hlt) hlast, fun hactive =>
      absurd (hphase.symm.trans hactive) (by decide)⟩

theorem InRange.onCommandAck {c : TelemetryStreamConfigurator} (h : InRange c) (acknowledgement : CommandAck)
    (now : TimePoint) : InRange (c.onCommandAck acknowledgement now) := by
  rcases c.onCommandAck_cases acknowledgement now with
    ⟨-, hack⟩ | ⟨hexpects, ⟨-, hack⟩ | ⟨-, -, hack⟩ | ⟨-, hack⟩⟩ <;> rw [hack]
  · exact h
  · exact ⟨h.le, h.configuring, h.active⟩
  · exact ⟨h.le, nofun, nofun⟩
  · exact h.completed (expectsAck_iff.mp hexpects).1

/-! ### Progress -/

/-- A request makes no progress and addresses the same vehicle. -/
theorem requestNext_keeps (c : TelemetryStreamConfigurator) (now : TimePoint) :
    (c.requestNext now).1.vehicleSystemId = c.vehicleSystemId ∧
      (c.requestNext now).1.currentRequest = c.currentRequest := by
  rcases c.requestNext_cases now with ⟨-, hnext⟩ | ⟨-, -, -, hnext⟩ | ⟨-, -, hnext⟩ <;> rw [hnext] <;>
    exact ⟨rfl, rfl⟩

theorem requestNext_vehicleSystemId (c : TelemetryStreamConfigurator) (now : TimePoint) :
    (c.requestNext now).1.vehicleSystemId = c.vehicleSystemId := (c.requestNext_keeps now).1

theorem requestNext_currentRequest (c : TelemetryStreamConfigurator) (now : TimePoint) :
    (c.requestNext now).1.currentRequest = c.currentRequest := (c.requestNext_keeps now).2

/-- A frame is an attempt at the current request, made while the setup is under way. -/
theorem requestNext_frame {c : TelemetryStreamConfigurator} {now : TimePoint} {frame : OutboundMessage}
    (hframe : (c.requestNext now).2 = some frame) : c.phase = .configuring ∧ frame = c.attemptFrame := by
  rcases c.requestNext_cases now with ⟨-, hnext⟩ | ⟨-, -, -, hnext⟩ | ⟨hphase, -, hnext⟩ <;>
    rw [hnext] at hframe <;> cases hframe
  exact ⟨hphase, rfl⟩

/-- The acknowledgement completes the request in flight. -/
def completes (c : TelemetryStreamConfigurator) (acknowledgement : CommandAck) : Bool :=
  c.expectsAck acknowledgement && acknowledgement.result == MAV_RESULT_ACCEPTED

theorem onCommandAck_vehicleSystemId (c : TelemetryStreamConfigurator) (acknowledgement : CommandAck)
    (now : TimePoint) : (c.onCommandAck acknowledgement now).vehicleSystemId = c.vehicleSystemId := by
  rcases c.onCommandAck_cases acknowledgement now with
    ⟨-, hack⟩ | ⟨-, ⟨-, hack⟩ | ⟨-, -, hack⟩ | ⟨-, hack⟩⟩ <;> rw [hack]
  rfl

/-- An acknowledgement completes the current request, or none. -/
theorem onCommandAck_currentRequest (c : TelemetryStreamConfigurator) (acknowledgement : CommandAck)
    (now : TimePoint) :
    (c.onCommandAck acknowledgement now).currentRequest = c.currentRequest ∨
      c.completes acknowledgement = true ∧
        (c.onCommandAck acknowledgement now).currentRequest = c.currentRequest + 1 := by
  rcases c.onCommandAck_cases acknowledgement now with
    ⟨-, hack⟩ | ⟨hexpects, ⟨-, hack⟩ | ⟨-, -, hack⟩ | ⟨haccepted, hack⟩⟩ <;> rw [hack]
  · exact Or.inl rfl
  · exact Or.inl rfl
  · exact Or.inl rfl
  · exact Or.inr ⟨by rw [completes, hexpects, haccepted]; rfl, rfl⟩

/-- A request that is complete after an acknowledgement was complete before, or is completed by it. -/
theorem lt_onCommandAck {c : TelemetryStreamConfigurator} {acknowledgement : CommandAck} {now : TimePoint}
    {i : Nat} (h : i < (c.onCommandAck acknowledgement now).currentRequest) :
    i < c.currentRequest ∨ c.completes acknowledgement = true ∧ i = c.currentRequest := by
  rcases c.onCommandAck_currentRequest acknowledgement now with hsame | ⟨hcompletes, hnext⟩
  · exact Or.inl (hsame ▸ h)
  · exact (Nat.lt_succ_iff_lt_or_eq.mp (h.trans_eq hnext)).imp_right fun heq => ⟨hcompletes, heq⟩

/-! ### The configurator addresses the vehicle it is updated with -/

/-- An update with a connected vehicle makes the next request to it. -/
theorem update_connected (c : TelemetryStreamConfigurator) (systemId : UInt8) (now : TimePoint) :
    ∃ known : TelemetryStreamConfigurator, (known = c ∨ known = beginSetup systemId) ∧
      known.vehicleSystemId = some systemId ∧ c.update true (some systemId) now = known.requestNext now := by
  by_cases hsystem : c.vehicleSystemId = some systemId
  · exact ⟨c, Or.inl rfl, hsystem, by rw [update, hsystem, beq_self_eq_true, if_pos rfl]⟩
  · exact ⟨beginSetup systemId, Or.inr rfl, rfl, by rw [update, if_neg (by simpa using hsystem)]⟩

/-- Any other update resets. -/
theorem update_cases (c : TelemetryStreamConfigurator) (connected : Bool) (vehicleSystemId : Option UInt8)
    (now : TimePoint) :
    c.update connected vehicleSystemId now = (reset, none) ∨
      ∃ systemId, connected = true ∧ vehicleSystemId = some systemId := by
  rcases connected with _ | _ <;> rcases vehicleSystemId with _ | systemId
  · exact Or.inl rfl
  · exact Or.inl rfl
  · exact Or.inl rfl
  · exact Or.inr ⟨systemId, rfl, rfl⟩

theorem update_active {c : TelemetryStreamConfigurator} {connected : Bool} {vehicleSystemId : Option UInt8}
    {now : TimePoint} (h : (c.update connected vehicleSystemId now).1.phase = .active) :
    connected = true ∧ (c.update connected vehicleSystemId now).1.vehicleSystemId = vehicleSystemId := by
  rcases c.update_cases connected vehicleSystemId now with hreset | ⟨systemId, rfl, rfl⟩
  · rw [hreset] at h
    cases h
  · obtain ⟨known, _, hknown, hupdate⟩ := c.update_connected systemId now
    exact ⟨rfl, by rw [hupdate, requestNext_vehicleSystemId, hknown]⟩

theorem update_source {c : TelemetryStreamConfigurator} {connected : Bool} {vehicleSystemId : Option UInt8}
    {now : TimePoint} {frame : OutboundMessage}
    (h : (c.update connected vehicleSystemId now).2 = some frame) :
    connected = true ∧ ∃ systemId messageId interval confirmation, vehicleSystemId = some systemId ∧
      frame = encodeSetMessageInterval systemId messageId interval confirmation := by
  rcases c.update_cases connected vehicleSystemId now with hreset | ⟨systemId, rfl, rfl⟩
  · rw [hreset] at h
    cases h
  · obtain ⟨known, _, hknown, hupdate⟩ := c.update_connected systemId now
    rw [hupdate] at h
    obtain ⟨-, rfl⟩ := requestNext_frame h
    exact ⟨rfl, systemId, _, _, _, rfl, by rw [attemptFrame, hknown]; rfl⟩

end TelemetryStreamConfigurator
end OnboardAutonomy
