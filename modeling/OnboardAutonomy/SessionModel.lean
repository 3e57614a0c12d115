import OnboardAutonomy.MavlinkDecoder
import Mathlib.Data.List.Induction

/-! What the vehicle state is meant to stand for. A session is the log of the messages accepted from one
controller since a heartbeat of it opened the session; it stays alive while its last heartbeat is no
older than the heartbeat timeout. Every reported quantity is the last sample of some kind in that log,
under a timeout of its own. None of the definitions here looks at `VehicleState`. -/

namespace OnboardAutonomy

open TimedLog

/-- A handled message with the time it was handled at. -/
abbrev Reception := TimePoint × MavlinkMessage

/-! ### The samples a message carries -/

namespace Sample

def heartbeat (message : MavlinkMessage) : Option Heartbeat :=
  match message.payload with
  | .heartbeat fields => some fields
  | _ => none

def gps (message : MavlinkMessage) : Option GpsRawInt :=
  match message.payload with
  | .gpsRawInt fields => some fields
  | _ => none

def relativeAltitude (message : MavlinkMessage) : Option Binary64 :=
  match message.payload with
  | .globalPositionInt fields => some (.quotient fields.relativeAlt.toInt 1000)
  | _ => none

def localPosition (message : MavlinkMessage) : Option LocalPositionNed :=
  match message.payload with
  | .localPositionNed fields => some fields
  | _ => none

def attitude (message : MavlinkMessage) : Option Attitude :=
  match message.payload with
  | .attitude fields => some fields
  | _ => none

def systemStatus (message : MavlinkMessage) : Option SysStatus :=
  match message.payload with
  | .sysStatus fields => some fields
  | _ => none

/-- A battery voltage, from either battery message, that is finite and positive. -/
def voltage (message : MavlinkMessage) : Option Binary64 :=
  match message.payload with
  | .batteryStatus battery => (batteryVoltage battery).filter VehicleState.validVoltage
  | .sysStatus status => (systemStatusVoltage status).filter VehicleState.validVoltage
  | _ => none

/-- A battery current that is finite and not negative. -/
def current (message : MavlinkMessage) : Option Binary64 :=
  match message.payload with
  | .batteryStatus battery =>
      (currentFromCentiampere battery.currentBattery).filter VehicleState.validCurrent
  | .sysStatus status => (currentFromCentiampere status.currentBattery).filter VehicleState.validCurrent
  | _ => none

/-- A remaining percentage between 0 and 100. -/
def percent (message : MavlinkMessage) : Option Int8 :=
  match message.payload with
  | .batteryStatus battery => (remainingPercent battery.batteryRemaining).filter VehicleState.validPercent
  | .sysStatus status => (remainingPercent status.batteryRemaining).filter VehicleState.validPercent
  | _ => none

/-- The value of the parameter BATT_ARM_VOLT, as received. -/
def armingVoltage (message : MavlinkMessage) : Option Binary64 :=
  match message.payload with
  | .paramValue parameter =>
      if parameterId parameter = literal "BATT_ARM_VOLT" then some parameter.paramValue else none
  | _ => none

def metadata (message : MavlinkMessage) : Option AutopilotMetadata :=
  match message.payload with
  | .autopilotVersion version => some (autopilotMetadata version)
  | _ => none

/-- A status text that counts as a warning. -/
def warning (message : MavlinkMessage) : Option Bytes :=
  match message.payload with
  | .statustext status =>
      if VehicleState.keepsStatusText status.severity (statusText status) then some (statusText status)
      else none
  | _ => none

end Sample

/-! ### Sessions -/

/-- Only the heartbeat of an autopilot, sent by its first component, can open a session. -/
def selectsController (message : MavlinkMessage) : Bool :=
  (Sample.heartbeat message).any fun heartbeat =>
    heartbeat.autopilot != kMavAutopilotInvalid && message.compid == kMavCompIdAutopilot1

/-- The messages accepted from one controller, the opening heartbeat first. -/
structure Session where
  opening : Reception
  later : List Reception
  selects : selectsController opening.2 = true
  sameSource : ∀ e ∈ later, e.2.source = opening.2.source

namespace Session

def log (session : Session) : List Reception := session.opening :: session.later

def controller (session : Session) : UInt8 × UInt8 := session.opening.2.source

def last {β : Type} (session : Session) (sample : MavlinkMessage → Option β) : Option (TimePoint × β) :=
  lastSample sample session.log

def alive (session : Session) (now : TimePoint) : Bool :=
  (freshSample kHeartbeatTimeout now (session.last Sample.heartbeat)).isSome

def start (entry : Reception) (h : selectsController entry.2 = true) : Session :=
  { opening := entry, later := [], selects := h, sameSource := fun _ hmem => absurd hmem List.not_mem_nil }

def extend (session : Session) (entry : Reception) (h : entry.2.source = session.controller) : Session :=
  { session with
    later := session.later ++ [entry]
    sameSource := fun e hmem => by
      rcases List.mem_append.mp hmem with hold | hnew
      · exact session.sameSource e hold
      · rw [List.mem_singleton.mp hnew]
        exact h }

/-- Inside a live session the controller's telemetry counts, and so do its autopilot heartbeats. -/
def admits (message : MavlinkMessage) : Bool :=
  (Sample.heartbeat message).isNone || selectsController message

end Session

/-- The session after one more handled message. -/
def advance (session : Option Session) (entry : Reception) : Option Session :=
  match session with
  | none => if h : selectsController entry.2 = true then some (.start entry h) else none
  | some session =>
      if session.alive entry.1 then
        if h : entry.2.source = session.controller ∧ Session.admits entry.2 then some (session.extend entry h.1)
        else some session
      else if h : selectsController entry.2 = true then some (.start entry h)
      else some session

theorem advance_extend {session : Session} {entry : Reception} (halive : session.alive entry.1 = true)
    (hsource : entry.2.source = session.controller) (hadmits : Session.admits entry.2 = true) :
    advance (some session) entry = some (session.extend entry hsource) := by
  simp only [advance, halive, if_true, hsource, hadmits, and_self, dite_true]

theorem advance_foreign {session : Session} {entry : Reception} (halive : session.alive entry.1 = true)
    (hsource : entry.2.source ≠ session.controller) : advance (some session) entry = some session := by
  simp only [advance, halive, if_true, hsource, false_and, dite_false]

/-- Outside a live session only a heartbeat that selects a controller counts. -/
theorem advance_outside {session : Option Session} {entry : Reception}
    (hselects : selectsController entry.2 = false)
    (hdead : ∀ running, session = some running → running.alive entry.1 = false) :
    advance session entry = session := by
  cases session with
  | none => simp only [advance, hselects, Bool.false_eq_true, dite_false]
  | some running =>
      simp only [advance, hdead running rfl, hselects, Bool.false_eq_true, if_false, dite_false]

/-- A heartbeat that selects no controller changes no session. -/
theorem advance_ignored {session : Option Session} {entry : Reception}
    (hselects : selectsController entry.2 = false) (hadmits : Session.admits entry.2 = false) :
    advance session entry = session := by
  cases session with
  | none => simp only [advance, hselects, Bool.false_eq_true, dite_false]
  | some running =>
      simp only [advance, hselects, hadmits, Bool.false_eq_true, and_false, dite_false, ite_self]

/-- The session that a history of handled messages ends in. -/
def currentSession (history : List Reception) : Option Session := history.foldl advance none

theorem currentSession_concat (history : List Reception) (entry : Reception) :
    currentSession (history ++ [entry]) = advance (currentSession history) entry := by
  simp [currentSession]

namespace Session

theorem log_start (entry : Reception) (h : selectsController entry.2 = true) :
    (start entry h).log = [entry] := rfl

theorem log_extend (session : Session) (entry : Reception) (h : entry.2.source = session.controller) :
    (session.extend entry h).log = session.log ++ [entry] := rfl

theorem log_source (session : Session) : ∀ e ∈ session.log, e.2.source = session.controller := by
  intro e hmem
  rcases List.mem_cons.mp hmem with rfl | hlater
  · rfl
  · exact session.sameSource e hlater

theorem controller_compid (session : Session) : session.controller.2 = kMavCompIdAutopilot1 := by
  have h := session.selects
  simp only [selectsController, Option.any_eq_true, Bool.and_eq_true, beq_iff_eq] at h
  obtain ⟨_, _, _, hcompid⟩ := h
  exact hcompid

theorem last_heartbeat_isSome (session : Session) : (session.last Sample.heartbeat).isSome = true := by
  obtain ⟨heartbeat, hsample, _⟩ := Option.any_eq_true _ _ |>.mp session.selects
  exact lastSample_isSome_of_mem (List.mem_cons_self ..) hsample

end Session

/-! ### Where a session begins -/

/-- A handled message opens a session: it may select a controller, and no live session is running. -/
def Opens (session : Option Session) (entry : Reception) : Prop :=
  selectsController entry.2 = true ∧ ∀ running, session = some running → running.alive entry.1 = false

theorem advance_of_opens {session : Option Session} {entry : Reception} (h : Opens session entry) :
    advance session entry = some (.start entry h.1) := by
  cases session with
  | none => simp only [advance, dif_pos h.1]
  | some running =>
      have hdead := h.2 running rfl
      simp only [advance, hdead, Bool.false_eq_true, if_false, dif_pos h.1]

/-- A message that opens no session leaves the log as it is or appends itself to it. -/
theorem advance_of_not_opens {session : Option Session} {entry : Reception} {next : Session}
    (hopens : ¬Opens session entry) (hnext : advance session entry = some next) :
    ∃ running, session = some running ∧ next.opening = running.opening ∧
      (next.later = running.later ∨ next.later = running.later ++ [entry]) := by
  cases session with
  | none =>
      simp only [advance] at hnext
      split at hnext
      · rename_i hselects
        exact absurd ⟨hselects, fun _ h => nomatch h⟩ hopens
      · cases hnext
  | some running =>
      refine ⟨running, rfl, ?_⟩
      simp only [advance] at hnext
      split at hnext
      · split at hnext
        · cases hnext
          exact ⟨rfl, Or.inr rfl⟩
        · cases hnext
          exact ⟨rfl, Or.inl rfl⟩
      · rename_i hdead
        split at hnext
        · rename_i hselects
          refine absurd ⟨hselects, fun other hother => ?_⟩ hopens
          cases hother
          simpa using hdead
        · cases hnext
          exact ⟨rfl, Or.inl rfl⟩

/-- The session lies in the history: it begins at a message that opened a session, everything
accepted was handled from there on, and no later message opened another session. -/
structure Session.BeganIn (session : Session) (history : List Reception) : Prop where
  split : ∃ before after, history = before ++ session.opening :: after ∧
    session.log.Sublist (session.opening :: after) ∧
    Opens (currentSession before) session.opening ∧
    ∀ middle entry rest, after = middle ++ entry :: rest →
      ¬Opens (currentSession (before ++ session.opening :: middle)) entry

theorem currentSession_beganIn {history : List Reception} {session : Session}
    (h : currentSession history = some session) : session.BeganIn history := by
  induction history using List.reverseRecOn generalizing session with
  | nil => cases h
  | append_singleton history entry ih =>
      rw [currentSession_concat] at h
      by_cases hopens : Opens (currentSession history) entry
      · rw [advance_of_opens hopens] at h
        cases h
        exact ⟨history, [], rfl, List.Sublist.refl _, hopens, fun middle _ _ hnil => by simp at hnil⟩
      · obtain ⟨running, hrunning, hopening, hlater⟩ := advance_of_not_opens hopens h
        obtain ⟨before, after, hsplit, hsub, hbegan, hnone⟩ := (ih hrunning).split
        refine ⟨before, after ++ [entry], ?_, ?_, hopening ▸ hbegan, ?_⟩
        · rw [hsplit, hopening, List.append_assoc, List.cons_append]
        · have hold : running.later.Sublist after := List.cons_sublist_cons.mp hsub
          rw [Session.log, List.cons_sublist_cons]
          rcases hlater with hsame | hnew
          · rw [hsame]
            exact hold.trans (List.sublist_append_left _ _)
          · rw [hnew]
            exact hold.append (List.Sublist.refl _)
        · intro middle e rest hafter
          rw [hopening]
          rcases List.eq_nil_or_concat rest with rfl | ⟨rest', last, rfl⟩
          · obtain ⟨rfl, hlast⟩ := List.append_inj' hafter rfl
            cases hlast
            rwa [← hsplit]
          · rw [List.concat_eq_append, ← List.cons_append, ← List.append_assoc] at hafter
            obtain ⟨hinit, _⟩ := List.append_inj' hafter rfl
            exact hnone middle e rest' hinit

end OnboardAutonomy
