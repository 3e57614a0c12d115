import Mathlib.Data.List.Basic
import Mathlib.Data.List.Induction
import Mathlib.Tactic.Attr.Core

/-! The life of the program in its process: `run_program` takes over the termination signals, hides the cursor
and makes the standard input raw, and gives all of it back in the reverse order, however it ends. Signals arrive
between any two of its system calls. What else it constructs only matters here by that it may throw. -/

namespace OnboardAutonomy

/-- What a signal does. -/
inductive Disposition where
  | default
  | ignore
  | handleSignal
  deriving DecidableEq

/-- The terminal attributes that the program changes. -/
structure Termios where
  canonical : Bool
  echo : Bool
  vmin : UInt8
  vtime : UInt8
  deriving DecidableEq

def Termios.raw (_ : Termios) : Termios where
  canonical := false
  echo := false
  vmin := 0
  vtime := 0

/-- `O_NONBLOCK`. -/
def kNonBlock : UInt32 := 0x800

/-- What the program changes outside of itself. -/
structure Surroundings where
  interrupt : Disposition
  terminate : Disposition
  attributes : Termios
  flags : UInt32
  cursorVisible : Bool
  deriving DecidableEq

/-- What a constructor has taken over, with what its destructor puts back. -/
inductive Scope where
  | interrupt (previous : Disposition)
  | terminate (previous : Disposition)
  | cursor
  | attributes (original : Termios)
  | flags (original : UInt32)
  deriving DecidableEq

def Scope.undo (os : Surroundings) : Scope → Surroundings
  | .interrupt previous => { os with interrupt := previous }
  | .terminate previous => { os with terminate := previous }
  | .cursor => { os with cursorVisible := true }
  | .attributes original => { os with attributes := original }
  | .flags original => { os with flags := original }

/-- The command line, as far as the program's course depends on it, and whether the output is a live terminal. -/
structure Launch where
  help : Bool := false
  jsonOutput : Bool := false
  logFile : Bool := false
  cameraPreview : Bool := false
  forwardCamera : Bool := false
  interactive : Bool := false
  liveTerminal : Bool := false

/-- What `run_program` does next. -/
inductive ProgramPhase where
  | checkingHelp
  | resetting
  | installingInterrupt
  | installingTerminate (interruptInstalled : Bool)
  | checkingHandlers (installed : Bool)
  | parsing
  | constructingMission
  | loadingBoardTypes
  | constructingSink
  | openingLog
  | constructingPreview
  | constructingForwardCamera
  | constructingForwardMonitor
  | checkingTerminal
  | readingAttributes
  | readingFlags
  | writingAttributes
  | writingFlags
  | constructingRunner
  | looping
  | unwinding (code : Nat)
  | exited (code : Nat)
  | killed
  deriving DecidableEq

/-- The program is still there. -/
def ProgramPhase.alive : ProgramPhase → Bool
  | .exited _ => false
  | .killed => false
  | _ => true

structure Program where
  os : Surroundings
  phase : ProgramPhase := .checkingHelp
  scopes : List Scope := []
  keepRunning : Bool := true
  rounds : Nat := 0
  restored : Bool := true

/-- What happens next: the program goes on, by a call that succeeds or fails, a signal arrives, or the operator
asks for the end. -/
inductive ProgramStep where
  | proceed (succeeds : Bool)
  | interrupt
  | terminate
  | quit

namespace Program

/-- A constructor that holds nothing of the surroundings. -/
def constructed (s : Program) (succeeds : Bool) (next : ProgramPhase) : Program :=
  { s with phase := if succeeds then next else .unwinding 1 }

/-- The next call of the program. -/
def proceed (launch : Launch) (s : Program) (succeeds : Bool) : Program :=
  match s.phase with
  | .checkingHelp => { s with phase := if launch.help then .unwinding 0 else .resetting }
  | .resetting => { s with keepRunning := true, phase := .installingInterrupt }
  | .installingInterrupt =>
      if succeeds then
        { s with
          os := { s.os with interrupt := .handleSignal }
          scopes := [.interrupt s.os.interrupt]
          phase := .installingTerminate true }
      else { s with phase := .installingTerminate false }
  | .installingTerminate interruptInstalled =>
      -- The destructor puts back the handlers in the order of their installation.
      if succeeds then
        { s with
          os := { s.os with terminate := .handleSignal }
          scopes := s.scopes ++ [.terminate s.os.terminate]
          phase := .checkingHandlers interruptInstalled }
      else { s with phase := .checkingHandlers false }
  | .checkingHandlers installed => s.constructed installed .parsing
  | .parsing => s.constructed succeeds .constructingMission
  | .constructingMission => s.constructed succeeds .loadingBoardTypes
  | .loadingBoardTypes => s.constructed succeeds .constructingSink
  | .constructingSink =>
      if !launch.jsonOutput && launch.liveTerminal then
        { s with
          os := { s.os with cursorVisible := false }
          scopes := .cursor :: s.scopes
          phase := .openingLog }
      else { s with phase := .openingLog }
  | .openingLog => s.constructed (!launch.logFile || succeeds) .constructingPreview
  | .constructingPreview => s.constructed (!launch.cameraPreview || succeeds) .constructingForwardCamera
  | .constructingForwardCamera => s.constructed (!launch.forwardCamera || succeeds) .constructingForwardMonitor
  | .constructingForwardMonitor => s.constructed (!launch.forwardCamera || succeeds) .checkingTerminal
  | .checkingTerminal =>
      if launch.interactive then s.constructed succeeds .readingAttributes
      else { s with phase := .constructingRunner }
  | .readingAttributes => s.constructed succeeds .readingFlags
  | .readingFlags => s.constructed succeeds .writingAttributes
  | .writingAttributes =>
      if succeeds then
        { s with
          os := { s.os with attributes := s.os.attributes.raw }
          scopes := .attributes s.os.attributes :: s.scopes
          phase := .writingFlags }
      else { s with phase := .unwinding 1 }
  | .writingFlags =>
      if succeeds then
        { s with
          os := { s.os with flags := s.os.flags ||| kNonBlock }
          scopes := .flags s.os.flags :: s.scopes
          phase := .constructingRunner }
      else { s with phase := .unwinding 1 }
  | .constructingRunner => s.constructed succeeds .looping
  | .looping =>
      if !s.keepRunning then { s with phase := .unwinding 0 }
      else if succeeds then { s with rounds := s.rounds + 1 }
      else { s with phase := .unwinding 1 }
  | .unwinding code =>
      match s.scopes with
      | [] => { s with phase := .exited code }
      | scope :: scopes =>
          if succeeds then { s with os := scope.undo s.os, scopes := scopes }
          else { s with scopes := scopes, restored := false }
  | .exited _ => s
  | .killed => s

/-- A signal with its disposition arrives. -/
def signal (s : Program) (disposition : Disposition) : Program :=
  if !s.phase.alive then s
  else
    match disposition with
    | .default => { s with phase := .killed }
    | .ignore => s
    | .handleSignal => { s with keepRunning := false }

def step (launch : Launch) (s : Program) : ProgramStep → Program
  | .proceed succeeds => s.proceed launch succeeds
  | .interrupt => s.signal s.os.interrupt
  | .terminate => s.signal s.os.terminate
  | .quit => if s.phase = .looping then { s with keepRunning := false } else s

def start (os : Surroundings) : Program where
  os := os

def run (launch : Launch) (os : Surroundings) (steps : List ProgramStep) : Program :=
  steps.foldl (step launch) (start os)

end Program

/-! ### What is taken over -/

/-- The scope is one of the terminal's. -/
def Scope.ofTerminal : Scope → Bool
  | .interrupt _ => false
  | .terminate _ => false
  | _ => true

/-- The terminal as it was. -/
def SameTerminal (os os' : Surroundings) : Prop :=
  os.attributes = os'.attributes ∧ os.flags = os'.flags ∧ os.cursorVisible = os'.cursorVisible

instance (os os' : Surroundings) : Decidable (SameTerminal os os') := inferInstanceAs (Decidable (_ ∧ _ ∧ _))

/-- Both signals are handled by the program. -/
def Guarded (os : Surroundings) : Prop := os.interrupt = .handleSignal ∧ os.terminate = .handleSignal

theorem undo_sameTerminal {scopes : List Scope} (os : Surroundings)
    (h : ∀ scope ∈ scopes, scope.ofTerminal = false) : SameTerminal (scopes.foldl Scope.undo os) os := by
  induction scopes generalizing os with
  | nil => exact ⟨rfl, rfl, rfl⟩
  | cons scope scopes ih =>
      obtain ⟨hscope, hscopes⟩ := List.forall_mem_cons.mp h
      have hrest := ih (scope.undo os) hscopes
      cases scope with
      | interrupt previous => exact hrest
      | terminate previous => exact hrest
      | cursor => cases hscope
      | attributes original => cases hscope
      | flags original => cases hscope

namespace ProgramPhase

/-- The program has been allowed to go on, which happens only once. -/
def begun : ProgramPhase → Bool
  | .checkingHelp => false
  | .resetting => false
  | _ => true

/-- The handlers are in place and the program goes on. -/
def armed : ProgramPhase → Bool
  | .checkingHelp => false
  | .resetting => false
  | .installingInterrupt => false
  | .installingTerminate _ => false
  | .checkingHandlers installed => installed
  | .unwinding _ => false
  | .exited _ => false
  | .killed => false
  | _ => true

/-- The program has not begun to leave. -/
def staying : ProgramPhase → Bool
  | .unwinding _ => false
  | .exited _ => false
  | .killed => false
  | _ => true

/-- Nothing of the terminal has been taken over yet. -/
def bare : ProgramPhase → Bool
  | .checkingHelp => true
  | .resetting => true
  | .installingInterrupt => true
  | .installingTerminate _ => true
  | .checkingHandlers _ => true
  | .parsing => true
  | .constructingMission => true
  | .loadingBoardTypes => true
  | .constructingSink => true
  | _ => false

/-- Calls that are left in the phases to come, two of them for each phase, since a phase may take a scope. -/
def distance : ProgramPhase → Nat
  | .checkingHelp => 41
  | .resetting => 39
  | .installingInterrupt => 37
  | .installingTerminate _ => 35
  | .checkingHandlers _ => 33
  | .parsing => 31
  | .constructingMission => 29
  | .loadingBoardTypes => 27
  | .constructingSink => 25
  | .openingLog => 23
  | .constructingPreview => 21
  | .constructingForwardCamera => 19
  | .constructingForwardMonitor => 17
  | .checkingTerminal => 15
  | .readingAttributes => 13
  | .readingFlags => 11
  | .writingAttributes => 9
  | .writingFlags => 7
  | .constructingRunner => 5
  | .looping => 3
  | .unwinding _ => 1
  | .exited _ => 0
  | .killed => 0

/-- What has been taken over while the handlers are being installed. -/
def Installing (phase : ProgramPhase) (os : Surroundings) (scopes : List Scope) : Prop :=
  match phase with
  | .checkingHelp => scopes = []
  | .resetting => scopes = []
  | .installingInterrupt => scopes = []
  | .installingTerminate true => (∃ previous, scopes = [.interrupt previous]) ∧ os.interrupt = .handleSignal
  | .installingTerminate false => scopes = []
  | .exited _ => scopes = []
  | .killed => os.interrupt = .default ∨ os.terminate = .default
  | _ => True

end ProgramPhase

/-- Undoing what has been taken over leads back to the start; the terminal is given back before the handlers, and
is only taken while both are in place. -/
structure Kept (os₀ : Surroundings) (s : Program) : Prop where
  undone : s.restored = true → s.scopes.foldl Scope.undo s.os = os₀
  staying : s.phase.staying = true → s.restored = true
  ordered : s.scopes.Pairwise fun above below => below.ofTerminal = true → above.ofTerminal = true
  guarded : (∃ scope ∈ s.scopes, scope.ofTerminal = true) → Guarded s.os
  armed : s.phase.armed = true → Guarded s.os
  bare : s.phase.bare = true → ∀ scope ∈ s.scopes, scope.ofTerminal = false
  installing : s.phase.Installing s.os s.scopes

namespace Kept

variable {os₀ : Surroundings} {s : Program} {launch : Launch}

theorem sameTerminal (h : Kept os₀ s) (hrestored : s.restored = true)
    (hscopes : ∀ scope ∈ s.scopes, scope.ofTerminal = false) : SameTerminal s.os os₀ := by
  obtain ⟨hattributes, hflags, hcursor⟩ := undo_sameTerminal s.os hscopes
  rw [h.undone hrestored] at hattributes hflags hcursor
  exact ⟨hattributes.symm, hflags.symm, hcursor.symm⟩

/-- The phase changes and nothing else. -/
theorem pass (h : Kept os₀ s) {phase : ProgramPhase} (hstaying : phase.staying = true → s.phase.staying = true)
    (harmed : phase.armed = true → s.phase.armed = true) (hbare : phase.bare = true → s.phase.bare = true)
    (hinstalling : phase.Installing s.os s.scopes) : Kept os₀ { s with phase := phase } :=
  ⟨h.undone, fun hphase => h.staying (hstaying hphase), h.ordered, h.guarded,
    fun hphase => h.armed (harmed hphase), fun hphase => h.bare (hbare hphase), hinstalling⟩

theorem unwind (h : Kept os₀ s) (code : Nat) : Kept os₀ { s with phase := .unwinding code } :=
  h.pass (fun hp => (by cases hp)) (fun hp => (by cases hp)) (fun hp => (by cases hp)) trivial

/-- A constructor that holds nothing of the surroundings succeeds or throws. -/
theorem constructed (h : Kept os₀ s) {phase next : ProgramPhase} (hphase : s.phase = phase) (succeeds : Bool)
    (hstaying : phase.staying = true) (harmed : next.armed = true → phase.armed = true)
    (hbare : next.bare = true → phase.bare = true) (hinstalling : next.Installing s.os s.scopes) :
    Kept os₀ (s.constructed succeeds next) := by
  subst hphase
  cases succeeds with
  | true => exact h.pass (fun _ => hstaying) harmed hbare hinstalling
  | false => exact h.unwind 1

/-- A scope of the terminal is taken on top. -/
theorem take (h : Kept os₀ s) {os : Surroundings} {scope : Scope} {phase : ProgramPhase}
    (hundo : scope.undo os = s.os) (hterminal : scope.ofTerminal = true) (hstaying : s.phase.staying = true)
    (hguarded : Guarded os) (hbare : phase.bare = false) (hinstalling : phase.Installing os (scope :: s.scopes)) :
    Kept os₀ { s with os := os, scopes := scope :: s.scopes, phase := phase } := by
  refine ⟨fun hrestored => ?_, fun _ => h.staying hstaying, ?_, fun _ => hguarded, fun _ => hguarded, ?_,
    hinstalling⟩
  · show s.scopes.foldl Scope.undo (scope.undo os) = os₀
    rw [hundo]
    exact h.undone hrestored
  · exact List.pairwise_cons.mpr ⟨fun _ _ _ => hterminal, h.ordered⟩
  · intro hphase
    cases hbare.symm.trans hphase

/-- The top scope is given back. -/
theorem release (h : Kept os₀ s) {scope : Scope} {scopes : List Scope} (hscopes : s.scopes = scope :: scopes)
    {code : Nat} (hphase : s.phase = .unwinding code) :
    Kept os₀ { s with os := scope.undo s.os, scopes := scopes } := by
  have hordered := h.ordered
  rw [hscopes] at hordered
  obtain ⟨habove, hrest⟩ := List.pairwise_cons.mp hordered
  have hunwinding {P : ProgramPhase → Bool} (hP : P (.unwinding code) = false) : P s.phase = true → False := by
    rw [hphase, hP]
    exact Bool.false_ne_true
  refine ⟨fun hrestored => ?_, fun hp => (hunwinding rfl hp).elim, hrest, ?_, fun hp => (hunwinding rfl hp).elim,
    fun hp => (hunwinding rfl hp).elim, ?_⟩
  · have hundone := h.undone hrestored
    rwa [hscopes] at hundone
  · rintro ⟨other, hother, hterminal⟩
    have hguarded : Guarded s.os := h.guarded ⟨other, hscopes ▸ List.mem_cons_of_mem scope hother, hterminal⟩
    have hscope := habove other hother hterminal
    cases scope with
    | interrupt previous => cases hscope
    | terminate previous => cases hscope
    | cursor => exact hguarded
    | attributes original => exact hguarded
    | flags original => exact hguarded
  · show s.phase.Installing _ _
    rw [hphase]
    trivial

/-- The top scope is lost. -/
theorem lose (h : Kept os₀ s) {scope : Scope} {scopes : List Scope} (hscopes : s.scopes = scope :: scopes)
    {code : Nat} (hphase : s.phase = .unwinding code) :
    Kept os₀ { s with scopes := scopes, restored := false } := by
  have hunwinding {P : ProgramPhase → Bool} (hP : P (.unwinding code) = false) : P s.phase = true → False := by
    rw [hphase, hP]
    exact Bool.false_ne_true
  have hordered := h.ordered
  rw [hscopes] at hordered
  refine ⟨fun hrestored => (by cases hrestored), fun hp => (hunwinding rfl hp).elim,
    (List.pairwise_cons.mp hordered).2, ?_, fun hp => (hunwinding rfl hp).elim,
    fun hp => (hunwinding rfl hp).elim, ?_⟩
  · rintro ⟨other, hother, hterminal⟩
    exact h.guarded ⟨other, hscopes ▸ List.mem_cons_of_mem scope hother, hterminal⟩
  · show s.phase.Installing _ _
    rw [hphase]
    trivial

/-- Whether the program shall go on, and how far it is, makes no difference. -/
theorem counted (h : Kept os₀ s) (keepRunning : Bool) (rounds : Nat) :
    Kept os₀ { s with keepRunning := keepRunning, rounds := rounds } :=
  ⟨h.undone, h.staying, h.ordered, h.guarded, h.armed, h.bare, h.installing⟩

theorem installInterrupt (h : Kept os₀ s) (launch : Launch) (hphase : s.phase = .installingInterrupt)
    (succeeds : Bool) :
    Kept os₀ (s.proceed launch succeeds) := by
  have hempty : s.scopes = [] := by
    have hinstalling := h.installing
    rwa [hphase] at hinstalling
  have hrestored := h.staying (by rw [hphase]; rfl)
  have hsame := h.undone hrestored
  rw [hempty] at hsame
  unfold Program.proceed
  rw [hphase]
  cases succeeds with
  | false => exact h.pass (fun _ => by rw [hphase]; rfl) (fun hp => (by cases hp)) (fun _ => by rw [hphase]; rfl) hempty
  | true =>
      refine ⟨fun _ => ?_, fun _ => hrestored, List.pairwise_singleton _ _, ?_, fun hp => (by cases hp), ?_,
        ⟨s.os.interrupt, rfl⟩, rfl⟩
      · exact hsame
      · rintro ⟨scope, hscope, hterminal⟩
        rw [List.mem_singleton.mp hscope] at hterminal
        cases hterminal
      · exact fun _ => List.forall_mem_singleton.mpr rfl

theorem installTerminate (h : Kept os₀ s) (launch : Launch) {interruptInstalled : Bool}
    (hphase : s.phase = .installingTerminate interruptInstalled) (succeeds : Bool) :
    Kept os₀ (s.proceed launch succeeds) := by
  have hstaying : s.phase.staying = true := by
    rw [hphase]
    rfl
  have hrestored := h.staying hstaying
  have hundone := h.undone hrestored
  have hbare : ∀ scope ∈ s.scopes, scope.ofTerminal = false := h.bare (by rw [hphase]; rfl)
  unfold Program.proceed
  rw [hphase]
  cases succeeds with
  | false =>
      exact h.pass (fun _ => hstaying) (fun hp => (by cases hp)) (fun _ => by rw [hphase]; rfl) trivial
  | true =>
      have hbare' : ∀ scope ∈ s.scopes ++ [.terminate s.os.terminate], scope.ofTerminal = false :=
        List.forall_mem_append.mpr ⟨hbare, List.forall_mem_singleton.mpr rfl⟩
      refine ⟨fun _ => ?_, fun _ => hrestored, ?_, ?_, ?_, fun _ => hbare', trivial⟩
      · have hinstalling := h.installing
        rw [hphase] at hinstalling
        cases interruptInstalled with
        | false =>
            have hempty : s.scopes = [] := hinstalling
            rw [hempty] at hundone ⊢
            exact hundone
        | true =>
            obtain ⟨⟨previous, hscopes⟩, -⟩ := hinstalling
            rw [hscopes] at hundone ⊢
            exact hundone
      · exact List.pairwise_of_forall_mem_list fun above _ below hbelow hterminal =>
          absurd ((hbare' below hbelow).symm.trans hterminal) Bool.false_ne_true
      · rintro ⟨scope, hscope, hterminal⟩
        cases (hbare' scope hscope).symm.trans hterminal
      · intro hinstalled
        have hinstalling := h.installing
        rw [hphase, show interruptInstalled = true from hinstalled] at hinstalling
        exact ⟨hinstalling.2, rfl⟩

/-- A scope is taken in an armed phase, where the terminal may be taken. -/
theorem takeIf (h : Kept os₀ s) {os : Surroundings} (scope : Scope) {phase next : ProgramPhase}
    (hphase : s.phase = phase) (succeeds : Bool) (hstaying : phase.staying = true) (harmed : phase.armed = true)
    (hundo : scope.undo os = s.os) (hterminal : scope.ofTerminal = true)
    (hsignals : os.interrupt = s.os.interrupt ∧ os.terminate = s.os.terminate) (hbare : next.bare = false)
    (hinstalling : next.Installing os (scope :: s.scopes)) :
    Kept os₀ (if succeeds then { s with os := os, scopes := scope :: s.scopes, phase := next }
      else { s with phase := .unwinding 1 }) := by
  subst hphase
  cases succeeds with
  | true =>
      obtain ⟨hinterrupt, hterminate⟩ := h.armed harmed
      exact h.take hundo hterminal hstaying ⟨hsignals.1.trans hinterrupt, hsignals.2.trans hterminate⟩ hbare
        hinstalling
  | false => exact h.unwind 1

/-- The cursor is visible when the sink is constructed. -/
theorem cursor (hcursor : os₀.cursorVisible = true) (h : Kept os₀ s) (hphase : s.phase = .constructingSink) :
    s.os.cursorVisible = true := by
  have hbare := h.bare (by rw [hphase]; rfl)
  have hrestored := h.staying (by rw [hphase]; rfl)
  exact (h.sameTerminal hrestored hbare).2.2.trans hcursor

theorem proceed (hcursor : os₀.cursorVisible = true) (h : Kept os₀ s) (succeeds : Bool) :
    Kept os₀ (s.proceed launch succeeds) := by
  have hnone {P : Prop} (hp : false = true) : P := absurd hp Bool.false_ne_true
  unfold Program.proceed
  split
  case h_1 hphase =>
    have hinstalling := h.installing
    rw [hphase] at hinstalling
    cases launch.help with
    | true => exact h.unwind 0
    | false =>
        exact h.pass (fun _ => by rw [hphase]; rfl) hnone (fun _ => by rw [hphase]; rfl) hinstalling
  case h_2 hphase =>
    have hinstalling := h.installing
    rw [hphase] at hinstalling
    have hpass : Kept os₀ { s with phase := .installingInterrupt } :=
      h.pass (fun _ => by rw [hphase]; rfl) hnone (fun _ => by rw [hphase]; rfl) hinstalling
    exact hpass.counted true s.rounds
  case h_3 hphase =>
    have hinstall := h.installInterrupt launch hphase succeeds
    unfold Program.proceed at hinstall
    rwa [hphase] at hinstall
  case h_4 interruptInstalled hphase =>
    have hinstall := h.installTerminate launch hphase succeeds
    unfold Program.proceed at hinstall
    rwa [hphase] at hinstall
  case h_5 installed hphase =>
    cases installed with
    | true => exact h.constructed hphase true rfl (fun _ => rfl) (fun _ => rfl) trivial
    | false => exact h.unwind 1
  case h_6 hphase => exact h.constructed hphase _ rfl (fun _ => rfl) (fun _ => rfl) trivial
  case h_7 hphase => exact h.constructed hphase _ rfl (fun _ => rfl) (fun _ => rfl) trivial
  case h_8 hphase => exact h.constructed hphase _ rfl (fun _ => rfl) (fun _ => rfl) trivial
  case h_9 hphase =>
    split
    · refine h.takeIf .cursor hphase true rfl rfl ?_ rfl ⟨rfl, rfl⟩ rfl trivial
      have hvisible := h.cursor hcursor hphase
      rw [Scope.undo, ← hvisible]
    · exact h.pass (fun _ => by rw [hphase]; rfl) (fun _ => by rw [hphase]; rfl) hnone trivial
  case h_10 hphase => exact h.constructed hphase _ rfl (fun _ => rfl) hnone trivial
  case h_11 hphase => exact h.constructed hphase _ rfl (fun _ => rfl) hnone trivial
  case h_12 hphase => exact h.constructed hphase _ rfl (fun _ => rfl) hnone trivial
  case h_13 hphase => exact h.constructed hphase _ rfl (fun _ => rfl) hnone trivial
  case h_14 hphase =>
    split
    · exact h.constructed hphase _ rfl (fun _ => rfl) hnone trivial
    · exact h.pass (fun _ => by rw [hphase]; rfl) (fun _ => by rw [hphase]; rfl) hnone trivial
  case h_15 hphase => exact h.constructed hphase _ rfl (fun _ => rfl) hnone trivial
  case h_16 hphase => exact h.constructed hphase _ rfl (fun _ => rfl) hnone trivial
  case h_17 hphase => exact h.takeIf _ hphase succeeds rfl rfl rfl rfl ⟨rfl, rfl⟩ rfl trivial
  case h_18 hphase => exact h.takeIf _ hphase succeeds rfl rfl rfl rfl ⟨rfl, rfl⟩ rfl trivial
  case h_19 hphase => exact h.constructed hphase _ rfl (fun _ => rfl) hnone trivial
  case h_20 hphase =>
    split
    · exact h.unwind 0
    split
    · exact h.counted s.keepRunning (s.rounds + 1)
    · exact h.unwind 1
  case h_21 code hphase =>
    split
    · rename_i hscopes
      exact h.pass hnone hnone hnone hscopes
    · rename_i scope scopes hscopes
      split
      · exact h.release hscopes hphase
      · exact h.lose hscopes hphase
  case h_22 => exact h
  case h_23 => exact h

theorem signal (h : Kept os₀ s) {disposition : Disposition}
    (hone : s.os.interrupt = disposition ∨ s.os.terminate = disposition) : Kept os₀ (s.signal disposition) := by
  unfold Program.signal
  split
  · exact h
  · cases disposition with
    | default => exact h.pass (fun hp => (by cases hp)) (fun hp => (by cases hp)) (fun hp => (by cases hp)) hone
    | ignore => exact h
    | handleSignal => exact h.counted false s.rounds

theorem step (hcursor : os₀.cursorVisible = true) (h : Kept os₀ s) (step : ProgramStep) :
    Kept os₀ (s.step launch step) := by
  cases step with
  | proceed succeeds => exact h.proceed hcursor succeeds
  | interrupt => exact h.signal (.inl rfl)
  | terminate => exact h.signal (.inr rfl)
  | quit =>
      show Kept os₀ (if s.phase = .looping then { s with keepRunning := false } else s)
      split
      · exact h.counted false s.rounds
      · exact h

end Kept

theorem kept_start (os₀ : Surroundings) : Kept os₀ (Program.start os₀) :=
  ⟨fun _ => rfl, fun _ => rfl, List.Pairwise.nil, fun ⟨_, hmem, _⟩ => absurd hmem List.not_mem_nil,
    fun hp => (by cases hp), fun _ => List.forall_mem_nil _, rfl⟩

theorem kept_run {os₀ : Surroundings} (hcursor : os₀.cursorVisible = true) (launch : Launch)
    (steps : List ProgramStep) : Kept os₀ (Program.run launch os₀ steps) := by
  induction steps using List.reverseRecOn with
  | nil => exact kept_start os₀
  | append_singleton steps step ih =>
      rw [Program.run, List.foldl_append]
      exact ih.step hcursor step

/-- A shell that ignores the termination, with a terminal that shows what is typed. -/
def shell : Surroundings where
  interrupt := .default
  terminate := .ignore
  attributes := ⟨true, true, 1, 0⟩
  flags := 0x8002
  cursorVisible := true

/-- A session at that terminal. -/
def session : Launch where
  interactive := true
  liveTerminal := true

/-- The session is set up, goes two rounds and is interrupted; `calls` calls later it is looked at. -/
def interrupted (calls : Nat) : List ProgramStep :=
  List.replicate 21 (.proceed true) ++ .interrupt :: List.replicate calls (.proceed true)

namespace Program

/-- However the program ends and whenever signals come, as long as no call that puts something back fails: when it
exits, everything is as it was; while the terminal is not as it was, both signals are handled; and so a signal
that kills the program leaves the terminal as it was. -/
theorem run_restores {os : Surroundings} (hcursor : os.cursorVisible = true) (launch : Launch)
    (steps : List ProgramStep) (hrestored : (run launch os steps).restored = true) :
    (∀ code, (run launch os steps).phase = .exited code → (run launch os steps).os = os) ∧
    (¬SameTerminal (run launch os steps).os os → Guarded (run launch os steps).os) ∧
    ((run launch os steps).phase = .killed → SameTerminal (run launch os steps).os os) := by
  have hkept := kept_run hcursor launch steps
  generalize run launch os steps = s at hkept hrestored
  have hguarded : ¬SameTerminal s.os os → Guarded s.os := by
    intro hdiffers
    by_contra hnot
    refine hdiffers (hkept.sameTerminal hrestored fun scope hscope => ?_)
    rw [← Bool.not_eq_true]
    exact fun hterminal => hnot (hkept.guarded ⟨scope, hscope, hterminal⟩)
  refine ⟨fun code hexited => ?_, hguarded, fun hkilled => ?_⟩
  · have hinstalling := hkept.installing
    rw [hexited] at hinstalling
    have hundone := hkept.undone hrestored
    rwa [show s.scopes = [] from hinstalling] at hundone
  · by_contra hdiffers
    obtain ⟨hinterrupt, hterminate⟩ := hguarded hdiffers
    have hinstalling := hkept.installing
    rw [hkilled] at hinstalling
    rcases hinstalling with hdefault | hdefault
    · cases hinterrupt.symm.trans hdefault
    · cases hterminate.symm.trans hdefault

/-- The interrupted session has the terminal for itself while it goes on, and then gives it back. -/
theorem run_restores_shell :
    Guarded (run session shell (interrupted 0)).os ∧ (run session shell (interrupted 7)).os = shell :=
  ⟨(run_restores rfl session (interrupted 0) (by decide +kernel)).2.1 (by decide +kernel),
    (run_restores rfl session (interrupted 7) (by decide +kernel)).1 0 (by decide +kernel)⟩

/-! ### Stopping -/

/-- The program has been asked to stop and will not forget it. -/
def Stopping (s : Program) : Prop := s.keepRunning = false ∧ s.phase.begun = true

/-- A step asks for the end: a signal that the program handles, or the operator while it listens. -/
def Asks (s : Program) : ProgramStep → Prop
  | .proceed _ => False
  | .interrupt => s.phase.alive = true ∧ s.os.interrupt = .handleSignal
  | .terminate => s.phase.alive = true ∧ s.os.terminate = .handleSignal
  | .quit => s.phase = .looping

/-- The calls that are left at most, those that put something back among them. -/
def effort (s : Program) : Nat := s.phase.distance + s.scopes.length

def ProgramStep.isCall : ProgramStep → Bool
  | .proceed _ => true
  | _ => false

variable {s : Program} (launch : Launch)

theorem proceed_stopping (h : Stopping s) (succeeds : Bool) :
    Stopping (s.proceed launch succeeds) ∧ (s.proceed launch succeeds).rounds = s.rounds := by
  obtain ⟨hkeep, hphase⟩ := h
  unfold Program.proceed
  split
  all_goals grind [Stopping, constructed, ProgramPhase.begun]

theorem signal_stopping (h : Stopping s) (disposition : Disposition) :
    Stopping (s.signal disposition) ∧ (s.signal disposition).rounds = s.rounds := by
  unfold signal
  split
  · exact ⟨h, rfl⟩
  · cases disposition with
    | default => exact ⟨⟨h.1, rfl⟩, rfl⟩
    | ignore => exact ⟨h, rfl⟩
    | handleSignal => exact ⟨⟨rfl, h.2⟩, rfl⟩

/-- The program keeps stopping, and begins no round any more. -/
theorem step_stopping (h : Stopping s) (step : ProgramStep) :
    Stopping (s.step launch step) ∧ (s.step launch step).rounds = s.rounds := by
  cases step with
  | proceed succeeds => exact proceed_stopping launch h succeeds
  | interrupt => exact signal_stopping h _
  | terminate => exact signal_stopping h _
  | quit =>
      show Stopping (if s.phase = .looping then { s with keepRunning := false } else s) ∧
        (if s.phase = .looping then { s with keepRunning := false } else s).rounds = s.rounds
      split
      · exact ⟨⟨rfl, h.2⟩, rfl⟩
      · exact ⟨h, rfl⟩

/-- Every call leads on, but for the rounds of the loop. -/
theorem effort_proceed (succeeds : Bool) (halive : s.phase.alive = true)
    (hleaves : s.phase = .looping → s.keepRunning = false) :
    (s.proceed launch succeeds).effort < s.effort := by
  unfold Program.proceed
  split
  all_goals grind [effort, constructed, ProgramPhase.distance, ProgramPhase.alive]

theorem effort_proceed_le (succeeds : Bool) : (s.proceed launch succeeds).effort ≤ s.effort := by
  unfold Program.proceed
  split
  all_goals grind [effort, constructed, ProgramPhase.distance]

theorem effort_signal (disposition : Disposition) : (s.signal disposition).effort ≤ s.effort := by
  unfold signal
  split
  · exact Nat.le_refl _
  · cases disposition with
    | default => exact Nat.add_le_add_right (Nat.zero_le _) _
    | ignore => exact Nat.le_refl _
    | handleSignal => exact Nat.le_refl _

theorem effort_step (step : ProgramStep) : (s.step launch step).effort ≤ s.effort := by
  cases step with
  | proceed succeeds => exact effort_proceed_le launch succeeds
  | interrupt => exact effort_signal _
  | terminate => exact effort_signal _
  | quit =>
      show (if s.phase = .looping then { s with keepRunning := false } else s).effort ≤ s.effort
      split <;> exact Nat.le_refl _

/-- The first call leaves 39 calls at most, or the program still has to make it and holds nothing. -/
theorem step_checkingHelp (hphase : s.phase = .checkingHelp) (hscopes : s.scopes = []) (step : ProgramStep) :
    (s.step launch step).phase = .checkingHelp ∧ (s.step launch step).scopes = [] ∨
      (s.step launch step).effort ≤ 39 := by
  have hsignal (disposition : Disposition) : (s.signal disposition).phase = .checkingHelp ∧
      (s.signal disposition).scopes = [] ∨ (s.signal disposition).effort ≤ 39 := by
    unfold signal
    grind [effort, ProgramPhase.distance]
  cases step with
  | proceed succeeds =>
      have hstep : s.step launch (.proceed succeeds) =
          { s with phase := if launch.help then .unwinding 0 else .resetting } := by
        show s.proceed launch succeeds = _
        unfold Program.proceed
        rw [hphase]
      rw [hstep]
      grind [effort, ProgramPhase.distance]
  | interrupt => exact hsignal _
  | terminate => exact hsignal _
  | quit =>
      have hsame : s.step launch .quit = s := if_neg (by rw [hphase]; exact ProgramPhase.noConfusion)
      rw [hsame]
      exact .inl ⟨hphase, hscopes⟩

/-- Once the first call has been made, 39 calls are left at most. -/
theorem effort_run (os : Surroundings) (steps : List ProgramStep) :
    (run launch os steps).phase = .checkingHelp ∧ (run launch os steps).scopes = [] ∨
      (run launch os steps).effort ≤ 39 := by
  induction steps using List.reverseRecOn with
  | nil => exact .inl ⟨rfl, rfl⟩
  | append_singleton steps step ih =>
      rw [run, List.foldl_append]
      rcases ih with ⟨hphase, hscopes⟩ | hbound
      · exact step_checkingHelp launch hphase hscopes step
      · exact .inr (Nat.le_trans (effort_step launch step) hbound)

/-- Nothing happens any more once the program has ended. -/
theorem step_ended (h : s.phase.alive = false) (step : ProgramStep) : s.step launch step = s := by
  have hsignal (disposition : Disposition) : s.signal disposition = s := by
    unfold signal
    rw [h]
    rfl
  cases step with
  | proceed succeeds =>
      show s.proceed launch succeeds = s
      unfold Program.proceed
      split
      case h_22 => rfl
      case h_23 => rfl
      all_goals
        rename_i hphase
        rw [hphase] at h
        cases h
  | interrupt => exact hsignal _
  | terminate => exact hsignal _
  | quit =>
      show (if s.phase = .looping then { s with keepRunning := false } else s) = s
      refine if_neg fun hlooping => ?_
      rw [hlooping] at h
      cases h

theorem run_ended (h : s.phase.alive = false) (steps : List ProgramStep) :
    steps.foldl (step launch) s = s := by
  induction steps with
  | nil => rfl
  | cons step steps ih => rw [List.foldl_cons, step_ended launch h step, ih]

/-- Behind the request the calls use up the effort, unless the program has ended. -/
theorem stopping_run (h : Stopping s) (steps : List ProgramStep) :
    (steps.foldl (step launch) s).rounds = s.rounds ∧
      ((steps.foldl (step launch) s).phase.alive = true →
        (steps.foldl (step launch) s).effort + steps.countP ProgramStep.isCall ≤ s.effort) := by
  induction steps generalizing s with
  | nil => exact ⟨rfl, fun _ => Nat.le_refl _⟩
  | cons step steps ih =>
      obtain ⟨hstopping, hrounds⟩ := step_stopping launch h step
      obtain ⟨hrest, heffort⟩ := ih hstopping
      refine ⟨hrest.trans hrounds, fun halive => ?_⟩
      have hbefore : s.phase.alive = true := by
        rw [← Bool.not_eq_false]
        intro hdead
        rw [run_ended launch hdead, hdead] at halive
        cases halive
      have hafter := heffort halive
      rw [List.countP_cons]
      cases step with
      | proceed succeeds =>
          have hcall := effort_proceed launch succeeds hbefore fun _ => h.1
          have hone : (if ProgramStep.isCall (.proceed succeeds) = true then 1 else 0) = 1 := rfl
          rw [hone]
          show ((steps.foldl (Program.step launch) (s.proceed launch succeeds)).effort + _) ≤ _
          have hafter' : (steps.foldl (Program.step launch) (s.proceed launch succeeds)).effort +
            steps.countP ProgramStep.isCall ≤ (s.proceed launch succeeds).effort := hafter
          omega
      | interrupt => exact Nat.le_trans hafter (effort_step launch .interrupt)
      | terminate => exact Nat.le_trans hafter (effort_step launch .terminate)
      | quit => exact Nat.le_trans hafter (effort_step launch .quit)

/-- A process that is started anew: it handles no signal itself, and its cursor can be seen. -/
structure Fresh (os : Surroundings) : Prop where
  interrupt : os.interrupt ≠ .handleSignal
  terminate : os.terminate ≠ .handleSignal
  cursorVisible : os.cursorVisible = true

/-- What asks for the end makes the program stop. -/
theorem asked_stopping {os : Surroundings} (hfresh : Fresh os) (steps : List ProgramStep) {step : ProgramStep}
    (h : Asks (run launch os steps) step) : Stopping (run launch os (steps ++ [step])) := by
  have hkept := kept_run hfresh.cursorVisible launch steps
  rw [run, List.foldl_append]
  show Stopping ((run launch os steps).step launch step)
  generalize run launch os steps = s at hkept h
  have hphase (hhandled : s.os.interrupt = .handleSignal ∨ s.os.terminate = .handleSignal) :
      s.phase.begun = true := by
    rw [← Bool.not_eq_false]
    intro hbegun
    have hinstalling := hkept.installing
    -- As long as the program has not begun, it has taken over nothing.
    obtain ⟨hscopes, hstaying⟩ : s.scopes = [] ∧ s.phase.staying = true := by
      cases hphase : s.phase <;> rw [hphase] at hbegun hinstalling <;>
        first | exact ⟨hinstalling, rfl⟩ | cases hbegun
    have hundone := hkept.undone (hkept.staying hstaying)
    rw [hscopes] at hundone
    have hsame : s.os = os := hundone
    rw [hsame] at hhandled
    exact hhandled.elim hfresh.interrupt hfresh.terminate
  have hsignal (halive : s.phase.alive = true) : s.signal .handleSignal = { s with keepRunning := false } := by
    unfold signal
    rw [halive]
    rfl
  cases step with
  | proceed succeeds => exact h.elim
  | interrupt =>
      show Stopping (s.signal s.os.interrupt)
      rw [h.2, hsignal h.1]
      exact ⟨rfl, hphase (.inl h.2)⟩
  | terminate =>
      show Stopping (s.signal s.os.terminate)
      rw [h.2, hsignal h.1]
      exact ⟨rfl, hphase (.inr h.2)⟩
  | quit =>
      show Stopping (if s.phase = .looping then { s with keepRunning := false } else s)
      rw [if_pos (show s.phase = .looping from h)]
      refine ⟨rfl, ?_⟩
      show s.phase.begun = true
      rw [show s.phase = .looping from h]
      rfl

/-! ### The exit code -/

/-- Some step of the run has asked for the end. -/
def Asked (os : Surroundings) (steps : List ProgramStep) : Prop :=
  ∃ before step after, steps = before ++ step :: after ∧ Asks (run launch os before) step

/-- The program is on its way out, or has gone, as it should. -/
def Succeeding (s : Program) : Prop := s.phase = .unwinding 0 ∨ s.phase = .exited 0

theorem proceed_asked (succeeds : Bool) (h : (s.proceed launch succeeds).keepRunning = false) :
    s.keepRunning = false := by
  unfold Program.proceed at h
  split at h
  all_goals grind [constructed]

/-- Only what asks for the end takes the permission to go on away. -/
theorem step_asked (step : ProgramStep) (h : (s.step launch step).keepRunning = false) :
    s.keepRunning = false ∨ Asks s step := by
  have hsignal {disposition : Disposition} (h : (s.signal disposition).keepRunning = false) :
      s.keepRunning = false ∨ s.phase.alive = true ∧ disposition = .handleSignal := by
    unfold signal at h
    split at h
    · exact .inl h
    · rename_i halive
      cases disposition with
      | default => exact .inl h
      | ignore => exact .inl h
      | handleSignal => exact .inr ⟨by simpa using halive, rfl⟩
  cases step with
  | proceed succeeds => exact .inl (proceed_asked launch succeeds h)
  | interrupt => exact hsignal h
  | terminate => exact hsignal h
  | quit =>
      by_cases hlooping : s.phase = .looping
      · exact .inr hlooping
      · have hsame : s.step launch .quit = s := if_neg hlooping
        rw [hsame] at h
        exact .inl h

theorem signal_rounds (disposition : Disposition) : (s.signal disposition).rounds = s.rounds := by
  unfold signal
  split
  · rfl
  · cases disposition <;> rfl

theorem rounds_of_asks {step : ProgramStep} (h : Asks s step) : (s.step launch step).rounds = s.rounds := by
  cases step with
  | proceed succeeds => exact h.elim
  | interrupt => exact signal_rounds _
  | terminate => exact signal_rounds _
  | quit =>
      have hstep : s.step launch .quit = { s with keepRunning := false } := if_pos h
      rw [hstep]

theorem proceed_succeeding (hs : Succeeding s → s.keepRunning = false) (hhelp : launch.help = false) (succeeds : Bool)
    (h : Succeeding (s.proceed launch succeeds)) : (s.proceed launch succeeds).keepRunning = false := by
  unfold Program.proceed at h ⊢
  split at h
  all_goals grind [Succeeding, constructed]

theorem step_succeeding (hs : Succeeding s → s.keepRunning = false) (hhelp : launch.help = false) (step : ProgramStep)
    (h : Succeeding (s.step launch step)) : (s.step launch step).keepRunning = false := by
  have hsignal {disposition : Disposition} (h : Succeeding (s.signal disposition)) :
      (s.signal disposition).keepRunning = false := by
    unfold signal at h ⊢
    grind [Succeeding]
  cases step with
  | proceed succeeds => exact proceed_succeeding launch hs hhelp succeeds h
  | interrupt => exact hsignal h
  | terminate => exact hsignal h
  | quit =>
      by_cases hlooping : s.phase = .looping
      · have hstep : s.step launch .quit = { s with keepRunning := false } := if_pos hlooping
        rw [hstep]
      · have hsame : s.step launch .quit = s := if_neg hlooping
        rw [hsame] at h ⊢
        exact hs h

theorem run_succeeding (hhelp : launch.help = false) (os : Surroundings) (steps : List ProgramStep) :
    Succeeding (run launch os steps) → (run launch os steps).keepRunning = false := by
  induction steps using List.reverseRecOn with
  | nil => exact fun h => h.elim ProgramPhase.noConfusion ProgramPhase.noConfusion
  | append_singleton steps step ih =>
      rw [run, List.foldl_append]
      exact step_succeeding launch ih hhelp step

theorem run_asked (os : Surroundings) (steps : List ProgramStep)
    (h : (run launch os steps).keepRunning = false) : Asked launch os steps := by
  induction steps using List.reverseRecOn with
  | nil => cases h
  | append_singleton steps step ih =>
      rw [run, List.foldl_append] at h
      rcases step_asked launch step h with hbefore | hasks
      · obtain ⟨before, earlier, after, hsteps, hasks⟩ := ih hbefore
        refine ⟨before, earlier, after ++ [step], ?_, hasks⟩
        rw [hsteps, List.append_assoc, List.cons_append]
      · exact ⟨steps, step, [], rfl, hasks⟩

/-- In a process of its own, the program begins no round behind the first signal that it handles or the first
request of the operator, and has ended after 40 calls more, those that put something back among them; and it exits
with success only when it was asked to end, or for its help. -/
theorem run_stop_kept {os : Surroundings} (hfresh : Fresh os) (steps : List ProgramStep) :
    (∀ before step more, steps = before ++ step :: more → Asks (run launch os before) step →
      (run launch os steps).rounds = (run launch os before).rounds ∧
      (39 < more.countP ProgramStep.isCall → (run launch os steps).phase.alive = false)) ∧
    ((run launch os steps).phase = .exited 0 → launch.help = true ∨ Asked launch os steps) := by
  refine ⟨fun before step more hsteps hasks => ?_, fun hexited => ?_⟩
  · have hstopping := asked_stopping launch hfresh before hasks
    have hrun : run launch os steps = more.foldl (Program.step launch) (run launch os (before ++ [step])) := by
      rw [hsteps, ← List.singleton_append, ← List.append_assoc, run, List.foldl_append]
      rfl
    have hrounds : (run launch os (before ++ [step])).rounds = (run launch os before).rounds := by
      rw [run, List.foldl_append]
      exact rounds_of_asks launch hasks
    obtain ⟨hrest, heffort⟩ := stopping_run launch hstopping more
    rw [hrun]
    refine ⟨hrest.trans hrounds, fun hcalls => ?_⟩
    rw [← Bool.not_eq_true]
    intro halive
    have hbound := (effort_run launch os (before ++ [step])).resolve_left fun h => by
      have hbegun := hstopping.2
      rw [h.1] at hbegun
      cases hbegun
    have hspent := heffort halive
    omega
  · cases hhelp : launch.help with
    | true => exact .inl rfl
    | false => exact .inr (run_asked launch os steps (run_succeeding launch hhelp os steps (.inr hexited)))

/-- The interrupted session stays with its two rounds, and leaves with success. -/
theorem run_stop_kept_shell :
    (run session shell (interrupted 7)).rounds = 2 ∧ (run session shell (interrupted 7)).phase = .exited 0 ∧
      Asked session shell (interrupted 7) := by
  have hfresh : Fresh shell := ⟨by decide, by decide, rfl⟩
  have hkept := run_stop_kept session hfresh (interrupted 7)
  have hrounds := (hkept.1 (List.replicate 21 (.proceed true)) .interrupt (List.replicate 7 (.proceed true)) rfl
    ⟨by decide +kernel, by decide +kernel⟩).1
  have hexited : (run session shell (interrupted 7)).phase = .exited 0 := by decide +kernel
  exact ⟨hrounds.trans (by decide +kernel), hexited, (hkept.2 hexited).resolve_left Bool.false_ne_true⟩

end Program

end OnboardAutonomy
