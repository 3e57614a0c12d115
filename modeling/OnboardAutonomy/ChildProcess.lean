import OnboardAutonomy.Ownership

/-! The end of a camera process. `stop_camera_child` signals the child until it has ended and reaps it; both
capture workers call it, once for each child that they fork. The function is followed from call to call: what
a call gets from the system is the argument of a step, and an answer to a call that is not being made leaves
everything as it is. -/

namespace OnboardAutonomy

open Ownership

inductive CameraSignal where
  | interrupt
  | terminate
  | kill
  deriving DecidableEq

/-- What `waitpid` reports of a child. -/
inductive WaitResult where
  | running
  | exited (status : Int)
  | interrupted
  | gone

/-- What the system gives: the result of a `waitpid`, a reading of the clock in nanoseconds, or whether a
`kill` succeeded. -/
inductive StopAnswer where
  | wait (result : WaitResult)
  | clock (now : Int)
  | kill (delivered : Bool)

/-- A call that names the PID of the child. -/
inductive ChildCall where
  | wait (result : WaitResult)
  | kill (signal : CameraSignal) (delivered : Bool)

/-- The call that `stop_camera_child` makes next. The signals that it has yet to send before it gives up
waiting are kept with it. -/
inductive StopStage where
  | checking
  | signalling (signal : CameraSignal) (later : List CameraSignal)
  | timing (later : List CameraSignal)
  | waiting (deadline : Int) (later : List CameraSignal)
  | polling (deadline : Int) (later : List CameraSignal)
  | killing
  | reaping
  | returned
  deriving DecidableEq

def kSignalGracePeriod : Int := 250 * 1000000

/-- `camera_child_exited`, with the status that it leaves. -/
def cameraChildExited (status : Int) : WaitResult → Bool × Int
  | .exited reaped => (true, reaped)
  | .gone => (true, status)
  | .running => (false, status)
  | .interrupted => (false, status)

/-- The head of the loop over the signals. -/
def nextSignal : List CameraSignal → StopStage
  | [] => .killing
  | signal :: later => .signalling signal later

structure ChildStop where
  stage : StopStage := .checking
  status : Int := 0
  calls : List ChildCall := []

namespace ChildStop

/-- A check of the child, which returns when it has ended. -/
def poll (s : ChildStop) (result : WaitResult) (next : StopStage) : ChildStop :=
  let (exited, status) := cameraChildExited s.status result
  { stage := if exited then .returned else next
    status := status
    calls := s.calls ++ [.wait result] }

/-- The loop behind the last signal. Its `waitpid` blocks while the child is running. -/
def reap (s : ChildStop) : WaitResult → ChildStop
  | .running => s
  | .interrupted => { s with calls := s.calls ++ [.wait .interrupted] }
  | .exited status =>
      { stage := .returned
        status := status
        calls := s.calls ++ [.wait (.exited status)] }
  | .gone =>
      { s with
        stage := .returned
        calls := s.calls ++ [.wait .gone] }

def step (s : ChildStop) (answer : StopAnswer) : ChildStop :=
  match s.stage, answer with
  | .checking, .wait result => s.poll result (nextSignal [.interrupt, .terminate])
  | .signalling signal later, .kill delivered =>
      { s with
        stage := .timing later
        calls := s.calls ++ [.kill signal delivered] }
  | .timing later, .clock now => { s with stage := .waiting (now + kSignalGracePeriod) later }
  | .waiting deadline later, .clock now =>
      { s with stage := if now < deadline then .polling deadline later else nextSignal later }
  | .polling deadline later, .wait result => s.poll result (.waiting deadline later)
  | .killing, .kill delivered =>
      { s with
        stage := .reaping
        calls := s.calls ++ [.kill .kill delivered] }
  | .reaping, .wait result => s.reap result
  | _, _ => s

def run (answers : List StopAnswer) : ChildStop := answers.foldl step {}

end ChildStop

/-! ### What a stage has left to do -/

namespace WaitResult

/-- The PID is not the worker's any more. -/
def ended : WaitResult → Bool
  | .exited _ => true
  | .gone => true
  | .running => false
  | .interrupted => false

end WaitResult

namespace ChildCall

def ended : ChildCall → Bool
  | .wait result => result.ended
  | .kill _ _ => false

def signal? : ChildCall → Option CameraSignal
  | .wait _ => none
  | .kill signal _ => some signal

variable {ρ : Type}

/-- A call is the release of the PID if it finds the child ended. -/
def event (child : ρ) (call : ChildCall) : Event ρ := if call.ended then .release child else .use child

variable [DecidableEq ρ]

theorem count_acquire (child : ρ) (calls : List ChildCall) :
    (calls.map (event child)).count (.acquire child) = 0 := by
  rw [List.count_eq_zero, List.mem_map]
  rintro ⟨call, -, h⟩
  rw [event] at h
  split at h <;> cases h

theorem count_release (child : ρ) (calls : List ChildCall) :
    (calls.map (event child)).count (.release child) = calls.countP ended := by
  rw [List.count, List.countP_map]
  refine List.countP_congr fun call _ => ?_
  rw [Function.comp_apply, event]
  split
  · next h => simp [h]
  · next h => simp [h]

end ChildCall

namespace StopStage

/-- The signals that are not sent yet. -/
def unsent : StopStage → List CameraSignal
  | .checking => [.interrupt, .terminate, .kill]
  | .signalling signal later => signal :: (later ++ [.kill])
  | .timing later => later ++ [.kill]
  | .waiting _ later => later ++ [.kill]
  | .polling _ later => later ++ [.kill]
  | .killing => [.kill]
  | .reaping => []
  | .returned => []

theorem nextSignal_unsent (later : List CameraSignal) : (nextSignal later).unsent = later ++ [.kill] := by
  cases later <;> rfl

variable {ρ : Type}

/-- The PID that the worker still owns. -/
def owner (child : ρ) (stage : StopStage) : Option ρ := if stage = .returned then none else some child

theorem owner_of_ne {child : ρ} {stage : StopStage} (h : stage ≠ .returned) : stage.owner child = some child :=
  if_neg h

theorem nextSignal_ne (later : List CameraSignal) : nextSignal later ≠ .returned := by
  cases later <;> exact StopStage.noConfusion

end StopStage

/-! ### One step -/

namespace ChildStop

/-- What a step does: it makes no call, it sends the first unsent signal, it waits in vain, or it finds the
child ended and returns. -/
inductive Advance (s s' : ChildStop) : Prop where
  | silent (calls : s'.calls = s.calls) (unsent : s'.stage.unsent = s.stage.unsent)
      (returned : s'.stage = .returned ↔ s.stage = .returned)
  | sent (signal : CameraSignal) (delivered : Bool) (calls : s'.calls = s.calls ++ [.kill signal delivered])
      (unsent : s.stage.unsent = signal :: s'.stage.unsent) (before : s.stage ≠ .returned)
      (after : s'.stage ≠ .returned)
  | waited (result : WaitResult) (ended : result.ended = false) (calls : s'.calls = s.calls ++ [.wait result])
      (unsent : s'.stage.unsent = s.stage.unsent) (before : s.stage ≠ .returned)
      (after : s'.stage ≠ .returned)
  | ended (result : WaitResult) (ended : result.ended = true) (calls : s'.calls = s.calls ++ [.wait result])
      (before : s.stage ≠ .returned) (after : s'.stage = .returned)

theorem advance_refl (s : ChildStop) : s.Advance s := .silent rfl rfl Iff.rfl

variable {s : ChildStop}

theorem poll_stage (s : ChildStop) (result : WaitResult) (next : StopStage) :
    (s.poll result next).stage = if result.ended then .returned else next := by
  cases result <;> rfl

theorem advance_poll {next : StopStage} (hbefore : s.stage ≠ .returned) (hnext : next ≠ .returned)
    (hunsent : next.unsent = s.stage.unsent) (result : WaitResult) : s.Advance (s.poll result next) := by
  have hstage := s.poll_stage result next
  cases hended : result.ended with
  | true =>
      rw [if_pos hended] at hstage
      exact .ended result hended rfl hbefore hstage
  | false =>
      rw [if_neg (Bool.not_eq_true _ ▸ hended)] at hstage
      exact .waited result hended rfl (by rw [hstage, hunsent]) hbefore (by rwa [hstage])

theorem advance_reap (hstage : s.stage = .reaping) (result : WaitResult) : s.Advance (s.reap result) := by
  have hbefore : s.stage ≠ .returned := by
    rw [hstage]
    exact StopStage.noConfusion
  cases result with
  | running => exact s.advance_refl
  | interrupted => exact .waited .interrupted rfl rfl rfl hbefore hbefore
  | exited status => exact .ended (.exited status) rfl rfl hbefore rfl
  | gone => exact .ended .gone rfl rfl hbefore rfl

theorem step_advance (s : ChildStop) (answer : StopAnswer) : s.Advance (s.step answer) := by
  have hbefore {stage : StopStage} (hstage : s.stage = stage) (hne : stage ≠ .returned) :
      s.stage ≠ .returned := hstage ▸ hne
  unfold step
  split
  case h_1 result hstage =>
    exact advance_poll (hbefore hstage (by decide)) (StopStage.nextSignal_ne _) (by rw [hstage]; rfl) result
  case h_2 signal later delivered hstage =>
    exact .sent signal delivered rfl (by rw [hstage]; rfl) (hbefore hstage StopStage.noConfusion)
      StopStage.noConfusion
  case h_3 later now hstage =>
    have hne := hbefore hstage StopStage.noConfusion
    exact .silent rfl (by rw [hstage]; rfl) ⟨StopStage.noConfusion, fun h => absurd h hne⟩
  case h_4 deadline later now hstage =>
    have hne := hbefore hstage StopStage.noConfusion
    split
    · exact .silent rfl (by rw [hstage]; rfl) ⟨StopStage.noConfusion, fun h => absurd h hne⟩
    · refine .silent rfl ?_ ⟨fun h => absurd h (StopStage.nextSignal_ne later), fun h => absurd h hne⟩
      rw [hstage, StopStage.nextSignal_unsent]
      rfl
  case h_5 deadline later result hstage =>
    have hne := hbefore hstage StopStage.noConfusion
    exact advance_poll hne StopStage.noConfusion (by rw [hstage]; rfl) result
  case h_6 delivered hstage =>
    exact .sent .kill delivered rfl (by rw [hstage]; rfl) (hbefore hstage StopStage.noConfusion)
      StopStage.noConfusion
  case h_7 result hstage => exact advance_reap hstage result
  case h_8 => exact s.advance_refl

/-! ### A run -/

def signals (s : ChildStop) : List CameraSignal := s.calls.filterMap ChildCall.signal?

/-- What a worker has done with the PID of its child while it stops it. -/
def events {ρ : Type} (s : ChildStop) (child : ρ) : List (Event ρ) := s.calls.map (ChildCall.event child)

/-- The signals go out in order, and the PID is the worker's until the function returns. -/
structure Sound (s : ChildStop) : Prop where
  ordered : s.signals <+: [.interrupt, .terminate, .kill]
  pending : s.stage ≠ .returned → s.signals ++ s.stage.unsent = [.interrupt, .terminate, .kill]
  owned : ∀ {ρ : Type} (child : ρ), Exclusive (some child) (s.events child) (s.stage.owner child)

theorem sound_initial : Sound {} where
  ordered := List.nil_prefix
  pending := fun _ => rfl
  owned := fun child => .nil (some child)

theorem events_concat {s s' : ChildStop} {call : ChildCall} (hcalls : s'.calls = s.calls ++ [call]) {ρ : Type}
    (child : ρ) : s'.events child = s.events child ++ [call.event child] := by
  rw [events, hcalls, List.map_append, List.map_singleton]
  rfl

theorem signals_concat {s s' : ChildStop} {call : ChildCall} (hcalls : s'.calls = s.calls ++ [call]) :
    s'.signals = s.signals ++ call.signal?.toList := by
  rw [signals, hcalls, List.filterMap_append]
  cases call <;> rfl

theorem sound_advance {s s' : ChildStop} (h : s.Advance s') (hsound : s.Sound) : s'.Sound := by
  cases h with
  | silent hcalls hunsent hreturned =>
      have hsame : s'.signals = s.signals := by rw [signals, hcalls, signals]
      refine ⟨?_, fun hne => ?_, fun child => ?_⟩
      · rw [hsame]
        exact hsound.ordered
      · rw [hsame, hunsent]
        exact hsound.pending fun h => hne (hreturned.mpr h)
      · have howner : s'.stage.owner child = s.stage.owner child := if_congr hreturned rfl rfl
        rw [events, hcalls, howner]
        exact hsound.owned child
  | sent signal delivered hcalls hunsent hbefore hafter =>
      have hpending := hsound.pending hbefore
      rw [hunsent, List.append_cons] at hpending
      have hsent := signals_concat hcalls
      rw [ChildCall.signal?, Option.toList_some] at hsent
      refine ⟨?_, fun _ => ?_, fun child => ?_⟩
      · rw [hsent, ← hpending]
        exact List.prefix_append _ _
      · rw [hsent]
        exact hpending
      · have howned := hsound.owned child
        rw [StopStage.owner_of_ne hbefore] at howned
        rw [events_concat hcalls, StopStage.owner_of_ne hafter]
        exact howned.append (.use (.nil _))
  | waited result hended hcalls hunsent hbefore hafter =>
      have hsame := signals_concat hcalls
      rw [ChildCall.signal?, Option.toList_none, List.append_nil] at hsame
      refine ⟨?_, fun _ => ?_, fun child => ?_⟩
      · rw [hsame]
        exact hsound.ordered
      · rw [hsame, hunsent]
        exact hsound.pending hbefore
      · have howned := hsound.owned child
        rw [StopStage.owner_of_ne hbefore] at howned
        have hevent : (ChildCall.wait result).event child = .use child :=
          if_neg (by simp [ChildCall.ended, hended])
        rw [events_concat hcalls, StopStage.owner_of_ne hafter, hevent]
        exact howned.append (.use (.nil _))
  | ended result hended hcalls hbefore hafter =>
      have hsame := signals_concat hcalls
      rw [ChildCall.signal?, Option.toList_none, List.append_nil] at hsame
      refine ⟨?_, fun hne => absurd hafter hne, fun child => ?_⟩
      · rw [hsame]
        exact hsound.ordered
      · have howned := hsound.owned child
        rw [StopStage.owner_of_ne hbefore] at howned
        have hevent : (ChildCall.wait result).event child = .release child := if_pos hended
        rw [events_concat hcalls, hafter, hevent]
        exact howned.append (.release (.nil none))

theorem sound_run (answers : List StopAnswer) : (run answers).Sound :=
  List.foldlRecOn answers step sound_initial fun s hs answer _ => sound_advance (s.step_advance answer) hs

/-- The child is found ended once, and then the function returns. -/
theorem Sound.count_ended {s : ChildStop} (h : s.Sound) :
    s.calls.countP ChildCall.ended = if s.stage = .returned then 1 else 0 := by
  have hcount := (h.owned ()).count_eq ()
  rw [events, ChildCall.count_acquire, ChildCall.count_release] at hcount
  rw [StopStage.owner] at hcount
  split
  · next hreturned =>
      rw [if_pos hreturned] at hcount
      simpa using hcount.symm
  · next hne =>
      rw [if_neg hne] at hcount
      simpa using hcount.symm

/-- Before a call the child has not been found ended. -/
theorem Sound.count_ended_before {s : ChildStop} (h : s.Sound) {before after : List ChildCall}
    {call : ChildCall} (hcalls : s.calls = before ++ call :: after) : before.countP ChildCall.ended = 0 := by
  have howned := h.owned ()
  rw [events, hcalls, List.map_append, List.map_cons] at howned
  have hbefore : Exclusive (some ()) (before.map (ChildCall.event ())) (some ()) := by
    rw [ChildCall.event] at howned
    split at howned
    · exact howned.released
    · exact howned.used
  have hcount := hbefore.count_eq ()
  rw [ChildCall.count_acquire, ChildCall.count_release] at hcount
  omega

end ChildStop

/-! ### The worker -/

/-- A capture worker with the children that it has stopped and the one that it owns. -/
structure ChildWorker (ρ : Type) where
  stopped : List (ρ × ChildStop) := []
  child : Option (ρ × ChildStop) := none

inductive ChildWorkerStep (ρ : Type) where
  | fork (child : ρ)
  | answer (answer : StopAnswer)

namespace ChildWorker

variable {ρ : Type}

/-- `run_once` forks a child and stops it before it returns. -/
def step (w : ChildWorker ρ) : ChildWorkerStep ρ → ChildWorker ρ
  | .fork child =>
      match w.child with
      | none => { w with child := some (child, {}) }
      | some _ => w
  | .answer answer =>
      match w.child with
      | none => w
      | some (child, stop) =>
          let stop := stop.step answer
          if stop.stage = .returned then
            { stopped := w.stopped ++ [(child, stop)]
              child := none }
          else { w with child := some (child, stop) }

def run (steps : List (ChildWorkerStep ρ)) : ChildWorker ρ := steps.foldl step {}

/-- A child from its `fork` on. -/
def childTrace (child : ρ × ChildStop) : List (Event ρ) := .acquire child.1 :: child.2.events child.1

def trace (w : ChildWorker ρ) : List (Event ρ) := (w.stopped ++ w.child.toList).flatMap childTrace

/-- Every stopped child was waited for to its end, and the worker owns the PID of the last one at most. -/
structure Owns (w : ChildWorker ρ) : Prop where
  stopped : Exclusive none (w.stopped.flatMap childTrace) none
  child : ∀ child stop, w.child = some (child, stop) → stop.Sound ∧ stop.stage ≠ .returned

theorem owns_step {w : ChildWorker ρ} (h : w.Owns) (step : ChildWorkerStep ρ) : (w.step step).Owns := by
  cases step with
  | fork child =>
      rw [ChildWorker.step]
      split
      · refine ⟨h.stopped, fun child' stop hchild => ?_⟩
        cases hchild
        exact ⟨ChildStop.sound_initial, StopStage.noConfusion⟩
      · exact h
  | answer answer =>
      rw [ChildWorker.step]
      split
      · exact h
      · next child stop hchild =>
          obtain ⟨hsound, -⟩ := h.child child stop hchild
          have hsound := ChildStop.sound_advance (stop.step_advance answer) hsound
          dsimp only
          split
          · next hreturned =>
              refine ⟨?_, fun _ _ hnone => absurd hnone (Option.some_ne_none _).symm⟩
              have howned := hsound.owned child
              rw [hreturned] at howned
              rw [List.flatMap_append, List.flatMap_singleton]
              exact h.stopped.append (.acquire howned)
          · next hne =>
              refine ⟨h.stopped, fun child' stop' hchild' => ?_⟩
              cases hchild'
              exact ⟨hsound, hne⟩

theorem owns_initial : Owns ({} : ChildWorker ρ) where
  stopped := .nil none
  child := fun _ _ hnone => absurd hnone (Option.some_ne_none _).symm

theorem owns_run (steps : List (ChildWorkerStep ρ)) : (run steps).Owns :=
  List.foldlRecOn steps step owns_initial fun _ hw step _ => owns_step hw step

theorem Owns.exclusive {w : ChildWorker ρ} (h : w.Owns) : Exclusive none w.trace (w.child.map Prod.fst) := by
  rw [trace, List.flatMap_append]
  refine h.stopped.append ?_
  cases hchild : w.child with
  | none => exact .nil none
  | some child =>
      obtain ⟨hsound, hne⟩ := h.child child.1 child.2 hchild
      have howned := hsound.owned child.1
      rw [StopStage.owner_of_ne hne] at howned
      rw [Option.toList_some, List.flatMap_singleton]
      exact .acquire howned

end ChildWorker

/-- Whatever the system answers, `stop_camera_child` sends its signals in their order and each once at most,
makes no call on the PID once a `waitpid` has found the child ended, and returns only then. A worker that
calls it for every child signals and waits for its own child only, has one at a time, and reaps each. -/
theorem stopCameraChild_reaps (answers : List StopAnswer) {ρ : Type} [DecidableEq ρ]
    (steps : List (ChildWorkerStep ρ)) :
    (∀ before call after, (ChildStop.run answers).calls = before ++ call :: after →
      before.countP ChildCall.ended = 0) ∧
    (ChildStop.run answers).signals <+: [.interrupt, .terminate, .kill] ∧
    (ChildStop.run answers).calls.countP ChildCall.ended =
      (if (ChildStop.run answers).stage = .returned then 1 else 0) ∧
    Disciplined (ChildWorker.run steps).trace ∧
    ∀ child, (ChildWorker.run steps).trace.count (.acquire child) =
      (ChildWorker.run steps).trace.count (.release child) +
        ((ChildWorker.run steps).child.map Prod.fst).toList.count child := by
  have hsound := ChildStop.sound_run answers
  have hexclusive := (ChildWorker.owns_run steps).exclusive
  exact ⟨fun _ _ _ hcalls => hsound.count_ended_before hcalls, hsound.ordered, hsound.count_ended,
    hexclusive.disciplined, fun child => hexclusive.count_eq child⟩

end OnboardAutonomy
