import OnboardAutonomy.CaptureFailures

/-! The end of the GStreamer source. Once a stop is requested its worker does at most one more thing that can
be seen from outside: it publishes the frame that it has, begins the attempt that it has decided on, or counts
the restart that it has decided on. It stops for no other reason, and leaves no pipe and no thread behind. -/

namespace OnboardAutonomy

/-- What the worker may still do when a stop is requested in this phase. -/
def GStreamerPhase.allowance : GStreamerPhase → Nat
  | .preparing => 1
  | .reading _ => 1
  | .publishing _ => 1
  | .recovering => 1
  | _ => 0

namespace GStreamerCapture

/-- The attempts, the frames and the restarts so far. -/
def effort (r : GStreamerCapture × List GStreamerEvent) : Nat :=
  r.1.attempt + (frames r.2).length + r.1.source.status.restartCount

/-- The worker ends only when it is asked to, and then it has nothing open. -/
structure Ended (c : GStreamerCapture) : Prop where
  asked : c.phase = .ending ∨ c.phase = .stopped → c.stopRequested = true
  status : c.source.status.phase = .stopped ↔ c.phase = .stopped

theorem ended_start (config : GStreamerCameraConfig) : Ended (start config) where
  asked h := by rcases h with h | h <;> cases h
  status := ⟨fun h => (by cases h), fun h => (by cases h)⟩

section Steps

variable {c d : GStreamerCapture} {log events : List GStreamerEvent}

theorem Turn.asked {phase phase' : GStreamerPhase} (h : Turn c phase phase' events) :
    (phase' = .ending → phase = .ending ∨ c.stopRequested = true) ∧
      (phase' = .stopped ↔ phase = .stopped) := by
  cases h with
  | stay => exact ⟨fun hd => .inl hd, Iff.rfl⟩
  | leave hstopping => exact ⟨fun _ => .inr hstopping, ⟨fun hd => (by cases hd), fun hd => (by cases hd)⟩⟩
  | leaveAttempt hstopping => exact ⟨fun _ => .inr hstopping, ⟨fun hd => (by cases hd), fun hd => (by cases hd)⟩⟩
  | leaveWait deadline hstopping =>
      exact ⟨fun _ => .inr hstopping, ⟨fun hd => (by cases hd), fun hd => (by cases hd)⟩⟩
  | _ => exact ⟨fun hd => (by cases hd), ⟨fun hd => (by cases hd), fun hd => (by cases hd)⟩⟩

/-- A step that goes on with the attempts. -/
theorem Ended.goesOn (h : Ended c) (hbefore : c.phase ≠ .stopped) (hending : d.phase ≠ .ending)
    (hstopped : d.phase ≠ .stopped)
    (hstatus : d.source.status.phase = c.source.status.phase ∨ d.source.status.phase ≠ .stopped) : Ended d := by
  refine ⟨fun hd => (hd.elim hending hstopped).elim, ⟨fun hd => ?_, fun hd => absurd hd hstopped⟩⟩
  rcases hstatus with hsame | hother
  · exact absurd (h.status.mp (hsame ▸ hd)) hbefore
  · exact absurd hd hother

theorem Ended.worker (h : Ended c) (hmove : WorkerMove c d events) : Ended d := by
  cases hmove with
  | @turn phase events hturn =>
      obtain ⟨hasked, hstopped⟩ := hturn.asked
      refine ⟨fun hd => ?_, h.status.trans hstopped.symm⟩
      rcases hd with hd | hd
      · rcases hasked hd with hbefore | hstopping
        · exact h.asked (.inl hbefore)
        · exact hstopping
      · exact h.asked (.inr (hstopped.mp hd))
  | prepare hphase =>
      exact h.goesOn (by rw [hphase]; exact GStreamerPhase.noConfusion) GStreamerPhase.noConfusion
        GStreamerPhase.noConfusion (.inl rfl)
  | launch hphase =>
      exact h.goesOn (by rw [hphase]; exact GStreamerPhase.noConfusion) GStreamerPhase.noConfusion
        GStreamerPhase.noConfusion (.inl rfl)
  | fail failure hphase =>
      refine h.goesOn ?_ GStreamerPhase.noConfusion GStreamerPhase.noConfusion
        (.inr CameraSourcePhase.noConfusion)
      rcases hphase with ⟨hphase, -⟩ | ⟨result, status, hphase, -⟩ <;> rw [hphase] <;>
        exact GStreamerPhase.noConfusion
  | read r pipe bytes rest now hphase =>
      exact h.goesOn (by rw [hphase]; exact GStreamerPhase.noConfusion) GStreamerPhase.noConfusion
        GStreamerPhase.noConfusion (.inl rfl)
  | publish yuv420 receivedAt hphase =>
      exact h.goesOn (by rw [hphase]; exact GStreamerPhase.noConfusion) GStreamerPhase.noConfusion
        GStreamerPhase.noConfusion (.inr CameraSourcePhase.noConfusion)
  | reap result stop status hphase =>
      exact h.goesOn (by rw [hphase]; exact GStreamerPhase.noConfusion) GStreamerPhase.noConfusion
        GStreamerPhase.noConfusion (.inl rfl)
  | recover hphase =>
      exact h.goesOn (by rw [hphase]; exact GStreamerPhase.noConfusion) GStreamerPhase.noConfusion
        GStreamerPhase.noConfusion (.inr CameraSourcePhase.noConfusion)
  | finish hphase => exact ⟨fun _ => h.asked (.inl hphase), ⟨fun _ => rfl, fun _ => rfl⟩⟩

/-- What the other threads and the process leave alone. -/
structure Apart (c d : GStreamerCapture) : Prop where
  phase : d.phase = c.phase
  attempt : d.attempt = c.attempt
  status : d.source.status = c.source.status
  stop : c.stopRequested = true → d.stopRequested = true

theorem readErrors_status (c : GStreamerCapture) (count : Nat) :
    (c.readErrors count).source.status = c.source.status ∧
      (c.readErrors count).stopRequested = c.stopRequested := by
  unfold GStreamerCapture.readErrors
  split
  · exact ⟨rfl, rfl⟩
  · split
    · exact ⟨rfl, rfl⟩
    · exact ⟨noteLines_status _ _, rfl⟩

theorem endErrors_status (c : GStreamerCapture) :
    c.endErrors.source.status = c.source.status ∧ c.endErrors.stopRequested = c.stopRequested := by
  unfold GStreamerCapture.endErrors
  split
  · exact ⟨rfl, rfl⟩
  · exact ⟨noteLines_status _ _, rfl⟩

/-- Every step is one of the worker or apart from it. -/
theorem step_apart (c : GStreamerCapture) (step : GStreamerStep) :
    (∃ answer, step = .worker answer) ∨
      (Apart c (c.step step) ∧ ∀ log, frames (log ++ c.events step) = frames log) := by
  have hnone : ∀ log, frames (log ++ []) = frames log := fun log => by rw [List.append_nil]
  have hended : Apart c c.endErrors :=
    ⟨c.endErrors_keeps.2.2.2.1, c.endErrors_keeps.2.2.1, c.endErrors_status.1,
      fun hstop => c.endErrors_status.2.trans hstop⟩
  cases step with
  | worker answer => exact .inl ⟨answer, rfl⟩
  | childWrites bytes =>
      refine .inr ⟨⟨rfl, rfl, rfl, id⟩, fun log => frames_eq_of_unpublished fun event hmem => ?_⟩
      rw [GStreamerCapture.events] at hmem
      split at hmem
      · split at hmem
        · exact absurd hmem List.not_mem_nil
        · rw [List.mem_singleton.mp hmem]
          rfl
      · exact absurd hmem List.not_mem_nil
  | errorBytes count =>
      refine .inr ⟨⟨(c.readErrors_keeps count).2.2.2.1, (c.readErrors_keeps count).2.2.1,
        (c.readErrors_status count).1, fun hstop => (c.readErrors_status count).2.trans hstop⟩,
        fun log => frames_eq_of_unpublished fun event hmem => ?_⟩
      rw [GStreamerCapture.events] at hmem
      split at hmem
      · rw [List.mem_singleton.mp hmem]
        rfl
      · exact absurd hmem List.not_mem_nil
  | errorEnd =>
      refine .inr ⟨?_, hnone⟩
      rw [GStreamerCapture.step]
      split
      · exact hended
      · exact ⟨rfl, rfl, rfl, id⟩
  | errorBroken => exact .inr ⟨hended, hnone⟩
  | requestStop => exact .inr ⟨⟨rfl, rfl, rfl, fun _ => rfl⟩, hnone⟩
  | _ => exact .inr ⟨⟨rfl, rfl, rfl, id⟩, hnone⟩

theorem Ended.apart (h : Ended c) (hd : Apart c d) : Ended d := by
  refine ⟨fun hphase => ?_, ?_⟩
  · rw [hd.phase] at hphase
    exact hd.stop (h.asked hphase)
  · rw [hd.status, hd.phase]
    exact h.status

theorem Ended.step (h : Ended c) (step : GStreamerStep) : Ended (c.step step) := by
  rcases c.step_apart step with ⟨answer, rfl⟩ | ⟨hapart, -⟩
  · exact h.worker (c.worker_move answer)
  · exact h.apart hapart

/-! ### What is left to do behind a stop request -/

theorem Turn.allowance_le {phase phase' : GStreamerPhase} (h : Turn c phase phase' events)
    (hstop : c.stopRequested = true) : phase'.allowance ≤ phase.allowance := by
  cases h with
  | again hgoing => exact absurd hstop (by rw [hgoing]; exact Bool.noConfusion)
  | beginFrame now hgoing => exact absurd hstop (by rw [hgoing]; exact Bool.noConfusion)
  | blame result status hgoing => exact absurd hstop (by rw [hgoing]; exact Bool.noConfusion)
  | retry hgoing => exact absurd hstop (by rw [hgoing]; exact Bool.noConfusion)
  | stay => exact le_rfl
  | filled => exact le_rfl
  | waited => exact le_rfl
  | _ => exact Nat.zero_le _

theorem Turn.frames_eq {phase phase' : GStreamerPhase} (h : Turn c phase phase' events)
    (log : List GStreamerEvent) : frames (log ++ events) = frames log :=
  frames_silent h.keeps.1

theorem effort_worker (hmove : WorkerMove c d events) (hstop : c.stopRequested = true) :
    effort (d, log ++ events) + d.phase.allowance ≤ effort (c, log) + c.phase.allowance := by
  cases hmove with
  | turn hturn =>
      have hle := hturn.allowance_le hstop
      unfold effort
      rw [hturn.frames_eq]
      exact Nat.add_le_add_left hle _
  | prepare hphase =>
      unfold effort
      rw [List.append_nil, hphase]
      show c.attempt + 1 + (frames log).length + c.source.status.restartCount + 0 ≤
        c.attempt + (frames log).length + c.source.status.restartCount + 1
      omega
  | launch hphase =>
      unfold effort
      rw [List.append_nil]
      exact Nat.add_le_add_left (Nat.zero_le _) _
  | fail failure hphase =>
      unfold effort
      rw [frames_eq_of_unpublished fun event hmem => (by rw [List.mem_singleton.mp hmem]; rfl)]
      exact Nat.add_le_add_left (Nat.zero_le _) _
  | read r pipe bytes rest now hphase =>
      unfold effort
      rw [frames_eq_of_unpublished fun event hmem => (by rw [List.mem_singleton.mp hmem]; rfl), hphase]
      exact le_rfl
  | publish yuv420 receivedAt hphase =>
      unfold effort
      rw [frames, List.filterMap_append, List.length_append, hphase]
      show c.attempt + ((frames log).length + 1) + c.source.status.restartCount + 0 ≤
        c.attempt + (frames log).length + c.source.status.restartCount + 1
      omega
  | reap result stop status hphase =>
      unfold effort
      rw [List.append_nil]
      exact Nat.add_le_add_left (Nat.zero_le _) _
  | recover hphase =>
      unfold effort
      rw [List.append_nil, hphase]
      show c.attempt + (frames log).length + (c.source.status.restartCount + 1) + 0 ≤
        c.attempt + (frames log).length + c.source.status.restartCount + 1
      omega
  | finish hphase =>
      unfold effort
      rw [List.append_nil]
      exact Nat.add_le_add_left (Nat.zero_le _) _

theorem stop_worker (hmove : WorkerMove c d events) : d.stopRequested = c.stopRequested := by
  cases hmove <;> rfl

theorem stop_step (c : GStreamerCapture) (step : GStreamerStep) (hstop : c.stopRequested = true) :
    (c.step step).stopRequested = true := by
  rcases c.step_apart step with ⟨answer, rfl⟩ | ⟨hapart, -⟩
  · exact (stop_worker (c.worker_move answer)).trans hstop
  · exact hapart.stop hstop

/-- Behind a stop request every step uses up what it does. -/
theorem effort_advance (step : GStreamerStep) (hstop : c.stopRequested = true) :
    effort (advance (c, log) step) + (c.step step).phase.allowance ≤ effort (c, log) + c.phase.allowance := by
  rcases c.step_apart step with ⟨answer, rfl⟩ | ⟨hapart, hframes⟩
  · exact effort_worker (c.worker_move answer) hstop
  · unfold effort GStreamerCapture.advance
    rw [hframes, hapart.phase, hapart.attempt, hapart.status]

/-- Once it has stopped, a step changes nothing but what the owner does. -/
theorem stopped_step (h : c.phase = .stopped) (step : GStreamerStep) : Apart c (c.step step) := by
  rcases c.step_apart step with ⟨answer, rfl⟩ | ⟨hapart, -⟩
  · have hsame : c.step (.worker answer) = c := by
      rw [GStreamerCapture.step, GStreamerCapture.worker, h]
    rw [hsame]
    exact ⟨rfl, rfl, rfl, id⟩
  · exact hapart

end Steps

/-! ### Runs -/

theorem ended_run (config : GStreamerCameraConfig) (steps : List GStreamerStep) : Ended (run config steps).1 := by
  induction steps using List.reverseRecOn with
  | nil => exact ended_start config
  | append_singleton steps step ih =>
      rw [run, List.foldl_append]
      exact ih.step step

theorem effort_run {r : GStreamerCapture × List GStreamerEvent} (hstop : r.1.stopRequested = true)
    (steps : List GStreamerStep) :
    effort (steps.foldl advance r) + (steps.foldl advance r).1.phase.allowance ≤
      effort r + r.1.phase.allowance := by
  induction steps generalizing r with
  | nil => exact le_rfl
  | cons step steps ih =>
      rw [List.foldl_cons]
      calc effort (steps.foldl advance (advance r step)) +
            (steps.foldl advance (advance r step)).1.phase.allowance
          ≤ effort (advance r step) + (advance r step).1.phase.allowance := ih (r.1.stop_step step hstop)
        _ ≤ effort r + r.1.phase.allowance := effort_advance step hstop

theorem stopped_run {r : GStreamerCapture × List GStreamerEvent} (h : r.1.phase = .stopped)
    (steps : List GStreamerStep) : Apart r.1 (steps.foldl advance r).1 := by
  induction steps generalizing r with
  | nil => exact ⟨rfl, rfl, rfl, id⟩
  | cons step steps ih =>
      have hstep : Apart r.1 (advance r step).1 := stopped_step h step
      have hrest := ih (hstep.phase.trans h)
      exact ⟨hrest.phase.trans hstep.phase, hrest.attempt.trans hstep.attempt, hrest.status.trans hstep.status,
        fun hstop => hrest.stop (hstep.stop hstop)⟩

theorem allowance_le_one (phase : GStreamerPhase) : phase.allowance ≤ 1 := by
  cases phase <;> first | exact le_rfl | exact Nat.zero_le 1

/-- For every interleaving: behind a stop request the attempts, the frames and the restarts together grow by
one at most, for good. The status says stopped exactly when the worker has returned, which only a request
brings about; the pipes and the error reader are closed then, and the status stays as it is. -/
theorem run_stop_final (config : GStreamerCameraConfig) (steps more : List GStreamerStep) :
    effort (run config (steps ++ .requestStop :: more)) ≤ effort (run config steps) + 1 ∧
    ((run config steps).1.source.status.phase = .stopped ↔ (run config steps).1.phase = .stopped) ∧
    ((run config steps).1.phase = .stopped →
      (run config steps).1.stopRequested = true ∧ (run config steps).1.video = none ∧
      (run config steps).1.errors = none ∧
      (run config (steps ++ more)).1.source.status = (run config steps).1.source.status) := by
  refine ⟨?_, (ended_run config steps).status, fun hstopped => ⟨(ended_run config steps).asked (.inr hstopped), ?_,
    ?_, ?_⟩⟩
  · have hone := allowance_le_one (run config steps).1.phase
    have heffort : effort (advance (run config steps) .requestStop) = effort (run config steps) := by
      unfold effort GStreamerCapture.advance
      simp only [GStreamerCapture.events, List.append_nil, GStreamerCapture.step]
    have hrun := effort_run (r := advance (run config steps) .requestStop) rfl more
    rw [heffort] at hrun
    rw [run, List.foldl_append, List.foldl_cons]
    calc effort (more.foldl advance (advance (run config steps) .requestStop))
        ≤ effort (run config steps) + (advance (run config steps) .requestStop).1.phase.allowance :=
          le_trans (Nat.le_add_right _ _) hrun
      _ ≤ effort (run config steps) + 1 := Nat.add_le_add_left hone _
  · have hunpiped : (run config steps).1.phase.piped = false := by
      rw [hstopped]
      rfl
    exact (lossless_run config steps).no_pipe hunpiped
  · cases herrors : (run config steps).1.errors with
    | none => rfl
    | some e =>
        have hlistening := ((told_run config steps).listened.heard e herrors).2.1
        rw [hstopped] at hlistening
        cases hlistening
  · rw [run, List.foldl_append]
    exact (stopped_run hstopped more).status

end GStreamerCapture

end OnboardAutonomy
