import OnboardAutonomy.Pacing
import OnboardAutonomy.RunnerStop

/-! What the loop of the program shows. Snapshots are paced by their interval, and each is the one that the
application gives behind the polls before it; every sink gets them all, in the same order. A preview is the latest
frame of its camera, shown once. -/

namespace OnboardAutonomy

open Histories Pacing

namespace LoopEvent

/-- What the loop asks of the application. -/
def companion? : LoopEvent → Option CompanionEvent
  | polled cameraNow now messages => some (.poll cameraNow now messages)
  | published now _ _ _ _ _ => some (.snapshot now)
  | _ => none

/-- A reading of the clock that decides about a snapshot. -/
def reading? : LoopEvent → Option TimePoint
  | skipped now => some now
  | published now _ _ _ _ _ => some now
  | _ => none

def publishedAt? : LoopEvent → Option TimePoint
  | published now _ _ _ _ _ => some now
  | _ => none

/-- What a sink is given. -/
def shownTo? (sink : Nat) : LoopEvent → Option (AppSnapshot × Int)
  | published _ _ _ snapshot recordedAt sinks => if sink ∈ sinks then some (snapshot, recordedAt) else none
  | _ => none

def snapshot? : LoopEvent → Option (AppSnapshot × Int)
  | published _ _ _ snapshot recordedAt _ => some (snapshot, recordedAt)
  | _ => none

end LoopEvent

/-- What an event makes of the frame of a camera that waits for its preview. -/
def waitingStep (stream : CameraPreviewStream) (waiting : Option ProcessedCameraFrame) :
    LoopEvent → Option ProcessedCameraFrame
  | .processed camera frame => if camera = stream then some frame else waiting
  | .previewed camera _ _ => if camera = stream then none else waiting
  | _ => waiting

/-- The frame of a camera that waits for its preview. -/
def waitingFrame (stream : CameraPreviewStream) (log : List LoopEvent) : Option ProcessedCameraFrame :=
  log.foldl (waitingStep stream) none

theorem waitingFrame_concat (stream : CameraPreviewStream) (log : List LoopEvent) (event : LoopEvent) :
    waitingFrame stream (log ++ [event]) = waitingStep stream (waitingFrame stream log) event := by
  rw [waitingFrame, List.foldl_append]
  rfl

namespace RunnerLoop

variable {ω : Type} {port : OutboundPort ω} {r₀ r r' : RunnerLoop ω} {log events : List LoopEvent}

def readings (log : List LoopEvent) : List TimePoint := log.filterMap LoopEvent.reading?

def publishedTimes (log : List LoopEvent) : List TimePoint := log.filterMap LoopEvent.publishedAt?

/-- The application after what was asked of it. -/
def applicationAfter (port : OutboundPort ω) (r₀ : RunnerLoop ω) (log : List LoopEvent) : CompanionApplication ω :=
  CompanionApplication.run port r₀.application (log.filterMap LoopEvent.companion?)

/-- What is shown goes with what was before it. -/
def Shown (port : OutboundPort ω) (r₀ : RunnerLoop ω) (before : List LoopEvent) : LoopEvent → Prop
  | .published now camera vision snapshot _ _ =>
      snapshot = ((applicationAfter port r₀ before).snapshot now camera vision).2
  | .previewed stream frame _ => waitingFrame stream before = some frame
  | _ => True

/-- The loop keeps to its schedule. -/
structure Scheduled (port : OutboundPort ω) (r₀ : RunnerLoop ω) (s : RunnerLoop ω × List LoopEvent) : Prop where
  interval : s.1.snapshotInterval = r₀.snapshotInterval
  sinks : s.1.snapshotSinks = r₀.snapshotSinks
  application : s.1.application = applicationAfter port r₀ s.2
  downward : s.1.downwardFrame = waitingFrame .downward s.2
  forward : s.1.forwardFrame = waitingFrame .forward s.2
  paced : publishedTimes s.2 = pace r₀.snapshotInterval r₀.nextSnapshot (readings s.2)
  due : s.1.phase ≠ .thrown →
    s.1.nextSnapshot = dueAfter r₀.snapshotInterval r₀.nextSnapshot (readings s.2)
  shown : Justified (Shown port r₀) s.2
  served : s.1.phase ≠ .thrown → ∀ sink, some sink ∈ r₀.snapshotSinks →
    s.2.filterMap (LoopEvent.shownTo? sink) = s.2.filterMap LoopEvent.snapshot?

theorem scheduled_start (hdownward : r₀.downwardFrame = none) (hforward : r₀.forwardFrame = none) :
    Scheduled port r₀ (r₀, []) where
  interval := rfl
  sinks := rfl
  application := rfl
  downward := hdownward
  forward := hforward
  paced := rfl
  due _ := rfl
  shown := Justified.nil
  served _ _ _ := rfl

/-- What an event says of the time for the next snapshot. -/
inductive Timed (r r' : RunnerLoop ω) : LoopEvent → Prop where
  | untimed {event : LoopEvent} (reading : event.reading? = none) (published : event.publishedAt? = none)
      (shown : event.snapshot? = none ∧ ∀ sink, event.shownTo? sink = none)
      (next : r'.nextSnapshot = r.nextSnapshot) : Timed r r' event
  | early (now : TimePoint) (phase : r.phase ≠ .thrown) (early : now < r.nextSnapshot)
      (next : r'.nextSnapshot = r.nextSnapshot) : Timed r r' (.skipped now)
  | due (now : TimePoint) (camera : Option CameraSnapshot) (vision : Option VisionSnapshot) (snapshot : AppSnapshot)
      (recordedAt : Int) (sinks : List Nat) (phase : r.phase ≠ .thrown) (due : r.nextSnapshot ≤ now)
      (next : r'.phase ≠ .thrown → r'.nextSnapshot = now + r.snapshotInterval)
      (complete : r'.phase ≠ .thrown → ∀ sink, some sink ∈ r.snapshotSinks → sink ∈ sinks) :
      Timed r r' (.published now camera vision snapshot recordedAt sinks)

/-- An event that follows the schedule. -/
theorem Scheduled.concat (h : Scheduled port r₀ (r, log)) {event : LoopEvent}
    (hinterval : r'.snapshotInterval = r.snapshotInterval) (hsinks : r'.snapshotSinks = r.snapshotSinks)
    (happlication : r'.application = event.companion?.elim r.application (r.application.step port))
    (hdownward : r'.downwardFrame = waitingStep .downward r.downwardFrame event)
    (hforward : r'.forwardFrame = waitingStep .forward r.forwardFrame event)
    (hphase : r'.phase ≠ .thrown → r.phase ≠ .thrown) (htimed : Timed r r' event)
    (hshown : Shown port r₀ log event) : Scheduled port r₀ (r', log ++ [event]) := by
  have hafter : r'.application = applicationAfter port r₀ (log ++ [event]) := by
    have hbefore : r.application = applicationAfter port r₀ log := h.application
    rw [happlication, hbefore, applicationAfter, applicationAfter, List.filterMap_append, CompanionApplication.run,
      CompanionApplication.run, List.foldl_append]
    cases hcompanion : event.companion? with
    | none => rw [List.filterMap_cons_none hcompanion]; rfl
    | some call => rw [List.filterMap_cons_some hcompanion]; rfl
  have hinterval₀ : r.snapshotInterval = r₀.snapshotInterval := h.interval
  have hsinks₀ : r.snapshotSinks = r₀.snapshotSinks := h.sinks
  have hpaced : publishedTimes log = pace r₀.snapshotInterval r₀.nextSnapshot (readings log) := h.paced
  have hdue : r.phase ≠ .thrown → r.nextSnapshot = dueAfter r₀.snapshotInterval r₀.nextSnapshot (readings log) :=
    h.due
  have hserved : r.phase ≠ .thrown → ∀ sink, some sink ∈ r₀.snapshotSinks →
      log.filterMap (LoopEvent.shownTo? sink) = log.filterMap LoopEvent.snapshot? := h.served
  have hreadings : readings (log ++ [event]) = readings log ++ readings [event] := List.filterMap_append
  have htimes : publishedTimes (log ++ [event]) = publishedTimes log ++ publishedTimes [event] :=
    List.filterMap_append
  refine ⟨hinterval.trans hinterval₀, hsinks.trans hsinks₀, hafter, ?_, ?_, ?_, ?_, h.shown.concat hshown, ?_⟩
  · rw [waitingFrame_concat, ← show r.downwardFrame = _ from h.downward]
    exact hdownward
  · rw [waitingFrame_concat, ← show r.forwardFrame = _ from h.forward]
    exact hforward
  · show publishedTimes (log ++ [event]) = pace r₀.snapshotInterval r₀.nextSnapshot (readings (log ++ [event]))
    rw [hreadings, htimes, pace_append, hpaced]
    congr 1
    cases htimed with
    | untimed hreading hpublished =>
        have hnoReading : readings [event] = [] := List.filterMap_cons_none hreading
        have hnoTime : publishedTimes [event] = [] := List.filterMap_cons_none hpublished
        rw [hnoReading, hnoTime]
        rfl
    | early now hbefore hearly =>
        rw [hdue hbefore] at hearly
        exact (if_pos hearly).symm
    | due now camera vision snapshot recordedAt sinks hbefore hlate =>
        rw [hdue hbefore] at hlate
        exact (if_neg (not_lt.mpr hlate)).symm
  · intro hthrown
    show r'.nextSnapshot = dueAfter r₀.snapshotInterval r₀.nextSnapshot (readings (log ++ [event]))
    rw [hreadings, dueAfter_append, ← hdue (hphase hthrown)]
    cases htimed with
    | untimed hreading _ _ hnext =>
        rw [readings, List.filterMap_cons_none hreading]
        exact hnext
    | early now _ hearly hnext =>
        rw [hnext]
        exact (if_pos hearly).symm
    | due now camera vision snapshot recordedAt sinks _ hlate hnext =>
        rw [hnext hthrown, hinterval₀]
        exact (if_neg (not_lt.mpr hlate)).symm
  · intro hthrown sink hsink
    have hbefore := hserved (hphase hthrown) sink hsink
    show (log ++ [event]).filterMap _ = (log ++ [event]).filterMap _
    rw [List.filterMap_append, List.filterMap_append, hbefore]
    congr 1
    cases htimed with
    | untimed _ _ hnone =>
        rw [List.filterMap_cons_none hnone.1, List.filterMap_cons_none (hnone.2 sink)]
        rfl
    | early now => rfl
    | due now camera vision snapshot recordedAt sinks _ _ _ hcomplete =>
        have hmem := hcomplete hthrown sink (hsinks₀ ▸ hsink)
        have hshows : LoopEvent.shownTo? sink (.published now camera vision snapshot recordedAt sinks) =
            some (snapshot, recordedAt) := if_pos hmem
        rw [List.filterMap_cons_some hshows]
        rfl

/-- A step that only takes the loop to another point of the round. -/
theorem Scheduled.turn (h : Scheduled port r₀ (r, log)) {phase : LoopPhase}
    (hphase : phase ≠ .thrown → r.phase ≠ .thrown) :
    Scheduled port r₀ ({ r with phase := phase }, log ++ []) := by
  rw [List.append_nil]
  exact ⟨h.interval, h.sinks, h.application, h.downward, h.forward, h.paced, fun hd => h.due (hphase hd), h.shown,
    fun hd => h.served (hphase hd)⟩

theorem Scheduled.complain (h : Scheduled port r₀ (r, log)) :
    Scheduled port r₀ (r, log ++ r.complaints) := by
  unfold complaints
  cases r.forwardError with
  | none =>
      show Scheduled port r₀ (r, log ++ [])
      rw [List.append_nil]
      exact h
  | some error =>
      exact h.concat rfl rfl rfl rfl rfl id (.untimed rfl rfl ⟨rfl, fun _ => rfl⟩ rfl) trivial

theorem mem_serve {sinks : List (Option Nat)} {served sink : Nat} (h : allServed sinks served = true)
    (hmem : some sink ∈ sinks) : sink ∈ serve sinks served := by
  rw [serve, List.take_of_length_le (of_decide_eq_true h)]
  exact List.mem_filterMap.mpr ⟨some sink, hmem, rfl⟩

theorem Scheduled.loop (h : Scheduled port r₀ (r, log)) (hmove : LoopMove port r r' events) :
    Scheduled port r₀ (r', log ++ events) := by
  have hafter : r.application = applicationAfter port r₀ log := h.application
  have hthrown {phase : LoopPhase} (hphase : r.phase = phase) (hne : phase ≠ .thrown) : r.phase ≠ .thrown :=
    hphase ▸ hne
  cases hmove with
  | turn hturn =>
      refine h.turn fun hne hphase => ?_
      rw [hphase] at hturn
      cases hturn
      exact hne rfl
  | read key keys hphase =>
      exact h.concat rfl rfl rfl rfl rfl id (.untimed rfl rfl ⟨rfl, fun _ => rfl⟩ rfl) trivial
  | poll cameraNow now messages hphase =>
      exact h.concat rfl rfl rfl rfl rfl (fun _ => hthrown hphase LoopPhase.noConfusion)
        (.untimed rfl rfl ⟨rfl, fun _ => rfl⟩ rfl) trivial
  | downward frame served hphase hwaiting =>
      refine h.concat rfl rfl rfl rfl rfl (fun _ => hthrown hphase LoopPhase.noConfusion)
        (.untimed rfl rfl ⟨rfl, fun _ => rfl⟩ rfl) ?_
      exact (show r.downwardFrame = waitingFrame .downward log from h.downward).symm.trans hwaiting
  | complain hphase =>
      have hcomplained := h.complain
      exact ⟨hcomplained.interval, hcomplained.sinks, hcomplained.application, hcomplained.downward,
        hcomplained.forward, hcomplained.paced, fun _ => hcomplained.due (hthrown hphase LoopPhase.noConfusion),
        hcomplained.shown, fun _ => hcomplained.served (hthrown hphase LoopPhase.noConfusion)⟩
  | forward frame served hphase hwaiting =>
      rw [← List.append_assoc]
      refine h.complain.concat rfl rfl rfl rfl rfl (fun _ => hthrown hphase LoopPhase.noConfusion)
        (.untimed rfl rfl ⟨rfl, fun _ => rfl⟩ rfl) ?_
      exact (show r.forwardFrame = waitingFrame .forward _ from h.complain.forward).symm.trans hwaiting
  | skip now hphase hearly =>
      exact h.concat rfl rfl rfl rfl rfl (fun _ => hthrown hphase LoopPhase.noConfusion)
        (.early now (hthrown hphase LoopPhase.noConfusion) hearly rfl) trivial
  | publish now camera vision recordedAt served hphase hlate hcomplete =>
      refine h.concat rfl rfl rfl rfl rfl (fun _ => hthrown hphase LoopPhase.noConfusion)
        (.due now camera vision _ recordedAt _ (hthrown hphase LoopPhase.noConfusion) hlate (fun _ => rfl)
          fun _ sink hsink => mem_serve hcomplete hsink) ?_
      show _ = _
      rw [hafter]
  | fail now camera vision recordedAt served hphase hlate =>
      refine h.concat rfl rfl rfl rfl rfl (fun _ => hthrown hphase LoopPhase.noConfusion)
        (.due now camera vision _ recordedAt _ (hthrown hphase LoopPhase.noConfusion) hlate (fun hne => absurd rfl hne)
          fun hne => absurd rfl hne) ?_
      show _ = _
      rw [hafter]

theorem Scheduled.step (h : Scheduled port r₀ (r, log)) (step : LoopStep) :
    Scheduled port r₀ (advance port (r, log) step) := by
  cases step with
  | loop answer => exact h.loop (loop_move port r answer)
  | signal => exact h.concat rfl rfl rfl rfl rfl id (.untimed rfl rfl ⟨rfl, fun _ => rfl⟩ rfl) trivial
  | key key => exact h.concat rfl rfl rfl rfl rfl id (.untimed rfl rfl ⟨rfl, fun _ => rfl⟩ rfl) trivial
  | processed stream frame =>
      cases stream <;> exact h.concat rfl rfl rfl rfl rfl id (.untimed rfl rfl ⟨rfl, fun _ => rfl⟩ rfl) trivial
  | detectionFailed error =>
      show Scheduled port r₀ ({ r with forwardError := some error }, log ++ [])
      rw [List.append_nil]
      exact ⟨h.interval, h.sinks, h.application, h.downward, h.forward, h.paced, h.due, h.shown, h.served⟩

theorem scheduled_run {application : CompanionApplication ω} {snapshotIntervalMs : UInt32} {now : TimePoint}
    {interactive forwardCamera : Bool} {snapshotSinks previewSinks : List (Option Nat)}
    (h : start application snapshotIntervalMs now interactive forwardCamera snapshotSinks previewSinks = .ok r)
    (port : OutboundPort ω) (steps : List LoopStep) : Scheduled port r (run port r steps) := by
  obtain ⟨-, rfl⟩ := start_eq h
  induction steps using List.reverseRecOn with
  | nil => exact scheduled_start rfl rfl
  | append_singleton steps step ih =>
      rw [run, List.foldl_append]
      exact ih.step step

/-! ### Runs -/

/-- Whatever comes in between: the snapshots are the clock readings of the loop that are due, an interval apart at
least; each shows the application behind the polls and the snapshots before it; and as long as no sink has thrown,
every sink has been given all of them in their order, with the same time of recording. -/
theorem run_snapshots_paced {application : CompanionApplication ω} {snapshotIntervalMs : UInt32} {now : TimePoint}
    {interactive forwardCamera : Bool} {snapshotSinks previewSinks : List (Option Nat)}
    (h : start application snapshotIntervalMs now interactive forwardCamera snapshotSinks previewSinks = .ok r)
    (port : OutboundPort ω) (steps : List LoopStep) :
    let log := (run port r steps).2
    let interval := milliseconds snapshotIntervalMs.toNat
    publishedTimes log = pace interval now (readings log) ∧
    (publishedTimes log).Pairwise (fun earlier later => earlier + interval ≤ later) ∧
    (∀ before after at' camera vision snapshot recordedAt sinks,
      log = before ++ .published at' camera vision snapshot recordedAt sinks :: after →
      snapshot = ((CompanionApplication.run port application (before.filterMap LoopEvent.companion?)).snapshot
        at' camera vision).2) ∧
    ((run port r steps).1.phase ≠ .thrown → ∀ sink, some sink ∈ snapshotSinks →
      log.filterMap (LoopEvent.shownTo? sink) = log.filterMap LoopEvent.snapshot?) := by
  have hrun := scheduled_run h port steps
  obtain ⟨-, rfl⟩ := start_eq h
  have hinterval : 0 ≤ milliseconds snapshotIntervalMs.toNat := by
    unfold milliseconds
    omega
  refine ⟨hrun.paced, ?_, ?_, hrun.served⟩
  · rw [hrun.paced]
    exact pace_apart hinterval _
  · intro before after at' camera vision snapshot recordedAt sinks hsplit
    exact hrun.shown before _ after hsplit

/-! ### Rounds -/

/-- What may come next: behind the clock a round begins with a poll, and within a round the places go up. -/
def NextPlace (place next : Nat) : Prop := if place = 4 then next = 0 else place < next

/-- The loop is between two rounds. -/
def between : LoopPhase → Bool
  | .heading => true
  | .commanding => true
  | .rechecking => true
  | .polling => true
  | .returned => true
  | _ => false

/-- The rounds so far, and the last place that was taken. A round that has not begun follows the clock. -/
structure InRounds (s : RunnerLoop ω × List LoopEvent) : Prop where
  chain : (4 :: ranks s.2).IsChain NextPlace
  outside : between s.1.phase = true → (ranks s.2).getLastD 4 = 4
  inside : between s.1.phase = false → s.1.phase ≠ .thrown → (ranks s.2).getLastD 4 < s.1.phase.due

theorem inRounds_start (hphase : r.phase = .heading) : InRounds (r, []) where
  chain := List.isChain_singleton 4
  outside _ := rfl
  inside h := by
    rw [show r.phase = .heading from hphase] at h
    cases h

theorem chain_concat {places : List Nat} {place : Nat} (h : (4 :: places).IsChain NextPlace)
    (hnext : NextPlace (places.getLastD 4) place) : (4 :: (places ++ [place])).IsChain NextPlace := by
  rw [← List.cons_append, List.isChain_append]
  refine ⟨h, List.isChain_singleton place, fun last hlast next hhead => ?_⟩
  cases Option.some.inj hhead
  rw [List.getLast?_cons] at hlast
  cases Option.some.inj hlast
  rwa [← List.getLastD_eq_getLast?]

theorem ranks_concat {event : LoopEvent} {place : Nat} (hplace : event.rank? = some place) :
    ranks (log ++ [event]) = ranks log ++ [place] := by
  rw [ranks_append]
  congr 1
  exact List.filterMap_cons_some hplace

/-- A place is taken. -/
theorem InRounds.concat (h : (4 :: ranks log).IsChain NextPlace) {event : LoopEvent} {place : Nat}
    (hplace : event.rank? = some place) (hnext : NextPlace ((ranks log).getLastD 4) place)
    (houtside : between r'.phase = true → place = 4)
    (hinside : between r'.phase = false → r'.phase ≠ .thrown → place < r'.phase.due) :
    InRounds (r', log ++ [event]) := by
  have hranks : ranks (log ++ [event]) = ranks log ++ [place] := ranks_concat hplace
  have hlast : (ranks (log ++ [event])).getLastD 4 = place := by rw [hranks, List.getLastD_concat]
  refine ⟨?_, fun hd => hlast.trans (houtside hd), fun hd hthrown => hlast ▸ hinside hd hthrown⟩
  show (4 :: ranks (log ++ [event])).IsChain NextPlace
  rw [hranks]
  exact chain_concat h hnext

theorem InRounds.turn (h : InRounds (r, log)) {phase : LoopPhase} (hturn : LoopTurn r r.phase phase) :
    InRounds ({ r with phase := phase }, log ++ []) := by
  rw [List.append_nil]
  generalize hphase : r.phase = before at hturn
  have hkeep (hbetween : between before = true) (hnow : between phase = true) :
      InRounds ({ r with phase := phase }, log) :=
    ⟨h.chain, fun _ => h.outside (hphase ▸ hbetween), fun hd => absurd (hnow.symm.trans hd) Bool.noConfusion⟩
  have hon (hbetween : between before = false) (hthrown : before ≠ .thrown) (hnow : between phase = false)
      (hdue : before.due ≤ phase.due) : InRounds ({ r with phase := phase }, log) := by
    have hlast := h.inside (hphase ▸ hbetween) (hphase ▸ hthrown)
    rw [show r.phase = before from hphase] at hlast
    exact ⟨h.chain, fun hd => absurd (hnow.symm.trans hd) Bool.noConfusion, fun _ _ => hlast.trans_le hdue⟩
  have hthrow (hd : phase = .thrown) : InRounds ({ r with phase := phase }, log) := by
    subst hd
    exact ⟨h.chain, fun hd => (by cases hd), fun _ hd => absurd rfl hd⟩
  cases hturn with
  | stay =>
      have hsame : ({ r with phase := phase } : RunnerLoop ω) = r := by rw [← hphase]
      rw [hsame]
      exact h
  | enter => exact hkeep rfl rfl
  | leave => exact hkeep rfl rfl
  | silent => exact hkeep rfl rfl
  | go => exact hkeep rfl rfl
  | quit => exact hkeep rfl rfl
  | noFrame => exact hon rfl LoopPhase.noConfusion rfl (by decide)
  | noCamera => exact hon rfl LoopPhase.noConfusion rfl (by decide)
  | throwPoll => exact hthrow rfl
  | throwDownward => exact hthrow rfl
  | throwForward => exact hthrow rfl
  | throwTiming => exact hthrow rfl

/-- Something that has no place in a round. -/
theorem InRounds.note (h : InRounds (r, log)) {event : LoopEvent} (hrank : event.rank? = none)
    (hphase : r'.phase = r.phase) : InRounds (r', log ++ [event]) := by
  have hranks : ranks (log ++ [event]) = ranks log := by
    rw [ranks_append, ranks, ranks, List.filterMap_cons_none hrank, List.filterMap_nil, List.append_nil]
  refine ⟨?_, ?_, ?_⟩
  · simpa only [hranks] using h.chain
  · simpa only [hranks, hphase] using h.outside
  · simpa only [hranks, hphase] using h.inside

theorem nextPlace_of_lt {place next : Nat} (h : place < next) (hnext : next ≤ 4) : NextPlace place next := by
  unfold NextPlace
  rw [if_neg (by omega)]
  exact h

/-- The error of the forward detector, where the loop stays for the preview. -/
theorem InRounds.complain (h : InRounds (r, log)) (hphase : r.phase = .forward) :
    (4 :: ranks (log ++ r.complaints)).IsChain NextPlace ∧ (ranks (log ++ r.complaints)).getLastD 4 < 3 := by
  have hlast := h.inside (by rw [hphase]; rfl) (by rw [hphase]; exact LoopPhase.noConfusion)
  rw [hphase] at hlast
  unfold complaints
  cases r.forwardError with
  | none =>
      show (4 :: ranks (log ++ [])).IsChain NextPlace ∧ (ranks (log ++ [])).getLastD 4 < 3
      rw [List.append_nil]
      exact ⟨h.chain, Nat.lt_succ_of_lt hlast⟩
  | some error =>
      have hranks : ranks (log ++ [.complained error]) = ranks log ++ [2] := ranks_concat rfl
      show (4 :: ranks (log ++ [.complained error])).IsChain NextPlace ∧
        (ranks (log ++ [.complained error])).getLastD 4 < 3
      rw [hranks, List.getLastD_concat]
      exact ⟨chain_concat h.chain (nextPlace_of_lt hlast (by decide)), by decide⟩

theorem InRounds.loop (h : InRounds (r, log)) (hmove : LoopMove port r r' events) :
    InRounds (r', log ++ events) := by
  have hnext {phase : LoopPhase} (hphase : r.phase = phase) {low : Nat} (hbetween : between phase = false)
      (hthrown : phase ≠ .thrown) (hdue : phase.due = low) (hlow : low ≤ 4) :
      NextPlace ((ranks log).getLastD 4) low := by
    have hlast := h.inside (hphase ▸ hbetween) (hphase ▸ hthrown)
    rw [show r.phase = phase from hphase, hdue] at hlast
    exact nextPlace_of_lt hlast hlow
  cases hmove with
  | turn hturn => exact h.turn hturn
  | read key keys hphase => exact h.note rfl rfl
  | poll cameraNow now messages hphase =>
      refine InRounds.concat h.chain rfl ?_ (fun hd => (by cases hd)) fun _ _ => Nat.one_pos
      have hlast : (ranks log).getLastD 4 = 4 := h.outside (by rw [hphase]; rfl)
      rw [hlast, NextPlace, if_pos rfl]
  | downward frame served hphase =>
      refine InRounds.concat h.chain rfl (hnext hphase rfl LoopPhase.noConfusion rfl (by decide)) ?_ ?_
      · dsimp only
        split <;> exact fun hd => (by cases hd)
      · dsimp only
        split
        · exact fun _ _ => by decide
        · exact fun _ hd => absurd rfl hd
  | complain hphase =>
      obtain ⟨hchain, hlast⟩ := h.complain hphase
      exact ⟨hchain, fun hd => (by cases hd), fun _ _ => Nat.lt_succ_of_lt hlast⟩
  | forward frame served hphase =>
      obtain ⟨hchain, hlast⟩ := h.complain hphase
      rw [← List.append_assoc]
      refine InRounds.concat hchain rfl (nextPlace_of_lt hlast (by decide)) ?_ ?_
      · dsimp only
        split <;> exact fun hd => (by cases hd)
      · dsimp only
        split
        · exact fun _ _ => by decide
        · exact fun _ hd => absurd rfl hd
  | skip now hphase =>
      exact InRounds.concat h.chain rfl (hnext hphase rfl LoopPhase.noConfusion rfl le_rfl) (fun _ => rfl)
        fun hd => (by cases hd)
  | publish now camera vision recordedAt served hphase =>
      exact InRounds.concat h.chain rfl (hnext hphase rfl LoopPhase.noConfusion rfl le_rfl) (fun _ => rfl)
        fun hd => (by cases hd)
  | fail now camera vision recordedAt served hphase =>
      exact InRounds.concat h.chain rfl (hnext hphase rfl LoopPhase.noConfusion rfl le_rfl) (fun _ => rfl)
        fun _ hd => absurd rfl hd

theorem InRounds.step (h : InRounds (r, log)) (step : LoopStep) : InRounds (advance port (r, log) step) := by
  cases step with
  | loop answer => exact h.loop (loop_move port r answer)
  | signal => exact h.note rfl rfl
  | key key => exact h.note rfl rfl
  | processed stream frame => cases stream <;> exact h.note rfl rfl
  | detectionFailed error =>
      show InRounds ({ r with forwardError := some error }, log ++ [])
      rw [List.append_nil]
      exact ⟨h.chain, h.outside, h.inside⟩

theorem inRounds_run {application : CompanionApplication ω} {snapshotIntervalMs : UInt32} {now : TimePoint}
    {interactive forwardCamera : Bool} {snapshotSinks previewSinks : List (Option Nat)}
    (h : start application snapshotIntervalMs now interactive forwardCamera snapshotSinks previewSinks = .ok r)
    (port : OutboundPort ω) (steps : List LoopStep) : InRounds (run port r steps) := by
  obtain ⟨-, rfl⟩ := start_eq h
  induction steps using List.reverseRecOn with
  | nil => exact inRounds_start rfl
  | append_singleton steps step ih =>
      rw [run, List.foldl_append]
      exact ih.step step

/-! ### Previews -/

/-- An event that is about the waiting frame of a camera. -/
def Concerns (stream : CameraPreviewStream) : LoopEvent → Prop
  | .processed camera _ => camera = stream
  | .previewed camera _ _ => camera = stream
  | _ => False

theorem waitingStep_of_not (stream : CameraPreviewStream) (waiting : Option ProcessedCameraFrame)
    {event : LoopEvent} (h : ¬Concerns stream event) : waitingStep stream waiting event = waiting := by
  cases event with
  | processed camera frame => exact if_neg h
  | previewed camera frame sinks => exact if_neg h
  | _ => rfl

/-- The waiting frame is the last one of its camera, and nothing has been done with it. -/
theorem waitingFrame_eq_some {stream : CameraPreviewStream} {frame : ProcessedCameraFrame}
    (h : waitingFrame stream log = some frame) : ∃ before after, log = before ++ .processed stream frame :: after ∧
      ∀ event ∈ after, ¬Concerns stream event := by
  induction log using List.reverseRecOn with
  | nil => cases h
  | append_singleton log event ih =>
      rw [waitingFrame_concat] at h
      by_cases hconcerns : Concerns stream event
      · cases event with
        | processed camera frame' =>
            obtain rfl : camera = stream := hconcerns
            cases (if_pos rfl).symm.trans h
            exact ⟨log, [], rfl, fun _ hmem => absurd hmem List.not_mem_nil⟩
        | previewed camera frame' sinks =>
            obtain rfl : camera = stream := hconcerns
            cases (if_pos rfl).symm.trans h
        | _ => exact absurd hconcerns not_false
      · rw [waitingStep_of_not stream _ hconcerns] at h
        obtain ⟨before, after, rfl, hafter⟩ := ih h
        refine ⟨before, after ++ [event], by rw [List.append_assoc, List.cons_append], fun other hmem => ?_⟩
        rcases List.mem_append.mp hmem with hmem | hmem
        · exact hafter other hmem
        · rw [List.mem_singleton.mp hmem]
          exact hconcerns

/-- Whatever comes in between: the loop goes by rounds, each of which begins with a poll, shows the downward
camera before the forward one and ends with the clock; and what is previewed of a camera is the last frame that
was processed, which has not been previewed before. -/
theorem run_rounds_previewed {application : CompanionApplication ω} {snapshotIntervalMs : UInt32} {now : TimePoint}
    {interactive forwardCamera : Bool} {snapshotSinks previewSinks : List (Option Nat)}
    (h : start application snapshotIntervalMs now interactive forwardCamera snapshotSinks previewSinks = .ok r)
    (port : OutboundPort ω) (steps : List LoopStep) :
    (4 :: ranks (run port r steps).2).IsChain NextPlace ∧
    ∀ before stream frame sinks after, (run port r steps).2 = before ++ .previewed stream frame sinks :: after →
      ∃ earlier later, before = earlier ++ .processed stream frame :: later ∧
        ∀ event ∈ later, ¬Concerns stream event :=
  ⟨(inRounds_run h port steps).chain, fun before _ _ _ after hsplit =>
    waitingFrame_eq_some ((scheduled_run h port steps).shown before _ after hsplit)⟩

/-- A round of the loop in which a frame of the downward camera waits. -/
def previewSteps : List LoopStep :=
  [.processed .downward ⟨⟨1, 2, 2, [], none, 0⟩, 0, []⟩, .loop .proceed, .loop .proceed, .loop .proceed,
    .loop (.polled 0 0 []), .loop (.previews 1), .loop (.previews 1), .loop (.clock 0 none none 0 1)]

theorem run_snapshots_paced_interactive :
    let s := run CompanionApplication.acceptingPort interactiveLoop previewSteps
    publishedTimes s.2 = [0] ∧ s.2.filterMap (LoopEvent.shownTo? 0) = s.2.filterMap LoopEvent.snapshot? := by
  have hpaced := run_snapshots_paced
    (show start (.start () none []) 100 0 true false [some 0] [] = .ok interactiveLoop from rfl)
    CompanionApplication.acceptingPort previewSteps
  refine ⟨hpaced.1.trans rfl, hpaced.2.2.2 ?_ 0 List.mem_cons_self⟩
  exact LoopPhase.noConfusion

theorem run_rounds_previewed_interactive :
    (4 :: ranks (run CompanionApplication.acceptingPort interactiveLoop previewSteps).2).IsChain NextPlace :=
  (run_rounds_previewed
    (show start (.start () none []) 100 0 true false [some 0] [] = .ok interactiveLoop from rfl)
    CompanionApplication.acceptingPort previewSteps).1

end RunnerLoop

end OnboardAutonomy
