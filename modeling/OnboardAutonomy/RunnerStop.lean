import OnboardAutonomy.RunnerLoop

/-! How the loop of the program stops. A shutdown key is the last thing that the loop minds, since it reads its
keys at the head of a round; a signal that comes later in a round lets what is left of the round happen. -/

namespace OnboardAutonomy

open Histories

/-- The place of what the loop does in a round. -/
def LoopEvent.rank? : LoopEvent → Option Nat
  | polled _ _ _ => some 0
  | previewed .downward _ _ => some 1
  | complained _ => some 2
  | previewed .forward _ _ => some 3
  | skipped _ => some 4
  | published _ _ _ _ _ _ => some 4
  | _ => none

/-- The first place in the round that is left at this point. -/
def LoopPhase.due : LoopPhase → Nat
  | polling => 0
  | downward => 1
  | forward => 2
  | timing => 4
  | _ => 5

/-- The places in their rounds of what the loop has done. -/
def ranks (log : List LoopEvent) : List Nat := log.filterMap LoopEvent.rank?

theorem ranks_append (log events : List LoopEvent) : ranks (log ++ events) = ranks log ++ ranks events :=
  List.filterMap_append

/-- The places of the round that is not at its end yet: the timing of the snapshot ends a round. -/
def roundOf (places : List Nat) : List Nat :=
  places.foldl (fun round place => if place = 4 then [] else round ++ [place]) []

theorem roundOf_concat (places : List Nat) (place : Nat) :
    roundOf (places ++ [place]) = if place = 4 then [] else roundOf places ++ [place] := by
  rw [roundOf, List.foldl_append]
  rfl

/-- Places that do not end a round go on with it. -/
theorem roundOf_append {places more : List Nat} (h : 4 ∉ more) : roundOf (places ++ more) = roundOf places ++ more := by
  induction more using List.reverseRecOn with
  | nil => rw [List.append_nil, List.append_nil]
  | append_singleton more place ih =>
      have hmore : 4 ∉ more := fun hmem => h (List.mem_append_left [place] hmem)
      have hplace : place ≠ 4 := by
        rintro rfl
        exact h (List.mem_append_right more List.mem_cons_self)
      rw [← List.append_assoc, roundOf_concat, if_neg hplace, ih hmore, List.append_assoc]

/-- What a part of a round does: places in their order, from the first that is left on and before the next. -/
structure InOrder (low high : Nat) (places : List Nat) : Prop where
  sorted : places.Pairwise (· < ·)
  bounds : ∀ place ∈ places, low ≤ place ∧ place < high

theorem InOrder.nil (low high : Nat) : InOrder low high [] :=
  ⟨.nil, fun _ hmem => absurd hmem List.not_mem_nil⟩

theorem InOrder.singleton {low high place : Nat} (hlow : low ≤ place) (hhigh : place < high) :
    InOrder low high [place] :=
  ⟨List.pairwise_singleton _ _, fun _ hmem => List.mem_singleton.mp hmem ▸ ⟨hlow, hhigh⟩⟩

theorem InOrder.mono {low high higher : Nat} {places : List Nat} (h : InOrder low high places) (hle : high ≤ higher) :
    InOrder low higher places :=
  ⟨h.sorted, fun place hmem => ⟨(h.bounds place hmem).1, Nat.lt_of_lt_of_le (h.bounds place hmem).2 hle⟩⟩

theorem InOrder.not_mem {low high place : Nat} {places : List Nat} (h : InOrder low high places) (hhigh : high ≤ place) :
    place ∉ places := fun hmem => absurd (h.bounds place hmem).2 (Nat.not_lt.mpr hhigh)

theorem InOrder.append {low middle high : Nat} {places more : List Nat} (h : InOrder low middle places)
    (hmore : InOrder middle high more) (hlow : low ≤ middle) (hhigh : middle ≤ high) :
    InOrder low high (places ++ more) := by
  refine ⟨List.pairwise_append.mpr ⟨h.sorted, hmore.sorted, fun a ha b hb => ?_⟩, fun place hmem => ?_⟩
  · have hleft := (h.bounds a ha).2
    have hright := (hmore.bounds b hb).1
    omega
  · rcases List.mem_append.mp hmem with hmem | hmem
    · have hplace := h.bounds place hmem
      omega
    · have hplace := hmore.bounds place hmem
      omega

namespace RunnerLoop

variable {ω : Type} {port : OutboundPort ω} {r r' : RunnerLoop ω} {log events : List LoopEvent}

/-- A shutdown key that was read. -/
def ShutsDown : LoopEvent → Prop
  | .read key => (runtimeCommand? key).isSome = true
  | _ => False

/-- A stop was requested. -/
def Asked (log : List LoopEvent) : Prop := .signalled ∈ log ∨ ∃ event ∈ log, ShutsDown event

def typedKeys (log : List LoopEvent) : List Char :=
  log.filterMap fun event => match event with
    | .typed key => some key
    | _ => none

def readKeys (log : List LoopEvent) : List Char :=
  log.filterMap fun event => match event with
    | .read key => some key
    | _ => none

/-! ### What a step does -/

/-- The loop is where a request to stop ends it before anything else happens. -/
def Idle (r : RunnerLoop ω) : Prop := r.phase = .commanding ∨ r.phase = .rechecking ∨ r.phase = .returned

/-- The loop is between two rounds, or behind the last. -/
def Between (r : RunnerLoop ω) : Prop := r.phase = .heading ∨ r.Idle

/-- A step of the loop other than reading a key: it goes on in the round, or begins one unless a stop is
requested. -/
structure Proceeds (r r' : RunnerLoop ω) (events : List LoopEvent) : Prop where
  keys : r'.keys = r.keys
  keepRunning : r'.keepRunning = r.keepRunning
  unread : ∀ event ∈ events, event.rank?.isSome = true
  places : InOrder r.phase.due r'.phase.due (ranks events)
  goesOn : r.phase.due ≤ r'.phase.due ∨ r.phase = .rechecking ∧ r.keepRunning = true
  returns : r'.phase = .returned → r.phase = .returned ∨ r.keepRunning = false
  idle : r.Idle → r.keepRunning = false → r'.Idle
  quiet : r.Idle → ranks events = []
  ends : ranks events = [4] ∨ 4 ∉ ranks events ∧ (r'.Between → r.Between ∧ ranks events = [])

theorem Proceeds.refl (r : RunnerLoop ω) : Proceeds r r [] where
  keys := rfl
  keepRunning := rfl
  unread _ hmem := absurd hmem List.not_mem_nil
  places := InOrder.nil _ _
  goesOn := .inl le_rfl
  returns h := .inl h
  idle h _ := h
  quiet _ := rfl
  ends := .inr ⟨List.not_mem_nil, fun h => ⟨h, rfl⟩⟩

/-- A part of the round behind its head. -/
theorem Proceeds.part {low high : Nat} (hlow : r.phase.due = low) (hhigh : r'.phase.due = high) (hle : low ≤ high)
    (hpart : low ≠ 5) (hkeys : r'.keys = r.keys) (hrunning : r'.keepRunning = r.keepRunning)
    (hunread : ∀ event ∈ events, event.rank?.isSome = true) (hplaces : InOrder low high (ranks events))
    (hends : ranks events = [4] ∧ r'.phase ≠ .returned ∨ 4 ∉ ranks events ∧ ¬r'.Between) : Proceeds r r' events := by
  subst hlow hhigh
  have hbusy : ¬r.Idle := by
    rintro (h | h | h) <;> exact hpart (by rw [h]; rfl)
  have hreturned : r'.phase ≠ .returned :=
    hends.elim And.right fun h hreturned => h.2 (.inr (.inr (.inr hreturned)))
  exact ⟨hkeys, hrunning, hunread, hplaces, .inl hle, fun h => absurd h hreturned, fun h => absurd h hbusy,
    fun h => absurd h hbusy, hends.imp And.left fun h => ⟨h.1, fun hbetween => absurd hbetween h.2⟩⟩

/-- Within the round nothing ends it. -/
theorem not_between (hphase : r.phase.due ≤ 4 ∨ r.phase = .thrown) : ¬r.Between := by
  rintro (h | h | h | h) <;> rw [h] at hphase <;>
    exact hphase.elim (fun hdue => absurd hdue (by decide)) LoopPhase.noConfusion

theorem unread_nil : ∀ event ∈ ([] : List LoopEvent), event.rank?.isSome = true :=
  fun _ hmem => absurd hmem List.not_mem_nil

theorem unread_singleton {event : LoopEvent} (h : event.rank?.isSome = true) :
    ∀ event' ∈ [event], event'.rank?.isSome = true := fun _ hmem => List.mem_singleton.mp hmem ▸ h

/-- A step that only takes the loop to another point of the round. -/
theorem LoopTurn.proceeds {phase : LoopPhase} (h : LoopTurn r r.phase phase) :
    Proceeds r { r with phase := phase } [] := by
  generalize hphase : r.phase = before at h
  have hbusy (hdue : before.due ≠ 5) : ¬r.Idle := by
    rintro (h | h | h) <;> rw [hphase] at h <;> exact hdue (by rw [h]; rfl)
  have hpart {low : Nat} (hlow : before.due = low) (hle : low ≤ phase.due) (hpart : low ≠ 5)
      (hwithin : phase.due ≤ 4 ∨ phase = .thrown) : Proceeds r { r with phase := phase } [] :=
    Proceeds.part (hphase ▸ hlow) rfl hle hpart rfl rfl unread_nil (InOrder.nil _ _)
      (.inr ⟨List.not_mem_nil, not_between hwithin⟩)
  have hrest (hbefore : r.Between) : ([] : List Nat) = [4] ∨
      4 ∉ ([] : List Nat) ∧ (({ r with phase := phase } : RunnerLoop ω).Between → r.Between ∧ ([] : List Nat) = []) :=
    .inr ⟨List.not_mem_nil, fun _ => ⟨hbefore, rfl⟩⟩
  cases h with
  | stay =>
      have hsame : ({ r with phase := phase } : RunnerLoop ω) = r := by rw [← hphase]
      rw [hsame]
      exact Proceeds.refl r
  | enter hgoing =>
      have hother : ¬r.Idle := by
        rintro (h | h | h) <;> rw [hphase] at h <;> cases h
      exact ⟨rfl, rfl, unread_nil, InOrder.nil _ _, .inl (by rw [hphase]; exact le_rfl), fun h => (by cases h),
        fun h => absurd h hother, fun _ => rfl, hrest (.inl hphase)⟩
  | leave hstopping =>
      exact ⟨rfl, rfl, unread_nil, InOrder.nil _ _, .inl (by rw [hphase]; exact le_rfl), fun _ => .inr hstopping,
        fun _ _ => .inr (.inr rfl), fun _ => rfl, hrest (.inl hphase)⟩
  | silent =>
      exact ⟨rfl, rfl, unread_nil, InOrder.nil _ _, .inl (by rw [hphase]; exact le_rfl), fun h => (by cases h),
        fun _ _ => .inr (.inl rfl), fun _ => rfl, hrest (.inr (.inl hphase))⟩
  | go hgoing =>
      exact ⟨rfl, rfl, unread_nil, InOrder.nil _ _, .inr ⟨hphase, hgoing⟩, fun h => (by cases h),
        fun _ h => absurd h (by rw [hgoing]; exact Bool.noConfusion), fun _ => rfl, hrest (.inr (.inr (.inl hphase)))⟩
  | quit hstopping =>
      exact ⟨rfl, rfl, unread_nil, InOrder.nil _ _, .inl (by rw [hphase]; exact le_rfl), fun _ => .inr hstopping,
        fun _ _ => .inr (.inr rfl), fun _ => rfl, hrest (.inr (.inr (.inl hphase)))⟩
  | noFrame => exact hpart rfl (by decide) (by decide) (.inl (by decide))
  | noCamera => exact hpart rfl (by decide) (by decide) (.inl (by decide))
  | throwPoll => exact hpart rfl (by decide) (by decide) (.inr rfl)
  | throwDownward => exact hpart rfl (by decide) (by decide) (.inr rfl)
  | throwForward => exact hpart rfl (by decide) (by decide) (.inr rfl)
  | throwTiming => exact hpart rfl (by decide) (by decide) (.inr rfl)

theorem complaints_inOrder (r : RunnerLoop ω) : InOrder 2 3 (ranks r.complaints) := by
  unfold complaints
  cases r.forwardError with
  | none => exact InOrder.nil 2 3
  | some error => exact InOrder.singleton le_rfl (by decide)

theorem complaints_ranked (r : RunnerLoop ω) : ∀ event ∈ r.complaints, event.rank?.isSome = true := by
  intro event hmem
  obtain ⟨error, -, rfl⟩ := List.mem_map.mp hmem
  rfl

/-- The sinks that are served let the round go on. -/
theorem due_served (sinks : List (Option Nat)) (served : Nat) (phase : LoopPhase) (h : phase.due ≤ 4) :
    phase.due ≤ (if allServed sinks served then phase else .thrown).due ∧
      ((if allServed sinks served then phase else .thrown).due ≤ 4 ∨
        (if allServed sinks served then phase else .thrown) = .thrown) := by
  split
  · exact ⟨le_rfl, .inl h⟩
  · exact ⟨Nat.le_succ_of_le h, .inr rfl⟩

theorem not_four {place : Nat} (h : 4 ≠ place) : 4 ∉ [place] := fun hmem => h (List.mem_singleton.mp hmem)

/-- A step of the loop reads a key, or goes on with its round. -/
theorem LoopMove.cases (h : LoopMove port r r' events) :
    (∃ key keys, r.phase = .commanding ∧ r.keys = key :: keys ∧ events = [.read key] ∧
      r' = { r with keys := keys, keepRunning := r.keepRunning && (runtimeCommand? key).isNone }) ∨
    Proceeds r r' events := by
  cases h with
  | turn hturn => exact .inr hturn.proceeds
  | read key keys hphase hkeys => exact .inl ⟨key, keys, hphase, hkeys, rfl, rfl⟩
  | poll cameraNow now messages hphase =>
      exact .inr (Proceeds.part (by rw [hphase]; rfl) (show _ = 1 from rfl) (Nat.zero_le 1) (by decide) rfl rfl
        (unread_singleton rfl) (InOrder.singleton le_rfl Nat.one_pos)
        (.inr ⟨not_four (by decide), not_between (.inl (show 1 ≤ 4 by decide))⟩))
  | downward frame served hphase =>
      obtain ⟨hdue, hwithin⟩ := due_served r.previewSinks served .forward (by decide)
      have hhigh : 2 ≤ (if allServed r.previewSinks served then LoopPhase.forward else .thrown).due := hdue
      exact .inr (Proceeds.part (show _ = 1 by rw [hphase]; rfl) rfl (Nat.le_of_succ_le hhigh) (by decide) rfl rfl
        (unread_singleton rfl) (InOrder.singleton le_rfl hhigh)
        (.inr ⟨not_four (by decide), not_between hwithin⟩))
  | complain hphase =>
      have hplaces := r.complaints_inOrder.append (InOrder.nil 3 4) (by decide) (by decide)
      rw [List.append_nil] at hplaces
      exact .inr (Proceeds.part (by rw [hphase]; rfl) (show _ = 4 from rfl) (by decide) (by decide) rfl rfl
        r.complaints_ranked hplaces (.inr ⟨hplaces.not_mem le_rfl, not_between (.inl le_rfl)⟩))
  | forward frame served hphase =>
      obtain ⟨hdue, hwithin⟩ := due_served r.previewSinks served .timing (by decide)
      have hhigh : 4 ≤ (if allServed r.previewSinks served then LoopPhase.timing else .thrown).due := hdue
      have hlast : InOrder 3 4 (ranks [LoopEvent.previewed .forward frame (serve r.previewSinks served)]) :=
        InOrder.singleton le_rfl (by decide)
      have hplaces := r.complaints_inOrder.append hlast (by decide) (by decide)
      rw [← ranks_append] at hplaces
      refine .inr (Proceeds.part (show _ = 2 by rw [hphase]; rfl) rfl (Nat.le_of_succ_le (Nat.le_of_succ_le hhigh))
        (by decide) rfl rfl (fun event hmem => ?_) (hplaces.mono hhigh)
        (.inr ⟨hplaces.not_mem le_rfl, not_between hwithin⟩))
      rcases List.mem_append.mp hmem with hmem | hmem
      · exact r.complaints_ranked event hmem
      · exact unread_singleton rfl event hmem
  | skip now hphase =>
      exact .inr (Proceeds.part (show _ = 4 by rw [hphase]; rfl) (show _ = 5 from rfl) (by decide) (by decide) rfl rfl
        (unread_singleton rfl) (InOrder.singleton le_rfl (by decide)) (.inl ⟨rfl, LoopPhase.noConfusion⟩))
  | publish now camera vision recordedAt served hphase =>
      exact .inr (Proceeds.part (show _ = 4 by rw [hphase]; rfl) (show _ = 5 from rfl) (by decide) (by decide) rfl rfl
        (unread_singleton rfl) (InOrder.singleton le_rfl (by decide)) (.inl ⟨rfl, LoopPhase.noConfusion⟩))
  | fail now camera vision recordedAt served hphase =>
      exact .inr (Proceeds.part (show _ = 4 by rw [hphase]; rfl) (show _ = 5 from rfl) (by decide) (by decide) rfl rfl
        (unread_singleton rfl) (InOrder.singleton le_rfl (by decide)) (.inl ⟨rfl, LoopPhase.noConfusion⟩))

/-! ### What holds on the way -/

/-- A step goes on with the round, or ends it. -/
theorem Proceeds.round {places : List Nat} (hmove : Proceeds r r' events)
    (hround : InOrder 0 r.phase.due (roundOf places)) (hbetween : r.Between → roundOf places = []) :
    InOrder 0 r'.phase.due (roundOf (places ++ ranks events)) ∧
      (r'.Between → roundOf (places ++ ranks events) = []) := by
  rcases hmove.ends with hend | ⟨hinner, hrest⟩
  · rw [hend, roundOf_concat, if_pos rfl]
    exact ⟨InOrder.nil _ _, fun _ => rfl⟩
  · rw [roundOf_append hinner]
    refine ⟨?_, fun h => ?_⟩
    · rcases hmove.goesOn with hle | ⟨hphase, -⟩
      · exact hround.append hmove.places (Nat.zero_le _) hle
      · rw [hbetween (.inr (.inr (.inl hphase))), hmove.quiet (.inr (.inl hphase))]
        exact InOrder.nil _ _
    · obtain ⟨hbefore, hnone⟩ := hrest h
      rw [hbetween hbefore, hnone]
      rfl

/-- What the loop has made of the keys and the signals. -/
structure Stopping (s : RunnerLoop ω × List LoopEvent) : Prop where
  keys : typedKeys s.2 = readKeys s.2 ++ s.1.keys
  asked : s.1.keepRunning = false ↔ Asked s.2
  returned : s.1.phase = .returned → s.1.keepRunning = false
  idle : (∃ event ∈ s.2, ShutsDown event) → s.1.Idle
  shutDown : Followed (fun _ event after => ShutsDown event → ranks after = []) s.2
  round : InOrder 0 s.1.phase.due (roundOf (ranks s.2))
  between : s.1.Between → roundOf (ranks s.2) = []
  signalled : Followed (fun before event after => event = .signalled →
    InOrder 0 s.1.phase.due (roundOf (ranks before) ++ ranks after)) s.2

theorem asked_append : Asked (log ++ events) ↔ Asked log ∨ Asked events := by
  simp only [Asked, List.mem_append, or_and_right, exists_or]
  exact or_or_or_comm

theorem stopping_start (hkeys : r.keys = []) (hrunning : r.keepRunning = true) (hphase : r.phase = .heading) :
    Stopping (r, []) where
  keys := by
    show [] = [] ++ r.keys
    rw [hkeys]
    rfl
  asked := by
    refine ⟨fun h => ?_, fun h => ?_⟩
    · rw [show r.keepRunning = true from hrunning] at h
      cases h
    · rcases h with h | ⟨event, h, -⟩ <;> exact absurd h List.not_mem_nil
  returned h := by
    rw [show r.phase = .heading from hphase] at h
    cases h
  idle := fun ⟨_, h, _⟩ => absurd h List.not_mem_nil
  shutDown := Followed.nil
  round := InOrder.nil _ _
  between _ := rfl
  signalled := Followed.nil

theorem ranked_silent (h : ∀ event ∈ events, event.rank?.isSome = true) :
    typedKeys events = [] ∧ readKeys events = [] ∧ ¬Asked events ∧ ∀ event ∈ events, event ≠ .signalled := by
  have hother : ∀ event ∈ events, event ≠ .signalled ∧ ¬ShutsDown event ∧ (∀ key, event ≠ .typed key) ∧
      ∀ key, event ≠ .read key := by
    intro event hmem
    have hrank := h event hmem
    refine ⟨?_, fun hshut => ?_, ?_, ?_⟩
    · rintro rfl
      cases hrank
    · cases event <;> first | exact hshut | cases hrank
    · rintro key rfl
      cases hrank
    · rintro key rfl
      cases hrank
  refine ⟨List.filterMap_eq_nil_iff.mpr fun event hmem => ?_, List.filterMap_eq_nil_iff.mpr fun event hmem => ?_,
    ?_, fun event hmem => (hother event hmem).1⟩
  · split
    · exact absurd rfl ((hother _ hmem).2.2.1 _)
    · rfl
  · split
    · exact absurd rfl ((hother _ hmem).2.2.2 _)
    · rfl
  · rintro (hmem | ⟨event, hmem, hshut⟩)
    · exact (hother _ hmem).1 rfl
    · exact (hother event hmem).2.1 hshut

theorem typedKeys_append (log events : List LoopEvent) :
    typedKeys (log ++ events) = typedKeys log ++ typedKeys events := List.filterMap_append

theorem readKeys_append (log events : List LoopEvent) :
    readKeys (log ++ events) = readKeys log ++ readKeys events := List.filterMap_append

theorem Stopping.proceed (h : Stopping (r, log)) (hmove : Proceeds r r' events) : Stopping (r', log ++ events) := by
  obtain ⟨htyped, hread, hasked, hunsignalled⟩ := ranked_silent hmove.unread
  have hnoShut : ∀ event ∈ events, ¬ShutsDown event :=
    fun event hmem hshut => hasked (.inr ⟨event, hmem, hshut⟩)
  have hstopped {event : LoopEvent} (hmem : event ∈ log) (hrequest : event = .signalled ∨ ShutsDown event) :
      r.keepRunning = false := by
    refine h.asked.mpr ?_
    rcases hrequest with rfl | hshut
    · exact .inl hmem
    · exact .inr ⟨event, hmem, hshut⟩
  have hidle : (∃ event ∈ log ++ events, ShutsDown event) → r.Idle ∧ r.keepRunning = false := by
    rintro ⟨event, hmem, hshut⟩
    rcases List.mem_append.mp hmem with hmem | hmem
    · exact ⟨h.idle ⟨event, hmem, hshut⟩, hstopped hmem (.inr hshut)⟩
    · exact absurd hshut (hnoShut event hmem)
  have hround := hmove.round h.round h.between
  rw [← ranks_append] at hround
  refine ⟨?_, ?_, ?_, ?_, ?_, hround.1, hround.2, ?_⟩
  · have hkeys : typedKeys log = readKeys log ++ r.keys := h.keys
    show typedKeys (log ++ events) = readKeys (log ++ events) ++ r'.keys
    rw [typedKeys_append, readKeys_append, htyped, hread, List.append_nil, List.append_nil, hmove.keys, hkeys]
  · show r'.keepRunning = false ↔ Asked (log ++ events)
    rw [asked_append, or_iff_left hasked, hmove.keepRunning]
    exact h.asked
  · intro hphase
    show r'.keepRunning = false
    rw [hmove.keepRunning]
    exact (hmove.returns hphase).elim h.returned id
  · intro hshut
    obtain ⟨hbefore, hrunning⟩ := hidle hshut
    exact hmove.idle hbefore hrunning
  · refine h.shutDown.append (fun before other hmem after hafter hshut => ?_)
      fun middle other hmem after _ hshut => absurd hshut (hnoShut other hmem)
    have hevents := hmove.quiet (h.idle ⟨other, hmem, hshut⟩)
    rw [ranks_append, hafter hshut, hevents]
    rfl
  · refine h.signalled.append (fun before other hmem after hafter hsignal => ?_)
      fun middle other hmem after _ hsignal => absurd hsignal (hunsignalled other hmem)
    have hrunning := hstopped hmem (.inl hsignal)
    have hdue : r.phase.due ≤ r'.phase.due := by
      rcases hmove.goesOn with hle | ⟨-, htrue⟩
      · exact hle
      · rw [hrunning] at htrue
        cases htrue
    rw [ranks_append, ← List.append_assoc]
    exact (hafter hsignal).append hmove.places (Nat.zero_le _) hdue

/-- Something that has no place in a round. -/
theorem Stopping.note (h : Stopping (r, log)) {event : LoopEvent} (hrank : event.rank? = none)
    (hphase : r'.phase = r.phase) (hkeys : typedKeys (log ++ [event]) = readKeys (log ++ [event]) ++ r'.keys)
    (hasked : r'.keepRunning = false ↔ Asked (log ++ [event])) (hshut : ShutsDown event → r.phase = .commanding) :
    Stopping (r', log ++ [event]) := by
  have hranks (after : List LoopEvent) : ranks (after ++ [event]) = ranks after := by
    rw [ranks_append, ranks, ranks, List.filterMap_cons_none hrank, List.filterMap_nil, List.append_nil]
  have hround : InOrder 0 r'.phase.due (roundOf (ranks (log ++ [event]))) := by
    rw [hranks, hphase]
    exact h.round
  refine ⟨hkeys, hasked, fun hreturned => ?_, ?_, ?_, hround, fun hbetween => ?_, ?_⟩
  · have hbefore := h.asked.mp (h.returned (hphase ▸ hreturned))
    exact hasked.mpr (asked_append.mpr (.inl hbefore))
  · rintro ⟨other, hmem, hother⟩
    unfold Idle
    rw [show r'.phase = r.phase from hphase]
    rcases List.mem_append.mp hmem with hmem | hmem
    · exact h.idle ⟨other, hmem, hother⟩
    · rw [List.mem_singleton.mp hmem] at hother
      exact .inl (hshut hother)
  · refine h.shutDown.concat (fun before other _ after hafter hother => ?_) fun _ => rfl
    rw [hranks]
    exact hafter hother
  · show roundOf (ranks (log ++ [event])) = []
    have hbefore : r.Between := by
      rw [Between, Idle, ← hphase]
      exact hbetween
    rw [hranks]
    exact h.between hbefore
  · refine h.signalled.concat (fun before other _ after hafter hother => ?_) fun _ => ?_
    · rw [hranks, show r'.phase = r.phase from hphase]
      exact hafter hother
    · rw [show ranks [] = [] from rfl, List.append_nil, show r'.phase = r.phase from hphase]
      exact h.round

theorem asked_read {key : Char} : Asked [.read key] ↔ (runtimeCommand? key).isSome = true := by
  simp [Asked, ShutsDown]

theorem Stopping.read (h : Stopping (r, log)) {key : Char} {keys : List Char} (hphase : r.phase = .commanding)
    (hkeys : r.keys = key :: keys) :
    Stopping ({ r with keys := keys, keepRunning := r.keepRunning && (runtimeCommand? key).isNone },
      log ++ [.read key]) := by
  refine h.note rfl rfl ?_ ?_ fun _ => hphase
  · have hbefore : typedKeys log = readKeys log ++ r.keys := h.keys
    rw [typedKeys_append, readKeys_append, hbefore, hkeys]
    show _ ++ [] = _ ++ [key] ++ keys
    rw [List.append_nil, List.append_assoc, List.singleton_append]
  · show (r.keepRunning && (runtimeCommand? key).isNone) = false ↔ _
    rw [asked_append, asked_read, ← show r.keepRunning = false ↔ Asked log from h.asked, Bool.and_eq_false_iff,
      Option.isNone_eq_false_iff]

theorem asked_silent {event : LoopEvent} (hsignal : event ≠ .signalled) (hshut : ¬ShutsDown event) :
    Asked (log ++ [event]) ↔ Asked log := by
  rw [asked_append, or_iff_left]
  rintro (hmem | ⟨other, hmem, hother⟩)
  · exact hsignal (List.mem_singleton.mp hmem).symm
  · rw [List.mem_singleton.mp hmem] at hother
    exact hshut hother

theorem Stopping.step (port : OutboundPort ω) (h : Stopping (r, log)) (step : LoopStep) :
    Stopping (advance port (r, log) step) := by
  have hkeys : typedKeys log = readKeys log ++ r.keys := h.keys
  have hasked : r.keepRunning = false ↔ Asked log := h.asked
  cases step with
  | loop answer =>
      rcases (loop_move port r answer).cases with ⟨key, keys, hphase, hkeys, hevents, hnext⟩ | hmove
      · unfold advance
        simp only [RunnerLoop.step, hevents, hnext]
        exact h.read hphase hkeys
      · exact h.proceed hmove
  | signal =>
      refine h.note rfl rfl ?_ ⟨fun _ => .inl (List.mem_append_right log (List.mem_singleton_self _)), fun _ => rfl⟩
        (fun hshut => absurd hshut not_false)
      rw [typedKeys_append, readKeys_append, hkeys]
      show _ ++ [] = _ ++ [] ++ r.keys
      rw [List.append_nil, List.append_nil]
  | key key =>
      refine h.note rfl rfl ?_ ?_ (fun hshut => absurd hshut not_false)
      · rw [typedKeys_append, readKeys_append, hkeys]
        show _ ++ [key] = _ ++ [] ++ (r.keys ++ [key])
        rw [List.append_nil, List.append_assoc]
      · have hsilent : Asked (log ++ [.typed key]) ↔ Asked log := asked_silent LoopEvent.noConfusion not_false
        exact hasked.trans hsilent.symm
  | processed stream frame =>
      have hreceive : (r.receive stream frame).phase = r.phase ∧ (r.receive stream frame).keys = r.keys ∧
          (r.receive stream frame).keepRunning = r.keepRunning := by
        cases stream <;> exact ⟨rfl, rfl, rfl⟩
      obtain ⟨hphase, hsame, hrunning⟩ := hreceive
      refine h.note rfl hphase ?_ ?_ (fun hshut => absurd hshut not_false)
      · rw [typedKeys_append, readKeys_append, hkeys]
        show _ ++ [] = _ ++ [] ++ (r.receive stream frame).keys
        rw [hsame, List.append_nil, List.append_nil]
      · have hsilent : Asked (log ++ [.processed stream frame]) ↔ Asked log :=
          asked_silent LoopEvent.noConfusion not_false
        show (r.receive stream frame).keepRunning = false ↔ _
        rw [hrunning]
        exact hasked.trans hsilent.symm
  | detectionFailed error =>
      show Stopping ({ r with forwardError := some error }, log ++ [])
      rw [List.append_nil]
      exact ⟨h.keys, h.asked, h.returned, h.idle, h.shutDown, h.round, h.between, h.signalled⟩

/-! ### Runs -/

theorem start_eq {application : CompanionApplication ω} {snapshotIntervalMs : UInt32} {now : TimePoint}
    {interactive forwardCamera : Bool} {snapshotSinks previewSinks : List (Option Nat)}
    (h : start application snapshotIntervalMs now interactive forwardCamera snapshotSinks previewSinks = .ok r) :
    snapshotSinks ≠ [] ∧ r =
      { application := application
        snapshotInterval := milliseconds snapshotIntervalMs.toNat
        nextSnapshot := now
        interactive := interactive
        forwardCamera := forwardCamera
        snapshotSinks := snapshotSinks
        previewSinks := previewSinks } := by
  cases snapshotSinks with
  | nil => cases h
  | cons sink sinks =>
      cases h
      exact ⟨List.cons_ne_nil _ _, rfl⟩

theorem stopping_run {application : CompanionApplication ω} {snapshotIntervalMs : UInt32} {now : TimePoint}
    {interactive forwardCamera : Bool} {snapshotSinks previewSinks : List (Option Nat)}
    (h : start application snapshotIntervalMs now interactive forwardCamera snapshotSinks previewSinks = .ok r)
    (port : OutboundPort ω) (steps : List LoopStep) : Stopping (run port r steps) := by
  obtain ⟨-, rfl⟩ := start_eq h
  induction steps using List.reverseRecOn with
  | nil => exact stopping_start rfl rfl rfl
  | append_singleton steps step ih =>
      rw [run, List.foldl_append]
      exact ih.step port step

/-- Whatever comes in between and in whatever order: keys are read in the order in which they are typed and none
is lost; behind a shutdown key that was read, the loop neither polls nor publishes anything any more; behind a
signal it does at most what is left of the round that the signal came in, everything once, in its order and behind
what it had done of that round; and it returns only when a stop was requested. -/
theorem run_stops {application : CompanionApplication ω} {snapshotIntervalMs : UInt32} {now : TimePoint}
    {interactive forwardCamera : Bool} {snapshotSinks previewSinks : List (Option Nat)}
    (h : start application snapshotIntervalMs now interactive forwardCamera snapshotSinks previewSinks = .ok r)
    (port : OutboundPort ω) (steps : List LoopStep) :
    typedKeys (run port r steps).2 = readKeys (run port r steps).2 ++ (run port r steps).1.keys ∧
    (∀ before key after, (run port r steps).2 = before ++ .read key :: after →
      (runtimeCommand? key).isSome = true → ranks after = []) ∧
    (∀ before after, (run port r steps).2 = before ++ .signalled :: after →
      (roundOf (ranks before) ++ ranks after).Pairwise (· < ·)) ∧
    ((run port r steps).1.phase = .returned → Asked (run port r steps).2) := by
  have hrun := stopping_run h port steps
  exact ⟨hrun.keys, fun before key after hsplit hshut => hrun.shutDown before _ after hsplit hshut,
    fun before after hsplit => (hrun.signalled before _ after hsplit rfl).sorted,
    fun hreturned => hrun.asked.mp (hrun.returned hreturned)⟩

/-- The loop of an interactive program with one sink. -/
def interactiveLoop : RunnerLoop Unit where
  application := .start () none []
  snapshotInterval := milliseconds 100
  nextSnapshot := 0
  interactive := true
  forwardCamera := false
  snapshotSinks := [some 0]
  previewSinks := []

theorem run_stops_interactive :
    let s := run CompanionApplication.acceptingPort interactiveLoop
      [.key 'x', .key 'q', .loop .proceed, .loop .proceed, .loop .proceed, .loop .proceed, .loop .proceed]
    s.1.phase = .returned ∧ Asked s.2 :=
  ⟨rfl, (run_stops (show start (.start () none []) 100 0 true false [some 0] [] = .ok interactiveLoop from rfl)
    CompanionApplication.acceptingPort _).2.2.2 rfl⟩

end RunnerLoop

end OnboardAutonomy
