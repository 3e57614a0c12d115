import Mathlib.Data.List.DropRight
import Mathlib.Data.List.TakeWhile

/-! Scanning a text: the run of elements with a property at its head, what is left of it without such elements
at its two ends, the last element with a property, and the first occurrence of a key. Each is told by how the
text falls apart, which it does in one way only. Nothing here is about a particular program. -/

namespace OnboardAutonomy.Scanning

variable {α : Type}

/-- A text as a run of elements with a property, which goes as far as it can, and what follows it. -/
structure Run (p : α → Bool) (text run rest : List α) : Prop where
  joined : run ++ rest = text
  all : ∀ element ∈ run, p element = true
  stop : ∀ element ∈ rest.head?, p element = false

namespace Run

variable {p : α → Bool} {text run rest run' rest' : List α}

theorem scan (p : α → Bool) (text : List α) : Run p text (text.takeWhile p) (text.dropWhile p) where
  joined := List.takeWhile_append_dropWhile
  all := fun _ h => List.mem_takeWhile_imp h
  stop := fun element h => by
    cases hrest : text.dropWhile p with
    | nil =>
        rw [hrest] at h
        cases h
    | cons head tail =>
        rw [hrest] at h
        cases Option.some.inj h
        have hne : text.dropWhile p ≠ [] := by
          rw [hrest]
          exact List.cons_ne_nil _ _
        have hhead := List.head_dropWhile_not p hne
        simpa [hrest] using hhead

theorem takeWhile_eq (h : Run p text run rest) : text.takeWhile p = run := by
  rw [← h.joined, List.takeWhile_append_of_pos h.all]
  cases hrest : rest with
  | nil => exact List.append_nil run
  | cons head tail =>
      have hhead := h.stop head (by rw [hrest]; rfl)
      rw [List.takeWhile_cons_of_neg (by rw [hhead]; exact Bool.false_ne_true), List.append_nil]

theorem dropWhile_eq (h : Run p text run rest) : text.dropWhile p = rest := by
  have hscan := (scan p text).joined
  rw [h.takeWhile_eq] at hscan
  exact List.append_cancel_left (hscan.trans h.joined.symm)

theorem unique (h : Run p text run rest) (h' : Run p text run' rest') : run = run' ∧ rest = rest' :=
  ⟨h.takeWhile_eq.symm.trans h'.takeWhile_eq, h.dropWhile_eq.symm.trans h'.dropWhile_eq⟩

end Run

/-- A text as what is left without the elements with a property at its two ends, and those. -/
structure Core (p : α → Bool) (text lead core trail : List α) : Prop where
  joined : lead ++ (core ++ trail) = text
  lead_all : ∀ element ∈ lead, p element = true
  trail_all : ∀ element ∈ trail, p element = true
  head : ∀ element ∈ core.head?, p element = false
  last : ∀ element ∈ core.getLast?, p element = false

def strip (p : α → Bool) (text : List α) : List α := (text.dropWhile p).rdropWhile p

namespace Core

variable {p : α → Bool} {text lead core trail more : List α}

theorem scan (p : α → Bool) (text : List α) : ∃ lead trail, Core p text lead (strip p text) trail := by
  have hrun := Run.scan p text
  refine ⟨text.takeWhile p, (text.dropWhile p).rtakeWhile p, ?_, hrun.all, ?_, ?_, ?_⟩
  · rw [strip, List.rdropWhile_append_rtakeWhile, List.takeWhile_append_dropWhile]
  · exact fun element h => List.mem_rtakeWhile_imp h
  · intro element h
    obtain ⟨rest, hrest⟩ := List.rdropWhile_prefix p (text.dropWhile p)
    refine hrun.stop element ?_
    rw [← hrest, List.head?_append, Option.mem_def]
    exact Option.or_eq_some_iff.mpr (Or.inl h)
  · intro element h
    obtain ⟨hne, rfl⟩ := List.mem_getLast?_eq_getLast h
    exact Bool.eq_false_iff.mpr (List.rdropWhile_last_not p _ hne)

theorem append_right (h : Core p text lead core trail) (hmore : ∀ element ∈ more, p element = true) :
    Core p (text ++ more) lead core (trail ++ more) where
  joined := by rw [← h.joined, List.append_assoc, List.append_assoc]
  lead_all := h.lead_all
  trail_all := List.forall_mem_append.mpr ⟨h.trail_all, hmore⟩
  head := h.head
  last := h.last

theorem append_left (h : Core p text lead core trail) (hmore : ∀ element ∈ more, p element = true) :
    Core p (more ++ text) (more ++ lead) core trail where
  joined := by rw [← h.joined, List.append_assoc]
  lead_all := List.forall_mem_append.mpr ⟨hmore, h.lead_all⟩
  trail_all := h.trail_all
  head := h.head
  last := h.last

theorem rdropWhile_append (h : ∀ element ∈ trail, p element = true) :
    (core ++ trail).rdropWhile p = core.rdropWhile p := by
  induction trail using List.reverseRecOn with
  | nil => rw [List.append_nil]
  | append_singleton trail element ih =>
      obtain ⟨htrail, helement⟩ := List.forall_mem_append.mp h
      rw [← List.append_assoc, List.rdropWhile_concat_pos _ _ _ (helement element List.mem_cons_self),
        ih htrail]

theorem strip_eq (h : Core p text lead core trail) : strip p text = core := by
  rw [strip, ← h.joined, List.dropWhile_append_of_pos h.lead_all]
  cases hcore : core with
  | nil =>
      rw [List.nil_append, List.dropWhile_eq_nil_iff.mpr h.trail_all]
      rfl
  | cons head tail =>
      have hhead : p head = false := h.head head (by rw [hcore]; rfl)
      rw [List.cons_append, List.dropWhile_cons_of_neg (by rw [hhead]; exact Bool.false_ne_true),
        ← List.cons_append, ← hcore, rdropWhile_append h.trail_all, List.rdropWhile_eq_self_iff]
      intro hne hlast
      rw [h.last _ (List.getLast?_eq_some_getLast hne)] at hlast
      exact Bool.false_ne_true hlast

end Core

section Strip

variable {p : α → Bool} {text more : List α}

theorem strip_append (hmore : ∀ element ∈ more, p element = true) : strip p (text ++ more) = strip p text := by
  obtain ⟨lead, trail, h⟩ := Core.scan p text
  exact (h.append_right hmore).strip_eq

theorem strip_append_left (hmore : ∀ element ∈ more, p element = true) :
    strip p (more ++ text) = strip p text := by
  obtain ⟨lead, trail, h⟩ := Core.scan p text
  exact (h.append_left hmore).strip_eq

theorem strip_eq_self (h : ∀ element ∈ text, p element = false) : strip p text = text := by
  have hcore : Core p text [] text [] :=
    { joined := List.append_nil text
      lead_all := List.forall_mem_nil _
      trail_all := List.forall_mem_nil _
      head := fun element helement => h element (List.mem_of_mem_head? helement)
      last := fun element helement => h element (List.mem_of_mem_getLast? helement) }
  exact hcore.strip_eq

theorem strip_strip : strip p (strip p text) = strip p text := by
  obtain ⟨lead, trail, h⟩ := Core.scan p text
  have hcore : Core p (strip p text) [] (strip p text) [] :=
    ⟨List.append_nil _, List.forall_mem_nil _, List.forall_mem_nil _, h.head, h.last⟩
  exact hcore.strip_eq

end Strip

/-- A text as what is in front of the last element with a property, that element, and what follows it. -/
structure LastOccurrence (p : α → Bool) (text before : List α) (element : α) (rest : List α) : Prop where
  joined : before ++ element :: rest = text
  holds : p element = true
  free : ∀ element ∈ rest, p element = false

namespace LastOccurrence

variable {p : α → Bool} {text before rest more : List α} {element : α}

/-- Going back from the end one comes to the last element with the property, or there is none. -/
theorem scan (p : α → Bool) (text : List α) :
    (text.rdropWhile (!p ·) = [] ∧ ∀ element ∈ text, p element = false) ∨
      ∃ before element rest, LastOccurrence p text before element rest := by
  induction text using List.reverseRecOn with
  | nil => exact Or.inl ⟨List.rdropWhile_nil _, List.forall_mem_nil _⟩
  | append_singleton text last ih =>
      cases hlast : p last with
      | true => exact Or.inr ⟨text, last, [], rfl, hlast, List.forall_mem_nil _⟩
      | false =>
          rcases ih with ⟨hnil, hfree⟩ | ⟨before, element, rest, h⟩
          · left
            rw [List.rdropWhile_concat_pos _ _ _ (by rw [hlast]; rfl)]
            refine ⟨hnil, List.forall_mem_append.mpr ⟨hfree, ?_⟩⟩
            exact List.forall_mem_singleton.mpr hlast
          · refine Or.inr ⟨before, element, rest ++ [last], ?_, h.holds, ?_⟩
            · rw [← h.joined, List.append_assoc]
              rfl
            · exact List.forall_mem_append.mpr ⟨h.free, List.forall_mem_singleton.mpr hlast⟩

theorem rdropWhile_eq (h : LastOccurrence p text before element rest) :
    text.rdropWhile (!p ·) = before ++ [element] := by
  have hrest : ∀ element ∈ rest, (!p element) = true := by
    intro element helement
    rw [h.free element helement]
    rfl
  rw [← h.joined, ← List.singleton_append, ← List.append_assoc, Core.rdropWhile_append hrest,
    List.rdropWhile_concat_neg _ _ _ (by rw [h.holds]; decide)]

theorem rtakeWhile_eq (h : LastOccurrence p text before element rest) : text.rtakeWhile (!p ·) = rest := by
  have hjoined : text.rdropWhile (!p ·) ++ text.rtakeWhile (!p ·) = text := List.rdropWhile_append_rtakeWhile
  rw [h.rdropWhile_eq, List.append_assoc] at hjoined
  exact List.cons_injective (List.append_cancel_left (hjoined.trans h.joined.symm))

theorem append_left (h : LastOccurrence p text before element rest) :
    LastOccurrence p (more ++ text) (more ++ before) element rest :=
  ⟨by rw [← h.joined, List.append_assoc], h.holds, h.free⟩

theorem append_right (h : LastOccurrence p text before element rest)
    (hmore : ∀ element ∈ more, p element = false) :
    LastOccurrence p (text ++ more) before element (rest ++ more) :=
  ⟨by rw [← h.joined, List.append_assoc, List.cons_append], h.holds,
    List.forall_mem_append.mpr ⟨h.free, hmore⟩⟩

end LastOccurrence

/-- A text as what is in front of a key where it occurs first, the key, and what follows it. -/
structure FirstOccurrence (key text before rest : List α) : Prop where
  joined : before ++ (key ++ rest) = text
  first : ∀ before' rest', before' ++ (key ++ rest') = text → before.length ≤ before'.length

namespace FirstOccurrence

variable {key text before rest before' rest' : List α} {element : α}

theorem here (joined : key ++ rest = text) : FirstOccurrence key text [] rest :=
  ⟨joined, fun before' _ _ => Nat.zero_le before'.length⟩

theorem cons (habsent : ∀ rest', key ++ rest' ≠ element :: text) (h : FirstOccurrence key text before rest) :
    FirstOccurrence key (element :: text) (element :: before) rest := by
  refine ⟨congrArg (element :: ·) h.joined, fun before' rest' hjoined => ?_⟩
  cases before' with
  | nil => exact absurd hjoined (habsent rest')
  | cons element' before' =>
      rw [List.cons_append] at hjoined
      exact Nat.succ_le_succ (h.first before' rest' (List.cons.inj hjoined).2)

/-- What follows any occurrence of the key ends what follows the first one. -/
theorem suffix (h : FirstOccurrence key text before rest) (hother : before' ++ (key ++ rest') = text) :
    rest' <:+ rest := by
  have hle := h.first before' rest' hother
  have hlength := congrArg List.length (hother.trans h.joined.symm)
  simp only [List.length_append] at hlength
  have hsuffix : rest <:+ text := ⟨before ++ key, (List.append_assoc _ _ _).trans h.joined⟩
  have hsuffix' : rest' <:+ text := ⟨before' ++ key, (List.append_assoc _ _ _).trans hother⟩
  exact List.suffix_of_suffix_length_le hsuffix' hsuffix (by omega)

/-- Another occurrence of the key is the first one, or it is found behind the head of the first one. -/
theorem other (h : FirstOccurrence key text before rest) (hother : before' ++ (key ++ rest') = text) :
    rest' = rest ∨ ∃ between, between ++ (key ++ rest') = (key ++ rest).tail := by
  have hle := h.first before' rest' hother
  have hjoined : before' ++ (key ++ rest') = before ++ (key ++ rest) := hother.trans h.joined.symm
  obtain ⟨between, rfl⟩ : before <+: before' :=
    List.prefix_of_prefix_length_le ⟨_, h.joined⟩ ⟨_, hother⟩ hle
  rw [List.append_assoc] at hjoined
  have hrest := List.append_cancel_left hjoined
  cases between with
  | nil => exact Or.inl (List.append_cancel_left hrest)
  | cons element between =>
      right
      refine ⟨between, ?_⟩
      rw [← hrest]
      rfl

end FirstOccurrence

variable [DecidableEq α]

theorem Run.firstOccurrence {element : α} {text run rest : List α}
    (h : Run (· != element) text run (element :: rest)) : FirstOccurrence [element] text run rest := by
  refine ⟨h.joined, fun before rest' hjoined => ?_⟩
  by_contra hlt
  have hprefix : before ++ [element] <+: text := ⟨rest', (List.append_assoc _ _ _).trans hjoined⟩
  have hlength : (before ++ [element]).length ≤ run.length := by
    rw [List.length_append, List.length_singleton]
    omega
  have hprefix := List.prefix_of_prefix_length_le hprefix ⟨_, h.joined⟩ hlength
  have hmem : element ∈ run := hprefix.subset (List.mem_append_right _ List.mem_cons_self)
  simpa using h.all element hmem

end OnboardAutonomy.Scanning
