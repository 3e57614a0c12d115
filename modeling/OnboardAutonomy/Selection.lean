import Mathlib.Data.List.Forall2
import Mathlib.Order.Lattice

/-! Selections by a scan: the first index with the greatest value, the elements of a list that have a result,
and maps that may fail. Nothing here is about a particular program. -/

namespace OnboardAutonomy.Selection

/-! ### The first of the greatest -/

section FirstBest

variable {α : Type} [LinearOrder α] {floor : α} {value value' : Nat → Option α} {bound index : Nat} {best : α}

/-- No index below the bound has a value above the floor. -/
def Barren (floor : α) (value : Nat → Option α) (bound : Nat) : Prop :=
  ∀ other < bound, ∀ v, value other = some v → v ≤ floor

/-- The first index below the bound that has the greatest value, which is above the floor. -/
structure FirstBest (floor : α) (value : Nat → Option α) (bound index : Nat) (best : α) : Prop where
  lt : index < bound
  value_eq : value index = some best
  above : floor < best
  highest : ∀ other < bound, ∀ v, value other = some v → v ≤ best
  first : ∀ other < index, value other ≠ some best

theorem Barren.succ (h : Barren floor value bound) (hle : ∀ v, value bound = some v → v ≤ floor) :
    Barren floor value (bound + 1) := by
  intro other hother v hv
  rcases Nat.lt_succ_iff_lt_or_eq.mp hother with hlt | rfl
  · exact h other hlt v hv
  · exact hle v hv

theorem Barren.take (h : Barren floor value bound) {v : α} (hv : value bound = some v) (hlt : floor < v) :
    FirstBest floor value (bound + 1) bound v := by
  refine ⟨Nat.lt_succ_self bound, hv, hlt, fun other hother w hw => ?_, fun other hother hw => ?_⟩
  · rcases Nat.lt_succ_iff_lt_or_eq.mp hother with hbelow | rfl
    · exact (h other hbelow w hw).trans hlt.le
    · exact (Option.some.inj (hw.symm.trans hv)).le
  · exact absurd (h other hother v hw) (not_le.mpr hlt)

namespace FirstBest

theorem keep (h : FirstBest floor value bound index best) (hle : ∀ v, value bound = some v → v ≤ best) :
    FirstBest floor value (bound + 1) index best := by
  refine ⟨Nat.lt_succ_of_lt h.lt, h.value_eq, h.above, fun other hother v hv => ?_, h.first⟩
  rcases Nat.lt_succ_iff_lt_or_eq.mp hother with hlt | rfl
  · exact h.highest other hlt v hv
  · exact hle v hv

theorem take (h : FirstBest floor value bound index best) {v : α} (hv : value bound = some v)
    (hlt : best < v) : FirstBest floor value (bound + 1) bound v := by
  have hbarren : Barren best value bound := h.highest
  obtain ⟨hbound, hvalue, -, hhighest, hfirst⟩ := hbarren.take hv hlt
  exact ⟨hbound, hvalue, h.above.trans hlt, hhighest, hfirst⟩

theorem unique {index' : Nat} {best' : α} (h : FirstBest floor value bound index best)
    (h' : FirstBest floor value bound index' best') : index = index' ∧ best = best' := by
  have hbest : best = best' :=
    le_antisymm (h'.highest index h.lt best h.value_eq) (h.highest index' h'.lt best' h'.value_eq)
  subst hbest
  refine ⟨?_, rfl⟩
  rcases Nat.lt_trichotomy index index' with hlt | heq | hgt
  · exact absurd h.value_eq (h'.first index hlt)
  · exact heq
  · exact absurd h'.value_eq (h.first index' hgt)

/-- Fewer indices with a value have the same first best, if it is among them. -/
theorem restrict (h : FirstBest floor value bound index best) (hvalue : value' index = some best)
    (hfewer : ∀ other v, value' other = some v → value other = some v) :
    FirstBest floor value' bound index best :=
  ⟨h.lt, hvalue, h.above, fun other hother v hv => h.highest other hother v (hfewer other v hv),
    fun other hother hv => h.first other hother (hfewer other best hv)⟩

end FirstBest

theorem barren_or_firstBest (floor : α) (value : Nat → Option α) (bound : Nat) :
    Barren floor value bound ∨ ∃ index best, FirstBest floor value bound index best := by
  induction bound with
  | zero => exact Or.inl fun other hother => absurd hother (Nat.not_lt_zero other)
  | succ bound ih =>
      rcases ih with hbarren | ⟨index, best, hbest⟩
      · by_cases hlt : ∃ v, value bound = some v ∧ floor < v
        · obtain ⟨v, hv, hlt⟩ := hlt
          exact Or.inr ⟨bound, v, hbarren.take hv hlt⟩
        · exact Or.inl (hbarren.succ fun v hv => not_lt.mp fun h => hlt ⟨v, hv, h⟩)
      · by_cases hlt : ∃ v, value bound = some v ∧ best < v
        · obtain ⟨v, hv, hlt⟩ := hlt
          exact Or.inr ⟨bound, v, hbest.take hv hlt⟩
        · exact Or.inr ⟨index, best, hbest.keep fun v hv => not_lt.mp fun h => hlt ⟨v, hv, h⟩⟩

end FirstBest

/-! ### The elements that have a result -/

section Results

variable {α β : Type} {result : α → Option β} {chosen : α → Bool} {describes : α → β → Prop}

/-- An element has a result when it is chosen, and what it has is described. -/
def Matches (result : α → Option β) (chosen : α → Bool) (describes : α → β → Prop) (a : α) : Prop :=
  ((result a).isSome = true ↔ chosen a = true) ∧ ∀ b, result a = some b → describes a b

theorem Matches.none {a : α} (hresult : result a = none) (hchosen : ¬chosen a = true) :
    Matches result chosen describes a := by
  rw [Matches, hresult]
  exact ⟨⟨fun hsome => absurd hsome Bool.false_ne_true, fun h => absurd h hchosen⟩,
    fun b hb => absurd hb.symm (Option.some_ne_none b)⟩

theorem Matches.some {a : α} {b : β} (hresult : result a = some b) (hchosen : chosen a = true)
    (hdescribes : describes a b) : Matches result chosen describes a := by
  rw [Matches, hresult]
  exact ⟨⟨fun _ => hchosen, fun _ => rfl⟩, fun b' hb' => Option.some.inj hb' ▸ hdescribes⟩

theorem forall₂_of_matches {elements : List α} (h : ∀ a ∈ elements, Matches result chosen describes a) :
    List.Forall₂ describes (elements.filter chosen) (elements.filterMap result) := by
  induction elements with
  | nil => exact .nil
  | cons a elements ih =>
      obtain ⟨⟨hiff, hdescribes⟩, hrest⟩ := List.forall_mem_cons.mp h
      cases hresult : result a with
      | none =>
          have hchosen : ¬chosen a = true := by
            rw [← hiff, hresult]
            exact Bool.false_ne_true
          rw [List.filter_cons_of_neg hchosen, List.filterMap_cons_none hresult]
          exact ih hrest
      | some b =>
          have hchosen : chosen a = true := by
            rw [← hiff, hresult]
            rfl
          rw [List.filter_cons_of_pos hchosen, List.filterMap_cons_some hresult]
          exact .cons (hdescribes b hresult) (ih hrest)

theorem length_le_of_chosen {elements : List α}
    (h : ∀ a ∈ elements, (result a).isSome = true → chosen a = true) :
    (elements.filterMap result).length ≤ (elements.filter chosen).length := by
  rw [List.length_filterMap_eq_countP, ← List.countP_eq_length_filter]
  exact List.countP_mono_left h

theorem length_le_of_result {elements : List α}
    (h : ∀ a ∈ elements, chosen a = true → (result a).isSome = true) :
    (elements.filter chosen).length ≤ (elements.filterMap result).length := by
  rw [List.length_filterMap_eq_countP, ← List.countP_eq_length_filter]
  exact List.countP_mono_left h

/-- What describes the chosen elements are their results, if those with a result are all chosen or the chosen
all have one. -/
theorem matches_of_forall₂ {elements : List α}
    (hwithin : (∀ a ∈ elements, (result a).isSome = true → chosen a = true) ∨
      ∀ a ∈ elements, chosen a = true → (result a).isSome = true)
    (h : List.Forall₂ describes (elements.filter chosen) (elements.filterMap result)) :
    ∀ a ∈ elements, Matches result chosen describes a := by
  induction elements with
  | nil => exact List.forall_mem_nil _
  | cons a elements ih =>
      have hwithin' : (∀ a ∈ elements, (result a).isSome = true → chosen a = true) ∨
          ∀ a ∈ elements, chosen a = true → (result a).isSome = true :=
        hwithin.imp (fun h => (List.forall_mem_cons.mp h).2) fun h => (List.forall_mem_cons.mp h).2
      cases hresult : result a with
      | none =>
          rw [List.filterMap_cons_none hresult] at h
          by_cases hchosen : chosen a = true
          · -- The result of a later element would stand in for the missing one.
            rw [List.filter_cons_of_pos hchosen] at h
            rcases hwithin with hall | hall
            · have hlength := h.length_eq
              have hle := length_le_of_chosen (List.forall_mem_cons.mp hall).2
              rw [List.length_cons] at hlength
              omega
            · have hsome := hall a List.mem_cons_self hchosen
              rw [hresult] at hsome
              exact absurd hsome Bool.false_ne_true
          · rw [List.filter_cons_of_neg hchosen] at h
            exact List.forall_mem_cons.mpr ⟨.none hresult hchosen, ih hwithin' h⟩
      | some b =>
          rw [List.filterMap_cons_some hresult] at h
          by_cases hchosen : chosen a = true
          · rw [List.filter_cons_of_pos hchosen] at h
            obtain ⟨hdescribes, hrest⟩ := List.forall₂_cons.mp h
            exact List.forall_mem_cons.mpr ⟨.some hresult hchosen hdescribes, ih hwithin' hrest⟩
          · rw [List.filter_cons_of_neg hchosen] at h
            rcases hwithin with hall | hall
            · exact absurd (hall a List.mem_cons_self (by rw [hresult]; rfl)) hchosen
            · have hlength := h.length_eq
              have hle := length_le_of_result (List.forall_mem_cons.mp hall).2
              rw [List.length_cons] at hlength
              omega

end Results

/-! ### Maps that may fail -/

section Fallible

variable {α β : Type} {f : α → Option β} {g : α → β} {elements : List α}

theorem mapM_eq_some (h : ∀ a ∈ elements, f a = some (g a)) : elements.mapM f = some (elements.map g) := by
  induction elements with
  | nil => rfl
  | cons a elements ih =>
      obtain ⟨ha, hrest⟩ := List.forall_mem_cons.mp h
      rw [List.mapM_cons, ha, ih hrest]
      rfl

theorem mapM_eq_none {a : α} (ha : a ∈ elements) (h : f a = none) : elements.mapM f = none := by
  induction elements with
  | nil => cases ha
  | cons b elements ih =>
      rw [List.mapM_cons]
      rcases List.mem_cons.mp ha with rfl | hmem
      · rw [h]
        rfl
      · rw [ih hmem]
        cases f b <;> rfl

theorem exists_of_mem_mapM {results : List β} (h : elements.mapM f = some results) {b : β} (hb : b ∈ results) :
    ∃ a ∈ elements, f a = some b := by
  induction elements generalizing results with
  | nil =>
      cases h
      cases hb
  | cons a elements ih =>
      simp only [List.mapM_cons, Option.bind_eq_bind, Option.bind_eq_some_iff, Option.pure_def] at h
      obtain ⟨first, hfirst, rest, hrest, hresults⟩ := h
      cases hresults
      rcases List.mem_cons.mp hb with rfl | hmem
      · exact ⟨a, List.mem_cons_self, hfirst⟩
      · obtain ⟨a', ha', hb'⟩ := ih hrest hmem
        exact ⟨a', List.mem_cons_of_mem a ha', hb'⟩

end Fallible

end OnboardAutonomy.Selection
