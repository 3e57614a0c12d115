import Mathlib.Data.List.Forall2
import Mathlib.Data.List.NodupEquivFin

/-! Steps that may fail, one after the other: what is known of them when they succeed, and which one failed when
they do not. Nothing here is about a particular program. -/

namespace OnboardAutonomy.Attempts

variable {ε α β : Type}

theorem bind_eq_ok {x : Except ε α} {f : α → Except ε β} {b : β} :
    (x >>= f) = .ok b ↔ ∃ a, x = .ok a ∧ f a = .ok b := by
  cases x with
  | error e =>
      exact ⟨fun h => Except.noConfusion rfl rfl (heq_of_eq h),
        fun ⟨_, h, _⟩ => Except.noConfusion rfl rfl (heq_of_eq h)⟩
  | ok a => exact ⟨fun h => ⟨a, rfl, h⟩, fun ⟨_, ha, h⟩ => Except.ok.inj ha ▸ h⟩

theorem bind_eq_error {x : Except ε α} {f : α → Except ε β} {e : ε} :
    (x >>= f) = .error e ↔ x = .error e ∨ ∃ a, x = .ok a ∧ f a = .error e := by
  cases x with
  | error e' => simp [bind, Except.bind]
  | ok a => simp [bind, Except.bind]

variable {f : α → Except ε β} {elements : List α}

/-- A map succeeds with the results of the elements, in their order. -/
theorem mapM_eq_ok {results : List β} :
    elements.mapM f = .ok results ↔ List.Forall₂ (fun a b => f a = .ok b) elements results := by
  induction elements generalizing results with
  | nil =>
      rw [List.mapM_nil, List.forall₂_nil_left_iff]
      exact ⟨fun h => (Except.ok.inj h).symm, fun h => h ▸ rfl⟩
  | cons a elements ih =>
      rw [List.mapM_cons, bind_eq_ok, List.forall₂_cons_left_iff]
      constructor
      · rintro ⟨b, hb, h⟩
        obtain ⟨rest, hrest, h⟩ := bind_eq_ok.mp h
        exact ⟨b, rest, hb, ih.mp hrest, (Except.ok.inj h).symm⟩
      · rintro ⟨b, rest, hb, hrest, rfl⟩
        exact ⟨b, hb, bind_eq_ok.mpr ⟨rest, ih.mpr hrest, rfl⟩⟩

theorem mapM_isOk : (∃ results, elements.mapM f = .ok results) ↔ ∀ a ∈ elements, ∃ b, f a = .ok b := by
  induction elements with
  | nil => exact ⟨fun _ => List.forall_mem_nil _, fun _ => ⟨[], rfl⟩⟩
  | cons a elements ih =>
      rw [List.forall_mem_cons, ← ih]
      constructor
      · rintro ⟨results, h⟩
        obtain ⟨b, rest, hb, hrest, rfl⟩ := List.forall₂_cons_left_iff.mp (mapM_eq_ok.mp h)
        exact ⟨⟨b, hb⟩, rest, mapM_eq_ok.mpr hrest⟩
      · rintro ⟨⟨b, hb⟩, rest, hrest⟩
        exact ⟨b :: rest, mapM_eq_ok.mpr (.cons hb (mapM_eq_ok.mp hrest))⟩

/-- A map fails with the failure of its first element that has none. -/
theorem mapM_eq_error {e : ε} :
    elements.mapM f = .error e ↔ ∃ before a after, elements = before ++ a :: after ∧
      (∀ b ∈ before, ∃ result, f b = .ok result) ∧ f a = .error e := by
  induction elements with
  | nil =>
      constructor
      · exact fun h => Except.noConfusion rfl rfl (heq_of_eq h)
      · rintro ⟨before, a, after, h, -⟩
        cases before <;> cases h
  | cons first elements ih =>
      rw [List.mapM_cons, bind_eq_error]
      constructor
      · rintro (hfirst | ⟨b, hb, h⟩)
        · exact ⟨[], first, elements, rfl, List.forall_mem_nil _, hfirst⟩
        · rcases bind_eq_error.mp h with h | ⟨rest, -, h⟩
          · obtain ⟨before, a, after, rfl, hbefore, ha⟩ := ih.mp h
            exact ⟨first :: before, a, after, rfl, List.forall_mem_cons.mpr ⟨⟨b, hb⟩, hbefore⟩, ha⟩
          · cases h
      · rintro ⟨before, a, after, h, hbefore, ha⟩
        cases before with
        | nil =>
            cases h
            exact .inl ha
        | cons _ before =>
            cases h
            obtain ⟨⟨b, hb⟩, hbefore⟩ := List.forall_mem_cons.mp hbefore
            exact .inr ⟨b, hb, bind_eq_error.mpr (.inl (ih.mpr ⟨before, a, after, rfl, hbefore, ha⟩))⟩

/-- What is related on the right is related to something on the left. -/
theorem exists_of_mem_right {relates : α → β → Prop} {results : List β} {b : β}
    (h : List.Forall₂ relates elements results) (hb : b ∈ results) : ∃ a ∈ elements, relates a b := by
  obtain ⟨index, hindex, rfl⟩ := List.mem_iff_getElem.mp hb
  exact ⟨_, List.getElem_mem (h.length_eq ▸ hindex), h.get (h.length_eq ▸ hindex) hindex⟩

/-- Elements that are related through others, one by one. -/
theorem forall₂_comp {γ : Type} {first : α → β → Prop} {second : β → γ → Prop} {both : α → γ → Prop}
    {middle : List β} {last : List γ} (hfirst : List.Forall₂ first elements middle)
    (hsecond : List.Forall₂ second middle last) (h : ∀ a b c, first a b → second b c → both a c) :
    List.Forall₂ both elements last := by
  induction hfirst generalizing last with
  | nil =>
      cases hsecond
      exact .nil
  | cons hab _ ih =>
      cases hsecond with
      | cons hbc hsecond => exact .cons (h _ _ _ hab hbc) (ih hsecond)

/-! ### Choices by position -/

section Choices

variable {γ : Type} {relates : Nat → β → Prop}

/-- What is chosen from a part of a list, at different places of it, is at different places of the list. -/
theorem positions_of_sublist {kept all : List α} (h : kept.Sublist all) {indices : List Nat}
    (hnodup : indices.Nodup) :
    ∃ position : Nat → Nat, (indices.map position).Nodup ∧ ∀ index, kept[index]? = all[position index]? := by
  obtain ⟨position, hposition⟩ := List.sublist_iff_exists_orderEmbedding_getElem?_eq.mp h
  exact ⟨position, hnodup.map position.injective, hposition⟩

/-- Choices for different keys, each at different places that belong to its key, are at different places. -/
theorem positions_flatten {keys : List γ} {chosen : List (List β)} {key : Nat → Option γ}
    (h : List.Forall₂ (fun k bs => ∃ positions : List Nat, positions.Nodup ∧
      (∀ position ∈ positions, key position = some k) ∧ List.Forall₂ relates positions bs) keys chosen)
    (hkeys : keys.Nodup) :
    ∃ positions : List Nat, positions.Nodup ∧
      (∀ position ∈ positions, ∃ k ∈ keys, key position = some k) ∧
      List.Forall₂ relates positions chosen.flatten := by
  induction h with
  | nil => exact ⟨[], List.nodup_nil, List.forall_mem_nil _, .nil⟩
  | @cons k _ keys _ hfirst _ ih =>
      obtain ⟨hnot, hkeys⟩ := List.nodup_cons.mp hkeys
      obtain ⟨positions, hnodup, hkey, hrelates⟩ := hfirst
      obtain ⟨others, hothers, hotherKeys, hall⟩ := ih hkeys
      refine ⟨positions ++ others, List.nodup_append'.mpr ⟨hnodup, hothers, ?_⟩, ?_, ?_⟩
      · intro position hposition hother
        obtain ⟨k', hk', hkey'⟩ := hotherKeys position hother
        rw [hkey position hposition] at hkey'
        exact hnot (Option.some.inj hkey' ▸ hk')
      · intro position hposition
        rcases List.mem_append.mp hposition with hposition | hposition
        · exact ⟨k, List.mem_cons_self, hkey position hposition⟩
        · obtain ⟨k', hk', hkey'⟩ := hotherKeys position hposition
          exact ⟨k', List.mem_cons_of_mem k hk', hkey'⟩
      · rw [List.flatten_cons]
        exact List.rel_append hrelates hall

/-- Choices that go with sorted keys are sorted. -/
theorem pairwise_flatten {keys : List γ} {chosen : List (List β)} {r : γ → γ → Prop} {key : β → γ}
    (hrefl : ∀ k, r k k) (h : List.Forall₂ (fun k bs => ∀ b ∈ bs, key b = k) keys chosen)
    (hkeys : keys.Pairwise r) : (chosen.flatten.map key).Pairwise r ∧ ∀ b ∈ chosen.flatten, key b ∈ keys := by
  induction h with
  | nil => exact ⟨List.Pairwise.nil, List.forall_mem_nil _⟩
  | @cons k _ keys _ hfirst _ ih =>
      obtain ⟨hbefore, hkeys⟩ := List.pairwise_cons.mp hkeys
      obtain ⟨hsorted, hmem⟩ := ih hkeys
      rw [List.flatten_cons]
      refine ⟨?_, ?_⟩
      · rw [List.map_append, List.pairwise_append]
        refine ⟨?_, hsorted, ?_⟩
        · rw [List.pairwise_map]
          exact List.pairwise_of_forall_mem_list fun a ha b hb => by
            rw [hfirst a ha, hfirst b hb]
            exact hrefl k
        · intro a ha b hb
          obtain ⟨a', ha', rfl⟩ := List.mem_map.mp ha
          obtain ⟨b', hb', rfl⟩ := List.mem_map.mp hb
          rw [hfirst a' ha']
          exact hbefore _ (hmem b' hb')
      · intro b hb
        rcases List.mem_append.mp hb with hb | hb
        · exact hfirst b hb ▸ List.mem_cons_self
        · exact List.mem_cons_of_mem k (hmem b hb)

end Choices

end OnboardAutonomy.Attempts
