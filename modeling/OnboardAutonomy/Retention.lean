import Mathlib.Algebra.Order.BigOperators.Group.List
import Mathlib.Algebra.Order.Group.Nat
import Mathlib.Algebra.GroupWithZero.Nat
import Mathlib.Data.List.Induction
import Mathlib.Data.List.Infix
import Mathlib.Data.List.Nodup

/-! Greedy retention. From a list in order of preference the first element is always kept, and every further
one as long as the number of kept elements and their total size stay within the limits; the rest is removed.
A list that fits the limits is kept as a whole, so an element is kept exactly if it leads the list or there
is room for it behind the elements that are preferred to it, when these fit. -/

namespace Retention

structure Limits where
  maxCount : Nat
  maxTotal : Nat
  count_pos : 1 ≤ maxCount

structure Selection (α : Type*) where
  kept : List α := []
  removed : List α := []
  total : Nat := 0

variable {α : Type*} (size : α → Nat) (limits : Limits)

def Selection.consider (selection : Selection α) (a : α) : Selection α :=
  if selection.kept.isEmpty ||
      (decide (selection.kept.length < limits.maxCount) &&
        decide (selection.total + size a ≤ limits.maxTotal)) then
    { selection with
      kept := selection.kept ++ [a]
      total := selection.total + size a }
  else { selection with removed := selection.removed ++ [a] }

def select (as : List α) : Selection α := as.foldl (Selection.consider size limits) {}

def totalSize (as : List α) : Nat := (as.map size).sum

/-- There is room for an element of a size behind some others. -/
def Room (before : List α) (needed : Nat) : Prop :=
  before = [] ∨ (before.length < limits.maxCount ∧ totalSize size before + needed ≤ limits.maxTotal)

instance (before : List α) (needed : Nat) [DecidableEq α] : Decidable (Room size limits before needed) :=
  inferInstanceAs (Decidable (_ ∨ _))

/-- Within the limits, but for the size of a single element. -/
def Fits (as : List α) : Prop :=
  as.length ≤ limits.maxCount ∧ (totalSize size as ≤ limits.maxTotal ∨ as.length ≤ 1)

theorem totalSize_append (as bs : List α) :
    totalSize size (as ++ bs) = totalSize size as + totalSize size bs := by
  rw [totalSize, List.map_append, List.sum_append]
  rfl

theorem totalSize_singleton (a : α) : totalSize size [a] = size a := by
  rw [totalSize, List.map_singleton, List.sum_singleton]

theorem totalSize_sublist {as bs : List α} (h : as.Sublist bs) : totalSize size as ≤ totalSize size bs :=
  (h.map size).sum_le_sum fun _ _ => Nat.zero_le _

theorem totalSize_perm {as bs : List α} (h : as.Perm bs) : totalSize size as = totalSize size bs :=
  (h.map size).sum_eq

theorem Fits.sublist {as bs : List α} (hfits : Fits size limits bs) (h : as.Sublist bs) :
    Fits size limits as := by
  refine ⟨h.length_le.trans hfits.1, ?_⟩
  rcases hfits.2 with htotal | hlength
  · exact Or.inl ((totalSize_sublist size h).trans htotal)
  · exact Or.inr (h.length_le.trans hlength)

theorem Fits.perm {as bs : List α} (hfits : Fits size limits bs) (h : as.Perm bs) : Fits size limits as := by
  rw [Fits, h.length_eq, totalSize_perm size h]
  exact hfits

theorem Room.perm {before before' : List α} (h : before.Perm before') (needed : Nat) :
    Room size limits before needed ↔ Room size limits before' needed := by
  rw [Room, Room, ← List.length_eq_zero_iff, h.length_eq, totalSize_perm size h, List.length_eq_zero_iff]

theorem select_concat (as : List α) (a : α) :
    select size limits (as ++ [a]) = (select size limits as).consider size limits a := by
  rw [select, List.foldl_append]
  rfl

/-- What is kept, and its total size. -/
theorem select_total (as : List α) :
    (select size limits as).total = totalSize size (select size limits as).kept := by
  induction as using List.reverseRecOn with
  | nil => rfl
  | append_singleton as a ih =>
      rw [select_concat, Selection.consider]
      split
      · rw [totalSize_append, totalSize_singleton, ← ih]
      · exact ih

theorem select_concat_of_room {as : List α} {a : α} (h : Room size limits (select size limits as).kept (size a)) :
    select size limits (as ++ [a]) =
      { kept := (select size limits as).kept ++ [a]
        removed := (select size limits as).removed
        total := (select size limits as).total + size a } := by
  rw [select_concat, Selection.consider, if_pos]
  rw [select_total]
  rcases h with hnil | ⟨hcount, htotal⟩
  · rw [hnil]
    rfl
  · simp [hcount, htotal]

theorem select_concat_of_not_room {as : List α} {a : α}
    (h : ¬Room size limits (select size limits as).kept (size a)) :
    select size limits (as ++ [a]) =
      { kept := (select size limits as).kept
        removed := (select size limits as).removed ++ [a]
        total := (select size limits as).total } := by
  rw [select_concat, Selection.consider, if_neg]
  rw [select_total]
  simpa [Room] using h

/-- What is kept fits the limits. -/
theorem fits_select (as : List α) : Fits size limits (select size limits as).kept := by
  induction as using List.reverseRecOn with
  | nil => exact ⟨Nat.zero_le _, Or.inr (Nat.zero_le _)⟩
  | append_singleton as a ih =>
      by_cases hroom : Room size limits (select size limits as).kept (size a)
      · rw [select_concat_of_room size limits hroom]
        rcases hroom with hnil | ⟨hcount, htotal⟩
        · rw [hnil]
          exact ⟨limits.count_pos, Or.inr (Nat.le_refl 1)⟩
        · refine ⟨?_, Or.inl ?_⟩
          · rw [List.length_append]
            exact hcount
          · rw [totalSize_append, totalSize_singleton]
            exact htotal
      · rw [select_concat_of_not_room size limits hroom]
        exact ih

/-- Every element is kept or removed, and once. -/
theorem select_perm (as : List α) :
    ((select size limits as).kept ++ (select size limits as).removed).Perm as := by
  induction as using List.reverseRecOn with
  | nil => exact List.Perm.refl []
  | append_singleton as a ih =>
      by_cases hroom : Room size limits (select size limits as).kept (size a)
      · rw [select_concat_of_room size limits hroom]
        have hmoved : ((select size limits as).kept ++ [a] ++ (select size limits as).removed).Perm
            ((select size limits as).kept ++ (select size limits as).removed ++ [a]) := by
          rw [List.append_assoc, List.append_assoc]
          exact List.perm_append_comm.append_left _
        exact hmoved.trans (ih.append_right [a])
      · rw [select_concat_of_not_room size limits hroom, ← List.append_assoc]
        exact ih.append_right [a]

/-- Elements that fit are all kept. -/
theorem select_of_fits {as : List α} (h : Fits size limits as) : (select size limits as).kept = as := by
  induction as using List.reverseRecOn with
  | nil => rfl
  | append_singleton as a ih =>
      have hkept := ih (h.sublist size limits (List.sublist_append_left as [a]))
      have hroom : Room size limits (select size limits as).kept (size a) := by
        rw [hkept]
        obtain ⟨hcount, htotal | hlength⟩ := h
        · rw [List.length_append] at hcount
          rw [totalSize_append, totalSize_singleton] at htotal
          exact Or.inr ⟨hcount, htotal⟩
        · rw [List.length_append, List.length_singleton] at hlength
          exact Or.inl (List.eq_nil_of_length_eq_zero (Nat.le_zero.mp (Nat.le_of_succ_le_succ hlength)))
      rw [select_concat_of_room size limits hroom, hkept]

/-- Whoever is kept stays kept, and whoever is removed stays removed. -/
theorem select_append_mono (as bs : List α) :
    (select size limits as).kept ⊆ (select size limits (as ++ bs)).kept ∧
      (select size limits as).removed ⊆ (select size limits (as ++ bs)).removed := by
  induction bs using List.reverseRecOn with
  | nil =>
      rw [List.append_nil]
      exact ⟨List.Subset.refl _, List.Subset.refl _⟩
  | append_singleton bs b ih =>
      rw [← List.append_assoc]
      by_cases hroom : Room size limits (select size limits (as ++ bs)).kept (size b)
      · rw [select_concat_of_room size limits hroom]
        exact ⟨List.Subset.trans ih.1 (List.subset_append_left _ _), ih.2⟩
      · rw [select_concat_of_not_room size limits hroom]
        exact ⟨ih.1, List.Subset.trans ih.2 (List.subset_append_left _ _)⟩

/-- What is kept is kept in the order of preference, and nothing is put in front of it later. -/
theorem select_kept_front (as bs : List α) :
    (select size limits as).kept <+: (select size limits (as ++ bs)).kept := by
  induction bs using List.reverseRecOn with
  | nil =>
      rw [List.append_nil]
  | append_singleton bs b ih =>
      rw [← List.append_assoc]
      by_cases hroom : Room size limits (select size limits (as ++ bs)).kept (size b)
      · rw [select_concat_of_room size limits hroom]
        exact ih.trans (List.prefix_append _ _)
      · rw [select_concat_of_not_room size limits hroom]
        exact ih

theorem select_kept_sublist (as : List α) : (select size limits as).kept.Sublist as := by
  induction as using List.reverseRecOn with
  | nil => exact List.Sublist.refl _
  | append_singleton as a ih =>
      by_cases hroom : Room size limits (select size limits as).kept (size a)
      · rw [select_concat_of_room size limits hroom]
        exact ih.append (List.Sublist.refl _)
      · rw [select_concat_of_not_room size limits hroom]
        exact ih.trans (List.sublist_append_left _ _)

/-- The element that is preferred to all others is kept. -/
theorem select_kept_head (a : α) (as : List α) : ∃ rest, (select size limits (a :: as)).kept = a :: rest := by
  have hroom : Room size limits (select size limits []).kept (size a) := Or.inl rfl
  have hfirst := select_kept_front size limits ([] ++ [a]) as
  rw [select_concat_of_room size limits hroom] at hfirst
  obtain ⟨rest, hrest⟩ := hfirst
  exact ⟨rest, hrest.symm⟩

theorem Fits.concat {before : List α} {a : α} (hfits : Fits size limits before)
    (hroom : Room size limits before (size a)) : Fits size limits (before ++ [a]) := by
  have hkept := select_of_fits size limits hfits
  rw [← hkept] at hroom
  have hfits' := fits_select size limits (before ++ [a])
  rw [select_concat_of_room size limits hroom] at hfits'
  rwa [hkept] at hfits'

/-- Behind elements that fit nothing more is kept, or the first further element that there is room for. -/
theorem select_behind {before : List α} (hfits : Fits size limits before) (after : List α) :
    ((∀ b ∈ after, ¬Room size limits before (size b)) ∧
      (select size limits (before ++ after)).kept = before) ∨
    ∃ b ∈ after, Room size limits before (size b) ∧
      before ++ [b] <+: (select size limits (before ++ after)).kept := by
  induction after using List.reverseRecOn with
  | nil =>
      refine Or.inl ⟨fun b hb => absurd hb List.not_mem_nil, ?_⟩
      rw [List.append_nil]
      exact select_of_fits size limits hfits
  | append_singleton after a ih =>
      rw [← List.append_assoc]
      rcases ih with ⟨hnone, hkept⟩ | ⟨b, hmem, hroom, hinit⟩
      · by_cases hroom : Room size limits before (size a)
        · refine Or.inr ⟨a, List.mem_append_right _ List.mem_cons_self, hroom, ?_⟩
          rw [← hkept] at hroom
          rw [select_concat_of_room size limits hroom, hkept]
        · refine Or.inl ⟨fun b hb => ?_, ?_⟩
          · rcases List.mem_append.mp hb with hb | hb
            · exact hnone b hb
            · rw [List.mem_singleton.mp hb]
              exact hroom
          · rw [← hkept] at hroom
            rw [select_concat_of_not_room size limits hroom, hkept]
      · exact Or.inr ⟨b, List.mem_append_left _ hmem, hroom,
          hinit.trans (select_kept_front size limits (before ++ after) [a])⟩

/-- A list fits, or there is a first element without room behind the ones before it. -/
theorem fits_or_split (as : List α) : Fits size limits as ∨
    ∃ before a after, as = before ++ a :: after ∧ Fits size limits before ∧
      ¬Room size limits before (size a) := by
  induction as using List.reverseRecOn with
  | nil => exact Or.inl ⟨Nat.zero_le _, Or.inr (Nat.zero_le _)⟩
  | append_singleton as a ih =>
      rcases ih with hfits | ⟨before, b, after, rfl, hfits, hroom⟩
      · by_cases hroom : Room size limits as (size a)
        · exact Or.inl (hfits.concat size limits hroom)
        · exact Or.inr ⟨as, a, [], rfl, hfits, hroom⟩
      · refine Or.inr ⟨before, b, after ++ [a], ?_, hfits, hroom⟩
        rw [List.append_assoc, List.cons_append]

/-- The kept elements come first exactly if no element has room where one that is preferred to it had not. -/
theorem select_kept_front_iff (as : List α) : (select size limits as).kept <+: as ↔
    ∀ before a after, as = before ++ a :: after → Fits size limits before →
      ¬Room size limits before (size a) → ∀ b ∈ after, ¬Room size limits before (size b) := by
  apply Iff.intro
  · rintro hinit before a after rfl hfits hroom b hmem hroom'
    have hroom'' : ¬Room size limits (select size limits before).kept (size a) := by
      rw [select_of_fits size limits hfits]
      exact hroom
    have hsame : ∀ c ∈ a :: after, Room size limits before (size c) →
        ¬before ++ [c] <+: before ++ a :: after := by
      rintro c - hroomc hfront
      rw [List.prefix_append_right_inj, List.cons_prefix_cons] at hfront
      rw [hfront.1] at hroomc
      exact hroom hroomc
    rcases select_behind size limits hfits (a :: after) with ⟨hnone, -⟩ | ⟨c, hc, hroomc, hinitc⟩
    · exact hnone b (List.mem_cons_of_mem _ hmem) hroom'
    · exact hsame c hc hroomc (hinitc.trans hinit)
  · intro hnone
    rcases fits_or_split size limits as with hfits | ⟨before, a, after, rfl, hfits, hroom⟩
    · rw [select_of_fits size limits hfits]
    · have hafter := hnone before a after rfl hfits hroom
      rcases select_behind size limits hfits (a :: after) with ⟨-, hkept⟩ | ⟨c, hc, hroomc, -⟩
      · rw [hkept]
        exact List.prefix_append _ _
      · rcases List.mem_cons.mp hc with rfl | hc
        · exact absurd hroomc hroom
        · exact absurd hroomc (hafter c hc)

/-- An element behind others that fit is kept exactly if there is room for it. -/
theorem mem_kept_iff {before after : List α} {a : α} (hnodup : (before ++ a :: after).Nodup)
    (hfits : Fits size limits before) :
    a ∈ (select size limits (before ++ a :: after)).kept ↔ Room size limits before (size a) := by
  have hsplit : before ++ a :: after = before ++ [a] ++ after := by
    rw [List.append_assoc, List.singleton_append]
  have hkept := select_of_fits size limits hfits
  obtain ⟨hkeeps, hremoves⟩ := select_append_mono size limits (before ++ [a]) after
  rw [hsplit] at hnodup ⊢
  apply Iff.intro
  · intro hmem
    by_contra hroom
    rw [← hkept] at hroom
    rw [select_concat_of_not_room size limits hroom] at hremoves
    have hremoved := hremoves (List.mem_append_right _ List.mem_cons_self)
    have hperm := (select_perm size limits (before ++ [a] ++ after)).nodup_iff.mpr hnodup
    exact List.disjoint_of_nodup_append hperm hmem hremoved
  · intro hroom
    rw [← hkept] at hroom
    rw [select_concat_of_room size limits hroom] at hkeeps
    exact hkeeps (List.mem_append_right _ List.mem_cons_self)

end Retention
