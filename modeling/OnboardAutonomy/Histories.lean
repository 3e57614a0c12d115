import Mathlib.Data.List.Chain
import Mathlib.Data.List.Induction

/-! Histories: lists that grow at their end. A condition on each entry is about the entries before it, or about
those behind it; each is carried on when entries are added. Nothing here is about a particular program. -/

namespace OnboardAutonomy.Histories

variable {α : Type} {P : List α → α → Prop} {Q : List α → α → List α → Prop} {history entries : List α} {entry : α}

/-- An entry of a longer history was there before, or is one of the new ones. -/
theorem split_append {before after : List α} (h : history ++ entries = before ++ entry :: after) :
    (∃ rest, history = before ++ entry :: rest ∧ after = rest ++ entries) ∨
      ∃ middle, before = history ++ middle ∧ entries = middle ++ entry :: after := by
  rcases List.append_eq_append_iff.mp h with ⟨middle, hbefore, hentries⟩ | ⟨rest, hhistory, hrest⟩
  · exact .inr ⟨middle, hbefore, hentries⟩
  · cases rest with
    | nil =>
        rw [List.append_nil] at hhistory
        exact .inr ⟨[], by rw [hhistory, List.append_nil], hrest.symm⟩
    | cons other rest =>
        obtain ⟨rfl, hafter⟩ := List.cons.inj hrest
        exact .inl ⟨rest, hhistory, hafter⟩

/-- Every entry goes with those before it. -/
def Justified (P : List α → α → Prop) (history : List α) : Prop :=
  ∀ before entry after, history = before ++ entry :: after → P before entry

namespace Justified

theorem nil : Justified P [] := fun before entry after h =>
  absurd h.symm (List.append_ne_nil_of_right_ne_nil before (List.cons_ne_nil entry after))

theorem concat (h : Justified P history) (hentry : P history entry) : Justified P (history ++ [entry]) := by
  intro before other after hsplit
  rcases split_append hsplit with ⟨rest, hhistory, -⟩ | ⟨middle, rfl, hmiddle⟩
  · exact h before other rest hhistory
  · rw [List.singleton_eq_append_iff] at hmiddle
    rcases hmiddle with ⟨rfl, hmiddle⟩ | ⟨-, hmiddle⟩
    · cases hmiddle
      rwa [List.append_nil]
    · cases hmiddle

end Justified

/-- Every entry goes with those before it and those behind it. -/
def Followed (Q : List α → α → List α → Prop) (history : List α) : Prop :=
  ∀ before entry after, history = before ++ entry :: after → Q before entry after

namespace Followed

theorem nil : Followed Q [] := fun before entry after h =>
  absurd h.symm (List.append_ne_nil_of_right_ne_nil before (List.cons_ne_nil entry after))

/-- What lies behind the entries grows, and new ones come behind them. -/
theorem append {Q' : List α → α → List α → Prop} (h : Followed Q history)
    (hgrow : ∀ before, ∀ other ∈ history, ∀ after, Q before other after → Q' before other (after ++ entries))
    (hentries : ∀ middle, ∀ other ∈ entries, ∀ after, entries = middle ++ other :: after →
      Q' (history ++ middle) other after) : Followed Q' (history ++ entries) := by
  intro before other after hsplit
  rcases split_append hsplit with ⟨rest, hhistory, rfl⟩ | ⟨middle, rfl, hmiddle⟩
  · have hmem : other ∈ history := by
      rw [hhistory]
      exact List.mem_append_right before List.mem_cons_self
    exact hgrow before other hmem rest (h before other rest hhistory)
  · have hmem : other ∈ entries := by
      rw [hmiddle]
      exact List.mem_append_right middle List.mem_cons_self
    exact hentries middle other hmem after hmiddle

theorem concat {Q' : List α → α → List α → Prop} (h : Followed Q history)
    (hgrow : ∀ before, ∀ other ∈ history, ∀ after, Q before other after → Q' before other (after ++ [entry]))
    (hentry : Q' history entry []) : Followed Q' (history ++ [entry]) := by
  refine h.append hgrow fun middle other _ after hsplit => ?_
  rw [List.singleton_eq_append_iff] at hsplit
  rcases hsplit with ⟨rfl, hsplit⟩ | ⟨-, hsplit⟩
  · cases hsplit
    rwa [List.append_nil]
  · cases hsplit

end Followed

end OnboardAutonomy.Histories
