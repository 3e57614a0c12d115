import Mathlib.Data.List.Basic

/-! Ownership of a resource that the system hands out: a trace of acquisitions, uses and releases. An owner
with one handle at most acquires only when it has none, and uses and releases only the handle it has. Handles
may come back: the system may hand out a released one again. Nothing here is about a particular program. -/

namespace OnboardAutonomy.Ownership

inductive Event (ρ : Type) where
  | acquire (handle : ρ)
  | use (handle : ρ)
  | release (handle : ρ)
  deriving DecidableEq

variable {ρ : Type}

/-- A trace that leads an owner of one handle at most from what it owns to what it owns then. -/
inductive Exclusive : Option ρ → List (Event ρ) → Option ρ → Prop where
  | nil (owned : Option ρ) : Exclusive owned [] owned
  | acquire {handle : ρ} {events : List (Event ρ)} {owned : Option ρ}
      (h : Exclusive (some handle) events owned) : Exclusive none (.acquire handle :: events) owned
  | use {handle : ρ} {events : List (Event ρ)} {owned : Option ρ}
      (h : Exclusive (some handle) events owned) : Exclusive (some handle) (.use handle :: events) owned
  | release {handle : ρ} {events : List (Event ρ)} {owned : Option ρ}
      (h : Exclusive none events owned) : Exclusive (some handle) (.release handle :: events) owned

namespace Exclusive

variable {owned middle owned' : Option ρ} {before after : List (Event ρ)} {handle : ρ}

theorem append (h : Exclusive owned before middle) (h' : Exclusive middle after owned') :
    Exclusive owned (before ++ after) owned' := by
  induction h with
  | nil => exact h'
  | acquire _ ih => exact .acquire (ih h')
  | use _ ih => exact .use (ih h')
  | release _ ih => exact .release (ih h')

theorem split (h : Exclusive owned (before ++ after) owned') :
    ∃ middle, Exclusive owned before middle ∧ Exclusive middle after owned' := by
  induction before generalizing owned with
  | nil => exact ⟨owned, .nil owned, h⟩
  | cons event before ih =>
      cases h with
      | acquire h =>
          obtain ⟨middle, hbefore, hafter⟩ := ih h
          exact ⟨middle, .acquire hbefore, hafter⟩
      | use h =>
          obtain ⟨middle, hbefore, hafter⟩ := ih h
          exact ⟨middle, .use hbefore, hafter⟩
      | release h =>
          obtain ⟨middle, hbefore, hafter⟩ := ih h
          exact ⟨middle, .release hbefore, hafter⟩

theorem used (h : Exclusive owned (before ++ .use handle :: after) owned') :
    Exclusive owned before (some handle) := by
  obtain ⟨middle, hbefore, hafter⟩ := h.split
  cases hafter
  exact hbefore

theorem released (h : Exclusive owned (before ++ .release handle :: after) owned') :
    Exclusive owned before (some handle) := by
  obtain ⟨middle, hbefore, hafter⟩ := h.split
  cases hafter
  exact hbefore

end Exclusive

variable [DecidableEq ρ]

/-- The handles that were acquired and not released. -/
def holding (held : List ρ) : Event ρ → List ρ
  | .acquire handle => handle :: held
  | .use _ => held
  | .release handle => held.erase handle

def heldAfter (events : List (Event ρ)) : List ρ := events.foldl holding []

/-- What an owner keeps to: one handle at a time, and no use or release of a handle that it does not have. -/
structure Disciplined (events : List (Event ρ)) : Prop where
  single : ∀ before after, events = before ++ after → (heldAfter before).length ≤ 1
  used : ∀ before handle after, events = before ++ .use handle :: after → handle ∈ heldAfter before
  released : ∀ before handle after, events = before ++ .release handle :: after → handle ∈ heldAfter before

namespace Exclusive

variable {owned owned' : Option ρ} {events : List (Event ρ)}

theorem holding_eq (h : Exclusive owned events owned') :
    events.foldl holding owned.toList = owned'.toList := by
  induction h with
  | nil => rfl
  | acquire _ ih => exact ih
  | use _ ih => exact ih
  | @release handle _ _ _ ih =>
      rw [List.foldl_cons, holding, Option.toList_some, List.erase_cons_head]
      exact ih

theorem heldAfter_eq (h : Exclusive none events owned') : heldAfter events = owned'.toList := h.holding_eq

theorem disciplined (h : Exclusive none events owned') : Disciplined events := by
  constructor
  case single =>
    rintro before after rfl
    obtain ⟨middle, hbefore, -⟩ := h.split
    rw [hbefore.heldAfter_eq]
    exact Option.length_toList_le
  case used =>
    rintro before handle after rfl
    rw [h.used.heldAfter_eq]
    exact List.mem_cons_self
  case released =>
    rintro before handle after rfl
    rw [h.released.heldAfter_eq]
    exact List.mem_cons_self

/-- Every handle is released as often as it is acquired, but for the one still owned. -/
theorem count_eq (h : Exclusive owned events owned') (handle : ρ) :
    events.count (.acquire handle) + owned.toList.count handle =
      events.count (.release handle) + owned'.toList.count handle := by
  induction h with
  | nil => rw [List.count_nil, List.count_nil]
  | @acquire other events _ _ ih =>
      have hrelease : (Event.acquire other :: events).count (.release handle) =
          events.count (.release handle) :=
        List.count_cons_of_ne (by simp)
      rw [hrelease, ← ih, List.count_cons, Option.toList_some, List.count_singleton]
      simp only [beq_iff_eq, Event.acquire.injEq, Option.toList_none, List.count_nil]
      omega
  | @use other events _ _ ih =>
      have hacquire : (Event.use other :: events).count (.acquire handle) = events.count (.acquire handle) :=
        List.count_cons_of_ne (by simp)
      have hrelease : (Event.use other :: events).count (.release handle) = events.count (.release handle) :=
        List.count_cons_of_ne (by simp)
      rw [hacquire, hrelease]
      exact ih
  | @release other events _ _ ih =>
      have hacquire : (Event.release other :: events).count (.acquire handle) =
          events.count (.acquire handle) :=
        List.count_cons_of_ne (by simp)
      rw [hacquire, List.count_cons, Option.toList_some, List.count_singleton]
      rw [Option.toList_none, List.count_nil] at ih
      simp only [beq_iff_eq, Event.release.injEq]
      omega

end Exclusive

end OnboardAutonomy.Ownership
