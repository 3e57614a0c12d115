import Mathlib.Algebra.Order.Group.Defs
import Mathlib.Algebra.Order.Group.Basic
import Mathlib.Data.List.Chain

/-! Pacing. Something is polled again and again, and a poll is let through when it is not before a due
time; every poll that is let through moves the due time an interval past itself. Polls that are let through
are an interval apart at least, and not much more when the polls are close to each other. Nothing here is
about a particular program. -/

namespace OnboardAutonomy.Pacing

variable {τ : Type} [AddCommGroup τ] [LinearOrder τ]

/-- The polls that are let through. -/
def pace (interval due : τ) : List τ → List τ
  | [] => []
  | poll :: polls =>
      if poll < due then pace interval due polls else poll :: pace interval (poll + interval) polls

/-- The due time after some polls. -/
def dueAfter (interval due : τ) : List τ → τ
  | [] => due
  | poll :: polls => dueAfter interval (if poll < due then due else poll + interval) polls

variable {interval due gap : τ}

/-- The due time is an interval after the last poll that was let through. -/
theorem dueAfter_eq (polls : List τ) :
    dueAfter interval due polls = (pace interval due polls).getLast?.elim due (· + interval) := by
  induction polls generalizing due with
  | nil => rfl
  | cons poll polls ih =>
      rw [dueAfter, pace, ih]
      split
      · rfl
      · rw [List.getLast?_cons]
        cases (pace interval (poll + interval) polls).getLast? <;> rfl

theorem pace_append (polls more : List τ) : pace interval due (polls ++ more) =
    pace interval due polls ++ pace interval (dueAfter interval due polls) more := by
  induction polls generalizing due with
  | nil => rfl
  | cons poll polls ih =>
      rw [List.cons_append, pace, pace, dueAfter]
      split
      · exact ih
      · rw [ih, List.cons_append]

theorem dueAfter_append (polls more : List τ) :
    dueAfter interval due (polls ++ more) = dueAfter interval (dueAfter interval due polls) more := by
  induction polls generalizing due with
  | nil => rfl
  | cons poll polls ih => exact ih

theorem pace_sublist (polls : List τ) : (pace interval due polls).Sublist polls := by
  induction polls generalizing due with
  | nil => exact List.Sublist.refl _
  | cons poll polls ih =>
      rw [pace]
      split
      · exact ih.cons poll
      · exact ih.cons_cons poll

variable [IsOrderedAddMonoid τ]

/-- The due time is at most an interval after a bound on the polls. -/
theorem dueAfter_le {polls : List τ} {bound : τ} (hpolls : ∀ poll ∈ polls, poll ≤ bound)
    (hdue : due ≤ bound + interval) : dueAfter interval due polls ≤ bound + interval := by
  rw [dueAfter_eq]
  cases hlast : (pace interval due polls).getLast? with
  | none => exact hdue
  | some last =>
      have hmem : last ∈ polls := (pace_sublist polls).subset (List.mem_of_getLast? hlast)
      exact add_le_add_left (hpolls last hmem) interval

theorem le_of_mem_pace (hinterval : 0 ≤ interval) {polls : List τ} {poll : τ}
    (h : poll ∈ pace interval due polls) : due ≤ poll := by
  induction polls generalizing due with
  | nil => cases h
  | cons first polls ih =>
      rw [pace] at h
      split at h
      · exact ih h
      · rename_i hdue
        have hle : due ≤ first := not_lt.mp hdue
        rcases List.mem_cons.mp h with rfl | hlater
        · exact hle
        · exact (hle.trans (le_add_of_nonneg_right hinterval)).trans (ih hlater)

theorem pace_apart (hinterval : 0 ≤ interval) (polls : List τ) :
    (pace interval due polls).Pairwise fun earlier later => earlier + interval ≤ later := by
  induction polls generalizing due with
  | nil => exact List.Pairwise.nil
  | cons poll polls ih =>
      rw [pace]
      split
      · exact ih
      · rw [List.pairwise_cons]
        exact ⟨fun later hlater => le_of_mem_pace hinterval hlater, ih⟩

/-- A poll that is due is let through, unless one was shortly before it. -/
theorem pace_covers (hinterval : 0 < interval) {polls : List τ} (hordered : polls.Pairwise (· ≤ ·)) {poll : τ}
    (hmem : poll ∈ polls) (hdue : due ≤ poll) :
    ∃ passed ∈ pace interval due polls, passed ≤ poll ∧ poll < passed + interval := by
  induction polls generalizing due with
  | nil => cases hmem
  | cons first polls ih =>
      obtain ⟨hfirst, hrest⟩ := List.pairwise_cons.mp hordered
      have hle : first ≤ poll := by
        rcases List.mem_cons.mp hmem with rfl | hlater
        · exact le_refl _
        · exact hfirst poll hlater
      rw [pace]
      split
      · rename_i hearly
        rcases List.mem_cons.mp hmem with rfl | hlater
        · exact absurd hdue (not_le.mpr hearly)
        · exact ih hrest hlater hdue
      · by_cases hnear : poll < first + interval
        · exact ⟨first, List.mem_cons_self, hle, hnear⟩
        · have hnext : first + interval ≤ poll := not_lt.mp hnear
          rcases List.mem_cons.mp hmem with rfl | hlater
          · exact absurd hnext (not_le.mpr (lt_add_of_pos_right _ hinterval))
          · obtain ⟨passed, hpassed, hbounds⟩ := ih hrest hlater hnext
            exact ⟨passed, List.mem_cons_of_mem _ hpassed, hbounds⟩

/-- While polls follow each other within a gap, the first one that is let through is not far behind the due
time. -/
theorem head_pace_lt {last : τ} (hlast : last < due) {polls : List τ}
    (hclose : (last :: polls).IsChain fun earlier later => later < earlier + gap) :
    ∀ passed ∈ (pace interval due polls).head?, passed < due + gap := by
  induction polls generalizing last with
  | nil =>
      intro passed h
      cases h
  | cons poll polls ih =>
      obtain ⟨hstep, hrest⟩ := List.isChain_cons_cons.mp hclose
      rw [pace]
      split
      · rename_i hearly
        exact ih hearly hrest
      · intro passed h
        cases Option.some.inj h
        exact hstep.trans (add_lt_add_left hlast gap)

theorem head_pace_lt_of_polls (hinterval : 0 < interval) (hgap : 0 < gap) {first : τ} {polls : List τ}
    (hdue : due ≤ first + interval)
    (hclose : (first :: polls).IsChain fun earlier later => later < earlier + gap) :
    ∀ passed ∈ (pace interval due (first :: polls)).head?, passed < first + interval + gap := by
  intro passed h
  rw [pace] at h
  split at h
  · rename_i hearly
    exact (head_pace_lt hearly hclose passed h).trans_le (add_le_add_left hdue gap)
  · cases Option.some.inj h
    exact (lt_add_of_pos_right _ hinterval).trans (lt_add_of_pos_right _ hgap)

/-- Polls that are let through follow each other within the interval and the gap. -/
theorem pace_close (hinterval : 0 < interval) {last passed : τ} (hlast : last < passed + interval)
    {polls : List τ} (hclose : (last :: polls).IsChain fun earlier later => later < earlier + gap) :
    (passed :: pace interval (passed + interval) polls).IsChain fun earlier later =>
      later < earlier + interval + gap := by
  induction polls generalizing last passed with
  | nil => exact List.isChain_singleton passed
  | cons poll polls ih =>
      obtain ⟨hstep, hrest⟩ := List.isChain_cons_cons.mp hclose
      rw [pace]
      split
      · rename_i hearly
        exact ih hearly hrest
      · refine List.isChain_cons_cons.mpr ⟨hstep.trans (add_lt_add_left hlast gap), ?_⟩
        exact ih (lt_add_of_pos_right poll hinterval) hrest

theorem pace_close_of_polls (hinterval : 0 < interval) {polls : List τ}
    (hclose : polls.IsChain fun earlier later => later < earlier + gap) :
    (pace interval due polls).IsChain fun earlier later => later < earlier + interval + gap := by
  induction polls with
  | nil => exact List.isChain_nil
  | cons poll polls ih =>
      rw [pace]
      split
      · exact ih hclose.tail
      · exact pace_close hinterval (lt_add_of_pos_right poll hinterval) hclose

/-! ### Retries -/

variable {σ : Type} [Add σ] [LE σ]

/-- Something is lost, or an attempt is made to get it back. A failed attempt is a loss. -/
inductive Retry (σ : Type) where
  | lost (time : σ)
  | attempted (time : σ)

/-- Attempts that follow the loss before them by an interval at least, from when something was lost to when
it was lost then. -/
inductive Retries (interval : σ) : Option σ → List (Retry σ) → Option σ → Prop
  | nil (lost : Option σ) : Retries interval lost [] lost
  | lost {time : σ} {events : List (Retry σ)} {lost : Option σ}
      (h : Retries interval (some time) events lost) : Retries interval none (.lost time :: events) lost
  | attempted {time before : σ} {events : List (Retry σ)} {lost : Option σ} (due : before + interval ≤ time)
      (h : Retries interval none events lost) : Retries interval (some before) (.attempted time :: events) lost

namespace Retries

variable {interval : σ} {lost middle lost' : Option σ} {before after : List (Retry σ)}

theorem append (h : Retries interval lost before middle) (h' : Retries interval middle after lost') :
    Retries interval lost (before ++ after) lost' := by
  induction h with
  | nil => exact h'
  | lost _ ih => exact .lost (ih h')
  | attempted due _ ih => exact .attempted due (ih h')

theorem behind (h : Retries interval lost (before ++ after) lost') :
    ∃ middle, Retries interval middle after lost' := by
  induction before generalizing lost with
  | nil => exact ⟨lost, h⟩
  | cons event before ih =>
      cases h with
      | lost h => exact ih h
      | attempted _ h => exact ih h

/-- The next thing behind a loss is an attempt, and it is made an interval later at least. -/
theorem next {time : σ} {event : Retry σ}
    (h : Retries interval lost (before ++ .lost time :: event :: after) lost') :
    ∃ later, event = .attempted later ∧ time + interval ≤ later := by
  obtain ⟨middle, h⟩ := h.behind
  cases h with
  | lost h =>
      cases h with
      | @attempted later _ _ _ due _ => exact ⟨later, rfl, due⟩

end Retries

end OnboardAutonomy.Pacing
