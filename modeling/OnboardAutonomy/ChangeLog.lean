import Mathlib.Data.List.Destutter
import Mathlib.Data.List.DropRight

/-! Logs of a value that is sampled now and then. A change is a pair of two different values; the changes
of a sequence of samples are linked to each other, and replaying them gives the samples without their
repetitions. A bounded history holds the last entries of a log. Nothing here is about a particular
program. -/

namespace OnboardAutonomy.ChangeLog

variable {α β : Type}

/-- Changes that lead from one value to another: each begins where the previous one ended. -/
def Linked (first : α) : List (α × α) → α → Prop
  | [], last => first = last
  | change :: log, last => change.1 = first ∧ change.1 ≠ change.2 ∧ Linked change.2 log last

section Changes

variable [DecidableEq α]

/-- The changes that are seen when the samples are compared with the value before them. -/
def changes (previous : α) : List α → List (α × α)
  | [] => []
  | sample :: samples =>
      if sample = previous then changes previous samples
      else (previous, sample) :: changes sample samples

theorem changes_append (previous : α) (samples more : List α) :
    changes previous (samples ++ more) =
      changes previous samples ++ changes (samples.getLastD previous) more := by
  induction samples generalizing previous with
  | nil => rfl
  | cons sample samples ih =>
      rw [List.cons_append, List.getLastD_cons, changes, changes, ih, ih]
      split
      · rename_i hsame
        rw [hsame]
      · rfl

theorem changes_singleton (previous sample : α) :
    changes previous [sample] = if sample = previous then [] else [(previous, sample)] := rfl

theorem linked_changes (previous : α) (samples : List α) :
    Linked previous (changes previous samples) (samples.getLastD previous) := by
  induction samples generalizing previous with
  | nil => rfl
  | cons sample samples ih =>
      rw [List.getLastD_cons, changes]
      split
      · rename_i hsame
        rw [← hsame]
        exact ih sample
      · rename_i hother
        exact ⟨rfl, fun hsame => hother hsame.symm, ih sample⟩

/-- Replaying the changes visits every value of the samples, in order. -/
theorem replay_changes (previous : α) (samples : List α) :
    previous :: (changes previous samples).map Prod.snd = (previous :: samples).destutter (· ≠ ·) := by
  induction samples generalizing previous with
  | nil => rfl
  | cons sample samples ih =>
      rw [List.destutter_cons', changes]
      split
      · rename_i hsame
        rw [List.destutter'_cons_neg _ (fun hne => hne hsame.symm), ih, List.destutter_cons']
      · rename_i hother
        rw [List.destutter'_cons_pos _ (fun hsame => hother hsame.symm), ← List.destutter_cons', ← ih]
        rfl

end Changes

/-! ### Bounded histories -/

/-- An entry is appended to the last `limit` entries of a log, and the oldest one goes when it is one
too many. -/
theorem rtake_push (limit : Nat) (log : List β) (entry : β) :
    (if limit < (log.rtake limit ++ [entry]).length then (log.rtake limit ++ [entry]).tail
      else log.rtake limit ++ [entry]) = (log ++ [entry]).rtake limit := by
  rw [← List.rtake_concat_succ]
  simp only [List.rtake, List.length_append, List.length_singleton, List.length_drop]
  split
  · rw [List.tail_drop]
    congr 1
    omega
  · congr 1
    omega

end OnboardAutonomy.ChangeLog
