import Mathlib.Data.List.Basic
import Mathlib.Data.List.Nodup

/-! Single-slot mailboxes. What a chain of them lets through, in the order in which it left the chain and
followed by what the slots still hold, is a sublist of what was put into the first: a put that overwrites,
a slot that is cleared and a hand-over to the next slot only ever leave something out. -/

namespace Mailbox

variable {α : Type*}

/-- A put replaces what the last slot holds, and ends the log. -/
theorem sublist_put {through : List α} {slot : Option α} {log : List α} (a : α)
    (h : (through ++ slot.toList).Sublist log) : (through ++ [a]).Sublist (log ++ [a]) :=
  ((List.sublist_append_left through slot.toList).trans h).append_right [a]

/-- What is in the middle of the chain gets lost. -/
theorem sublist_drop {through middle rest log : List α}
    (h : (through ++ middle ++ rest).Sublist log) : (through ++ rest).Sublist log :=
  (((List.sublist_append_left through middle).append_right rest).trans h)

variable [DecidableEq α]

/-- What was put and neither came through nor is still there. -/
def lost (log kept : List α) : List α := log.filter fun a => a ∉ kept

theorem filter_mem_of_sublist {log kept : List α} (hnodup : log.Nodup) (h : kept.Sublist log) :
    log.filter (fun a => a ∈ kept) = kept := by
  induction h with
  | slnil => rfl
  | cons a h ih =>
      obtain ⟨hfresh, hnodup⟩ := List.nodup_cons.mp hnodup
      rw [List.filter_cons_of_neg, ih hnodup]
      rw [decide_eq_true_eq]
      exact fun hmem => hfresh (h.subset hmem)
  | cons_cons a h ih =>
      rename_i kept log
      obtain ⟨hfresh, hnodup⟩ := List.nodup_cons.mp hnodup
      have hrest : log.filter (fun b => b ∈ a :: kept) = log.filter (fun b => b ∈ kept) := by
        apply List.filter_congr
        intro b hmem
        have hne : b ≠ a := fun heq => hfresh (heq ▸ hmem)
        simp [hne]
      rw [List.filter_cons_of_pos, hrest, ih hnodup]
      rw [decide_eq_true_eq]
      exact List.mem_cons_self

/-- Everything that was put is either kept or lost. -/
theorem length_lost {log kept : List α} (hnodup : log.Nodup) (h : kept.Sublist log) :
    (lost log kept).length + kept.length = log.length := by
  have hsplit := List.length_eq_length_filter_add (fun a => decide (a ∈ kept)) (l := log)
  rw [filter_mem_of_sublist hnodup h] at hsplit
  rw [lost, hsplit, Nat.add_comm]
  congr 3
  funext a
  simp

end Mailbox
