import Mathlib.Data.List.Basic
import Mathlib.Data.List.Induction

/-! Lines. A separator ends a line, and what follows the last separator is a rest that no separator ends. The
lines of a text are what its separators split off, and cutting it anywhere loses nothing: the rest before the
cut is continued behind it. Nothing here is about a particular program. -/

namespace OnboardAutonomy.Lines

variable {α : Type} {separator : α}

/-- A text as the lines that a separator ends, and the rest. -/
structure Split (separator : α) (text : List α) (complete : List (List α)) (rest : List α) : Prop where
  joined : complete.flatMap (· ++ [separator]) ++ rest = text
  lines_free : ∀ line ∈ complete, separator ∉ line
  rest_free : separator ∉ rest

namespace Split

variable {text more : List α} {complete complete' : List (List α)} {rest rest' : List α}

theorem free {text : List α} (h : separator ∉ text) : Split separator text [] text :=
  ⟨rfl, List.forall_mem_nil _, h⟩

theorem line {line : List α} (h : separator ∉ line) (hrest : Split separator text complete rest) :
    Split separator (line ++ separator :: text) (line :: complete) rest := by
  refine ⟨?_, List.forall_mem_cons.mpr ⟨h, hrest.lines_free⟩, hrest.rest_free⟩
  rw [← hrest.joined, List.flatMap_cons, List.append_assoc, List.append_assoc]
  rfl

/-- Behind a cut the rest goes on. -/
theorem append (h : Split separator text complete rest)
    (hmore : Split separator (rest ++ more) complete' rest') :
    Split separator (text ++ more) (complete ++ complete') rest' := by
  refine ⟨?_, List.forall_mem_append.mpr ⟨h.lines_free, hmore.lines_free⟩, hmore.rest_free⟩
  rw [List.flatMap_append, List.append_assoc, hmore.joined, ← List.append_assoc, h.joined]

/-- However whole lines are cut off, the first of them are left, and of one more at most a part. -/
theorem of_prefix {lines : List (List α)} (h : ∀ line ∈ lines, separator ∉ line) {cut : List α}
    (hcut : cut <+: lines.flatMap (· ++ [separator])) :
    ∃ n rest, n ≤ lines.length ∧ Split separator cut (lines.take n) rest ∧
      (cut = lines.flatMap (· ++ [separator]) → n = lines.length ∧ rest = []) := by
  induction lines generalizing cut with
  | nil =>
      rw [List.prefix_nil.mp hcut]
      exact ⟨0, [], Nat.le_refl 0, free List.not_mem_nil, fun _ => ⟨rfl, rfl⟩⟩
  | cons line lines ih =>
      obtain ⟨hline, hlines⟩ := List.forall_mem_cons.mp h
      rw [List.flatMap_cons] at hcut ⊢
      by_cases hlong : line ++ [separator] <+: cut
      · obtain ⟨more, rfl⟩ := hlong
        obtain ⟨n, rest, hn, hsplit, hall⟩ := ih hlines ((List.prefix_append_right_inj _).mp hcut)
        refine ⟨n + 1, rest, Nat.succ_le_succ hn, ?_, fun hwhole => ?_⟩
        · rw [List.append_assoc]
          exact Split.line hline hsplit
        · obtain ⟨hn, hrest⟩ := hall (List.append_cancel_left hwhole)
          exact ⟨by rw [hn, List.length_cons], hrest⟩
      · have hshort : cut <+: line := by
          rcases List.prefix_or_prefix_of_prefix hcut (List.prefix_append (line ++ [separator]) _) with hcut | hcut
          · rcases List.prefix_concat_iff.mp hcut with rfl | hcut
            · exact absurd (List.prefix_refl _) hlong
            · exact hcut
          · exact absurd hcut hlong
        refine ⟨0, cut, Nat.zero_le _, free fun hmem => hline (hshort.subset hmem), fun hwhole => ?_⟩
        exact absurd (hwhole ▸ List.prefix_append (line ++ [separator]) _) hlong

variable [DecidableEq α]

/-- The lines are what the separators split off. -/
theorem splitOn (h : Split separator text complete rest) : text.splitOn separator = complete ++ [rest] := by
  obtain ⟨rfl, hlines, hrest⟩ := h
  induction complete with
  | nil => exact List.splitOn_eq_singleton hrest
  | cons line complete ih =>
      obtain ⟨hline, hlines⟩ := List.forall_mem_cons.mp hlines
      rw [List.flatMap_cons, List.append_assoc, List.append_assoc, List.singleton_append,
        List.splitOn_append_cons_self_of_not_mem hline, ih hlines, List.cons_append]

/-- There is a line for every separator. -/
theorem length_eq (h : Split separator text complete rest) : complete.length = text.count separator := by
  obtain ⟨rfl, hlines, hrest⟩ := h
  rw [List.count_append, List.count_eq_zero_of_not_mem hrest, Nat.add_zero]
  induction complete with
  | nil => rfl
  | cons line complete ih =>
      obtain ⟨hline, hlines⟩ := List.forall_mem_cons.mp hlines
      rw [List.flatMap_cons, List.count_append, List.count_append, List.count_eq_zero_of_not_mem hline,
        List.count_singleton_self, List.length_cons, ih hlines]
      omega

end Split

variable [DecidableEq α]

/-- The lines of a text, the rest among them unless it is empty. -/
def lines (separator : α) (text : List α) : List (List α) :=
  let parts := text.splitOn separator
  if (parts.getLastD []).isEmpty then parts.dropLast else parts

theorem Split.lines_eq {text : List α} {complete : List (List α)} {rest : List α}
    (h : Split separator text complete rest) :
    lines separator text = complete ++ if rest.isEmpty then [] else [rest] := by
  rw [lines, h.splitOn, List.getLastD_concat, List.dropLast_concat]
  cases rest.isEmpty with
  | true => exact (List.append_nil complete).symm
  | false => rfl

end OnboardAutonomy.Lines
