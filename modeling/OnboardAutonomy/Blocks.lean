import Mathlib.Data.List.Basic
import Mathlib.Data.List.Infix
import Mathlib.Algebra.Order.Group.Nat
import Mathlib.Tactic.Ring

/-! Blocks. A stream that is read in blocks of one size begins with them, so that a block is a slice of the
stream and its number tells which. Nothing here is about a particular program. -/

namespace OnboardAutonomy.Blocks

variable {α : Type}

/-- A stream begins with these blocks, which have one size. -/
structure BeginsWith (size : Nat) (blocks : List (List α)) (stream : List α) : Prop where
  sized : ∀ block ∈ blocks, block.length = size
  joined : blocks.flatten <+: stream

namespace BeginsWith

variable {size : Nat} {blocks : List (List α)} {block stream more : List α}

theorem nil (size : Nat) (stream : List α) : BeginsWith size [] stream :=
  ⟨fun _ h => absurd h List.not_mem_nil, List.nil_prefix⟩

theorem append (h : BeginsWith size blocks stream) (more : List α) : BeginsWith size blocks (stream ++ more) :=
  ⟨h.sized, h.joined.trans (List.prefix_append stream more)⟩

/-- A further block ends where the stream goes on. -/
theorem concat (h : BeginsWith size blocks stream) (hsize : block.length = size)
    (hjoined : blocks.flatten ++ block ++ more = stream) : BeginsWith size (blocks ++ [block]) stream := by
  refine ⟨?_, more, ?_⟩
  · intro block' hmem
    rcases List.mem_append.mp hmem with hmem | hmem
    · exact h.sized block' hmem
    · rw [List.mem_singleton.mp hmem, hsize]
  · rw [List.flatten_append, List.flatten_singleton, hjoined]

theorem length_flatten (h : BeginsWith size blocks stream) : blocks.flatten.length = size * blocks.length := by
  obtain ⟨hsized, -⟩ := h
  induction blocks with
  | nil => rfl
  | cons block blocks ih =>
      obtain ⟨hblock, hblocks⟩ := List.forall_mem_cons.mp hsized
      rw [List.flatten_cons, List.length_append, hblock, ih hblocks, List.length_cons]
      ring

/-- A block is the slice of the stream at its number. -/
theorem getElem_eq (h : BeginsWith size blocks stream) {i : Nat} (hi : i < blocks.length) :
    blocks[i] = (stream.drop (size * i)).take size := by
  induction blocks generalizing i stream with
  | nil => exact absurd hi (Nat.not_lt_zero i)
  | cons block blocks ih =>
      obtain ⟨hblock, hblocks⟩ := List.forall_mem_cons.mp h.sized
      obtain ⟨rest, hrest⟩ := h.joined
      rw [List.flatten_cons, List.append_assoc] at hrest
      cases i with
      | zero => rw [List.getElem_cons_zero, ← hrest, Nat.mul_zero, List.drop_zero, List.take_left' hblock]
      | succ i =>
          have hlater := ih ⟨hblocks, List.prefix_append blocks.flatten rest⟩ (Nat.lt_of_succ_lt_succ hi)
          have hposition : size * (i + 1) = block.length + size * i := by
            rw [hblock]
            ring
          rw [List.getElem_cons_succ, hlater, ← hrest, hposition, ← List.drop_drop, List.drop_left]

/-- What is left behind the blocks tells how many there are, when it is less than another. -/
theorem length_eq_div (h : BeginsWith size blocks stream) {rest : List α} (hrest : blocks.flatten ++ rest = stream)
    (hshort : rest.length < size) : blocks.length = stream.length / size := by
  have hlength := congrArg List.length hrest
  rw [List.length_append, h.length_flatten] at hlength
  rw [← hlength, Nat.mul_add_div (by omega), Nat.div_eq_of_lt hshort, Nat.add_zero]

end BeginsWith

end OnboardAutonomy.Blocks
