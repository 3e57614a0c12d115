import Mathlib.Algebra.Order.BigOperators.Group.List
import Mathlib.Algebra.Order.Group.Nat
import Mathlib.Algebra.GroupWithZero.Nat

/-! Partial writes. A sink accepts a prefix of what it is offered and may change its connection from one
write to the next. A frame is written by a loop that offers what is left of it until everything is accepted
or a write accepts nothing. The loop keeps a trace of its writes, from which the bytes accepted on each
connection are read off. Nothing here is about a particular program. -/

namespace OnboardAutonomy.PartialWrites

structure Sink (τ β : Type) where
  write : τ → List β → Nat × τ
  connection : τ → Nat
  write_le : ∀ t source, (write t source).1 ≤ source.length

structure WriteCall where
  offset : Nat
  accepted : Nat
  /-- The connection after the write, on which the bytes were accepted. -/
  connection : Nat
  deriving DecidableEq

variable {τ β : Type}

/-- The bytes of a frame that a write has accepted. -/
def WriteCall.piece (call : WriteCall) (frame : List β) : List β :=
  (frame.drop call.offset).take call.accepted

/-- The loop: whether the whole frame was accepted, the writes, and the sink after them. Each round but the
last moves the offset on, so that no more rounds are needed than bytes are left. -/
def writeLoop (sink : Sink τ β) (frame : List β) : Nat → Nat → τ → Bool × List WriteCall × τ
  | 0, offset, t => (decide (frame.length ≤ offset), [], t)
  | fuel + 1, offset, t =>
      if offset < frame.length then
        let (written, t') := sink.write t (frame.drop offset)
        let call : WriteCall := { offset := offset, accepted := written, connection := sink.connection t' }
        if written = 0 then (false, [call], t')
        else
          let (sent, calls, t'') := writeLoop sink frame fuel (offset + written) t'
          (sent, call :: calls, t'')
      else (true, [], t)

/-- A frame with the writes that were made for it. -/
structure Transfer (β : Type) where
  frame : List β
  calls : List WriteCall

namespace Transfer

/-- What was accepted of the frame on a connection. -/
def onConnection (d : Transfer β) (connection : Nat) : List β :=
  (d.calls.filter fun call => call.connection = connection).flatMap fun call => call.piece d.frame

/-- On every connection the frame was accepted as a whole or not at all. -/
def Whole (d : Transfer β) : Prop := ∀ k, d.onConnection k = d.frame ∨ d.onConnection k = []

/-- Once a write has accepted something, every further write accepts something on the same connection. -/
def Unbroken (d : Transfer β) : Prop :=
  ∀ call ∈ d.calls, 0 < call.offset →
    0 < call.accepted ∧ ∀ first ∈ d.calls.head?, call.connection = first.connection

end Transfer

/-! ### One loop -/

section Loop

variable (sink : Sink τ β) (frame : List β)

/-- The trace of a loop, beside what it returns. -/
inductive Trace : Nat → Bool → List WriteCall → Prop where
  | complete {offset : Nat} : frame.length = offset → Trace offset true []
  | refused {offset : Nat} (connection : Nat) : offset < frame.length →
      Trace offset false [⟨offset, 0, connection⟩]
  | accepted {offset written : Nat} (connection : Nat) {sent : Bool} {calls : List WriteCall} :
      0 < written → offset + written ≤ frame.length → Trace (offset + written) sent calls →
      Trace offset sent (⟨offset, written, connection⟩ :: calls)

variable {frame}

/-- With enough rounds the loop leaves a trace. -/
theorem writeLoop_trace (fuel : Nat) : ∀ (offset : Nat) (t : τ), offset ≤ frame.length →
    frame.length ≤ offset + fuel →
    Trace frame offset (writeLoop sink frame fuel offset t).1 (writeLoop sink frame fuel offset t).2.1 := by
  induction fuel with
  | zero =>
      intro offset t hle hfuel
      have heq : frame.length = offset := le_antisymm hfuel hle
      rw [writeLoop, decide_eq_true heq.le]
      exact .complete heq
  | succ fuel ih =>
      intro offset t hle hfuel
      rw [writeLoop]
      split
      · rename_i hlt
        have hwritten := sink.write_le t (frame.drop offset)
        rw [List.length_drop] at hwritten
        generalize sink.write t (frame.drop offset) = result at hwritten ⊢
        obtain ⟨written, t'⟩ := result
        simp only at hwritten ⊢
        split
        · rename_i hzero
          rw [hzero]
          exact .refused _ hlt
        · rename_i hsome
          exact .accepted _ (Nat.pos_of_ne_zero hsome) (by omega)
            (ih (offset + written) t' (by omega) (by omega))
      · rename_i hge
        exact .complete (le_antisymm (not_lt.mp hge) hle)

end Loop

namespace Trace

variable {frame : List β} {offset : Nat} {sent : Bool} {calls : List WriteCall}

theorem le_offset (h : Trace frame offset sent calls) : ∀ call ∈ calls, offset ≤ call.offset := by
  induction h with
  | complete =>
      intro _ hmem
      exact absurd hmem List.not_mem_nil
  | refused =>
      intro call hmem
      rw [List.mem_singleton.mp hmem]
  | accepted _ _ _ _ ih =>
      intro call hmem
      rcases List.mem_cons.mp hmem with rfl | hmem
      · exact le_rfl
      · exact (Nat.le_add_right _ _).trans (ih call hmem)

/-- The loop goes on only after a write that accepted something. -/
theorem first_accepted (h : Trace frame offset sent calls) {call : WriteCall} (hmem : call ∈ calls)
    (hlt : offset < call.offset) : ∃ first, calls.head? = some first ∧ 0 < first.accepted := by
  cases h with
  | complete => exact absurd hmem List.not_mem_nil
  | refused =>
      rw [List.mem_singleton.mp hmem] at hlt
      exact absurd hlt (Nat.lt_irrefl _)
  | accepted _ hpos _ _ => exact ⟨_, rfl, hpos⟩

/-- The loop succeeds exactly when no write accepts nothing. -/
theorem sent_iff (h : Trace frame offset sent calls) :
    sent = true ↔ ∀ call ∈ calls, 0 < call.accepted := by
  induction h with
  | complete => simp
  | refused => simp
  | accepted _ hpos _ _ ih => simp [ih, hpos]

theorem sum_le (h : Trace frame offset sent calls) :
    (calls.map WriteCall.accepted).sum ≤ frame.length - offset := by
  induction h with
  | complete => exact Nat.zero_le _
  | refused => exact Nat.zero_le _
  | accepted _ _ hle _ ih =>
      simp only [List.map_cons, List.sum_cons]
      omega

theorem sum_lt (h : Trace frame offset sent calls) (hfailed : sent = false) :
    (calls.map WriteCall.accepted).sum < frame.length - offset := by
  induction h with
  | complete => cases hfailed
  | refused _ hlt => exact Nat.sub_pos_of_lt hlt
  | accepted _ _ hle _ ih =>
      have hrest := ih hfailed
      simp only [List.map_cons, List.sum_cons]
      omega

/-- The accepted pieces of a successful loop make up what was left of the frame. -/
theorem pieces (h : Trace frame offset sent calls) (hsent : sent = true) :
    calls.flatMap (fun call => call.piece frame) = frame.drop offset := by
  induction h with
  | complete heq => rw [← heq, List.drop_length, List.flatMap_nil]
  | refused => cases hsent
  | accepted _ _ _ _ ih =>
      rw [List.flatMap_cons, ih hsent, WriteCall.piece, ← List.drop_drop, List.take_append_drop]

theorem piece_length (h : Trace frame offset sent calls) :
    ∀ call ∈ calls, (call.piece frame).length = call.accepted := by
  induction h with
  | complete =>
      intro _ hmem
      exact absurd hmem List.not_mem_nil
  | refused =>
      intro call hmem
      rw [List.mem_singleton.mp hmem]
      rfl
  | accepted _ _ hle _ ih =>
      intro call hmem
      rcases List.mem_cons.mp hmem with rfl | hmem
      · simp only [WriteCall.piece, List.length_take, List.length_drop]
        omega
      · exact ih call hmem

end Trace

/-! ### Whole frames -/

namespace Transfer

variable {d : Transfer β} {sent : Bool}

theorem onConnection_length (h : Trace d.frame 0 sent d.calls) (k : Nat) :
    (d.onConnection k).length =
      ((d.calls.filter fun call => call.connection = k).map WriteCall.accepted).sum := by
  rw [onConnection, List.length_flatMap]
  apply congrArg List.sum
  apply List.map_congr_left
  intro call hmem
  exact h.piece_length call (List.mem_of_mem_filter hmem)

/-- What was accepted was accepted on one connection or on another. -/
theorem sum_accepted (d : Transfer β) (k : Nat) : (d.calls.map WriteCall.accepted).sum =
    ((d.calls.filter fun call => call.connection = k).map WriteCall.accepted).sum +
      ((d.calls.filter fun call => !call.connection = k).map WriteCall.accepted).sum := by
  rw [← List.sum_append, ← List.map_append]
  exact ((List.filter_append_perm _ d.calls).map WriteCall.accepted).sum_nat.symm

theorem Unbroken.whole (h : Trace d.frame 0 sent d.calls) (hunbroken : d.Unbroken) : d.Whole := by
  intro k
  obtain ⟨frame, calls⟩ := d
  have htrace := h
  cases h with
  | complete _ => exact Or.inr rfl
  | refused connection _ =>
      apply Or.inr
      apply List.flatMap_eq_nil_iff.mpr
      intro call hmem
      rw [List.mem_singleton.mp (List.mem_of_mem_filter hmem)]
      rfl
  | @accepted _ written connection _ rest hpos hle htail =>
      have hrest : ∀ call ∈ rest, 0 < call.accepted ∧ call.connection = connection := fun call hmem => by
        have hoffset : 0 < call.offset := by
          have hafter := htail.le_offset call hmem
          omega
        obtain ⟨haccepted, hsame⟩ := hunbroken call (List.mem_cons_of_mem _ hmem) hoffset
        exact ⟨haccepted, hsame _ rfl⟩
      have hall : ∀ call ∈ (⟨0, written, connection⟩ :: rest : List WriteCall),
          call.connection = connection := fun call hmem =>
        (List.mem_cons.mp hmem).elim (fun heq => heq ▸ rfl) fun hmem => (hrest call hmem).2
      have hsent := htail.sent_iff.mpr fun call hmem => (hrest call hmem).1
      simp only [onConnection]
      by_cases hk : connection = k
      · rw [List.filter_eq_self.mpr fun call hmem => decide_eq_true ((hall call hmem).trans hk)]
        exact Or.inl (htrace.pieces hsent)
      · rw [List.filter_eq_nil_iff.mpr fun call hmem => by
          rw [hall call hmem]
          exact of_decide_eq_false (decide_eq_false hk) ∘ of_decide_eq_true]
        exact Or.inr rfl

/-- If something was accepted of a whole frame, everything was, on the same connection. -/
theorem Whole.complete (h : Trace d.frame 0 sent d.calls) (hwhole : d.Whole) {first : WriteCall}
    (hfirst : first ∈ d.calls) (hpos : 0 < first.accepted) :
    ∀ call ∈ d.calls, 0 < call.accepted ∧ call.connection = first.connection := by
  have hsplit := d.sum_accepted first.connection
  have hle := h.sum_le
  have hlength := onConnection_length h first.connection
  have hsome : first.accepted ≤
      ((d.calls.filter fun call => call.connection = first.connection).map WriteCall.accepted).sum :=
    List.le_sum_of_mem (List.mem_map_of_mem (List.mem_filter.mpr ⟨hfirst, decide_eq_true rfl⟩))
  have hframe : d.onConnection first.connection = d.frame :=
    (hwhole first.connection).resolve_right fun hnil => by
      rw [hnil, List.length_nil] at hlength
      omega
  rw [hframe] at hlength
  have hsent : sent = true := by
    by_contra hfailed
    have hlt := h.sum_lt (Bool.eq_false_iff.mpr hfailed)
    omega
  intro call hmem
  have haccepted := h.sent_iff.mp hsent call hmem
  refine ⟨haccepted, by_contra fun hother => ?_⟩
  have hoff : call.accepted ≤
      ((d.calls.filter fun call => !call.connection = first.connection).map WriteCall.accepted).sum :=
    List.le_sum_of_mem (List.mem_map_of_mem (List.mem_filter.mpr ⟨hmem, by simpa using hother⟩))
  omega

theorem Whole.unbroken (h : Trace d.frame 0 sent d.calls) (hwhole : d.Whole) : d.Unbroken := by
  intro call hmem hoffset
  obtain ⟨first, hfirst, hpos⟩ := h.first_accepted hmem hoffset
  obtain ⟨haccepted, hsame⟩ := hwhole.complete h (List.mem_of_head? hfirst) hpos call hmem
  refine ⟨haccepted, fun other hother => ?_⟩
  rw [hfirst] at hother
  cases hother
  exact hsame

end Transfer

/-! ### Streams -/

/-- Everything that was accepted on a connection. -/
def stream (transfers : List (Transfer β)) (connection : Nat) : List β :=
  transfers.flatMap fun d => d.onConnection connection

/-- Each connection has seen complete frames only, and each frame was accepted as a whole or not at all. -/
structure Framed (transfers : List (Transfer β)) : Prop where
  whole : ∀ d ∈ transfers, d.Whole
  stream : ∀ k, ∃ frames : List (List β), frames.Sublist (transfers.map Transfer.frame) ∧
    stream transfers k = frames.flatten

theorem stream_of_whole (transfers : List (Transfer β)) (hwhole : ∀ d ∈ transfers, d.Whole) (k : Nat) :
    ∃ frames : List (List β), frames.Sublist (transfers.map Transfer.frame) ∧
      stream transfers k = frames.flatten := by
  induction transfers with
  | nil => exact ⟨[], List.Sublist.refl _, rfl⟩
  | cons d transfers ih =>
      obtain ⟨frames, hsublist, hstream⟩ := ih fun d hmem => hwhole d (List.mem_cons_of_mem _ hmem)
      have hcons : stream (d :: transfers) k = d.onConnection k ++ stream transfers k := List.flatMap_cons
      rcases hwhole d List.mem_cons_self k with hall | hnone
      · exact ⟨d.frame :: frames, hsublist.cons_cons _, by rw [hcons, hall, hstream, List.flatten_cons]⟩
      · exact ⟨frames, hsublist.cons _, by rw [hcons, hnone, hstream, List.nil_append]⟩

/-- The transfer was made by the loop. -/
def Transfer.Traced (d : Transfer β) : Prop := ∃ sent, Trace d.frame 0 sent d.calls

theorem framed_iff_unbroken {transfers : List (Transfer β)} (htraced : ∀ d ∈ transfers, d.Traced) :
    Framed transfers ↔ ∀ d ∈ transfers, d.Unbroken := by
  constructor
  · intro hframed d hmem
    obtain ⟨_, htrace⟩ := htraced d hmem
    exact (hframed.whole d hmem).unbroken htrace
  · intro hunbroken
    have hwhole : ∀ d ∈ transfers, d.Whole := fun d hmem => by
      obtain ⟨_, htrace⟩ := htraced d hmem
      exact (hunbroken d hmem).whole htrace
    exact ⟨hwhole, stream_of_whole transfers hwhole⟩

end OnboardAutonomy.PartialWrites
