import OnboardAutonomy.Lines

/-! `read_lines`, which both camera sources have: what a pipe gives is cut into lines and handed to a consumer,
whatever the boundaries of the reads. -/

namespace OnboardAutonomy

open Lines

/-- A read that does not end the loop: some bytes, or an interruption by a signal. -/
inductive ReadAnswer (α : Type) where
  | bytes (first : α) (more : List α)
  | interrupted

namespace ReadAnswer

variable {α : Type}

/-- What a read adds to the text. -/
def content : ReadAnswer α → List α
  | .bytes first more => first :: more
  | .interrupted => []

end ReadAnswer

variable {α : Type}

/-- What the reads give altogether. -/
def readText (answers : List (ReadAnswer α)) : List α := answers.flatMap ReadAnswer.content

theorem readText_concat (answers : List (ReadAnswer α)) (answer : ReadAnswer α) :
    readText (answers ++ [answer]) = readText answers ++ answer.content := by
  rw [readText, List.flatMap_append, List.flatMap_singleton, readText]

variable [DecidableEq α]

theorem position_lt {text : List α} {element : α} {position : Nat}
    (h : text.idxOf? element = some position) : position < text.length :=
  (List.idxOf?_eq_some_iff.mp h).1

variable (newline : α)

/-- The inner loop: the lines in front of the newlines, and what remains of the buffer. -/
def extractLines (pending : List α) : List (List α) × List α :=
  match h : pending.idxOf? newline with
  | none => ([], pending)
  | some position =>
      have := position_lt h
      let (lines, remaining) := extractLines (pending.drop (position + 1))
      (pending.take position :: lines, remaining)
termination_by pending.length
decreasing_by
  rw [List.length_drop]
  omega

/-- The buffer of `read_lines`, and the calls of the consumer so far. -/
structure LineReader (α : Type) where
  pending : List α := []
  consumed : List (List α) := []

namespace LineReader

def read (r : LineReader α) : ReadAnswer α → LineReader α
  | .bytes first more =>
      let (lines, remaining) := extractLines newline (r.pending ++ first :: more)
      { pending := remaining
        consumed := r.consumed ++ lines }
  | .interrupted => r

def run (answers : List (ReadAnswer α)) : LineReader α := answers.foldl (read newline) {}

/-- The end of the file and an error both end the loop; a last line without a newline is handed over. -/
def finish (r : LineReader α) : List (List α) :=
  if r.pending.isEmpty then r.consumed else r.consumed ++ [r.pending]

end LineReader

/-- The calls of the consumer, when the reads give these answers and then end. -/
def readLines (answers : List (ReadAnswer α)) : List (List α) := (LineReader.run newline answers).finish

/-! ### The inner loop -/

/-- A text up to the first occurrence of an element, the element, and the text behind it. -/
theorem take_drop_position {text : List α} {element : α} {position : Nat}
    (h : text.idxOf? element = some position) :
    text = text.take position ++ element :: text.drop (position + 1) ∧ element ∉ text.take position := by
  obtain ⟨hlt, hat, hnone⟩ := List.idxOf?_eq_some_iff.mp h
  refine ⟨?_, fun hmem => ?_⟩
  · rw [← hat, ← List.drop_eq_getElem_cons hlt, List.take_append_drop]
  · obtain ⟨i, hi, hget⟩ := List.mem_iff_getElem.mp hmem
    rw [List.length_take] at hi
    rw [List.getElem_take] at hget
    exact hnone i (by omega) hget

theorem extractLines_split (pending : List α) :
    Split newline pending (extractLines newline pending).1 (extractLines newline pending).2 := by
  fun_induction extractLines newline pending with
  | case1 pending hnone => exact Split.free (List.idxOf?_eq_none_iff.mp hnone)
  | case2 pending position hposition hlt lines remaining hrest ih =>
      obtain ⟨hpending, hfree⟩ := take_drop_position hposition
      rw [hrest] at ih
      have hline := Split.line hfree ih
      rwa [← hpending] at hline

/-! ### All reads -/

namespace LineReader

/-- The calls so far are the lines of the text so far, and the buffer is its rest. -/
theorem run_split (answers : List (ReadAnswer α)) :
    Split newline (readText answers) (run newline answers).consumed (run newline answers).pending := by
  induction answers using List.reverseRecOn with
  | nil => exact Split.free List.not_mem_nil
  | append_singleton answers answer ih =>
      rw [readText_concat, run, List.foldl_append]
      cases answer with
      | bytes first more => exact ih.append (extractLines_split newline _)
      | interrupted =>
          rw [ReadAnswer.content, List.append_nil]
          exact ih

end LineReader

/-- Whatever the boundaries of the reads, the consumer is called with the lines of the whole text, one for
each newline, and with the rest behind the last newline unless that is empty. The loop that takes lines out
of the buffer takes one for each newline in it. -/
theorem readLines_exact (answers : List (ReadAnswer α)) :
    (∃ complete rest, Split newline (readText answers) complete rest ∧
      readLines newline answers = complete ++ if rest.isEmpty then [] else [rest]) ∧
    readLines newline answers = lines newline (readText answers) ∧
    ∀ pending, (extractLines newline pending).1.length = pending.count newline := by
  have hsplit := LineReader.run_split newline answers
  have hlines : readLines newline answers = (LineReader.run newline answers).consumed ++
      if (LineReader.run newline answers).pending.isEmpty then []
      else [(LineReader.run newline answers).pending] := by
    rw [readLines, LineReader.finish]
    split
    · exact (List.append_nil _).symm
    · rfl
  refine ⟨⟨_, _, hsplit, hlines⟩, ?_, fun pending => (extractLines_split newline pending).length_eq⟩
  rw [hlines, hsplit.lines_eq]

end OnboardAutonomy
