import Mathlib.Algebra.GroupWithZero.Nat
import Mathlib.Data.List.Basic
import Mathlib.Data.List.TakeWhile

/-! Wrapping a text to lines of a width. A line ends at the last blank that leaves it short enough, and the
blanks at the break are dropped; where there is none, the line is full. The words of the lines are the words
of the text, cut into pieces where they are longer than a line. Nothing here is about a particular program. -/

namespace OnboardAutonomy.Wrapping

variable {α : Type} [DecidableEq α]

/-- The last position up to a limit at which an element stands. -/
def rfind (text : List α) (element : α) : Nat → Option Nat
  | 0 => if text[0]? = some element then some 0 else none
  | limit + 1 => if text[limit + 1]? = some element then some (limit + 1) else rfind text element limit

theorem rfind_some {text : List α} {element : α} {limit position : Nat}
    (h : rfind text element limit = some position) :
    position ≤ limit ∧ text[position]? = some element ∧
      ∀ later, position < later → later ≤ limit → text[later]? ≠ some element := by
  induction limit with
  | zero =>
      rw [rfind] at h
      split at h
      · rename_i hzero
        obtain rfl := Option.some.inj h
        exact ⟨le_rfl, hzero, fun later hlater hle => by omega⟩
      · cases h
  | succ limit ih =>
      rw [rfind] at h
      split at h
      · rename_i hlast
        obtain rfl := Option.some.inj h
        exact ⟨le_rfl, hlast, fun later hlater hle => by omega⟩
      · rename_i hlast
        obtain ⟨hle, hat, hnone⟩ := ih h
        refine ⟨hle.trans (Nat.le_succ limit), hat, ?_⟩
        intro later hlater hle'
        rcases Nat.lt_or_eq_of_le hle' with hless | rfl
        · exact hnone later hlater (Nat.le_of_lt_succ hless)
        · exact hlast

theorem rfind_none {text : List α} {element : α} {limit : Nat} (h : rfind text element limit = none) :
    ∀ position ≤ limit, text[position]? ≠ some element := by
  induction limit with
  | zero =>
      rw [rfind] at h
      split at h
      · cases h
      · rename_i hzero
        intro position hposition
        rw [Nat.le_zero.mp hposition]
        exact hzero
  | succ limit ih =>
      rw [rfind] at h
      split at h
      · cases h
      · rename_i hlast
        intro position hposition
        rcases Nat.lt_or_eq_of_le hposition with hless | rfl
        · exact ih h position (Nat.le_of_lt_succ hless)
        · exact hlast

variable (blank : α) (width : Nat)

/-- How much of the remaining text goes on the next line. -/
def lineCount (remaining : List α) : Nat :=
  let count := min remaining.length width
  if width < remaining.length then
    match rfind remaining blank width with
    | some space => if 0 < space then space else count
    | none => count
  else count

theorem lineCount_pos [NeZero width] {remaining : List α} (h : remaining ≠ []) :
    0 < lineCount blank width remaining := by
  have hcount : 0 < min remaining.length width :=
    lt_min (List.length_pos_iff.mpr h) (Nat.pos_of_ne_zero (NeZero.ne width))
  simp only [lineCount]
  split
  · split
    · split
      · assumption
      · exact hcount
    · exact hcount
  · exact hcount

/-- The lines of a text, without padding. -/
def wrap [NeZero width] (remaining : List α) : List (List α) :=
  if remaining = [] then []
  else
    remaining.take (lineCount blank width remaining) ::
      wrap ((remaining.drop (lineCount blank width remaining)).dropWhile fun element => element == blank)
termination_by remaining.length
decreasing_by
  rename_i hremaining
  have hpos := lineCount_pos blank width hremaining
  have hlength := List.length_pos_iff.mpr hremaining
  calc ((remaining.drop (lineCount blank width remaining)).dropWhile fun element => element == blank).length
      ≤ (remaining.drop (lineCount blank width remaining)).length := (List.dropWhile_suffix _).length_le
    _ < remaining.length := by
      rw [List.length_drop]
      omega

/-! ### Words -/

/-- The longest stretches of a text without blanks. -/
def words (text : List α) : List (List α) :=
  (text.splitOnP fun element => element == blank).filter fun word => !word.isEmpty

variable {blank}

theorem words_append (before after : List α) :
    words blank (before ++ blank :: after) = words blank before ++ words blank after := by
  rw [words, List.splitOnP_append_cons (p := fun element => element == blank) before after
    (beq_self_eq_true blank), List.filter_append]
  rfl

theorem words_of_free {word : List α} (hfree : blank ∉ word) (hnonempty : word ≠ []) :
    words blank word = [word] := by
  rw [words, List.splitOnP_eq_singleton]
  · rw [List.filter_cons_of_pos]
    · rfl
    · rw [List.isEmpty_eq_false_iff.mpr hnonempty]
      rfl
  · intro element helement
    rw [beq_eq_false_iff_ne]
    rintro rfl
    exact hfree helement

theorem words_cons_blank (text : List α) : words blank (blank :: text) = words blank text :=
  words_append [] text

theorem words_dropWhile (text : List α) :
    words blank (text.dropWhile fun element => element == blank) = words blank text := by
  induction text with
  | nil => rfl
  | cons element text ih =>
      by_cases hblank : element = blank
      · rw [hblank, List.dropWhile_cons_of_pos (p := fun element => element == blank)
          (beq_self_eq_true blank), ih, words_cons_blank]
      · rw [List.dropWhile_cons_of_neg]
        rw [beq_iff_eq]
        exact hblank

/-- Induction on the blanks of a text. -/
theorem split_induction (blank : α) {P : List α → Prop} (hfree : ∀ word, blank ∉ word → P word)
    (hsplit : ∀ before after, P before → P after → P (before ++ blank :: after)) (text : List α) : P text := by
  by_cases hblank : blank ∈ text
  · obtain ⟨before, after, htext, hbefore⟩ := List.eq_append_cons_of_mem hblank
    rw [htext]
    exact hsplit before after (hfree before hbefore) (split_induction blank hfree hsplit after)
  · exact hfree text hblank
termination_by text.length
decreasing_by
  rw [htext, List.length_append, List.length_cons]
  omega

theorem words_free {word : List α} (hfree : blank ∉ word) :
    word = [] ∧ words blank word = [] ∨ word ≠ [] ∧ words blank word = [word] := by
  by_cases hnonempty : word = []
  · subst hnonempty
    exact Or.inl ⟨rfl, rfl⟩
  · exact Or.inr ⟨hnonempty, words_of_free hfree hnonempty⟩

theorem length_le_of_mem_words (text : List α) : ∀ word ∈ words blank text, word.length ≤ text.length := by
  induction text using split_induction blank with
  | hfree text hfree =>
      rcases words_free hfree with ⟨-, hwords⟩ | ⟨-, hwords⟩
      · rw [hwords]
        exact nofun
      · rw [hwords]
        intro word hword
        rw [List.mem_singleton.mp hword]
  | hsplit before after hbefore hafter =>
      intro word hword
      rw [words_append] at hword
      rw [List.length_append, List.length_cons]
      rcases List.mem_append.mp hword with hword | hword
      · have hle := hbefore word hword
        omega
      · have hle := hafter word hword
        omega

theorem words_flatten (text : List α) :
    (words blank text).flatten = text.filter fun element => element != blank := by
  induction text using split_induction blank with
  | hfree text hfree =>
      have hall : (text.filter fun element => element != blank) = text := by
        rw [List.filter_eq_self]
        intro element helement
        rw [bne_iff_ne]
        rintro rfl
        exact hfree helement
      rw [hall]
      rcases words_free hfree with ⟨rfl, hwords⟩ | ⟨-, hwords⟩
      · rw [hwords]
        rfl
      · rw [hwords, List.flatten_singleton]
  | hsplit before after hbefore hafter =>
      have hblank : ¬((blank != blank) = true) := by
        rw [bne_self_eq_false]
        exact Bool.false_ne_true
      rw [words_append, List.flatten_append, hbefore, hafter, List.filter_append,
        List.filter_cons_of_neg (p := fun element => element != blank) hblank]

/-- What is put in front of a word without a blank between them becomes a part of the word. -/
theorem words_extend {front text : List α} (hfree : blank ∉ front) (hnonempty : text ≠ [])
    (hhead : text.head? ≠ some blank) :
    ∃ word rest, word ≠ [] ∧ words blank text = word :: rest ∧
      words blank (front ++ text) = (front ++ word) :: rest := by
  by_cases hblank : blank ∈ text
  · obtain ⟨word, after, rfl, hword⟩ := List.eq_append_cons_of_mem hblank
    have hne : word ≠ [] := by
      rintro rfl
      exact hhead rfl
    have hfree' : blank ∉ front ++ word := fun hmem => (List.mem_append.mp hmem).elim hfree hword
    refine ⟨word, words blank after, hne, ?_, ?_⟩
    · rw [words_append, words_of_free hword hne]
      rfl
    · rw [← List.append_assoc, words_append, words_of_free hfree' (List.append_ne_nil_of_right_ne_nil _ hne)]
      rfl
  · have hfree' : blank ∉ front ++ text := fun hmem => (List.mem_append.mp hmem).elim hfree hblank
    exact ⟨text, [], hnonempty, words_of_free hblank hnonempty,
      words_of_free hfree' (List.append_ne_nil_of_right_ne_nil _ hnonempty)⟩

/-! ### The words of the lines -/

/-- A word cut to the width from its start on. -/
def pieces [NeZero width] (word : List α) : List (List α) :=
  if word.length ≤ width then [word] else word.take width :: pieces (word.drop width)
termination_by word.length
decreasing_by
  have hpos := Nat.pos_of_ne_zero (NeZero.ne width)
  rw [List.length_drop]
  omega

/-- A text that begins with one blank and a word that reaches past the line. The blank stays on the line. -/
def beginsPast (blank : α) (width : Nat) (text : List α) : Bool :=
  decide (text.head? = some blank ∧ width < text.length ∧ blank ∉ text.tail.take width)

/-- The words of a text, cut where the lines cut them. -/
def lineWords [NeZero width] (blank : α) (text : List α) : List (List α) :=
  if beginsPast blank width text then
    words blank (text.take width) ++ (words blank (text.drop width)).flatMap (pieces width)
  else (words blank text).flatMap (pieces width)

section Pieces

omit [DecidableEq α]

theorem not_mem_take {blank : α} {text : List α} {count : Nat} (h : ∀ i < count, text[i]? ≠ some blank) :
    blank ∉ text.take count := by
  intro hmem
  obtain ⟨i, hi⟩ := List.mem_iff_getElem?.mp hmem
  rw [List.getElem?_take] at hi
  split at hi
  · rename_i hless
    exact h i hless hi
  · cases hi

variable {width} [NeZero width]

theorem pieces_short {word : List α} (h : word.length ≤ width) : pieces width word = [word] := by
  rw [pieces, if_pos h]

theorem pieces_append {front word : List α} (hfront : front.length = width) (hword : word ≠ []) :
    pieces width (front ++ word) = front :: pieces width word := by
  have hpos := List.length_pos_iff.mpr hword
  rw [pieces, if_neg, List.take_left' hfront, List.drop_left' hfront]
  rw [List.length_append]
  omega

theorem flatMap_pieces_short {list : List (List α)} (h : ∀ word ∈ list, word.length ≤ width) :
    list.flatMap (pieces width) = list := by
  calc list.flatMap (pieces width) = list.flatMap fun word => [word] :=
        List.flatMap_congr fun word hword => pieces_short (h word hword)
    _ = list := List.flatMap_singleton' list

end Pieces

variable {width}

theorem beginsPast_of_short {text : List α} (h : text.length ≤ width) : beginsPast blank width text = false :=
  decide_eq_false fun hpast => not_lt.mpr h hpast.2.1

theorem beginsPast_of_break {before : List α} (after : List α) (hnonempty : before ≠ [])
    (hle : before.length ≤ width) : beginsPast blank width (before ++ blank :: after) = false := by
  obtain ⟨first, before, rfl⟩ := List.exists_cons_of_ne_nil hnonempty
  rw [List.length_cons] at hle
  refine decide_eq_false fun hpast => hpast.2.2 ?_
  rw [List.cons_append, List.tail_cons, List.take_append, List.take_of_length_le (by omega)]
  obtain ⟨room, hroom⟩ : ∃ room, width - before.length = room + 1 := ⟨width - before.length - 1, by omega⟩
  rw [hroom, List.take_succ_cons]
  exact List.mem_append_right _ List.mem_cons_self

theorem beginsPast_of_head {text : List α} (h : text.head? ≠ some blank) :
    beginsPast blank width text = false :=
  decide_eq_false fun hpast => h hpast.1

/-- The four ways a line can end: the text does, at a blank, in a word, or in a word behind the blank that
the text begins with. -/
theorem lineCount_cases (blank : α) (width : Nat) (text : List α) :
    text.length ≤ width ∧ lineCount blank width text = text.length ∨
    (∃ before after, text = before ++ blank :: after ∧ before ≠ [] ∧ before.length ≤ width ∧
      lineCount blank width text = before.length) ∨
    (width < text.length ∧ (∀ i ≤ width, text[i]? ≠ some blank) ∧ lineCount blank width text = width) ∨
    beginsPast blank width text = true ∧ lineCount blank width text = width := by
  by_cases hlong : width < text.length
  · simp only [lineCount, if_pos hlong, min_eq_right hlong.le]
    cases hfind : rfind text blank width with
    | none => exact Or.inr (Or.inr (Or.inl ⟨hlong, rfind_none hfind, rfl⟩))
    | some space =>
        obtain ⟨hle, hat, hlater⟩ := rfind_some hfind
        dsimp only
        split
        · rename_i hpos
          have hless := (List.getElem?_eq_some_iff.mp hat).1
          refine Or.inr (Or.inl ⟨text.take space, text.drop (space + 1), ?_, ?_, ?_, ?_⟩)
          · rw [← (List.getElem?_eq_some_iff.mp hat).2, ← List.drop_eq_getElem_cons, List.take_append_drop]
          · rw [← List.length_pos_iff, List.length_take_of_le hless.le]
            exact hpos
          · rw [List.length_take_of_le hless.le]
            exact hle
          · rw [List.length_take_of_le hless.le]
        · rename_i hzero
          obtain rfl : space = 0 := by omega
          refine Or.inr (Or.inr (Or.inr ⟨decide_eq_true ⟨?_, hlong, not_mem_take ?_⟩, rfl⟩))
          · rw [List.head?_eq_getElem?]
            exact hat
          · intro i hi
            rw [List.getElem?_tail]
            exact hlater (i + 1) (Nat.succ_pos i) hi
  · simp only [lineCount, if_neg hlong]
    exact Or.inl ⟨not_lt.mp hlong, min_eq_left (not_lt.mp hlong)⟩

theorem beginsPast_append {before : List α} (after : List α) (hnonempty : before ≠ []) :
    beginsPast blank width (before ++ blank :: after) = beginsPast blank width before := by
  by_cases hshort : before.length ≤ width
  · rw [beginsPast_of_break after hnonempty hshort, beginsPast_of_short hshort]
  · obtain ⟨first, before, rfl⟩ := List.exists_cons_of_ne_nil hnonempty
    rw [List.length_cons, not_le] at hshort
    have htake : ((before ++ blank :: after).take width) = before.take width :=
      List.take_append_of_le_length (by omega)
    refine decide_eq_decide.mpr (and_congr Iff.rfl (and_congr ?_ ?_))
    · rw [List.length_append, List.length_cons]
      exact iff_of_true (by omega) hshort
    · rw [List.cons_append, List.tail_cons, List.tail_cons, htake]

variable [NeZero width]

/-- What a line does to the words: those on it are whole, and the rest of the text is cut from its start. -/
theorem lineWords_break (text : List α) :
    lineWords width blank text = words blank (text.take (lineCount blank width text)) ++
      (words blank (text.drop (lineCount blank width text))).flatMap (pieces width) := by
  rcases lineCount_cases blank width text with
    ⟨hshort, hcount⟩ | ⟨before, after, rfl, hne, hle, hcount⟩ | ⟨hlong, hnone, hcount⟩ | ⟨hpast, hcount⟩
  · rw [hcount, List.take_length, List.drop_length, lineWords, beginsPast_of_short hshort,
      if_neg Bool.false_ne_true,
      flatMap_pieces_short fun word hword => (length_le_of_mem_words text word hword).trans hshort]
    exact (List.append_nil _).symm
  · rw [hcount, List.take_left, List.drop_left, lineWords, beginsPast_of_break after hne hle,
      if_neg Bool.false_ne_true, words_append, List.flatMap_append, words_cons_blank,
      flatMap_pieces_short fun word hword => (length_le_of_mem_words before word hword).trans hle]
  · have hpos := Nat.pos_of_ne_zero (NeZero.ne width)
    have hhead : text.head? ≠ some blank := by
      rw [List.head?_eq_getElem?]
      exact hnone 0 hpos.le
    have hrest : (text.drop width).head? ≠ some blank := by
      rw [List.head?_drop]
      exact hnone width le_rfl
    have hfree : blank ∉ text.take width := not_mem_take fun i hi => hnone i hi.le
    have hlength : (text.take width).length = width := List.length_take_of_le hlong.le
    have hfront : text.take width ≠ [] := List.ne_nil_of_length_pos (by rw [hlength]; exact hpos)
    have hleft : text.drop width ≠ [] := by
      rw [← List.length_pos_iff, List.length_drop]
      omega
    obtain ⟨word, rest, hword, hafter, hwords⟩ := words_extend hfree hleft hrest
    rw [List.take_append_drop] at hwords
    rw [hcount, lineWords, beginsPast_of_head hhead, if_neg Bool.false_ne_true, hwords, hafter,
      words_of_free hfree hfront, List.flatMap_cons, List.flatMap_cons, pieces_append hlength hword]
    rfl
  · rw [hcount, lineWords, if_pos hpast]

theorem lineWords_of_head {text : List α} (h : text.head? ≠ some blank) :
    lineWords width blank text = (words blank text).flatMap (pieces width) := by
  rw [lineWords, beginsPast_of_head h, if_neg Bool.false_ne_true]

theorem mem_of_mem_words {text word : List α} (h : word ∈ words blank text) {element : α}
    (helement : element ∈ word) : element ∈ text := by
  have hflatten : element ∈ (words blank text).flatten := List.mem_flatten.mpr ⟨word, h, helement⟩
  rw [words_flatten] at hflatten
  exact (List.mem_filter.mp hflatten).1

/-- A blank in a text separates what the lines make of the two sides. -/
theorem lineWords_append {before : List α} (after : List α) (hnonempty : before ≠ []) :
    lineWords width blank (before ++ blank :: after) =
      lineWords width blank before ++ (words blank after).flatMap (pieces width) := by
  rw [lineWords, beginsPast_append after hnonempty, lineWords]
  split
  · rename_i hpast
    have hlong : width < before.length := (of_decide_eq_true hpast).2.1
    rw [List.take_append_of_le_length hlong.le, List.drop_append_of_le_length hlong.le, words_append,
      List.flatMap_append, List.append_assoc]
  · rw [words_append, List.flatMap_append]

/-- The words of the lines, read in order, are the words of the text, cut into pieces where they are longer
than a line. -/
theorem wrap_words (text : List α) :
    (wrap blank width text).flatMap (words blank) = lineWords width blank text := by
  induction text using wrap.induct blank width with
  | case1 =>
      have hhead : ([] : List α).head? ≠ some blank := (Option.some_ne_none blank).symm
      rw [wrap, if_pos rfl, lineWords_of_head hhead]
      rfl
  | case2 text hnonempty ih =>
      have hhead : ((text.drop (lineCount blank width text)).dropWhile fun element => element == blank).head? ≠
          some blank := by
        intro hsome
        have hnot := List.head?_dropWhile_not (fun element => element == blank)
          (text.drop (lineCount blank width text))
        rw [hsome] at hnot
        exact Bool.noConfusion ((beq_self_eq_true blank).symm.trans hnot)
      rw [lineWords_of_head hhead, words_dropWhile] at ih
      rw [wrap, if_neg hnonempty, List.flatMap_cons, ih]
      exact (lineWords_break text).symm

/-- Nothing but blanks is dropped. -/
theorem wrap_filter (text : List α) : ((wrap blank width text).flatten.filter fun element => element != blank) =
    text.filter fun element => element != blank := by
  induction text using wrap.induct blank width with
  | case1 => rw [wrap, if_pos rfl, List.flatten_nil]
  | case2 text hnonempty ih =>
      have hdropped :
          ((text.drop (lineCount blank width text)).dropWhile fun element => element == blank).filter
            (fun element => element != blank) =
          (text.drop (lineCount blank width text)).filter fun element => element != blank := by
        rw [← words_flatten, words_dropWhile, words_flatten]
      rw [wrap, if_neg hnonempty, List.flatten_cons, List.filter_append, ih, hdropped, ← List.filter_append,
        List.take_append_drop]

theorem wrap_length_le (text : List α) : ∀ line ∈ wrap blank width text, line.length ≤ width := by
  induction text using wrap.induct blank width with
  | case1 =>
      rw [wrap, if_pos rfl]
      exact nofun
  | case2 text hnonempty ih =>
      have hcount : lineCount blank width text ≤ width := by
        rcases lineCount_cases blank width text with
          ⟨hshort, hcount⟩ | ⟨before, after, -, -, hle, hcount⟩ | ⟨-, -, hcount⟩ | ⟨-, hcount⟩
        · exact hcount.trans_le hshort
        · exact hcount.trans_le hle
        · exact hcount.le
        · exact hcount.le
      rw [wrap, if_neg hnonempty]
      intro line hline
      rcases List.mem_cons.mp hline with rfl | hline
      · exact (List.length_take_le _ _).trans hcount
      · exact ih line hline

theorem mem_of_mem_wrap (text : List α) : ∀ line ∈ wrap blank width text, ∀ element ∈ line, element ∈ text := by
  induction text using wrap.induct blank width with
  | case1 =>
      rw [wrap, if_pos rfl]
      exact nofun
  | case2 text hnonempty ih =>
      rw [wrap, if_neg hnonempty]
      intro line hline element helement
      rcases List.mem_cons.mp hline with rfl | hline
      · exact List.mem_of_mem_take helement
      · exact List.mem_of_mem_drop ((List.dropWhile_sublist _).subset (ih line hline element helement))

end OnboardAutonomy.Wrapping
