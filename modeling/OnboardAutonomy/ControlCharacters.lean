import Mathlib.Data.List.Basic
import Mathlib.Data.List.Infix
import OnboardAutonomy.Wrapping

/-! Control characters in a text that is shown on a terminal. The text is any bytes; where they are UTF-8 a
terminal reads characters, and elsewhere it may act on a single byte. A text falls apart at every printable
ASCII character, for no encoding of another character contains one. Nothing here is about a particular
program. -/

namespace OnboardAutonomy.ControlCharacters

/-- The characters U+0080 to U+009F. -/
def IsC1 (c : Char) : Prop := 0x80 ≤ c.toNat ∧ c.toNat ≤ 0x9F

/-- The byte between two parts of a text belongs to the UTF-8 encoding of a character there. -/
def Encodes (c : Char) (before : List UInt8) (byte : UInt8) (after : List UInt8) : Prop :=
  ∃ front back, front <:+ before ∧ back <+: after ∧ String.utf8EncodeChar c = front ++ byte :: back

/-- The byte is a control character other than a newline, or belongs to one: a C0 character or DEL, a C1
byte that no encoding explains, or a byte of the encoding of a C1 character. -/
def ControlAt (before : List UInt8) (byte : UInt8) (after : List UInt8) : Prop :=
  byte < 32 ∧ byte ≠ 10 ∨ byte = 127 ∨
    (128 ≤ byte ∧ byte ≤ 159 ∧ ¬∃ c, Encodes c before byte after) ∨
    ∃ c, IsC1 c ∧ Encodes c before byte after

def HasControl (text : List UInt8) : Prop :=
  ∃ before byte after, text = before ++ byte :: after ∧ ControlAt before byte after

/-- A printable ASCII character or a newline. -/
def Harmless (byte : UInt8) : Prop := (32 ≤ byte ∨ byte = 10) ∧ byte < 127

instance (byte : UInt8) : Decidable (Harmless byte) := inferInstanceAs (Decidable (_ ∧ _))

/-! ### Encodings -/

theorem high_ofNat {n : Nat} (hlow : 128 ≤ n) (hhigh : n < 256) : 128 ≤ UInt8.ofNat n := by
  rw [UInt8.le_iff_toNat_le, UInt8.toNat_ofNat', Nat.mod_eq_of_lt hhigh]
  exact hlow

/-- A character is one byte below 128, or several bytes of 128 or more. -/
theorem utf8EncodeChar_cases (c : Char) :
    (c.toNat < 128 ∧ String.utf8EncodeChar c = [UInt8.ofNat c.toNat]) ∨
      128 ≤ c.toNat ∧ 1 < (String.utf8EncodeChar c).length ∧ ∀ byte ∈ String.utf8EncodeChar c, 128 ≤ byte := by
  by_cases hascii : c.val.toNat ≤ 0x7f
  · exact Or.inl ⟨Nat.lt_succ_of_le hascii, if_pos hascii⟩
  · refine Or.inr ⟨Nat.lt_of_not_le hascii, ?_⟩
    simp only [String.utf8EncodeChar, if_neg hascii]
    split
    · refine ⟨Nat.lt_succ_self 1, List.forall_mem_cons.mpr ⟨high_ofNat (by omega) (by omega), ?_⟩⟩
      exact List.forall_mem_singleton.mpr (high_ofNat (by omega) (by omega))
    · split
      · refine ⟨Nat.lt_add_left 1 (Nat.lt_succ_self 1), ?_⟩
        refine List.forall_mem_cons.mpr ⟨high_ofNat (by omega) (by omega), ?_⟩
        refine List.forall_mem_cons.mpr ⟨high_ofNat (by omega) (by omega), ?_⟩
        exact List.forall_mem_singleton.mpr (high_ofNat (by omega) (by omega))
      · refine ⟨Nat.lt_add_left 2 (Nat.lt_succ_self 1), ?_⟩
        refine List.forall_mem_cons.mpr ⟨high_ofNat (by omega) (by omega), ?_⟩
        refine List.forall_mem_cons.mpr ⟨high_ofNat (by omega) (by omega), ?_⟩
        refine List.forall_mem_cons.mpr ⟨high_ofNat (by omega) (by omega), ?_⟩
        exact List.forall_mem_singleton.mpr (high_ofNat (by omega) (by omega))

theorem low_not_mem {c : Char} (h : 128 ≤ c.toNat) {byte : UInt8} (hbyte : byte < 128) :
    byte ∉ String.utf8EncodeChar c := by
  rcases utf8EncodeChar_cases c with ⟨hless, -⟩ | ⟨-, -, hhigh⟩
  · omega
  · exact fun hmem => UInt8.not_le.mpr hbyte (hhigh byte hmem)

/-- The character that explains a byte of 128 or more has no byte below. -/
theorem Encodes.high {c : Char} {before after : List UInt8} {byte : UInt8} (h : Encodes c before byte after)
    (hbyte : 128 ≤ byte) : 128 ≤ c.toNat := by
  obtain ⟨front, back, -, -, hencode⟩ := h
  rcases utf8EncodeChar_cases c with ⟨hless, hsingle⟩ | ⟨hle, -⟩
  · have hmem : byte ∈ String.utf8EncodeChar c := by
      rw [hencode]
      exact List.mem_append_right _ List.mem_cons_self
    rw [hsingle, List.mem_singleton] at hmem
    rw [hmem, UInt8.le_iff_toNat_le, UInt8.toNat_ofNat', Nat.mod_eq_of_lt (hless.trans (by decide))] at hbyte
    exact hbyte
  · exact hle

theorem prefix_of_not_mem {α : Type} {list first rest : List α} {separator : α}
    (h : list <+: first ++ separator :: rest) (hfree : separator ∉ list) : list <+: first := by
  obtain ⟨remainder, hlist⟩ := h
  rcases List.append_eq_append_iff.mp hlist with ⟨after, rfl, -⟩ | ⟨after, rfl, hafter⟩
  · exact List.prefix_append list after
  · cases after with
    | nil => rw [List.append_nil]
    | cons element after =>
        rw [← (List.cons.inj hafter).1] at hfree
        exact absurd (List.mem_append_right _ List.mem_cons_self) hfree

theorem suffix_of_not_mem {α : Type} {list first rest : List α} {separator : α}
    (h : list <:+ first ++ separator :: rest) (hfree : separator ∉ list) : list <:+ rest := by
  rw [← List.reverse_prefix] at h ⊢
  rw [List.reverse_append, List.reverse_cons, List.append_assoc] at h
  exact prefix_of_not_mem h fun hmem => hfree (List.mem_reverse.mp hmem)

section Separator

variable {c : Char} {before after rest : List UInt8} {byte separator : UInt8}

/-- A byte below 128 ends the stretch in which an encoding of a character of 128 or more is looked for. -/
theorem encodes_append_right (h : 128 ≤ c.toNat ∨ 128 ≤ byte) (hseparator : separator < 128) :
    Encodes c before byte (after ++ separator :: rest) ↔ Encodes c before byte after := by
  constructor
  · intro hencodes
    have hc : 128 ≤ c.toNat := h.elim id hencodes.high
    obtain ⟨front, back, hfront, hback, hencode⟩ := hencodes
    refine ⟨front, back, hfront, prefix_of_not_mem hback ?_, hencode⟩
    intro hmem
    apply low_not_mem hc hseparator
    rw [hencode]
    exact List.mem_append_right _ (List.mem_cons_of_mem _ hmem)
  · rintro ⟨front, back, hfront, hback, hencode⟩
    exact ⟨front, back, hfront, hback.trans (List.prefix_append _ _), hencode⟩

theorem encodes_append_left (h : 128 ≤ c.toNat ∨ 128 ≤ byte) (hseparator : separator < 128) :
    Encodes c (rest ++ separator :: before) byte after ↔ Encodes c before byte after := by
  constructor
  · intro hencodes
    have hc : 128 ≤ c.toNat := h.elim id hencodes.high
    obtain ⟨front, back, hfront, hback, hencode⟩ := hencodes
    refine ⟨front, back, suffix_of_not_mem hfront ?_, hback, hencode⟩
    intro hmem
    apply low_not_mem hc hseparator
    rw [hencode]
    exact List.mem_append_left _ hmem
  · rintro ⟨front, back, hfront, hback, hencode⟩
    refine ⟨front, back, hfront.trans ?_, hback, hencode⟩
    exact ⟨rest ++ [separator], by rw [List.append_assoc]; rfl⟩

theorem controlAt_append_right (hseparator : separator < 128) :
    ControlAt before byte (after ++ separator :: rest) ↔ ControlAt before byte after := by
  refine or_congr Iff.rfl (or_congr Iff.rfl (or_congr ?_ ?_))
  · refine and_congr_right fun hbyte => and_congr_right fun _ => not_congr (exists_congr fun c => ?_)
    exact encodes_append_right (Or.inr hbyte) hseparator
  · refine exists_congr fun c => and_congr_right fun hc => ?_
    exact encodes_append_right (Or.inl hc.1) hseparator

theorem controlAt_append_left (hseparator : separator < 128) :
    ControlAt (rest ++ separator :: before) byte after ↔ ControlAt before byte after := by
  refine or_congr Iff.rfl (or_congr Iff.rfl (or_congr ?_ ?_))
  · refine and_congr_right fun hbyte => and_congr_right fun _ => not_congr (exists_congr fun c => ?_)
    exact encodes_append_left (Or.inr hbyte) hseparator
  · refine exists_congr fun c => and_congr_right fun hc => ?_
    exact encodes_append_left (Or.inl hc.1) hseparator

theorem Harmless.low (h : Harmless byte) : byte < 128 := UInt8.lt_trans h.2 (by decide)

theorem Harmless.not_controlAt (h : Harmless byte) : ¬ControlAt before byte after := by
  rintro (⟨hlow, hnewline⟩ | rfl | ⟨hhigh, -⟩ | ⟨c, hc, front, back, -, -, hencode⟩)
  · exact h.1.elim (fun hle => UInt8.not_le.mpr hlow hle) hnewline
  · exact absurd h.2 (by decide)
  · exact UInt8.not_le.mpr h.low hhigh
  · apply low_not_mem hc.1 h.low
    rw [hencode]
    exact List.mem_append_right _ List.mem_cons_self

end Separator

/-! ### Texts fall apart at harmless bytes -/

theorem not_hasControl_nil : ¬HasControl [] := by
  rintro ⟨before, byte, after, htext, -⟩
  exact List.append_ne_nil_of_right_ne_nil before (List.cons_ne_nil byte after) htext.symm

theorem hasControl_append {before after : List UInt8} {separator : UInt8} (h : Harmless separator) :
    HasControl (before ++ separator :: after) ↔ HasControl before ∨ HasControl after := by
  constructor
  · rintro ⟨first, byte, last, htext, hcontrol⟩
    rcases List.append_eq_append_iff.mp htext with ⟨middle, rfl, hmiddle⟩ | ⟨middle, rfl, hmiddle⟩
    · cases middle with
      | nil =>
          obtain ⟨rfl, rfl⟩ := List.cons.inj hmiddle
          exact absurd hcontrol h.not_controlAt
      | cons element middle =>
          obtain ⟨rfl, rfl⟩ := List.cons.inj hmiddle
          exact Or.inr ⟨middle, byte, last, rfl, (controlAt_append_left h.low).mp hcontrol⟩
    · cases middle with
      | nil =>
          obtain ⟨rfl, rfl⟩ := List.cons.inj hmiddle
          exact absurd hcontrol h.not_controlAt
      | cons element middle =>
          obtain ⟨rfl, rfl⟩ := List.cons.inj hmiddle
          exact Or.inl ⟨first, byte, middle, rfl, (controlAt_append_right h.low).mp hcontrol⟩
  · rintro (⟨first, byte, last, rfl, hcontrol⟩ | ⟨first, byte, last, rfl, hcontrol⟩)
    · refine ⟨first, byte, last ++ separator :: after, ?_, (controlAt_append_right h.low).mpr hcontrol⟩
      rw [List.append_assoc, List.cons_append]
    · refine ⟨before ++ separator :: first, byte, last, ?_, (controlAt_append_left h.low).mpr hcontrol⟩
      rw [List.append_assoc, List.cons_append]

theorem hasControl_harmless_append {front text : List UInt8} (h : ∀ byte ∈ front, Harmless byte) :
    HasControl (front ++ text) ↔ HasControl text := by
  induction front with
  | nil => exact Iff.rfl
  | cons byte front ih =>
      obtain ⟨hbyte, hfront⟩ := List.forall_mem_cons.mp h
      calc HasControl ([] ++ byte :: (front ++ text))
        _ ↔ HasControl [] ∨ HasControl (front ++ text) := hasControl_append hbyte
        _ ↔ HasControl (front ++ text) := or_iff_right not_hasControl_nil
        _ ↔ HasControl text := ih hfront

theorem hasControl_append_harmless {text back : List UInt8} (h : ∀ byte ∈ back, Harmless byte) :
    HasControl (text ++ back) ↔ HasControl text := by
  cases back with
  | nil => rw [List.append_nil]
  | cons byte back =>
      obtain ⟨hbyte, hback⟩ := List.forall_mem_cons.mp h
      have hnone : ¬HasControl back := by
        have hempty : HasControl (back ++ []) ↔ HasControl [] := hasControl_harmless_append hback
        rw [List.append_nil] at hempty
        exact fun hcontrol => not_hasControl_nil (hempty.mp hcontrol)
      calc HasControl (text ++ byte :: back)
        _ ↔ HasControl text ∨ HasControl back := hasControl_append hbyte
        _ ↔ HasControl text := or_iff_left hnone

theorem not_hasControl_harmless {text : List UInt8} (h : ∀ byte ∈ text, Harmless byte) : ¬HasControl text := by
  intro hcontrol
  rw [← List.append_nil text] at hcontrol
  exact not_hasControl_nil ((hasControl_harmless_append h).mp hcontrol)

/-- A C1 byte on its own is a control character. -/
theorem hasControl_byte {byte : UInt8} (hlow : 128 ≤ byte) (hhigh : byte ≤ 159) : HasControl [byte] := by
  refine ⟨[], byte, [], rfl, Or.inr (Or.inr (Or.inl ⟨hlow, hhigh, ?_⟩))⟩
  rintro ⟨c, hencodes⟩
  have hc := hencodes.high hlow
  obtain ⟨front, back, hfront, hback, hencode⟩ := hencodes
  rw [List.suffix_nil.mp hfront, List.prefix_nil.mp hback] at hencode
  rcases utf8EncodeChar_cases c with ⟨hless, -⟩ | ⟨-, hlength, -⟩
  · omega
  · rw [hencode] at hlength
    exact absurd hlength (Nat.lt_irrefl 1)

open Wrapping in
/-- A text has a control character when one of its words has. -/
theorem hasControl_words {blank : UInt8} (h : Harmless blank) (text : List UInt8) :
    HasControl text ↔ ∃ word ∈ words blank text, HasControl word := by
  induction text using split_induction blank with
  | hfree text hfree =>
      rcases words_free hfree with ⟨rfl, hwords⟩ | ⟨-, hwords⟩
      · rw [hwords]
        exact iff_of_false not_hasControl_nil nofun
      · rw [hwords]
        refine ⟨fun hcontrol => ⟨text, List.mem_singleton.mpr rfl, hcontrol⟩, ?_⟩
        rintro ⟨word, hword, hcontrol⟩
        rw [← List.mem_singleton.mp hword]
        exact hcontrol
  | hsplit before after hbefore hafter =>
      rw [hasControl_append h, hbefore, hafter, words_append]
      simp only [List.mem_append, or_and_right, exists_or]

end OnboardAutonomy.ControlCharacters
