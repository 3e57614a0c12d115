import Mathlib.Data.Bool.AllAny
import OnboardAutonomy.JsonText

/-! The two layouts in which the programs write JSON: `dump` of the C++ library, on one line and with UTF-8 as it
is, and `json.dumps` of Python, indented and in ASCII. Both are read back. -/

namespace OnboardAutonomy.Json

/-! ### Escapes -/

def hexDigit (n : UInt8) : UInt8 := if n < 10 then 48 + n else 87 + n

/-- The bytes that stand for a byte inside a string. -/
def escape (byte : UInt8) : List UInt8 :=
  match byte.toNat with
  | 8 => [92, 98]
  | 9 => [92, 116]
  | 10 => [92, 110]
  | 12 => [92, 102]
  | 13 => [92, 114]
  | 34 => [92, 34]
  | 92 => [92, 92]
  | _ => if byte < 32 then [92, 117, 48, 48, hexDigit (byte / 16), hexDigit (byte % 16)] else [byte]

theorem readString_plain {byte : UInt8} (hlow : ¬byte < 32) (hquote : byte ≠ 34) (hslash : byte ≠ 92)
    (rest : List UInt8) : readString .plain (byte :: rest) = emit [byte] (readString .plain rest) := by
  rw [readString, if_neg hquote, if_neg hslash, if_neg hlow]

/-- Four digits behind `\u`. -/
theorem readString_hex {a b c d : UInt8} {w x y z : Nat} (ha : hexValue a = some w) (hb : hexValue b = some x)
    (hc : hexValue c = some y) (hd : hexValue d = some z) {value : Nat}
    (hvalue : 16 * (16 * (16 * w + x) + y) + z = value) (high : Option Nat) (rest : List UInt8) :
    readString (.hex high 0 0) (a :: b :: c :: d :: rest) =
      match high with
      | some high =>
          if isLowSurrogate value then
            emit (utf8 (0x10000 + (high - 0xD800) * 0x400 + (value - 0xDC00))) (readString .plain rest)
          else none
      | none =>
          if isHighSurrogate value then readString (.paired value) rest
          else if isLowSurrogate value then none
          else emit (utf8 value) (readString .plain rest) := by
  subst hvalue
  rw [readString, ha]
  simp only [Nat.mul_zero, Nat.zero_add, Nat.zero_lt_succ, if_true]
  rw [readString, hb]
  simp only [show 0 + 1 < 3 by omega, if_true]
  rw [readString, hc]
  simp only [show 0 + 1 + 1 < 3 by omega, if_true]
  rw [readString, hd]
  rfl

theorem hexValue_hexDigit {n : Nat} (h : n < 16) : hexValue (hexDigit (UInt8.ofNat n)) = some n := by
  have hall : ∀ n < 16, hexValue (hexDigit (UInt8.ofNat n)) = some n := by decide +kernel
  exact hall n h

theorem utf8_of_ascii {n : Nat} (h : n < 128) : utf8 n = [UInt8.ofNat n] := by
  have hall : ∀ n < 128, utf8 n = [UInt8.ofNat n] := by decide +kernel
  exact hall n h

/-- A byte is read back from what stands for it. -/
theorem readString_escape (byte : UInt8) (rest : List UInt8) :
    readString .plain (escape byte ++ rest) = emit [byte] (readString .plain rest) := by
  have hbyte {n : Nat} (hn : n < 256) (h : byte.toNat = n) : byte = UInt8.ofNat n := by
    rw [← h, UInt8.ofNat_toNat]
  unfold escape
  split
  case h_1 h => rw [hbyte (by omega) h]; rfl
  case h_2 h => rw [hbyte (by omega) h]; rfl
  case h_3 h => rw [hbyte (by omega) h]; rfl
  case h_4 h => rw [hbyte (by omega) h]; rfl
  case h_5 h => rw [hbyte (by omega) h]; rfl
  case h_6 h => rw [hbyte (by omega) h]; rfl
  case h_7 h => rw [hbyte (by omega) h]; rfl
  case h_8 =>
    rename_i hquote hslash
    split
    · rename_i hlow
      have hlt : byte.toNat < 32 := UInt8.lt_iff_toNat_lt.mp hlow
      have hhigh : byte / 16 = UInt8.ofNat (byte.toNat / 16) := UInt8.toNat_inj.mp (by simp; omega)
      have hlowDigit : byte % 16 = UInt8.ofNat (byte.toNat % 16) := UInt8.toNat_inj.mp (by simp; omega)
      rw [hhigh, hlowDigit]
      show readString (.hex none 0 0) (48 :: 48 :: hexDigit (UInt8.ofNat (byte.toNat / 16)) ::
        hexDigit (UInt8.ofNat (byte.toNat % 16)) :: rest) = _
      have hvalue : 16 * (16 * (16 * 0 + 0) + byte.toNat / 16) + byte.toNat % 16 = byte.toNat := by omega
      rw [readString_hex (w := 0) (x := 0) rfl rfl (hexValue_hexDigit (by omega)) (hexValue_hexDigit (by omega)) hvalue]
      have hplain : isHighSurrogate byte.toNat = false ∧ isLowSurrogate byte.toNat = false := by
        simp [isHighSurrogate, isLowSurrogate]
        omega
      simp only [hplain.1, hplain.2, utf8_of_ascii (show byte.toNat < 128 by omega), UInt8.ofNat_toNat]
      rfl
    · rename_i hlow
      refine readString_plain hlow ?_ ?_ rest
      · rintro rfl
        exact hquote rfl
      · rintro rfl
        exact hslash rfl

theorem readString_flatMap {α : Type} {bytes escaped : α → List UInt8}
    (h : ∀ a rest, readString .plain (escaped a ++ rest) = emit (bytes a) (readString .plain rest)) (text : List α)
    (rest : List UInt8) :
    readString .plain (text.flatMap escaped ++ 34 :: rest) = some (text.flatMap bytes, rest) := by
  induction text with
  | nil => rfl
  | cons a text ih =>
      rw [List.flatMap_cons, List.append_assoc, h, ih]
      rfl

/-! ### One line -/

/-- `dump` of the C++ library. -/
def compactLayout : Layout where
  gap _ := []
  colonGap := []
  string text := text.flatMap escape
  gap_space _ := List.forall_mem_nil _
  colonGap_space := List.forall_mem_nil _
  readString_string text rest _ := by
    rw [readString_flatMap readString_escape, List.flatMap_singleton']

mutual

/-- A number that is not finite is dumped as `null`. -/
def nulled : Json → Json
  | .number (.finite value) => .number (.finite value)
  | .number _ => .null
  | .array elements => .array (nulledElements elements)
  | .object fields => .object (nulledFields fields)
  | json => json

def nulledElements : List Json → List Json
  | [] => []
  | element :: elements => nulled element :: nulledElements elements

def nulledFields : List (String × Json) → List (String × Json)
  | [] => []
  | field :: fields => nulledField field :: nulledFields fields

def nulledField : String × Json → String × Json
  | (name, value) => (name, nulled value)

end

/-- What the library stores of a value, and dumps. -/
def stored (json : Json) : Json := json.nulled.sorted

section Stored

variable {numerals : Numerals}

theorem nulledFields_names (fields : List (String × Json)) :
    (nulledFields fields).map Prod.fst = fields.map Prod.fst := by
  induction fields with
  | nil => rfl
  | cons field fields ih => rw [nulledFields, List.map_cons, ih, List.map_cons, nulledField]

mutual

theorem writable_nulled : (json : Json) → json.Printable → Everywhere NamesDiffer json →
    Everywhere (NumberKept numerals) json → Writable numerals json.nulled
  | .null, _, _, _ => .null
  | .boolean value, _, _, _ => .boolean value
  | .integer _, _, _, hnumber => .integer hnumber
  | .number (.finite _), _, _, hnumber => .number hnumber
  | .number .posInf, _, _, _ => .null
  | .number .negInf, _, _, _ => .null
  | .number .nan, _, _, _ => .null
  | .string value, hprintable, _, _ => .string ((printable_string value).mp hprintable)
  | .array elements, hprintable, hnames, hnumbers =>
      .array (writable_nulledElements elements ((printable_array elements).mp hprintable)
        (everywhere_array.mp hnames).2 (everywhere_array.mp hnumbers).2)
  | .object fields, hprintable, hnames, hnumbers =>
      .object (nulledFields_names fields ▸ (everywhere_object.mp hnames).1)
        (writable_nulledFields fields hprintable (everywhere_object.mp hnames).2 (everywhere_object.mp hnumbers).2)

theorem writable_nulledElements : (elements : List Json) → (∀ element ∈ elements, element.Printable) →
    (∀ element ∈ elements, Everywhere NamesDiffer element) →
    (∀ element ∈ elements, Everywhere (NumberKept numerals) element) →
    ∀ element ∈ nulledElements elements, Writable numerals element
  | [], _, _, _ => List.forall_mem_nil _
  | element :: elements, hprintable, hnames, hnumbers =>
      List.forall_mem_cons.mpr
        ⟨writable_nulled element (List.forall_mem_cons.mp hprintable).1 (List.forall_mem_cons.mp hnames).1
            (List.forall_mem_cons.mp hnumbers).1,
          writable_nulledElements elements (List.forall_mem_cons.mp hprintable).2 (List.forall_mem_cons.mp hnames).2
            (List.forall_mem_cons.mp hnumbers).2⟩

theorem writable_nulledFields : (fields : List (String × Json)) → (Json.object fields).Printable →
    (∀ field ∈ fields, Everywhere NamesDiffer field.2) →
    (∀ field ∈ fields, Everywhere (NumberKept numerals) field.2) →
    ∀ field ∈ nulledFields fields, Writable numerals field.2
  | [], _, _, _ => List.forall_mem_nil _
  | (name, value) :: fields, hprintable, hnames, hnumbers =>
      List.forall_mem_cons.mpr
        ⟨writable_nulled value ((printable_object_cons name value fields).mp hprintable).1
            (List.forall_mem_cons.mp hnames).1 (List.forall_mem_cons.mp hnumbers).1,
          writable_nulledFields fields ((printable_object_cons name value fields).mp hprintable).2
            (List.forall_mem_cons.mp hnames).2 (List.forall_mem_cons.mp hnumbers).2⟩

end

end Stored

section Line

/-- No byte of what stands for a byte is a control character. -/
theorem le_escape {byte other : UInt8} (h : other ∈ escape byte) : 32 ≤ other := by
  have hall : ∀ n < 256, ∀ other ∈ escape (UInt8.ofNat n), 32 ≤ other := by decide +kernel
  refine hall byte.toNat byte.toNat_lt other ?_
  rwa [UInt8.ofNat_toNat]

theorem le_numeralByte {byte : UInt8} (h : numeralByte byte = true) : 32 ≤ byte := by
  have hall : ∀ n < 256, numeralByte (UInt8.ofNat n) = true → 32 ≤ UInt8.ofNat n := by decide +kernel
  have hbyte := hall byte.toNat byte.toNat_lt
  rw [UInt8.ofNat_toNat] at hbyte
  exact hbyte h

theorem le_numeral {text : List UInt8} (h : IsNumeral text) : ∀ byte ∈ text, 32 ≤ byte :=
  fun byte hbyte => le_numeralByte (h.2 byte hbyte)

theorem le_quote {text : List UInt8} : ∀ byte ∈ quote compactLayout text, 32 ≤ byte := by
  intro byte hbyte
  rcases List.mem_append.mp hbyte with hopen | hclose
  · rcases List.mem_cons.mp hopen with rfl | hstring
    · decide
    · obtain ⟨source, -, hsource⟩ := List.mem_flatMap.mp hstring
      exact le_escape hsource
  · rw [List.mem_singleton.mp hclose]
    decide

theorem le_null : ∀ byte ∈ ([110, 117, 108, 108] : List UInt8), 32 ≤ byte :=
  List.all_iff_forall_prop.mp (by decide)

theorem le_true : ∀ byte ∈ ([116, 114, 117, 101] : List UInt8), 32 ≤ byte :=
  List.all_iff_forall_prop.mp (by decide)

theorem le_false : ∀ byte ∈ ([102, 97, 108, 115, 101] : List UInt8), 32 ≤ byte :=
  List.all_iff_forall_prop.mp (by decide)

mutual

/-- What is written without gaps has no control character. -/
theorem le_write (numerals : Numerals) (depth : Nat) :
    (json : Json) → ∀ byte ∈ write numerals compactLayout depth json, 32 ≤ byte
  | .null => le_null
  | .boolean true => le_true
  | .boolean false => le_false
  | .integer value => le_numeral (numerals.integer_numeral value)
  | .number (.finite value) => le_numeral (numerals.number_numeral value)
  | .number .posInf => le_null
  | .number .negInf => le_null
  | .number .nan => le_null
  | .string _ => le_quote
  | .array elements => List.forall_mem_cons.mpr ⟨by decide, le_writeElements numerals depth true elements⟩
  | .object fields => List.forall_mem_cons.mpr ⟨by decide, le_writeFields numerals depth true fields⟩

theorem le_writeElements (numerals : Numerals) (depth : Nat) (first : Bool) :
    (elements : List Json) → ∀ byte ∈ writeElements numerals compactLayout depth first elements, 32 ≤ byte
  | [] => by cases first <;> exact List.forall_mem_singleton.mpr (by decide)
  | element :: elements => by
      have htail := List.forall_mem_append.mpr
        ⟨le_write numerals (depth + 1) element, le_writeElements numerals depth false elements⟩
      cases first with
      | true => exact htail
      | false => exact List.forall_mem_cons.mpr ⟨by decide, htail⟩

theorem le_writeFields (numerals : Numerals) (depth : Nat) (first : Bool) :
    (fields : List (String × Json)) → ∀ byte ∈ writeFields numerals compactLayout depth first fields, 32 ≤ byte
  | [] => by cases first <;> exact List.forall_mem_singleton.mpr (by decide)
  | (name, value) :: fields => by
      have htail := List.forall_mem_append.mpr
        ⟨le_writeField numerals (depth + 1) (name, value), le_writeFields numerals depth false fields⟩
      cases first with
      | true => exact htail
      | false => exact List.forall_mem_cons.mpr ⟨by decide, htail⟩

theorem le_writeField (numerals : Numerals) (depth : Nat) :
    (field : String × Json) → ∀ byte ∈ writeField numerals compactLayout depth field, 32 ≤ byte
  | (_, value) => List.forall_mem_append.mpr
      ⟨List.forall_mem_append.mpr ⟨le_quote, List.forall_mem_singleton.mpr (by decide)⟩,
        le_write numerals depth value⟩

end

end Line

/-- The printer of the C++ library. -/
def dumpPrinter (numerals : Numerals) : Printer where
  dump json := if json.Printable then some (write numerals compactLayout 0 json.stored) else none
  dump_isSome json := by
    split
    · exact ⟨fun _ => ‹_›, fun _ => rfl⟩
    · exact ⟨fun h => (by cases h), fun h => absurd h ‹_›⟩
  dump_line json line hdump := by
    obtain ⟨-, hline⟩ := Option.ite_none_right_eq_some.mp hdump
    cases hline
    exact fun hmem => absurd (le_write numerals 0 json.stored 10 hmem) (by decide)

section Dump

variable {numerals : Numerals} {json : Json} {line : List UInt8}

theorem dump_eq_some (hnames : Everywhere NamesDiffer json) (hnumbers : Everywhere (NumberKept numerals) json)
    (h : (dumpPrinter numerals).dump json = some line) :
    Writable numerals json.stored ∧ write numerals compactLayout 0 json.stored = line := by
  have hprintable : json.Printable := ((dumpPrinter numerals).dump_isSome json).mp (by rw [h]; rfl)
  have hdump : (if json.Printable then some (write numerals compactLayout 0 json.stored) else none) = some line := h
  rw [if_pos hprintable] at hdump
  exact ⟨(writable_nulled json hprintable hnames hnumbers).sorted, Option.some.inj hdump⟩

/-- What has been dumped is read as it was stored. -/
theorem parse_dump (hnames : Everywhere NamesDiffer json) (hnumbers : Everywhere (NumberKept numerals) json)
    (h : (dumpPrinter numerals).dump json = some line) : parse numerals line = some json.stored := by
  obtain ⟨hwritable, rfl⟩ := dump_eq_some hnames hnumbers h
  rw [← List.append_nil (write numerals compactLayout 0 json.stored)]
  exact parse_write hwritable (List.forall_mem_nil _)

end Dump

/-! ### ASCII -/

def hexDigits (unit : Nat) : List UInt8 :=
  [hexDigit (UInt8.ofNat (unit / 4096)), hexDigit (UInt8.ofNat (unit / 256 % 16)),
    hexDigit (UInt8.ofNat (unit / 16 % 16)), hexDigit (UInt8.ofNat (unit % 16))]

def unicodeEscape (unit : Nat) : List UInt8 := 92 :: 117 :: hexDigits unit

/-- What stands for a character when only ASCII may be written. -/
def asciiEscape (character : Char) : List UInt8 :=
  let scalar := character.toNat
  if scalar < 127 then escape (UInt8.ofNat scalar)
  else if scalar < 0x10000 then unicodeEscape scalar
  else unicodeEscape (0xD800 + (scalar - 0x10000) / 0x400) ++ unicodeEscape (0xDC00 + (scalar - 0x10000) % 0x400)

theorem readString_unit {unit : Nat} (h : unit < 0x10000) (high : Option Nat) (rest : List UInt8) :
    readString (.escaped high) (117 :: (hexDigits unit ++ rest)) =
      match high with
      | some high =>
          if isLowSurrogate unit then
            emit (utf8 (0x10000 + (high - 0xD800) * 0x400 + (unit - 0xDC00))) (readString .plain rest)
          else none
      | none =>
          if isHighSurrogate unit then readString (.paired unit) rest
          else if isLowSurrogate unit then none
          else emit (utf8 unit) (readString .plain rest) :=
  readString_hex (hexValue_hexDigit (by omega)) (hexValue_hexDigit (by omega)) (hexValue_hexDigit (by omega))
    (hexValue_hexDigit (by omega)) (by omega) high rest

theorem readString_unicodeEscape {unit : Nat} (h : unit < 0x10000) (hhigh : isHighSurrogate unit = false)
    (hlow : isLowSurrogate unit = false) (rest : List UInt8) :
    readString .plain (unicodeEscape unit ++ rest) = emit (utf8 unit) (readString .plain rest) := by
  show readString (.escaped none) (117 :: (hexDigits unit ++ rest)) = _
  rw [readString_unit h]
  simp only [hhigh, hlow]
  rfl

theorem readString_pair {high low : Nat} (hhigh : isHighSurrogate high = true) (hlow : isLowSurrogate low = true)
    (rest : List UInt8) :
    readString .plain (unicodeEscape high ++ (unicodeEscape low ++ rest)) =
      emit (utf8 (0x10000 + (high - 0xD800) * 0x400 + (low - 0xDC00))) (readString .plain rest) := by
  have hhigh' : 0xD800 ≤ high ∧ high < 0xDC00 := by simpa [isHighSurrogate] using hhigh
  have hlow' : 0xDC00 ≤ low ∧ low < 0xE000 := by simpa [isLowSurrogate] using hlow
  show readString (.escaped none) (117 :: (hexDigits high ++ (unicodeEscape low ++ rest))) = _
  rw [readString_unit (by omega)]
  simp only [hhigh, if_true]
  show readString (.escaped (some high)) (117 :: (hexDigits low ++ rest)) = _
  rw [readString_unit (by omega)]
  simp only [hlow, if_true]

theorem utf8_toNat (character : Char) : utf8 character.toNat = String.utf8EncodeChar character := by
  rw [utf8, Char.ofNat_toNat]

/-- A character is read back from what stands for it. -/
theorem readString_asciiEscape (character : Char) (rest : List UInt8) :
    readString .plain (asciiEscape character ++ rest) =
      emit (String.utf8EncodeChar character) (readString .plain rest) := by
  have hvalid : character.toNat < 0xD800 ∨ 0xDFFF < character.toNat ∧ character.toNat < 0x110000 :=
    character.valid
  rw [← utf8_toNat, asciiEscape]
  generalize character.toNat = scalar at hvalid
  split
  · rw [readString_escape, utf8_of_ascii (by omega)]
  split
  · refine readString_unicodeEscape (by omega) ?_ ?_ rest <;> simp [isHighSurrogate, isLowSurrogate] <;> omega
  · have hscalar : 0x10000 + (0xD800 + (scalar - 0x10000) / 0x400 - 0xD800) * 0x400 +
        (0xDC00 + (scalar - 0x10000) % 0x400 - 0xDC00) = scalar := by omega
    have hhigh : isHighSurrogate (0xD800 + (scalar - 0x10000) / 0x400) = true := by
      simp [isHighSurrogate]
      omega
    have hlow : isLowSurrogate (0xDC00 + (scalar - 0x10000) % 0x400) = true := by
      simp [isLowSurrogate]
      omega
    rw [List.append_assoc, readString_pair hhigh hlow, hscalar]

/-- The characters that bytes of UTF-8 stand for. -/
def characters (text : List UInt8) : List Char := (String.fromUTF8? ⟨text.toArray⟩).elim [] String.toList

theorem characters_encoded {text : List UInt8} (h : ValidText text) :
    (characters text).flatMap String.utf8EncodeChar = text := by
  have hbytes : (String.fromUTF8 ⟨text.toArray⟩ h).toList.utf8Encode = ⟨text.toArray⟩ := String.utf8Encode_toList
  have hdata := congrArg (fun bytes : ByteArray => bytes.data.toList) hbytes
  have hvalid : (ByteArray.mk text.toArray).IsValidUTF8 := h
  rw [characters, String.fromUTF8?, dif_pos hvalid]
  simpa [List.utf8Encode] using hdata

/-- `json.dumps` of Python, as far as what is written is text: indented by two spaces, in ASCII. -/
def indentedLayout : Layout where
  gap depth := 10 :: List.replicate (2 * depth) 32
  colonGap := [32]
  string text := (characters text).flatMap asciiEscape
  gap_space depth := by
    refine List.forall_mem_cons.mpr ⟨rfl, fun byte hbyte => ?_⟩
    rw [List.eq_of_mem_replicate hbyte]
    rfl
  colonGap_space := List.forall_mem_singleton.mpr rfl
  readString_string text rest h := by
    rw [readString_flatMap readString_asciiEscape, characters_encoded h]

end OnboardAutonomy.Json
