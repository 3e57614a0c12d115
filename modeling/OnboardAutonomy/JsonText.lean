import OnboardAutonomy.Json
import Mathlib.Data.List.Basic
import Mathlib.Data.List.Nodup
import Mathlib.Data.List.TakeWhile

/-! JSON text: a writer that goes by a layout, and a reader that takes whatever white space stands between the
tokens. What the one writes the other reads back, byte for byte. How numbers are written and read is a parameter,
since libraries differ there. Nothing here is about a particular program. -/

namespace OnboardAutonomy.Json

/-! ### Strings -/

/-- Where the reader is inside a string. `high` is the first half of a surrogate pair. -/
inductive StringState where
  | plain
  | escaped (high : Option Nat)
  | hex (high : Option Nat) (digits value : Nat)
  | paired (high : Nat)

def hexValue (byte : UInt8) : Option Nat :=
  if 48 ≤ byte ∧ byte ≤ 57 then some (byte.toNat - 48)
  else if 97 ≤ byte ∧ byte ≤ 102 then some (byte.toNat - 87)
  else if 65 ≤ byte ∧ byte ≤ 70 then some (byte.toNat - 55)
  else none

/-- The byte that stands behind a backslash for another one. -/
def escapedByte (byte : UInt8) : Option UInt8 :=
  match byte.toNat with
  | 34 => some 34
  | 92 => some 92
  | 47 => some 47
  | 98 => some 8
  | 102 => some 12
  | 110 => some 10
  | 114 => some 13
  | 116 => some 9
  | _ => none

def isHighSurrogate (unit : Nat) : Bool := 0xD800 ≤ unit && unit < 0xDC00

def isLowSurrogate (unit : Nat) : Bool := 0xDC00 ≤ unit && unit < 0xE000

def utf8 (scalar : Nat) : List UInt8 := String.utf8EncodeChar (Char.ofNat scalar)

/-- In front of what is read behind. -/
def emit (bytes : List UInt8) (read : Option (List UInt8 × List UInt8)) : Option (List UInt8 × List UInt8) :=
  read.map fun read => (bytes ++ read.1, read.2)

/-- The string up to its closing quote, and what follows. -/
def readString : StringState → List UInt8 → Option (List UInt8 × List UInt8)
  | _, [] => none
  | .plain, byte :: rest =>
      if byte = 34 then some ([], rest)
      else if byte = 92 then readString (.escaped none) rest
      else if byte < 32 then none
      else emit [byte] (readString .plain rest)
  | .escaped high, byte :: rest =>
      if byte = 117 then readString (.hex high 0 0) rest
      else if high.isSome then none
      else
        match escapedByte byte with
        | some escaped => emit [escaped] (readString .plain rest)
        | none => none
  | .hex high digits value, byte :: rest =>
      match hexValue byte with
      | none => none
      | some digit =>
          let value := 16 * value + digit
          if digits < 3 then readString (.hex high (digits + 1) value) rest
          else
            match high with
            | some high =>
                if isLowSurrogate value then
                  emit (utf8 (0x10000 + (high - 0xD800) * 0x400 + (value - 0xDC00))) (readString .plain rest)
                else none
            | none =>
                if isHighSurrogate value then readString (.paired value) rest
                else if isLowSurrogate value then none
                else emit (utf8 value) (readString .plain rest)
  | .paired high, byte :: rest => if byte = 92 then readString (.escaped (some high)) rest else none

/-! ### Numbers -/

/-- A byte that may stand in a number. -/
def numeralByte (byte : UInt8) : Bool :=
  (48 ≤ byte && byte ≤ 57) || byte == 43 || byte == 45 || byte == 46 || byte == 69 || byte == 101

/-- The text is one of a number. -/
def IsNumeral (text : List UInt8) : Prop := text ≠ [] ∧ ∀ byte ∈ text, numeralByte byte = true

/-- How numbers are written, and what the reader makes of them: a `double` comes back as it was, and so does an
integer that the reader can keep. -/
structure Numerals where
  integer : Int → List UInt8
  number : ℚ → List UInt8
  read : List UInt8 → Option Json
  Keeps : Int → Prop
  integer_numeral : ∀ n, IsNumeral (integer n)
  number_numeral : ∀ q, IsNumeral (number q)
  read_integer : ∀ n, Keeps n → read (integer n) = some (.integer n)
  read_number : ∀ q, Binary64.nearest q = q → read (number q) = some (.number (.finite q))

/-! ### The reader -/

def space (byte : UInt8) : Bool := byte == 32 || byte == 9 || byte == 10 || byte == 13

def skip (text : List UInt8) : List UInt8 := text.dropWhile space

/-- Of two fields with one name the later one counts. -/
def assign (fields : List (String × Json)) (field : String × Json) : List (String × Json) :=
  if field.1 ∈ fields.map Prod.fst then
    fields.map fun other => if other.1 = field.1 then field else other
  else fields ++ [field]

def dictionary (fields : List (String × Json)) : List (String × Json) := fields.foldl assign []

/-- A string behind its opening quote; its bytes are UTF-8. -/
def readText (text : List UInt8) : Option (List UInt8 × List UInt8) :=
  (readString .plain text).filter fun read => decide (ValidText read.1)

section Reader

variable (numerals : Numerals)

def readNumber (text : List UInt8) : Option (Json × List UInt8) :=
  (numerals.read (text.takeWhile numeralByte)).map fun value => (value, text.dropWhile numeralByte)

mutual

/-- A value and what follows it. -/
def readValue : Nat → List UInt8 → Option (Json × List UInt8)
  | 0, _ => none
  | fuel + 1, text =>
      match skip text with
      | 110 :: 117 :: 108 :: 108 :: rest => some (.null, rest)
      | 116 :: 114 :: 117 :: 101 :: rest => some (.boolean true, rest)
      | 102 :: 97 :: 108 :: 115 :: 101 :: rest => some (.boolean false, rest)
      | 34 :: rest => (readText rest).map fun read => (.string read.1, read.2)
      | 91 :: rest =>
          match skip rest with
          | 93 :: rest => some (.array [], rest)
          | _ => (readElements fuel rest).map fun read => (.array read.1, read.2)
      | 123 :: rest =>
          match skip rest with
          | 125 :: rest => some (.object [], rest)
          | _ => (readFields fuel rest).map fun read => (.object (dictionary read.1), read.2)
      | text => readNumber numerals text

/-- The elements of an array and what follows its bracket. -/
def readElements : Nat → List UInt8 → Option (List Json × List UInt8)
  | 0, _ => none
  | fuel + 1, text => do
      let (element, rest) ← readValue fuel text
      match skip rest with
      | 44 :: rest => (readElements fuel rest).map fun read => (element :: read.1, read.2)
      | 93 :: rest => some ([element], rest)
      | _ => none

/-- The fields of an object and what follows its brace. -/
def readFields : Nat → List UInt8 → Option (List (String × Json) × List UInt8)
  | 0, _ => none
  | fuel + 1, text =>
      match skip text with
      | 34 :: rest => do
          let (name, rest) ← readText rest
          let name ← String.fromUTF8? ⟨name.toArray⟩
          match skip rest with
          | 58 :: rest => do
              let (value, rest) ← readValue fuel rest
              match skip rest with
              | 44 :: rest => (readFields fuel rest).map fun read => ((name, value) :: read.1, read.2)
              | 125 :: rest => some ([(name, value)], rest)
              | _ => none
          | _ => none
      | _ => none

end

/-- The whole text is one value. -/
def parse (text : List UInt8) : Option Json :=
  match readValue numerals (text.length + 1) text with
  | some (value, rest) => if skip rest = [] then some value else none
  | none => none

end Reader

/-! ### The writer -/

/-- What stands between the tokens, and how the bytes of a string are written between its quotes. -/
structure Layout where
  gap : Nat → List UInt8
  colonGap : List UInt8
  string : List UInt8 → List UInt8
  gap_space : ∀ depth, ∀ byte ∈ gap depth, space byte = true
  colonGap_space : ∀ byte ∈ colonGap, space byte = true
  readString_string : ∀ text rest, ValidText text → readString .plain (string text ++ 34 :: rest) = some (text, rest)

section Writer

variable (numerals : Numerals) (layout : Layout)

def quote (text : List UInt8) : List UInt8 := 34 :: layout.string text ++ [34]

mutual

/-- The text of a value at a depth of nesting. A number that is not finite cannot be told from `null`. -/
def write (depth : Nat) : Json → List UInt8
  | .null => [110, 117, 108, 108]
  | .boolean true => [116, 114, 117, 101]
  | .boolean false => [102, 97, 108, 115, 101]
  | .integer value => numerals.integer value
  | .number (.finite value) => numerals.number value
  | .number _ => [110, 117, 108, 108]
  | .string value => quote layout value
  | .array elements => 91 :: writeElements depth true elements
  | .object fields => 123 :: writeFields depth true fields

/-- The elements that are left, and the bracket. -/
def writeElements (depth : Nat) (first : Bool) : List Json → List UInt8
  | [] => (if first then [] else layout.gap depth) ++ [93]
  | element :: elements =>
      (if first then [] else [44]) ++ layout.gap (depth + 1) ++ write (depth + 1) element ++
        writeElements depth false elements

def writeFields (depth : Nat) (first : Bool) : List (String × Json) → List UInt8
  | [] => (if first then [] else layout.gap depth) ++ [125]
  | field :: fields =>
      (if first then [] else [44]) ++ layout.gap (depth + 1) ++ writeField (depth + 1) field ++
        writeFields depth false fields

def writeField (depth : Nat) : String × Json → List UInt8
  | (name, value) => quote layout name.toUTF8.data.toList ++ 58 :: layout.colonGap ++ write depth value

end

end Writer

/-! ### The way back -/

/-- A value that its text does not change. -/
inductive Writable (numerals : Numerals) : Json → Prop
  | null : Writable numerals .null
  | boolean (value : Bool) : Writable numerals (.boolean value)
  | integer {value : Int} (h : numerals.Keeps value) : Writable numerals (.integer value)
  | number {value : ℚ} (h : Binary64.nearest value = value) : Writable numerals (.number (.finite value))
  | string {text : List UInt8} (h : ValidText text) : Writable numerals (.string text)
  | array {elements : List Json} (h : ∀ element ∈ elements, Writable numerals element) :
      Writable numerals (.array elements)
  | object {fields : List (String × Json)} (hnames : (fields.map Prod.fst).Nodup)
      (h : ∀ field ∈ fields, Writable numerals field.2) : Writable numerals (.object fields)

theorem skip_gap {gap : List UInt8} (h : ∀ byte ∈ gap, space byte = true) (text : List UInt8) :
    skip (gap ++ text) = skip text :=
  List.dropWhile_append_of_pos h

theorem skip_cons {byte : UInt8} (h : space byte = false) (text : List UInt8) :
    skip (byte :: text) = byte :: text := by
  rw [skip, List.dropWhile_cons_of_neg (by rw [h]; exact Bool.false_ne_true)]

theorem not_space_of_numeralByte {byte : UInt8} (h : numeralByte byte = true) : space byte = false := by
  rw [← Bool.not_eq_true]
  intro hspace
  simp only [space, Bool.or_eq_true, beq_iff_eq] at hspace
  rcases hspace with ((rfl | rfl) | rfl) | rfl <;> cases h

theorem assign_of_not_mem {fields : List (String × Json)} {field : String × Json}
    (h : field.1 ∉ fields.map Prod.fst) : assign fields field = fields ++ [field] :=
  if_neg h

theorem dictionary_of_nodup {fields : List (String × Json)} (h : (fields.map Prod.fst).Nodup) :
    dictionary fields = fields := by
  have hrest (rest : List (String × Json)) : ∀ done : List (String × Json),
      ((done ++ rest).map Prod.fst).Nodup → rest.foldl assign done = done ++ rest := by
    induction rest with
    | nil => exact fun done _ => (List.append_nil done).symm
    | cons field rest ih =>
        intro done hnodup
        have hfresh : field.1 ∉ done.map Prod.fst := by
          rw [List.map_append, List.map_cons] at hnodup
          exact fun hmem => (List.nodup_append.mp hnodup).2.2 _ hmem _ List.mem_cons_self rfl
        rw [List.foldl_cons, assign_of_not_mem hfresh, ih _ (by rwa [List.append_assoc, List.singleton_append]),
          List.append_assoc, List.singleton_append]
  exact hrest fields [] h

section RoundTrip

variable {numerals : Numerals} {layout : Layout}

theorem readValue_gap {gap : List UInt8} (h : ∀ byte ∈ gap, space byte = true) (fuel : Nat)
    (text : List UInt8) : readValue numerals fuel (gap ++ text) = readValue numerals fuel text := by
  cases fuel with
  | zero => rw [readValue, readValue]
  | succ fuel => rw [readValue, readValue, skip_gap h]

theorem readFields_gap {gap : List UInt8} (h : ∀ byte ∈ gap, space byte = true) (fuel : Nat)
    (text : List UInt8) : readFields numerals fuel (gap ++ text) = readFields numerals fuel text := by
  cases fuel with
  | zero => rw [readFields, readFields]
  | succ fuel => rw [readFields, readFields, skip_gap h]

theorem readText_quote {text : List UInt8} (h : ValidText text) (rest : List UInt8) :
    readText (layout.string text ++ 34 :: rest) = some (text, rest) := by
  rw [readText, layout.readString_string text rest h, Option.filter_some, if_pos (decide_eq_true h)]

/-- What follows a value is no part of a number. -/
def Follows (rest : List UInt8) : Prop := ∀ byte ∈ rest.head?, numeralByte byte = false

theorem readNumber_append {text : List UInt8} (h : IsNumeral text) {rest : List UInt8} (hrest : Follows rest) :
    readNumber numerals (text ++ rest) = (numerals.read text).map fun value => (value, rest) := by
  have hstop : rest.takeWhile numeralByte = [] ∧ rest.dropWhile numeralByte = rest := by
    cases rest with
    | nil => exact ⟨rfl, rfl⟩
    | cons byte rest =>
        have hbyte := hrest byte rfl
        exact ⟨List.takeWhile_cons_of_neg (by simp [hbyte]), List.dropWhile_cons_of_neg (by simp [hbyte])⟩
  rw [readNumber, List.takeWhile_append_of_pos h.2, List.dropWhile_append_of_pos h.2, hstop.1, hstop.2,
    List.append_nil]

theorem readValue_numeral {text : List UInt8} (h : IsNumeral text) {rest : List UInt8} (hrest : Follows rest)
    (fuel : Nat) :
    readValue numerals (fuel + 1) (text ++ rest) = (numerals.read text).map fun value => (value, rest) := by
  rw [← readNumber_append h hrest]
  obtain ⟨hne, hall⟩ := h
  cases text with
  | nil => exact absurd rfl hne
  | cons byte text =>
      have hbyte : numeralByte byte = true := hall byte List.mem_cons_self
      rw [readValue, List.cons_append, skip_cons (not_space_of_numeralByte hbyte)]
      split
      case h_7 => rfl
      all_goals
        rename_i heq
        rw [(List.cons.inj heq).1] at hbyte
        cases hbyte

theorem follows_gap {gap : List UInt8} (h : ∀ byte ∈ gap, space byte = true) {byte : UInt8}
    (hbyte : numeralByte byte = false) (rest : List UInt8) : Follows (gap ++ byte :: rest) := by
  cases gap with
  | nil => exact fun _ hmem => Option.mem_some.mp hmem ▸ hbyte
  | cons first gap =>
      intro other hother
      have hfirst := h first List.mem_cons_self
      rw [← Option.mem_some.mp hother, ← Bool.not_eq_true]
      intro hnumeral
      rw [not_space_of_numeralByte hnumeral] at hfirst
      cases hfirst

/-- The text of the value is read back, at any depth and behind any gap. -/
def ReadsBack (numerals : Numerals) (layout : Layout) (json : Json) : Prop :=
  ∀ (depth fuel : Nat) (gap rest : List UInt8), (∀ byte ∈ gap, space byte = true) → Follows rest →
    (write numerals layout depth json).length ≤ fuel →
    readValue numerals fuel (gap ++ (write numerals layout depth json ++ rest)) = some (json, rest)

theorem follows_writeElements (depth : Nat) (elements : List Json) (rest : List UInt8) :
    Follows (writeElements numerals layout depth false elements ++ rest) := by
  cases elements with
  | nil =>
      rw [writeElements, List.append_assoc]
      exact follows_gap (layout.gap_space depth) rfl rest
  | cons element elements =>
      rw [writeElements]
      exact follows_gap (List.forall_mem_nil _) rfl _

theorem follows_writeFields (depth : Nat) (fields : List (String × Json)) (rest : List UInt8) :
    Follows (writeFields numerals layout depth false fields ++ rest) := by
  cases fields with
  | nil =>
      rw [writeFields, List.append_assoc]
      exact follows_gap (layout.gap_space depth) rfl rest
  | cons field fields =>
      rw [writeFields]
      exact follows_gap (List.forall_mem_nil _) rfl _

/-- What is left of an array: its end, or a comma and the next element. -/
theorem skip_writeElements (depth : Nat) (elements : List Json) (rest : List UInt8) :
    skip (writeElements numerals layout depth false elements ++ rest) =
      match elements with
      | [] => 93 :: rest
      | element :: elements =>
          44 :: (layout.gap (depth + 1) ++ (write numerals layout (depth + 1) element ++
            (writeElements numerals layout depth false elements ++ rest))) := by
  cases elements with
  | nil =>
      rw [writeElements, List.append_assoc]
      exact (skip_gap (layout.gap_space depth) _).trans (skip_cons rfl rest)
  | cons element elements =>
      rw [writeElements, List.append_assoc, List.append_assoc, List.append_assoc]
      exact skip_cons rfl _

theorem skip_writeFields (depth : Nat) (fields : List (String × Json)) (rest : List UInt8) :
    skip (writeFields numerals layout depth false fields ++ rest) =
      match fields with
      | [] => 125 :: rest
      | field :: fields =>
          44 :: (layout.gap (depth + 1) ++ (writeField numerals layout (depth + 1) field ++
            (writeFields numerals layout depth false fields ++ rest))) := by
  cases fields with
  | nil =>
      rw [writeFields, List.append_assoc]
      exact (skip_gap (layout.gap_space depth) _).trans (skip_cons rfl rest)
  | cons field fields =>
      rw [writeFields, List.append_assoc, List.append_assoc, List.append_assoc]
      exact skip_cons rfl _

/-- One element after the other; the induction is on those that are left. -/
theorem readElements_write {elements : List Json}
    (helements : ∀ element ∈ elements, ReadsBack numerals layout element) {element : Json}
    (helement : ReadsBack numerals layout element) (depth fuel : Nat) {gap : List UInt8} (rest : List UInt8)
    (hgap : ∀ byte ∈ gap, space byte = true)
    (hfuel : (write numerals layout (depth + 1) element).length +
      (writeElements numerals layout depth false elements).length ≤ fuel) :
    readElements numerals fuel (gap ++ (write numerals layout (depth + 1) element ++
      (writeElements numerals layout depth false elements ++ rest))) = some (element :: elements, rest) := by
  induction elements generalizing element fuel gap with
  | nil =>
      rw [writeElements, if_neg Bool.false_ne_true, List.length_append, List.length_singleton] at hfuel
      obtain ⟨fuel, rfl⟩ : ∃ n, fuel = n + 1 := ⟨fuel - 1, by omega⟩
      rw [readElements, helement (depth + 1) fuel gap _ hgap (follows_writeElements depth [] rest) (by omega)]
      simp only [Option.bind_eq_bind, Option.bind_some, skip_writeElements]
  | cons next elements ih =>
      obtain ⟨hnext, hrest⟩ := List.forall_mem_cons.mp helements
      rw [writeElements, if_neg Bool.false_ne_true, List.length_append, List.length_append, List.length_append,
        List.length_singleton] at hfuel
      obtain ⟨fuel, rfl⟩ : ∃ n, fuel = n + 1 := ⟨fuel - 1, by omega⟩
      rw [readElements,
        helement (depth + 1) fuel gap _ hgap (follows_writeElements depth (next :: elements) rest) (by omega)]
      simp only [Option.bind_eq_bind, Option.bind_some, skip_writeElements]
      rw [ih hrest hnext fuel (layout.gap_space (depth + 1)) (by omega)]
      rfl

theorem fromUTF8?_toUTF8 (name : String) :
    String.fromUTF8? ⟨name.toUTF8.data.toList.toArray⟩ = some name := by
  have hvalid : (ByteArray.mk name.toUTF8.data).IsValidUTF8 := name.isValidUTF8
  rw [Array.toArray_toList, String.fromUTF8?, dif_pos hvalid]
  rfl

/-- A field, with its comma or brace still ahead. -/
theorem readFields_field {field : String × Json} (hfield : ReadsBack numerals layout field.2) {depth fuel : Nat}
    {gap rest : List UInt8} (hgap : ∀ byte ∈ gap, space byte = true) (hrest : Follows rest)
    (hfuel : (writeField numerals layout depth field).length ≤ fuel + 1) :
    readFields numerals (fuel + 1) (gap ++ (writeField numerals layout depth field ++ rest)) =
      match skip rest with
      | 44 :: rest => (readFields numerals fuel rest).map fun read => (field :: read.1, read.2)
      | 125 :: rest => some ([field], rest)
      | _ => none := by
  obtain ⟨name, value⟩ := field
  have hvalue : ReadsBack numerals layout value := hfield
  simp only [writeField, quote, List.length_append, List.length_cons, List.length_nil] at hfuel
  rw [readFields_gap hgap, readFields, writeField, quote]
  simp only [List.cons_append, List.append_assoc, List.nil_append]
  rw [skip_cons rfl]
  simp only [readText_quote (validText_ofString name), Option.bind_eq_bind, Option.bind_some,
    fromUTF8?_toUTF8]
  rw [skip_cons rfl]
  simp only [hvalue depth fuel layout.colonGap rest layout.colonGap_space hrest (by omega), Option.bind_some]

theorem readFields_write {fields : List (String × Json)}
    (hfields : ∀ field ∈ fields, ReadsBack numerals layout field.2) {field : String × Json}
    (hfield : ReadsBack numerals layout field.2) (depth fuel : Nat) {gap : List UInt8} (rest : List UInt8)
    (hgap : ∀ byte ∈ gap, space byte = true)
    (hfuel : (writeField numerals layout (depth + 1) field).length +
      (writeFields numerals layout depth false fields).length ≤ fuel) :
    readFields numerals fuel (gap ++ (writeField numerals layout (depth + 1) field ++
      (writeFields numerals layout depth false fields ++ rest))) = some (field :: fields, rest) := by
  induction fields generalizing field fuel gap with
  | nil =>
      rw [writeFields, if_neg Bool.false_ne_true, List.length_append, List.length_singleton] at hfuel
      obtain ⟨fuel, rfl⟩ : ∃ n, fuel = n + 1 := ⟨fuel - 1, by omega⟩
      rw [readFields_field hfield hgap (follows_writeFields depth [] rest) (by omega), skip_writeFields]
      rfl
  | cons next fields ih =>
      obtain ⟨hnext, hrest⟩ := List.forall_mem_cons.mp hfields
      rw [writeFields, if_neg Bool.false_ne_true, List.length_append, List.length_append, List.length_append,
        List.length_singleton] at hfuel
      obtain ⟨fuel, rfl⟩ : ∃ n, fuel = n + 1 := ⟨fuel - 1, by omega⟩
      rw [readFields_field hfield hgap (follows_writeFields depth (next :: fields) rest) (by omega),
        skip_writeFields]
      show (readFields numerals fuel _).map _ = _
      rw [ih hrest hnext fuel (layout.gap_space (depth + 1)) (by omega)]
      rfl

/-- The text of a value begins with a byte that is neither white space nor the end of an array or object. -/
theorem write_head {json : Json} (h : Writable numerals json) (depth : Nat) :
    ∃ byte text, write numerals layout depth json = byte :: text ∧ space byte = false ∧ byte ≠ 93 := by
  have hnumeral {text : List UInt8} (htext : IsNumeral text) :
      ∃ byte rest, text = byte :: rest ∧ space byte = false ∧ byte ≠ 93 := by
    obtain ⟨hne, hall⟩ := htext
    obtain ⟨byte, rest, rfl⟩ := List.exists_cons_of_ne_nil hne
    have hbyte := hall byte List.mem_cons_self
    refine ⟨byte, rest, rfl, not_space_of_numeralByte hbyte, ?_⟩
    rintro rfl
    cases hbyte
  cases h with
  | null => exact ⟨_, _, rfl, rfl, by decide⟩
  | boolean value => cases value <;> exact ⟨_, _, rfl, rfl, by decide⟩
  | integer => exact hnumeral (numerals.integer_numeral _)
  | number => exact hnumeral (numerals.number_numeral _)
  | string => exact ⟨_, _, rfl, rfl, by decide⟩
  | array => exact ⟨_, _, rfl, rfl, by decide⟩
  | object => exact ⟨_, _, rfl, rfl, by decide⟩

theorem readValue_array {elements : List Json} (hwritable : ∀ element ∈ elements, Writable numerals element)
    (h : ∀ element ∈ elements, ReadsBack numerals layout element) :
    ReadsBack numerals layout (.array elements) := by
  intro depth fuel gap rest hgap hrest hfuel
  rw [readValue_gap hgap]
  rw [write, List.length_cons] at hfuel
  obtain ⟨fuel, rfl⟩ : ∃ n, fuel = n + 1 := ⟨fuel - 1, by omega⟩
  rw [write, List.cons_append, readValue, skip_cons rfl]
  cases elements with
  | nil => rfl
  | cons element elements =>
      obtain ⟨helement, helements⟩ := List.forall_mem_cons.mp h
      obtain ⟨byte, text, hwrite, hspace, hbyte⟩ := write_head (hwritable element List.mem_cons_self) (depth + 1)
      rw [writeElements, if_pos rfl, List.nil_append, List.length_append, List.length_append] at hfuel
      have hread := readElements_write helements helement depth fuel rest (layout.gap_space (depth + 1)) (by omega)
      rw [writeElements, if_pos rfl, List.nil_append, List.append_assoc, List.append_assoc]
      have hskip : skip (layout.gap (depth + 1) ++ (write numerals layout (depth + 1) element ++
          (writeElements numerals layout depth false elements ++ rest))) =
          byte :: (text ++ (writeElements numerals layout depth false elements ++ rest)) := by
        rw [skip_gap (layout.gap_space (depth + 1)), hwrite, List.cons_append, skip_cons hspace]
      simp only [hread, hskip]
      split
      · rename_i heq
        exact absurd (List.cons.inj heq).1 hbyte
      · rfl

theorem readValue_object {fields : List (String × Json)} (hnames : (fields.map Prod.fst).Nodup)
    (h : ∀ field ∈ fields, ReadsBack numerals layout field.2) : ReadsBack numerals layout (.object fields) := by
  intro depth fuel gap rest hgap hrest hfuel
  rw [readValue_gap hgap]
  rw [write, List.length_cons] at hfuel
  obtain ⟨fuel, rfl⟩ : ∃ n, fuel = n + 1 := ⟨fuel - 1, by omega⟩
  rw [write, List.cons_append, readValue, skip_cons rfl]
  cases fields with
  | nil => rfl
  | cons field fields =>
      obtain ⟨hfield, hfields⟩ := List.forall_mem_cons.mp h
      rw [writeFields, if_pos rfl, List.nil_append, List.length_append, List.length_append] at hfuel
      have hread := readFields_write hfields hfield depth fuel rest (layout.gap_space (depth + 1)) (by omega)
      rw [writeFields, if_pos rfl, List.nil_append, List.append_assoc, List.append_assoc]
      obtain ⟨text, hwrite⟩ : ∃ text, writeField numerals layout (depth + 1) field = 34 :: text := by
        obtain ⟨name, value⟩ := field
        exact ⟨_, rfl⟩
      have hskip : skip (layout.gap (depth + 1) ++ (writeField numerals layout (depth + 1) field ++
          (writeFields numerals layout depth false fields ++ rest))) =
          34 :: (text ++ (writeFields numerals layout depth false fields ++ rest)) := by
        rw [skip_gap (layout.gap_space (depth + 1)), hwrite, List.cons_append, skip_cons rfl]
      simp only [hread, hskip, Option.map_some, dictionary_of_nodup hnames]
      rfl

theorem readsBack {json : Json} (h : Writable numerals json) : ReadsBack numerals layout json := by
  have hleaf {json : Json} {text : List UInt8} (hwrite : ∀ depth, write numerals layout depth json = text)
      (hne : text ≠ [])
      (hread : ∀ fuel rest, Follows rest → readValue numerals (fuel + 1) (text ++ rest) = some (json, rest)) :
      ReadsBack numerals layout json := by
    intro depth fuel gap rest hgap hrest hfuel
    rw [hwrite] at hfuel ⊢
    have hpos := List.length_pos_of_ne_nil hne
    obtain ⟨fuel, rfl⟩ : ∃ n, fuel = n + 1 := ⟨fuel - 1, by omega⟩
    rw [readValue_gap hgap, hread fuel rest hrest]
  induction h with
  | null => exact hleaf (fun _ => rfl) (List.cons_ne_nil _ _) fun _ _ _ => rfl
  | boolean value => cases value <;> exact hleaf (fun _ => rfl) (List.cons_ne_nil _ _) fun _ _ _ => rfl
  | integer hkeeps =>
      refine hleaf (fun _ => rfl) (numerals.integer_numeral _).1 fun fuel rest hrest => ?_
      rw [readValue_numeral (numerals.integer_numeral _) hrest, numerals.read_integer _ hkeeps]
      rfl
  | number hdouble =>
      refine hleaf (fun _ => rfl) (numerals.number_numeral _).1 fun fuel rest hrest => ?_
      rw [readValue_numeral (numerals.number_numeral _) hrest, numerals.read_number _ hdouble]
      rfl
  | @string text hvalid =>
      refine hleaf (fun _ => rfl) (List.cons_ne_nil _ _) fun fuel rest _ => ?_
      show readValue numerals (fuel + 1) (quote layout text ++ rest) = _
      have htext : quote layout text ++ rest = 34 :: (layout.string text ++ 34 :: rest) := by
        rw [quote, List.append_assoc, List.cons_append]
        rfl
      rw [htext, readValue, skip_cons rfl]
      simp only [readText_quote hvalid, Option.map_some]
  | array helements ih => exact readValue_array helements ih
  | object hnames _ ih => exact readValue_object hnames ih

/-- What a layout has written is read back, with white space behind it if need be. -/
theorem parse_write {json : Json} (h : Writable numerals json) {gap : List UInt8}
    (hgap : ∀ byte ∈ gap, space byte = true) :
    parse numerals (write numerals layout 0 json ++ gap) = some json := by
  have hfollows : Follows gap := fun byte hbyte => by
    rw [← Bool.not_eq_true]
    intro hnumeral
    cases (hgap byte (List.mem_of_head? hbyte)).symm.trans (not_space_of_numeralByte hnumeral)
  have hback : ReadsBack numerals layout json := readsBack h
  have hread : readValue numerals ((write numerals layout 0 json ++ gap).length + 1)
      (write numerals layout 0 json ++ gap) = some (json, gap) :=
    hback 0 _ [] gap (List.forall_mem_nil _) hfollows (by rw [List.length_append]; omega)
  have hskip : skip gap = [] := List.dropWhile_eq_nil_iff.mpr hgap
  rw [parse, hread]
  exact if_pos hskip

end RoundTrip

/-! ### All values in a value -/

mutual

/-- The property holds of the value and of all values in it. -/
def Everywhere (p : Json → Prop) : Json → Prop
  | .array elements => p (.array elements) ∧ EverywhereElements p elements
  | .object fields => p (.object fields) ∧ EverywhereFields p fields
  | json => p json

def EverywhereElements (p : Json → Prop) : List Json → Prop
  | [] => True
  | element :: elements => Everywhere p element ∧ EverywhereElements p elements

def EverywhereFields (p : Json → Prop) : List (String × Json) → Prop
  | [] => True
  | field :: fields => EverywhereField p field ∧ EverywhereFields p fields

def EverywhereField (p : Json → Prop) : String × Json → Prop
  | (_, value) => Everywhere p value

end

section Everywhere

variable {p : Json → Prop}

theorem everywhere_array {elements : List Json} :
    Everywhere p (.array elements) ↔ p (.array elements) ∧ ∀ element ∈ elements, Everywhere p element := by
  have hall : EverywhereElements p elements ↔ ∀ element ∈ elements, Everywhere p element := by
    induction elements with
    | nil => exact ⟨fun _ => List.forall_mem_nil _, fun _ => trivial⟩
    | cons element elements ih => rw [EverywhereElements, ih, List.forall_mem_cons]
  rw [Everywhere, hall]

theorem everywhere_object {fields : List (String × Json)} :
    Everywhere p (.object fields) ↔ p (.object fields) ∧ ∀ field ∈ fields, Everywhere p field.2 := by
  have hall : EverywhereFields p fields ↔ ∀ field ∈ fields, Everywhere p field.2 := by
    induction fields with
    | nil => exact ⟨fun _ => List.forall_mem_nil _, fun _ => trivial⟩
    | cons field fields ih => rw [EverywhereFields, ih, List.forall_mem_cons, EverywhereField]
  rw [Everywhere, hall]

mutual

theorem Everywhere.mono {q : Json → Prop} (h : ∀ json, p json → q json) :
    (json : Json) → Everywhere p json → Everywhere q json
  | .null, hjson => h _ hjson
  | .boolean _, hjson => h _ hjson
  | .integer _, hjson => h _ hjson
  | .number _, hjson => h _ hjson
  | .string _, hjson => h _ hjson
  | .array elements, hjson => ⟨h _ hjson.1, EverywhereElements.mono h elements hjson.2⟩
  | .object fields, hjson => ⟨h _ hjson.1, EverywhereFields.mono h fields hjson.2⟩

theorem EverywhereElements.mono {q : Json → Prop} (h : ∀ json, p json → q json) :
    (elements : List Json) → EverywhereElements p elements → EverywhereElements q elements
  | [], _ => trivial
  | element :: elements, hall => ⟨Everywhere.mono h element hall.1, EverywhereElements.mono h elements hall.2⟩

theorem EverywhereFields.mono {q : Json → Prop} (h : ∀ json, p json → q json) :
    (fields : List (String × Json)) → EverywhereFields p fields → EverywhereFields q fields
  | [], _ => trivial
  | (_, value) :: fields, hall => ⟨Everywhere.mono h value hall.1, EverywhereFields.mono h fields hall.2⟩

end

mutual

def decidableEverywhere [DecidablePred p] : (json : Json) → Decidable (Everywhere p json)
  | .null => inferInstanceAs (Decidable (p .null))
  | .boolean value => inferInstanceAs (Decidable (p (.boolean value)))
  | .integer value => inferInstanceAs (Decidable (p (.integer value)))
  | .number value => inferInstanceAs (Decidable (p (.number value)))
  | .string value => inferInstanceAs (Decidable (p (.string value)))
  | .array elements => @instDecidableAnd _ _ _ (decidableEverywhereElements elements)
  | .object fields => @instDecidableAnd _ _ _ (decidableEverywhereFields fields)

def decidableEverywhereElements [DecidablePred p] : (elements : List Json) → Decidable (EverywhereElements p elements)
  | [] => .isTrue trivial
  | element :: elements => @instDecidableAnd _ _ (decidableEverywhere element) (decidableEverywhereElements elements)

def decidableEverywhereFields [DecidablePred p] :
    (fields : List (String × Json)) → Decidable (EverywhereFields p fields)
  | [] => .isTrue trivial
  | field :: fields => @instDecidableAnd _ _ (decidableEverywhereField field) (decidableEverywhereFields fields)

def decidableEverywhereField [DecidablePred p] : (field : String × Json) → Decidable (EverywhereField p field)
  | (_, value) => decidableEverywhere value

end

instance [DecidablePred p] (json : Json) : Decidable (Everywhere p json) := decidableEverywhere json

end Everywhere

/-- The names of an object differ from each other. -/
def NamesDiffer : Json → Prop
  | .object fields => (fields.map Prod.fst).Nodup
  | _ => True

@[simp] theorem differ_null : Everywhere NamesDiffer .null := trivial

@[simp] theorem differ_boolean (value : Bool) : Everywhere NamesDiffer (.boolean value) := trivial

@[simp] theorem differ_integer (value : Int) : Everywhere NamesDiffer (.integer value) := trivial

@[simp] theorem differ_number (value : Binary64) : Everywhere NamesDiffer (.number value) := trivial

@[simp] theorem differ_string (value : List UInt8) : Everywhere NamesDiffer (.string value) := trivial

@[simp] theorem differ_text (value : String) : Everywhere NamesDiffer (.text value) := trivial

theorem differ_array {elements : List Json} :
    Everywhere NamesDiffer (.array elements) ↔ ∀ element ∈ elements, Everywhere NamesDiffer element :=
  everywhere_array.trans (and_iff_right trivial)

theorem differ_object {fields : List (String × Json)} :
    Everywhere NamesDiffer (.object fields) ↔
      (fields.map Prod.fst).Nodup ∧ ∀ field ∈ fields, Everywhere NamesDiffer field.2 :=
  everywhere_object

/-- A number that comes back as it was. -/
def NumberKept (numerals : Numerals) : Json → Prop
  | .integer value => numerals.Keeps value
  | .number (.finite value) => Binary64.nearest value = value
  | _ => True

instance (numerals : Numerals) [DecidablePred numerals.Keeps] : DecidablePred (NumberKept numerals)
  | .integer value => inferInstanceAs (Decidable (numerals.Keeps value))
  | .number (.finite value) => inferInstanceAs (Decidable (Binary64.nearest value = value))
  | .null => .isTrue trivial
  | .boolean _ => .isTrue trivial
  | .number .posInf => .isTrue trivial
  | .number .negInf => .isTrue trivial
  | .number .nan => .isTrue trivial
  | .string _ => .isTrue trivial
  | .array _ => .isTrue trivial
  | .object _ => .isTrue trivial

/-- A value that is not changed by its text, but for what is in it. -/
def ValueKept (numerals : Numerals) : Json → Prop
  | .integer value => numerals.Keeps value
  | .number value => ∃ finite, value = .finite finite ∧ Binary64.nearest finite = finite
  | .string text => ValidText text
  | _ => True

instance (numerals : Numerals) [DecidablePred numerals.Keeps] : DecidablePred (ValueKept numerals)
  | .integer value => inferInstanceAs (Decidable (numerals.Keeps value))
  | .number (.finite value) =>
      decidable_of_iff (Binary64.nearest value = value)
        ⟨fun h => ⟨value, rfl, h⟩, fun ⟨_, heq, h⟩ => Binary64.finite.inj heq ▸ h⟩
  | .number .posInf => .isFalse fun ⟨_, heq, _⟩ => Binary64.noConfusion heq
  | .number .negInf => .isFalse fun ⟨_, heq, _⟩ => Binary64.noConfusion heq
  | .number .nan => .isFalse fun ⟨_, heq, _⟩ => Binary64.noConfusion heq
  | .string text => inferInstanceAs (Decidable (ValidText text))
  | .null => .isTrue trivial
  | .boolean _ => .isTrue trivial
  | .array _ => .isTrue trivial
  | .object _ => .isTrue trivial

section Writable

variable {numerals : Numerals}

mutual

theorem writable_of_everywhere : (json : Json) → Everywhere NamesDiffer json →
    Everywhere (ValueKept numerals) json →
    Writable numerals json
  | .null, _, _ => .null
  | .boolean value, _, _ => .boolean value
  | .integer _, _, hkept => .integer hkept
  | .number _, _, ⟨_, rfl, hdouble⟩ => .number hdouble
  | .string _, _, hkept => .string hkept
  | .array elements, hnames, hkept =>
      .array (writable_elements elements (everywhere_array.mp hnames).2 (everywhere_array.mp hkept).2)
  | .object fields, hnames, hkept =>
      .object (everywhere_object.mp hnames).1
        (writable_fields fields (everywhere_object.mp hnames).2 (everywhere_object.mp hkept).2)

theorem writable_elements : (elements : List Json) → (∀ element ∈ elements, Everywhere NamesDiffer element) →
    (∀ element ∈ elements, Everywhere (ValueKept numerals) element) →
    ∀ element ∈ elements, Writable numerals element
  | [], _, _ => List.forall_mem_nil _
  | element :: elements, hnames, hkept =>
      List.forall_mem_cons.mpr
        ⟨writable_of_everywhere element (List.forall_mem_cons.mp hnames).1 (List.forall_mem_cons.mp hkept).1,
          writable_elements elements (List.forall_mem_cons.mp hnames).2 (List.forall_mem_cons.mp hkept).2⟩

theorem writable_fields : (fields : List (String × Json)) → (∀ field ∈ fields, Everywhere NamesDiffer field.2) →
    (∀ field ∈ fields, Everywhere (ValueKept numerals) field.2) → ∀ field ∈ fields, Writable numerals field.2
  | [], _, _ => List.forall_mem_nil _
  | (_, value) :: fields, hnames, hkept =>
      List.forall_mem_cons.mpr
        ⟨writable_of_everywhere value (List.forall_mem_cons.mp hnames).1 (List.forall_mem_cons.mp hkept).1,
          writable_fields fields (List.forall_mem_cons.mp hnames).2 (List.forall_mem_cons.mp hkept).2⟩

end

end Writable

/-! ### Fields by their names -/

mutual

/-- The value with the fields of its objects in the order of their names. -/
def sorted : Json → Json
  | .array elements => .array (sortedElements elements)
  | .object fields => .object ((sortedFields fields).mergeSort fun a b => !decide (b.1 < a.1))
  | json => json

def sortedElements : List Json → List Json
  | [] => []
  | element :: elements => sorted element :: sortedElements elements

def sortedFields : List (String × Json) → List (String × Json)
  | [] => []
  | field :: fields => sortedField field :: sortedFields fields

def sortedField : String × Json → String × Json
  | (name, value) => (name, sorted value)

end

theorem sortedElements_eq (elements : List Json) : sortedElements elements = elements.map sorted := by
  induction elements with
  | nil => rfl
  | cons element elements ih => rw [sortedElements, ih, List.map_cons]

theorem sortedFields_eq (fields : List (String × Json)) :
    sortedFields fields = fields.map fun field => (field.1, sorted field.2) := by
  induction fields with
  | nil => rfl
  | cons field fields ih => rw [sortedFields, ih, List.map_cons, sortedField]

theorem sortedFields_names (fields : List (String × Json)) :
    (sortedFields fields).map Prod.fst = fields.map Prod.fst := by
  rw [sortedFields_eq, List.map_map]
  rfl

theorem Writable.sorted {numerals : Numerals} {json : Json} (h : Writable numerals json) :
    Writable numerals json.sorted := by
  induction h with
  | null => exact .null
  | boolean value => exact .boolean value
  | integer hkeeps => exact .integer hkeeps
  | number hdouble => exact .number hdouble
  | string hvalid => exact .string hvalid
  | array _ ih =>
      rw [Json.sorted, sortedElements_eq]
      exact .array (List.forall_mem_map.mpr ih)
  | @object fields hnames _ ih =>
      have hperm := List.mergeSort_perm (sortedFields fields) fun a b => !decide (b.1 < a.1)
      rw [Json.sorted]
      refine .object ?_ fun field hfield => ?_
      · rw [(hperm.map Prod.fst).nodup_iff, sortedFields_names]
        exact hnames
      · have hmem := hperm.mem_iff.mp hfield
        rw [sortedFields_eq] at hmem
        obtain ⟨source, hsource, rfl⟩ := List.mem_map.mp hmem
        exact ih source hsource

end OnboardAutonomy.Json
