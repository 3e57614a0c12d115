import OnboardAutonomy.Binary64

/-! JSON values whose strings are byte lists, as a C++ program builds them, and when they can be printed: a
printer needs every string to be UTF-8. Nothing here is about a particular program. -/

namespace OnboardAutonomy

inductive Json where
  | null
  | boolean (value : Bool)
  | integer (value : Int)
  | number (value : Binary64)
  | string (value : List UInt8)
  | array (elements : List Json)
  | object (fields : List (String × Json))

/-- The bytes are the UTF-8 encoding of some characters. -/
def ValidText (text : List UInt8) : Prop := (ByteArray.mk text.toArray).IsValidUTF8

instance (text : List UInt8) : Decidable (ValidText text) :=
  inferInstanceAs (Decidable (ByteArray.IsValidUTF8 _))

theorem validText_ofString (s : String) : ValidText s.toUTF8.data.toList := by
  rw [ValidText, Array.toArray_toList]
  exact s.isValidUTF8

namespace Json

/-- A string of the program itself. -/
def text (s : String) : Json := .string s.toUTF8.data.toList

mutual

/-- The strings in a value, its names included. -/
def strings : Json → List (List UInt8)
  | .string value => [value]
  | .array elements => elementStrings elements
  | .object fields => fieldStrings fields
  | _ => []

def elementStrings : List Json → List (List UInt8)
  | [] => []
  | element :: elements => strings element ++ elementStrings elements

def fieldStrings : List (String × Json) → List (List UInt8)
  | [] => []
  | field :: fields => memberStrings field ++ fieldStrings fields

def memberStrings : String × Json → List (List UInt8)
  | (name, value) => name.toUTF8.data.toList :: strings value

end

/-- Every string of the value is UTF-8. -/
def Printable (json : Json) : Prop := ∀ text ∈ json.strings, ValidText text

instance (json : Json) : Decidable json.Printable := inferInstanceAs (Decidable (∀ text ∈ _, _))

section Printable

@[simp] theorem printable_null : Printable .null := fun _ h => absurd h List.not_mem_nil

@[simp] theorem printable_boolean (value : Bool) : Printable (.boolean value) :=
  fun _ h => absurd h List.not_mem_nil

@[simp] theorem printable_integer (value : Int) : Printable (.integer value) :=
  fun _ h => absurd h List.not_mem_nil

@[simp] theorem printable_number (value : Binary64) : Printable (.number value) :=
  fun _ h => absurd h List.not_mem_nil

@[simp] theorem printable_string (value : List UInt8) : Printable (.string value) ↔ ValidText value := by
  simp [Printable, strings]

@[simp] theorem printable_text (s : String) : Printable (text s) :=
  (printable_string _).mpr (validText_ofString s)

theorem elementStrings_eq (elements : List Json) : elementStrings elements = elements.flatMap strings := by
  induction elements with
  | nil => rfl
  | cons element elements ih => rw [elementStrings, ih, List.flatMap_cons]

@[simp] theorem printable_array (elements : List Json) :
    Printable (.array elements) ↔ ∀ element ∈ elements, Printable element := by
  simp only [Printable, strings, elementStrings_eq, List.mem_flatMap, forall_exists_index, and_imp]
  exact ⟨fun h element hmem text => h text element hmem, fun h text element hmem => h element hmem text⟩

@[simp] theorem printable_object_nil : Printable (.object []) := fun _ h => absurd h List.not_mem_nil

@[simp] theorem printable_object_cons (name : String) (value : Json) (fields : List (String × Json)) :
    Printable (.object ((name, value) :: fields)) ↔ Printable value ∧ Printable (.object fields) := by
  simp only [Printable, strings, fieldStrings, memberStrings, List.cons_append, List.mem_cons, List.mem_append,
    or_imp, forall_and]
  exact ⟨fun h => h.2, fun h => ⟨fun _ heq => heq ▸ validText_ofString name, h⟩⟩

@[simp] theorem printable_object_append (first second : List (String × Json)) :
    Printable (.object (first ++ second)) ↔ Printable (.object first) ∧ Printable (.object second) := by
  induction first with
  | nil => simp
  | cons field first ih =>
      obtain ⟨name, value⟩ := field
      rw [List.cons_append, printable_object_cons, printable_object_cons, ih, and_assoc]

end Printable

/-- A printer: it refuses a value with a string that is not UTF-8, and nothing else; what it prints is one line. -/
structure Printer where
  dump : Json → Option (List UInt8)
  dump_isSome : ∀ json, (dump json).isSome = true ↔ json.Printable
  dump_line : ∀ json line, dump json = some line → (10 : UInt8) ∉ line

namespace Printer

variable (printer : Printer)

theorem dump_eq_none {json : Json} : printer.dump json = none ↔ ¬json.Printable := by
  rw [← printer.dump_isSome, Bool.not_eq_true, Option.isSome_eq_false_iff, Option.isNone_iff_eq_none]

/-- The values one below the other, each on a line of its own. -/
def print : List Json → Option (List UInt8)
  | [] => some []
  | value :: values => do
      let line ← printer.dump value
      let rest ← print values
      some (line ++ 10 :: rest)

theorem print_cons {value : Json} {values : List Json} {line rest : List UInt8} (hline : printer.dump value = some line)
    (hrest : printer.print values = some rest) : printer.print (value :: values) = some (line ++ 10 :: rest) := by
  rw [print, hline, hrest]
  rfl

theorem print_append {first second : List Json} {before after : List UInt8} (hbefore : printer.print first = some before)
    (hafter : printer.print second = some after) : printer.print (first ++ second) = some (before ++ after) := by
  induction first generalizing before with
  | nil =>
      cases hbefore
      exact hafter
  | cons value values ih =>
      obtain ⟨line, hline, hrest⟩ := Option.bind_eq_some_iff.mp hbefore
      obtain ⟨rest, hvalues, htext⟩ := Option.bind_eq_some_iff.mp hrest
      cases htext
      rw [List.cons_append, printer.print_cons hline (ih hvalues), List.append_assoc, List.cons_append]

/-- What is printed has a line for each value. -/
theorem print_lines {values : List Json} {text : List UInt8} (h : printer.print values = some text) :
    ∃ lines, text = lines.flatMap (· ++ [10]) ∧
      List.Forall₂ (fun value line => printer.dump value = some line) values lines := by
  induction values generalizing text with
  | nil =>
      cases h
      exact ⟨[], rfl, .nil⟩
  | cons value values ih =>
      obtain ⟨line, hline, hrest⟩ := Option.bind_eq_some_iff.mp h
      obtain ⟨rest, hvalues, htext⟩ := Option.bind_eq_some_iff.mp hrest
      cases htext
      obtain ⟨lines, rfl, hlines⟩ := ih hvalues
      refine ⟨line :: lines, ?_, .cons hline hlines⟩
      rw [List.flatMap_cons, List.append_assoc, List.singleton_append]

end Printer

end Json
end OnboardAutonomy
