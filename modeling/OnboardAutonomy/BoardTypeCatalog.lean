import OnboardAutonomy.Attempts
import OnboardAutonomy.ConsoleView
import OnboardAutonomy.FromChars
import OnboardAutonomy.Lines
import OnboardAutonomy.Scanning
import Mathlib.Data.List.AList
import Mathlib.Algebra.BigOperators.Group.Finset.Basic

/-! The board types of the autopilot, read from a table with a row for each name of a board: the name, blanks
and the number of its type. Behind a '#' stands a comment. A type may have several names; one marked as
reserved is what the console shows. -/

namespace OnboardAutonomy

open Attempts Scanning
open ConsoleView (BoardTypeMatch BoardTypeResolver)

/-! ### Rows -/

def isSpace (byte : UInt8) : Bool := (literal " \t\r\n").contains byte

/-- What parts the name from the number. -/
def isSeparator (byte : UInt8) : Bool := (literal " \t").contains byte

def trim (value : Bytes) : Bytes := strip isSpace value

def kReservedPrefix : Bytes := literal "Reserved"

def withoutQuotes (name : Bytes) : Bytes :=
  if 2 ≤ name.length && name.head? == some '"'.toUInt8 && name.getLast? == some '"'.toUInt8 then
    name.tail.dropLast
  else name

/-- `normalized_name`. -/
def normalizedName (sourceName : Bytes) : Bytes × Bool :=
  let sourceName := trim sourceName
  let isReserved := kReservedPrefix.isPrefixOf sourceName
  let sourceName := if isReserved then trim (sourceName.drop kReservedPrefix.length) else sourceName
  (trim (withoutQuotes sourceName), isReserved)

structure ParsedLine where
  boardType : UInt16
  name : Bytes
  isReserved : Bool
  deriving DecidableEq

def withoutComment (line : Bytes) : Bytes := line.takeWhile (· != '#'.toUInt8)

def tableError (lineNumber : Nat) (message : String) : String :=
  "ArduPilot board table line " ++ toString lineNumber ++ message

/-- `parse_line`. -/
def parseLine (line : Bytes) (lineNumber : Nat) : Except String (Option ParsedLine) :=
  let content := trim (withoutComment line)
  if content.isEmpty then .ok none
  else
    -- `content.find_last_of(" \t")` is the last position of this.
    let throughSeparator := content.rdropWhile (!isSeparator ·)
    if throughSeparator.isEmpty then .error (tableError lineNumber " has no numeric board type")
    else
      let idText := trim (content.rtakeWhile (!isSeparator ·))
      let nameText := trim throughSeparator.dropLast
      match fromCharsUnsigned (2 ^ 32) (idText.map Char.ofUInt8) with
      | some (parsedId, []) =>
          if 65535 < parsedId then .error (tableError lineNumber " has an invalid board type")
          else
            let (name, isReserved) := normalizedName nameText
            if name.isEmpty then .error (tableError lineNumber " has an empty board name")
            else .ok (some { boardType := UInt16.ofNat parsedId, name, isReserved })
      | _ => .error (tableError lineNumber " has an invalid board type")

/-! ### The catalog -/

namespace BoardTypeCatalog

structure Entry where
  preferredName : Bytes := []
  aliases : List Bytes := []
  preferredIsReserved : Bool := false

/-- An entry with one more name. -/
def Entry.withName (entry : Entry) (name : Bytes) (isReserved : Bool) : Entry :=
  let aliases := if entry.aliases.contains name then entry.aliases else entry.aliases ++ [name]
  if entry.preferredName.isEmpty || (isReserved && !entry.preferredIsReserved) then
    { preferredName := name, aliases, preferredIsReserved := isReserved }
  else { entry with aliases }

end BoardTypeCatalog

structure BoardTypeCatalog where
  entries : AList (fun _ : UInt16 => BoardTypeCatalog.Entry) := ∅
  aliasCount : Nat := 0

namespace BoardTypeCatalog

/-- The entry of a type, which `entries_[board_type]` makes where there is none. -/
def entry (catalog : BoardTypeCatalog) (boardType : UInt16) : Entry :=
  (catalog.entries.lookup boardType).getD {}

def add (catalog : BoardTypeCatalog) (boardType : UInt16) (name : Bytes) (isReserved : Bool) :
    BoardTypeCatalog :=
  let entry := catalog.entry boardType
  let duplicate := entry.aliases.contains name
  { entries := catalog.entries.insert boardType (entry.withName name isReserved)
    aliasCount := if duplicate then catalog.aliasCount else catalog.aliasCount + 1 }

def resolve (catalog : BoardTypeCatalog) : BoardTypeResolver := fun boardType =>
  match catalog.entries.lookup boardType with
  | none => none
  | some found => some { preferredName := found.preferredName, aliases := found.aliases }

def boardTypeCount (catalog : BoardTypeCatalog) : Nat := catalog.entries.entries.length

/-- The loop of `from_stream`, with the number of lines read. -/
def readTable : Nat → BoardTypeCatalog → List Bytes → Except String BoardTypeCatalog
  | _, catalog, [] => .ok catalog
  | lineNumber, catalog, line :: lines =>
      match parseLine line (lineNumber + 1) with
      | .error message => .error message
      | .ok none => readTable (lineNumber + 1) catalog lines
      | .ok (some parsed) =>
          readTable (lineNumber + 1) (catalog.add parsed.boardType parsed.name parsed.isReserved) lines

/-- `std::getline` hands over the lines of the text. -/
def fromStream (text : Bytes) : Except String BoardTypeCatalog := readTable 0 {} (Lines.lines 10 text)

end BoardTypeCatalog

/-! ### What a table says -/

/-- The text of a row: a name, a gap and a number. -/
structure RowText (content name gap number : Bytes) : Prop where
  joined : content = name ++ (gap ++ number)
  gap_space : ∀ byte ∈ gap, isSpace byte = true
  separated : ∃ byte ∈ gap, isSeparator byte = true
  number_ne : number ≠ []
  digits : ∀ byte ∈ number, (Char.ofUInt8 byte).isDigit = true
  in_range : decimalValue (number.map Char.ofUInt8) ≤ 65535

/-- What a line holds is of the form of a row, which says this. -/
def IsRow (content : Bytes) (row : ParsedLine) : Prop :=
  ∃ name gap number, RowText content name gap number ∧
    row.boardType.toNat = decimalValue (number.map Char.ofUInt8) ∧
    (row.name, row.isReserved) = normalizedName name ∧ row.name ≠ []

/-- What the lines hold that are not blank. -/
def contents (lines : List Bytes) : List Bytes :=
  (lines.map fun line => trim (withoutComment line)).filter (!·.isEmpty)

/-- The rows of a board type, in their order. -/
def rowsOf (rows : List ParsedLine) (boardType : UInt16) : List ParsedLine :=
  rows.filter (·.boardType = boardType)

/-- Their names, each where it appears first. -/
def namesOf (rows : List ParsedLine) (boardType : UInt16) : List Bytes :=
  ((rowsOf rows boardType).map ParsedLine.name).eraseDups

/-- The row that the preferred name is taken from. -/
def preferredRow (rows : List ParsedLine) : Option ParsedLine :=
  (rows.find? ParsedLine.isReserved).or rows.head?

/-- The board types of the rows. -/
def typesOf (rows : List ParsedLine) : Finset UInt16 := (rows.map ParsedLine.boardType).toFinset

namespace BoardTypeCatalog

/-- The catalog says what the rows say. -/
structure Describes (rows : List ParsedLine) (catalog : BoardTypeCatalog) : Prop where
  resolved : ∀ boardType, (catalog.resolve boardType).isSome ↔ ∃ row ∈ rows, row.boardType = boardType
  aliases : ∀ boardType, ∀ found ∈ catalog.resolve boardType, found.aliases = namesOf rows boardType
  preferred : ∀ boardType, ∀ found ∈ catalog.resolve boardType,
    some found.preferredName = (preferredRow (rowsOf rows boardType)).map ParsedLine.name
  type_count : catalog.boardTypeCount = (typesOf rows).card
  alias_count : catalog.aliasCount = ∑ boardType ∈ typesOf rows, (namesOf rows boardType).length

/-! ### One more row -/

theorem eraseDups_concat {α : Type} [BEq α] [LawfulBEq α] (l : List α) (a : α) :
    (l ++ [a]).eraseDups = if l.contains a then l.eraseDups else l.eraseDups ++ [a] := by
  rw [List.eraseDups_append]
  cases h : l.contains a with
  | true =>
      rw [List.removeAll, List.filter_singleton, List.elem_eq_contains, h]
      exact List.append_nil _
  | false =>
      rw [List.removeAll, List.filter_singleton, List.elem_eq_contains, h]
      rfl

/-- The entry says what the rows of its type say. -/
structure Entry.Describes (rows : List ParsedLine) (entry : Entry) : Prop where
  aliases : entry.aliases = (rows.map ParsedLine.name).eraseDups
  preferred : entry.preferredName = ((preferredRow rows).map ParsedLine.name).getD []
  reserved : entry.preferredIsReserved = rows.any ParsedLine.isReserved

section Entry

variable {rows : List ParsedLine} {entry : Entry}

theorem preferredRow_eq_none (h : preferredRow rows = none) : rows = [] := by
  rw [preferredRow, Option.or_eq_none_iff] at h
  exact List.head?_eq_none_iff.mp h.2

theorem preferredRow_mem {row : ParsedLine} (h : preferredRow rows = some row) : row ∈ rows := by
  rcases Option.or_eq_some_iff.mp h with h | ⟨-, h⟩
  · exact List.mem_of_find?_eq_some h
  · exact List.mem_of_head? h

theorem preferredRow_concat (rows : List ParsedLine) (row : ParsedLine) :
    preferredRow (rows ++ [row]) =
      if rows.isEmpty || (row.isReserved && !rows.any ParsedLine.isReserved) then some row
      else preferredRow rows := by
  unfold preferredRow
  rw [List.find?_append, List.head?_append]
  cases hfind : rows.find? ParsedLine.isReserved with
  | some found =>
      have hany : rows.any ParsedLine.isReserved = true :=
        List.any_eq_true.mpr ⟨found, List.mem_of_find?_eq_some hfind, List.find?_some hfind⟩
      have hne : rows.isEmpty = false :=
        List.isEmpty_eq_false_iff.mpr (List.ne_nil_of_mem (List.mem_of_find?_eq_some hfind))
      simp [hany, hne]
  | none =>
      have hany : rows.any ParsedLine.isReserved = false := by
        rw [List.any_eq_false]
        exact List.find?_eq_none.mp hfind
      cases rows with
      | nil => cases hreserved : row.isReserved <;> simp [hreserved]
      | cons first rows => cases hreserved : row.isReserved <;> simp [hreserved, hany]

/-- No name has been preferred exactly where there is no row yet. -/
theorem Entry.Describes.preferred_isEmpty (h : entry.Describes rows) (hnames : ∀ row ∈ rows, row.name ≠ []) :
    entry.preferredName.isEmpty = rows.isEmpty := by
  rw [h.preferred]
  cases hrow : preferredRow rows with
  | none =>
      rw [preferredRow_eq_none hrow]
      rfl
  | some row =>
      have hmem := preferredRow_mem hrow
      rw [List.isEmpty_eq_false_iff.mpr (List.ne_nil_of_mem hmem)]
      exact List.isEmpty_eq_false_iff.mpr (hnames row hmem)

theorem Entry.Describes.withName (h : entry.Describes rows) (hnames : ∀ row ∈ rows, row.name ≠ [])
    (row : ParsedLine) : (entry.withName row.name row.isReserved).Describes (rows ++ [row]) := by
  have haliases : (if entry.aliases.contains row.name then entry.aliases else entry.aliases ++ [row.name]) =
      ((rows ++ [row]).map ParsedLine.name).eraseDups := by
    rw [List.map_append, List.map_singleton, eraseDups_concat, h.aliases]
    congr 1
    simp
  have hrow := preferredRow_concat rows row
  have hempty := h.preferred_isEmpty hnames
  have hreserved := h.reserved
  unfold Entry.withName
  by_cases hovertaken : (entry.preferredName.isEmpty || (row.isReserved && !entry.preferredIsReserved)) = true
  · have hpreferred : preferredRow (rows ++ [row]) = some row := by
      rw [hrow, ← hempty, ← hreserved, if_pos hovertaken]
    rw [if_pos hovertaken]
    refine ⟨haliases, by rw [hpreferred]; rfl, ?_⟩
    rw [List.any_append, ← hreserved]
    rcases Bool.or_eq_true_iff.mp hovertaken with hnone | hlater
    · have hnil : rows = [] := List.isEmpty_iff.mp (hempty ▸ hnone)
      simp [hreserved, hnil]
    · simp [(Bool.and_eq_true_iff.mp hlater).1]
  · have hpreferred : preferredRow (rows ++ [row]) = preferredRow rows := by
      rw [hrow, ← hempty, ← hreserved, if_neg hovertaken]
    rw [if_neg hovertaken]
    refine ⟨haliases, by rw [hpreferred]; exact h.preferred, ?_⟩
    rw [List.any_append, ← hreserved]
    cases hentry : entry.preferredIsReserved with
    | true => rfl
    | false =>
        cases hrow : row.isReserved with
        | true => simp [hentry, hrow] at hovertaken
        | false => simp [hrow]

end Entry

section Catalog

variable {rows : List ParsedLine} {catalog : BoardTypeCatalog}

theorem mem_typesOf {boardType : UInt16} :
    boardType ∈ typesOf rows ↔ ∃ row ∈ rows, row.boardType = boardType := by
  rw [typesOf, List.mem_toFinset, List.mem_map]

theorem typesOf_concat (rows : List ParsedLine) (row : ParsedLine) :
    typesOf (rows ++ [row]) = insert row.boardType (typesOf rows) := by
  ext boardType
  simp [typesOf]

theorem rowsOf_concat_self (rows : List ParsedLine) (row : ParsedLine) :
    rowsOf (rows ++ [row]) row.boardType = rowsOf rows row.boardType ++ [row] := by
  simp [rowsOf]

theorem rowsOf_concat_ne (rows : List ParsedLine) {row : ParsedLine} {boardType : UInt16}
    (h : boardType ≠ row.boardType) : rowsOf (rows ++ [row]) boardType = rowsOf rows boardType := by
  simp [rowsOf, h.symm]

theorem rowsOf_eq_nil {boardType : UInt16} (h : boardType ∉ typesOf rows) : rowsOf rows boardType = [] := by
  rw [rowsOf, List.filter_eq_nil_iff]
  intro row hrow htype
  exact h (mem_typesOf.mpr ⟨row, hrow, of_decide_eq_true htype⟩)

theorem namesOf_concat_self (rows : List ParsedLine) (row : ParsedLine) :
    (namesOf (rows ++ [row]) row.boardType).length =
      (namesOf rows row.boardType).length +
        if (namesOf rows row.boardType).contains row.name then 0 else 1 := by
  have hcontains : (namesOf rows row.boardType).contains row.name =
      ((rowsOf rows row.boardType).map ParsedLine.name).contains row.name := by
    rw [Bool.eq_iff_iff, List.contains_iff_mem, List.contains_iff_mem, namesOf, List.mem_eraseDups]
  rw [hcontains, namesOf, rowsOf_concat_self, List.map_append, List.map_singleton, eraseDups_concat]
  split
  · rfl
  · exact List.length_append

/-- The names of all types together, with one more row. -/
theorem sum_namesOf_concat (rows : List ParsedLine) (row : ParsedLine) :
    ∑ boardType ∈ typesOf (rows ++ [row]), (namesOf (rows ++ [row]) boardType).length =
      ∑ boardType ∈ typesOf rows, (namesOf rows boardType).length +
        if (namesOf rows row.boardType).contains row.name then 0 else 1 := by
  have hold : ∑ boardType ∈ insert row.boardType (typesOf rows), (namesOf rows boardType).length =
      ∑ boardType ∈ typesOf rows, (namesOf rows boardType).length := by
    refine Finset.sum_insert_of_eq_zero_if_notMem fun hmem => ?_
    rw [namesOf, rowsOf_eq_nil hmem]
    rfl
  have hmem := Finset.mem_insert_self row.boardType (typesOf rows)
  rw [typesOf_concat, ← hold, ← Finset.add_sum_erase _ _ hmem, ← Finset.add_sum_erase _ _ hmem,
    namesOf_concat_self]
  have hothers : ∀ boardType ∈ (insert row.boardType (typesOf rows)).erase row.boardType,
      (namesOf (rows ++ [row]) boardType).length = (namesOf rows boardType).length := by
    intro boardType h
    rw [namesOf, rowsOf_concat_ne rows (Finset.ne_of_mem_erase h), namesOf]
  rw [Finset.sum_congr rfl hothers]
  omega

/-- What holds of the catalog behind each row. -/
structure Holds (rows : List ParsedLine) (catalog : BoardTypeCatalog) : Prop where
  entries : ∀ boardType, (catalog.entry boardType).Describes (rowsOf rows boardType)
  types : ∀ boardType, boardType ∈ catalog.entries ↔ boardType ∈ typesOf rows
  alias_count : catalog.aliasCount = ∑ boardType ∈ typesOf rows, (namesOf rows boardType).length
  names : ∀ row ∈ rows, row.name ≠ []

theorem Holds.empty : Holds [] {} where
  entries := fun _ => ⟨rfl, rfl, rfl⟩
  types := fun boardType => by simp [typesOf]
  alias_count := rfl
  names := List.forall_mem_nil _

theorem entry_add_self (boardType : UInt16) (name : Bytes) (isReserved : Bool) :
    (catalog.add boardType name isReserved).entry boardType =
      (catalog.entry boardType).withName name isReserved := by
  rw [entry, add, AList.lookup_insert]
  rfl

theorem entry_add_ne {boardType other : UInt16} (h : other ≠ boardType) (name : Bytes) (isReserved : Bool) :
    (catalog.add boardType name isReserved).entry other = catalog.entry other := by
  rw [entry, add, AList.lookup_insert_ne h]
  rfl

/-- A row of the table is added to what holds. -/
theorem Holds.add (h : Holds rows catalog) {row : ParsedLine} (hname : row.name ≠ []) :
    Holds (rows ++ [row]) (catalog.add row.boardType row.name row.isReserved) where
  entries := fun boardType => by
    by_cases htype : boardType = row.boardType
    · rw [htype, entry_add_self, rowsOf_concat_self]
      have hnames : ∀ other ∈ rowsOf rows row.boardType, other.name ≠ [] :=
        fun other hother => h.names other (List.mem_of_mem_filter hother)
      exact (h.entries row.boardType).withName hnames row
    · rw [entry_add_ne htype, rowsOf_concat_ne rows htype]
      exact h.entries boardType
  types := fun boardType => by
    rw [typesOf_concat, Finset.mem_insert, ← h.types boardType]
    exact AList.mem_insert catalog.entries
  alias_count := by
    rw [sum_namesOf_concat, ← h.alias_count, namesOf, ← (h.entries row.boardType).aliases]
    simp only [BoardTypeCatalog.add]
    split <;> rfl
  names := List.forall_mem_append.mpr ⟨h.names, List.forall_mem_singleton.mpr hname⟩

theorem Holds.addAll (h : Holds rows catalog) {more : List ParsedLine} (hnames : ∀ row ∈ more, row.name ≠ []) :
    Holds (rows ++ more)
      (more.foldl (fun catalog row => catalog.add row.boardType row.name row.isReserved) catalog) := by
  induction more generalizing rows catalog with
  | nil =>
      rw [List.append_nil]
      exact h
  | cons row more ih =>
      obtain ⟨hname, hnames⟩ := List.forall_mem_cons.mp hnames
      rw [List.append_cons]
      exact ih (h.add hname) hnames

theorem mem_resolve {boardType : UInt16} {found : BoardTypeMatch} (h : found ∈ catalog.resolve boardType) :
    found.preferredName = (catalog.entry boardType).preferredName ∧
      found.aliases = (catalog.entry boardType).aliases := by
  rw [Option.mem_def, resolve] at h
  rw [entry]
  cases hlookup : catalog.entries.lookup boardType with
  | none =>
      rw [hlookup] at h
      cases h
  | some entry =>
      rw [hlookup] at h
      cases Option.some.inj h
      exact ⟨rfl, rfl⟩

theorem resolve_isSome {boardType : UInt16} :
    (catalog.resolve boardType).isSome ↔ boardType ∈ catalog.entries := by
  rw [← AList.lookup_isSome, resolve]
  cases catalog.entries.lookup boardType <;> exact Iff.rfl

theorem Holds.describes (h : Holds rows catalog) : Describes rows catalog where
  resolved := fun boardType => by rw [resolve_isSome, h.types, mem_typesOf]
  aliases := fun boardType found hfound => by
    rw [(mem_resolve hfound).2, (h.entries boardType).aliases]
    rfl
  preferred := fun boardType found hfound => by
    have hmem : boardType ∈ typesOf rows :=
      (h.types boardType).mp (resolve_isSome.mp (Option.isSome_of_mem hfound))
    rw [(mem_resolve hfound).1, (h.entries boardType).preferred]
    cases hrow : preferredRow (rowsOf rows boardType) with
    | some row => rfl
    | none =>
        obtain ⟨row, hrow', htype⟩ := mem_typesOf.mp hmem
        have hmem' : row ∈ rowsOf rows boardType := List.mem_filter.mpr ⟨hrow', decide_eq_true htype⟩
        rw [preferredRow_eq_none hrow] at hmem'
        exact absurd hmem' List.not_mem_nil
  type_count := by
    have htypes : typesOf rows = catalog.entries.keys.toFinset := by
      ext boardType
      rw [← h.types, List.mem_toFinset, AList.mem_keys]
    rw [htypes, List.toFinset_card_of_nodup catalog.entries.keys_nodup]
    exact (List.length_map _).symm
  alias_count := h.alias_count

end Catalog

end BoardTypeCatalog

/-! ### The form of a row -/

section Row

variable {content name gap number : Bytes}

theorem isSpace_of_isSeparator {byte : UInt8} (h : isSeparator byte = true) : isSpace byte = true := by
  have hmem : byte ∈ [32, 9] := List.contains_iff_mem.mp h
  rcases List.mem_pair.mp hmem with rfl | rfl <;> decide

theorem not_isSpace_of_isDigit {byte : UInt8} (h : (Char.ofUInt8 byte).isDigit = true) :
    isSpace byte = false := by
  by_contra hspace
  have hmem : byte ∈ [32, 9, 13, 10] := List.contains_iff_mem.mp (Bool.not_eq_false _ ▸ hspace)
  simp only [List.mem_cons, List.not_mem_nil, or_false] at hmem
  rcases hmem with rfl | rfl | rfl | rfl <;> exact absurd h (by decide)

theorem normalizedName_trim (name : Bytes) : normalizedName (trim name) = normalizedName name := by
  have htrim : trim (trim name) = trim name := strip_strip
  simp only [normalizedName, htrim]

/-- The last separator of a row is in its gap. -/
theorem RowText.lastOccurrence (h : RowText content name gap number) :
    ∃ before separator after, gap = before ++ separator :: after ∧
      LastOccurrence isSeparator content (name ++ before) separator (after ++ number) := by
  have hnumber : ∀ byte ∈ number, isSeparator byte = false := by
    intro byte hbyte
    by_contra hseparator
    have hspace := isSpace_of_isSeparator (Bool.not_eq_false _ ▸ hseparator)
    rw [not_isSpace_of_isDigit (h.digits byte hbyte)] at hspace
    exact Bool.false_ne_true hspace
  rcases LastOccurrence.scan isSeparator gap with ⟨-, hfree⟩ | ⟨before, separator, after, hlast⟩
  · obtain ⟨byte, hbyte, hseparator⟩ := h.separated
    rw [hfree byte hbyte] at hseparator
    exact absurd hseparator Bool.false_ne_true
  · refine ⟨before, separator, after, hlast.joined.symm, ?_⟩
    rw [h.joined]
    exact (hlast.append_right hnumber).append_left

/-- What parses: the row on either side of the last separator. -/
theorem parseLine_row {line : Bytes} {lineNumber : Nat} {before after : Bytes} {separator : UInt8}
    (hlast : LastOccurrence isSeparator (trim (withoutComment line)) before separator after) :
    parseLine line lineNumber =
      match fromCharsUnsigned (2 ^ 32) ((trim after).map Char.ofUInt8) with
      | some (parsedId, []) =>
          if 65535 < parsedId then .error (tableError lineNumber " has an invalid board type")
          else if (normalizedName before).1.isEmpty then
            .error (tableError lineNumber " has an empty board name")
          else
            .ok (some
              { boardType := UInt16.ofNat parsedId
                name := (normalizedName before).1
                isReserved := (normalizedName before).2 })
      | _ => .error (tableError lineNumber " has an invalid board type") := by
  have hcontent : (trim (withoutComment line)).isEmpty = false := by
    rw [← hlast.joined]
    simp
  have hthrough : (before ++ [separator]).isEmpty = false := by simp
  simp only [parseLine, hcontent, hlast.rdropWhile_eq, hlast.rtakeWhile_eq, hthrough, List.dropLast_concat,
    normalizedName_trim, Bool.false_eq_true, if_false]

variable {line : Bytes} {lineNumber : Nat} {row : ParsedLine}

theorem parseLine_of_isRow (h : IsRow (trim (withoutComment line)) row) (lineNumber : Nat) :
    parseLine line lineNumber = .ok (some row) := by
  obtain ⟨name, gap, number, htext, htype, hname, hne⟩ := h
  obtain ⟨before, separator, after, hgap, hlast⟩ := htext.lastOccurrence
  have hspace : ∀ byte ∈ before ++ separator :: after, isSpace byte = true := hgap ▸ htext.gap_space
  obtain ⟨hbefore, hafter⟩ := List.forall_mem_append.mp hspace
  have hnumber : trim (after ++ number) = number := by
    rw [trim, strip_append_left (List.forall_mem_cons.mp hafter).2]
    exact strip_eq_self fun byte hbyte => not_isSpace_of_isDigit (htext.digits byte hbyte)
  have hnormalized : normalizedName (name ++ before) = (row.name, row.isReserved) := by
    rw [hname, ← normalizedName_trim, trim, strip_append hbefore, ← trim, normalizedName_trim]
  have hrange := htext.in_range
  have hread : fromCharsUnsigned (2 ^ 32) (number.map Char.ofUInt8) =
      some (decimalValue (number.map Char.ofUInt8), []) := by
    refine (fromCharsUnsigned_all _ _ _).mpr ⟨⟨?_, ?_⟩, rfl, by omega⟩
    · exact fun hnil => htext.number_ne (List.map_eq_nil_iff.mp hnil)
    · exact List.forall_mem_map.mpr htext.digits
  rw [← htype] at hrange hread
  simp only [parseLine_row hlast, hnumber, hread, hnormalized]
  rw [if_neg (by omega), if_neg (by rw [List.isEmpty_iff]; exact hne), UInt16.ofNat_toNat]

/-- Nothing blank follows the last separator at the end of a trimmed text. -/
theorem trail_eq_nil {text before after lead trail : Bytes} {separator : UInt8}
    (hlast : LastOccurrence isSeparator (trim text) before separator after)
    (hcore : Core isSpace after lead (trim after) trail) : trail = [] := by
  obtain ⟨_, _, htext⟩ := Core.scan isSpace text
  by_contra hne
  have hend : (trim text).getLast? = trail.getLast? := by
    rw [← hlast.joined, ← hcore.joined, ← List.cons_append, ← List.append_assoc, ← List.append_assoc]
    exact List.getLast?_append_of_ne_nil _ hne
  have hmem := List.getLast_mem hne
  have hspace := htext.last (trail.getLast hne) (hend ▸ List.getLast?_eq_some_getLast hne)
  rw [hcore.trail_all _ hmem] at hspace
  exact Bool.false_ne_true hspace.symm

theorem isRow_of_parseLine (h : parseLine line lineNumber = .ok (some row)) :
    IsRow (trim (withoutComment line)) row := by
  rcases LastOccurrence.scan isSeparator (trim (withoutComment line)) with
    ⟨hnil, -⟩ | ⟨before, separator, after, hlast⟩
  · rw [parseLine, hnil] at h
    cases hcontent : (trim (withoutComment line)).isEmpty <;> simp [hcontent] at h
  · obtain ⟨lead, trail, hcore⟩ := Core.scan isSpace after
    rw [parseLine_row hlast] at h
    split at h
    next parsedId hread =>
      split_ifs at h with hrange hname
      cases h
      obtain ⟨⟨hne, hdigits⟩, hvalue, -⟩ := (fromCharsUnsigned_all _ _ _).mp hread
      have hnumber : trim after ≠ [] := fun hnil => hne (List.map_eq_nil_iff.mpr hnil)
      have hafter : lead ++ trim after = after := by
        have hjoined := hcore.joined
        rw [trail_eq_nil hlast hcore, List.append_nil] at hjoined
        exact hjoined
      refine ⟨before, separator :: lead, trim after, ⟨?_, ?_, ?_, hnumber, ?_, ?_⟩, ?_, rfl, ?_⟩
      · rw [← hlast.joined, List.cons_append, hafter]
      · exact List.forall_mem_cons.mpr ⟨isSpace_of_isSeparator hlast.holds, hcore.lead_all⟩
      · exact ⟨separator, List.mem_cons_self, hlast.holds⟩
      · exact List.forall_mem_map.mp hdigits
      · rw [hvalue]
        omega
      · rw [hvalue, UInt16.toNat_ofNat', Nat.mod_eq_of_lt (by omega)]
      · exact fun hnil => hname (List.isEmpty_iff.mpr hnil)
    next => cases h

theorem parseLine_none : parseLine line lineNumber = .ok none ↔ trim (withoutComment line) = [] := by
  constructor
  · intro h
    by_contra hne
    rcases LastOccurrence.scan isSeparator (trim (withoutComment line)) with
      ⟨hnil, -⟩ | ⟨before, separator, after, hlast⟩
    · rw [parseLine, hnil] at h
      simp [hne] at h
    · rw [parseLine_row hlast] at h
      split at h
      next =>
        split_ifs at h
        cases h
      next => cases h
  · intro h
    rw [parseLine, h]
    rfl

end Row

/-! ### The table -/

namespace BoardTypeCatalog

variable {lineNumber : Nat} {catalog : BoardTypeCatalog}

theorem contents_blank {line : Bytes} (lines : List Bytes) (h : trim (withoutComment line) = []) :
    contents (line :: lines) = contents lines := by
  rw [contents, List.map_cons, List.filter_cons_of_neg (by rw [h]; decide), contents]

theorem contents_row {line : Bytes} (lines : List Bytes) (h : trim (withoutComment line) ≠ []) :
    contents (line :: lines) = trim (withoutComment line) :: contents lines := by
  rw [contents, List.map_cons, List.filter_cons_of_pos (by simpa using h), contents]

theorem readTable_rows {lines : List Bytes} {rows : List ParsedLine}
    (h : List.Forall₂ IsRow (contents lines) rows) :
    readTable lineNumber catalog lines =
      .ok (rows.foldl (fun catalog row => catalog.add row.boardType row.name row.isReserved) catalog) := by
  induction lines generalizing lineNumber catalog rows with
  | nil =>
      cases h
      rfl
  | cons line lines ih =>
      by_cases hblank : trim (withoutComment line) = []
      · rw [contents_blank lines hblank] at h
        rw [readTable, parseLine_none.mpr hblank]
        exact ih h
      · rw [contents_row lines hblank] at h
        cases h with
        | cons hrow hrows =>
            rw [readTable, parseLine_of_isRow hrow]
            exact ih hrows

/-- A table that has been read has rows only. -/
theorem exists_rows {lines : List Bytes} {result : BoardTypeCatalog}
    (h : readTable lineNumber catalog lines = .ok result) :
    ∃ rows, List.Forall₂ IsRow (contents lines) rows := by
  induction lines generalizing lineNumber catalog with
  | nil => exact ⟨[], List.Forall₂.nil⟩
  | cons line lines ih =>
      rw [readTable] at h
      cases hparsed : parseLine line (lineNumber + 1) with
      | error message =>
          rw [hparsed] at h
          cases h
      | ok parsed =>
          rw [hparsed] at h
          cases parsed with
          | none =>
              rw [contents_blank lines (parseLine_none.mp hparsed)]
              exact ih h
          | some row =>
              obtain ⟨rows, hrows⟩ := ih h
              have hne : trim (withoutComment line) ≠ [] := by
                intro hnil
                rw [parseLine_none.mpr hnil] at hparsed
                cases hparsed
              rw [contents_row lines hne]
              exact ⟨row :: rows, List.Forall₂.cons (isRow_of_parseLine hparsed) hrows⟩

theorem readTable_error {lines : List Bytes} {message : String}
    (h : readTable lineNumber catalog lines = .error message) :
    ∃ content ∈ contents lines, ∀ row, ¬IsRow content row := by
  induction lines generalizing lineNumber catalog with
  | nil => cases h
  | cons line lines ih =>
      by_cases hblank : trim (withoutComment line) = []
      · rw [readTable, parseLine_none.mpr hblank] at h
        rw [contents_blank lines hblank]
        exact ih h
      · rw [contents_row lines hblank]
        by_cases hrow : ∃ row, IsRow (trim (withoutComment line)) row
        · obtain ⟨row, hrow⟩ := hrow
          rw [readTable, parseLine_of_isRow hrow] at h
          obtain ⟨content, hcontent, hnone⟩ := ih h
          exact ⟨content, List.mem_cons_of_mem _ hcontent, hnone⟩
        · exact ⟨_, List.mem_cons_self, not_exists.mp hrow⟩

/-- A table is refused exactly where a line that is not blank has not the form of a row, and otherwise the
catalog says what the rows say. -/
theorem fromStream_exact (text : Bytes) :
    ((∃ message, fromStream text = .error message) ↔
      ∃ content ∈ contents (Lines.lines 10 text), ∀ row, ¬IsRow content row) ∧
    ∀ catalog, fromStream text = .ok catalog →
      (∃ rows, List.Forall₂ IsRow (contents (Lines.lines 10 text)) rows) ∧
      ∀ rows, List.Forall₂ IsRow (contents (Lines.lines 10 text)) rows → Describes rows catalog := by
  refine ⟨⟨?_, ?_⟩, ?_⟩
  · rintro ⟨message, herror⟩
    exact readTable_error herror
  · rintro ⟨content, hcontent, hnone⟩
    cases hread : fromStream text with
    | error message => exact ⟨message, rfl⟩
    | ok catalog =>
        obtain ⟨rows, hrows⟩ := exists_rows hread
        obtain ⟨row, -, hrow⟩ := exists_of_mem_right hrows.flip hcontent
        exact absurd hrow (hnone row)
  · intro catalog hread
    refine ⟨exists_rows hread, fun rows hrows => ?_⟩
    have hnames : ∀ row ∈ rows, row.name ≠ [] := by
      intro row hrow
      obtain ⟨content, -, name, gap, number, -, -, -, hne⟩ := exists_of_mem_right hrows hrow
      exact hne
    rw [fromStream, readTable_rows hrows] at hread
    cases hread
    exact (Holds.empty.addAll hnames).describes

/-- A reserved name comes to the front and the other names are kept. -/
example :
    ((fromStream (literal "FIRST 9\nSECOND 9 # same board\nReserved \"Friendly Board\" 9\n")).toOption.bind
      fun catalog => (catalog.resolve 9).map fun found =>
        (found.preferredName == literal "Friendly Board", found.aliases.length)) = some (true, 3) := by
  decide +kernel

end BoardTypeCatalog

end OnboardAutonomy
