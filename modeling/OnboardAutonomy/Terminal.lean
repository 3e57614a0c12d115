import Mathlib.Data.Bool.AllAny
import Mathlib.Data.List.Basic

/-! A terminal behind a line discipline: it draws bytes into cells, and follows the control sequences that move
its cursor home, erase, set a rendition, and hide or show the cursor. A character in the last column leaves the
cursor there, and the next one goes to a new line first. What a terminal makes of a byte beyond ASCII is left
open. Nothing here is about a particular program. -/

namespace OnboardAutonomy.Terminals

/-- A character with the renditions that were set when it was drawn. -/
structure Cell where
  character : UInt8
  rendition : List (List UInt8)
  deriving DecidableEq

def blank : Cell where
  character := 32
  rendition := []

/-- How much of a control sequence has come. -/
inductive Parser where
  | ground
  | escape
  | control (parameters : List UInt8)
  deriving DecidableEq

structure Terminal where
  cells : Nat → Nat → Cell := fun _ _ => blank
  row : Nat := 0
  column : Nat := 0
  wrapping : Bool := false
  rendition : List (List UInt8) := []
  visible : Bool := true
  parser : Parser := .ground

/-- A terminal of a size, with what it does with a byte beyond ASCII. -/
structure Device where
  width : Nat
  height : Nat
  beyond : Terminal → UInt8 → Terminal

namespace Terminal

def carriageReturn (t : Terminal) : Terminal := { t with column := 0, wrapping := false }

def home (t : Terminal) : Terminal := { t with row := 0, column := 0, wrapping := false }

def eraseAll (t : Terminal) : Terminal := { t with cells := fun _ _ => blank }

/-- The cells from the cursor on. -/
def eraseBelow (t : Terminal) : Terminal :=
  { t with
    cells := fun row column =>
      if t.row < row ∨ row = t.row ∧ t.column ≤ column then blank else t.cells row column }

/-- A rendition is added to those that are set; `0` ends all of them. -/
def setRendition (t : Terminal) (parameters : List UInt8) : Terminal :=
  { t with rendition := if parameters = [48] then [] else t.rendition ++ [parameters] }

/-- A byte of the parameters of a control sequence. -/
def IsParameter (byte : UInt8) : Prop := 48 ≤ byte ∧ byte ≤ 63

instance (byte : UInt8) : Decidable (IsParameter byte) := inferInstanceAs (Decidable (48 ≤ byte ∧ byte ≤ 63))

/-- A control sequence, with its parameters and its last byte. Others are ignored. -/
def execute (t : Terminal) (parameters : List UInt8) (final : UInt8) : Terminal :=
  if final = 72 ∧ parameters = [] then t.home
  else if final = 74 ∧ parameters = [] then t.eraseBelow
  else if final = 74 ∧ parameters = [50] then t.eraseAll
  else if final = 109 then t.setRendition parameters
  else if final = 108 ∧ parameters = [63, 50, 53] then { t with visible := false }
  else if final = 104 ∧ parameters = [63, 50, 53] then { t with visible := true }
  else t

section Device

variable (device : Device)

/-- A line down; at the bottom the rows move up. -/
def lineFeed (t : Terminal) : Terminal :=
  if t.row + 1 < device.height then { t with row := t.row + 1, wrapping := false }
  else
    { t with
      cells := fun row column => if row + 1 < device.height then t.cells (row + 1) column else blank
      wrapping := false }

/-- A character at the cursor. -/
def put (t : Terminal) (character : UInt8) : Terminal :=
  { t with
    cells := fun row column =>
      if row = t.row ∧ column = t.column then ⟨character, t.rendition⟩ else t.cells row column
    column := if t.column + 1 < device.width then t.column + 1 else t.column
    wrapping := !decide (t.column + 1 < device.width) }

/-- A character where it goes. -/
def print (t : Terminal) (character : UInt8) : Terminal :=
  if t.wrapping then (t.carriageReturn.lineFeed device).put device character else t.put device character

/-- A byte comes. -/
def feed (t : Terminal) (byte : UInt8) : Terminal :=
  if 128 ≤ byte then device.beyond t byte
  else
    match t.parser with
    | .ground =>
        if byte = 27 then { t with parser := .escape }
        else if byte = 13 then t.carriageReturn
        else if byte = 10 then t.lineFeed device
        else if 32 ≤ byte ∧ byte ≠ 127 then t.print device byte
        else t
    | .escape => { t with parser := if byte = 91 then .control [] else .ground }
    | .control parameters =>
        if IsParameter byte then { t with parser := .control (parameters ++ [byte]) }
        else ({ t with parser := .ground }).execute parameters byte

/-- A byte is written to the device: its line discipline begins a new line for a newline. -/
def receive (t : Terminal) (byte : UInt8) : Terminal :=
  if byte = 10 then (t.feed device 13).feed device 10 else t.feed device byte

def display (t : Terminal) (output : List UInt8) : Terminal := output.foldl (receive device) t

variable {device}

@[simp] theorem display_nil (t : Terminal) : t.display device [] = t := rfl

theorem display_append (t : Terminal) (before after : List UInt8) :
    t.display device (before ++ after) = (t.display device before).display device after :=
  List.foldl_append

theorem display_cons (t : Terminal) (byte : UInt8) (rest : List UInt8) :
    t.display device (byte :: rest) = (t.receive device byte).display device rest := rfl

/-! ### Where the cursor is -/

/-- The cursor is behind so many characters of a row, with nothing pending; behind the last one it waits in the
last column. -/
structure Ready (width : Nat) (t : Terminal) (row position : Nat) (rendition : List (List UInt8)) : Prop where
  parser : t.parser = .ground
  row : t.row = row
  fits : position ≤ width
  column : t.column = min position (width - 1)
  wrapping : t.wrapping = decide (position = width)
  rendition : t.rendition = rendition

/-- Cells in a row over what was there. -/
def overlay (cells : Nat → Nat → Cell) (row position : Nat) (drawn : List Cell) : Nat → Nat → Cell :=
  fun r c => if r = row ∧ position ≤ c then (drawn[c - position]?).getD (cells r c) else cells r c

theorem overlay_nil (cells : Nat → Nat → Cell) (row position : Nat) : overlay cells row position [] = cells := by
  funext r c
  unfold overlay
  split <;> simp

theorem overlay_append (cells : Nat → Nat → Cell) (row position : Nat) (first second : List Cell) :
    overlay (overlay cells row position first) row (position + first.length) second =
      overlay cells row position (first ++ second) := by
  funext r c
  unfold overlay
  by_cases hrow : r = row
  · by_cases hlow : position ≤ c
    · by_cases hhigh : position + first.length ≤ c
      · have hfirst : first[c - position]? = none := List.getElem?_eq_none (by omega)
        have hboth : (first ++ second)[c - position]? = second[c - (position + first.length)]? := by
          rw [List.getElem?_append_right (by omega), Nat.sub_add_eq]
        simp only [hrow, hlow, hhigh, and_self, if_true, hfirst, hboth, Option.getD_none]
      · have hboth : (first ++ second)[c - position]? = first[c - position]? :=
          List.getElem?_append_left (by omega)
        simp only [hrow, hlow, hhigh, and_true, and_false, if_true, if_false, hboth]
    · have hhigh : ¬(position + first.length ≤ c) := by omega
      simp only [hlow, hhigh, and_false, if_false]
  · simp only [hrow, false_and, if_false]

/-- What a text does in a row: it draws cells from the cursor on, and leaves everything else as it is. -/
def Draws (device : Device) (rendition : List (List UInt8)) (text : List UInt8) (drawn : List Cell)
    (after : List (List UInt8)) : Prop :=
  ∀ (t : Terminal) (row position : Nat), Ready device.width t row position rendition →
    position + drawn.length ≤ device.width →
    Ready device.width (t.display device text) row (position + drawn.length) after ∧
      (t.display device text).cells = overlay t.cells row position drawn ∧
      (t.display device text).visible = t.visible

theorem Draws.nil (rendition : List (List UInt8)) : Draws device rendition [] [] rendition := by
  intro t row position hready _
  exact ⟨hready, (overlay_nil _ _ _).symm, rfl⟩

theorem Draws.append {first middle last : List (List UInt8)} {before after : List UInt8}
    {drawn more : List Cell} (hbefore : Draws device first before drawn middle)
    (hafter : Draws device middle after more last) :
    Draws device first (before ++ after) (drawn ++ more) last := by
  intro t row position hready hfits
  rw [List.length_append] at hfits
  obtain ⟨hmiddle, hcells, hvisible⟩ := hbefore t row position hready (by omega)
  obtain ⟨hlast, hmore, hstill⟩ := hafter _ row _ hmiddle (by omega)
  rw [display_append, List.length_append, ← Nat.add_assoc]
  refine ⟨hlast, ?_, hstill.trans hvisible⟩
  rw [hmore, hcells, overlay_append]

/-- A printable character. -/
theorem draws_character {character : UInt8} (h : 32 ≤ character ∧ character < 127)
    (rendition : List (List UInt8)) :
    Draws device rendition [character] [⟨character, rendition⟩] rendition := by
  intro t row position hready hfits
  rw [List.length_singleton] at hfits ⊢
  have hnewline : character ≠ 10 := by
    rintro rfl
    exact absurd h.1 (by decide)
  have hreturn : character ≠ 13 := by
    rintro rfl
    exact absurd h.1 (by decide)
  have hescape : character ≠ 27 := by
    rintro rfl
    exact absurd h.1 (by decide)
  have hbeyond : ¬(128 ≤ character) := by
    intro hhigh
    exact absurd (UInt8.lt_of_lt_of_le h.2 (UInt8.le_trans (by decide) hhigh)) (UInt8.lt_irrefl _)
  have hwrapping : t.wrapping = false := by
    rw [hready.wrapping]
    exact decide_eq_false (by omega)
  have hcolumn : t.column = position := by
    rw [hready.column]
    omega
  have hput : t.display device [character] = t.put device character := by
    rw [display_cons, display_nil, receive, if_neg hnewline]
    unfold feed
    rw [if_neg hbeyond, hready.parser]
    show (if character = 27 then _ else if character = 13 then _ else if character = 10 then _ else
      if 32 ≤ character ∧ character ≠ 127 then t.print device character else t) = _
    rw [if_neg hescape, if_neg hreturn, if_neg hnewline, if_pos ⟨h.1, UInt8.ne_of_lt h.2⟩, print, hwrapping]
    rfl
  rw [hput]
  refine ⟨⟨hready.parser, hready.row, hfits, ?_, ?_, hready.rendition⟩, ?_, rfl⟩
  · show (if t.column + 1 < device.width then t.column + 1 else t.column) = _
    rw [hcolumn]
    split <;> omega
  · show (!decide (t.column + 1 < device.width)) = _
    rw [hcolumn, ← decide_not]
    exact decide_eq_decide.mpr (by omega)
  · funext r c
    show (if r = t.row ∧ c = t.column then _ else _) = _
    rw [hready.row, hcolumn, hready.rendition, overlay]
    by_cases hrow : r = row
    · rcases Nat.lt_trichotomy c position with hless | hequal | hmore
      · rw [if_neg (by omega), if_neg (by omega)]
      · rw [if_pos ⟨hrow, hequal⟩, if_pos ⟨hrow, by omega⟩, hequal, Nat.sub_self]
        rfl
      · have hbeyond : ([⟨character, rendition⟩] : List Cell)[c - position]? = none :=
          List.getElem?_eq_none (by rw [List.length_singleton]; omega)
        rw [if_neg (by omega), if_pos ⟨hrow, by omega⟩, hbeyond, Option.getD_none]
    · rw [if_neg fun h => hrow h.1, if_neg fun h => hrow h.1]

/-- Printable text. -/
theorem draws_text {text : List UInt8} (h : ∀ byte ∈ text, 32 ≤ byte ∧ byte < 127)
    (rendition : List (List UInt8)) :
    Draws device rendition text (text.map fun byte => ⟨byte, rendition⟩) rendition := by
  induction text with
  | nil => exact Draws.nil rendition
  | cons byte text ih =>
      obtain ⟨hbyte, htext⟩ := List.forall_mem_cons.mp h
      exact (draws_character hbyte rendition).append (ih htext)

/-! ### Control sequences -/

/-- A control sequence: ESC, '[', parameters and a last byte. -/
def sequence (parameters : List UInt8) (final : UInt8) : List UInt8 := 27 :: 91 :: (parameters ++ [final])

/-- A last byte of a control sequence. -/
def IsFinal (byte : UInt8) : Prop := 64 ≤ byte ∧ byte < 127

instance (byte : UInt8) : Decidable (IsFinal byte) := inferInstanceAs (Decidable (64 ≤ byte ∧ byte < 127))

theorem IsParameter.low {byte : UInt8} (h : IsParameter byte) : ¬(128 ≤ byte) := by
  intro hhigh
  exact absurd (UInt8.le_trans hhigh h.2) (by decide)

theorem IsFinal.low {byte : UInt8} (h : IsFinal byte) : ¬(128 ≤ byte) := by
  intro hhigh
  exact absurd (UInt8.lt_of_lt_of_le h.2 (UInt8.le_trans (by decide) hhigh)) (UInt8.lt_irrefl _)

theorem IsFinal.not_parameter {byte : UInt8} (h : IsFinal byte) : ¬IsParameter byte := by
  intro hparameter
  exact absurd (UInt8.le_trans h.1 hparameter.2) (by decide)

theorem IsFinal.ne_newline {byte : UInt8} (h : IsFinal byte) : byte ≠ 10 := by
  rintro rfl
  exact absurd h.1 (by decide)

theorem IsParameter.ne_newline {byte : UInt8} (h : IsParameter byte) : byte ≠ 10 := by
  rintro rfl
  exact absurd h (by decide)

theorem feed_parameter {t : Terminal} {taken : List UInt8} {byte : UInt8} (h : t.parser = .control taken)
    (hbyte : IsParameter byte) :
    t.feed device byte = { t with parser := .control (taken ++ [byte]) } := by
  unfold feed
  rw [if_neg hbyte.low, h]
  exact if_pos hbyte

theorem feed_final {t : Terminal} {taken : List UInt8} {final : UInt8} (h : t.parser = .control taken)
    (hfinal : IsFinal final) :
    t.feed device final = ({ t with parser := .ground } : Terminal).execute taken final := by
  unfold feed
  rw [if_neg hfinal.low, h]
  exact if_neg hfinal.not_parameter

theorem display_parameters {t : Terminal} {taken parameters : List UInt8} {final : UInt8}
    (hcontrol : t.parser = .control taken) (hparameters : ∀ byte ∈ parameters, IsParameter byte)
    (hfinal : IsFinal final) :
    t.display device (parameters ++ [final]) =
      ({ t with parser := .ground } : Terminal).execute (taken ++ parameters) final := by
  induction parameters generalizing t taken with
  | nil =>
      rw [List.nil_append, List.append_nil, display_cons, display_nil, receive, if_neg hfinal.ne_newline,
        feed_final hcontrol hfinal]
  | cons byte parameters ih =>
      obtain ⟨hbyte, hparameters⟩ := List.forall_mem_cons.mp hparameters
      rw [List.cons_append, display_cons, receive, if_neg hbyte.ne_newline, feed_parameter hcontrol hbyte,
        ih rfl hparameters, List.append_assoc, List.singleton_append]

/-- A control sequence is executed when its last byte has come. -/
theorem display_sequence {t : Terminal} {parameters : List UInt8} {final : UInt8}
    (hground : t.parser = .ground) (hparameters : ∀ byte ∈ parameters, IsParameter byte)
    (hfinal : IsFinal final) :
    t.display device (sequence parameters final) = t.execute parameters final := by
  have hstart : (t.receive device 27).receive device 91 = { t with parser := .control [] } := by
    show ((t.feed device 27).feed device 91) = _
    have hescape : t.feed device 27 = { t with parser := .escape } := by
      unfold feed
      rw [if_neg (by decide), hground]
      rfl
    rw [hescape]
    rfl
  rw [sequence, display_cons, display_cons, hstart, display_parameters rfl hparameters hfinal, List.nil_append,
    ← hground]

/-- A rendition is set where the cursor is. -/
theorem draws_rendition {parameters : List UInt8} (h : ∀ byte ∈ parameters, IsParameter byte)
    (rendition : List (List UInt8)) :
    Draws device rendition (sequence parameters 109) []
      (if parameters = [48] then [] else rendition ++ [parameters]) := by
  intro t row position hready _
  rw [display_sequence hready.parser h (by decide), overlay_nil]
  refine ⟨⟨hready.parser, hready.row, hready.fits, hready.column, hready.wrapping, ?_⟩, rfl, rfl⟩
  show (if parameters = [48] then [] else t.rendition ++ [parameters]) = _
  rw [hready.rendition]

/-- Text between a rendition and its end. -/
theorem draws_rendered {parameters text : List UInt8} (hparameters : ∀ byte ∈ parameters, IsParameter byte)
    (hset : parameters ≠ [48]) (htext : ∀ byte ∈ text, 32 ≤ byte ∧ byte < 127) :
    Draws device [] (sequence parameters 109 ++ text ++ sequence [48] 109)
      (text.map fun byte => ⟨byte, [parameters]⟩) [] := by
  have hon : Draws device [] (sequence parameters 109) [] [parameters] := by
    have hrendition : Draws device [] (sequence parameters 109) [] (if parameters = [48] then [] else _) :=
      draws_rendition hparameters []
    rwa [if_neg hset] at hrendition
  have hoff : Draws device [parameters] (sequence [48] 109) [] [] :=
    draws_rendition (List.all_iff_forall_prop.mp (by decide)) [parameters]
  have hall := (hon.append (draws_text htext [parameters])).append hoff
  rwa [List.nil_append, List.append_nil] at hall

/-! ### Pages -/

/-- The cells of a page that is drawn into the upper left corner of an empty screen. -/
def pageCells (page : List (List Cell)) (row column : Nat) : Cell :=
  ((page[row]?).bind fun drawn => drawn[column]?).getD blank

/-- Lines over what was there. -/
def overlayLines (cells : Nat → Nat → Cell) (row : Nat) (page : List (List Cell)) : Nat → Nat → Cell :=
  fun r c =>
    if row ≤ r then ((page[r - row]?).bind fun drawn => drawn[c]?).getD (cells r c) else cells r c

theorem overlayLines_cons (cells : Nat → Nat → Cell) (row : Nat) (line : List Cell) (page : List (List Cell)) :
    overlayLines (overlay cells row 0 line) (row + 1) page = overlayLines cells row (line :: page) := by
  funext r c
  unfold overlayLines overlay
  rcases Nat.lt_trichotomy r row with hless | rfl | hmore
  · rw [if_neg (by omega), if_neg (by omega), if_neg (by omega)]
  · rw [if_neg (by omega), if_pos ⟨rfl, Nat.zero_le c⟩, if_pos (Nat.le_refl r), Nat.sub_self, Nat.sub_zero,
      List.getElem?_cons_zero, Option.bind_some]
  · have hindex : r - row = (r - (row + 1)) + 1 := by omega
    rw [if_pos (by omega), if_neg (by omega), if_pos (by omega), hindex, List.getElem?_cons_succ]

/-- A line feed changes neither the rendition nor the cursor's visibility, wherever the cursor is. -/
theorem lineFeed_kept (t : Terminal) :
    (t.lineFeed device).rendition = t.rendition ∧ (t.lineFeed device).visible = t.visible := by
  unfold lineFeed
  split <;> exact ⟨rfl, rfl⟩

/-- The line discipline makes of a newline a carriage return and a line feed. -/
theorem display_newline_eq {t : Terminal} (hground : t.parser = .ground) :
    t.display device [10] = t.carriageReturn.lineFeed device := by
  show (t.feed device 13).feed device 10 = _
  have hreturn : t.feed device 13 = t.carriageReturn := by
    unfold feed
    rw [if_neg (by decide), hground]
    rfl
  have hparser : t.carriageReturn.parser = .ground := hground
  rw [hreturn, feed, if_neg (by decide), hparser]
  rfl

/-- A new line begins below. -/
theorem display_newline {t : Terminal} {row position : Nat} {rendition : List (List UInt8)}
    (h : Ready device.width t row position rendition) (hwidth : 0 < device.width) (hrow : row + 1 < device.height) :
    Ready device.width (t.display device [10]) (row + 1) 0 rendition ∧
      (t.display device [10]).cells = t.cells ∧ (t.display device [10]).visible = t.visible := by
  have hdisplay : t.display device [10] =
      { t with row := t.row + 1, column := 0, wrapping := false } := by
    rw [display_newline_eq h.parser, lineFeed]
    exact if_pos (by rw [← h.row] at hrow; exact hrow)
  rw [hdisplay]
  refine ⟨⟨h.parser, congrArg (· + 1) h.row, Nat.zero_le device.width, (Nat.zero_min _).symm, ?_, h.rendition⟩,
    rfl, rfl⟩
  exact (decide_eq_false (by omega)).symm

/-- Lines that fit are drawn one below the other. -/
theorem display_lines (hwidth : 0 < device.width) :
    ∀ (lines : List (List UInt8 × List Cell)) (t : Terminal) (row : Nat), Ready device.width t row 0 [] →
      (∀ line ∈ lines, Draws device [] line.1 line.2 [] ∧ line.2.length ≤ device.width) →
      row + lines.length < device.height →
      Ready device.width (t.display device (lines.flatMap fun line => line.1 ++ [10])) (row + lines.length) 0 [] ∧
        (t.display device (lines.flatMap fun line => line.1 ++ [10])).cells =
          overlayLines t.cells row (lines.map Prod.snd) ∧
        (t.display device (lines.flatMap fun line => line.1 ++ [10])).visible = t.visible := by
  intro lines
  induction lines with
  | nil =>
      intro t row hready _ _
      refine ⟨hready, ?_, rfl⟩
      funext r c
      simp [overlayLines]
  | cons line lines ih =>
      intro t row hready hlines hfits
      obtain ⟨⟨hdraws, hlength⟩, hlines⟩ := List.forall_mem_cons.mp hlines
      rw [List.length_cons] at hfits ⊢
      obtain ⟨hdrawn, hcells, hvisible⟩ := hdraws t row 0 hready (by omega)
      obtain ⟨hnext, hkept, hstill⟩ := display_newline hdrawn hwidth (by omega)
      obtain ⟨hrest, hover, hlast⟩ := ih _ (row + 1) hnext hlines (by omega)
      rw [List.flatMap_cons, display_append, display_append]
      refine ⟨?_, ?_, hlast.trans (hstill.trans hvisible)⟩
      · rwa [Nat.add_right_comm, Nat.add_assoc] at hrest
      · rw [hover, hkept, hcells, overlayLines_cons, List.map_cons]

/-- The screen shows a page, the cursor stands below it. -/
structure Shows (device : Device) (t : Terminal) (page : List (List Cell)) : Prop where
  ready : Ready device.width t page.length 0 []
  cells : t.cells = pageCells page

/-- Pages of one length of line follow one another without a trace: home, the lines, and what is below them
erased. -/
theorem Shows.redraw {length : Nat} (hwidth : 0 < device.width) (hlength : length ≤ device.width) {t : Terminal}
    {page : List (List Cell)} (h : Shows device t page) (hold : ∀ line ∈ page, line.length = length)
    {lines : List (List UInt8 × List Cell)}
    (hlines : ∀ line ∈ lines, Draws device [] line.1 line.2 [] ∧ line.2.length = length)
    (hfits : lines.length < device.height) :
    Shows device (t.display device (sequence [] 72 ++ (lines.flatMap fun line => line.1 ++ [10]) ++
        sequence [] 74)) (lines.map Prod.snd) ∧
      (t.display device (sequence [] 72 ++ (lines.flatMap fun line => line.1 ++ [10]) ++
        sequence [] 74)).visible = t.visible := by
  have hnone : ∀ byte ∈ ([] : List UInt8), IsParameter byte := List.forall_mem_nil _
  have hhome : t.display device (sequence [] 72) = t.home :=
    display_sequence h.ready.parser hnone (by decide)
  have hready : Ready device.width t.home 0 0 [] :=
    ⟨h.ready.parser, rfl, Nat.zero_le device.width, (Nat.zero_min _).symm,
      (decide_eq_false (by omega)).symm, h.ready.rendition⟩
  obtain ⟨hdrawn, hcells, hvisible⟩ := display_lines hwidth lines t.home 0 hready
    (fun line hline => ⟨(hlines line hline).1, (hlines line hline).2 ▸ hlength⟩) (by omega)
  rw [display_append, display_append, hhome, display_sequence hdrawn.parser hnone (by decide)]
  rw [Nat.zero_add] at hdrawn
  generalize t.home.display device (lines.flatMap fun line => line.1 ++ [10]) = s at hdrawn hcells hvisible
  refine ⟨⟨?_, ?_⟩, hvisible⟩
  · rw [List.length_map]
    exact ⟨hdrawn.parser, hdrawn.row, hdrawn.fits, hdrawn.column, hdrawn.wrapping, hdrawn.rendition⟩
  · funext r c
    show (if s.row < r ∨ r = s.row ∧ s.column ≤ c then blank else s.cells r c) = _
    have hcolumn : s.column = 0 := by rw [hdrawn.column, Nat.zero_min]
    rw [hdrawn.row, hcolumn, hcells, overlayLines, if_pos (Nat.zero_le r), Nat.sub_zero]
    by_cases hr : r < lines.length
    · have hline : (lines.map Prod.snd)[r]? = some lines[r].2 := by
        rw [List.getElem?_map, List.getElem?_eq_getElem hr]
        rfl
      rw [if_neg (by omega), pageCells, hline, Option.bind_some]
      by_cases hc : c < length
      · have hsome : (lines[r].2)[c]?.isSome = true := by
          rw [List.getElem?_eq_getElem (by rw [(hlines _ (List.getElem_mem hr)).2]; exact hc)]
          rfl
        obtain ⟨cell, hcell⟩ := Option.isSome_iff_exists.mp hsome
        rw [hcell, Option.getD_some, Option.getD_some]
      · have hshort : (lines[r].2)[c]? = none :=
          List.getElem?_eq_none (by rw [(hlines _ (List.getElem_mem hr)).2]; omega)
        have hbefore : (page[r]?).bind (fun drawn => drawn[c]?) = none := by
          cases hpage : page[r]? with
          | none => rfl
          | some line =>
              have hmem : line ∈ page := List.mem_of_getElem? hpage
              exact List.getElem?_eq_none (by rw [hold line hmem]; omega)
        have hhomeCells : t.home.cells r c = blank := by
          show t.cells r c = blank
          rw [h.cells, pageCells, hbefore]
          rfl
        rw [hshort, Option.getD_none, Option.getD_none, hhomeCells]
    · have hbeyond : (lines.map Prod.snd)[r]? = none :=
        List.getElem?_eq_none (by rw [List.length_map]; omega)
      rw [if_pos (by omega), pageCells, hbeyond]
      rfl

end Device

end Terminal

end OnboardAutonomy.Terminals
