import OnboardAutonomy.ConsoleText
import OnboardAutonomy.Lines
import OnboardAutonomy.Terminal

/-! `ConsoleSnapshotSink`: the screen on a live terminal, drawn over the screen before it, or written out behind
it. On a terminal the last snapshot stays on the screen and nothing of those before it; what is written out can
be split into the screens again. -/

namespace OnboardAutonomy.ConsoleView

open Terminals

inductive ConsoleOutputMode where
  | plain
  | terminal
  deriving DecidableEq

structure ConsoleSnapshotSink where
  transportDescription : Bytes
  boardTypeResolver : Option BoardTypeResolver
  options : ConsoleViewOptions
  outputMode : ConsoleOutputMode

namespace ConsoleSnapshotSink

/-- The constructor, and what it writes. -/
def create (transportDescription : Bytes) (boardTypeResolver : Option BoardTypeResolver)
    (options : ConsoleViewOptions) (outputMode : ConsoleOutputMode) : ConsoleSnapshotSink × Bytes :=
  match outputMode with
  | .terminal =>
      (⟨transportDescription, boardTypeResolver, options, outputMode⟩, literal "\x1b[2J\x1b[H\x1b[?25l")
  | .plain =>
      (⟨transportDescription, boardTypeResolver, { options with useColor := false }, outputMode⟩, [])

def consume (sink : ConsoleSnapshotSink) (snapshot : ScreenSnapshot) : Bytes :=
  (if sink.outputMode = .terminal then literal "\x1b[H" else []) ++
    renderConsole snapshot sink.transportDescription sink.options sink.boardTypeResolver ++
    if sink.outputMode = .terminal then literal "\x1b[J" else [newline]

/-- What the destructor writes. -/
def destroy (sink : ConsoleSnapshotSink) : Bytes :=
  if sink.outputMode = .terminal then literal "\x1b[?25h\x1b[0m\n" else []

end ConsoleSnapshotSink

/-! ### The cells of a screen -/

def ansiParameters : Tone → Bytes
  | .normal => [57, 55]
  | .good => [57, 50]
  | .waiting => [57, 51]
  | .bad => [57, 49]
  | .accent => [57, 54]
  | .chrome => [57, 52]
  | .dim => [57, 48]

theorem ansiCode_eq (tone : Tone) : ansiCode tone = Terminal.sequence (ansiParameters tone) 109 := by
  cases tone <;> decide

theorem ansiParameters_spec (tone : Tone) :
    (∀ byte ∈ ansiParameters tone, Terminal.IsParameter byte) ∧ ansiParameters tone ≠ [48] := by
  cases tone <;> exact ⟨List.all_iff_forall_prop.mp (by decide), by decide⟩

/-- Text in a tone. -/
def ink (useColor : Bool) (tone : Tone) (text : Bytes) : List Cell :=
  text.map fun byte => ⟨byte, if useColor then [ansiParameters tone] else []⟩

@[simp] theorem ink_length (useColor : Bool) (tone : Tone) (text : Bytes) :
    (ink useColor tone text).length = text.length := List.length_map _

@[simp] theorem ink_characters (useColor : Bool) (tone : Tone) (text : Bytes) :
    (ink useColor tone text).map Cell.character = text := by
  rw [ink, List.map_map]
  exact List.map_id text

theorem draws_paint {device : Device} {text : Bytes} (h : Plain text) (tone : Tone) (useColor : Bool) :
    Terminal.Draws device [] (paint text tone useColor) (ink useColor tone text) [] := by
  cases useColor with
  | false => exact Terminal.draws_text h []
  | true =>
      obtain ⟨hparameters, hset⟩ := ansiParameters_spec tone
      have hreset : literal "\x1b[0m" = Terminal.sequence [48] 109 := by decide
      show Terminal.Draws device [] (ansiCode tone ++ text ++ literal "\x1b[0m") _ []
      rw [ansiCode_eq, hreset]
      exact Terminal.draws_rendered hparameters hset h

namespace ScreenPart

/-- The lines that a part draws, as cells. -/
def page (useColor : Bool) : ScreenPart → List (List Cell)
  | .border title =>
      [ink useColor .chrome (literal "+" ++ borderLabel title ++
        List.replicate (kInnerWidth - (borderLabel title).length) 45 ++ literal "+")]
  | .line value tone =>
      (contentFields value).map fun field =>
        ink useColor .chrome (literal "| ") ++ ink useColor tone field ++ ink useColor .chrome (literal " |")

theorem page_lines (part : ScreenPart) (useColor : Bool) :
    (part.page useColor).map (List.map Cell.character) = part.lines := by
  cases part with
  | border title =>
      rw [page, lines, List.map_singleton, ink_characters]
  | line value tone =>
      rw [page, lines, List.map_map]
      apply List.map_congr_left
      intro field _
      simp only [Function.comp_apply, List.map_append, ink_characters]

/-- What a part writes are lines that draw its cells. -/
theorem write_draws (device : Device) (part : ScreenPart) (useColor : Bool)
    (hplain : ∀ line ∈ part.lines, Plain line) :
    ∃ drawing : List (Bytes × List Cell),
      (part.write useColor = drawing.flatMap fun line => line.1 ++ [10]) ∧
      drawing.map Prod.snd = part.page useColor ∧
      ∀ line ∈ drawing, Terminal.Draws device [] line.1 line.2 [] := by
  cases part with
  | border title =>
      refine ⟨(ScreenPart.border title).lines.map fun line =>
        (paint line .chrome useColor, ink useColor .chrome line), ?_, rfl, ?_⟩
      · exact (List.flatMap_singleton ..).symm
      · intro line hline
        obtain ⟨text, htext, rfl⟩ := List.mem_map.mp hline
        exact draws_paint (hplain text htext) .chrome useColor
  | line value tone =>
      refine ⟨(contentFields value).map fun field =>
        (paint (literal "| ") .chrome useColor ++ paint field tone useColor ++ paint (literal " |") .chrome useColor,
          ink useColor .chrome (literal "| ") ++ ink useColor tone field ++
            ink useColor .chrome (literal " |")), ?_, ?_, ?_⟩
      · rw [List.flatMap_map, contentFields, List.flatMap_map]
        rfl
      · rw [List.map_map]
        rfl
      · intro line hline
        obtain ⟨field, hfield, rfl⟩ := List.mem_map.mp hline
        have hwhole := hplain _ (List.mem_map.mpr ⟨field, hfield, rfl⟩)
        rw [plain_append, plain_append] at hwhole
        obtain ⟨⟨hleft, hfield⟩, hright⟩ := hwhole
        exact ((draws_paint hleft .chrome useColor).append (draws_paint hfield tone useColor)).append
          (draws_paint hright .chrome useColor)

end ScreenPart

/-- The cells of the whole screen. -/
def screenPage (snapshot : ScreenSnapshot) (transportDescription : Bytes) (options : ConsoleViewOptions)
    (resolver : Option BoardTypeResolver) : List (List Cell) :=
  (screenParts snapshot transportDescription options.interactiveInput resolver).flatMap
    (ScreenPart.page options.useColor)

section Screen

variable (snapshot : ScreenSnapshot) (transportDescription : Bytes) (options : ConsoleViewOptions)
  (resolver : Option BoardTypeResolver)

/-- The lines of the screen without colour. -/
def screenLines : List Bytes :=
  (screenParts snapshot transportDescription options.interactiveInput resolver).flatMap ScreenPart.lines

theorem screenPage_lines :
    (screenPage snapshot transportDescription options resolver).map (List.map Cell.character) =
      screenLines snapshot transportDescription options resolver := by
  rw [screenPage, screenLines, List.map_flatMap]
  exact List.flatMap_congr fun part _ => part.page_lines options.useColor

theorem screenLines_spec : ∀ line ∈ screenLines snapshot transportDescription options resolver,
    line.length = kConsoleWidth ∧ Drawable line := by
  intro line hline
  obtain ⟨part, hpart, hline⟩ := List.mem_flatMap.mp hline
  exact ScreenPart.lines_spec (screenParts_wellFormed _ _ _ _ part hpart) line hline

theorem screenPage_length : ∀ line ∈ screenPage snapshot transportDescription options resolver,
    line.length = kConsoleWidth := by
  intro line hline
  have hmem : line.map Cell.character ∈ screenLines snapshot transportDescription options resolver := by
    rw [← screenPage_lines]
    exact List.mem_map.mpr ⟨line, hline, rfl⟩
  rw [← (screenLines_spec _ _ _ _ _ hmem).1, List.length_map]

theorem renderConsole_screenLines : renderConsole snapshot transportDescription ⟨false, options.interactiveInput⟩
    resolver = (screenLines snapshot transportDescription options resolver).flatMap fun line =>
      line ++ [newline] :=
  renderConsole_lines snapshot transportDescription options.interactiveInput resolver

/-- The screen holds ASCII only. -/
def Ascii : Prop :=
  ∀ line ∈ screenLines snapshot transportDescription options resolver, ∀ byte ∈ line, byte < 128

variable {snapshot transportDescription options resolver}

theorem Ascii.plain (h : Ascii snapshot transportDescription options resolver) :
    ∀ line ∈ screenLines snapshot transportDescription options resolver, Plain line := by
  intro line hline byte hbyte
  obtain ⟨hlow, hdelete⟩ := (screenLines_spec _ _ _ _ line hline).2 byte hbyte
  have hascii := h line hline byte hbyte
  refine ⟨hlow, ?_⟩
  rw [UInt8.lt_iff_toNat_lt] at hascii ⊢
  have hne : byte.toNat ≠ kDeleteCharacter.toNat := fun hequal => hdelete (UInt8.toNat_inj.mp hequal)
  have hdel : kDeleteCharacter.toNat = 127 := rfl
  have htop : (128 : UInt8).toNat = 128 := rfl
  omega

theorem renderConsole_draws (device : Device) (h : Ascii snapshot transportDescription options resolver) :
    ∃ drawing : List (Bytes × List Cell),
      (renderConsole snapshot transportDescription options resolver =
        drawing.flatMap fun line => line.1 ++ [10]) ∧
      drawing.map Prod.snd = screenPage snapshot transportDescription options resolver ∧
      ∀ line ∈ drawing, Terminal.Draws device [] line.1 line.2 [] := by
  have hplain := h.plain
  unfold renderConsole screenPage
  unfold screenLines at hplain
  generalize screenParts snapshot transportDescription options.interactiveInput resolver = parts at hplain
  induction parts with
  | nil => exact ⟨[], rfl, rfl, List.forall_mem_nil _⟩
  | cons part parts ih =>
      rw [List.flatMap_cons, List.forall_mem_append] at hplain
      obtain ⟨drawing, hwrite, hpage, hdraws⟩ := part.write_draws device options.useColor hplain.1
      obtain ⟨others, hothers, hpages, hall⟩ := ih hplain.2
      refine ⟨drawing ++ others, ?_, ?_, List.forall_mem_append.mpr ⟨hdraws, hall⟩⟩
      · rw [List.flatMap_cons, List.flatMap_append, hwrite, hothers]
      · rw [List.map_append, List.flatMap_cons, hpage, hpages]

end Screen

/-! ### On a terminal -/

section Live

variable {device : Device} {sink : ConsoleSnapshotSink}

/-- The terminal shows a page of full lines, without the cursor. -/
structure Live (device : Device) (t : Terminal) (page : List (List Cell)) : Prop where
  shows : Terminal.Shows device t page
  lines : ∀ line ∈ page, line.length = kConsoleWidth
  hidden : t.visible = false

/-- The constructor begins with an empty screen. -/
theorem live_create {t : Terminal} (hwidth : kConsoleWidth ≤ device.width) (hground : t.parser = .ground)
    (hrendition : t.rendition = []) :
    Live device (t.display device (literal "\x1b[2J\x1b[H\x1b[?25l")) [] := by
  have hopening : literal "\x1b[2J\x1b[H\x1b[?25l" =
      Terminal.sequence [50] 74 ++ Terminal.sequence [] 72 ++ Terminal.sequence [63, 50, 53] 108 := by decide
  have hpositive : 0 < kConsoleWidth := by decide
  rw [hopening, Terminal.display_append, Terminal.display_append,
    Terminal.display_sequence hground (List.all_iff_forall_prop.mp (by decide)) (by decide)]
  have hhome : (t.execute [50] 74).display device (Terminal.sequence [] 72) = t.eraseAll.home :=
    Terminal.display_sequence hground (List.all_iff_forall_prop.mp (by decide)) (by decide)
  have hhide : t.eraseAll.home.display device (Terminal.sequence [63, 50, 53] 108) =
      { t.eraseAll.home with visible := false } :=
    Terminal.display_sequence hground (List.all_iff_forall_prop.mp (by decide)) (by decide)
  rw [hhome, hhide]
  refine ⟨⟨⟨hground, rfl, Nat.zero_le device.width, (Nat.zero_min _).symm, ?_, hrendition⟩, ?_⟩,
    List.forall_mem_nil _, rfl⟩
  · exact (decide_eq_false (by omega)).symm
  · rfl

/-- A snapshot takes the place of what is shown. -/
theorem Live.consume {t : Terminal} {page : List (List Cell)} (h : Live device t page)
    (hmode : sink.outputMode = .terminal) (hwidth : kConsoleWidth ≤ device.width) {snapshot : ScreenSnapshot}
    (hascii : Ascii snapshot sink.transportDescription sink.options sink.boardTypeResolver)
    (hfits : (screenPage snapshot sink.transportDescription sink.options sink.boardTypeResolver).length <
      device.height) :
    Live device (t.display device (sink.consume snapshot))
      (screenPage snapshot sink.transportDescription sink.options sink.boardTypeResolver) := by
  have hpositive : 0 < kConsoleWidth := by decide
  have hlength := screenPage_length snapshot sink.transportDescription sink.options sink.boardTypeResolver
  obtain ⟨drawing, hrender, hpage, hdraws⟩ := renderConsole_draws device hascii
  have hhome : literal "\x1b[H" = Terminal.sequence [] 72 := by decide
  have herase : literal "\x1b[J" = Terminal.sequence [] 74 := by decide
  rw [ConsoleSnapshotSink.consume, if_pos hmode, if_pos hmode, hrender, hhome, herase]
  rw [← hpage] at hfits hlength ⊢
  rw [List.length_map] at hfits
  have hlines : ∀ line ∈ drawing,
      Terminal.Draws device [] line.1 line.2 [] ∧ line.2.length = kConsoleWidth := by
    intro line hline
    exact ⟨hdraws line hline, hlength _ (List.mem_map.mpr ⟨line, hline, rfl⟩)⟩
  obtain ⟨hshows, hvisible⟩ := h.shows.redraw (by omega) hwidth h.lines hlines hfits
  exact ⟨hshows, hlength, hvisible.trans h.hidden⟩

/-- What is shown after snapshots is the last of them. -/
theorem live_session (sink : ConsoleSnapshotSink) {t : Terminal} (hmode : sink.outputMode = .terminal)
    (hwidth : kConsoleWidth ≤ device.width)
    (hlive : Live device t []) (snapshots : List ScreenSnapshot)
    (hascii : ∀ snapshot ∈ snapshots,
      Ascii snapshot sink.transportDescription sink.options sink.boardTypeResolver)
    (hfits : ∀ snapshot ∈ snapshots,
      (screenPage snapshot sink.transportDescription sink.options sink.boardTypeResolver).length < device.height) :
    Live device (t.display device (snapshots.flatMap sink.consume))
      (snapshots.getLast?.elim [] fun snapshot =>
        screenPage snapshot sink.transportDescription sink.options sink.boardTypeResolver) := by
  induction snapshots using List.reverseRecOn with
  | nil => exact hlive
  | append_singleton snapshots snapshot ih =>
      obtain ⟨hbefore, hlast⟩ := List.forall_mem_append.mp hascii
      obtain ⟨hfitted, hfit⟩ := List.forall_mem_append.mp hfits
      rw [List.flatMap_append, List.flatMap_singleton, Terminal.display_append, List.getLast?_concat]
      exact (ih hbefore hfitted).consume hmode hwidth (hlast snapshot List.mem_cons_self)
        (hfit snapshot List.mem_cons_self)

/-- The destructor shows the cursor again, and ends every rendition; the screen stays as it is if there is a row
below it. -/
theorem Live.destroy {t : Terminal} {page : List (List Cell)} (h : Live device t page) (sink : ConsoleSnapshotSink)
    (hmode : sink.outputMode = .terminal) (hwidth : kConsoleWidth ≤ device.width) :
    (t.display device sink.destroy).visible = true ∧ (t.display device sink.destroy).rendition = [] ∧
      (page.length + 1 < device.height → (t.display device sink.destroy).cells = t.cells) := by
  have hpositive : 0 < kConsoleWidth := by decide
  have hclosing : literal "\x1b[?25h\x1b[0m\n" =
      Terminal.sequence [63, 50, 53] 104 ++ Terminal.sequence [48] 109 ++ [10] := by decide
  have hground := h.shows.ready.parser
  rw [ConsoleSnapshotSink.destroy, if_pos hmode, hclosing, Terminal.display_append, Terminal.display_append,
    Terminal.display_sequence hground (List.all_iff_forall_prop.mp (by decide)) (by decide)]
  have hreset : (t.execute [63, 50, 53] 104).display device (Terminal.sequence [48] 109) =
      { t with visible := true, rendition := [] } :=
    Terminal.display_sequence hground (List.all_iff_forall_prop.mp (by decide)) (by decide)
  rw [hreset]
  have hready : Terminal.Ready device.width ({ t with visible := true, rendition := [] } : Terminal)
      page.length 0 [] :=
    ⟨hground, h.shows.ready.row, h.shows.ready.fits, h.shows.ready.column, h.shows.ready.wrapping, rfl⟩
  refine ⟨?_, ?_, fun hbelow => ?_⟩
  · rw [Terminal.display_newline_eq hready.parser, (Terminal.lineFeed_kept _).2]
    rfl
  · rw [Terminal.display_newline_eq hready.parser, (Terminal.lineFeed_kept _).1]
    rfl
  · obtain ⟨-, hcells, -⟩ := Terminal.display_newline hready (by omega) hbelow
    exact hcells

/-- On a terminal of eighty columns or more, and of more rows than a screen has lines, that is not within a control
sequence and has no rendition set, whatever characters were on it before: after any snapshots with ASCII text the
terminal shows the last of them, each character in the rendition of its tone, and nothing else; the cursor is
hidden. The destructor shows the cursor again, ends every rendition and leaves the screen there if there is a row
below it. -/
theorem session_shown (device : Device) {t : Terminal} (transportDescription : Bytes)
    (resolver : Option BoardTypeResolver) (options : ConsoleViewOptions) (snapshots : List ScreenSnapshot)
    (last : ScreenSnapshot) (hwidth : 80 ≤ device.width) (hground : t.parser = .ground) (hrendition : t.rendition = [])
    (hascii : ∀ snapshot ∈ snapshots ++ [last], Ascii snapshot transportDescription options resolver)
    (hfits : ∀ snapshot ∈ snapshots ++ [last],
      (screenLines snapshot transportDescription options resolver).length < device.height) :
    let created := ConsoleSnapshotSink.create transportDescription resolver options .terminal
    let shown := t.display device (created.2 ++ (snapshots ++ [last]).flatMap created.1.consume)
    let left := shown.display device created.1.destroy
    let page := screenPage last transportDescription options resolver
    (∀ row column, shown.cells row column = ((page[row]?).bind fun drawn => drawn[column]?).getD blank) ∧
    page.map (List.map Cell.character) = screenLines last transportDescription options resolver ∧
    (shown.visible = false ∧ shown.rendition = []) ∧
    (left.visible = true ∧ left.rendition = []) ∧
    (page.length + 1 < device.height → left.cells = shown.cells) := by
  intro created shown left page
  have hrows : ∀ snapshot ∈ snapshots ++ [last],
      (screenPage snapshot transportDescription options resolver).length < device.height := by
    intro snapshot hsnapshot
    have hlines := hfits snapshot hsnapshot
    rwa [← screenPage_lines, List.length_map] at hlines
  have hlive : Live device shown page := by
    have hsession := live_session created.1 rfl hwidth (live_create hwidth hground hrendition)
      (snapshots ++ [last]) hascii hrows
    rw [List.getLast?_concat] at hsession
    show Live device (t.display device (created.2 ++ _)) page
    rw [Terminal.display_append]
    exact hsession
  obtain ⟨hvisible, hended, hkept⟩ := hlive.destroy created.1 rfl hwidth
  refine ⟨fun row column => ?_, screenPage_lines _ _ _ _, ⟨hlive.hidden, hlive.shows.ready.rendition⟩,
    ⟨hvisible, hended⟩, hkept⟩
  rw [hlive.shows.cells]
  rfl

end Live

/-- The screen before a flight controller has been found. -/
def waitingScreen : ScreenSnapshot where
  vehicle := { connected := false, warnings := [] }
  companionHeartbeatActive := false
  companionLinkFailsafe := ⟨.waitingForVehicle, literal "WAITING FOR VEHICLE", none, none⟩
  telemetry := ⟨.waitingForVehicle, 0, 4, "", 0, none⟩
  camera := none
  vision := none
  elapsed := 0
  txActivity := none
  rxActivity := none

/-- A terminal of the usual size with something on it. -/
theorem session_shown_waiting :
    let device : Device := ⟨80, 24, fun t _ => t⟩
    let t : Terminal := { cells := fun _ _ => ⟨120, []⟩, row := 23 }
    let created := ConsoleSnapshotSink.create [] none { useColor := true } .terminal
    let shown := t.display device (created.2 ++ ([waitingScreen] ++ [waitingScreen]).flatMap created.1.consume)
    shown.cells 3 0 = ⟨43, [[57, 52]]⟩ ∧ shown.cells 23 79 = blank ∧ shown.visible = false ∧
      (shown.display device created.1.destroy).visible = true ∧
      (shown.display device created.1.destroy).cells = shown.cells := by
  have hascii : Ascii waitingScreen [] { useColor := true } none := by
    show ∀ line ∈ screenLines waitingScreen [] { useColor := true } none, ∀ byte ∈ line, byte < 128
    decide +kernel
  have hfits : (screenLines waitingScreen [] { useColor := true } none).length < 23 := by decide +kernel
  have hboth : ∀ {P : ScreenSnapshot → Prop}, P waitingScreen → ∀ snapshot ∈ [waitingScreen] ++ [waitingScreen],
      P snapshot := by
    intro P h
    exact List.forall_mem_cons.mpr ⟨h, List.forall_mem_cons.mpr ⟨h, List.forall_mem_nil _⟩⟩
  obtain ⟨hcells, -, ⟨hhidden, -⟩, ⟨hvisible, -⟩, hleft⟩ := session_shown ⟨80, 24, fun t _ => t⟩
    (t := { cells := fun _ _ => ⟨120, []⟩, row := 23 }) [] none { useColor := true } [waitingScreen] waitingScreen
    (by decide) rfl rfl (hboth hascii) (hboth (Nat.lt_succ_of_lt hfits))
  refine ⟨(hcells 3 0).trans (by decide +kernel), (hcells 23 79).trans (by decide +kernel), hhidden, hvisible, hleft ?_⟩
  exact Nat.succ_lt_succ (by decide +kernel)

/-! ### In plain output -/

/-- Whatever bytes the snapshots hold: empty lines split the plain output into the screens, which have none, and
newlines split these into their lines. -/
theorem output_split (transportDescription : Bytes) (resolver : Option BoardTypeResolver)
    (options : ConsoleViewOptions) (snapshots : List ScreenSnapshot) :
    let created := ConsoleSnapshotSink.create transportDescription resolver options .plain
    let output := created.2 ++ snapshots.flatMap created.1.consume ++ created.1.destroy
    Lines.lines [] (Lines.lines newline output) = snapshots.map fun snapshot =>
      screenLines snapshot transportDescription options resolver := by
  intro created output
  have hspec := fun snapshot => screenLines_spec snapshot transportDescription options resolver
  have hconsume : ∀ snapshot, created.1.consume snapshot =
      (screenLines snapshot transportDescription options resolver ++ [[]]).flatMap fun line =>
        line ++ [newline] := by
    intro snapshot
    rw [List.flatMap_append, ← renderConsole_screenLines]
    rfl
  have hlines : Lines.Split newline output
      (snapshots.flatMap fun snapshot =>
        screenLines snapshot transportDescription options resolver ++ [[]]) [] := by
    refine ⟨?_, ?_, List.not_mem_nil⟩
    · rw [List.flatMap_assoc, ← List.flatMap_congr fun snapshot _ => hconsume snapshot]
      rfl
    · intro line hline
      obtain ⟨snapshot, -, hline⟩ := List.mem_flatMap.mp hline
      rcases List.mem_append.mp hline with hline | hline
      · exact (hspec snapshot line hline).2.not_mem (by decide)
      · rw [List.mem_singleton.mp hline]
        exact List.not_mem_nil
  have hscreens : Lines.Split []
      (snapshots.flatMap fun snapshot =>
        screenLines snapshot transportDescription options resolver ++ [[]])
      (snapshots.map fun snapshot => screenLines snapshot transportDescription options resolver) [] := by
    refine ⟨?_, ?_, List.not_mem_nil⟩
    · rw [List.flatMap_map, List.append_nil]
    · intro lines hlines hempty
      obtain ⟨snapshot, -, rfl⟩ := List.mem_map.mp hlines
      exact absurd (hspec snapshot [] hempty).1 (by decide)
  rw [hlines.lines_eq]
  show Lines.lines [] (_ ++ []) = _
  rw [List.append_nil, hscreens.lines_eq]
  exact List.append_nil _

end OnboardAutonomy.ConsoleView
