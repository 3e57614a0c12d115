import OnboardAutonomy.ConsoleView

/-! The layout of the screen. Without colour it is a list of lines of eighty bytes, with colour the same with
SGR sequences in between. The text of a line fills the content fields of as many lines as it needs. -/

namespace OnboardAutonomy.ConsoleView

open Wrapping

/-- Text without control characters below 128. -/
def Drawable (text : Bytes) : Prop := ∀ byte ∈ text, space ≤ byte ∧ byte ≠ kDeleteCharacter

instance (text : Bytes) : Decidable (Drawable text) := List.decidableBAll _ text

theorem Drawable.append {before after : Bytes} (hbefore : Drawable before) (hafter : Drawable after) :
    Drawable (before ++ after) := fun byte hbyte =>
  (List.mem_append.mp hbyte).elim (hbefore byte) (hafter byte)

theorem Drawable.not_mem {text : Bytes} (h : Drawable text) {byte : UInt8} (hbyte : ¬(space ≤ byte)) :
    byte ∉ text := fun hmem => hbyte (h byte hmem).1

theorem drawable_replicate (count : Nat) {byte : UInt8} (h : space ≤ byte ∧ byte ≠ kDeleteCharacter) :
    Drawable (List.replicate count byte) := fun _ hmem => List.eq_of_mem_replicate hmem ▸ h

/-- Printable ASCII. -/
def Plain (text : Bytes) : Prop := ∀ byte ∈ text, space ≤ byte ∧ byte < kDeleteCharacter

instance (text : Bytes) : Decidable (Plain text) := List.decidableBAll _ text

@[simp] theorem plain_append {before after : Bytes} : Plain (before ++ after) ↔ Plain before ∧ Plain after :=
  List.forall_mem_append

theorem Plain.drawable {text : Bytes} (h : Plain text) : Drawable text := fun byte hbyte =>
  ⟨(h byte hbyte).1, UInt8.ne_of_lt (h byte hbyte).2⟩

theorem drawable_printable (value : Bytes) : Drawable (printable value) := by
  intro byte hbyte
  obtain ⟨character, -, rfl⟩ := List.mem_map.mp hbyte
  split
  · assumption
  · decide

theorem fitted_length (value : Bytes) (width : Nat) : (fitted value width).length = width := by
  have htake := List.length_take_le width value
  rw [fitted, List.length_append, List.length_replicate]
  omega

theorem Drawable.fitted {value : Bytes} (h : Drawable value) (width : Nat) : Drawable (fitted value width) :=
  Drawable.append (fun byte hbyte => h byte (List.mem_of_mem_take hbyte)) (drawable_replicate _ (by decide))

/-- A content that fits is only padded. -/
theorem fitted_eq {value : Bytes} {width : Nat} (h : value.length ≤ width) :
    fitted value width = value ++ List.replicate (width - value.length) space := by
  rw [ConsoleView.fitted, List.take_of_length_le h]

theorem words_padding (value : Bytes) (count : Nat) :
    words space (value ++ List.replicate count space) = words space value := by
  cases count with
  | zero => rw [List.replicate_zero, List.append_nil]
  | succ count =>
      have hblank : words space (List.replicate count space) = [] := by
        have hdropped : words space _ = words space (List.replicate count space) := words_dropWhile _
        rw [← hdropped, List.dropWhile_eq_nil_iff.mpr]
        · rfl
        · intro byte hbyte
          rw [List.eq_of_mem_replicate hbyte]
          exact beq_self_eq_true space
      rw [List.replicate_succ, words_append, hblank, List.append_nil]

/-! ### Lines -/

/-- The contents of the lines of a text, padded to the field. -/
def contentFields (value : Bytes) : List Bytes :=
  (wrap space kContentWidth (printable value)).map fun content => fitted content kContentWidth

namespace ScreenPart

/-- The lines that a part draws without colour. -/
def lines : ScreenPart → List Bytes
  | .border title =>
      [literal "+" ++ borderLabel title ++ List.replicate (kInnerWidth - (borderLabel title).length) 45 ++
        literal "+"]
  | .line value _ => (contentFields value).map fun field => literal "| " ++ field ++ literal " |"

theorem write_lines (part : ScreenPart) :
    part.write false = part.lines.flatMap fun line => line ++ [newline] := by
  cases part with
  | border title => exact (List.flatMap_singleton ..).symm
  | line value tone =>
      rw [lines, contentFields, List.map_map, List.flatMap_map]
      rfl

/-- What makes the lines of a part come out at eighty bytes: the title of a border is short and plain. -/
def WellFormed : ScreenPart → Prop
  | .border title => Plain (borderLabel title) ∧ (borderLabel title).length ≤ kInnerWidth
  | .line _ _ => True

theorem border_plain {title : String} (h : Plain (borderLabel title)) :
    Plain (literal "+" ++ borderLabel title ++ List.replicate (kInnerWidth - (borderLabel title).length) 45 ++
      literal "+") := by
  have hdash : Plain (List.replicate (kInnerWidth - (borderLabel title).length) 45) := fun _ hmem =>
    List.eq_of_mem_replicate hmem ▸ by decide
  exact plain_append.mpr ⟨plain_append.mpr ⟨plain_append.mpr ⟨by decide, h⟩, hdash⟩, by decide⟩

theorem lines_spec {part : ScreenPart} (h : part.WellFormed) :
    ∀ line ∈ part.lines, line.length = kConsoleWidth ∧ Drawable line := by
  cases part with
  | border title =>
      obtain ⟨hplain, hshort⟩ := h
      intro line hline
      rw [List.mem_singleton.mp hline]
      refine ⟨?_, ?_⟩
      · rw [List.length_append, List.length_append, List.length_append, List.length_replicate]
        show 1 + (borderLabel title).length + (kInnerWidth - (borderLabel title).length) + 1 = kInnerWidth + 2
        omega
      · exact (border_plain hplain).drawable
  | line value tone =>
      intro line hline
      obtain ⟨field, hfield, rfl⟩ := List.mem_map.mp hline
      obtain ⟨content, hcontent, rfl⟩ := List.mem_map.mp hfield
      have hdrawable : Drawable content := fun byte hbyte =>
        drawable_printable value byte (mem_of_mem_wrap _ content hcontent byte hbyte)
      refine ⟨?_, ?_⟩
      · rw [List.length_append, List.length_append, fitted_length]
        rfl
      · exact ((by decide : Drawable (literal "| ")).append (hdrawable.fitted _)).append (by decide)

end ScreenPart

/-! ### The parts of the screen -/

def titles : List String := ["", "VEHICLE", "HEALTH", "CAMERA / VISION", "MAVLINK / LAST FRAME", "CONTROLS"]

theorem border_wellFormed : ∀ title ∈ titles, (ScreenPart.border title).WellFormed := by
  have hall : ∀ title ∈ titles, Plain (borderLabel title) ∧ (borderLabel title).length ≤ kInnerWidth := by
    decide
  exact hall

theorem writeVehicle_wellFormed (vehicle : VehicleSnapshot) (resolver : Option BoardTypeResolver) :
    ∀ part ∈ writeVehicle vehicle resolver, part.WellFormed := by
  simp only [writeVehicle, List.forall_mem_cons]
  exact ⟨border_wellFormed _ (by decide), trivial, trivial, trivial, trivial, List.forall_mem_nil _⟩

theorem writeHealth_wellFormed (snapshot : ScreenSnapshot) :
    ∀ part ∈ writeHealth snapshot, part.WellFormed := by
  simp only [writeHealth, List.forall_mem_append, List.forall_mem_cons, List.forall_mem_map]
  have hnil : ∀ part ∈ ([] : List ScreenPart), part.WellFormed := List.forall_mem_nil _
  refine ⟨⟨⟨border_wellFormed _ (by decide), trivial, trivial, hnil⟩, ?_⟩, fun _ _ => trivial⟩
  split
  · exact List.forall_mem_singleton.mpr trivial
  · exact hnil

theorem writeCameraAndVision_wellFormed (snapshot : ScreenSnapshot) :
    ∀ part ∈ writeCameraAndVision snapshot, part.WellFormed := by
  unfold writeCameraAndVision
  split
  · exact List.forall_mem_nil _
  · simp only [List.forall_mem_append]
    refine ⟨⟨List.forall_mem_singleton.mpr (border_wellFormed _ (by decide)), ?_⟩, ?_⟩
    · cases snapshot.camera with
      | none => exact List.forall_mem_nil _
      | some camera => exact List.forall_mem_cons.mpr ⟨trivial, List.forall_mem_singleton.mpr trivial⟩
    · cases snapshot.vision with
      | none => exact List.forall_mem_nil _
      | some vision => exact List.forall_mem_cons.mpr ⟨trivial, List.forall_mem_singleton.mpr trivial⟩

theorem screenParts_wellFormed (snapshot : ScreenSnapshot) (transportDescription : Bytes)
    (interactiveInput : Bool) (resolver : Option BoardTypeResolver) :
    ∀ part ∈ screenParts snapshot transportDescription interactiveInput resolver, part.WellFormed := by
  have hempty := border_wellFormed "" (by decide)
  have htraffic := border_wellFormed "MAVLINK / LAST FRAME" (by decide)
  have hcontrols : ∀ part ∈ writeControls interactiveInput, part.WellFormed := by
    refine List.forall_mem_cons.mpr ⟨border_wellFormed _ (by decide), List.forall_mem_singleton.mpr ?_⟩
    split <;> trivial
  have hnil : ∀ part ∈ ([] : List ScreenPart), part.WellFormed := List.forall_mem_nil _
  simp only [screenParts, List.forall_mem_append, List.forall_mem_cons]
  exact ⟨⟨⟨⟨⟨⟨⟨hempty, trivial, trivial, hnil⟩, writeVehicle_wellFormed _ _⟩, writeHealth_wellFormed _⟩,
    writeCameraAndVision_wellFormed _⟩, htraffic, trivial, trivial, hnil⟩, hcontrols⟩, hempty, hnil⟩

/-! ### Colour -/

/-- The bytes of the parameters of a control sequence that are digits, colons or semicolons. -/
def isSgrParameter (byte : UInt8) : Bool := decide (48 ≤ byte ∧ byte ≤ 59)

/-- What follows the SGR sequence that a text begins with: ESC, '[', parameters and 'm'. -/
def afterSgr : Bytes → Option Bytes
  | 27 :: 91 :: rest =>
      match rest.dropWhile isSgrParameter with
      | 109 :: after => some after
      | _ => none
  | _ => none

theorem afterSgr_length {text after : Bytes} (h : afterSgr text = some after) : after.length < text.length := by
  rw [afterSgr.eq_def] at h
  split at h
  · rename_i rest
    split at h
    · rename_i hdrop
      have hle : (rest.dropWhile isSgrParameter).length ≤ rest.length := (List.dropWhile_suffix _).length_le
      rw [hdrop, Option.some.inj h] at hle
      rw [List.length_cons] at hle ⊢
      rw [List.length_cons]
      omega
    · cases h
  · cases h

/-- A text without its SGR sequences. -/
def deleteSgr (text : Bytes) : Bytes :=
  match _hafter : afterSgr text with
  | some after => deleteSgr after
  | none =>
      match text with
      | [] => []
      | byte :: rest => byte :: deleteSgr rest
termination_by text.length
decreasing_by
  · exact afterSgr_length (by assumption)
  · exact Nat.lt_succ_self _

theorem deleteSgr_sgr {text after : Bytes} (h : afterSgr text = some after) :
    deleteSgr text = deleteSgr after := by
  rw [deleteSgr]
  split
  · rename_i hsome
    rw [Option.some.inj (h.symm.trans hsome)]
  · rename_i hnone
    cases h.symm.trans hnone

theorem deleteSgr_cons {byte : UInt8} (rest : Bytes) (h : byte ≠ 27) :
    deleteSgr (byte :: rest) = byte :: deleteSgr rest := by
  have hnone : afterSgr (byte :: rest) = none := by
    rw [afterSgr.eq_def]
    split
    · rename_i heq
      exact absurd (List.cons.inj heq).1 h
    · rfl
  rw [deleteSgr]
  split
  · rename_i hsome
    cases hnone.symm.trans hsome
  · rfl

theorem deleteSgr_append {text : Bytes} (rest : Bytes) (h : (27 : UInt8) ∉ text) :
    deleteSgr (text ++ rest) = text ++ deleteSgr rest := by
  induction text with
  | nil => rfl
  | cons byte text ih =>
      obtain ⟨hne, hfree⟩ := not_or.mp fun hor => h (List.mem_cons.mpr hor)
      rw [List.cons_append, deleteSgr_cons _ (Ne.symm hne), ih hfree, List.cons_append]

theorem deleteSgr_paint {value : Bytes} (tone : Tone) (rest : Bytes) (h : (27 : UInt8) ∉ value) :
    deleteSgr (paint value tone true ++ rest) = value ++ deleteSgr rest := by
  have hcode : ∀ after, afterSgr (ansiCode tone ++ after) = some after := by
    intro after
    cases tone <;> rfl
  have hreset : ∀ after, afterSgr (literal "\x1b[0m" ++ after) = some after := fun _ => rfl
  show deleteSgr (ansiCode tone ++ value ++ literal "\x1b[0m" ++ rest) = _
  rw [List.append_assoc, List.append_assoc, deleteSgr_sgr (hcode _), deleteSgr_append _ h,
    deleteSgr_sgr (hreset _)]

theorem Drawable.free {text : Bytes} (h : Drawable text) : (27 : UInt8) ∉ text := h.not_mem (by decide)

/-- Deleting the colour of a part leaves what it draws without colour. -/
theorem deleteSgr_write {part : ScreenPart} (h : part.WellFormed) (rest : Bytes) :
    deleteSgr (part.write true ++ rest) = part.write false ++ deleteSgr rest := by
  have hnewline : ∀ after, deleteSgr ([newline] ++ after) = [newline] ++ deleteSgr after := fun after =>
    deleteSgr_append after (by decide)
  cases part with
  | border title =>
      have hline := (ScreenPart.lines_spec h _ (List.mem_singleton.mpr rfl)).2.free
      calc deleteSgr ((ScreenPart.border title).write true ++ rest)
          = deleteSgr (paint _ .chrome true ++ ([newline] ++ rest)) := by rw [← List.append_assoc]; rfl
        _ = (ScreenPart.border title).write false ++ deleteSgr rest := by
          rw [deleteSgr_paint _ _ hline, hnewline, ← List.append_assoc]
          rfl
  | line value tone =>
      have hcontents : ∀ contents : List Bytes, (∀ content ∈ contents, Drawable content) →
          deleteSgr ((contents.flatMap fun content => writeContent content tone true) ++ rest) =
            (contents.flatMap fun content => writeContent content tone false) ++ deleteSgr rest := by
        intro contents
        induction contents with
        | nil =>
            intro _
            rfl
        | cons content contents ih =>
            intro hall
            obtain ⟨hcontent, hall⟩ := List.forall_mem_cons.mp hall
            have hleft : (27 : UInt8) ∉ literal "| " := by decide
            have hright : (27 : UInt8) ∉ literal " |" := by decide
            rw [List.flatMap_cons, List.flatMap_cons, List.append_assoc, writeContent, List.append_assoc,
              List.append_assoc, List.append_assoc, deleteSgr_paint _ _ hleft,
              deleteSgr_paint _ _ (hcontent.fitted kContentWidth).free, deleteSgr_paint _ _ hright, hnewline,
              ih hall, writeContent]
            simp only [List.append_assoc]
            rfl
      exact hcontents _ fun content hcontent byte hbyte =>
        drawable_printable value byte (mem_of_mem_wrap _ content hcontent byte hbyte)

theorem deleteSgr_screen (parts : List ScreenPart) (h : ∀ part ∈ parts, part.WellFormed) :
    deleteSgr (parts.flatMap (ScreenPart.write true)) = parts.flatMap (ScreenPart.write false) := by
  induction parts with
  | nil => rw [List.flatMap_nil, List.flatMap_nil, deleteSgr]; rfl
  | cons part parts ih =>
      obtain ⟨hpart, hparts⟩ := List.forall_mem_cons.mp h
      rw [List.flatMap_cons, List.flatMap_cons, deleteSgr_write hpart, ih hparts]

/-! ### Whole lines and the whole screen -/

theorem writeLine_fields (value : Bytes) (tone : Tone) : writeLine value tone false =
    (contentFields value).flatMap fun field => literal "| " ++ field ++ literal " |" ++ [newline] := by
  rw [contentFields, List.flatMap_map]
  rfl

theorem contentFields_length (value : Bytes) : ∀ field ∈ contentFields value, field.length = kContentWidth := by
  intro field hfield
  obtain ⟨content, -, rfl⟩ := List.mem_map.mp hfield
  exact fitted_length content kContentWidth

theorem contentFields_words (value : Bytes) :
    (contentFields value).flatMap (words space) = lineWords kContentWidth space (printable value) := by
  rw [← wrap_words, contentFields, List.flatMap_map]
  apply List.flatMap_congr
  intro content hcontent
  rw [fitted_eq (wrap_length_le _ content hcontent), words_padding]

/-- The bytes of the fields that are no spaces. -/
theorem contentFields_filter (value : Bytes) :
    ((contentFields value).flatten.filter fun byte => byte != space) =
      (printable value).filter fun byte => byte != space := by
  have hfield : ∀ content ∈ wrap space kContentWidth (printable value),
      ((fitted content kContentWidth).filter fun byte => byte != space) =
        content.filter fun byte => byte != space := by
    intro content hcontent
    have hpadding : ((List.replicate (kContentWidth - content.length) space).filter fun byte => byte != space) =
        [] := by
      rw [List.filter_eq_nil_iff]
      intro byte hbyte
      rw [List.eq_of_mem_replicate hbyte]
      decide
    rw [fitted_eq (wrap_length_le _ content hcontent), List.filter_append, hpadding, List.append_nil]
  have hwrap : ((wrap space kContentWidth (printable value)).flatten.filter fun byte => byte != space) =
      (printable value).filter fun byte => byte != space := wrap_filter _
  rw [← hwrap, List.filter_flatten, List.filter_flatten, contentFields, List.map_map]
  exact congrArg List.flatten (List.map_congr_left hfield)

theorem renderConsole_lines (snapshot : ScreenSnapshot) (transportDescription : Bytes) (interactiveInput : Bool)
    (resolver : Option BoardTypeResolver) :
    renderConsole snapshot transportDescription ⟨false, interactiveInput⟩ resolver =
      ((screenParts snapshot transportDescription interactiveInput resolver).flatMap ScreenPart.lines).flatMap
        fun line => line ++ [newline] := by
  rw [List.flatMap_assoc]
  exact List.flatMap_congr fun part _ => part.write_lines

/-- Without colour the screen is lines of eighty bytes. A line of text draws content fields of 76 bytes that
hold, spaces apart, the bytes of the printable text in their order; and unless the text begins with a space,
their words are its words, only those longer than a field cut into pieces. Deleting the SGR sequences of the
coloured screen leaves the screen without colour. -/
theorem console_layout (snapshot : ScreenSnapshot) (transportDescription : Bytes) (interactiveInput : Bool)
    (resolver : Option BoardTypeResolver) :
    let screen useColor := renderConsole snapshot transportDescription ⟨useColor, interactiveInput⟩ resolver
    (∃ lines : List Bytes, (screen false = lines.flatMap fun line => line ++ [newline]) ∧
      ∀ line ∈ lines, line.length = 80 ∧ newline ∉ line) ∧
    (∀ value, ∃ fields : List Bytes,
      (∀ tone, writeLine value tone false =
        fields.flatMap fun field => literal "| " ++ field ++ literal " |" ++ [newline]) ∧
      (∀ field ∈ fields, field.length = 76) ∧
      (fields.flatten.filter fun byte => byte != space) = (printable value).filter (fun byte => byte != space) ∧
      ((printable value).head? ≠ some space →
        fields.flatMap (words space) = (words space (printable value)).flatMap (pieces 76))) ∧
    deleteSgr (screen true) = screen false := by
  intro screen
  have hparts := screenParts_wellFormed snapshot transportDescription interactiveInput resolver
  refine ⟨?_, ?_, deleteSgr_screen _ hparts⟩
  · refine ⟨_, renderConsole_lines snapshot transportDescription interactiveInput resolver, ?_⟩
    intro line hline
    obtain ⟨part, hpart, hline⟩ := List.mem_flatMap.mp hline
    obtain ⟨hlength, hdrawable⟩ := ScreenPart.lines_spec (hparts part hpart) line hline
    exact ⟨hlength, hdrawable.not_mem (by decide)⟩
  · intro value
    refine ⟨contentFields value, writeLine_fields value, contentFields_length value,
      contentFields_filter value, ?_⟩
    intro hhead
    rw [contentFields_words, lineWords_of_head hhead]
    rfl

end OnboardAutonomy.ConsoleView
