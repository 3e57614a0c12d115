import OnboardAutonomy.Attempts
import OnboardAutonomy.PreviewPage
import OnboardAutonomy.PreviewStore
import OnboardAutonomy.Rasters
import Mathlib.Tactic.NormNum
import Mathlib.Tactic.Ring
import Mathlib.Tactic.Push

/-! What the cards of the preview page show. Publishers, the server and the page take turns; a card has one
request under way at most. -/

namespace OnboardAutonomy

open HttpCameraPreviewServer

/-! ### One frame -/

theorem decimalValue_toDigits (n : Nat) : decimalValue (Nat.toDigits 10 n) = n := by
  have hvalue : decimalValue = fun digits => Nat.ofDigitChars 10 digits 0 := by
    funext digits
    rw [Nat.ofDigitChars_eq_foldl, decimalValue]
    congr 1
    funext value digit
    rw [Nat.mul_comm, digitValue]
  rw [hvalue]
  exact Nat.ofDigitChars_ten_toDigits

theorem numeral_toString {n size : Nat} (h : n < size) : numeral size (toString n) = some n := by
  have hdigits : (toString n).toList = Nat.toDigits 10 n := Nat.toList_repr
  have hsome : (Nat.toDigits 10 n).isEmpty = false := List.isEmpty_eq_false_iff.mpr Nat.toDigits_ne_nil
  have hall : (Nat.toDigits 10 n).all Char.isDigit = true :=
    List.all_eq_true.mpr fun _ => Nat.isDigit_of_mem_toDigits (by decide) (by decide)
  rw [numeral, hdigits, decimalValue_toDigits, hall, hsome, decide_eq_true h]
  rfl

/-- Elements at whole numbers. -/
theorem element_natCast (data : List UInt8) (index : Nat) :
    element data (index : ℚ) = data[index]?.map fun byte => (byte.toNat : Int) := by
  rw [element, if_pos ⟨Rat.den_natCast index, Int.natCast_nonneg index⟩]
  rfl

theorem shiftRight8_some {value : Int} (hlow : -2 ^ 31 ≤ value) (hhigh : value < 2 ^ 31) :
    shiftRight8 (some value) = value / 256 := by
  rw [shiftRight8, Int.bmod_eq_of_le hlow hhigh, Int.shiftRight_eq_div_pow]
  rfl

theorem colourByte_some {value : Int} (hlow : -2 ^ 31 ≤ value) (hhigh : value < 2 ^ 31) :
    colourByte (some value) = Rasters.channel value := by
  rw [colourByte, shiftRight8_some hlow hhigh, Rasters.channel]

/-- A pixel of a frame with even sides, from the three samples that it is read from. -/
theorem convertPixel_eq {yuv420 : List UInt8} {a b y x : Nat} (hlength : yuv420.length = 6 * a * b)
    (hy : y < 2 * b) (hx : x < 2 * a) (rgba : List UInt8) :
    convertPixel yuv420 (2 * a) (2 * b) y rgba x =
      Rasters.put rgba (4 * (y * (2 * a) + x)) ((Rasters.Planes.ofBytes (2 * a) (2 * b) yuv420).pixel y x) := by
  have ha : 2 * a / 2 = a := Nat.mul_div_cancel_left a (by decide)
  have hb : 2 * b / 2 = b := Nat.mul_div_cancel_left b (by decide)
  have hrow : y / 2 * a + x / 2 < a * b := by
    calc y / 2 * a + x / 2 < y / 2 * a + a := by omega
      _ = (y / 2 + 1) * a := (Nat.succ_mul _ _).symm
      _ ≤ b * a := Nat.mul_le_mul_right a (by omega)
      _ = a * b := Nat.mul_comm b a
  have hpixel : y * (2 * a) + x < 2 * a * (2 * b) := by
    calc y * (2 * a) + x < y * (2 * a) + 2 * a := by omega
      _ = (y + 1) * (2 * a) := (Nat.succ_mul _ _).symm
      _ ≤ 2 * b * (2 * a) := Nat.mul_le_mul_right _ hy
      _ = 2 * a * (2 * b) := Nat.mul_comm _ _
  have htotal : yuv420.length = 2 * a * (2 * b) + a * b + a * b := by
    rw [hlength]
    ring
  obtain ⟨luma, hluma⟩ : ∃ luma, yuv420[y * (2 * a) + x]? = some luma :=
    ⟨_, List.getElem?_eq_getElem (by omega)⟩
  obtain ⟨u, hu⟩ : ∃ u, yuv420[2 * a * (2 * b) + (y / 2 * a + x / 2)]? = some u :=
    ⟨_, List.getElem?_eq_getElem (by omega)⟩
  obtain ⟨v, hv⟩ : ∃ v, yuv420[2 * a * (2 * b) + a * b + (y / 2 * a + x / 2)]? = some v :=
    ⟨_, List.getElem?_eq_getElem (by omega)⟩
  have hsquare : y / 2 * (2 * a / 2) + x / 2 = y / 2 * a + x / 2 := by rw [ha]
  have hplanes : (Rasters.Planes.ofBytes (2 * a) (2 * b) yuv420).pixel y x = Rasters.colour luma u v := by
    rw [Rasters.Planes.pixel, Rasters.Planes.ofBytes, hsquare]
    simp only [List.getElem?_take, List.getElem?_drop, ha, hb, if_pos hpixel, if_pos hrow, hluma, hu, hv,
      Option.getD_some]
  have huIndex : ((2 * a : Nat) : ℚ) * (2 * b : Nat) + ((y / 2 : Nat) * ((2 * a : Nat) / 2) + (x / 2 : Nat)) =
      (2 * a * (2 * b) + (y / 2 * a + x / 2) : Nat) := by
    push_cast
    ring
  have hvIndex : ((2 * a : Nat) : ℚ) * (2 * b : Nat) + (2 * a : Nat) / 2 * ((2 * b : Nat) / 2) +
        ((y / 2 : Nat) * ((2 * a : Nat) / 2) + (x / 2 : Nat)) =
      (2 * a * (2 * b) + a * b + (y / 2 * a + x / 2) : Nat) := by
    push_cast
    ring
  simp only [convertPixel, huIndex, hvIndex, element_natCast, hluma, hu, hv, Option.map_some, Option.bind_some]
  have hlumaByte := luma.toNat_lt
  have huByte := u.toNat_lt
  have hvByte := v.toNat_lt
  rw [hplanes, Nat.mul_comm, colourByte_some (by omega) (by omega), colourByte_some (by omega) (by omega),
    colourByte_some (by omega) (by omega)]
  rfl

/-- A whole frame of even sides: of what the image held before, nothing is left. -/
theorem convertFrame_eq {yuv420 rgba : List UInt8} {a b : Nat} (hlength : yuv420.length = 6 * a * b)
    (hrgba : rgba.length = 4 * (2 * a) * (2 * b)) :
    convertFrame yuv420 (2 * a) (2 * b) rgba = (Rasters.Planes.ofBytes (2 * a) (2 * b) yuv420).rgba := by
  have hpixels : convertFrame yuv420 (2 * a) (2 * b) rgba =
      (List.range (2 * b)).foldl (fun rgba y => (List.range (2 * a)).foldl (fun rgba x =>
        Rasters.put rgba (4 * (y * (2 * a) + x))
          ((Rasters.Planes.ofBytes (2 * a) (2 * b) yuv420).pixel y x)) rgba) rgba := by
    refine List.foldl_ext _ _ _ fun rgba y hy => ?_
    refine List.foldl_ext _ _ _ fun rgba x hx => ?_
    exact convertPixel_eq hlength (List.mem_range.mp hy) (List.mem_range.mp hx) rgba
  rw [hpixels, Rasters.foldl_rows (Rasters.Planes.length_pixel _)]
  exact Rasters.put_whole ((Rasters.Planes.length_rgba _).trans hrgba.symm)

namespace Publication

/-- The picture of a publication, as a canvas holds it. -/
def picture (p : Publication) : ImageData where
  width := p.frame.width.toNat
  height := p.frame.height.toNat
  data := (Rasters.Planes.ofBytes p.frame.width.toNat p.frame.height.toNat p.shown.yuv420).rgba

def caption (p : Publication) : String :=
  toString p.frame.width.toNat ++ "x" ++ toString p.frame.height.toNat ++ " I420 COLOR / FRAME " ++
    toString p.frame.sequence

end Publication

/-- The image of the card has the size of its canvas. -/
def ImageFits (card : PreviewCard) : Prop := ∀ image, card.imageData = some image →
  image.width = card.canvas.width ∧ image.height = card.canvas.height ∧
    image.data.length = 4 * image.width * image.height

theorem WellFormed.even {p : Publication} (h : WellFormed p.frame) : ∃ a b,
    p.frame.width.toNat = 2 * a ∧ p.frame.height.toNat = 2 * b ∧ p.shown.yuv420.length = 6 * a * b := by
  have heven {n : UInt32} (hn : n % 2 = 0) : n.toNat = 2 * (n.toNat / 2) := by
    have hmod : n.toNat % 2 = 0 := congrArg UInt32.toNat hn
    omega
  refine ⟨p.frame.width.toNat / 2, p.frame.height.toNat / 2, heven h.width.2, heven h.height.2, ?_⟩
  have hsize : p.size = 6 * (p.frame.width.toNat / 2) * (p.frame.height.toNat / 2) := by
    rw [Publication.size, heven h.width.2, heven h.height.2]
    generalize p.frame.width.toNat / 2 = a
    generalize p.frame.height.toNat / 2 = b
    have hproduct : 2 * a * (2 * b) * 3 = 2 * (6 * (2 * a / 2) * (2 * b / 2)) := by
      rw [Nat.mul_div_cancel_left a (by decide), Nat.mul_div_cancel_left b (by decide)]
      ring
    omega
  have hlength : p.shown.yuv420.length = p.size := by
    rw [Publication.shown, List.length_take]
    exact Nat.min_eq_left h.buffer
  rw [hlength, hsize]

namespace PreviewCard

variable {card : PreviewCard} {browser : Browser} {stream : CameraPreviewStream} {p : Publication}

theorem resized_fits (h : ImageFits card) (width height : Nat) : ImageFits (card.resized width height) := by
  rw [resized]
  split
  · exact fun image himage => by cases himage
  · exact h

theorem resized_canvas (card : PreviewCard) (width height : Nat) :
    (card.resized width height).canvas.width = width ∧ (card.resized width height).canvas.height = height := by
  rw [resized]
  split
  · exact ⟨rfl, rfl⟩
  · rename_i hsame
    exact not_or.mp hsame |>.imp not_not.mp not_not.mp

theorem resized_drawn (card : PreviewCard) (width height : Nat) :
    (card.resized width height).canvas.drawn = none ∨ (card.resized width height).canvas = card.canvas := by
  rw [resized]
  split
  · exact .inl rfl
  · exact .inr rfl

theorem update_noContent (browser : Browser) (card : PreviewCard) :
    card.update browser (.ok noContent) = (card.setOffline "WAITING FOR FRAME", none) := rfl

/-- A card draws on an image of the size of its canvas, unless the browser has none for it. -/
theorem image_cases (h : ImageFits card) (browser : Browser) (width height : Nat) :
    (∃ image, (card.resized width height).image browser width height = .ok image ∧ image.width = width ∧
        image.height = height ∧ image.data.length = 4 * image.width * image.height) ∨
      ∃ message, browser.createImageDataError width height = some message ∧
        (card.resized width height).image browser width height = .error message := by
  obtain ⟨hcanvasWidth, hcanvasHeight⟩ := resized_canvas card width height
  rw [image]
  cases hold : (card.resized width height).imageData with
  | some image =>
      obtain ⟨hw, hh, hdata⟩ := resized_fits h width height image hold
      exact .inl ⟨image, rfl, hw.trans hcanvasWidth, hh.trans hcanvasHeight, hdata⟩
  | none =>
      cases herror : browser.createImageDataError width height with
      | some message => exact .inr ⟨message, rfl, rfl⟩
      | none => exact .inl ⟨_, rfl, rfl, rfl, List.length_replicate⟩

/-- A frame of the server is shown, unless the browser has no image for it. -/
theorem update_frame (h : ImageFits card) (hframe : WellFormed p.frame) (browser : Browser)
    (stream : CameraPreviewStream) :
    let width := p.frame.width.toNat
    let height := p.frame.height.toNat
    card.update browser (.ok (frameResponse stream p.shown)) =
        ((card.resized width height).drawn p.picture width height (some (toString p.frame.sequence)),
          some p.picture) ∨
      ∃ message, browser.createImageDataError width height = some message ∧
        card.update browser (.ok (frameResponse stream p.shown)) =
          ((card.resized width height).failed browser message, none) := by
  intro width height
  obtain ⟨a, b, hwidth, hheight, hlength⟩ := hframe.even
  have hnumber {n : UInt32} : numeral (2 ^ 53) (toString n.toNat) = some n.toNat :=
    numeral_toString (Nat.lt_trans n.toNat_lt (by norm_num))
  have hwidthHeader : number ((frameResponse stream p.shown).headers.lookup "X-Frame-Width") = some width :=
    hnumber
  have hheightHeader : number ((frameResponse stream p.shown).headers.lookup "X-Frame-Height") = some height :=
    hnumber
  have hcomplete : ((frameResponse stream p.shown).body.length : ℚ) =
      width * height + (width : ℚ) / 2 * (height / 2) * 2 := by
    have hbody : (frameResponse stream p.shown).body.length = 6 * a * b := hlength
    have hw : width = 2 * a := hwidth
    have hh : height = 2 * b := hheight
    rw [hbody, hw, hh]
    push_cast
    ring
  have hstatus : (frameResponse stream p.shown).status ≠ some 204 := fun h => by cases h
  have hok : ¬(!(frameResponse stream p.shown).ok) = true := Bool.false_ne_true
  rw [update, if_neg hstatus, if_neg hok]
  simp only [hwidthHeader, hheightHeader]
  rw [if_neg (not_not.mpr hcomplete)]
  have hconvert {image : ImageData} (hw : image.width = width) (hh : image.height = height)
      (hdata : image.data.length = 4 * image.width * image.height) :
      { image with data := convertFrame p.shown.yuv420 width height image.data } = p.picture := by
    have hconverted : convertFrame p.shown.yuv420 width height image.data = p.picture.data := by
      rw [Publication.picture, hwidth, hheight, show width = 2 * a from hwidth, show height = 2 * b from hheight]
      refine convertFrame_eq hlength ?_
      rw [hdata, hw, hh, show width = 2 * a from hwidth, show height = 2 * b from hheight]
    rw [hconverted, hw, hh]
    rfl
  obtain ⟨image, himage, hw, hh, hdata⟩ | ⟨message, herror, himage⟩ := image_cases h browser width height
  · have hshown := hconvert hw hh hdata
    refine .inl ?_
    rw [himage]
    exact congrArg (fun picture => ((card.resized width height).drawn picture width height _, some picture)) hshown
  · refine .inr ⟨message, herror, ?_⟩
    rw [himage]

end PreviewCard

/-! ### The server and the page -/

inductive CardPhase where
  | scheduled
  | requested
  | answered (response : HttpResponse)

structure PreviewSystem where
  config : HttpCameraPreviewConfig
  document : List UInt8
  browser : Browser
  log : PreviewLog
  page : PreviewPage := {}
  phase : CameraPreviewStream → CardPhase := fun _ => .requested
  drawings : CameraPreviewStream → List ImageData := fun _ => []

inductive PageStep where
  | publish (stream : CameraPreviewStream) (frame : CameraFrame) (targets : List TargetObservation)
      (now : TimePoint)
  | load (now : TimePoint) (failure : Option String)
  | timer (stream : CameraPreviewStream)
  | serve (stream : CameraPreviewStream) (now : TimePoint)
  | receive (stream : CameraPreviewStream)
  | lose (stream : CameraPreviewStream) (message : String)

def PageStep.Fits : PageStep → Prop
  | .publish stream frame targets now => (PreviewCall.publish stream frame targets now).Fits
  | _ => True

namespace PreviewSystem

def answer (s : PreviewSystem) (path : String) (now : TimePoint) : HttpResponse :=
  HttpCameraPreviewServer.answer s.config s.document s.log.server path now

/-- The rest of `update`, up to the timer it sets. -/
def finish (s : PreviewSystem) (stream : CameraPreviewStream) (card : PreviewCard)
    (answer : Except String HttpResponse) : PreviewSystem :=
  let updated := card.update s.browser answer
  { s with
    page := { s.page with cards := Function.update s.page.cards stream (some updated.1) }
    phase := Function.update s.phase stream .scheduled
    drawings := Function.update s.drawings stream (s.drawings stream ++ updated.2.toList) }

def step (s : PreviewSystem) : PageStep → PreviewSystem
  | .publish stream frame targets now => { s with log := s.log.step (.publish stream frame targets now) }
  | .load now failure =>
      if s.page.loading then
        { s with
          page := s.page.loadStreams s.browser
            (failure.elim (.ok (s.answer "/api/streams" now)) Except.error) }
      else s
  | .timer stream =>
      match s.phase stream with
      | .scheduled => { s with phase := Function.update s.phase stream .requested }
      | _ => s
  | .serve stream now =>
      match s.phase stream, s.page.cards stream with
      | .requested, some _ =>
          { s with
            phase := Function.update s.phase stream
              (.answered (s.answer ("/api/frame/" ++ streamName stream) now)) }
      | _, _ => s
  | .receive stream =>
      match s.phase stream, s.page.cards stream with
      | .answered response, some card => s.finish stream card (.ok response)
      | _, _ => s
  | .lose stream message =>
      match s.phase stream, s.page.cards stream with
      | .scheduled, _ => s
      | _, none => s
      | _, some card => s.finish stream card (.error message)

/-- The page has been opened on a server that has published nothing yet. -/
def opened (config : HttpCameraPreviewConfig) (document : List UInt8) (browser : Browser)
    (server : HttpCameraPreviewServer) : PreviewSystem where
  config := config
  document := document
  browser := browser
  log := { server := server }

def run (s : PreviewSystem) (steps : List PageStep) : PreviewSystem := steps.foldl step s

theorem run_concat (s : PreviewSystem) (steps : List PageStep) (next : PageStep) :
    s.run (steps ++ [next]) = (s.run steps).step next := List.foldl_concat ..

end PreviewSystem

/-! ### What is accepted -/

section Accepted

variable {interval : Int} {log : PreviewLog} {stream : CameraPreviewStream}

/-- The log only grows. -/
theorem PreviewLog.step_accepted (log : PreviewLog) (call : PreviewCall) (stream : CameraPreviewStream) :
    log.accepted stream <+: (log.step call).accepted stream := by
  cases call with
  | serve other now => exact List.prefix_rfl
  | publish other frame targets now =>
      rw [PreviewLog.step]
      split
      · rcases eq_or_ne stream other with rfl | hother
        · simp only [Function.update_self]
          exact List.prefix_append _ _
        · simp only [Function.update_of_ne hother]
          exact List.prefix_rfl
      · exact List.prefix_rfl

/-- Every publication in the log is well formed. -/
theorem Holds.step_wellFormed (h : Holds interval log)
    (hframes : ∀ stream, ∀ p ∈ log.accepted stream, WellFormed p.frame) {call : PreviewCall}
    (hfits : call.Fits) :
    ∀ stream, ∀ p ∈ (log.step call).accepted stream, WellFormed p.frame := by
  cases call with
  | serve other now => exact hframes
  | publish other frame targets now =>
      intro stream
      rw [PreviewLog.step]
      split
      · rename_i hstores
        rcases eq_or_ne stream other with rfl | hother
        · simp only [Function.update_self]
          refine List.forall_mem_append.mpr ⟨hframes stream, List.forall_mem_singleton.mpr ?_⟩
          exact ((h.stores_iff hfits stream now).mp hstores).1
        · simp only [Function.update_of_ne hother]
          exact hframes stream
      · exact hframes stream

end Accepted

/-! ### What a card shows -/

/-- A request of the card was answered while a publication was the last that its stream had accepted, and not
older than two seconds. -/
def ServedAt (start : PreviewSystem) (steps : List PageStep) (stream : CameraPreviewStream)
    (position : Nat) (p : Publication) : Prop :=
  ∃ before now after, steps = before ++ .serve stream now :: after ∧
    ((start.run before).log.accepted stream).length = position + 1 ∧
    ((start.run before).log.accepted stream)[position]? = some p ∧ now - p.publishedAt ≤ seconds 2

/-- What the browser or the network told a card. -/
def Failure (browser : Browser) (steps : List PageStep) (stream : CameraPreviewStream) (message : String) :
    Prop :=
  .lose stream message ∈ steps ∨ ∃ width height, browser.createImageDataError width height = some message

/-- What a card has drawn are publications of its stream, one never earlier than the one before. It is live
as long as its last request was answered with a fresh frame, and then it shows the last publication there was;
otherwise it says that it waits for one, or repeats what went wrong. -/
structure CardShows (start : PreviewSystem) (steps : List PageStep) (stream : CameraPreviewStream)
    (card : PreviewCard) (drawings : List ImageData) (positions : List Nat) : Prop where
  ordered : positions.Pairwise (· ≤ ·)
  drawn : List.Forall₂ (fun position image => ∃ p, ServedAt start steps stream position p ∧ image = p.picture)
    positions drawings
  canvas : card.canvas.drawn = none ∨ card.canvas.drawn = drawings.getLast?
  live : card.live = true → card.statusText = "LIVE" ∧ ∃ position p, positions.getLast? = some position ∧
    ServedAt start steps stream position p ∧
    card.canvas = ⟨p.picture.width, p.picture.height, some p.picture⟩ ∧
    card.frameText = p.caption
  offline : card.live = false → card.statusText = "WAITING" ∨ card.statusText = "WAITING FOR FRAME" ∨
    card.statusText = "OFFLINE" ∧ ∃ message, Failure start.browser steps stream message ∧
      card.frameText = start.browser.toUpperCase message

/-- With it, the request that is under way. -/
structure CardState (start : PreviewSystem) (steps : List PageStep) (stream : CameraPreviewStream)
    (card : PreviewCard) (phase : CardPhase) (drawings : List ImageData) (positions : List Nat) : Prop
    extends CardShows start steps stream card drawings positions where
  image : ImageFits card
  answered : ∀ response, phase = .answered response → response = noContent ∨
    ∃ position p, ServedAt start steps stream position p ∧ WellFormed p.frame ∧
      (∀ earlier ∈ positions, earlier ≤ position) ∧ response = frameResponse stream p.shown

section CardState

variable {start : PreviewSystem} {steps : List PageStep} {stream : CameraPreviewStream} {card : PreviewCard}
  {phase : CardPhase} {drawings : List ImageData} {positions : List Nat} {position : Nat} {p : Publication}
  {message : String} {response : HttpResponse}

theorem ServedAt.later (h : ServedAt start steps stream position p) (next : PageStep) :
    ServedAt start (steps ++ [next]) stream position p := by
  obtain ⟨before, now, after, rfl, hserved⟩ := h
  exact ⟨before, now, after ++ [next], by rw [List.append_assoc, List.cons_append], hserved⟩

theorem Failure.later {browser : Browser} (h : Failure browser steps stream message) (next : PageStep) :
    Failure browser (steps ++ [next]) stream message :=
  h.imp_left (List.mem_append_left _)

namespace CardState

theorem created (start : PreviewSystem) (steps : List PageStep) (stream : CameraPreviewStream) :
    CardState start steps stream {} .requested [] [] :=
  ⟨⟨List.Pairwise.nil, .nil, .inl rfl, fun hlive => absurd hlive Bool.false_ne_true, fun _ => .inl rfl⟩,
    fun _ himage => (by cases himage), fun _ hresponse => (by cases hresponse)⟩

theorem later (h : CardState start steps stream card phase drawings positions) (next : PageStep) :
    CardState start (steps ++ [next]) stream card phase drawings positions := by
  refine ⟨⟨h.ordered, h.drawn.imp fun _ _ ⟨p, hserved, hpicture⟩ => ⟨p, hserved.later next, hpicture⟩,
    h.canvas, fun hlive => ?_, fun hoffline => ?_⟩, h.image, fun response hresponse => ?_⟩
  · obtain ⟨hstatus, position, p, hlast, hserved, hshown⟩ := h.live hlive
    exact ⟨hstatus, position, p, hlast, hserved.later next, hshown⟩
  · refine (h.offline hoffline).imp_right (Or.imp_right fun ⟨hstatus, message, hfailure, htext⟩ => ?_)
    exact ⟨hstatus, message, hfailure.later next, htext⟩
  · refine (h.answered response hresponse).imp_right fun ⟨position, p, hserved, hframe, hbehind, hframed⟩ => ?_
    exact ⟨position, p, hserved.later next, hframe, hbehind, hframed⟩

/-- Another phase, without an answer in it. -/
theorem phased (h : CardState start steps stream card phase drawings positions) {phase' : CardPhase}
    (hphase : ∀ response, phase' ≠ .answered response) :
    CardState start steps stream card phase' drawings positions :=
  ⟨h.toCardShows, h.image, fun response hresponse => absurd hresponse (hphase response)⟩

/-- An answer without a frame. -/
theorem waiting (h : CardState start steps stream card phase drawings positions) :
    CardState start steps stream (card.setOffline "WAITING FOR FRAME") .scheduled drawings positions :=
  ⟨⟨h.ordered, h.drawn, h.canvas, fun hlive => absurd hlive Bool.false_ne_true, fun _ => .inr (.inl rfl)⟩,
    h.image, fun _ hresponse => by cases hresponse⟩

/-- An exception, before or after the canvas got its size. -/
theorem failed (h : CardState start steps stream card phase drawings positions) {card' : PreviewCard}
    (hcanvas : card'.canvas.drawn = none ∨ card'.canvas = card.canvas) (himage : ImageFits card')
    (hfailure : Failure start.browser steps stream message) :
    CardState start steps stream (card'.failed start.browser message) .scheduled drawings positions := by
  refine ⟨⟨h.ordered, h.drawn, ?_, fun hlive => absurd hlive Bool.false_ne_true,
    fun _ => .inr (.inr ⟨rfl, message, hfailure, rfl⟩)⟩, himage, fun _ hresponse => by cases hresponse⟩
  rcases hcanvas with hnone | hsame
  · exact .inl hnone
  · show card'.canvas.drawn = none ∨ card'.canvas.drawn = _
    rw [hsame]
    exact h.canvas

/-- A frame. -/
theorem shown (h : CardState start steps stream card phase drawings positions)
    (hserved : ServedAt start steps stream position p) (hbehind : ∀ earlier ∈ positions, earlier ≤ position) :
    CardState start steps stream
      ((card.resized p.frame.width.toNat p.frame.height.toNat).drawn p.picture p.frame.width.toNat
        p.frame.height.toNat (some (toString p.frame.sequence)))
      .scheduled (drawings ++ [p.picture]) (positions ++ [position]) := by
  obtain ⟨hwidth, hheight⟩ := PreviewCard.resized_canvas card p.frame.width.toNat p.frame.height.toNat
  refine ⟨⟨?_, List.rel_append h.drawn (.cons ⟨p, hserved, rfl⟩ .nil), .inr List.getLast?_concat.symm,
    fun _ => ⟨rfl, position, p, List.getLast?_concat, hserved, ?_, rfl⟩,
    fun hoffline => absurd hoffline.symm Bool.false_ne_true⟩, ?_, fun _ hresponse => by cases hresponse⟩
  · exact List.pairwise_append.mpr ⟨h.ordered, List.pairwise_singleton _ _,
      fun earlier hearlier later hlater => (List.mem_singleton.mp hlater) ▸ hbehind earlier hearlier⟩
  · show Canvas.mk _ _ _ = _
    rw [hwidth, hheight]
    rfl
  · rintro image ⟨⟩
    exact ⟨hwidth.symm, hheight.symm, Rasters.Planes.length_rgba _⟩

/-- The end of a request that has been answered. -/
theorem received (h : CardState start steps stream card (.answered response) drawings positions) :
    ∃ positions', CardState start steps stream (card.update start.browser (.ok response)).1 .scheduled
      (drawings ++ (card.update start.browser (.ok response)).2.toList) positions' := by
  obtain rfl | ⟨position, p, hserved, hframe, hbehind, rfl⟩ := h.answered response rfl
  · rw [PreviewCard.update_noContent, Option.toList_none, List.append_nil]
    exact ⟨positions, h.waiting⟩
  · obtain hdrawn | ⟨message, hmessage, herror⟩ := PreviewCard.update_frame h.image hframe start.browser stream
    · rw [hdrawn]
      exact ⟨positions ++ [position], h.shown hserved hbehind⟩
    · rw [herror, Option.toList_none, List.append_nil]
      exact ⟨positions, h.failed (PreviewCard.resized_drawn card _ _) (PreviewCard.resized_fits h.image _ _)
        (.inr ⟨_, _, hmessage⟩)⟩

end CardState

end CardState

/-! ### Runs -/

def streamEnabled (config : HttpCameraPreviewConfig) : CameraPreviewStream → Bool
  | .downward => config.downwardCamera
  | .forward => config.forwardCamera

theorem answer_frame {config : HttpCameraPreviewConfig} {stream : CameraPreviewStream}
    (h : streamEnabled config stream = true) (document : List UInt8) (server : HttpCameraPreviewServer)
    (now : TimePoint) :
    answer config document server ("/api/frame/" ++ streamName stream) now = server.serveFrame stream now := by
  have hroute : (routes config).lookup ("/api/frame/" ++ streamName stream) = some (.frame stream) := by
    obtain ⟨_, _, _, downwardCamera, forwardCamera⟩ := config
    cases stream with
    | downward =>
        obtain rfl : downwardCamera = true := h
        rfl
    | forward =>
        obtain rfl : forwardCamera = true := h
        cases downwardCamera <;> rfl
  rw [answer, hroute]

theorem listedCards_answer {config : HttpCameraPreviewConfig}
    (h : config.downwardCamera = true ∨ config.forwardCamera = true) (browser : Browser) (document : List UInt8)
    (server : HttpCameraPreviewServer) (now : TimePoint) :
    PreviewPage.listedCards browser (.ok (answer config document server "/api/streams" now)) =
      .ok (documentCards.filter (streamEnabled config)) := by
  obtain ⟨_, _, _, downwardCamera, forwardCamera⟩ := config
  cases downwardCamera <;> cases forwardCamera
  · exact absurd h (by simp)
  · rfl
  · rfl
  · rfl

section Runs

variable {interval : Int} {start : PreviewSystem} {steps : List PageStep} {stream : CameraPreviewStream}

theorem PreviewSystem.step_log (s : PreviewSystem) (next : PageStep) :
    (s.step next).log = s.log ∨ ∃ stream frame targets now, next = .publish stream frame targets now ∧
      (s.step next).log = s.log.step (.publish stream frame targets now) := by
  cases next with
  | publish stream frame targets now => exact .inr ⟨stream, frame, targets, now, rfl, rfl⟩
  | load now failure =>
      left
      rw [step]
      split <;> rfl
  | timer stream =>
      left
      rw [step]
      split <;> rfl
  | serve stream now =>
      left
      rw [step]
      split <;> rfl
  | receive stream =>
      left
      rw [step]
      split <;> rfl
  | lose stream message =>
      left
      rw [step]
      split <;> rfl

/-- The log only grows. -/
theorem PreviewSystem.run_accepted (start : PreviewSystem) (before after : List PageStep)
    (stream : CameraPreviewStream) :
    (start.run before).log.accepted stream <+: (start.run (before ++ after)).log.accepted stream := by
  induction after using List.reverseRecOn with
  | nil => rw [List.append_nil]
  | append_singleton after next ih =>
      rw [← List.append_assoc, run_concat]
      refine ih.trans ?_
      rcases PreviewSystem.step_log (start.run (before ++ after)) next with hsame | ⟨_, _, _, _, _, hlog⟩
      · rw [hsame]
      · rw [hlog]
        exact PreviewLog.step_accepted _ _ stream

theorem ServedAt.lt_length {position : Nat} {p : Publication} (h : ServedAt start steps stream position p) :
    position < ((start.run steps).log.accepted stream).length := by
  obtain ⟨before, now, after, rfl, hlength, -⟩ := h
  exact Nat.lt_of_lt_of_le (hlength ▸ Nat.lt_succ_self position)
    (PreviewSystem.run_accepted start before _ stream).length_le

theorem CardShows.lt_length {card : PreviewCard} {drawings : List ImageData} {positions : List Nat}
    (h : CardShows start steps stream card drawings positions) :
    ∀ position ∈ positions, position < ((start.run steps).log.accepted stream).length := by
  intro position hposition
  obtain ⟨_, -, p, hserved, -⟩ := Attempts.exists_of_mem_right h.drawn.flip hposition
  exact hserved.lt_length

/-- The server and the page after some steps. -/
structure Previews (interval : Int) (start : PreviewSystem) (steps : List PageStep) (s : PreviewSystem) :
    Prop where
  reached : start.run steps = s
  config : s.config = start.config
  browser : s.browser = start.browser
  holds : Holds interval s.log
  frames : ∀ stream, ∀ p ∈ s.log.accepted stream, WellFormed p.frame
  enabled : ∀ stream, s.page.cards stream ≠ none → streamEnabled start.config stream = true
  loaded : s.page.loading = false → ∀ stream, streamEnabled start.config stream = true →
    s.page.cards stream ≠ none
  loading : s.page.loading = true → ∀ stream, s.page.cards stream = none
  idle : ∀ stream, s.page.cards stream = none → s.phase stream = .requested ∧ s.drawings stream = []
  cards : ∀ stream card, s.page.cards stream = some card → ∃ positions,
    CardState start steps stream card (s.phase stream) (s.drawings stream) positions

namespace Previews

variable {s : PreviewSystem} {next : PageStep} {card : PreviewCard}

theorem next_reached (h : Previews interval start steps s) (next : PageStep) :
    start.run (steps ++ [next]) = s.step next := by
  rw [PreviewSystem.run_concat, h.reached]

/-- The cards stay as they are. -/
theorem cards_later (h : Previews interval start steps s) (next : PageStep) :
    ∀ stream card, s.page.cards stream = some card → ∃ positions,
      CardState start (steps ++ [next]) stream card (s.phase stream) (s.drawings stream) positions := by
  intro stream card hcard
  obtain ⟨positions, hstate⟩ := h.cards stream card hcard
  exact ⟨positions, hstate.later next⟩

/-- A step that is not enabled. -/
theorem skip (h : Previews interval start steps s) (hskip : s.step next = s) :
    Previews interval start (steps ++ [next]) s :=
  { h with
    reached := (h.next_reached next).trans hskip
    cards := h.cards_later next }

theorem publish (h : Previews interval start steps s) {frame : CameraFrame} {targets : List TargetObservation}
    {now : TimePoint} (hfits : (PreviewCall.publish stream frame targets now).Fits) :
    Previews interval start (steps ++ [.publish stream frame targets now])
      (s.step (.publish stream frame targets now)) :=
  { h with
    reached := h.next_reached _
    holds := h.holds.step hfits
    frames := h.holds.step_wellFormed h.frames hfits
    cards := h.cards_later _ }

/-- A card in another phase. -/
theorem phased (h : Previews interval start steps s) {phase : CardPhase} (hcard : s.page.cards stream ≠ none)
    (hstep : s.step next = { s with phase := Function.update s.phase stream phase })
    (hphase : ∀ card positions, CardState start steps stream card (s.phase stream) (s.drawings stream) positions →
      CardState start (steps ++ [next]) stream card phase (s.drawings stream) positions) :
    Previews interval start (steps ++ [next]) (s.step next) := by
  rw [hstep]
  refine { h with reached := (h.next_reached next).trans hstep, idle := ?_, cards := ?_ }
  · intro other hother
    have hne : other ≠ stream := fun heq => hcard (heq ▸ hother)
    show Function.update s.phase stream phase other = _ ∧ _
    rw [Function.update_of_ne hne]
    exact h.idle other hother
  · intro other card hother
    show ∃ positions, CardState start _ other card (Function.update s.phase stream phase other) _ positions
    rcases eq_or_ne other stream with rfl | hne
    · obtain ⟨positions, hstate⟩ := h.cards other card hother
      rw [Function.update_self]
      exact ⟨positions, hphase card positions hstate⟩
    · rw [Function.update_of_ne hne]
      exact h.cards_later next other card hother

/-- The end of a request. -/
theorem finish (h : Previews interval start steps s) (answer : Except String HttpResponse)
    (hcard : s.page.cards stream = some card) (hstep : s.step next = s.finish stream card answer)
    (hupdated : ∃ positions, CardState start (steps ++ [next]) stream (card.update s.browser answer).1 .scheduled
      (s.drawings stream ++ (card.update s.browser answer).2.toList) positions) :
    Previews interval start (steps ++ [next]) (s.step next) := by
  rw [hstep]
  have hsome {other : CameraPreviewStream} :
      (s.finish stream card answer).page.cards other ≠ none ↔ s.page.cards other ≠ none := by
    rcases eq_or_ne other stream with rfl | hne
    · simp only [PreviewSystem.finish, Function.update_self, hcard, ne_eq, reduceCtorEq]
    · simp only [PreviewSystem.finish, Function.update_of_ne hne]
  have hloading : ¬s.page.loading = true := fun hloading => by
    rw [h.loading hloading stream] at hcard
    cases hcard
  refine { h with
    reached := (h.next_reached next).trans hstep
    enabled := fun other hother => h.enabled other (hsome.mp hother)
    loaded := fun hloaded other hother => hsome.mpr (h.loaded hloaded other hother)
    loading := fun hstill => absurd hstill hloading
    idle := ?_
    cards := ?_ }
  · intro other hother
    have hne : other ≠ stream := fun heq => hsome.mpr (by rw [heq, hcard]; exact Option.some_ne_none _) hother
    simp only [PreviewSystem.finish, Function.update_of_ne hne] at hother ⊢
    exact h.idle other hother
  · intro other card' hother
    rcases eq_or_ne other stream with rfl | hne
    · simp only [PreviewSystem.finish, Function.update_self] at hother ⊢
      cases hother
      exact hupdated
    · simp only [PreviewSystem.finish, Function.update_of_ne hne] at hother ⊢
      exact h.cards_later next other card' hother

/-- The list of the streams comes, or it does not. -/
theorem load (h : Previews interval start steps s)
    (hconfig : start.config.downwardCamera = true ∨ start.config.forwardCamera = true) (now : TimePoint)
    (failure : Option String) :
    Previews interval start (steps ++ [.load now failure]) (s.step (.load now failure)) := by
  cases hloading : s.page.loading with
  | false =>
      have hskip : s.step (.load now failure) = s := by
        rw [PreviewSystem.step, hloading, if_neg Bool.false_ne_true]
      rw [hskip]
      exact h.skip hskip
  | true =>
      have hnone := h.loading hloading
      cases failure with
      | some message =>
          have hstep : s.step (.load now (some message)) =
              { s with page := { s.page with note := "Camera configuration unavailable: " ++ message } } := by
            rw [PreviewSystem.step, hloading, if_pos rfl]
            rfl
          rw [hstep]
          exact { h with
            reached := (h.next_reached _).trans hstep
            cards := h.cards_later _ }
      | none =>
          have hstep : s.step (.load now none) = { s with
              page :=
                { note := if (documentCards.filter (streamEnabled s.config)).length = 1 then "One camera stream"
                    else "Independent streams / independent health"
                  singleStream := decide ((documentCards.filter (streamEnabled s.config)).length = 1)
                  loading := false
                  cards := fun stream =>
                    if stream ∈ documentCards.filter (streamEnabled s.config) then some {} else none } } := by
            rw [← h.config] at hconfig
            rw [PreviewSystem.step, hloading, if_pos rfl, Option.elim_none, PreviewPage.loadStreams,
              PreviewSystem.answer, listedCards_answer hconfig]
          have hmem {stream : CameraPreviewStream} :
              stream ∈ documentCards.filter (streamEnabled s.config) ↔
                streamEnabled start.config stream = true := by
            rw [List.mem_filter, h.config]
            exact and_iff_right (by cases stream <;> decide)
          rw [hstep]
          refine { h with
            reached := (h.next_reached _).trans hstep
            enabled := ?_
            loaded := ?_
            loading := fun hstill => absurd hstill Bool.false_ne_true
            idle := fun stream _ => h.idle stream (hnone stream)
            cards := ?_ }
          · intro stream hsome
            by_contra hdisabled
            exact hsome (if_neg fun hlisted => hdisabled (hmem.mp hlisted))
          · intro _ stream henabled
            show (if _ then _ else _) ≠ none
            rw [if_pos (hmem.mpr henabled)]
            exact Option.some_ne_none _
          · intro stream card hcard
            obtain ⟨hphase, hdrawings⟩ := h.idle stream (hnone stream)
            have hcard : (if stream ∈ documentCards.filter (streamEnabled s.config) then some {} else none) =
                some card := hcard
            split at hcard
            · cases hcard
              show ∃ positions, CardState _ _ _ _ (s.phase stream) (s.drawings stream) positions
              rw [hphase, hdrawings]
              exact ⟨[], CardState.created start _ stream⟩
            · cases hcard

/-- The server answers with the last publication it has, if that is fresh. -/
theorem serve (h : Previews interval start steps s) (hcard : s.page.cards stream ≠ none) (now : TimePoint)
    {positions : List Nat}
    (hstate : CardState start steps stream card (s.phase stream) (s.drawings stream) positions) :
    CardState start (steps ++ [.serve stream now]) stream card
      (.answered (s.answer ("/api/frame/" ++ streamName stream) now)) (s.drawings stream) positions := by
  have henabled := h.enabled stream hcard
  rw [← h.config] at henabled
  have hanswer : s.answer ("/api/frame/" ++ streamName stream) now = s.log.server.serveFrame stream now :=
    answer_frame henabled s.document s.log.server now
  have hlater := hstate.later (.serve stream now)
  refine ⟨hlater.toCardShows, hlater.image, ?_⟩
  rintro response ⟨⟩
  rw [hanswer, h.holds.serveFrame]
  cases hlast : (s.log.accepted stream).getLast? with
  | none => exact .inl rfl
  | some p =>
      by_cases hfresh : now - p.publishedAt ≤ seconds 2
      · right
        have hpositive : 0 < (s.log.accepted stream).length :=
          List.length_pos_iff.mpr fun hnil => by rw [hnil] at hlast; cases hlast
        refine ⟨(s.log.accepted stream).length - 1, p, ⟨steps, now, [], rfl, ?_, ?_, hfresh⟩,
          h.frames stream p (List.mem_of_getLast? hlast), ?_, if_pos hfresh⟩
        · rw [h.reached, Nat.sub_add_cancel hpositive]
        · rw [h.reached, ← List.getLast?_eq_getElem?, hlast]
        · intro earlier hearlier
          have hlt := hstate.toCardShows.lt_length earlier hearlier
          rw [h.reached] at hlt
          exact Nat.le_sub_one_of_lt hlt
      · exact .inl (if_neg hfresh)

theorem step (h : Previews interval start steps s)
    (hconfig : start.config.downwardCamera = true ∨ start.config.forwardCamera = true) (next : PageStep)
    (hfits : next.Fits) : Previews interval start (steps ++ [next]) (s.step next) := by
  have hskip (hsame : s.step next = s) : Previews interval start (steps ++ [next]) (s.step next) :=
    hsame.symm ▸ h.skip hsame
  cases next with
  | publish stream frame targets now => exact h.publish hfits
  | load now failure => exact h.load hconfig now failure
  | timer stream =>
      cases hphase : s.phase stream with
      | scheduled =>
          have hstep : s.step (.timer stream) = { s with phase := Function.update s.phase stream .requested } := by
            rw [PreviewSystem.step, hphase]
          have hcard : s.page.cards stream ≠ none := fun hnone => by
            rw [(h.idle stream hnone).1] at hphase
            cases hphase
          exact h.phased hcard hstep fun card positions hstate =>
            (hstate.later _).phased fun _ hresponse => by cases hresponse
      | requested => exact hskip (by rw [PreviewSystem.step, hphase])
      | answered response => exact hskip (by rw [PreviewSystem.step, hphase])
  | serve stream now =>
      cases hphase : s.phase stream with
      | scheduled => exact hskip (by rw [PreviewSystem.step, hphase])
      | answered response => exact hskip (by rw [PreviewSystem.step, hphase])
      | requested =>
          cases hcard : s.page.cards stream with
          | none => exact hskip (by rw [PreviewSystem.step, hphase, hcard])
          | some card =>
              have hsome : s.page.cards stream ≠ none := by
                rw [hcard]
                exact Option.some_ne_none card
              have hstep : s.step (.serve stream now) = { s with
                  phase := Function.update s.phase stream
                    (.answered (s.answer ("/api/frame/" ++ streamName stream) now)) } := by
                rw [PreviewSystem.step, hphase, hcard]
              exact h.phased hsome hstep fun card positions hstate => h.serve hsome now hstate
  | receive stream =>
      cases hphase : s.phase stream with
      | scheduled => exact hskip (by rw [PreviewSystem.step, hphase])
      | requested => exact hskip (by rw [PreviewSystem.step, hphase])
      | answered response =>
          cases hcard : s.page.cards stream with
          | none => exact hskip (by rw [PreviewSystem.step, hphase, hcard])
          | some card =>
              obtain ⟨positions, hstate⟩ := h.cards_later (.receive stream) stream card hcard
              rw [hphase] at hstate
              refine h.finish (.ok response) hcard (by rw [PreviewSystem.step, hphase, hcard]) ?_
              rw [h.browser]
              exact hstate.received
  | lose stream message =>
      cases hcard : s.page.cards stream with
      | none =>
          have hphase := (h.idle stream hcard).1
          exact hskip (by rw [PreviewSystem.step, hphase, hcard])
      | some card =>
          obtain ⟨positions, hstate⟩ := h.cards_later (.lose stream message) stream card hcard
          have hfailed := hstate.failed (.inr rfl) hstate.image
            (.inl (List.mem_append_right steps (List.mem_singleton.mpr rfl)))
          have hend : ∃ positions, CardState start (steps ++ [.lose stream message]) stream
              (card.update s.browser (.error message)).1 .scheduled
              (s.drawings stream ++ (card.update s.browser (.error message)).2.toList) positions := by
            rw [h.browser, PreviewCard.update, Option.toList_none, List.append_nil]
            exact ⟨positions, hfailed⟩
          cases hphase : s.phase stream with
          | scheduled => exact hskip (by rw [PreviewSystem.step, hphase])
          | requested => exact h.finish (.error message) hcard (by rw [PreviewSystem.step, hphase, hcard]) hend
          | answered response =>
              exact h.finish (.error message) hcard (by rw [PreviewSystem.step, hphase, hcard]) hend

theorem run (interval : Int) {config : HttpCameraPreviewConfig}
    (hconfig : config.downwardCamera = true ∨ config.forwardCamera = true) (document : List UInt8)
    (browser : Browser) (steps : List PageStep) (hfits : ∀ next ∈ steps, next.Fits) :
    let start := PreviewSystem.opened config document browser { minimumFrameInterval := interval }
    Previews interval start steps (start.run steps) := by
  intro start
  induction steps using List.reverseRecOn with
  | nil =>
      constructor
      case reached => rfl
      case config => rfl
      case browser => rfl
      case holds => exact Holds.start interval
      case frames => exact fun _ => List.forall_mem_nil _
      case enabled => exact fun _ hsome => absurd rfl hsome
      case loaded => exact fun hloaded => absurd hloaded.symm Bool.false_ne_true
      case loading => exact fun _ _ => rfl
      case idle => exact fun _ _ => ⟨rfl, rfl⟩
      case cards => exact fun _ _ hcard => by cases hcard
  | append_singleton steps next ih =>
      rw [PreviewSystem.run_concat]
      obtain ⟨hbefore, hlast⟩ := List.forall_mem_append.mp hfits
      exact (ih hbefore).step hconfig next (hlast next List.mem_cons_self)

end Previews

end Runs

theorem makeHttpCameraPreviewServer_enabled {config : HttpCameraPreviewConfig} {server : HttpCameraPreviewServer}
    (h : makeHttpCameraPreviewServer config = .ok server) :
    config.downwardCamera = true ∨ config.forwardCamera = true := by
  rw [makeHttpCameraPreviewServer] at h
  cases hinterval : checkedFrameInterval config.maximumFramesPerSecond with
  | error message =>
      rw [hinterval] at h
      cases h
  | ok interval =>
      rw [hinterval] at h
      obtain ⟨hchecked, -⟩ := check_bind_ok.mp h
      have hsound := rejectIf_ok.mp hchecked
      simp only [Bool.or_eq_false_iff, Bool.and_eq_false_iff, Bool.not_eq_false'] at hsound
      exact hsound.2

/-- For every interleaving of publishers, requests, answers and failures: the page has cards for the streams of
the configuration and no others, and each card shows publications of its own stream, whole, fresh when they were
served and in the order of their acceptance. The server never gives it a frame that it refuses. -/
theorem preview_shown {config : HttpCameraPreviewConfig} {server : HttpCameraPreviewServer}
    (hserver : makeHttpCameraPreviewServer config = .ok server) (document : List UInt8) (browser : Browser)
    (steps : List PageStep) (hfits : ∀ next ∈ steps, next.Fits) :
    let start := PreviewSystem.opened config document browser server
    let s := start.run steps
    (∀ stream, s.page.cards stream ≠ none → streamEnabled config stream = true) ∧
    (s.page.loading = false → ∀ stream, streamEnabled config stream = true → s.page.cards stream ≠ none) ∧
    ∀ stream card, s.page.cards stream = some card → ∃ positions,
      CardShows start steps stream card (s.drawings stream) positions := by
  intro start s
  have hpreviews : Previews ((1000000 / config.maximumFramesPerSecond).toNat * 1000) start steps s := by
    show Previews _ (PreviewSystem.opened config document browser server) steps
      ((PreviewSystem.opened config document browser server).run steps)
    have hconfig := makeHttpCameraPreviewServer_enabled hserver
    rw [makeHttpCameraPreviewServer_eq_ok hserver]
    exact Previews.run _ hconfig document browser steps hfits
  refine ⟨hpreviews.enabled, hpreviews.loaded, fun stream card hcard => ?_⟩
  obtain ⟨positions, hstate⟩ := hpreviews.cards stream card hcard
  exact ⟨positions, hstate.toCardShows⟩

/-- The page has been loaded, and one frame has come. -/
def previewSteps : List PageStep :=
  [.load 0 none, .publish .downward (smallFrame 1 [16, 235, 81, 145, 128, 128]) [] 0,
    .serve .downward (milliseconds 50), .receive .downward]

theorem preview_shown_small :
    let browser : Browser := ⟨fun _ _ => none, fun _ => "", fun message => message⟩
    let start := PreviewSystem.opened previewConfig [] browser { minimumFrameInterval := 100000 * 1000 }
    let s := start.run previewSteps
    ∃ card positions, s.page.cards .downward = some card ∧ card.live = true ∧
      CardShows start previewSteps .downward card (s.drawings .downward) positions := by
  intro browser start s
  have hfits : ∀ next ∈ previewSteps, next.Fits := by
    rintro next (_ | ⟨_, _ | ⟨_, _ | ⟨_, _ | ⟨_, ⟨⟩⟩⟩⟩⟩)
    · trivial
    · exact (by decide : PreviewCall.Fits (.publish .downward (smallFrame 1 [16, 235, 81, 145, 128, 128]) [] 0))
    · trivial
    · trivial
  have hserver : makeHttpCameraPreviewServer previewConfig = .ok { minimumFrameInterval := 100000 * 1000 } := rfl
  obtain ⟨-, -, hcards⟩ := preview_shown hserver [] browser previewSteps hfits
  have hlive : (s.page.cards .downward).any PreviewCard.live = true := by decide +kernel
  obtain ⟨card, hcard, hcardLive⟩ := (Option.any_eq_true _ _).mp hlive
  obtain ⟨positions, hshows⟩ := hcards .downward card hcard
  exact ⟨card, positions, hcard, hcardLive, hshows⟩

end OnboardAutonomy
