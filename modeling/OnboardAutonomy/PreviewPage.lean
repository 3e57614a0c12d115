import OnboardAutonomy.Decimals
import OnboardAutonomy.FromChars
import OnboardAutonomy.PreviewServer

/-! The page of the camera preview, `index.html`, and the routes of `HttpCameraPreviewServer` that it asks. The
page loads the list of the streams once; after that each card asks for its frame, waits for the answer and
only then sets the timer of the next request. Numbers of the page are exact: the sizes it computes with are far
below the integers that its numbers hold. -/

namespace OnboardAutonomy

/-! ### The routes of the server -/

inductive PreviewRoute where
  | page
  | streams
  | frame (stream : CameraPreviewStream)
  deriving DecidableEq

namespace HttpCameraPreviewServer

def kHttpNotFound : Nat := 404

def enabledStreamsJson (config : HttpCameraPreviewConfig) : String :=
  if config.downwardCamera && config.forwardCamera then "[\"forward\",\"downward\"]"
  else if config.downwardCamera then "[\"downward\"]"
  else "[\"forward\"]"

/-- The handlers in the order of their registration. -/
def routes (config : HttpCameraPreviewConfig) : List (String × PreviewRoute) :=
  [("/", .page), ("/api/streams", .streams),
    ("/api/frame", .frame (if config.downwardCamera then .downward else .forward))] ++
    (if config.downwardCamera then [("/api/frame/downward", .frame .downward)] else []) ++
    (if config.forwardCamera then [("/api/frame/forward", .frame .forward)] else [])

/-- The answer to a request for a path; without a handler the HTTP library answers for itself. -/
def answer (config : HttpCameraPreviewConfig) (page : List UInt8) (server : HttpCameraPreviewServer)
    (path : String) (now : TimePoint) : HttpResponse :=
  match (routes config).lookup path with
  | none => { status := some kHttpNotFound, headers := [] }
  | some .page =>
      { headers := [("Cache-Control", "no-store")]
        content := some (page, "text/html; charset=utf-8") }
  | some .streams =>
      { headers := [("Cache-Control", "no-store")]
        content := some (literal (enabledStreamsJson config), "application/json") }
  | some (.frame stream) => server.serveFrame stream now

end HttpCameraPreviewServer

/-! ### What the browser does -/

structure ImageData where
  width : Nat
  height : Nat
  data : List UInt8
  deriving DecidableEq

/-- A canvas, with the image drawn over all of it since it was last given a size. -/
structure Canvas where
  width : Nat := 640
  height : Nat := 480
  drawn : Option ImageData := none
  deriving DecidableEq

/-- `createImageData` gives a cleared image or the message of an exception. -/
structure Browser where
  createImageDataError : Nat → Nat → Option String
  jsonError : List UInt8 → String
  toUpperCase : String → String

/-- `response.ok` -/
def HttpResponse.ok (response : HttpResponse) : Bool :=
  200 ≤ response.status.getD 200 && response.status.getD 200 ≤ 299

def HttpResponse.body (response : HttpResponse) : List UInt8 := response.content.elim [] Prod.fst

/-- `Number` of a header, which is zero without the header. Texts that are no decimal numeral are not numbers. -/
def number : Option String → Option Nat
  | none => some 0
  | some text => numeral (2 ^ 53) text

/-- An element of a typed array; another index gives no number. -/
def element (data : List UInt8) (index : ℚ) : Option Int :=
  if index.den = 1 ∧ 0 ≤ index.num then (data[index.num.toNat]?).map fun byte => (byte.toNat : Int) else none

/-- `>> 8`, on 32 bits. -/
def shiftRight8 : Option Int → Int
  | none => 0
  | some value => value.bmod (2 ^ 32) >>> (8 : Nat)

/-- A colour as it is stored into a clamped array. -/
def colourByte (value : Option Int) : UInt8 := UInt8.ofNat (max 0 (min 255 (shiftRight8 value))).toNat

/-! ### A card -/

structure PreviewCard where
  canvas : Canvas := {}
  imageData : Option ImageData := none
  nextPollDelay : Nat := 100
  live : Bool := false
  statusText : String := "WAITING"
  waitingHidden : Bool := false
  frameText : String := "NO FRAME"
  analysisText : String := "OBSERVATION ONLY"
  deriving DecidableEq

/-- The body of the loop over the pixels. -/
def convertPixel (yuv420 : List UInt8) (width height : Nat) (y : Nat) (rgba : List UInt8) (x : Nat) :
    List UInt8 :=
  let lumaSize : ℚ := width * height
  let chromaWidth : ℚ := width / 2
  let chromaSize : ℚ := chromaWidth * (height / 2)
  let uOffset := lumaSize
  let vOffset := lumaSize + chromaSize
  let rowOffset := y * width
  let chromaRowOffset : ℚ := (y / 2 : Nat) * chromaWidth
  let source := rowOffset + x
  let chroma : ℚ := chromaRowOffset + (x / 2 : Nat)
  let luminance := (element yuv420 source).map fun value => max 0 (value - 16)
  let u := (element yuv420 (uOffset + chroma)).map fun value => value - 128
  let v := (element yuv420 (vOffset + chroma)).map fun value => value - 128
  let destination := source * 4
  let red := luminance.bind fun luminance => v.map fun v => 298 * luminance + 409 * v + 128
  let green := luminance.bind fun luminance => u.bind fun u => v.map fun v =>
    298 * luminance - 100 * u - 208 * v + 128
  let blue := luminance.bind fun luminance => u.map fun u => 298 * luminance + 516 * u + 128
  (((rgba.set destination (colourByte red)).set (destination + 1) (colourByte green)).set
    (destination + 2) (colourByte blue)).set (destination + 3) 255

def convertFrame (yuv420 : List UInt8) (width height : Nat) (rgba : List UInt8) : List UInt8 :=
  (List.range height).foldl (fun rgba y =>
    (List.range width).foldl (convertPixel yuv420 width height y) rgba) rgba

namespace PreviewCard

def setOffline (card : PreviewCard) (message : String) : PreviewCard :=
  { card with
    live := false
    statusText := message
    waitingHidden := false
    nextPollDelay := 600 }

/-- The `catch` of `update`. -/
def failed (browser : Browser) (card : PreviewCard) (message : String) : PreviewCard :=
  { card.setOffline "OFFLINE" with frameText := browser.toUpperCase message }

/-- The canvas gets the size of the frame, which clears it. -/
def resized (card : PreviewCard) (width height : Nat) : PreviewCard :=
  if card.canvas.width ≠ width ∨ card.canvas.height ≠ height then
    { card with
      canvas := { width := width, height := height, drawn := none }
      imageData := none }
  else card

/-- The image of the card, created where there is none. -/
def image (browser : Browser) (card : PreviewCard) (width height : Nat) : Except String ImageData :=
  match card.imageData with
  | some image => .ok image
  | none =>
      match browser.createImageDataError width height with
      | some message => .error message
      | none => .ok { width := width, height := height, data := List.replicate (4 * width * height) 0 }

/-- The frame is on the canvas. -/
def drawn (card : PreviewCard) (image : ImageData) (width height : Nat) (sequence : Option String) :
    PreviewCard :=
  { card with
    canvas := { card.canvas with drawn := some image }
    imageData := some image
    analysisText := "OBSERVATION ONLY"
    live := true
    statusText := "LIVE"
    waitingHidden := true
    frameText := toString width ++ "x" ++ toString height ++ " I420 COLOR / FRAME " ++ sequence.getD "null"
    nextPollDelay := 100 }

/-- `update` with the answer to its request, or the message of the request or of the body that failed. With the
card comes what has been put on its canvas. -/
def update (browser : Browser) (card : PreviewCard) (answer : Except String HttpResponse) :
    PreviewCard × Option ImageData :=
  match answer with
  | .error message => (card.failed browser message, none)
  | .ok response =>
      if response.status = some 204 then (card.setOffline "WAITING FOR FRAME", none)
      else if !response.ok then
        (card.failed browser ("HTTP " ++ toString (response.status.getD 200)), none)
      else
        match number (response.headers.lookup "X-Frame-Width"),
          number (response.headers.lookup "X-Frame-Height") with
        | some width, some height =>
            let sequence := response.headers.lookup "X-Frame-Sequence"
            let yuv420 := response.body
            let chromaSize : ℚ := width / 2 * (height / 2)
            if (yuv420.length : ℚ) ≠ width * height + chromaSize * 2 then
              (card.failed browser "Incomplete camera frame", none)
            else
              let card := card.resized width height
              match card.image browser width height with
              | .error message => (card.failed browser message, none)
              | .ok image =>
                  let image := { image with data := convertFrame yuv420 width height image.data }
                  (card.drawn image width height sequence, some image)
        | _, _ => (card.failed browser "Incomplete camera frame", none)

end PreviewCard

/-! ### The page -/

structure PreviewPage where
  note : String := "Loading camera configuration"
  singleStream : Bool := false
  loading : Bool := true
  cards : CameraPreviewStream → Option PreviewCard := fun _ => none

/-- The cards of the document. -/
def documentCards : List CameraPreviewStream := [.forward, .downward]

/-- An element of the list of streams that `includes` finds. -/
def isNameOf (stream : CameraPreviewStream) : Json → Bool
  | .string text => text == literal (streamName stream)
  | _ => false

namespace PreviewPage

/-- The streams that `/api/streams` names. -/
def listedCards (browser : Browser) (answer : Except String HttpResponse) :
    Except String (List CameraPreviewStream) :=
  match answer with
  | .error message => .error message
  | .ok response =>
      if !response.ok then .error ("HTTP " ++ toString (response.status.getD 200))
      else
        match Json.parse Json.decimals response.body with
        | some (.array streams) => .ok (documentCards.filter fun stream => streams.any (isNameOf stream))
        | _ => .error (browser.jsonError response.body)

def loadStreams (browser : Browser) (page : PreviewPage) (answer : Except String HttpResponse) : PreviewPage :=
  match listedCards browser answer with
  | .error message => { page with note := "Camera configuration unavailable: " ++ message }
  | .ok cards =>
      { note := if cards.length = 1 then "One camera stream" else "Independent streams / independent health"
        singleStream := decide (cards.length = 1)
        loading := false
        cards := fun stream => if stream ∈ cards then some {} else none }

end PreviewPage

end OnboardAutonomy
