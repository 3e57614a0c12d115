import OnboardAutonomy.LaunchAdapters
import OnboardAutonomy.CameraSource
import Mathlib.Data.List.Chain
import Mathlib.Data.List.Induction
import Mathlib.Logic.Function.Basic

/-! `HttpCameraPreviewServer`: the latest frame of each camera stream, and the answer to a request for it.
The publishing threads and the server thread take turns under one mutex, so every call is one step; the
clock is read by each call. -/

namespace OnboardAutonomy

inductive CameraPreviewStream where
  | downward
  | forward
  deriving DecidableEq

def streamIndex : CameraPreviewStream → Fin 2
  | .downward => 0
  | .forward => 1

def streamName : CameraPreviewStream → String
  | .downward => "downward"
  | .forward => "forward"

theorem streamIndex_injective : Function.Injective streamIndex := by
  intro a b h
  cases a <;> cases b <;> first | rfl | cases h

structure PreviewFrame where
  sequence : Nat := 0
  width : UInt32 := 0
  height : UInt32 := 0
  publishedAt : TimePoint
  yuv420 : List UInt8
  targets : List TargetObservation
  deriving DecidableEq

def pointText (point : ImagePoint) : String :=
  "[" ++ point.xPx.fixedHundredths ++ "," ++ point.yPx.fixedHundredths ++ "]"

/-- One target of `targets_json`. -/
def targetText (target : TargetObservation) : String :=
  "\x7b\"id\":" ++ toString target.id.toInt ++ ",\"family\":\"" ++ target.family ++ "\",\"center\":" ++
    pointText target.center ++ ",\"corners\":[" ++
    ",".intercalate (target.corners.toList.map pointText) ++ "],\"confidence_percent\":" ++
    target.confidencePercent.fixedHundredths ++ "\x7d"

def targetsJson (targets : List TargetObservation) : String :=
  "[" ++ ",".intercalate (targets.map targetText) ++ "]"

/-- What a handler puts into the response. Without a status the HTTP library answers 200. -/
structure HttpResponse where
  status : Option Nat := none
  headers : List (String × String)
  content : Option (List UInt8 × String) := none
  deriving DecidableEq

def kHttpNoContent : Nat := 204
def kMaximumFrameAge : Int := seconds 2

structure HttpCameraPreviewServer where
  minimumFrameInterval : Int
  latestFrames : Fin 2 → Option PreviewFrame := fun _ => none
  lastPublishedAt : Fin 2 → Option TimePoint := fun _ => none

/-- `make_http_camera_preview_server`, the page and the listening socket apart. -/
def makeHttpCameraPreviewServer (config : HttpCameraPreviewConfig) : Except String HttpCameraPreviewServer := do
  let minimumFrameInterval ← checkedFrameInterval config.maximumFramesPerSecond
  rejectIf (config.bindAddress.isEmpty || config.port == 0 ||
      (!config.downwardCamera && !config.forwardCamera))
    "invalid HTTP camera preview configuration"
  .ok { minimumFrameInterval := minimumFrameInterval.toNat * 1000 }

namespace HttpCameraPreviewServer

/-- The last accepted frame of the stream is too recent. -/
def tooSoon (server : HttpCameraPreviewServer) (stream : CameraPreviewStream) (now : TimePoint) : Bool :=
  let lastPublishedAt :=
    (server.lastPublishedAt (streamIndex stream)).getD (now - server.minimumFrameInterval)
  decide (now - lastPublishedAt < server.minimumFrameInterval)

/-- The frame is malformed or its buffer is too short. -/
def rejects (frame : CameraFrame) : Bool :=
  let yuv420Size := frameBytes frame.width frame.height
  frame.width == 0 || frame.height == 0 || frame.width % 2 != 0 || frame.height % 2 != 0 ||
    decide (frame.yuv420.length < yuv420Size.toNat) || decide (UInt64.size - 1 < yuv420Size.toNat)

/-- `publish` gets past both of its early returns. -/
def stores (server : HttpCameraPreviewServer) (stream : CameraPreviewStream) (frame : CameraFrame)
    (now : TimePoint) : Bool :=
  !server.tooSoon stream now && !rejects frame

def publish (server : HttpCameraPreviewServer) (stream : CameraPreviewStream) (frame : CameraFrame)
    (targets : List TargetObservation) (now : TimePoint) : HttpCameraPreviewServer :=
  if !server.stores stream frame now then server
  else
    { server with
      latestFrames := Function.update server.latestFrames (streamIndex stream) (some
        { sequence := frame.sequence
          width := frame.width
          height := frame.height
          publishedAt := now
          yuv420 := frame.yuv420.take (frameBytes frame.width frame.height).toNat
          targets := targets })
      lastPublishedAt := Function.update server.lastPublishedAt (streamIndex stream) (some now) }

def noContent : HttpResponse :=
  { status := some kHttpNoContent
    headers := [("Cache-Control", "no-store")] }

/-- The answer with a frame in it. -/
def frameResponse (stream : CameraPreviewStream) (frame : PreviewFrame) : HttpResponse :=
  { headers :=
      [("Cache-Control", "no-store"),
        ("X-Frame-Width", toString frame.width.toNat),
        ("X-Frame-Height", toString frame.height.toNat),
        ("X-Frame-Sequence", toString frame.sequence),
        ("X-OnboardAutonomy-Camera", streamName stream),
        ("X-OnboardAutonomy-Pixel-Format", "I420"),
        ("X-OnboardAutonomy-Targets", targetsJson frame.targets)]
    content := some (frame.yuv420, "application/octet-stream") }

def serveFrame (server : HttpCameraPreviewServer) (stream : CameraPreviewStream) (now : TimePoint) :
    HttpResponse :=
  match server.latestFrames (streamIndex stream) with
  | none => noContent
  | some frame =>
      if kMaximumFrameAge < now - frame.publishedAt then noContent else frameResponse stream frame

end HttpCameraPreviewServer

/-! ### The arithmetic of frame sizes -/

/-- The bytes of a YUV 4:2:0 picture, as a natural number. -/
def pictureBytes (width height : UInt32) : Nat := width.toNat * height.toNat + width.toNat * height.toNat / 2

theorem pixels_lt (width height : UInt32) : width.toNat * height.toNat < 2 ^ 64 := by
  have hwidth : width.toNat < 2 ^ 32 := width.toNat_lt
  have hheight : height.toNat < 2 ^ 32 := height.toNat_lt
  calc width.toNat * height.toNat ≤ 2 ^ 32 * height.toNat := Nat.mul_le_mul_right _ hwidth.le
    _ < 2 ^ 32 * 2 ^ 32 := Nat.mul_lt_mul_of_pos_left hheight (by norm_num)
    _ = 2 ^ 64 := by norm_num

/-- The pixels never wrap; the half of them that is added may. -/
theorem frameBytes_toNat (width height : UInt32) :
    (frameBytes width height).toNat = pictureBytes width height % 2 ^ 64 := by
  have hpixels : (width.toUInt64 * height.toUInt64).toNat = width.toNat * height.toNat := by
    rw [UInt64.toNat_mul, UInt32.toNat_toUInt64, UInt32.toNat_toUInt64, Nat.mod_eq_of_lt (pixels_lt width height)]
  rw [frameBytes, UInt64.toNat_add, UInt64.toNat_div, hpixels, pictureBytes]
  rfl

theorem frameBytes_toNat_of_lt {width height : UInt32} (h : pictureBytes width height < 2 ^ 64) :
    (frameBytes width height).toNat = pictureBytes width height := by
  rw [frameBytes_toNat, Nat.mod_eq_of_lt h]

theorem pictureBytes_eq (width height : UInt32) :
    pictureBytes width height = width.toNat * height.toNat * 3 / 2 := by
  rw [pictureBytes]
  omega

end OnboardAutonomy
