import OnboardAutonomy.PreviewServer

/-! Frame sizes. The size of a frame is computed three times, by the two camera sources and by the preview
server, each time in 64-bit arithmetic and before the check that it is not too large. That check never
fires, so the three are exact where the sum does not wrap and nowhere else. -/

namespace OnboardAutonomy

/-- The configurations that the rpicam source refuses for another reason than their size. -/
def RpicamCameraConfig.refused (config : RpicamCameraConfig) : Bool :=
  config.width == 0 || config.height == 0 || config.framesPerSecond == 0 || config.frameTimeoutMs == 0 ||
    config.restartDelayMs == 0 || config.width % 2 != 0 || config.height % 2 != 0

/-- The configurations that the GStreamer source refuses for another reason than their size. -/
def GStreamerCameraConfig.refused (config : GStreamerCameraConfig) : Bool :=
  config.width == 0 || config.height == 0 || config.udpPort == 0 || config.frameTimeoutMs == 0 ||
    config.restartDelayMs == 0 || config.width % kPackedI420WidthAlignment != 0 || config.height % 2 != 0

theorem RpicamCameraConfig.checkedFrameSize_eq_ok (config : RpicamCameraConfig) (size : UInt64) :
    config.checkedFrameSize = .ok size ↔
      config.refused = false ∧ frameBytes config.width config.height = size := by
  simp only [RpicamCameraConfig.checkedFrameSize, check_bind_ok, rejectIf_ok, frameBytes_fits,
    RpicamCameraConfig.refused, true_and, Except.ok.injEq]

theorem GStreamerCameraConfig.checkedFrameSize_eq_ok (config : GStreamerCameraConfig) (size : UInt64) :
    config.checkedFrameSize = .ok size ↔
      config.refused = false ∧ frameBytes config.width config.height = size := by
  simp only [GStreamerCameraConfig.checkedFrameSize, check_bind_ok, rejectIf_ok, frameBytes_fits,
    GStreamerCameraConfig.refused, true_and, Except.ok.injEq]

/-- The computed size is the size of the picture exactly when the latter fits into 64 bits. -/
theorem frameBytes_exact_iff (width height : UInt32) :
    (frameBytes width height).toNat = pictureBytes width height ↔ pictureBytes width height < 2 ^ 64 := by
  constructor
  · intro h
    rw [← h]
    exact (frameBytes width height).toNat_lt
  · exact frameBytes_toNat_of_lt

/-- A picture that does not fit into 64 bits wraps once. -/
theorem frameBytes_toNat_of_le {width height : UInt32} (h : 2 ^ 64 ≤ pictureBytes width height) :
    (frameBytes width height).toNat = pictureBytes width height - 2 ^ 64 := by
  have hpixels := pixels_lt width height
  rw [frameBytes_toNat, Nat.mod_eq_sub_mod h, Nat.mod_eq_of_lt]
  rw [pictureBytes] at h ⊢
  omega

/-- A size check, one that may refuse, is exact: it throws or returns the bytes of the picture. -/
def ExactSize (check : Except String UInt64) (width height : UInt32) : Prop :=
  (∃ message, check = .error message) ∨ ∃ size, check = .ok size ∧ size.toNat = pictureBytes width height

theorem exactSize_iff {check : Except String UInt64} {refused : Bool} {width height : UInt32}
    (hcheck : ∀ size, check = .ok size ↔ refused = false ∧ frameBytes width height = size) :
    ExactSize check width height ↔ refused = true ∨ pictureBytes width height < 2 ^ 64 := by
  cases refused with
  | true =>
      refine iff_of_true (Or.inl ?_) (Or.inl rfl)
      cases check with
      | error message => exact ⟨message, rfl⟩
      | ok size => cases ((hcheck size).mp rfl).1
  | false =>
      have hok : check = .ok (frameBytes width height) := (hcheck _).mpr ⟨rfl, rfl⟩
      rw [← frameBytes_exact_iff, ExactSize, hok]
      simp

/-- A frame that the preview server stores has a buffer for its whole picture. -/
def StoresWhole (server : HttpCameraPreviewServer) (stream : CameraPreviewStream) (frame : CameraFrame)
    (now : TimePoint) : Prop :=
  server.stores stream frame now = true → pictureBytes frame.width frame.height ≤ frame.yuv420.length

/-- A frame that `publish` turns down whatever its picture size: it comes too soon, or its dimensions are
zero or odd. -/
def turnedDown (server : HttpCameraPreviewServer) (stream : CameraPreviewStream) (frame : CameraFrame)
    (now : TimePoint) : Bool :=
  server.tooSoon stream now || frame.width == 0 || frame.height == 0 || frame.width % 2 != 0 ||
    frame.height % 2 != 0

theorem stores_iff (server : HttpCameraPreviewServer) (stream : CameraPreviewStream) (frame : CameraFrame)
    (now : TimePoint) : server.stores stream frame now = true ↔
      turnedDown server stream frame now = false ∧
        (frameBytes frame.width frame.height).toNat ≤ frame.yuv420.length := by
  rw [HttpCameraPreviewServer.stores, HttpCameraPreviewServer.rejects, frameBytes_fits, turnedDown]
  simp [and_assoc]

theorem storesWhole_iff (server : HttpCameraPreviewServer) (stream : CameraPreviewStream)
    (frame : CameraFrame) (now : TimePoint) : StoresWhole server stream frame now ↔
      pictureBytes frame.width frame.height < 2 ^ 64 ∨ turnedDown server stream frame now = true ∨
        frame.yuv420.length < pictureBytes frame.width frame.height - 2 ^ 64 ∨
        pictureBytes frame.width frame.height ≤ frame.yuv420.length := by
  rw [StoresWhole, stores_iff]
  rcases Nat.lt_or_ge (pictureBytes frame.width frame.height) (2 ^ 64) with hfits | hwraps
  · rw [frameBytes_toNat_of_lt hfits]
    exact iff_of_true And.right (Or.inl hfits)
  · rw [frameBytes_toNat_of_le hwraps]
    cases turnedDown server stream frame now with
    | true => simp
    | false =>
        simp only [true_and, Bool.false_eq_true, false_or]
        omega

/-- The three computations of a frame size are exact where the size does not wrap, and only there. -/
theorem frame_sizes_exact_iff (rpicam : RpicamCameraConfig) (gstreamer : GStreamerCameraConfig)
    (server : HttpCameraPreviewServer) (stream : CameraPreviewStream) (frame : CameraFrame) (now : TimePoint) :
    (ExactSize rpicam.checkedFrameSize rpicam.width rpicam.height ↔
      rpicam.refused = true ∨ pictureBytes rpicam.width rpicam.height < 2 ^ 64) ∧
    (ExactSize gstreamer.checkedFrameSize gstreamer.width gstreamer.height ↔
      gstreamer.refused = true ∨ pictureBytes gstreamer.width gstreamer.height < 2 ^ 64) ∧
    (StoresWhole server stream frame now ↔
      pictureBytes frame.width frame.height < 2 ^ 64 ∨ turnedDown server stream frame now = true ∨
        frame.yuv420.length < pictureBytes frame.width frame.height - 2 ^ 64 ∨
        pictureBytes frame.width frame.height ≤ frame.yuv420.length) :=
  ⟨exactSize_iff rpicam.checkedFrameSize_eq_ok, exactSize_iff gstreamer.checkedFrameSize_eq_ok,
    storesWhole_iff server stream frame now⟩

/-- A picture whose size wraps to 32 bytes. -/
def wrappingFrame : CameraFrame :=
  { sequence := 1
    width := 3369774176
    height := 3649452082
    yuv420 := List.replicate 32 0
    capturedAt := none
    receivedAt := 0 }

theorem wrappingFrame_accepted :
    ¬(∀ config : RpicamCameraConfig, ExactSize config.checkedFrameSize config.width config.height) ∧
    ¬(∀ config : GStreamerCameraConfig, ExactSize config.checkedFrameSize config.width config.height) ∧
    ¬∀ (server : HttpCameraPreviewServer) (stream : CameraPreviewStream) (frame : CameraFrame)
      (now : TimePoint), StoresWhole server stream frame now := by
  have hwraps : ¬pictureBytes 3369774176 3649452082 < 2 ^ 64 := by decide
  refine ⟨fun hall => ?_, fun hall => ?_, fun hall => ?_⟩
  · have hexact := hall ⟨3369774176, 3649452082, 30, "", 2000, 500⟩
    rw [exactSize_iff (RpicamCameraConfig.checkedFrameSize_eq_ok _)] at hexact
    exact hexact.elim (by decide) hwraps
  · have hexact := hall ⟨3369774176, 3649452082, 5600, 2000, 500⟩
    rw [exactSize_iff (GStreamerCameraConfig.checkedFrameSize_eq_ok _)] at hexact
    exact hexact.elim (by decide) hwraps
  · have hstores := hall { minimumFrameInterval := milliseconds 100 } .downward wrappingFrame 0 (by decide)
    exact absurd hstores (by decide)

end OnboardAutonomy
