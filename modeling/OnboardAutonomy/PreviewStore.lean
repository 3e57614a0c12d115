import OnboardAutonomy.PreviewServer

/-! The preview store over whole runs. Beside the server runs a log of the publications it accepted, one
list for each stream. The server holds the last of them, and nothing of the other stream. -/

namespace OnboardAutonomy

open HttpCameraPreviewServer

/-- A call of `publish` that was accepted. -/
structure Publication where
  frame : CameraFrame
  targets : List TargetObservation
  publishedAt : TimePoint

namespace Publication

/-- The size of the picture in bytes. -/
def size (p : Publication) : Nat := p.frame.width.toNat * p.frame.height.toNat * 3 / 2

/-- What a request for it is to be answered with. -/
def shown (p : Publication) : PreviewFrame :=
  { sequence := p.frame.sequence
    width := p.frame.width
    height := p.frame.height
    publishedAt := p.publishedAt
    yuv420 := p.frame.yuv420.take p.size
    targets := p.targets }

end Publication

/-- A frame whose dimensions are even and not zero, with a buffer for its picture. -/
structure WellFormed (frame : CameraFrame) : Prop where
  width : frame.width ≠ 0 ∧ frame.width % 2 = 0
  height : frame.height ≠ 0 ∧ frame.height % 2 = 0
  buffer : frame.width.toNat * frame.height.toNat * 3 / 2 ≤ frame.yuv420.length

inductive PreviewCall where
  | publish (stream : CameraPreviewStream) (frame : CameraFrame) (targets : List TargetObservation)
      (now : TimePoint)
  | serve (stream : CameraPreviewStream) (now : TimePoint)

namespace PreviewCall

def stream : PreviewCall → CameraPreviewStream
  | publish stream _ _ _ => stream
  | serve stream _ => stream

/-- No published frame has a size beyond 64 bits. -/
def Fits : PreviewCall → Prop
  | publish _ frame _ _ => frame.width.toNat * frame.height.toNat * 3 / 2 < 2 ^ 64
  | serve _ _ => True

instance : DecidablePred Fits := fun event =>
  match event with
  | publish _ frame _ _ =>
      inferInstanceAs (Decidable (frame.width.toNat * frame.height.toNat * 3 / 2 < 2 ^ 64))
  | serve _ _ => inferInstanceAs (Decidable True)

end PreviewCall

/-- The server beside the log of the accepted publications. -/
structure PreviewLog where
  server : HttpCameraPreviewServer
  accepted : CameraPreviewStream → List Publication := fun _ => []

namespace PreviewLog

def step (log : PreviewLog) : PreviewCall → PreviewLog
  | .publish stream frame targets now =>
      { server := log.server.publish stream frame targets now
        accepted :=
          if log.server.stores stream frame now then
            Function.update log.accepted stream (log.accepted stream ++ [⟨frame, targets, now⟩])
          else log.accepted }
  | .serve _ _ => log

/-- Any interleaving of calls, from a server that has been built. -/
def run (server : HttpCameraPreviewServer) (events : List PreviewCall) : PreviewLog :=
  events.foldl step { server := server }

theorem run_concat (server : HttpCameraPreviewServer) (events : List PreviewCall) (event : PreviewCall) :
    run server (events ++ [event]) = (run server events).step event := by
  rw [run, List.foldl_append]
  rfl

end PreviewLog

/-! ### One call -/

namespace HttpCameraPreviewServer

variable {server : HttpCameraPreviewServer} {stream : CameraPreviewStream} {frame : CameraFrame}
  {now : TimePoint}

theorem rejects_eq_false_iff (hsize : frame.width.toNat * frame.height.toNat * 3 / 2 < 2 ^ 64) :
    rejects frame = false ↔ WellFormed frame := by
  rw [← pictureBytes_eq] at hsize
  rw [rejects, frameBytes_fits, frameBytes_toNat_of_lt hsize, pictureBytes_eq]
  simp only [Bool.or_eq_false_iff, beq_eq_false_iff_ne, bne_eq_false_iff_eq, decide_eq_false_iff_not,
    not_lt, and_true]
  constructor
  · rintro ⟨⟨⟨⟨hwidth, hheight⟩, hwidth'⟩, hheight'⟩, hbuffer⟩
    exact ⟨⟨hwidth, hwidth'⟩, ⟨hheight, hheight'⟩, hbuffer⟩
  · intro h
    exact ⟨⟨⟨⟨h.width.1, h.height.1⟩, h.width.2⟩, h.height.2⟩, h.buffer⟩

/-- A stream that has shown nothing yet is never too soon. -/
theorem tooSoon_eq_false_iff : server.tooSoon stream now = false ↔
    ∀ t, server.lastPublishedAt (streamIndex stream) = some t → server.minimumFrameInterval ≤ now - t := by
  rw [tooSoon, decide_eq_false_iff_not, not_lt]
  cases server.lastPublishedAt (streamIndex stream) with
  | none => simp
  | some t => simp

theorem stores_iff_wellFormed (hsize : frame.width.toNat * frame.height.toNat * 3 / 2 < 2 ^ 64) :
    server.stores stream frame now = true ↔ WellFormed frame ∧
      ∀ t, server.lastPublishedAt (streamIndex stream) = some t →
        server.minimumFrameInterval ≤ now - t := by
  rw [stores, Bool.and_eq_true, Bool.not_eq_true', Bool.not_eq_true', rejects_eq_false_iff hsize,
    tooSoon_eq_false_iff, and_comm]

theorem publish_of_not_stores (targets : List TargetObservation)
    (h : server.stores stream frame now = false) : server.publish stream frame targets now = server := by
  rw [publish, h, Bool.not_false, if_pos rfl]

theorem publish_of_stores (targets : List TargetObservation) (h : server.stores stream frame now = true)
    (hsize : frame.width.toNat * frame.height.toNat * 3 / 2 < 2 ^ 64) :
    server.publish stream frame targets now =
      { server with
        latestFrames := Function.update server.latestFrames (streamIndex stream)
          (some (Publication.mk frame targets now).shown)
        lastPublishedAt := Function.update server.lastPublishedAt (streamIndex stream) (some now) } := by
  rw [publish, h, Bool.not_true, if_neg Bool.false_ne_true, Publication.shown, Publication.size,
    ← pictureBytes_eq, frameBytes_toNat_of_lt]
  rwa [pictureBytes_eq]

end HttpCameraPreviewServer

/-! ### Runs -/

/-- The server holds, for each stream, the last publication it accepted; these are the interval apart. -/
structure Holds (interval : Int) (log : PreviewLog) : Prop where
  configured : log.server.minimumFrameInterval = interval
  frame : ∀ stream, log.server.latestFrames (streamIndex stream) =
    (log.accepted stream).getLast?.map Publication.shown
  time : ∀ stream, log.server.lastPublishedAt (streamIndex stream) =
    (log.accepted stream).getLast?.map Publication.publishedAt
  spaced : ∀ stream, (log.accepted stream).IsChain fun p q => interval ≤ q.publishedAt - p.publishedAt

namespace Holds

variable {interval : Int} {log : PreviewLog}

theorem start (interval : Int) : Holds interval { server := { minimumFrameInterval := interval } } :=
  ⟨rfl, fun _ => rfl, fun _ => rfl, fun _ => List.isChain_nil⟩

/-- What is accepted is stored, and it comes an interval after the last of its stream. -/
theorem accept (h : Holds interval log) {stream : CameraPreviewStream} {frame : CameraFrame}
    {targets : List TargetObservation} {now : TimePoint}
    (hsize : frame.width.toNat * frame.height.toNat * 3 / 2 < 2 ^ 64)
    (hstores : log.server.stores stream frame now = true) :
    Holds interval
      { server := log.server.publish stream frame targets now
        accepted := Function.update log.accepted stream (log.accepted stream ++ [⟨frame, targets, now⟩]) } := by
  rw [publish_of_stores targets hstores hsize]
  have hdue := ((stores_iff_wellFormed hsize).mp hstores).2
  refine ⟨h.configured, fun other => ?_, fun other => ?_, fun other => ?_⟩
  · rcases eq_or_ne other stream with rfl | hother
    · simp only [Function.update_self, List.getLast?_concat, Option.map_some]
    · simp only [Function.update_of_ne hother, Function.update_of_ne (streamIndex_injective.ne hother)]
      exact h.frame other
  · rcases eq_or_ne other stream with rfl | hother
    · simp only [Function.update_self, List.getLast?_concat, Option.map_some]
    · simp only [Function.update_of_ne hother, Function.update_of_ne (streamIndex_injective.ne hother)]
      exact h.time other
  · rcases eq_or_ne other stream with rfl | hother
    · simp only [Function.update_self]
      refine List.isChain_append.mpr ⟨h.spaced other, List.isChain_singleton _, fun p hp q hq => ?_⟩
      cases hq
      rw [← h.configured]
      refine hdue p.publishedAt ?_
      rw [h.time, hp, Option.map_some]
    · simp only [Function.update_of_ne hother]
      exact h.spaced other

theorem step (h : Holds interval log) {event : PreviewCall} (hsize : event.Fits) :
    Holds interval (log.step event) := by
  cases event with
  | serve stream now => exact h
  | publish stream frame targets now =>
      cases hstores : log.server.stores stream frame now with
      | false =>
          rw [PreviewLog.step, hstores, publish_of_not_stores targets hstores]
          exact h
      | true =>
          rw [PreviewLog.step, hstores, if_pos rfl]
          exact h.accept hsize hstores

theorem run (interval : Int) (events : List PreviewCall) (hsizes : ∀ event ∈ events, event.Fits) :
    Holds interval (PreviewLog.run { minimumFrameInterval := interval } events) := by
  induction events using List.reverseRecOn with
  | nil => exact start interval
  | append_singleton events event ih =>
      rw [PreviewLog.run_concat]
      exact (ih fun other hmem => hsizes other (List.mem_append_left _ hmem)).step
        (hsizes event (List.mem_append_right _ (List.mem_singleton.mpr rfl)))

/-- A request is answered with the last accepted publication of its stream while that is fresh. -/
theorem serveFrame (h : Holds interval log) (stream : CameraPreviewStream) (now : TimePoint) :
    log.server.serveFrame stream now =
      match (log.accepted stream).getLast? with
      | none => noContent
      | some p => if now - p.publishedAt ≤ seconds 2 then frameResponse stream p.shown else noContent := by
  rw [HttpCameraPreviewServer.serveFrame, h.frame]
  cases (log.accepted stream).getLast? with
  | none => rfl
  | some p =>
      show (if seconds 2 < now - p.publishedAt then _ else _) = _
      by_cases hfresh : now - p.publishedAt ≤ seconds 2
      · simp only [if_neg (not_lt.mpr hfresh), if_pos hfresh]
      · simp only [if_pos (not_le.mp hfresh), if_neg hfresh]

/-- Whether a publication is accepted depends on its frame and on the last accepted one of its stream. -/
theorem stores_iff (h : Holds interval log) {frame : CameraFrame}
    (hsize : frame.width.toNat * frame.height.toNat * 3 / 2 < 2 ^ 64) (stream : CameraPreviewStream)
    (now : TimePoint) : log.server.stores stream frame now = true ↔ WellFormed frame ∧
      ∀ p, (log.accepted stream).getLast? = some p → interval ≤ now - p.publishedAt := by
  rw [stores_iff_wellFormed hsize, h.configured, h.time]
  simp only [Option.map_eq_some_iff, forall_exists_index, and_imp, forall_apply_eq_imp_iff₂]

theorem accepts_iff (h : Holds interval log) {frame : CameraFrame}
    (hsize : frame.width.toNat * frame.height.toNat * 3 / 2 < 2 ^ 64) (stream : CameraPreviewStream)
    (targets : List TargetObservation) (now : TimePoint) :
    (log.step (.publish stream frame targets now)).accepted stream =
        log.accepted stream ++ [⟨frame, targets, now⟩] ↔
      WellFormed frame ∧ ∀ p, (log.accepted stream).getLast? = some p →
        interval ≤ now - p.publishedAt := by
  rw [← h.stores_iff hsize stream now, PreviewLog.step]
  cases log.server.stores stream frame now with
  | false => simp
  | true => simp

theorem step_malformed (h : Holds interval log) {frame : CameraFrame}
    (hsize : frame.width.toNat * frame.height.toNat * 3 / 2 < 2 ^ 64) (hmalformed : ¬WellFormed frame)
    (stream : CameraPreviewStream) (targets : List TargetObservation) (now : TimePoint) :
    log.step (.publish stream frame targets now) = log := by
  have hstores : log.server.stores stream frame now = false := by
    rw [← Bool.not_eq_true, h.stores_iff hsize stream now]
    exact fun hstores => hmalformed hstores.1
  rw [PreviewLog.step, publish_of_not_stores targets hstores, hstores, if_neg Bool.false_ne_true]

end Holds

/-! ### The other stream -/

/-- The two runs agree on a stream. -/
structure AgreeOn (stream : CameraPreviewStream) (a b : PreviewLog) : Prop where
  interval : a.server.minimumFrameInterval = b.server.minimumFrameInterval
  frame : a.server.latestFrames (streamIndex stream) = b.server.latestFrames (streamIndex stream)
  time : a.server.lastPublishedAt (streamIndex stream) = b.server.lastPublishedAt (streamIndex stream)
  accepted : a.accepted stream = b.accepted stream

namespace AgreeOn

variable {stream : CameraPreviewStream} {a b : PreviewLog}

theorem stores (h : AgreeOn stream a b) (frame : CameraFrame) (now : TimePoint) :
    a.server.stores stream frame now = b.server.stores stream frame now := by
  rw [HttpCameraPreviewServer.stores, HttpCameraPreviewServer.tooSoon, h.interval, h.time]
  rfl

theorem serveFrame (h : AgreeOn stream a b) (now : TimePoint) :
    a.server.serveFrame stream now = b.server.serveFrame stream now := by
  rw [HttpCameraPreviewServer.serveFrame, h.frame, HttpCameraPreviewServer.serveFrame]

/-- A call on the stream itself, in both runs. -/
theorem step (h : AgreeOn stream a b) {event : PreviewCall} (hstream : event.stream = stream) :
    AgreeOn stream (a.step event) (b.step event) := by
  cases event with
  | serve other now => exact h
  | publish other frame targets now =>
      change other = stream at hstream
      subst hstream
      have hstores := h.stores frame now
      cases hb : b.server.stores other frame now with
      | false =>
          rw [hb] at hstores
          rw [PreviewLog.step, PreviewLog.step, hstores, hb, publish_of_not_stores targets hstores,
            publish_of_not_stores targets hb]
          exact h
      | true =>
          rw [hb] at hstores
          simp only [PreviewLog.step, HttpCameraPreviewServer.publish, hb, hstores, Bool.not_true,
            Bool.false_eq_true, if_false, if_true]
          refine ⟨h.interval, ?_, ?_, ?_⟩
          · simp only [Function.update_self]
          · simp only [Function.update_self]
          · simp only [Function.update_self, h.accepted]

/-- A call on the other stream, in the first run only. -/
theorem stepOther (h : AgreeOn stream a b) {event : PreviewCall} (hstream : event.stream ≠ stream) :
    AgreeOn stream (a.step event) b := by
  cases event with
  | serve other now => exact h
  | publish other frame targets now =>
      have hother : stream ≠ other := fun heq => hstream heq.symm
      have hindex := streamIndex_injective.ne hother
      cases ha : a.server.stores other frame now with
      | false =>
          rw [PreviewLog.step, ha, publish_of_not_stores targets ha]
          exact h
      | true =>
          simp only [PreviewLog.step, HttpCameraPreviewServer.publish, ha, Bool.not_true,
            Bool.false_eq_true, if_false, if_true]
          refine ⟨h.interval, ?_, ?_, ?_⟩
          · simp only [Function.update_of_ne hindex, h.frame]
          · simp only [Function.update_of_ne hindex, h.time]
          · simp only [Function.update_of_ne hother, h.accepted]

/-- A stream does not notice the calls on the other one. -/
theorem run (server : HttpCameraPreviewServer) (stream : CameraPreviewStream) (events : List PreviewCall) :
    AgreeOn stream (PreviewLog.run server events)
      (PreviewLog.run server (events.filter fun event => event.stream = stream)) := by
  induction events using List.reverseRecOn with
  | nil => exact ⟨rfl, rfl, rfl, rfl⟩
  | append_singleton events event ih =>
      rw [PreviewLog.run_concat, List.filter_append]
      by_cases hstream : event.stream = stream
      · rw [List.filter_singleton, decide_eq_true hstream, cond_true, PreviewLog.run_concat]
        exact ih.step hstream
      · rw [List.filter_singleton, decide_eq_false hstream, cond_false, List.append_nil]
        exact ih.stepOther hstream

end AgreeOn

/-! ### The store -/

/-- What the preview server keeps to, after any calls and for any next call. -/
structure PreviewStore (interval : Int) (server : HttpCameraPreviewServer) (events : List PreviewCall) :
    Prop where
  served : ∀ stream now, (PreviewLog.run server events).server.serveFrame stream now =
    match ((PreviewLog.run server events).accepted stream).getLast? with
    | none => noContent
    | some p => if now - p.publishedAt ≤ seconds 2 then frameResponse stream p.shown else noContent
  spaced : ∀ stream, ((PreviewLog.run server events).accepted stream).IsChain
    fun p q => interval ≤ q.publishedAt - p.publishedAt
  accepts : ∀ stream frame targets now, (PreviewCall.publish stream frame targets now).Fits →
    (((PreviewLog.run server events).step (.publish stream frame targets now)).accepted stream =
        (PreviewLog.run server events).accepted stream ++ [⟨frame, targets, now⟩] ↔
      WellFormed frame ∧ ∀ p, ((PreviewLog.run server events).accepted stream).getLast? = some p →
        interval ≤ now - p.publishedAt)
  malformed : ∀ stream frame targets now, (PreviewCall.publish stream frame targets now).Fits →
    ¬WellFormed frame →
    (PreviewLog.run server events).step (.publish stream frame targets now) = PreviewLog.run server events
  apart : ∀ stream, AgreeOn stream (PreviewLog.run server events)
    (PreviewLog.run server (events.filter fun event => event.stream = stream))
  servedApart : ∀ stream now, (PreviewLog.run server events).server.serveFrame stream now =
    (PreviewLog.run server (events.filter fun event => event.stream = stream)).server.serveFrame stream now

theorem checkedFrameInterval_eq_ok {maximumFramesPerSecond interval : UInt32}
    (h : checkedFrameInterval maximumFramesPerSecond = .ok interval) :
    interval = 1000000 / maximumFramesPerSecond := by
  obtain ⟨_, hok⟩ := check_bind_ok.mp h
  cases hok
  rfl

theorem makeHttpCameraPreviewServer_eq_ok {config : HttpCameraPreviewConfig}
    {server : HttpCameraPreviewServer} (h : makeHttpCameraPreviewServer config = .ok server) :
    server = { minimumFrameInterval := (1000000 / config.maximumFramesPerSecond).toNat * 1000 } := by
  rw [makeHttpCameraPreviewServer] at h
  cases hinterval : checkedFrameInterval config.maximumFramesPerSecond with
  | error message =>
      rw [hinterval] at h
      cases h
  | ok interval =>
      rw [hinterval] at h
      obtain ⟨_, hok⟩ := check_bind_ok.mp h
      cases hok
      rw [checkedFrameInterval_eq_ok hinterval]

/-- A frame of two pixels by two. -/
def smallFrame (sequence : Nat) (yuv420 : List UInt8) : CameraFrame :=
  { sequence := sequence
    width := 2
    height := 2
    yuv420 := yuv420
    capturedAt := none
    receivedAt := 0 }

def previewConfig : HttpCameraPreviewConfig :=
  { bindAddress := "0.0.0.0"
    port := 8080
    maximumFramesPerSecond := 10
    downwardCamera := true
    forwardCamera := true }

/-- A good frame, a short one, one of the other stream and one that comes too soon. -/
def previewEvents : List PreviewCall :=
  [.publish .downward (smallFrame 1 [1, 2, 3, 4, 5, 6, 7]) [] 0,
    .publish .downward (smallFrame 2 [1]) [] (milliseconds 100),
    .publish .forward (smallFrame 3 [8, 8, 8, 8, 8, 8]) [] (milliseconds 100),
    .serve .downward (milliseconds 120),
    .publish .downward (smallFrame 4 [9, 9, 9, 9, 9, 9]) [] (milliseconds 120)]

end OnboardAutonomy
