import OnboardAutonomy.VideoStream

/-! The frame timeout of the GStreamer source. An attempt is given up as stalled exactly when no video byte has
come and no frame has been begun for the frame timeout, and it is reported as stalled for no other reason. -/

namespace OnboardAutonomy

namespace GStreamerEvent

/-- When the reading of a frame began, or some bytes of it came. -/
def progressIn? (attempt : Nat) : GStreamerEvent → Option Int
  | began readAttempt now => if readAttempt = attempt then some now else none
  | progressed readAttempt now => if readAttempt = attempt then some now else none
  | _ => none

/-- The readings of the clock while a frame is read. -/
def time? : GStreamerEvent → Option Int
  | began _ now => some now
  | progressed _ now => some now
  | waited _ now => some now
  | stalled _ now => some now
  | _ => none

end GStreamerEvent

namespace GStreamerCapture

def progressOf (log : List GStreamerEvent) (attempt : Nat) : List Int :=
  log.filterMap (GStreamerEvent.progressIn? attempt)

def times (log : List GStreamerEvent) : List Int := log.filterMap GStreamerEvent.time?

/-- The events of a log come in the order of the clock. -/
def Steady (log : List GStreamerEvent) : Prop := (times log).Pairwise (· ≤ ·)

/-- What an event says about those before it: a stall has been silent for the timeout, a wait that goes on has
not, and nothing is read behind a stall. -/
def Verdict (timeout : Int) (before : List GStreamerEvent) : GStreamerEvent → Prop
  | .stalled attempt now => ∀ progress ∈ progressOf before attempt, timeout ≤ now - progress
  | .waited attempt now => ∃ progress ∈ progressOf before attempt, now - progress < timeout
  | .began attempt _ => ∀ now, .stalled attempt now ∉ before
  | .progressed attempt _ => ∀ now, .stalled attempt now ∉ before
  | .failed attempt (.ended .timedOut _) => ∃ now, .stalled attempt now ∈ before
  | _ => True

def Judged (timeout : Int) (log : List GStreamerEvent) : Prop :=
  ∀ before event after, log = before ++ event :: after → Verdict timeout before event

section Log

variable {timeout : Int} {log : List GStreamerEvent} {event : GStreamerEvent}

theorem Judged.concat (h : Judged timeout log) (hevent : Verdict timeout log event) :
    Judged timeout (log ++ [event]) := by
  intro before event' after hsplit
  rcases List.eq_nil_or_concat after with rfl | ⟨after, last, rfl⟩
  · obtain ⟨rfl, hlast⟩ := List.append_inj' hsplit rfl
    cases hlast
    exact hevent
  · rw [List.concat_eq_append, ← List.cons_append, ← List.append_assoc] at hsplit
    exact h before event' after (List.append_inj' hsplit rfl).1

theorem Steady.before {events : List GStreamerEvent} (h : Steady (log ++ events)) : Steady log := by
  rw [Steady, times, List.filterMap_append, List.pairwise_append] at h
  exact h.1

/-- The last reading is the latest. -/
theorem Steady.le_last {now progress : Int} {attempt : Nat} (h : Steady (log ++ [event]))
    (htime : event.time? = some now) (hprogress : progress ∈ progressOf log attempt) : progress ≤ now := by
  rw [Steady, times, List.filterMap_append, List.pairwise_append] at h
  refine h.2.2 progress ?_ now (List.mem_filterMap.mpr ⟨event, List.mem_singleton_self _, htime⟩)
  obtain ⟨earlier, hmem, hearlier⟩ := List.mem_filterMap.mp hprogress
  refine List.mem_filterMap.mpr ⟨earlier, hmem, ?_⟩
  unfold GStreamerEvent.progressIn? at hearlier
  split at hearlier
  · exact (Option.ite_none_right_eq_some.mp hearlier).2
  · exact (Option.ite_none_right_eq_some.mp hearlier).2
  · cases hearlier

theorem progressOf_append (log events : List GStreamerEvent) (attempt : Nat) :
    progressOf (log ++ events) attempt = progressOf log attempt ++ progressOf events attempt :=
  List.filterMap_append

end Log

end GStreamerCapture

/-- The result that the attempt has come to, until it is reported. -/
def GStreamerPhase.result? : GStreamerPhase → Option ReadResult
  | .closing result _ => some result
  | .joining result _ => some result
  | .reporting result _ => some result
  | .failing result _ => some result
  | _ => none

namespace GStreamerCapture

/-- The worker knows when the last progress was, and whether the attempt has stalled. -/
structure Watched (r : GStreamerCapture × List GStreamerEvent) : Prop where
  last : ∀ f, r.1.phase = .reading f → f.lastProgress ∈ progressOf r.2 r.1.attempt ∧
    ∀ progress ∈ progressOf r.2 r.1.attempt, progress ≤ f.lastProgress
  judged : Judged r.1.frameTimeout r.2
  lively : ∀ attempt now, .stalled attempt now ∈ r.2 → attempt ≤ r.1.attempt ∧
    (attempt = r.1.attempt → r.1.phase ≠ .launching ∧ r.1.phase.pending? = none)
  cause : r.1.phase.result? = some .timedOut → ∃ now, .stalled r.1.attempt now ∈ r.2

theorem watched_start (config : GStreamerCameraConfig) : Watched (start config, []) where
  last _ h := by cases h
  judged _ _ _ h := by simp at h
  lively _ _ h := absurd h List.not_mem_nil
  cause h := by cases h

section Steps

variable {c d : GStreamerCapture} {log events : List GStreamerEvent}

/-- An event that has nothing to do with the timeout. -/
def Untimed (event : GStreamerEvent) : Prop :=
  (∀ attempt, event.progressIn? attempt = none) ∧ (∀ attempt now, event ≠ .stalled attempt now) ∧
    ∀ timeout before, Verdict timeout before event

theorem judged_untimed {timeout : Int} (h : Judged timeout log) (huntimed : ∀ event ∈ events, Untimed event) :
    Judged timeout (log ++ events) := by
  induction events generalizing log with
  | nil =>
      rw [List.append_nil]
      exact h
  | cons event events ih =>
      obtain ⟨hevent, hevents⟩ := List.forall_mem_cons.mp huntimed
      rw [List.append_cons]
      exact ih (h.concat (hevent.2.2 timeout log)) hevents

theorem progressOf_untimed (huntimed : ∀ event ∈ events, Untimed event) (attempt : Nat) :
    progressOf (log ++ events) attempt = progressOf log attempt := by
  have hnone : progressOf events attempt = [] :=
    List.filterMap_eq_nil_iff.mpr fun event hmem => (huntimed event hmem).1 attempt
  rw [progressOf_append, hnone, List.append_nil]

theorem stalled_untimed (huntimed : ∀ event ∈ events, Untimed event) {attempt : Nat} {now : Int} :
    .stalled attempt now ∈ log ++ events ↔ .stalled attempt now ∈ log := by
  rw [List.mem_append, or_iff_left]
  exact fun hmem => (huntimed _ hmem).2.1 attempt now rfl

/-- A step behind which the worker reads the same frame or none. -/
theorem Watched.aside (h : Watched (c, log)) (huntimed : ∀ event ∈ events, Untimed event)
    (hconfig : d.config = c.config) (hattempt : d.attempt = c.attempt)
    (hreading : ∀ f, d.phase = .reading f → c.phase = .reading f)
    (hpending : c.phase.pending? = none → d.phase.pending? = none)
    (hlaunching : d.phase = .launching → c.phase = .launching)
    (hresult : d.phase.result? = some .timedOut → c.phase.result? = some .timedOut) :
    Watched (d, log ++ events) := by
  have htimeout : d.frameTimeout = c.frameTimeout := by rw [frameTimeout, hconfig, frameTimeout]
  refine ⟨?_, ?_, ?_, ?_⟩
  · intro f hphase
    simpa only [hattempt, progressOf_untimed huntimed] using h.last f (hreading f hphase)
  · rw [htimeout]
    exact judged_untimed h.judged huntimed
  · intro attempt now hmem
    obtain ⟨hle, hlively⟩ := h.lively attempt now ((stalled_untimed huntimed).mp hmem)
    refine ⟨hattempt ▸ hle, fun hsame => ?_⟩
    obtain ⟨hnot, hnone⟩ := hlively (hsame.trans hattempt)
    exact ⟨fun hd => hnot (hlaunching hd), hpending hnone⟩
  · intro hd
    obtain ⟨now, hmem⟩ := h.cause (hresult hd)
    exact ⟨now, hattempt ▸ (stalled_untimed huntimed).mpr hmem⟩

/-- No frame is being read in a stalled attempt. -/
theorem Watched.unstalled (h : Watched (c, log)) {pending : List UInt8} (hpending : c.phase.pending? = some pending)
    (now : Int) : .stalled c.attempt now ∉ log := fun hmem => by
  have hnone := ((h.lively c.attempt now hmem).2 rfl).2
  rw [show c.phase.pending? = none from hnone] at hpending
  cases hpending

/-- The reading of a frame begins or goes on at a new time. -/
theorem Watched.progress (h : Watched (c, log)) {pending : List UInt8} {event : GStreamerEvent} {now : Int}
    {f : FrameRead} (hpending : c.phase.pending? = some pending) (hconfig : d.config = c.config)
    (hattempt : d.attempt = c.attempt) (hphase : d.phase = .reading f) (hlast : f.lastProgress = now)
    (hevent : event = .began c.attempt now ∨ event = .progressed c.attempt now) (hsteady : Steady (log ++ [event])) :
    Watched (d, log ++ [event]) := by
  have htimeout : d.frameTimeout = c.frameTimeout := by rw [frameTimeout, hconfig, frameTimeout]
  have hprogress : progressOf [event] c.attempt = [now] := by
    rcases hevent with rfl | rfl <;> simp [progressOf, GStreamerEvent.progressIn?]
  have htime : event.time? = some now := by rcases hevent with rfl | rfl <;> rfl
  have hstalled : ∀ attempt now', .stalled attempt now' ∈ log ++ [event] → .stalled attempt now' ∈ log := by
    intro attempt now' hmem
    rcases List.mem_append.mp hmem with hmem | hmem
    · exact hmem
    · rcases hevent with rfl | rfl <;> cases List.mem_singleton.mp hmem
  refine ⟨?_, ?_, ?_, ?_⟩
  · intro f' hf'
    cases hphase.symm.trans hf'
    simp only [hattempt, progressOf_append, hprogress, hlast, List.mem_append, List.mem_singleton]
    refine ⟨.inr trivial, fun progress hmem => ?_⟩
    rcases hmem with hmem | rfl
    · exact hsteady.le_last htime hmem
    · exact le_rfl
  · rw [htimeout]
    refine h.judged.concat ?_
    rcases hevent with rfl | rfl <;> exact h.unstalled hpending
  · intro attempt now' hmem
    have hbefore := hstalled attempt now' hmem
    obtain ⟨hle, -⟩ := h.lively attempt now' hbefore
    refine ⟨hattempt ▸ hle, fun hsame => ?_⟩
    rw [hsame, hattempt] at hbefore
    exact absurd hbefore (h.unstalled hpending now')
  · intro hd
    rw [hphase] at hd
    cases hd

/-- The attempt stalls. -/
theorem Watched.stall (h : Watched (c, log)) {f : FrameRead} {now : Int} (hphase : c.phase = .reading f)
    (hsilent : c.frameTimeout ≤ now - f.lastProgress) :
    Watched ({ c with phase := .closing .timedOut {} }, log ++ [.stalled c.attempt now]) := by
  refine ⟨fun f hd => (by cases hd), ?_, ?_, ?_⟩
  · refine h.judged.concat fun progress hmem => ?_
    have hle := (h.last f hphase).2 progress hmem
    exact hsilent.trans (Int.sub_le_sub_left hle now)
  · intro attempt now' hmem
    refine ⟨?_, fun _ => ⟨GStreamerPhase.noConfusion, rfl⟩⟩
    rcases List.mem_append.mp hmem with hmem | hmem
    · exact (h.lively attempt now' hmem).1
    · cases List.mem_singleton.mp hmem
      exact le_rfl
  · exact fun _ => ⟨now, List.mem_append_right log (List.mem_singleton_self _)⟩

/-- The worker waits on. -/
theorem Watched.wait (h : Watched (c, log)) {f : FrameRead} {now : Int} (hphase : c.phase = .reading f)
    (hrecent : now - f.lastProgress < c.frameTimeout) :
    Watched ({ c with phase := .reading f }, log ++ [.waited c.attempt now]) := by
  have hprogress : ∀ attempt, progressOf (log ++ [.waited c.attempt now]) attempt = progressOf log attempt :=
    fun attempt => by
      rw [progressOf_append]
      exact List.append_nil _
  have hmem : ∀ attempt now', GStreamerEvent.stalled attempt now' ∈ log ++ [.waited c.attempt now] →
      .stalled attempt now' ∈ log := fun attempt now' hmem => by
    rcases List.mem_append.mp hmem with hmem | hmem
    · exact hmem
    · cases List.mem_singleton.mp hmem
  refine ⟨?_, ?_, ?_, fun hd => (by cases hd)⟩
  · intro f' hf'
    cases hf'
    rw [hprogress]
    exact h.last f hphase
  · exact h.judged.concat ⟨f.lastProgress, (h.last f hphase).1, hrecent⟩
  · intro attempt now' hstalled
    have hbefore := hmem attempt now' hstalled
    refine ⟨(h.lively attempt now' hbefore).1, fun hsame => ?_⟩
    rw [hsame] at hbefore
    exact absurd hbefore (h.unstalled (by rw [hphase]; rfl) now')

theorem untimed_nil : ∀ event ∈ ([] : List GStreamerEvent), Untimed event :=
  fun _ hmem => absurd hmem List.not_mem_nil

theorem untimed_published (attempt : Nat) (frame : CameraFrame) : Untimed (.published attempt frame) :=
  ⟨fun _ => rfl, fun _ _ => GStreamerEvent.noConfusion, fun _ _ => trivial⟩

theorem untimed_wrote (attempt : Nat) (bytes : List UInt8) : Untimed (.wrote attempt bytes) :=
  ⟨fun _ => rfl, fun _ _ => GStreamerEvent.noConfusion, fun _ _ => trivial⟩

theorem untimed_complained (attempt : Nat) (text : List UInt8) : Untimed (.complained attempt text) :=
  ⟨fun _ => rfl, fun _ _ => GStreamerEvent.noConfusion, fun _ _ => trivial⟩

theorem Watched.turn (h : Watched (c, log)) {phase : GStreamerPhase} (hturn : Turn c c.phase phase events)
    (hsteady : Steady (log ++ events)) : Watched ({ c with phase := phase }, log ++ events) := by
  generalize hphase : c.phase = before at hturn
  cases hturn with
  | stay =>
      exact h.aside untimed_nil rfl rfl (fun f hd => hphase.trans hd)
        (fun hp => (by rw [hphase] at hp; exact hp)) (fun hd => hphase.trans hd)
        (fun hd => (by rw [hphase]; exact hd))
  | beginFrame now => exact h.progress (by rw [hphase]; rfl) rfl rfl rfl rfl (.inl rfl) hsteady
  | stalled f now hsilent => exact h.stall hphase hsilent
  | waited f now hrecent => exact h.wait hphase hrecent
  | filled f hfull =>
      exact h.aside untimed_nil rfl rfl (fun f hd => (by cases hd)) (fun hp => (by rw [hphase] at hp; cases hp))
        (fun hd => (by cases hd)) (fun hd => (by cases hd))
  | ended f result hcause =>
      exact h.aside untimed_nil rfl rfl (fun f hd => (by cases hd)) (fun hp => (by rw [hphase] at hp; cases hp))
        (fun hd => (by cases hd)) (fun hd => absurd (Option.some.inj hd) hcause)
  | signal result stop stop' =>
      exact h.aside untimed_nil rfl rfl (fun f hd => (by cases hd)) (fun _ => rfl) (fun hd => (by cases hd))
        (fun hd => (by rw [hphase]; exact hd))
  | joined result status =>
      exact h.aside untimed_nil rfl rfl (fun f hd => (by cases hd)) (fun _ => rfl) (fun hd => (by cases hd))
        (fun hd => (by rw [hphase]; exact hd))
  | blame result status =>
      exact h.aside untimed_nil rfl rfl (fun f hd => (by cases hd)) (fun _ => rfl) (fun hd => (by cases hd))
        (fun hd => (by rw [hphase]; exact hd))
  | _ =>
      exact h.aside untimed_nil rfl rfl (fun f hd => (by cases hd)) (fun _ => rfl) (fun hd => (by cases hd))
        (fun hd => (by cases hd))

theorem Watched.prepare (h : Watched (c, log)) : Watched (c.prepareAttempt, log ++ []) := by
  rw [List.append_nil]
  refine ⟨fun f hd => (by cases hd), h.judged, ?_, fun hd => (by cases hd)⟩
  intro attempt now hmem
  have hle := (h.lively attempt now hmem).1
  exact ⟨Nat.le_succ_of_le hle, fun hsame => absurd (hsame ▸ hle) (Nat.not_succ_le_self _)⟩

/-- A new attempt has not stalled. -/
theorem Watched.launch (h : Watched (c, log)) (hphase : c.phase = .launching) (hattempt : d.attempt = c.attempt)
    (hconfig : d.config = c.config) (hd : d.phase = .framing) : Watched (d, log ++ []) := by
  rw [List.append_nil]
  refine ⟨fun f hf => ?_, ?_, fun attempt now hmem => ?_, fun hr => ?_⟩
  · rw [show d.phase = .reading f from hf] at hd
    cases hd
  · rw [frameTimeout, hconfig]
    exact h.judged
  · obtain ⟨hle, hlively⟩ := h.lively attempt now hmem
    exact ⟨hattempt ▸ hle, fun hsame => absurd hphase (hlively (hsame.trans hattempt)).1⟩
  · rw [show d.phase = .framing from hd] at hr
    cases hr

theorem Watched.fail (h : Watched (c, log)) (failure : CaptureFailure)
    (hphase : c.phase = .launching ∧ (∀ result status, failure ≠ .ended result status) ∨
      ∃ result status, c.phase = .failing result status ∧ failure = .ended result status) :
    Watched (c.fail failure, log ++ [.failed c.attempt failure]) := by
  refine ⟨fun f hd => (by cases hd), ?_, ?_, fun hd => (by cases hd)⟩
  · refine h.judged.concat ?_
    cases failure with
    | ended result status =>
        rcases hphase with ⟨-, hother⟩ | ⟨result', status', hphase, hfailure⟩
        · exact absurd rfl (hother result status)
        · cases hfailure
          cases result with
          | timedOut => exact h.cause (by rw [hphase]; rfl)
          | _ => trivial
    | _ => trivial
  · intro attempt now hmem
    rcases List.mem_append.mp hmem with hmem | hmem
    · exact ⟨(h.lively attempt now hmem).1, fun _ => ⟨GStreamerPhase.noConfusion, rfl⟩⟩
    · cases List.mem_singleton.mp hmem

theorem Watched.worker (h : Watched (c, log)) (hmove : WorkerMove c d events) (hsteady : Steady (log ++ events)) :
    Watched (d, log ++ events) := by
  cases hmove with
  | turn hturn => exact h.turn hturn hsteady
  | prepare hphase => exact h.prepare
  | launch hphase => exact h.launch hphase rfl rfl rfl
  | fail failure hphase => exact h.fail failure hphase
  | read f pipe bytes rest now hphase =>
      exact h.progress (by rw [hphase]; rfl) rfl rfl rfl rfl (.inr rfl) hsteady
  | publish yuv420 receivedAt hphase =>
      refine h.aside ?_ rfl rfl (fun f hd => (by cases hd)) (fun hp => (by rw [hphase] at hp; cases hp))
        (fun hd => (by cases hd)) (fun hd => (by cases hd))
      exact fun event hmem => List.mem_singleton.mp hmem ▸ untimed_published _ _
  | reap result stop status hphase =>
      exact h.aside untimed_nil rfl rfl (fun f hd => (by cases hd)) (fun _ => rfl) (fun hd => (by cases hd))
        (fun hd => (by rw [hphase]; exact hd))
  | recover hphase =>
      exact h.aside untimed_nil rfl rfl (fun f hd => (by cases hd)) (fun _ => rfl) (fun hd => (by cases hd))
        (fun hd => (by cases hd))
  | finish hphase =>
      exact h.aside untimed_nil rfl rfl (fun f hd => (by cases hd)) (fun _ => rfl) (fun hd => (by cases hd))
        (fun hd => (by cases hd))

theorem Watched.advance (h : Watched (c, log)) (step : GStreamerStep) (hsteady : Steady (advance (c, log) step).2) :
    Watched (advance (c, log) step) := by
  have hsame {d : GStreamerCapture} {events : List GStreamerEvent} (huntimed : ∀ event ∈ events, Untimed event)
      (hconfig : d.config = c.config) (hattempt : d.attempt = c.attempt) (hphase : d.phase = c.phase) :
      Watched (d, log ++ events) :=
    h.aside huntimed hconfig hattempt (fun f hd => hphase ▸ hd) (fun hp => hphase ▸ hp) (fun hd => hphase ▸ hd)
      (fun hd => hphase ▸ hd)
  cases step with
  | worker answer => exact h.worker (c.worker_move answer) hsteady
  | childWrites bytes =>
      refine hsame ?_ rfl rfl rfl
      intro event hmem
      rw [GStreamerCapture.events] at hmem
      split at hmem
      · split at hmem
        · exact absurd hmem List.not_mem_nil
        · exact List.mem_singleton.mp hmem ▸ untimed_wrote _ _
      · exact absurd hmem List.not_mem_nil
  | errorBytes count =>
      obtain ⟨-, hconfig, hattempt, hphase, -⟩ := c.readErrors_keeps count
      refine hsame ?_ hconfig hattempt hphase
      intro event hmem
      rw [GStreamerCapture.events] at hmem
      split at hmem
      · exact List.mem_singleton.mp hmem ▸ untimed_complained _ _
      · exact absurd hmem List.not_mem_nil
  | errorEnd =>
      obtain ⟨-, hconfig, hattempt, hphase, -⟩ := c.endErrors_keeps
      simp only [GStreamerCapture.advance, GStreamerCapture.step, GStreamerCapture.events]
      split
      · exact hsame untimed_nil hconfig hattempt hphase
      · exact hsame untimed_nil rfl rfl rfl
  | errorBroken =>
      obtain ⟨-, hconfig, hattempt, hphase, -⟩ := c.endErrors_keeps
      exact hsame untimed_nil hconfig hattempt hphase
  | _ => exact hsame untimed_nil rfl rfl rfl

end Steps

/-! ### Runs -/

theorem watched_run (config : GStreamerCameraConfig) (steps : List GStreamerStep)
    (hsteady : Steady (run config steps).2) : Watched (run config steps) := by
  induction steps using List.reverseRecOn with
  | nil => exact watched_start config
  | append_singleton steps step ih =>
      rw [run, List.foldl_append] at hsteady ⊢
      have hbefore : Steady (run config steps).2 := Steady.before hsteady
      exact (ih hbefore).advance step hsteady

/-- In every run whose clock does not go backwards: an attempt stalls only when no byte of its video has come
and no frame of it has been begun for the frame timeout; it goes on waiting only when one of these was less
than the timeout ago; nothing is read in it behind a stall; and a failure is reported as a stall only for an
attempt that stalled. -/
theorem run_stalls_exact (config : GStreamerCameraConfig) (steps : List GStreamerStep)
    (hsteady : Steady (run config steps).2) :
    Judged (milliseconds config.frameTimeoutMs.toNat) (run config steps).2 := by
  have hjudged := (watched_run config steps hsteady).judged
  rwa [frameTimeout, run_config] at hjudged

/-- A source of 8x2 pixels that gets one byte and then nothing. -/
def stallingSteps : List GStreamerStep :=
  [.worker .interrupted, .worker .interrupted, .worker .launched, .worker (.clock 0), .childWrites [7],
    .worker (.bytes 24 1000), .worker (.idle 100001000), .worker (.idle 2000001000)]

theorem run_stalls_stalling :
    times (run { width := 8, height := 2, udpPort := 5600 } stallingSteps).2 = [0, 1000, 100001000, 2000001000] ∧
      Judged 2000000000 (run { width := 8, height := 2, udpPort := 5600 } stallingSteps).2 := by
  have htimes : times (run { width := 8, height := 2, udpPort := 5600 } stallingSteps).2 =
      [0, 1000, 100001000, 2000001000] := by decide +kernel
  have hsteady : Steady (run { width := 8, height := 2, udpPort := 5600 } stallingSteps).2 := by
    rw [Steady, htimes]
    decide
  exact ⟨htimes, run_stalls_exact _ stallingSteps hsteady⟩

end GStreamerCapture

end OnboardAutonomy
