import OnboardAutonomy.CompanionCore
import OnboardAutonomy.Decimals
import OnboardAutonomy.JsonLayouts
import OnboardAutonomy.SnapshotJson

/-! `JsonDiagnosticSink` under the loop of `CompanionRunner`. The sink writes one record for each snapshot
and for each event; an exception of the printer leaves the loop and ends the program. The previews of the
camera frames and the other sinks are left out. -/

namespace OnboardAutonomy

/-! ### The records -/

/-- The record that `event` writes. -/
def eventJson (name : String) (recordedAtMs elapsed : Int) (detail : Bytes) (context : Json := .object []) : Json :=
  .object
    [("record_type", .text "event"),
      ("recorded_at_unix_ms", .integer recordedAtMs),
      ("elapsed_ms", .integer elapsed),
      ("event", .text name),
      ("detail", .string detail),
      ("context", context)]

def cameraStreaming (snapshot : AppSnapshot) : Bool :=
  snapshot.camera.any fun camera => camera.phase == .streaming

def initialEvent (snapshot : AppSnapshot) (recordedAtMs : Int) : Json :=
  eventJson "runtime_observation_started" recordedAtMs snapshot.elapsed (literal "diagnostic sink attached")
    (.object [("vehicle_connected", .boolean snapshot.vehicle.connected),
      ("camera_streaming", .boolean (cameraStreaming snapshot))])

def vehicleEvent (snapshot : AppSnapshot) (recordedAtMs : Int) : Json :=
  eventJson (if snapshot.vehicle.connected then "flight_controller_recovered" else "flight_controller_lost")
    recordedAtMs snapshot.elapsed
    (literal (if snapshot.vehicle.connected then "heartbeat recovered" else "heartbeat timed out"))

def cameraEvent (snapshot : AppSnapshot) (recordedAtMs : Int) : Json :=
  eventJson (if cameraStreaming snapshot then "camera_stream_recovered" else "camera_stream_stalled")
    recordedAtMs snapshot.elapsed (snapshot.camera.elim (literal "camera not configured") CameraSnapshot.error)

/-- The record of a call of the sink by the application. -/
def callJson (call : Delivery) (recordedAtMs : Int) : Json :=
  match call with
  | .linkEvent linkEvent =>
      eventJson "mavlink_command_event" recordedAtMs linkEvent.elapsed (literal linkEvent.detail)
        (SnapshotJson.linkEventJson linkEvent)
  | .failsafeTransition previous current elapsed =>
      eventJson "companion_link_failsafe_phase_changed" recordedAtMs elapsed (literal current.detail)
        (.object [("from", .text (companionLinkFailsafePhaseName previous)),
          ("to", .text (companionLinkFailsafePhaseName current.phase))])

/-- The transition events of a snapshot behind the previous one. -/
def transitionJson (previous : Option AppSnapshot) (snapshot : AppSnapshot) (recordedAtMs : Int) : List Json :=
  match previous with
  | none => [initialEvent snapshot recordedAtMs]
  | some previous =>
      (if previous.vehicle.connected != snapshot.vehicle.connected then [vehicleEvent snapshot recordedAtMs]
        else []) ++
      if cameraStreaming previous != cameraStreaming snapshot then [cameraEvent snapshot recordedAtMs] else []

/-! ### The sink -/

structure JsonDiagnosticSink where
  previous : Option AppSnapshot := none
  output : Bytes := []

namespace JsonDiagnosticSink

variable (printer : Json.Printer)

/-- No sink is left when `dump` throws. -/
def write (s : JsonDiagnosticSink) (record : Json) : Option JsonDiagnosticSink :=
  (printer.dump record).map fun line => { s with output := s.output ++ line ++ literal "\n" }

def writeInitialEvent (s : JsonDiagnosticSink) (snapshot : AppSnapshot) (recordedAtMs : Int) :
    Option JsonDiagnosticSink :=
  s.write printer (initialEvent snapshot recordedAtMs)

/-- The first half of `write_connection_events`. -/
def writeVehicleEvent (s : JsonDiagnosticSink) (previous snapshot : AppSnapshot) (recordedAtMs : Int) :
    Option JsonDiagnosticSink :=
  if previous.vehicle.connected != snapshot.vehicle.connected then
    s.write printer (vehicleEvent snapshot recordedAtMs)
  else some s

/-- The second half. -/
def writeCameraEvent (s : JsonDiagnosticSink) (previous snapshot : AppSnapshot) (recordedAtMs : Int) :
    Option JsonDiagnosticSink :=
  if cameraStreaming previous != cameraStreaming snapshot then
    s.write printer (cameraEvent snapshot recordedAtMs)
  else some s

def writeConnectionEvents (s : JsonDiagnosticSink) (previous snapshot : AppSnapshot) (recordedAtMs : Int) :
    Option JsonDiagnosticSink := do
  let s ← s.writeVehicleEvent printer previous snapshot recordedAtMs
  s.writeCameraEvent printer previous snapshot recordedAtMs

def writeEvents (s : JsonDiagnosticSink) (snapshot : AppSnapshot) (recordedAtMs : Int) :
    Option JsonDiagnosticSink :=
  match s.previous with
  | none => s.writeInitialEvent printer snapshot recordedAtMs
  | some previous => s.writeConnectionEvents printer previous snapshot recordedAtMs

def consume (s : JsonDiagnosticSink) (snapshot : AppSnapshot) (recordedAtMs : Int) :
    Option JsonDiagnosticSink := do
  let s ← s.write printer (SnapshotJson.snapshotJson snapshot recordedAtMs)
  let s ← s.writeEvents printer snapshot recordedAtMs
  some { s with previous := some snapshot }

/-- `consume_link_event` and `consume_failsafe_transition`. -/
def observe (s : JsonDiagnosticSink) (call : Delivery) (recordedAtMs : Int) : Option JsonDiagnosticSink :=
  s.write printer (callJson call recordedAtMs)

/-- The calls of a poll, one after the other; each reads the clock. -/
def observeAll (s : JsonDiagnosticSink) (recordedAt : Nat → Int) : List Delivery → Option JsonDiagnosticSink
  | [] => some s
  | call :: calls => do
      let s ← s.observe printer call (recordedAt 0)
      s.observeAll (fun n => recordedAt (n + 1)) calls

end JsonDiagnosticSink

/-! ### What can be printed -/

/-- The record of a snapshot, told by its type. -/
def isSnapshotRecord (record : Json) : Bool :=
  match record with
  | .object fields =>
      match fields.lookup "record_type" with
      | some (.string type) => type == literal "snapshot"
      | _ => false
  | _ => false

theorem isSnapshotRecord_snapshot (snapshot : AppSnapshot) (recordedAtMs : Int) :
    isSnapshotRecord (SnapshotJson.snapshotJson snapshot recordedAtMs) = true := by
  rfl

theorem isSnapshotRecord_call (call : Delivery) (recordedAtMs : Int) :
    isSnapshotRecord (callJson call recordedAtMs) = false := by
  cases call <;> rfl

theorem isSnapshotRecord_transition (previous : Option AppSnapshot) (snapshot : AppSnapshot) (recordedAtMs : Int) :
    ∀ record ∈ transitionJson previous snapshot recordedAtMs, isSnapshotRecord record = false := by
  intro record hmem
  unfold transitionJson at hmem
  split at hmem
  · rw [List.mem_singleton.mp hmem]
    rfl
  · rcases List.mem_append.mp hmem with hvehicle | hcamera
    · split at hvehicle
      · rw [List.mem_singleton.mp hvehicle]
        rfl
      · exact absurd hvehicle List.not_mem_nil
    · split at hcamera
      · rw [List.mem_singleton.mp hcamera]
        rfl
      · exact absurd hcamera List.not_mem_nil

theorem validText_literal (text : String) : ValidText (literal text) := validText_ofString text

/-- An event can be printed when its detail is UTF-8 and its context can be printed. -/
theorem printable_event (name : String) (recordedAtMs elapsed : Int) {detail : Bytes} (hdetail : ValidText detail)
    {context : Json} (hcontext : context.Printable) :
    (eventJson name recordedAtMs elapsed detail context).Printable := by
  simp [eventJson, hdetail, hcontext]

/-- The text of a call comes from the program. -/
theorem printable_call (call : Delivery) (recordedAtMs : Int) : (callJson call recordedAtMs).Printable := by
  cases call with
  | linkEvent linkEvent =>
      exact printable_event _ _ _ (validText_literal _) (SnapshotJson.printable_linkEvent linkEvent)
  | failsafeTransition previous current elapsed =>
      exact printable_event _ _ _ (validText_literal _) (by simp)

theorem printable_initialEvent (snapshot : AppSnapshot) (recordedAtMs : Int) :
    (initialEvent snapshot recordedAtMs).Printable :=
  printable_event _ _ _ (validText_literal _) (by simp)

theorem printable_vehicleEvent (snapshot : AppSnapshot) (recordedAtMs : Int) :
    (vehicleEvent snapshot recordedAtMs).Printable :=
  printable_event _ _ _ (validText_literal _) Json.printable_object_nil

/-- The error of the camera is told again in the event. -/
theorem printable_cameraEvent {snapshot : AppSnapshot} (h : SnapshotJson.TextsValid snapshot) (recordedAtMs : Int) :
    (cameraEvent snapshot recordedAtMs).Printable := by
  refine printable_event _ _ _ ?_ Json.printable_object_nil
  cases hcamera : snapshot.camera with
  | none => exact validText_literal _
  | some camera => exact (h.camera camera hcamera).2

/-! ### What the sink appends -/

namespace JsonDiagnosticSink

variable (printer : Json.Printer)

/-- Between two states of the sink these records were written, each on a line of its own. -/
def Wrote (s s' : JsonDiagnosticSink) (records : List Json) : Prop :=
  ∃ text, printer.print records = some text ∧ s'.output = s.output ++ text

variable {printer}

theorem Wrote.refl (s : JsonDiagnosticSink) : Wrote printer s s [] := ⟨[], rfl, (List.append_nil _).symm⟩

theorem Wrote.trans {s s' s'' : JsonDiagnosticSink} {first second : List Json} (h : Wrote printer s s' first)
    (h' : Wrote printer s' s'' second) : Wrote printer s s'' (first ++ second) := by
  obtain ⟨before, hbefore, houtput⟩ := h
  obtain ⟨after, hafter, houtput'⟩ := h'
  exact ⟨before ++ after, printer.print_append hbefore hafter, by rw [houtput', houtput, List.append_assoc]⟩

variable (printer)

theorem write_of_printable (s : JsonDiagnosticSink) {record : Json} (h : record.Printable) :
    ∃ s', s.write printer record = some s' ∧ s'.previous = s.previous ∧ Wrote printer s s' [record] := by
  obtain ⟨line, hline⟩ := Option.isSome_iff_exists.mp ((printer.dump_isSome record).mpr h)
  refine ⟨{ s with output := s.output ++ line ++ literal "\n" }, ?_, rfl, line ++ [10], ?_, ?_⟩
  · rw [write, hline, Option.map_some]
  · exact printer.print_cons hline rfl
  · exact List.append_assoc ..

theorem write_of_unprintable (s : JsonDiagnosticSink) {record : Json} (h : ¬record.Printable) :
    s.write printer record = none := by
  rw [write, printer.dump_eq_none.mpr h]
  rfl

/-- A record that is written on a condition. -/
theorem writeIf_of_printable (s : JsonDiagnosticSink) (condition : Bool) {record : Json} (h : record.Printable) :
    ∃ s', (if condition then s.write printer record else some s) = some s' ∧
      Wrote printer s s' (if condition then [record] else []) := by
  cases condition with
  | false => exact ⟨s, rfl, Wrote.refl s⟩
  | true =>
      obtain ⟨s', hs', -, hwrote⟩ := s.write_of_printable printer h
      exact ⟨s', hs', hwrote⟩

/-- Every call is recorded. -/
theorem observeAll_writes (calls : List Delivery) : ∀ (recordedAt : Nat → Int) (s : JsonDiagnosticSink),
    ∃ s', s.observeAll printer recordedAt calls = some s' ∧ s'.previous = s.previous ∧
      Wrote printer s s' (calls.mapIdx fun n call => callJson call (recordedAt n)) := by
  induction calls with
  | nil =>
      intro _ s
      exact ⟨s, rfl, rfl, Wrote.refl s⟩
  | cons call calls ih =>
      intro recordedAt s
      obtain ⟨s₁, hs₁, hprevious₁, hwrote₁⟩ :=
        s.write_of_printable printer (printable_call call (recordedAt 0))
      obtain ⟨s₂, hs₂, hprevious₂, hwrote₂⟩ := ih (fun n => recordedAt (n + 1)) s₁
      refine ⟨s₂, ?_, hprevious₂.trans hprevious₁, ?_⟩
      · rw [observeAll, observe, hs₁]
        exact hs₂
      · rw [List.mapIdx_cons]
        exact hwrote₁.trans hwrote₂

theorem writeEvents_writes (s : JsonDiagnosticSink) {snapshot : AppSnapshot} (h : SnapshotJson.TextsValid snapshot)
    (recordedAtMs : Int) :
    ∃ s', s.writeEvents printer snapshot recordedAtMs = some s' ∧
      Wrote printer s s' (transitionJson s.previous snapshot recordedAtMs) := by
  unfold writeEvents transitionJson
  cases s.previous with
  | none =>
      obtain ⟨s', hs', -, hwrote⟩ := s.write_of_printable printer (printable_initialEvent snapshot recordedAtMs)
      exact ⟨s', hs', hwrote⟩
  | some previous =>
      obtain ⟨s₁, hs₁, hvehicle⟩ := s.writeIf_of_printable printer
        (previous.vehicle.connected != snapshot.vehicle.connected) (printable_vehicleEvent snapshot recordedAtMs)
      obtain ⟨s₂, hs₂, hcamera⟩ := s₁.writeIf_of_printable printer
        (cameraStreaming previous != cameraStreaming snapshot) (printable_cameraEvent h recordedAtMs)
      refine ⟨s₂, ?_, hvehicle.trans hcamera⟩
      show s.writeConnectionEvents printer previous snapshot recordedAtMs = some s₂
      rw [writeConnectionEvents, writeVehicleEvent, hs₁]
      exact hs₂

/-- A snapshot with valid texts is recorded once, before its events. -/
theorem consume_of_valid (s : JsonDiagnosticSink) {snapshot : AppSnapshot} (h : SnapshotJson.TextsValid snapshot)
    (recordedAtMs : Int) :
    ∃ s', s.consume printer snapshot recordedAtMs = some s' ∧ s'.previous = some snapshot ∧
      Wrote printer s s'
        (SnapshotJson.snapshotJson snapshot recordedAtMs :: transitionJson s.previous snapshot recordedAtMs) := by
  obtain ⟨s₁, hs₁, hprevious, hsnapshot⟩ :=
    s.write_of_printable printer ((SnapshotJson.printable_snapshot snapshot recordedAtMs).mpr h)
  obtain ⟨s₂, hs₂, hevents⟩ := s₁.writeEvents_writes printer h recordedAtMs
  rw [hprevious] at hevents
  refine ⟨{ s₂ with previous := some snapshot }, ?_, rfl, hsnapshot.trans hevents⟩
  rw [consume, hs₁]
  simp only [Option.bind_eq_bind, Option.bind_some, hs₂]

theorem consume_of_invalid (s : JsonDiagnosticSink) {snapshot : AppSnapshot}
    (h : ¬SnapshotJson.TextsValid snapshot) (recordedAtMs : Int) : s.consume printer snapshot recordedAtMs = none := by
  rw [consume, s.write_of_unprintable printer (mt (SnapshotJson.printable_snapshot snapshot recordedAtMs).mp h)]
  rfl

end JsonDiagnosticSink

/-! ### The loop -/

/-- The sink's number among the application's observation sinks. -/
def kDiagnosticSink : Nat := 0

structure CompanionRunner (ω : Type) where
  application : CompanionApplication ω
  sink : JsonDiagnosticSink := {}

/-- A poll, or the publication of a snapshot. The clock readings are those of the calls of the sink. -/
inductive RunnerEvent where
  | poll (cameraNow now : TimePoint) (messages : List MavlinkMessage) (recordedAt : Nat → Int)
  | publish (now : TimePoint) (camera : Option CameraSnapshot) (vision : Option VisionSnapshot)
      (recordedAtMs : Int)

namespace RunnerEvent

/-- What the event asks of the application. -/
def companion : RunnerEvent → CompanionEvent
  | .poll cameraNow now messages _ => .poll cameraNow now messages
  | .publish now _ _ _ => .snapshot now

def isPublication : RunnerEvent → Bool
  | .poll .. => false
  | .publish .. => true

end RunnerEvent

namespace CompanionRunner

variable {ω : Type} (printer : Json.Printer) (port : OutboundPort ω)

/-- The calls of the sink that a poll has added to the journal. -/
def newCalls (before after : Journal) : List Delivery :=
  ((after.deliveries.drop before.deliveries.length).filter fun call => call.1 = kDiagnosticSink).map Prod.snd

/-- No runner is left when an exception has left the loop. -/
def step (r : CompanionRunner ω) : RunnerEvent → Option (CompanionRunner ω)
  | .poll cameraNow now messages recordedAt =>
      let a := r.application.poll port cameraNow now messages
      (r.sink.observeAll printer recordedAt (newCalls r.application.journal a.journal)).map fun sink =>
        { application := a, sink := sink }
  | .publish now camera vision recordedAtMs =>
      let (a, snapshot) := r.application.snapshot now camera vision
      (r.sink.consume printer snapshot recordedAtMs).map fun sink => { application := a, sink := sink }

def run (r : CompanionRunner ω) : List RunnerEvent → Option (CompanionRunner ω)
  | [] => some r
  | event :: events => (r.step printer port event).bind fun r => r.run events

/-! ### What is to be recorded -/

/-- The records of an event: one for each call, or that of a snapshot with its transition events. -/
def eventRecords (a : CompanionApplication ω) (previous : Option AppSnapshot) : RunnerEvent → List Json
  | .poll cameraNow now messages recordedAt =>
      (newCalls a.journal (a.poll port cameraNow now messages).journal).mapIdx fun n call =>
        callJson call (recordedAt n)
  | .publish now camera vision recordedAtMs =>
      let snapshot := (a.snapshot now camera vision).2
      SnapshotJson.snapshotJson snapshot recordedAtMs :: transitionJson previous snapshot recordedAtMs

/-- The snapshot that is the previous one from then on. -/
def shown (a : CompanionApplication ω) (previous : Option AppSnapshot) : RunnerEvent → Option AppSnapshot
  | .poll .. => previous
  | .publish now camera vision _ => some (a.snapshot now camera vision).2

/-- The records of a run, one after the other. -/
def runRecords (a : CompanionApplication ω) (previous : Option AppSnapshot) : List RunnerEvent → List Json
  | [] => []
  | event :: events =>
      eventRecords port a previous event ++ runRecords (a.step port event.companion) (shown a previous event) events

/-- The previous snapshot behind a run. -/
def lastShown (a : CompanionApplication ω) (previous : Option AppSnapshot) : List RunnerEvent → Option AppSnapshot
  | [] => previous
  | event :: events => lastShown (a.step port event.companion) (shown a previous event) events

/-- An event has a snapshot record exactly when it publishes a snapshot. -/
theorem eventRecords_count (a : CompanionApplication ω) (previous : Option AppSnapshot) (event : RunnerEvent) :
    (eventRecords port a previous event).countP isSnapshotRecord = if event.isPublication then 1 else 0 := by
  cases event with
  | poll cameraNow now messages recordedAt =>
      refine List.countP_eq_zero.mpr fun record hmem => ?_
      obtain ⟨n, hn, rfl⟩ := List.mem_mapIdx.mp hmem
      rw [isSnapshotRecord_call]
      exact Bool.false_ne_true
  | publish now camera vision recordedAtMs =>
      have hnone : (transitionJson previous (a.snapshot now camera vision).2 recordedAtMs).countP
          isSnapshotRecord = 0 :=
        List.countP_eq_zero.mpr fun record hmem =>
          Bool.eq_false_iff.mp (isSnapshotRecord_transition _ _ _ record hmem)
      rw [eventRecords, List.countP_cons_of_pos (isSnapshotRecord_snapshot ..), hnone]
      rfl

/-- A run has a snapshot record for each of its publications. -/
theorem runRecords_count (events : List RunnerEvent) :
    ∀ (a : CompanionApplication ω) (previous : Option AppSnapshot),
      (runRecords port a previous events).countP isSnapshotRecord = events.countP RunnerEvent.isPublication := by
  induction events with
  | nil => exact fun _ _ => rfl
  | cons event events ih =>
      intro a previous
      rw [runRecords, List.countP_append, eventRecords_count, ih, List.countP_cons, Nat.add_comm]

/-! ### Runs -/

/-- The texts that the event shows are UTF-8: the warnings that are not too old, the texts of the camera and the
name of the detector. -/
def ShowsValid (a : CompanionApplication ω) : RunnerEvent → Prop
  | .poll .. => True
  | .publish now camera vision _ =>
      (∀ warning ∈ a.vehicleState.warnings, now - warning.lastSeen ≤ kWarningTimeout → ValidText warning.text) ∧
      (∀ shown ∈ camera, ValidText shown.source ∧ ValidText shown.error) ∧
      ∀ shown ∈ vision, ValidText shown.detector

/-- Every text that a publication of the run shows is UTF-8. -/
def TextsValid : CompanionApplication ω → List RunnerEvent → Prop
  | _, [] => True
  | a, event :: events => ShowsValid a event ∧ TextsValid (a.step port event.companion) events

/-- The warnings of a snapshot are those that are not too old. -/
theorem snapshot_valid_iff (a : CompanionApplication ω) (now : TimePoint) (camera : Option CameraSnapshot)
    (vision : Option VisionSnapshot) (recordedAtMs : Int) :
    SnapshotJson.TextsValid (a.snapshot now camera vision).2 ↔
      ShowsValid a (.publish now camera vision recordedAtMs) := by
  have hwarnings : (∀ text ∈ (a.snapshot now camera vision).2.vehicle.warnings, ValidText text) ↔
      ∀ warning ∈ a.vehicleState.warnings, now - warning.lastSeen ≤ kWarningTimeout →
        ValidText warning.text := by
    simp only [CompanionApplication.snapshot, VehicleState.snapshot, VehicleState.observe_warnings,
      VehicleState.eraseOldWarnings, List.forall_mem_map, List.mem_filter, Bool.not_eq_true',
      decide_eq_false_iff_not, not_lt, and_imp]
  exact ⟨fun h => ⟨hwarnings.mp h.warnings, h.camera, h.vision⟩,
    fun h => ⟨hwarnings.mpr h.1, h.2.1, h.2.2⟩⟩

/-- The loop goes through the events as the application alone does, and the output has grown by a line for each
record of the run, of which one for each publication is that of a snapshot. -/
structure Recorded (r r' : CompanionRunner ω) (events : List RunnerEvent) : Prop where
  application : r'.application =
    CompanionApplication.run port r.application (events.map RunnerEvent.companion)
  output : r.sink.Wrote printer r'.sink (runRecords port r.application r.sink.previous events)
  previous : r'.sink.previous = lastShown port r.application r.sink.previous events
  snapshots : (runRecords port r.application r.sink.previous events).countP isSnapshotRecord =
    events.countP RunnerEvent.isPublication

/-- What one event without an exception has done. -/
structure Stepped (r r' : CompanionRunner ω) (event : RunnerEvent) : Prop where
  application : r'.application = r.application.step port event.companion
  output : r.sink.Wrote printer r'.sink (eventRecords port r.application r.sink.previous event)
  previous : r'.sink.previous = shown r.application r.sink.previous event

/-- One event without an exception. -/
theorem step_of_valid (r : CompanionRunner ω) {event : RunnerEvent} (h : ShowsValid r.application event) :
    ∃ r', r.step printer port event = some r' ∧ Stepped printer port r r' event := by
  cases event with
  | poll cameraNow now messages recordedAt =>
      obtain ⟨sink, hsink, hprevious, hwrote⟩ := r.sink.observeAll_writes printer
        (newCalls r.application.journal (r.application.poll port cameraNow now messages).journal) recordedAt
      refine ⟨{ application := r.application.poll port cameraNow now messages, sink := sink }, ?_, rfl, hwrote,
        hprevious⟩
      rw [step, hsink, Option.map_some]
  | publish now camera vision recordedAtMs =>
      have hvalid := (snapshot_valid_iff r.application now camera vision recordedAtMs).mpr h
      obtain ⟨sink, hsink, hprevious, hwrote⟩ := r.sink.consume_of_valid printer hvalid recordedAtMs
      refine ⟨{ application := (r.application.snapshot now camera vision).1, sink := sink }, ?_, rfl, hwrote,
        hprevious⟩
      simp only [step, hsink, Option.map_some]

/-- A publication with a text that is not UTF-8 ends the loop. -/
theorem step_of_invalid (r : CompanionRunner ω) {event : RunnerEvent} (h : ¬ShowsValid r.application event) :
    r.step printer port event = none := by
  cases event with
  | poll cameraNow now messages recordedAt => exact absurd trivial h
  | publish now camera vision recordedAtMs =>
      have hinvalid := mt (snapshot_valid_iff r.application now camera vision recordedAtMs).mp h
      simp only [step, r.sink.consume_of_invalid printer hinvalid recordedAtMs, Option.map_none]

/-- What is recorded of a run is what is recorded of its first event and of the rest. -/
theorem Recorded.cons {r r₁ r' : CompanionRunner ω} {event : RunnerEvent} {events : List RunnerEvent}
    (h : Stepped printer port r r₁ event) (hrest : Recorded printer port r₁ r' events) :
    Recorded printer port r r' (event :: events) where
  application := by
    rw [hrest.application, h.application]
    rfl
  output := by
    have houtput := hrest.output
    rw [h.application, h.previous] at houtput
    exact h.output.trans houtput
  previous := by
    rw [hrest.previous, h.application, h.previous]
    rfl
  snapshots := runRecords_count port (event :: events) r.application r.sink.previous

/-- As long as every text shown is UTF-8, the loop goes on and writes every record. -/
theorem run_of_valid (events : List RunnerEvent) : ∀ r : CompanionRunner ω, TextsValid port r.application events →
    ∃ r', r.run printer port events = some r' ∧ Recorded printer port r r' events := by
  induction events with
  | nil =>
      intro r _
      exact ⟨r, rfl, rfl, JsonDiagnosticSink.Wrote.refl _, rfl, rfl⟩
  | cons event events ih =>
      rintro r ⟨hfirst, hrest⟩
      obtain ⟨r₁, hstep, hstepped⟩ := step_of_valid printer port r hfirst
      rw [← hstepped.application] at hrest
      obtain ⟨r', hrun, hrecorded⟩ := ih r₁ hrest
      refine ⟨r', ?_, hrecorded.cons printer port hstepped⟩
      rw [run, hstep, Option.bind_some, hrun]

/-- A loop that has gone on has shown nothing else. -/
theorem valid_of_run (events : List RunnerEvent) : ∀ r r' : CompanionRunner ω,
    r.run printer port events = some r' → TextsValid port r.application events := by
  induction events with
  | nil => exact fun _ _ _ => trivial
  | cons event events ih =>
      intro r r' hrun
      obtain ⟨r₁, hstep, hrest⟩ := Option.bind_eq_some_iff.mp hrun
      by_cases hvalid : ShowsValid r.application event
      · obtain ⟨r₂, hstep', hstepped⟩ := step_of_valid printer port r hvalid
        obtain rfl := Option.some.inj (hstep.symm.trans hstep')
        refine ⟨hvalid, ?_⟩
        rw [← hstepped.application]
        exact ih r₁ r' hrest
      · rw [step_of_invalid printer port r hvalid] at hstep
        exact absurd hstep.symm (Option.some_ne_none _)

/-- The loop of the program does not stop, and writes the records of all publications and calls, exactly when
every text that a publication shows is UTF-8. -/
theorem run_completes_iff (world : ω) (simulatedWind : Option SimulatedWindProfile)
    (observationSinks : List (Option Nat)) (events : List RunnerEvent) :
    let r : CompanionRunner ω := { application := .start world simulatedWind observationSinks }
    (∃ r', r.run printer port events = some r' ∧ Recorded printer port r r' events) ↔
      TextsValid port r.application events := by
  intro r
  constructor
  · rintro ⟨r', hrun, -⟩
    exact valid_of_run printer port events r r' hrun
  · exact run_of_valid printer port events r

/-! ### A text that ends the program -/

/-- A controller whose warning is the byte 0xFF, and a publication one second later. -/
def invalidTextEvents : List RunnerEvent :=
  [.poll 0 0 [⟨1, 1, .heartbeat ⟨2, 3, 0, 0, 4⟩⟩] fun _ => 0,
    .poll (seconds 1) (seconds 1) [⟨1, 1, .statustext ⟨4, [0xFF]⟩⟩] fun _ => 1000,
    .publish (seconds 2) none none 2000]

theorem invalidTextEvents_stop :
    ¬∃ r', CompanionRunner.run (Json.dumpPrinter Json.decimals) CompanionApplication.acceptingPort
        { application := .start () none [some kDiagnosticSink] } invalidTextEvents = some r' ∧
      Recorded (Json.dumpPrinter Json.decimals) CompanionApplication.acceptingPort
        { application := .start () none [some kDiagnosticSink] } r' invalidTextEvents := by
  have hstopped : (CompanionRunner.run (Json.dumpPrinter Json.decimals) CompanionApplication.acceptingPort
      { application := .start () none [some kDiagnosticSink] } invalidTextEvents).isSome = false := by
    decide +kernel
  rintro ⟨r', hrun, -⟩
  rw [hrun] at hstopped
  cases hstopped

end CompanionRunner
end OnboardAutonomy
