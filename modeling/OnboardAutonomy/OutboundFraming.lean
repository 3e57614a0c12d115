import OnboardAutonomy.CompanionCore
import OnboardAutonomy.PartialWrites
import Mathlib.Data.List.Sublists

/-! Outbound framing. The application writes each frame with a loop over the transport's `write`, which may
accept any prefix of what it is offered. The MAVLink library turns a message into the bytes of its frame and
is left open. -/

namespace OnboardAutonomy

open PartialWrites

/-- What the application needs of `Transport` to write. Whatever a device answers to the writes of a run,
there is a transport that answers so. -/
abbrev Transport (τ : Type) := Sink τ UInt8

/-- The part of the MAVLink library that packs a message and serializes it. Its state numbers the frames. -/
structure MavlinkLibrary (σ : Type) where
  sendBuffer : σ → OutboundMessage → Bytes × σ

/-- The transport and the library, with the writes that were made for each frame. -/
structure Wire (τ σ : Type) where
  transport : τ
  library : σ
  transfers : List (Transfer UInt8) := []

variable {τ σ : Type} (library : MavlinkLibrary σ) (transport : Transport τ)

/-- `write_frame` over a transport, without the activity it records. -/
def wirePort : OutboundPort (Wire τ σ) where
  send w message :=
    let (frame, numbered) := library.sendBuffer w.library message
    let (sent, calls, t) := writeLoop transport frame frame.length 0 w.transport
    (sent, { transport := t, library := numbered, transfers := w.transfers ++ [⟨frame, calls⟩] })

/-- The frames of messages that are packed one after the other. -/
def sendBuffers (state : σ) : List OutboundMessage → List Bytes
  | [] => []
  | message :: messages =>
      (library.sendBuffer state message).1 :: sendBuffers (library.sendBuffer state message).2 messages

namespace CompanionApplication

/-- Every message that is handed over leaves one transfer, made by the loop for its frame. -/
theorem sendAll_transfers (messages : List OutboundMessage) : ∀ w : Wire τ σ,
    (∀ d ∈ w.transfers, d.Traced) →
      (∀ d ∈ (sendAll (wirePort library transport) w messages).transfers, d.Traced) ∧
        (sendAll (wirePort library transport) w messages).transfers.map Transfer.frame =
          w.transfers.map Transfer.frame ++ sendBuffers library w.library messages := by
  induction messages with
  | nil =>
      intro w htraced
      exact ⟨htraced, (List.append_nil _).symm⟩
  | cons message messages ih =>
      intro w htraced
      obtain ⟨hafter, hframes⟩ := ih ((wirePort library transport).send w message).2 fun d hmem => by
        rcases List.mem_append.mp hmem with hbefore | hnew
        · exact htraced d hbefore
        · rw [List.mem_singleton.mp hnew]
          exact ⟨_, writeLoop_trace transport _ 0 w.transport (Nat.zero_le _) (Nat.zero_add _).ge⟩
      refine ⟨hafter, hframes.trans ?_⟩
      simp only [wirePort, List.map_append, List.append_assoc]
      rfl

/-- The writes that the application has made for each frame. -/
def transfers (a : CompanionApplication (Wire τ σ)) : List (Transfer UInt8) := a.port.transfers

theorem run_transfers (t : τ) (state : σ) (simulatedWind : Option SimulatedWindProfile)
    (observationSinks : List (Option Nat)) (events : List CompanionEvent) :
    let a := run (wirePort library transport) (start { transport := t, library := state } simulatedWind
      observationSinks) events
    (∀ d ∈ a.transfers, d.Traced) ∧
      a.transfers.map Transfer.frame = sendBuffers library state a.handed := by
  intro a
  have hport : a.port = sendAll (wirePort library transport) { transport := t, library := state } a.handed :=
    run_port ..
  have hsent := sendAll_transfers library transport a.handed { transport := t, library := state }
    fun _ hmem => absurd hmem List.not_mem_nil
  rw [transfers, hport]
  exact hsent

/-- The connections have seen complete frames of the messages handed over and nothing else, each frame as a
whole or not at all. -/
structure FramingIntact (a : CompanionApplication (Wire τ σ)) (state : σ) : Prop where
  whole : ∀ d ∈ a.transfers, d.Whole
  stream : ∀ connection, ∃ frames : List Bytes, frames.Sublist (sendBuffers library state a.handed) ∧
    stream a.transfers connection = frames.flatten

/-- The framing is intact after a run exactly when, whenever a write has accepted a part of a frame, every
further write for that frame has accepted something on the same connection. -/
theorem framing_intact_iff (t : τ) (state : σ) (simulatedWind : Option SimulatedWindProfile)
    (observationSinks : List (Option Nat)) (events : List CompanionEvent) :
    let a := run (wirePort library transport) (start { transport := t, library := state } simulatedWind
      observationSinks) events
    FramingIntact library a state ↔ ∀ d ∈ a.transfers, d.Unbroken := by
  intro a
  obtain ⟨htraced, hframes⟩ := run_transfers library transport t state simulatedWind observationSinks events
  rw [← framed_iff_unbroken htraced]
  constructor
  · rintro ⟨hwhole, hstream⟩
    exact ⟨hwhole, fun k => by rw [hframes]; exact hstream k⟩
  · rintro ⟨hwhole, hstream⟩
    exact ⟨hwhole, fun k => by rw [← hframes]; exact hstream k⟩

/-! ### A truncated frame -/

/-- A full tty: it takes five bytes, then nothing once, and then everything. The count is of the writes. -/
def fullTty : Transport Nat where
  write writes source :=
    (match writes with
      | 0 => min 5 source.length
      | 1 => 0
      | _ => source.length, writes + 1)
  connection _ := 0
  write_le writes source := by
    simp only
    split
    · exact Nat.min_le_right _ _
    · exact Nat.zero_le _
    · exact le_rfl

/-- The companion's heartbeat to system 1, numbered 0. -/
def heartbeatFrame : Bytes := [253, 9, 0, 0, 0, 1, 191, 0, 0, 0, 0, 0, 0, 0, 18, 8, 0, 4, 3, 174, 198]

/-- The request of SYS_STATUS at 1 Hz from system 1, numbered 1. -/
def streamRequestFrame : Bytes :=
  [253, 31, 0, 0, 1, 1, 191, 76, 0, 0, 0, 0, 128, 63, 0, 36, 116, 73, 0, 0, 0, 0, 0, 0, 0, 0, 0, 0, 0, 0, 0,
    0, 0, 0, 0, 0, 0, 0, 255, 1, 1, 107, 52]

/-- The companion's heartbeat to system 1, numbered 2. -/
def secondHeartbeatFrame : Bytes := [253, 9, 0, 0, 2, 1, 191, 0, 0, 0, 0, 0, 0, 0, 18, 8, 0, 4, 3, 159, 210]

/-- The library on the first three messages of a run in which system 1 acknowledges nothing. -/
def firstFrames : MavlinkLibrary Nat where
  sendBuffer number _ :=
    ([heartbeatFrame, streamRequestFrame, secondHeartbeatFrame].getD number [], number + 1)

/-- The first poll that shows a controller. -/
def firstPoll : List CompanionEvent := [.poll 0 0 [⟨1, 1, .heartbeat ⟨2, 3, 0, 0, 4⟩⟩]]

/-- Five bytes of the heartbeat stay in front of the request. -/
theorem firstPoll_truncated : ¬FramingIntact firstFrames
    (run (wirePort firstFrames fullTty) (start { transport := 0, library := 0 } none []) firstPoll) 0 := by
  intro hintact
  obtain ⟨frames, hsublist, hstream⟩ := hintact.stream 0
  have hlength : (stream (run (wirePort firstFrames fullTty)
      (start { transport := 0, library := 0 } none []) firstPoll).transfers 0).length = 5 + 43 := by
    decide +kernel
  have hframes : sendBuffers firstFrames 0 (run (wirePort firstFrames fullTty)
      (start { transport := 0, library := 0 } none []) firstPoll).handed =
      [heartbeatFrame, streamRequestFrame] := by decide +kernel
  have hcomplete : ∀ frames ∈ [heartbeatFrame, streamRequestFrame].sublists,
      frames.flatten.length ≠ 5 + 43 := by decide
  rw [hframes] at hsublist
  rw [hstream] at hlength
  exact hcomplete frames (List.mem_sublists.mpr hsublist) hlength

end CompanionApplication
end OnboardAutonomy
