/-
# Reading packets from a stream

A reader hunts for the start marker one byte at a time and then gathers the
header and the rest of the packet, with as many reads as the stream needs.  A
packet that fails a check costs only the bytes already read; the hunt goes on
behind them.

A quiet line is no failure: while hunting the poll comes back idle, and inside
of a packet the caller is asked whether to keep waiting.  All answers of a
caller that matter to one poll are some number of yeses and then a no, which is
what `Patience` says.

The bytes of a packet are gathered in one buffer that a reader keeps between
polls; what a poll that gave up has left in it stays there until the next start
marker.
-/
import ControllerLink.Packet.Codec
import ControllerLink.Stream.Input

set_option autoImplicit false

namespace ControllerLink

/-- What a reader has counted. -/
structure ReaderStats where
  /-- Packets that passed both checks. -/
  frames : Nat
  /-- Bytes dropped while hunting for a start marker. -/
  skippedBytes : Nat
  headerErrors : Nat
  packetErrors : Nat
  /-- Headers that announce too long a payload. -/
  oversized : Nat
  /-- Packets given up because the caller stopped waiting. -/
  truncated : Nat
deriving DecidableEq, Repr

/-- Nothing counted yet. -/
def ReaderStats.zero : ReaderStats := ⟨0, 0, 0, 0, 0, 0⟩

/-- How often a caller is willing to keep waiting; `none` means without end and without being
asked. -/
abbrev Patience := Option Nat

/-- A reader of packets. -/
structure Reader where
  config : Packet.Config
  /-- Where packets are gathered, as the last poll has left it. -/
  buffer : Bytes
  stats : ReaderStats
  /-- Bytes dropped since the last start marker. -/
  unlockedRun : Nat
deriving DecidableEq, Repr

/-- What a poll comes to. -/
inductive Polled where
  /-- Nothing yet: the line was quiet, or a byte was dropped. -/
  | idle
  | frame (f : Frame)
  | failed (e : PacketError)
  /-- The poll never comes back: the line stays quiet inside of a packet, and
  the caller never stops waiting. -/
  | stalled
deriving DecidableEq, Repr

/-- The result of a poll, and everything after it. -/
structure Poll where
  outcome : Polled
  reader : Reader
  input : InputStream
  transcript : Transcript
deriving DecidableEq, Repr

/-! ## Single bytes -/

/-- What the hunt for a start marker met. -/
inductive Hunted where
  | byte (b : UInt8)
  | quiet
  | failed (e : PacketError)
deriving DecidableEq, Repr

/-- A hunt for one byte, and the script after it. -/
structure Hunt where
  result : Hunted
  steps : List ReadStep
  transcript : Transcript

/-- Read one byte; an interrupted read is made again. -/
def hunt (ending : Ending) : List ReadStep → Hunt
  | [] =>
    let result := match ending with
      | .closed => .failed .closed
      | .quiet => .quiet
      | .shut => .failed (.stream .notOpen)
    ⟨result, [], [.read 1 ending.outcome]⟩
  | .data [] :: rest => ⟨.failed .closed, rest, [.read 1 (.bytes [])]⟩
  | .data [b] :: rest => ⟨.byte b, rest, [.read 1 (.bytes [b])]⟩
  | .data (b :: bs) :: rest => ⟨.byte b, .data bs :: rest, [.read 1 (.bytes [b])]⟩
  | .fail kind :: rest =>
    let read := Activity.read 1 (.fault (.ofKind kind))
    if kind = .interrupted then
      let h := hunt ending rest
      { h with transcript := read :: h.transcript }
    else if kind.isQuiet then ⟨.quiet, rest, [read]⟩
    else ⟨.failed (.stream (.ofKind kind)), rest, [read]⟩

/-- A hunt uses up a byte or a step of a script. -/
theorem weight_hunt_lt (ending : Ending) (steps : List ReadStep) (h : steps ≠ []) :
    InputStream.weight ⟨(hunt ending steps).steps, ending⟩ <
      InputStream.weight ⟨steps, ending⟩ := by
  fun_induction hunt ending steps with
  | case1 => exact absurd rfl h
  | case2 | case3 | case4 => simp [InputStream.weight_data]
  | case5 rest _ _ ih =>
    rw [InputStream.weight_fail]
    by_cases hr : rest = []
    · subst hr
      exact Nat.lt_add_left 0 (Nat.lt_one_add_iff.2 (Nat.le_refl _))
    · exact Nat.lt_add_left 1 (ih hr)
  | case6 | case7 => simp [InputStream.weight_fail]

/-! ## The rest of a packet -/

/-- What came of gathering bytes. -/
inductive Gathered where
  | complete
  /-- The caller stopped waiting after so many bytes. -/
  | abandoned (received : Nat)
  | failed (e : PacketError)
  | stalled
deriving DecidableEq, Repr

/-- A gathering: the buffer, the script and the patience after it. -/
structure Gathering where
  result : Gathered
  buffer : Bytes
  steps : List ReadStep
  patience : Patience
  transcript : Transcript

/-- A gathering with something that happened before it. -/
def Gathering.after (g : Gathering) (before : Transcript) : Gathering :=
  { g with transcript := before ++ g.transcript }

/-- Wait on a line that stays quiet, for `n` more yeses and then a no. -/
def waitQuiet (target : Nat) (buffer : Bytes) (filled : Nat) : Nat → Gathering
  | 0 =>
    ⟨.abandoned filled, buffer, [], some 0,
      [.read (target - filled) Ending.quiet.outcome, .asked false]⟩
  | n + 1 =>
    (waitQuiet target buffer filled n).after
      [.read (target - filled) Ending.quiet.outcome, .asked true,
        .logged (.waiting filled target)]

/-- Fill a buffer, of which the first `filled` bytes are there, up to `target`
bytes; an interrupted read is made again, and after a read that finds the line
quiet the caller is asked. -/
def gather (ending : Ending) (target : Nat) :
    List ReadStep → Bytes → Nat → Patience → Gathering
  | steps, buffer, filled, patience =>
    if target ≤ filled then ⟨.complete, buffer, steps, patience, []⟩
    else
      let room := target - filled
      match steps with
      | [] =>
        match ending with
        | .closed => ⟨.failed .closed, buffer, [], patience, [.read room ending.outcome]⟩
        | .shut => ⟨.failed (.stream .notOpen), buffer, [], patience, [.read room ending.outcome]⟩
        | .quiet =>
          match patience with
          | none => ⟨.stalled, buffer, [], none, []⟩
          | some n => waitQuiet target buffer filled n
      | .data bytes :: rest =>
        if bytes = [] then ⟨.failed .closed, buffer, rest, patience, [.read room (.bytes [])]⟩
        else if bytes.drop room = [] then
          (gather ending target rest (buffer.overwrite filled bytes) (filled + bytes.length)
            patience).after [.read room (.bytes bytes)]
        else
          ⟨.complete, buffer.overwrite filled (bytes.take room), .data (bytes.drop room) :: rest,
            patience, [.read room (.bytes (bytes.take room))]⟩
      | .fail kind :: rest =>
        let read := Activity.read room (.fault (.ofKind kind))
        if kind = .interrupted then
          (gather ending target rest buffer filled patience).after [read]
        else if kind.isQuiet then
          match patience with
          | some 0 => ⟨.abandoned filled, buffer, rest, some 0, [read, .asked false]⟩
          | some (n + 1) =>
            (gather ending target rest buffer filled (some n)).after
              [read, .asked true, .logged (.waiting filled target)]
          | none =>
            (gather ending target rest buffer filled none).after
              [read, .logged (.waiting filled target)]
        else ⟨.failed (.stream (.ofKind kind)), buffer, rest, patience, [read]⟩

namespace Reader

/-- A reader with nothing counted. -/
def make (config : Packet.Config) : Reader := ⟨config, [], .zero, 0⟩

/-- Change the longest payload that is accepted. -/
def withMaxPayload (r : Reader) (max : Nat) : Reader :=
  { r with config := { r.config with maxPayload := max } }

/-- Count one dropped byte. -/
def countSkipped (r : Reader) : Reader :=
  { r with
    stats := { r.stats with skippedBytes := r.stats.skippedBytes + 1 }
    unlockedRun := r.unlockedRun + 1 }

/-- What is logged when a start marker is met. -/
def lockEvents (r : Reader) : Transcript :=
  if 0 < r.unlockedRun then [.logged (.locked r.unlockedRun)] else []

/-- Check the header at the front of the buffer. -/
def checkHeader (r : Reader) : Except (PacketError × Reader) Header :=
  match Header.ofBytes? (r.buffer.take Header.size) with
  | none => .error (.truncated Header.size r.buffer.length, r)
  | some h =>
    if !h.isValid then
      .error (Packet.headerMismatch h,
        { r with stats := { r.stats with headerErrors := r.stats.headerErrors + 1 } })
    else if r.config.maxPayload < h.length.toNat then
      .error (.payloadTooLarge h.length.toNat r.config.maxPayload,
        { r with stats := { r.stats with oversized := r.stats.oversized + 1 } })
    else .ok h

/-- Check the packet with header `h` in the buffer, and take it out if it is right. -/
def checkPacket (r : Reader) (h : Header) : Polled × Reader :=
  match Packet.open? h (r.buffer.take h.packetSize) with
  | .ok f =>
    (.frame f,
      { r with
        buffer := r.buffer.drop h.packetSize
        stats := { r.stats with frames := r.stats.frames + 1 } })
  | .error e =>
    (.failed e, { r with stats := { r.stats with packetErrors := r.stats.packetErrors + 1 } })

/-- The end of a poll whose gathering did not complete. -/
def giveUp (r : Reader) (target : Nat) (ending : Ending) (g : Gathering) : Poll :=
  let (outcome, reader) : Polled × Reader := match g.result with
    | .failed e => (.failed e, r)
    | .abandoned received =>
      (.failed (.truncated target received),
        { r with stats := { r.stats with truncated := r.stats.truncated + 1 } })
    | .stalled | .complete => (.stalled, r)
  ⟨outcome, reader, ⟨g.steps, ending⟩, g.transcript⟩

/-- Gather the packet with header `h`, which is in the buffer. -/
def pollBody (r : Reader) (h : Header) (input : InputStream) (patience : Patience) : Poll :=
  let g := gather input.ending h.packetSize input.steps (r.buffer.resize h.packetSize)
    Header.size patience
  let r := { r with buffer := g.buffer }
  match g.result with
  | .complete =>
    let (outcome, reader) := r.checkPacket h
    ⟨outcome, reader, ⟨g.steps, input.ending⟩, g.transcript⟩
  | _ => r.giveUp h.packetSize input.ending g

/-- Gather a packet of which the start marker has been read. -/
def pollLocked (r : Reader) (input : InputStream) (patience : Patience) : Poll :=
  -- What an earlier poll has left in the buffer is dropped here.
  let cleared := (Bytes.resize [] Header.size).overwrite 0 [r.config.start]
  let g := gather input.ending Header.size input.steps cleared 1 patience
  let r := { r with buffer := g.buffer }
  match g.result with
  | .complete =>
    match r.checkHeader with
    | .error (e, reader) => ⟨.failed e, reader, ⟨g.steps, input.ending⟩, g.transcript⟩
    | .ok h =>
      let p := r.pollBody h ⟨g.steps, input.ending⟩ g.patience
      { p with transcript := g.transcript ++ p.transcript }
  | _ => r.giveUp Header.size input.ending g

/-- One step of progress: drop a byte, or read a packet from its start marker on. -/
def poll (r : Reader) (input : InputStream) (patience : Patience) : Poll :=
  let h := hunt input.ending input.steps
  let input' : InputStream := ⟨h.steps, input.ending⟩
  match h.result with
  | .quiet => ⟨.idle, r, input', h.transcript⟩
  | .failed e => ⟨.failed e, r, input', h.transcript⟩
  | .byte b =>
    if b = r.config.start then
      let p := { r with unlockedRun := 0 }.pollLocked input' patience
      { p with transcript := h.transcript ++ r.lockEvents ++ p.transcript }
    else
      ⟨.idle, r.countSkipped, input', h.transcript ++ [.logged (.byteDiscarded b)]⟩

theorem giveUp_ne_idle (r : Reader) (target : Nat) (ending : Ending) (g : Gathering) :
    (r.giveUp target ending g).outcome ≠ .idle := by
  unfold giveUp
  cases g.result <;> simp

theorem checkPacket_ne_idle (r : Reader) (h : Header) :
    (r.checkPacket h).1 ≠ .idle := by
  unfold checkPacket
  split <;> simp

theorem pollBody_ne_idle (r : Reader) (h : Header) (input : InputStream)
    (patience : Patience) : (r.pollBody h input patience).outcome ≠ .idle := by
  simp only [pollBody]
  split
  · exact checkPacket_ne_idle _ _
  · exact giveUp_ne_idle _ _ _ _

theorem pollLocked_ne_idle (r : Reader) (input : InputStream) (patience : Patience) :
    (r.pollLocked input patience).outcome ≠ .idle := by
  simp only [pollLocked]
  split
  · split
    · simp
    · exact pollBody_ne_idle _ _ _ _
  · exact giveUp_ne_idle _ _ _ _

/-- After an idle poll the script is as the hunt has left it. -/
theorem input_of_poll_eq_idle {r : Reader} {input : InputStream} {patience : Patience}
    (h : (r.poll input patience).outcome = .idle) :
    (r.poll input patience).input = ⟨(hunt input.ending input.steps).steps, input.ending⟩ := by
  simp only [poll] at h ⊢
  split
  · rfl
  · rfl
  · next b hb =>
    simp only [hb] at h
    split
    · next hs =>
      rw [if_pos hs] at h
      exact absurd h (pollLocked_ne_idle _ _ _)
    · rfl

/-- Poll, always waiting for the rest of a packet, until something comes of it.  A poll that is
idle although nothing was left of the script is idle for ever. -/
def next (r : Reader) (input : InputStream) : Poll :=
  let p := r.poll input none
  if _idle : p.outcome = .idle then
    if _more : input.steps = [] then { p with outcome := .stalled }
    else
      let q := p.reader.next p.input
      { q with transcript := p.transcript ++ q.transcript }
  else p
  termination_by input.weight
  decreasing_by
    rw [input_of_poll_eq_idle _idle]
    exact weight_hunt_lt _ _ _more

end Reader

end ControllerLink
