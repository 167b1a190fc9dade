/-
# Writers that have been used before

What a writer keeps from packet to packet, a header and a buffer, never shows:
whatever has been sent and however it failed, the next packet is offered as a
writer that has sent nothing yet would offer it, from its first byte on, and
what is answered says truly how much of it the stream has taken.

The argument has two halves that know nothing of each other. What a writer puts
together depends on its configuration alone, since the header that it keeps is
sound and the buffer is emptied first (`Writer.send_parcel`). And however bytes
are offered to a stream, the end of it tells what happened
(`Writer.truthful_of_offers`); the answers of a writer tell these ends apart.
Calls keep the writer serving, so that the first half applies after any of them.
-/
import ControllerLink.Proofs.Offering
import ControllerLink.Proofs.Sending

set_option autoImplicit false

namespace ControllerLink

/-- What may be asked of a writer. -/
inductive WriterCall where
  | send (id : UInt8) (payload : Bytes)
  | sendRecord (t : Telemetry)
  | sendCommand (c : RobotCommand)
  | flush

/-- `sent.Truthful packet`: bytes of `packet` were offered to a stream, and the answer says what
came of it. -/
structure Sent.Truthful (sent : Sent) (packet : Bytes) : Prop where
  /-- What the stream has taken is the first of the packet's bytes. -/
  taken : takenBytes sent.activity <+: packet
  /-- All is well exactly if the whole packet was taken and then a flush succeeded. -/
  ok_iff : sent.result = .ok () ↔
    ∃ before, sent.activity = before ++ [.flushed] ∧ takenBytes before = packet
  /-- The stream counts as closed exactly if a write took nothing. -/
  closed_iff : sent.result = .error .closed ↔ ∃ offered, .wrote offered [] ∈ sent.activity
  /-- A fault of the stream is answered exactly if it came up and was no interruption. -/
  fault_iff : ∀ kind, sent.result = .error (.stream (.ofKind kind)) ↔
    kind ≠ .interrupted ∧ ∃ a ∈ sent.activity, a.fault? = some kind
  /-- Nothing else is answered. -/
  answer : sent.result = .ok () ∨ sent.result = .error .closed ∨
    ∃ kind, sent.result = .error (.stream (.ofKind kind))
  /-- At first the whole packet is offered, later always all of it that was not taken before, and a
  flush comes when nothing is left. -/
  offered : ∀ before a after, sent.activity = before ++ a :: after →
    a.offered? = if takenBytes before = packet then none
      else some (packet.length - (takenBytes before).length)
  /-- What was interrupted is asked again, and any other fault is the last thing that happens. -/
  retried : ∀ before a after kind, sent.activity = before ++ a :: after →
    a.fault? = some kind → (kind = .interrupted ↔ after ≠ [])

namespace Writer

variable {w w' : Writer} {c : Packet.Config} {stream : OutputStream}

/-! ## Answers -/

/-- The end of writing can be told from the answer. -/
theorem resultOf_injective : Function.Injective resultOf := by
  intro e e' h
  rcases e with _ | _ | kind <;> rcases e' with _ | _ | kind' <;> simp_all [resultOf, Fault.ofKind]

/-- An answer to bytes that were offered is a truthful one. -/
theorem truthful_of_offers {sent : Sent} {packet : Bytes} {e : WriteEnd}
    (hresult : sent.result = resultOf e) (h : Offers packet sent.activity e) :
    sent.Truthful packet where
  taken := h.takenBytes_prefix
  ok_iff := by
    have hdone : sent.result = .ok () ↔ e = .done := by
      rw [hresult]
      exact resultOf_injective.eq_iff (b := .done)
    rw [hdone]
    refine ⟨h.exists_append_flushed, ?_⟩
    rintro ⟨before, hactivity, -⟩
    exact h.eq_done_iff.2 (by simp [hactivity])
  closed_iff := by
    rw [hresult, ← h.eq_refused_iff]
    exact resultOf_injective.eq_iff (b := .refused)
  fault_iff kind := by
    rw [hresult, ← h.eq_failed_iff]
    exact resultOf_injective.eq_iff (b := .failed kind)
  answer := by
    rw [hresult]
    rcases e with _ | _ | kind
    · exact .inl rfl
    · exact .inr (.inl rfl)
    · exact .inr (.inr ⟨kind, rfl⟩)
  offered before a after hactivity := (hactivity ▸ h).offered?_eq
  retried before a after kind hactivity := (hactivity ▸ h).retried

/-! ## One call -/

/-- The packet that was put together is delivered. -/
theorem send_of_assemble {id : UInt8} {payload : Bytes} (h : w.assemble id payload = .ok w') :
    w.send stream id payload =
      ⟨resultOf (stream.deliver w'.buffer).result, w', (stream.deliver w'.buffer).stream,
        (stream.deliver w'.buffer).activity⟩ := by
  unfold send OutputStream.deliver
  rw [h]
  dsimp only
  rcases stream.writeAll w'.buffer with ⟨_ | _ | kind, left, activity⟩ <;> rfl

/-- What fits into a packet is delivered as one. -/
theorem send_parcel (hw : w.Serves c) (p : Parcel c) (stream : OutputStream) :
    ∃ w' : Writer, w'.Serves c ∧ w.send stream p.id p.payload =
      ⟨resultOf (stream.deliver p.bytes).result, w', (stream.deliver p.bytes).stream,
        (stream.deliver p.bytes).activity⟩ := by
  obtain ⟨w', hw', hbuffer, hassembled⟩ := assemble_parcel hw p
  exact ⟨w', hw', hbuffer ▸ send_of_assemble hassembled⟩

/-- The length that a payload exceeds which is too long: the configured one, if it exceeds that. -/
def exceeded (c : Packet.Config) (payload : Bytes) : Nat :=
  if c.maxPayload < payload.length then c.maxPayload else Packet.lengthLimit

/-- What does not fit into a packet is not offered to the stream at all. The configured limit is
looked at first, and it may be beyond what a header can say. -/
theorem send_long (hw : w.Serves c) {payload : Bytes}
    (hlong : min c.maxPayload Packet.lengthLimit < payload.length) (stream : OutputStream)
    (id : UInt8) : w.send stream id payload =
      ⟨.error (.payloadTooLarge payload.length (exceeded c payload)), w, stream, []⟩ := by
  unfold send assemble exceeded
  rw [hw.config]
  by_cases hmax : c.maxPayload < payload.length
  · rw [if_pos hmax, if_pos hmax]
  · have hlimit : Packet.lengthLimit < payload.length := by omega
    rw [if_neg hmax, if_pos hlimit, if_neg hmax]

/-- A payload of no more than the allowed length, as a message. -/
def parcelOf (c : Packet.Config) (id : UInt8) (payload : Bytes)
    (hfits : payload.length ≤ min c.maxPayload Packet.lengthLimit) : Parcel c where
  id := id
  payload := payload
  allowed := Nat.le_trans hfits (Nat.min_le_left _ _)
  encodable := Nat.le_trans hfits (Nat.min_le_right _ _)

/-- A writer serves on after a message. -/
theorem serves_send (hw : w.Serves c) (stream : OutputStream) (id : UInt8) (payload : Bytes) :
    (w.send stream id payload).writer.Serves c := by
  by_cases hlong : min c.maxPayload Packet.lengthLimit < payload.length
  · rw [send_long hw hlong]
    exact hw
  · obtain ⟨w', hw', hsent⟩ := send_parcel hw (parcelOf c id payload (Nat.not_lt.1 hlong)) stream
    have hsent : w.send stream id payload = _ := hsent
    rw [hsent]
    exact hw'

/-! ## Runs -/

/-- What comes of one call. -/
def call (w : Writer) (stream : OutputStream) : WriterCall → Sent
  | .send id payload => w.send stream id payload
  | .sendRecord t => w.sendRecord stream t
  | .sendCommand command => w.sendCommand stream command
  | .flush => w.flush stream

/-- The writer and the stream after some calls. -/
def run (w : Writer) (stream : OutputStream) : List WriterCall → Writer × OutputStream
  | [] => (w, stream)
  | o :: calls => (w.call stream o).writer.run (w.call stream o).stream calls

/-- Whatever a call of a writer comes to, the writer goes on to write the same packets. -/
theorem serves_call (hw : w.Serves c) (stream : OutputStream) (o : WriterCall) :
    (w.call stream o).writer.Serves c := by
  cases o with
  | send id payload => exact serves_send hw stream id payload
  | sendRecord t => exact serves_send hw stream _ _
  | sendCommand command => exact serves_send hw stream _ _
  | flush => exact hw

/-- A writer serves on after any calls. -/
theorem serves_run (hw : w.Serves c) (stream : OutputStream) (calls : List WriterCall) :
    (w.run stream calls).1.Serves c := by
  induction calls generalizing w stream with
  | nil => exact hw
  | cons o calls ih => exact ih (serves_call hw stream o) (w.call stream o).stream

/-- **A writer's history does not show, and what it answers is true.** After any calls, on any
stream, a payload is sent just as by a writer that has sent nothing yet. If it is longer than
configured, or than any header can say, that is the answer, and nothing is asked of the stream.
Otherwise the bytes of its own packet are offered to the stream, from the first one on, and the
answer says what came of it. -/
theorem send_run_truthful (c : Packet.Config) (calls : List WriterCall) {left : OutputStream}
    (reached : (make c).run stream calls = (w, left)) (id : UInt8) (payload : Bytes) :
    let sent := w.send left id payload
    let fresh := (make c).send left id payload
    (sent.result = fresh.result ∧ sent.stream = fresh.stream ∧ sent.activity = fresh.activity) ∧
      (min c.maxPayload Packet.lengthLimit < payload.length →
        sent.result = .error (.payloadTooLarge payload.length (exceeded c payload)) ∧
          sent.activity = [] ∧ sent.stream = left) ∧
      (payload.length ≤ min c.maxPayload Packet.lengthLimit →
        ∃ packet, Packet.encode c.start id payload = .ok packet ∧ sent.Truthful packet) := by
  have hw := serves_run (serves_make c) stream calls
  rw [reached] at hw
  dsimp only at hw ⊢
  by_cases hlong : min c.maxPayload Packet.lengthLimit < payload.length
  · rw [send_long hw hlong, send_long (serves_make c) hlong]
    exact ⟨⟨rfl, rfl, rfl⟩, fun _ => ⟨rfl, rfl, rfl⟩,
      fun hfits => absurd hlong (Nat.not_lt.2 hfits)⟩
  -- Both writers put together the packet of the same message.
  · have hfits := Nat.not_lt.1 hlong
    let p := parcelOf c id payload hfits
    obtain ⟨w₁, -, hsent⟩ := send_parcel hw p left
    obtain ⟨w₂, -, hfresh⟩ := send_parcel (serves_make c) p left
    have hsent : w.send left id payload = _ := hsent
    have hfresh : (make c).send left id payload = _ := hfresh
    rw [hsent, hfresh]
    refine ⟨⟨rfl, rfl, rfl⟩, fun h => absurd h hlong, fun _ => ⟨p.bytes, p.encode_eq, ?_⟩⟩
    exact truthful_of_offers rfl (left.offers_deliver p.bytes)

/-- A stream that breaks after a short write, and then takes a few bytes at a time with
interruptions between them, also when it is flushed. -/
def brittleStream : OutputStream :=
  ⟨[.accept 3, .fail .interrupted, .fail .brokenPipe, .accept 4, .fail .interrupted, .accept 2],
    [some .interrupted, none], .unlimited⟩

/-- After a packet that was broken off, one with the same header is sent from its first byte on. -/
theorem send_run_truthful_brittle :
    ((make .outbound).call brittleStream (.send 2 [1, 2, 3])).result =
        .error (.stream (.ofKind .brokenPipe)) ∧
      ∃ w left packet, (make .outbound).run brittleStream [.send 2 [1, 2, 3]] = (w, left) ∧
        Packet.encode Packet.outboundStart 2 [9, 8, 7] = .ok packet ∧
        (w.send left 2 [9, 8, 7]).result = .ok () ∧
        ∃ before, (w.send left 2 [9, 8, 7]).activity = before ++ [.flushed] ∧
          takenBytes before = packet := by
  have hreached : (make .outbound).run brittleStream [.send 2 [1, 2, 3]] =
      (((make .outbound).run brittleStream [.send 2 [1, 2, 3]]).1,
        ((make .outbound).run brittleStream [.send 2 [1, 2, 3]]).2) := rfl
  obtain ⟨-, -, hfits⟩ := send_run_truthful .outbound [.send 2 [1, 2, 3]] hreached 2 [9, 8, 7]
  obtain ⟨packet, hpacket, htruthful⟩ := hfits (by decide)
  have hok : (((make .outbound).run brittleStream [.send 2 [1, 2, 3]]).1.send
      ((make .outbound).run brittleStream [.send 2 [1, 2, 3]]).2 2 [9, 8, 7]).result = .ok () := by
    decide +kernel
  exact ⟨by decide +kernel, _, _, packet, hreached, hpacket, hok, htruthful.ok_iff.1 hok⟩

end Writer

end ControllerLink
