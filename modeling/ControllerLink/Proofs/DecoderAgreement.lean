/-
# The two decoders agree

A packet can be read from a stream, whose bytes come in pieces, or from the
front of a byte string that is all there.  Both go by the same rules in the same
order, but for two things: a stream has a longest payload that it accepts, and
it does not tell how many bytes were lacking when it ends.  And a mismatch that
either tells of is there: the checksums are those computed and received.

Both are compared with the piece at the front of the bytes.  For the stream this
is `poll_of_cut_eq_some`, once the delivery is prompt, so that the poll begins
with the first byte; for the byte string the cases of `decode` are those of
`judge`, but for the limit on payloads, which only a reader has.  If the bytes
end within the piece, the stream is closed within a packet and the byte string
is too short.
-/
import ControllerLink.Proofs.Delivery
import ControllerLink.Proofs.PacketCodec

set_option autoImplicit false

namespace ControllerLink

/-! ## Checksum mismatches

An error that tells of a mismatch names the checksum that the bytes should have and the one that
they carry; it is true of the bytes if these are just that, and the two differ. -/

/-- `e.Tells bytes`: if `e` is a mismatch of checksums, it is that of the header or of the packet
`bytes`: the one computed over the bytes before it, the one found there, and they differ. -/
def PacketError.Tells (e : PacketError) (bytes : Bytes) : Prop :=
  match e with
  | .headerChecksum expected actual =>
    expected = Checksum.checksum8 (bytes.take 4) ∧ bytes[4]? = some actual ∧ expected ≠ actual
  | .packetChecksum expected actual =>
    (∃ h, Header.ofBytes? bytes = some h ∧ h.isValid = true ∧ bytes.length = h.packetSize) ∧
      expected = Checksum.checksum16 (bytes.take (bytes.length - 2)) ∧
      actual = Bytes.ofLE16 (bytes.drop (bytes.length - 2)) ∧ expected ≠ actual
  | _ => True

namespace Packet

/-- The error of a header that is not valid has its two checksums, the one that was sent and the one
that was computed. -/
theorem tells_headerMismatch {h : Header} (hv : h.isValid = false) {bytes : Bytes}
    (hfront : bytes.take Header.size = h.toBytes) : (headerMismatch h).Tells bytes := by
  have hfields : bytes.take 4 = h.fields := by
    have htake : (bytes.take Header.size).take 4 = h.fields := by
      rw [hfront]
      rfl
    rwa [List.take_take] at htake
  have hchecksum : bytes[4]? = some h.checksum := by
    have hget : (bytes.take Header.size)[4]? = some h.checksum := by
      rw [hfront]
      rfl
    rwa [List.getElem?_take_of_lt (by decide)] at hget
  refine ⟨by rw [hfields], hchecksum, fun heq => ?_⟩
  rw [Header.isValid, heq, beq_self_eq_true] at hv
  exact absurd hv (by simp)

/-- The error of a packet that does not verify has its two checksums. A packet has at least the two
bytes of its checksum, so that only a difference can make the check fail. -/
theorem tells_packetMismatch {h : Header} (hv : h.isValid = true) {packet : Bytes}
    (hfront : packet.take Header.size = h.toBytes) (hlen : packet.length = h.packetSize)
    (hverify : Checksum.verify16 packet = false) : (packetMismatch packet).Tells packet := by
  have hread : Header.ofBytes? packet = some h := by
    rw [← List.take_append_drop Header.size packet, hfront]
    exact Header.ofBytes?_toBytes _ _
  refine ⟨⟨h, hread, hv, hlen⟩, rfl, rfl, fun heq => ?_⟩
  have hlong : 2 ≤ packet.length := by
    rw [hlen, Header.packetSize, Header.checksumSize]
    exact Nat.le_add_left _ _
  rw [Header.checksumSize] at heq
  rw [Checksum.verify16, heq, beq_self_eq_true, decide_eq_true hlong] at hverify
  exact absurd hverify (by simp)

/-- A packet with a valid header is refused for its checksum, and for nothing else. -/
theorem verify16_of_open?_eq_error {h : Header} {packet : Bytes} {e : PacketError}
    (hopen : open? h packet = .error e) :
    Checksum.verify16 packet = false ∧ e = packetMismatch packet := by
  unfold open? at hopen
  split at hopen
  · exact absurd hopen (by simp)
  · next hverify => exact ⟨by simpa using hverify, (Except.error.inj hopen).symm⟩

/-- The decoder tells only of mismatches that are there. The checks of the decoder are gone through
in their order, and each error is read off where it arises. -/
theorem tells_of_decode {bytes : Bytes} {e : PacketError} (hdecode : decode bytes = .error e) :
    ∃ front, front <+: bytes ∧ e.Tells front := by
  unfold decode at hdecode
  split at hdecode
  · rw [← Except.error.inj hdecode]
    exact ⟨[], List.nil_prefix, trivial⟩
  next h hread =>
  have hfront := Header.take_of_ofBytes? hread
  split at hdecode
  · next hv =>
    rw [← Except.error.inj hdecode]
    exact ⟨bytes, List.prefix_rfl, tells_headerMismatch (by simpa using hv) hfront⟩
  next hv =>
  split at hdecode
  · rw [← Except.error.inj hdecode]
    exact ⟨[], List.nil_prefix, trivial⟩
  next hlong =>
  obtain ⟨hverify, rfl⟩ := verify16_of_open?_eq_error hdecode
  have hsize : Header.size ≤ h.packetSize := by
    rw [Header.packetSize]
    omega
  refine ⟨bytes.take h.packetSize, List.take_prefix _ _,
    tells_packetMismatch (by simpa using hv) ?_ ?_ hverify⟩
  · rw [List.take_take, Nat.min_eq_left hsize, hfront]
  · rw [List.length_take, Nat.min_eq_left (Nat.not_lt.1 hlong)]

end Packet

/-- What is refused of a piece is a mismatch that is there. -/
theorem Piece.tells {c : Packet.Config} {piece : Bytes} {e : PacketError}
    (h : Piece c piece (.failed e)) : e.Tells piece := by
  generalize ho : Polled.failed e = o at h
  cases h with
  | dropped hb => exact absurd ho (by simp)
  | damaged hs hv =>
    rw [Polled.failed.inj ho]
    exact Packet.tells_headerMismatch hv rfl
  | oversized hs hv hbig =>
    rw [Polled.failed.inj ho]
    trivial
  | packet hs hv hfit hfront hlen =>
    unfold Packet.opened at ho
    split at ho
    · exact absurd ho (by simp)
    · next e' hopen =>
      obtain ⟨hverify, rfl⟩ := Packet.verify16_of_open?_eq_error hopen
      rw [Polled.failed.inj ho]
      exact Packet.tells_packetMismatch hv hfront hlen hverify

/-- A reader tells only of mismatches in the bytes that it has taken. A poll that broke off has no
mismatch to tell of. -/
theorem Reader.tells_of_poll {r : Reader} {input : InputStream} {patience : Patience}
    {e : PacketError} (houtcome : (r.poll input patience).outcome = .failed e) :
    e.Tells (r.poll input patience).transcript.consumed := by
  rcases r.poll_cases input patience with ⟨hidle, -⟩ | h
  · exact absurd (hidle.symm.trans houtcome) (by simp)
  · rcases h.result with hpiece | ⟨-, hbroken⟩
    · rw [houtcome] at hpiece
      exact hpiece.tells
    · rw [houtcome] at hbroken
      cases e with
      | headerChecksum | packetChecksum =>
        exact absurd hbroken (by simp [Polled.Broken, PacketError.isLinkFailure])
      | _ => trivial

/-! ## One poll -/

/-- A delivery without quiet reads: at most interruptions between the chunks. -/
def Delivery.Prompt {bytes : Bytes} (d : Delivery bytes) : Prop :=
  ∀ kind, .fail kind ∈ d.steps → kind = .interrupted

/-- A hunt in chunks with only interruptions between them finds the first byte. An interrupted read
is made again, with the same first byte still to come. -/
theorem hunt_of_prompt (ending : Ending) {steps : List ReadStep}
    (harmless : ∀ step ∈ steps, step.Harmless)
    (prompt : ∀ kind, .fail kind ∈ steps → kind = .interrupted) {b : UInt8}
    (hfirst : (⟨steps, .closed⟩ : InputStream).pending.head? = some b) :
    (hunt ending steps).result = .byte b := by
  induction steps with
  | nil => exact absurd hfirst (by simp)
  | cons step steps ih =>
    obtain ⟨hstep, hsteps⟩ := List.forall_mem_cons.1 harmless
    rcases step with (_ | ⟨b', _ | ⟨b'', bs⟩⟩) | kind
    · exact absurd rfl hstep
    · exact congrArg Hunted.byte (Option.some.inj hfirst)
    · exact congrArg Hunted.byte (Option.some.inj hfirst)
    · have hinterrupted := prompt kind List.mem_cons_self
      rw [hunt, if_pos hinterrupted]
      exact ih hsteps (fun kind' h => prompt kind' (List.mem_cons_of_mem _ h)) hfirst

section

variable {bytes : Bytes}

/-- A poll on bytes that begin with the start marker takes the piece at their front, or finds the
end of the stream within it. -/
theorem Reader.poll_of_delivery (r : Reader) (starts : bytes.head? = some r.config.start)
    (d : Delivery bytes) (prompt : d.Prompt) :
    (r.config.cut bytes = none ∧ (r.poll d.input none).outcome = .failed .closed) ∨
      r.config.cut bytes = some ((r.poll d.input none).outcome,
        (r.poll d.input none).transcript.consumed.length) := by
  have hfound : (hunt .closed d.steps).result = .byte r.config.start :=
    hunt_of_prompt .closed d.harmless prompt (d.pending.symm ▸ starts)
  -- Behind a start marker a poll is never idle.
  have hbusy : (r.poll d.input none).outcome ≠ .idle := by
    unfold poll
    dsimp only
    rw [show (hunt d.input.ending d.input.steps).result = .byte r.config.start from hfound]
    dsimp only
    rw [if_pos rfl]
    exact pollLocked_ne_idle _ _ _
  have hruns := r.poll_runsOut (@Stops.used .closed) d.steps d.harmless
  rw [List.append_nil, show r.poll ⟨d.steps, .closed⟩ none = r.poll d.input none from rfl] at hruns
  rcases r.poll_cases d.input none with ⟨hidle, -⟩ | h
  · exact absurd hidle hbusy
  have hpending : bytes = (r.poll d.input none).transcript.consumed ++
      (r.poll d.input none).input.pending := d.pending.symm.trans h.pending
  rcases h.result with hpiece | ⟨hcut, hbroken⟩
  · rw [List.nil_append] at hpiece
    exact .inr ((congrArg r.config.cut hpending).trans (Packet.Config.cut_of_piece hpiece _))
  · rcases hruns with ⟨later, -, -, hwhole⟩ | ⟨hrest, houtcome⟩
    · exact absurd hbroken (hwhole _)
    · -- Nothing is left of the script, so that all bytes were taken.
      have hnone : (r.poll d.input none).input.pending = [] := by
        rw [InputStream.pending, hrest, List.flatMap_nil]
      rw [hnone, List.append_nil] at hpending
      exact .inl ⟨(congrArg r.config.cut hpending).trans hcut, houtcome⟩

/-- When no piece can be cut off, a poll finds that the stream has ended. -/
theorem Reader.poll_of_cut_eq_none (r : Reader) (starts : bytes.head? = some r.config.start)
    (d : Delivery bytes) (prompt : d.Prompt) (hcut : r.config.cut bytes = none) :
    (r.poll d.input none).outcome = .failed .closed := by
  rcases r.poll_of_delivery starts d prompt with ⟨-, hclosed⟩ | htook
  · exact hclosed
  · exact absurd (hcut.symm.trans htook) (by simp)

/-- When a piece can be cut off, a poll takes just this piece. -/
theorem Reader.poll_of_cut_eq_some (r : Reader) (starts : bytes.head? = some r.config.start)
    (d : Delivery bytes) (prompt : d.Prompt) {o : Polled} {n : Nat}
    (hcut : r.config.cut bytes = some (o, n)) :
    (r.poll d.input none).outcome = o ∧ (r.poll d.input none).transcript.consumed.length = n := by
  rcases r.poll_of_delivery starts d prompt with ⟨hnone, -⟩ | htook
  · exact absurd (hnone.symm.trans hcut) (by simp)
  · rw [htook, Option.some.injEq, Prod.mk.injEq] at hcut
    exact hcut

end

namespace Packet

/-! ## Both decoders -/

variable {bytes : Bytes} {h : Header} {c : Config}

/-- A mismatch of a header comes of a header that fails its check. The other check has an error of
its own. -/
theorem header_of_decode_eq_headerChecksum {expected actual : UInt8}
    (hdecode : decode bytes = .error (.headerChecksum expected actual)) :
    ∃ h, Header.ofBytes? bytes = some h ∧ h.isValid = false ∧
      headerMismatch h = .headerChecksum expected actual := by
  unfold decode at hdecode
  split at hdecode
  · exact absurd hdecode (by simp)
  next h hread =>
  split at hdecode
  · next hv => exact ⟨h, hread, by simpa using hv, Except.error.inj hdecode⟩
  split at hdecode
  · exact absurd hdecode (by simp)
  · obtain ⟨-, hmismatch⟩ := verify16_of_open?_eq_error hdecode
    exact absurd hmismatch (by simp [packetMismatch])

/-- An invalid header is an error, whatever is behind it. -/
theorem decode_of_isValid_eq_false (hread : Header.ofBytes? bytes = some h)
    (hv : h.isValid = false) : decode bytes = .error (headerMismatch h) := by
  rw [decode, hread]
  dsimp only
  rw [hv, Bool.not_false, if_pos rfl]

/-- Behind a valid header, fewer bytes than it says are an error. -/
theorem decode_of_length_lt (hread : Header.ofBytes? bytes = some h) (hv : h.isValid = true)
    (hshort : bytes.length < h.packetSize) :
    decode bytes = .error (.truncated h.packetSize bytes.length) := by
  rw [decode, hread]
  dsimp only
  rw [hv, Bool.not_true, if_neg (by simp), if_pos hshort]

/-- Bytes that begin with the start marker and hold a header are judged by it. -/
theorem Config.cut_of_ofBytes? (starts : bytes.head? = some c.start)
    (hread : Header.ofBytes? bytes = some h) : c.cut bytes = c.judge h bytes := by
  rcases bytes with _ | ⟨b, bs⟩
  · exact absurd starts (by simp)
  · rw [c.cut_cons_of_eq (Option.some.inj starts), hread, Option.bind_some]

/-- A reader refuses an invalid header with the same error, and takes the header only. -/
theorem Config.judge_of_isValid_eq_false (hv : h.isValid = false) :
    c.judge h bytes = some (.failed (headerMismatch h), Header.size) := by
  rw [judge, hv, Bool.not_false, if_pos rfl]

/-- A reader refuses a payload that is too long for it before it reads any of it. -/
theorem Config.judge_of_maxPayload_lt (hv : h.isValid = true)
    (hbig : c.maxPayload < h.length.toNat) :
    c.judge h bytes =
      some (.failed (.payloadTooLarge h.length.toNat c.maxPayload), Header.size) := by
  rw [judge, hv, Bool.not_true, if_neg (by simp), if_pos hbig]

/-- Any other packet a reader opens once it is all there. -/
theorem Config.judge_of_le_maxPayload (hv : h.isValid = true)
    (hfit : h.length.toNat ≤ c.maxPayload) :
    c.judge h bytes = if bytes.length < h.packetSize then none
      else some (opened h (bytes.take h.packetSize), h.packetSize) := by
  rw [judge, hv, Bool.not_true, if_neg (by simp), if_neg (Nat.not_lt.2 hfit)]

/-- **The two decoders agree.**  Let bytes begin with the start marker, and let them come to a new
reader in any chunks, with interruptions between them at most, before the stream ends.  What it
makes of them by one poll follows from what is made of them as a byte string.  A header that fails
its check is refused with the same mismatch.  A sound header that announces more than the reader
accepts is refused for that, and no byte behind it is taken.  Otherwise the stream ends for the
reader where the byte string is cut off, and else there comes the same frame, or the same mismatch.
And each mismatch, from whatever bytes, reader or stream, is there: of the checksum computed and
the one received, which differ. -/
theorem poll_agrees_with_decode (starts : bytes.head? = some c.start) (d : Delivery bytes)
    (prompt : d.Prompt) :
    let p := (Reader.make c).poll d.input none
    (∀ expected actual, decode bytes = .error (.headerChecksum expected actual) →
        p.outcome = .failed (.headerChecksum expected actual)) ∧
      (∀ h, Header.ofBytes? bytes = some h → h.isValid = true → c.maxPayload < h.length.toNat →
        p.outcome = .failed (.payloadTooLarge h.length.toNat c.maxPayload) ∧
          p.transcript.consumed.length = 5) ∧
      ((∀ h, Header.ofBytes? bytes = some h → h.isValid = true →
          h.length.toNat ≤ c.maxPayload) →
        (∃ expected actual, decode bytes = .error (.headerChecksum expected actual)) ∨
          (∃ expected received, decode bytes = .error (.truncated expected received) ∧
            p.outcome = .failed .closed) ∨
          (∃ f, decode bytes = .ok f ∧ p.outcome = .frame f) ∨
          ∃ expected actual, decode bytes = .error (.packetChecksum expected actual) ∧
            p.outcome = .failed (.packetChecksum expected actual)) ∧
      (∀ s e, decode s = .error e → ∃ front, front <+: s ∧ e.Tells front) ∧
      ∀ (r : Reader) (input : InputStream) (patience : Patience) (e : PacketError),
        (r.poll input patience).outcome = .failed e →
          e.Tells (r.poll input patience).transcript.consumed := by
  intro p
  -- A prompt delivery lets the poll end as the cut of all the bytes does.
  have htook : ∀ {o n}, c.cut bytes = some (o, n) →
      p.outcome = o ∧ p.transcript.consumed.length = n :=
    (Reader.make c).poll_of_cut_eq_some starts d prompt
  have hended : c.cut bytes = none → p.outcome = .failed .closed :=
    (Reader.make c).poll_of_cut_eq_none starts d prompt
  refine ⟨?_, ?_, ?_, fun s e => tells_of_decode, fun r input patience e => Reader.tells_of_poll⟩
  · intro expected actual hdecode
    obtain ⟨h, hread, hv, he⟩ := header_of_decode_eq_headerChecksum hdecode
    rw [← he]
    exact (htook ((c.cut_of_ofBytes? starts hread).trans (c.judge_of_isValid_eq_false hv))).1
  · intro h hread hv hbig
    exact htook ((c.cut_of_ofBytes? starts hread).trans (c.judge_of_maxPayload_lt hv hbig))
  -- The header may be missing or invalid, the packet too short, or there, and then both open it.
  · intro hfits
    rcases hread : Header.ofBytes? bytes with _ | h
    · have hshort : bytes.length < Header.size := by
        rw [← Nat.not_le, ← Header.isSome_ofBytes?_iff, hread]
        simp
      exact .inr (.inl ⟨_, _, by rw [decode, hread],
        hended (Config.cut_eq_none_of_length_lt starts hshort)⟩)
    rcases hv : h.isValid with _ | _
    · exact .inl ⟨_, _, decode_of_isValid_eq_false hread hv⟩
    have hcut := (c.cut_of_ofBytes? starts hread).trans
      (c.judge_of_le_maxPayload hv (hfits h hread hv))
    by_cases hshort : bytes.length < h.packetSize
    · rw [if_pos hshort] at hcut
      exact .inr (.inl ⟨_, _, decode_of_length_lt hread hv hshort, hended hcut⟩)
    · rw [if_neg hshort] at hcut
      have hdecode := decode_of_header hv hread (Nat.not_lt.1 hshort)
      have houtcome := (htook hcut).1
      rcases opened_cases h (bytes.take h.packetSize) with ⟨f, hopen, hopened⟩ | ⟨hopen, hopened⟩
      · exact .inr (.inr (.inl ⟨f, hdecode.trans hopen, houtcome.trans hopened⟩))
      · exact .inr (.inr (.inr ⟨_, _, hdecode.trans hopen, houtcome.trans hopened⟩))

/-- The report of a shot, cut within its header, with an interruption at the cut. -/
def shotDelivery : Delivery shotBytes where
  steps := [.data (shotBytes.take 2), .fail .interrupted, .data (shotBytes.drop 2)]
  harmless := by simp [ReadStep.Harmless, shotBytes]
  pending := rfl

/-- A reader that accepts the payload and one that does not. -/
theorem poll_agrees_with_decode_shot :
    (shotBytes.head? = some Config.inbound.start ∧ shotDelivery.Prompt) ∧
      (∃ f, decode shotBytes = .ok f ∧
        ((Reader.make .inbound).poll shotDelivery.input none).outcome = .frame f) ∧
      ((Reader.make ⟨inboundStart, 4⟩).poll shotDelivery.input none).outcome =
          .failed (.payloadTooLarge 5 4) ∧
        ((Reader.make ⟨inboundStart, 4⟩).poll shotDelivery.input none).transcript.consumed.length =
          5 := by
  have hstarts : shotBytes.head? = some Config.inbound.start := rfl
  have hprompt : shotDelivery.Prompt := by
    simp [Delivery.Prompt, shotDelivery]
  have hread : Header.ofBytes? shotBytes = some ⟨0x5a, 0x0d, 5, 0xc7⟩ := by decide
  have hsound : (Header.mk 0x5a 0x0d 5 0xc7).isValid = true := by decide +kernel
  have hdecode : decode shotBytes =
      .ok ⟨⟨0x5a, 0x0d, 5, 0xc7⟩, [0x37, 0x00, 0x00, 0x00, 0x01]⟩ := by
    decide +kernel
  refine ⟨⟨hstarts, hprompt⟩, ?_, ?_⟩
  · obtain ⟨-, -, hagree, -⟩ :=
      @poll_agrees_with_decode shotBytes .inbound hstarts shotDelivery hprompt
    have hfits : ∀ h, Header.ofBytes? shotBytes = some h → h.isValid = true →
        h.length.toNat ≤ Config.inbound.maxPayload := by
      intro h hread' _
      rw [hread, Option.some.injEq] at hread'
      rw [← hread']
      decide
    -- The decoder finds a packet, so the three errors are out of the question.
    rcases hagree hfits with ⟨_, _, hbad⟩ | ⟨_, _, hbad, -⟩ | hframe | ⟨_, _, hbad, -⟩
    · exact absurd (hdecode.symm.trans hbad) (by simp)
    · exact absurd (hdecode.symm.trans hbad) (by simp)
    · exact hframe
    · exact absurd (hdecode.symm.trans hbad) (by simp)
  · obtain ⟨-, hrefused, -⟩ :=
      @poll_agrees_with_decode shotBytes ⟨inboundStart, 4⟩ hstarts shotDelivery hprompt
    exact hrefused _ hread hsound (by decide)

end Packet

end ControllerLink
