/-
# What a poll does

A poll either takes a whole piece off the stream, and then nothing of what came
before has a part in its result, or it breaks off within one.  Both for every
script, every end of the stream and every patience.

A poll has three stages, which are the functions of the reader: hunting for a
start marker, gathering a header, and gathering the rest of the packet.
`Poll.Continues` is what each of them keeps.  It speaks of the bytes that came
before a stage, so that the stages are put together from the last one to the
first: the body goes on from a header (`pollBody_continues`), the header from a
start marker (`pollLocked_continues`), and the poll from nothing (`poll_cases`).
-/
import ControllerLink.Proofs.Cutting
import ControllerLink.Proofs.Gathering
import Mathlib.Tactic.Set

set_option autoImplicit false

namespace ControllerLink

/-! ## Bytes that end within a piece -/

namespace Packet.Config

variable {c : Config}

/-- Less than a header behind a start marker decides nothing. -/
theorem cut_eq_none_of_length_lt {bytes : Bytes} (hstart : bytes.head? = some c.start)
    (hlen : bytes.length < Header.size) : c.cut bytes = none := by
  rcases bytes with _ | ⟨b, bs⟩
  · rfl
  · have hread : Header.ofBytes? (b :: bs) = none := by
      rw [← Option.not_isSome_iff_eq_none, Header.isSome_ofBytes?_iff]
      omega
    rw [cut_cons_of_eq c (Option.some.inj hstart), hread, Option.bind_none]

/-- Less than a header announces decides nothing. -/
theorem cut_eq_none_of_header {h : Header} (hs : h.start = c.start) (hv : h.isValid = true)
    (hfit : h.length.toNat ≤ c.maxPayload) {rest : Bytes}
    (hlen : (h.toBytes ++ rest).length < h.packetSize) : c.cut (h.toBytes ++ rest) = none := by
  rw [c.cut_of_header hs, judge, hv, Bool.not_true, if_neg (by simp), if_neg (Nat.not_lt.2 hfit),
    if_pos hlen]

end Packet.Config

/-! ## Broken polls -/

/-- A poll that broke off within a piece of which so many bytes were read. -/
def Polled.Broken (received : Nat) : Polled → Prop
  | .idle | .frame _ => False
  | .stalled => True
  | .failed (.truncated expected n) => n = received ∧ n < expected
  | .failed e => e.isLinkFailure = true

/-- What a poll does when the bytes `before` of a piece have already been read: it makes the piece
whole, or it breaks off within it; what it counts follows from its outcome. -/
structure Poll.Continues (p : Poll) (r : Reader) (before : Bytes) (input : InputStream) : Prop where
  config : p.reader.config = r.config
  ending : p.input.ending = input.ending
  pending : input.pending = p.transcript.consumed ++ p.input.pending
  stats : p.reader.stats = r.stats.count p.outcome
  result : Piece r.config (before ++ p.transcript.consumed) p.outcome ∨
    r.config.cut (before ++ p.transcript.consumed) = none ∧
      p.outcome.Broken (before ++ p.transcript.consumed).length

namespace Poll.Continues

variable {p : Poll} {r : Reader} {before : Bytes} {input : InputStream}

/-- Neither what the buffer held nor what was dropped before the piece matters. -/
theorem of_eq (r' : Reader) (hconfig : r'.config = r.config) (hstats : r'.stats = r.stats)
    (h : p.Continues r' before input) : p.Continues r before input where
  config := hconfig ▸ h.config
  ending := h.ending
  pending := h.pending
  stats := hstats ▸ h.stats
  result := hconfig ▸ h.result

/-- A poll that begins with bytes read before it. -/
theorem after (t : Transcript) (input' : InputStream)
    (h : p.Continues r (before ++ t.consumed) input')
    (hending : input'.ending = input.ending)
    (hpending : input.pending = t.consumed ++ input'.pending) :
    Continues { p with transcript := t ++ p.transcript } r before input where
  config := h.config
  ending := h.ending.trans hending
  pending := by
    rw [Transcript.consumed_append, List.append_assoc, ← h.pending, hpending]
  stats := h.stats
  result := by
    rw [Transcript.consumed_append, ← List.append_assoc]
    exact h.result

end Poll.Continues

namespace Reader

/-- Giving up counts a packet as truncated exactly when the caller stopped waiting. -/
theorem giveUp_continues (r : Reader) {target : Nat} {input : InputStream} {g : Gathering}
    {before buffer : Bytes} {filled : Nat}
    (hfills : g.Fills target input.steps buffer filled) (hbefore : before.length = filled)
    (hresult : g.result ≠ .complete)
    (hcut : (before ++ g.transcript.consumed).length < target →
      r.config.cut (before ++ g.transcript.consumed) = none) :
    (r.giveUp target input.ending g).Continues r before input := by
  have hpending := hfills.pending input.ending
  have hlen : (before ++ g.transcript.consumed).length = filled + g.transcript.consumed.length := by
    rw [List.length_append, hbefore]
  -- What was read is short of the target, and so short of a piece.
  rcases hfills.result with ⟨hcomplete, -⟩ | ⟨hbroken, hshort⟩
  · exact absurd hcomplete hresult
  rw [← hlen] at hbroken hshort
  unfold giveUp
  cases hg : g.result with
  | complete => exact absurd hg hresult
  | abandoned n =>
    rw [hg] at hbroken
    exact ⟨rfl, rfl, hpending, rfl, .inr ⟨hcut hshort, hbroken, hbroken ▸ hshort⟩⟩
  -- Reading fails for the stream only; no other error comes of gathering.
  | failed e =>
    rw [hg] at hbroken
    cases e with
    | stream f => exact ⟨rfl, rfl, hpending, rfl, .inr ⟨hcut hshort, rfl⟩⟩
    | closed => exact ⟨rfl, rfl, hpending, rfl, .inr ⟨hcut hshort, rfl⟩⟩
    | _ => exact absurd hbroken (by simp [Gathered.Broken, PacketError.isLinkFailure])
  | stalled => exact ⟨rfl, rfl, hpending, rfl, .inr ⟨hcut hshort, trivial⟩⟩

/-- A header is judged by its own bytes. The header that is read back from the buffer is the one
that was put there. -/
theorem checkHeader_cases (r : Reader) (h : Header) (hbuffer : r.buffer = h.toBytes) :
    (h.isValid = false ∧ r.checkHeader = .error (Packet.headerMismatch h,
        { r with stats := { r.stats with headerErrors := r.stats.headerErrors + 1 } })) ∨
      (h.isValid = true ∧ r.config.maxPayload < h.length.toNat ∧
        r.checkHeader = .error (.payloadTooLarge h.length.toNat r.config.maxPayload,
          { r with stats := { r.stats with oversized := r.stats.oversized + 1 } })) ∨
      h.isValid = true ∧ h.length.toNat ≤ r.config.maxPayload ∧ r.checkHeader = .ok h := by
  have hread : Header.ofBytes? (r.buffer.take Header.size) = some h := by
    rw [hbuffer, List.take_of_length_le (Nat.le_of_eq (Header.length_toBytes h)),
      ← List.append_nil h.toBytes, Header.ofBytes?_toBytes]
  unfold checkHeader
  rw [hread]
  rcases hv : h.isValid with _ | _
  · exact .inl ⟨rfl, by simp [hv]⟩
  · by_cases hbig : r.config.maxPayload < h.length.toNat
    · exact .inr (.inl ⟨rfl, hbig, by simp [hv, hbig]⟩)
    · exact .inr (.inr ⟨rfl, Nat.not_lt.1 hbig, by simp [hv, hbig]⟩)

/-- A whole packet is judged by its own bytes. -/
theorem checkPacket_eq (r : Reader) (h : Header) (packet : Bytes)
    (hbuffer : r.buffer.take h.packetSize = packet) :
    (r.checkPacket h).1 = Packet.opened h packet ∧
      (r.checkPacket h).2.config = r.config ∧
      (r.checkPacket h).2.stats = r.stats.count (Packet.opened h packet) := by
  unfold checkPacket
  rw [hbuffer]
  rcases Packet.opened_cases h packet with ⟨f, hopen, hopened⟩ | ⟨hopen, hopened⟩
  · rw [hopen, hopened]
    exact ⟨rfl, rfl, rfl⟩
  · rw [hopen, hopened]
    exact ⟨rfl, rfl, rfl⟩

/-- What gathers the rest of the packet with header `h`. -/
def bodyGathering (r : Reader) (h : Header) (input : InputStream) (patience : Patience) :
    Gathering :=
  gather input.ending h.packetSize input.steps (r.buffer.resize h.packetSize) Header.size patience

/-- The body is gathered into the buffer behind the header that is there. -/
theorem bodyGathering_fills (r : Reader) (h : Header) (input : InputStream) (patience : Patience) :
    (r.bodyGathering h input patience).Fills h.packetSize input.steps
      (r.buffer.resize h.packetSize) Header.size := by
  refine gather_fills _ _ _ _ _ _ ?_ (Bytes.length_resize _ _)
  rw [Header.packetSize]
  omega

/-- The rest of a packet whose header is in the buffer: gathering it comes to nothing, or the
buffer holds the header and behind it just what was read, and that is judged. -/
theorem pollBody_cases {r : Reader} {h : Header} (hbuffer : r.buffer = h.toBytes)
    (input : InputStream) (patience : Patience) :
    ((r.bodyGathering h input patience).result ≠ .complete ∧
        r.pollBody h input patience =
          { r with buffer := (r.bodyGathering h input patience).buffer }.giveUp h.packetSize
            input.ending (r.bodyGathering h input patience)) ∨
      (r.bodyGathering h input patience).result = .complete ∧ ∃ packet reader,
        packet = h.toBytes ++ (r.bodyGathering h input patience).transcript.consumed ∧
        packet.length = h.packetSize ∧
        reader.config = r.config ∧ reader.stats = r.stats.count (Packet.opened h packet) ∧
        r.pollBody h input patience =
          ⟨Packet.opened h packet, reader,
            ⟨(r.bodyGathering h input patience).steps, input.ending⟩,
            (r.bodyGathering h input patience).transcript⟩ := by
  have hfills := r.bodyGathering_fills h input patience
  unfold pollBody
  rw [← bodyGathering]
  dsimp only
  generalize r.bodyGathering h input patience = g at *
  by_cases hresult : g.result = .complete
  · right
    have hcount : Header.size + g.transcript.consumed.length = h.packetSize :=
      hfills.length_of_complete hresult
    have hsize : Header.size ≤ h.packetSize := by omega
    -- The buffer was made as long as the packet, and all of it behind the header is overwritten.
    have hpacket : g.buffer = h.toBytes ++ g.transcript.consumed := by
      rw [hfills.buffer, Bytes.overwrite_of_length_le _ _ _ (by simp [Bytes.length_resize, hcount]),
        hbuffer, Bytes.take_resize _ _ _ (Header.length_toBytes h) hsize]
    have hlen : (h.toBytes ++ g.transcript.consumed).length = h.packetSize := by
      rw [List.length_append, Header.length_toBytes, hcount]
    obtain ⟨houtcome, hconfig, hstats⟩ := checkPacket_eq { r with buffer := g.buffer } h
      (h.toBytes ++ g.transcript.consumed) (by
        show g.buffer.take h.packetSize = _
        rw [hpacket, List.take_of_length_le (Nat.le_of_eq hlen)])
    refine ⟨hresult, _, _, rfl, hlen, hconfig, hstats, ?_⟩
    rw [hresult, ← houtcome]
  · left
    refine ⟨hresult, ?_⟩
    split
    · next hcomplete => exact absurd hcomplete hresult
    · rfl

/-- **A poll behind a header** goes on from it: the bytes it takes are the rest of this packet, and
the result is that of the piece. -/
theorem pollBody_continues {r : Reader} {h : Header} (hs : h.start = r.config.start)
    (hv : h.isValid = true) (hfit : h.length.toNat ≤ r.config.maxPayload)
    (hbuffer : r.buffer = h.toBytes) (input : InputStream) (patience : Patience) :
    (r.pollBody h input patience).Continues r h.toBytes input := by
  have hfills := r.bodyGathering_fills h input patience
  rcases pollBody_cases hbuffer input patience with
    ⟨hresult, hpoll⟩ | ⟨-, packet, reader, rfl, hlen, hconfig, hstats, hpoll⟩
  · rw [hpoll]
    exact .of_eq { r with buffer := (r.bodyGathering h input patience).buffer } rfl rfl
      (giveUp_continues _ hfills (Header.length_toBytes h) hresult
        (Packet.Config.cut_eq_none_of_header hs hv hfit))
  · rw [hpoll]
    exact ⟨hconfig, rfl, hfills.pending input.ending, hstats,
      .inl (.packet hs hv hfit (List.take_left' rfl) hlen)⟩

/-- The buffer at a start marker: the marker, and zeros up to the size of a header. -/
def cleared (r : Reader) : Bytes :=
  (Bytes.resize [] Header.size).overwrite 0 [r.config.start]

/-- What gathers the rest of a header. -/
def headerGathering (r : Reader) (input : InputStream) (patience : Patience) : Gathering :=
  gather input.ending Header.size input.steps r.cleared 1 patience

/-- The header is gathered into the buffer behind the start marker. -/
theorem headerGathering_fills (r : Reader) (input : InputStream) (patience : Patience) :
    (r.headerGathering input patience).Fills Header.size input.steps r.cleared 1 :=
  gather_fills _ _ _ _ _ _ (by decide) rfl

/-- A complete header: the marker, and the bytes read behind it. -/
theorem header_of_complete {r : Reader} {input : InputStream} {patience : Patience}
    (hresult : (r.headerGathering input patience).result = .complete) :
    ∃ h : Header, h.start = r.config.start ∧
      h.toBytes = [r.config.start] ++ (r.headerGathering input patience).transcript.consumed ∧
      (r.headerGathering input patience).buffer = h.toBytes := by
  have hfills := r.headerGathering_fills input patience
  generalize r.headerGathering input patience = g at *
  have hcount : 1 + g.transcript.consumed.length = Header.size :=
    hfills.length_of_complete hresult
  have hbuffer : g.buffer = r.config.start :: g.transcript.consumed := by
    rw [hfills.buffer, Bytes.overwrite_of_length_le _ _ _ (by rw [hcount]; exact Nat.le_refl _)]
    rfl
  have hlen : (r.config.start :: g.transcript.consumed).length = Header.size := by
    rw [List.length_cons, Nat.add_comm, hcount]
  -- The marker and the bytes read behind it are enough for a header.
  obtain ⟨h, hread⟩ := Option.isSome_iff_exists.1
    ((Header.isSome_ofBytes?_iff (r.config.start :: g.transcript.consumed)).2
      (Nat.le_of_eq hlen.symm))
  have hbytes : r.config.start :: g.transcript.consumed = h.toBytes := by
    rw [← Header.take_of_ofBytes? hread, List.take_of_length_le (Nat.le_of_eq hlen)]
  exact ⟨h, (List.cons.inj hbytes).1.symm, hbytes.symm, hbuffer.trans hbytes⟩

/-- A packet of which the start marker has been read: gathering its header comes to nothing, or the
header is refused, or the buffer holds the header and the rest of the packet is gathered. -/
theorem pollLocked_cases (r : Reader) (input : InputStream) (patience : Patience) :
    ((r.headerGathering input patience).result ≠ .complete ∧
        r.pollLocked input patience =
          { r with buffer := (r.headerGathering input patience).buffer }.giveUp Header.size
            input.ending (r.headerGathering input patience)) ∨
      (r.headerGathering input patience).result = .complete ∧
        ∃ h : Header, h.start = r.config.start ∧
        h.toBytes = [r.config.start] ++ (r.headerGathering input patience).transcript.consumed ∧
        ((∃ e reader, Piece r.config h.toBytes (.failed e) ∧ reader.config = r.config ∧
            reader.stats = r.stats.count (.failed e) ∧
            r.pollLocked input patience =
              ⟨.failed e, reader, ⟨(r.headerGathering input patience).steps, input.ending⟩,
                (r.headerGathering input patience).transcript⟩) ∨
          h.isValid = true ∧ h.length.toNat ≤ r.config.maxPayload ∧
            ∃ reader : Reader, reader.config = r.config ∧ reader.stats = r.stats ∧
              reader.buffer = h.toBytes ∧
              r.pollLocked input patience =
                let p := reader.pollBody h
                  ⟨(r.headerGathering input patience).steps, input.ending⟩
                  (r.headerGathering input patience).patience
                { p with
                  transcript :=
                    (r.headerGathering input patience).transcript ++ p.transcript }) := by
  have hheader := @header_of_complete r input patience
  unfold pollLocked
  dsimp only
  rw [← cleared, show gather input.ending Header.size input.steps r.cleared 1 patience =
    r.headerGathering input patience from rfl]
  generalize r.headerGathering input patience = g at *
  by_cases hresult : g.result = .complete
  · right
    -- The header is all there: what becomes of it is decided by its own checks, in their order.
    obtain ⟨h, hs, hbytes, hbuffer⟩ := hheader hresult
    refine ⟨hresult, h, hs, hbytes, ?_⟩
    rw [hresult]
    rcases checkHeader_cases { r with buffer := g.buffer } h hbuffer with
      ⟨hv, hcheck⟩ | ⟨hv, hbig, hcheck⟩ | ⟨hv, hfit, hcheck⟩
    · rw [hcheck]
      refine .inl ⟨_, _, .damaged hs hv, ?_, ?_, rfl⟩
      · rfl
      · rfl
    · rw [hcheck]
      refine .inl ⟨_, _, .oversized hs hv hbig, ?_, ?_, rfl⟩
      · rfl
      · rfl
    · rw [hcheck]
      exact .inr ⟨hv, hfit, { r with buffer := g.buffer }, rfl, rfl, hbuffer, rfl⟩
  · left
    refine ⟨hresult, ?_⟩
    split
    · next hcomplete => exact absurd hcomplete hresult
    · rfl

/-- **A poll behind a start marker** goes on from it, with the rest of the header and then
the body. -/
theorem pollLocked_continues (r : Reader) (input : InputStream) (patience : Patience) :
    (r.pollLocked input patience).Continues r [r.config.start] input := by
  have hfills := r.headerGathering_fills input patience
  have hpending := hfills.pending input.ending
  rcases r.pollLocked_cases input patience with ⟨hresult, hpoll⟩ |
    ⟨-, h, hs, hbytes, ⟨e, reader, hpiece, hconfig, hstats, hpoll⟩ |
      ⟨hv, hfit, reader, hconfig, hstats, hbuffer, hpoll⟩⟩
  · rw [hpoll]
    exact .of_eq { r with buffer := (r.headerGathering input patience).buffer } rfl rfl
      (giveUp_continues _ hfills rfl hresult (Packet.Config.cut_eq_none_of_length_lt rfl))
  · rw [hpoll]
    exact ⟨hconfig, rfl, hpending, hstats, .inl (hbytes ▸ hpiece)⟩
  · rw [hpoll]
    -- The body goes on from the header, and the header was read from the start marker on.
    have hbody := pollBody_continues (hs.trans (by rw [hconfig])) hv (by rwa [hconfig]) hbuffer
      ⟨(r.headerGathering input patience).steps, input.ending⟩
      (r.headerGathering input patience).patience
    rw [hbytes] at hbody
    exact .after _ _ (.of_eq reader hconfig hstats hbody) rfl hpending

/-- **What a poll does**: it finds the line quiet and leaves all as it is, or it takes a piece off
the stream, or it breaks off within one. -/
theorem poll_cases (r : Reader) (input : InputStream) (patience : Patience) :
    ((r.poll input patience).outcome = .idle ∧ (r.poll input patience).reader = r ∧
        (r.poll input patience).transcript.consumed = [] ∧
        (r.poll input patience).input.ending = input.ending ∧
        (r.poll input patience).input.pending = input.pending) ∨
      (r.poll input patience).Continues r [] input := by
  have hfinds := hunt_finds input.ending input.steps
  unfold poll
  dsimp only
  set h := hunt input.ending input.steps with hh
  have hpending := hfinds.pending input.ending
  -- The hunt found a byte, a quiet line, or a stream that has failed.
  rcases hfinds.result with ⟨b, hresult, hconsumed⟩ | ⟨hconsumed, hresult | ⟨e, hresult, he⟩⟩
  · rw [hresult]
    right
    by_cases hb : b = r.config.start
    · -- What was dropped before the marker is logged, which reads nothing.
      dsimp only
      rw [if_pos hb]
      have hlocked := pollLocked_continues { r with unlockedRun := 0 } ⟨h.steps, input.ending⟩
        patience
      have hbefore : (h.transcript ++ r.lockEvents).consumed = [r.config.start] := by
        rw [Transcript.consumed_append, hconsumed, hb, lockEvents]
        split <;> rfl
      refine .after (h.transcript ++ r.lockEvents) ⟨h.steps, input.ending⟩ ?_ rfl ?_
      · rw [hbefore]
        exact .of_eq { r with unlockedRun := 0 } rfl rfl hlocked
      · rw [hbefore, hpending, hconsumed, hb]
    · dsimp only
      rw [if_neg hb]
      -- A byte outside of a packet is a piece of its own, logged when it is dropped.
      have hbyte : (h.transcript ++ [Activity.logged (.byteDiscarded b)]).consumed = [b] := by
        rw [Transcript.consumed_append, hconsumed]
        rfl
      refine ⟨rfl, rfl, ?_, rfl, .inl ?_⟩
      · rw [hbyte, hpending, hconsumed]
      · rw [hbyte]
        exact .dropped hb
  · rw [hresult]
    exact .inl ⟨rfl, rfl, hconsumed, rfl, by rw [hpending, hconsumed]; rfl⟩
  · rw [hresult]
    right
    refine ⟨rfl, rfl, hpending, ?_, .inr ?_⟩
    · cases e with
      | stream f => rfl
      | closed => rfl
      | _ => exact absurd he (by simp [PacketError.isLinkFailure])
    · rw [hconsumed]
      refine ⟨rfl, ?_⟩
      cases e with
      | stream f => rfl
      | closed => rfl
      | _ => exact absurd he (by simp [PacketError.isLinkFailure])

/-- No byte is lost or read twice by a poll. -/
theorem pending_poll (r : Reader) (input : InputStream) (patience : Patience) :
    input.pending =
      (r.poll input patience).transcript.consumed ++ (r.poll input patience).input.pending := by
  rcases poll_cases r input patience with ⟨-, -, hconsumed, -, hpending⟩ | h
  · rw [hconsumed, hpending, List.nil_append]
  · exact h.pending

/-- A poll keeps the configuration. -/
theorem config_poll (r : Reader) (input : InputStream) (patience : Patience) :
    (r.poll input patience).reader.config = r.config := by
  rcases poll_cases r input patience with ⟨-, hreader, -⟩ | h
  · rw [hreader]
  · exact h.config

/-- A poll keeps the end of the stream. -/
theorem ending_poll (r : Reader) (input : InputStream) (patience : Patience) :
    (r.poll input patience).input.ending = input.ending := by
  rcases poll_cases r input patience with ⟨-, -, -, hending, -⟩ | h
  · exact hending
  · exact h.ending

/-- A poll that never comes back has met a start marker. Neither a quiet line nor a lost link leaves
a poll waiting. -/
theorem consumed_ne_nil_of_stalled {r : Reader} {input : InputStream} {patience : Patience}
    (hstalled : (r.poll input patience).outcome = .stalled) :
    (r.poll input patience).transcript.consumed ≠ [] := by
  have hfinds := (hunt_finds input.ending input.steps).result
  unfold poll at hstalled ⊢
  dsimp only at hstalled ⊢
  rcases hfinds with ⟨b, hresult, hconsumed⟩ | ⟨-, hresult | ⟨e, hresult, -⟩⟩
  · rw [hresult]
    dsimp only
    split
    · simp [Transcript.consumed_append, hconsumed]
    · simp [Transcript.consumed_append, hconsumed]
  · rw [hresult] at hstalled
    exact absurd hstalled (by simp)
  · rw [hresult] at hstalled
    exact absurd hstalled (by simp)

end Reader

end ControllerLink
