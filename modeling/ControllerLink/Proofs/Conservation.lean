/-
# Where the bytes go

A poll can end in nine ways.  Each of them fixes how many bytes the poll took
off the stream and which counter it moved, so that the counters, the packets
that were told of and those that were broken off account for every byte: over
any row of calls, none is lost and none is counted twice.

* `Poll.EndsIn` lists the ways of a poll, each with the bytes it has taken and
  the counters it has left behind; every poll has just one of them
  (`exists_endsIn`, `eq_exit`).
* Each way keeps the balance between the bytes taken and the counters, the
  judged packets and the abandoned bytes (`EndsIn.balance`).
* The calls of a session are polls in turn, so their balances add up.
A poll that hangs is one of the ways, since a caller may wait for ever on a line
that stays quiet; that this is its only cause is proved as well.
-/
import ControllerLink.Proofs.FrameBlocks
import Mathlib.Algebra.GroupWithZero.Nat

set_option autoImplicit false

namespace ControllerLink

/-! ## The ways a poll can end -/

/-- The ways in which a poll can end. -/
inductive PollExit where
  /-- A byte outside of a packet was dropped. -/
  | dropped
  /-- The line was quiet. -/
  | quiet
  /-- A packet passed both checks. -/
  | frame
  /-- A header failed its check. -/
  | damagedHeader
  /-- A header announced too long a payload. -/
  | oversized
  /-- A packet failed its check. -/
  | damagedPacket
  /-- The caller stopped waiting within a packet. -/
  | abandoned
  /-- The stream failed or ended. -/
  | linkFailed
  /-- The poll never comes back. -/
  | hung
deriving DecidableEq, Repr

/-- The poll `p` of the reader `r` ends so: what it comes to, the bytes it takes, and what it
counts; a counter that is not mentioned stays as it was. -/
def Poll.EndsIn (p : Poll) (r : Reader) : PollExit → Prop
  | .dropped =>
    p.outcome = .idle ∧ (∃ b, b ≠ r.config.start ∧ p.transcript.consumed = [b]) ∧
      p.reader.stats = { r.stats with skippedBytes := r.stats.skippedBytes + 1 }
  | .quiet => p.outcome = .idle ∧ p.transcript.consumed = [] ∧ p.reader.stats = r.stats
  | .frame =>
    ∃ f, p.outcome = .frame f ∧ p.transcript.consumed.length = f.wireSize ∧
      p.reader.stats = { r.stats with frames := r.stats.frames + 1 }
  | .damagedHeader =>
    (∃ expected actual, p.outcome = .failed (.headerChecksum expected actual)) ∧
      p.transcript.consumed.length = 5 ∧
      p.reader.stats = { r.stats with headerErrors := r.stats.headerErrors + 1 }
  | .oversized =>
    (∃ size max, p.outcome = .failed (.payloadTooLarge size max)) ∧
      p.transcript.consumed.length = 5 ∧
      p.reader.stats = { r.stats with oversized := r.stats.oversized + 1 }
  | .damagedPacket =>
    (∃ expected actual, p.outcome = .failed (.packetChecksum expected actual)) ∧
      (∃ h, Header.ofBytes? p.transcript.consumed = some h ∧
        p.transcript.consumed.length = 7 + h.length.toNat) ∧
      p.reader.stats = { r.stats with packetErrors := r.stats.packetErrors + 1 }
  | .abandoned =>
    (∃ expected received, p.outcome = .failed (.truncated expected received) ∧
        p.transcript.consumed.length = received ∧ 1 ≤ received ∧ received < expected) ∧
      r.config.cut p.transcript.consumed = none ∧
      p.reader.stats = { r.stats with truncated := r.stats.truncated + 1 }
  | .linkFailed =>
    (p.outcome = .failed .closed ∨ ∃ fault, p.outcome = .failed (.stream fault)) ∧
      r.config.cut p.transcript.consumed = none ∧ p.reader.stats = r.stats
  | .hung =>
    p.outcome = .stalled ∧ r.config.cut p.transcript.consumed = none ∧ p.reader.stats = r.stats

/-- The way in which a poll has ended, as its outcome and its bytes tell. -/
def Poll.exit (p : Poll) : PollExit :=
  match p.outcome with
  | .idle => if p.transcript.consumed = [] then .quiet else .dropped
  | .frame _ => .frame
  | .failed (.headerChecksum _ _) => .damagedHeader
  | .failed (.payloadTooLarge _ _) => .oversized
  | .failed (.packetChecksum _ _) => .damagedPacket
  | .failed (.truncated _ _) => .abandoned
  | .failed _ => .linkFailed
  | .stalled => .hung

/-- No poll ends in two ways. -/
theorem Poll.EndsIn.eq_exit {p : Poll} {r : Reader} {way : PollExit} (h : p.EndsIn r way) :
    way = p.exit := by
  cases way with
  | dropped =>
    obtain ⟨ho, ⟨b, -, hconsumed⟩, -⟩ := h
    simp [exit, ho, hconsumed]
  | quiet =>
    obtain ⟨ho, hconsumed, -⟩ := h
    simp [exit, ho, hconsumed]
  | frame =>
    obtain ⟨f, ho, -⟩ := h
    rw [exit, ho]
  | damagedHeader | oversized | damagedPacket =>
    obtain ⟨⟨x, y, ho⟩, -⟩ := h
    rw [exit, ho]
  | abandoned =>
    obtain ⟨⟨expected, received, ho, -⟩, -⟩ := h
    rw [exit, ho]
  | linkFailed =>
    obtain ⟨ho | ⟨fault, ho⟩, -⟩ := h
    · rw [exit, ho]
    · rw [exit, ho]
  | hung =>
    obtain ⟨ho, -⟩ := h
    rw [exit, ho]

/-- The bytes of a packet begin with the header that announces them. -/
theorem Header.ofBytes?_of_take {bytes : Bytes} {h : Header}
    (hfront : bytes.take Header.size = h.toBytes) : Header.ofBytes? bytes = some h := by
  rw [← List.take_append_drop Header.size bytes, hfront, ofBytes?_toBytes]

/-- A poll that took a whole piece ends as the piece tells. -/
theorem Poll.endsIn_of_piece {p : Poll} {r : Reader}
    (hpiece : Piece r.config p.transcript.consumed p.outcome)
    (hstats : p.reader.stats = r.stats.count p.outcome) : ∃ way, p.EndsIn r way := by
  generalize hbytes : p.transcript.consumed = bytes at hpiece
  generalize ho : p.outcome = o at hpiece hstats
  cases hpiece with
  | dropped hb => exact ⟨.dropped, ho, ⟨_, hb, hbytes⟩, hstats⟩
  | damaged hs hv => exact ⟨.damagedHeader, ⟨_, _, ho⟩, by rw [hbytes]; rfl, hstats⟩
  | oversized hs hv hbig => exact ⟨.oversized, ⟨_, _, ho⟩, by rw [hbytes]; rfl, hstats⟩
  | @packet h packet hs hv hfit hfront hlen =>
    -- The length of a packet is the one that its own header announces, whether or not it is sound.
    rcases Packet.opened_cases h bytes with ⟨f, hopen, hopened⟩ | ⟨-, hopened⟩
    · have hheader : f.header = h := (Packet.eq_withHeader_of_open? hopen hfront hlen).1
      rw [hopened] at ho hstats
      refine ⟨.frame, f, ho, ?_, hstats⟩
      rw [hbytes, hlen, Frame.wireSize, hheader]
    · rw [hopened] at ho hstats
      refine ⟨.damagedPacket, ⟨_, _, ho⟩, ⟨h, ?_, ?_⟩, hstats⟩
      · rw [hbytes, Header.ofBytes?_of_take hfront]
      · rw [hbytes, hlen, Header.packetSize, Header.size, Header.checksumSize]
        omega

/-- A poll that broke off within a packet, if it gave one up then behind its start marker. What
breaks a poll off is the caller or the stream; a refusal belongs to a whole piece. -/
theorem Poll.endsIn_of_broken {p : Poll} {r : Reader}
    (hbroken : p.outcome.Broken p.transcript.consumed.length)
    (hcut : r.config.cut p.transcript.consumed = none)
    (hmarker : ∀ expected received, p.outcome = .failed (.truncated expected received) →
      p.transcript.consumed ≠ [])
    (hstats : p.reader.stats = r.stats.count p.outcome) : ∃ way, p.EndsIn r way := by
  generalize ho : p.outcome = o at hbroken hstats hmarker
  cases o with
  | idle | frame f => exact absurd hbroken id
  | stalled => exact ⟨.hung, ho, hcut, hstats⟩
  | failed e =>
    cases e with
    | truncated expected received =>
      obtain ⟨hreceived, hshort⟩ := hbroken
      have hpos := List.length_pos_iff.2 (hmarker expected received rfl)
      exact ⟨.abandoned, ⟨expected, received, ho, hreceived.symm, hreceived ▸ hpos, hshort⟩, hcut,
        hstats⟩
    | stream fault => exact ⟨.linkFailed, .inr ⟨fault, ho⟩, hcut, hstats⟩
    | closed => exact ⟨.linkFailed, .inl ho, hcut, hstats⟩
    | _ => exact absurd hbroken (by simp [Polled.Broken, PacketError.isLinkFailure])

/-! ## Waiting for ever -/

/-- A caller with some patience loses it on a line that stays quiet. -/
theorem result_waitQuiet (target : Nat) (buffer : Bytes) (filled n : Nat) :
    (waitQuiet target buffer filled n).result = .abandoned filled ∧
      (waitQuiet target buffer filled n).patience = some 0 := by
  induction n with
  | zero => exact ⟨rfl, rfl⟩
  | succ n ih => exact ih

/-- Gathering never comes back only when the caller always waits and the line stays quiet; and a
caller who could lose patience before it can do so after it. -/
theorem gather_stalled (ending : Ending) (target : Nat) (steps : List ReadStep) (buffer : Bytes)
    (filled : Nat) (patience : Patience) :
    ((gather ending target steps buffer filled patience).result = .stalled →
        patience = none ∧ ending = .quiet) ∧
      ((gather ending target steps buffer filled patience).patience = none → patience = none) := by
  fun_induction gather ending target steps buffer filled patience with
  | case4 buffer filled hlack hend => exact ⟨fun _ => ⟨rfl, hend⟩, id⟩
  | case5 buffer filled hlack hend n =>
    obtain ⟨hresult, hpatience⟩ := result_waitQuiet target buffer filled n
    rw [hresult, hpatience]
    exact ⟨by simp, by simp⟩
  | case7 | case9 | case12 => assumption
  | case11 buffer filled hlack room kind rest read hkind hquiet n ih =>
    exact ⟨fun h => absurd (ih.1 h).1 (by simp), fun h => absurd (ih.2 h) (by simp)⟩
  | case1 | case2 | case3 | case6 | case8 | case13 => exact ⟨by simp, id⟩
  | case10 => exact ⟨by simp, by simp⟩

namespace Reader

/-- Giving up hangs exactly when the gathering did. -/
theorem stalled_giveUp {r : Reader} {target : Nat} {ending : Ending} {g : Gathering}
    (hresult : g.result ≠ .complete) :
    (r.giveUp target ending g).outcome = .stalled ↔ g.result = .stalled := by
  unfold giveUp
  cases hg : g.result with
  | complete => exact absurd hg hresult
  | abandoned | failed | stalled => simp

/-- A poll behind the marker never comes back only for a caller without end on a line that stays
quiet. -/
theorem stalled_pollLocked {r : Reader} {input : InputStream} {patience : Patience}
    (hstalled : (r.pollLocked input patience).outcome = .stalled) :
    patience = none ∧ input.ending = .quiet := by
  have hheader := gather_stalled input.ending Header.size input.steps r.cleared 1 patience
  rw [← headerGathering] at hheader
  rcases r.pollLocked_cases input patience with ⟨hresult, hpoll⟩ |
    ⟨-, h, -, -, ⟨e, reader, -, -, -, hpoll⟩ | ⟨-, -, reader, -, -, hbuffer, hpoll⟩⟩
  · rw [hpoll, stalled_giveUp hresult] at hstalled
    exact hheader.1 hstalled
  · rw [hpoll] at hstalled
    exact absurd hstalled (by simp)
  · rw [hpoll] at hstalled
    rcases pollBody_cases hbuffer ⟨(r.headerGathering input patience).steps, input.ending⟩
      (r.headerGathering input patience).patience with ⟨hresult, hbody⟩ |
        ⟨-, packet, reader', -, -, -, -, hbody⟩
    · dsimp only at hstalled
      rw [hbody, stalled_giveUp hresult, bodyGathering] at hstalled
      -- The body got the patience that the header has left over, so the caller had none to lose
      -- before.
      obtain ⟨hpatience, hending⟩ := (gather_stalled _ _ _ _ _ _).1 hstalled
      exact ⟨hheader.2 hpatience, hending⟩
    · dsimp only at hstalled
      rw [hbody] at hstalled
      rcases Packet.opened_cases h packet with ⟨f, -, ho⟩ | ⟨-, ho⟩
      · rw [ho] at hstalled
        exact absurd hstalled (by simp)
      · rw [ho] at hstalled
        exact absurd hstalled (by simp)

/-- **Only a caller that always waits can wait for ever**, and only on a line that stays quiet. -/
theorem stalled_poll {r : Reader} {input : InputStream} {patience : Patience}
    (hstalled : (r.poll input patience).outcome = .stalled) :
    patience = none ∧ input.ending = .quiet := by
  unfold poll at hstalled
  dsimp only at hstalled
  split at hstalled
  · exact absurd hstalled (by simp)
  · exact absurd hstalled (by simp)
  · split at hstalled
    · exact @stalled_pollLocked _ ⟨(hunt input.ending input.steps).steps, input.ending⟩ _ hstalled
    · exact absurd hstalled (by simp)

/-- A poll that takes no byte is idle, or has lost the link. -/
theorem outcome_of_consumed_eq_nil {r : Reader} {input : InputStream} {patience : Patience}
    (hconsumed : (r.poll input patience).transcript.consumed = []) :
    (r.poll input patience).outcome = .idle ∨
      ∃ e, (r.poll input patience).outcome = .failed e ∧ e.isLinkFailure = true := by
  have hfinds := (hunt_finds input.ending input.steps).result
  unfold poll at hconsumed ⊢
  dsimp only at hconsumed ⊢
  rcases hfinds with ⟨b, hresult, hbyte⟩ | ⟨-, hresult | ⟨e, hresult, he⟩⟩
  · rw [hresult] at hconsumed
    dsimp only at hconsumed
    split at hconsumed
    · simp [hbyte] at hconsumed
    · simp [hbyte] at hconsumed
  · rw [hresult]
    exact .inl rfl
  · rw [hresult]
    exact .inr ⟨e, rfl, he⟩

/-- Every poll ends in one of the nine ways. Within a packet the start marker at least has been
read. -/
theorem exists_endsIn (r : Reader) (input : InputStream) (patience : Patience) :
    ∃ way, (r.poll input patience).EndsIn r way := by
  rcases r.poll_cases input patience with ⟨hidle, hreader, hconsumed, -⟩ | h
  · exact ⟨.quiet, hidle, hconsumed, by rw [hreader]⟩
  · rcases h.result with hpiece | ⟨hcut, hbroken⟩
    · exact Poll.endsIn_of_piece hpiece h.stats
    · refine Poll.endsIn_of_broken hbroken hcut (fun expected received ho hconsumed => ?_) h.stats
      rcases outcome_of_consumed_eq_nil hconsumed with hidle | ⟨e, hfailed, he⟩
      · exact absurd (hidle.symm.trans ho) (by simp)
      · rw [Polled.failed.inj (hfailed.symm.trans ho)] at he
        exact absurd he (by simp [PacketError.isLinkFailure])

end Reader

/-! ## The balance -/

/-- The bytes that the counters account for by themselves: dropped ones and refused headers. -/
def ReaderStats.bytes (s : ReaderStats) : Nat :=
  s.skippedBytes + 5 * (s.headerErrors + s.oversized)

namespace Poll

/-- The bytes of the packet that a poll has judged: those of a frame, or all that the header of a
refused packet announces. -/
def packetBytes (p : Poll) : Nat :=
  match p.outcome with
  | .frame f => f.wireSize
  | .failed (.packetChecksum _ _) =>
    ((Header.ofBytes? p.transcript.consumed).map Header.packetSize).getD 0
  | _ => 0

/-- The bytes of the packet within which a poll broke off: so many as the caller is told when it
stopped waiting, and what was read when the stream failed or stays quiet for ever. -/
def abandonedBytes (p : Poll) : Nat :=
  match p.outcome with
  | .failed (.truncated _ received) => received
  | .failed (.stream _) | .failed .closed | .stalled => p.transcript.consumed.length
  | _ => 0

/-- What a poll took is what it counted, judged or broke off. -/
theorem EndsIn.balance {p : Poll} {r : Reader} {way : PollExit} (h : p.EndsIn r way) :
    p.transcript.consumed.length + r.stats.bytes =
      p.reader.stats.bytes + p.packetBytes + p.abandonedBytes := by
  cases way with
  | dropped =>
    obtain ⟨ho, ⟨b, -, hconsumed⟩, hstats⟩ := h
    simp only [hstats, ho, hconsumed, packetBytes, abandonedBytes, ReaderStats.bytes,
      List.length_singleton]
    omega
  | quiet =>
    obtain ⟨ho, hconsumed, hstats⟩ := h
    simp [hstats, ho, hconsumed, packetBytes, abandonedBytes]
  | frame =>
    obtain ⟨f, ho, hlen, hstats⟩ := h
    simp only [hstats, ho, hlen, packetBytes, abandonedBytes, ReaderStats.bytes]
    omega
  | damagedHeader | oversized =>
    obtain ⟨⟨x, y, ho⟩, hlen, hstats⟩ := h
    simp only [hstats, ho, hlen, packetBytes, abandonedBytes, ReaderStats.bytes]
    omega
  | damagedPacket =>
    obtain ⟨⟨expected, actual, ho⟩, ⟨h, hread, hlen⟩, hstats⟩ := h
    simp only [hstats, ho, hlen, hread, packetBytes, abandonedBytes, ReaderStats.bytes,
      Option.map_some, Option.getD_some, Header.packetSize, Header.size, Header.checksumSize]
    omega
  | abandoned =>
    obtain ⟨⟨expected, received, ho, hlen, -⟩, -, hstats⟩ := h
    simp only [hstats, ho, hlen, packetBytes, abandonedBytes, ReaderStats.bytes]
    omega
  | linkFailed =>
    obtain ⟨ho | ⟨fault, ho⟩, -, hstats⟩ := h
    · simp [hstats, ho, packetBytes, abandonedBytes, Nat.add_comm]
    · simp [hstats, ho, packetBytes, abandonedBytes, Nat.add_comm]
  | hung =>
    obtain ⟨ho, -, hstats⟩ := h
    simp [hstats, ho, packetBytes, abandonedBytes, Nat.add_comm]

end Poll

/-- The counters after polls in turn that began with the counters `s`. -/
def ReaderStats.after (s : ReaderStats) (polls : List Poll) : ReaderStats :=
  polls.foldl (fun _ p => p.reader.stats) s

/-- Polls in turn, begun with the counters `s`, that account for every byte that they took. -/
def ReaderStats.Balances (s : ReaderStats) (polls : List Poll) : Prop :=
  (polls.flatMap fun p => p.transcript.consumed).length + s.bytes =
    (s.after polls).bytes + (polls.map Poll.packetBytes).sum + (polls.map Poll.abandonedBytes).sum

namespace ReaderStats.Balances

theorem nil (s : ReaderStats) : s.Balances [] := Nat.zero_add _

theorem append {s : ReaderStats} {polls polls' : List Poll} (h : s.Balances polls)
    (h' : (s.after polls).Balances polls') : s.Balances (polls ++ polls') := by
  have hafter : s.after (polls ++ polls') = (s.after polls).after polls' := List.foldl_append
  unfold Balances at h h' ⊢
  rw [hafter, List.flatMap_append, List.length_append, List.map_append, List.sum_append,
    List.map_append, List.sum_append]
  omega

/-- Every poll balances by itself, whichever way it has ended. -/
theorem poll (r : Reader) (input : InputStream) (patience : Patience) :
    r.stats.Balances [r.poll input patience] := by
  obtain ⟨way, h⟩ := r.exists_endsIn input patience
  unfold Balances
  rw [List.flatMap_singleton, List.map_singleton, List.map_singleton, List.sum_singleton,
    List.sum_singleton]
  exact h.balance

end ReaderStats.Balances

namespace Reader

/-- The polls of a read account for its bytes, and lead to the counters that it leaves. -/
theorem balances_nextPolls (r : Reader) (input : InputStream) :
    r.stats.Balances (r.nextPolls input) ∧
      r.stats.after (r.nextPolls input) = (r.next input).reader.stats := by
  fun_induction nextPolls r input with
  | case1 r input p hmore ih =>
    rw [next_of_idle hmore.1 hmore.2]
    exact ⟨.append (.poll r input none) ih.1, ih.2⟩
  | case2 r input p hlast =>
    rw [(next_of_last hlast).1]
    exact ⟨.poll r input none, rfl⟩

/-- A session balances call by call; changing the limit counts nothing. -/
theorem balances_session (calls : List ReaderCall) (r : Reader) (input : InputStream) :
    r.stats.Balances ((r.session input calls).flatMap CallRecord.polls) := by
  induction calls generalizing r input with
  | nil => exact .nil r.stats
  | cons call calls ih =>
    cases call with
    | poll patience => exact .append (.poll r input patience) (ih _ _)
    | read =>
      obtain ⟨hbalances, hafter⟩ := balances_nextPolls r input
      refine .append hbalances ?_
      rw [hafter]
      exact ih _ _
    | setMaxPayload max => exact ih (r.withMaxPayload max) input

end Reader

/-- **No byte is lost, counted twice or read ahead.**  A poll takes its bytes off the front of the
stream and ends in exactly one of nine ways; it never comes back only when its caller always waits
and the line stays quiet.  Ask anything of a reader in any order: the bytes that all its polls took
are those that the counters have gone up by, those of the packets that were judged, and those of the
packets within which a poll broke off. -/
theorem bytes_are_conserved (r : Reader) :
    (∀ (input : InputStream) (patience : Patience),
        input.pending =
            (r.poll input patience).transcript.consumed ++ (r.poll input patience).input.pending ∧
          (∃! way, (r.poll input patience).EndsIn r way) ∧
          ((r.poll input patience).outcome = .stalled → patience = none ∧ input.ending = .quiet)) ∧
      ∀ (input : InputStream) (calls : List ReaderCall),
        let polls := (r.session input calls).flatMap CallRecord.polls
        (∃ rest, input.pending = (polls.flatMap fun p => p.transcript.consumed) ++ rest) ∧
          (polls.flatMap fun p => p.transcript.consumed).length + r.stats.bytes =
            (r.stats.after polls).bytes + (polls.map Poll.packetBytes).sum +
              (polls.map Poll.abandonedBytes).sum := by
  constructor
  · intro input patience
    obtain ⟨way, h⟩ := r.exists_endsIn input patience
    exact ⟨r.pending_poll input patience, ⟨way, h, fun way' h' => h'.eq_exit.trans h.eq_exit.symm⟩,
      Reader.stalled_poll⟩
  · intro input calls polls
    obtain ⟨rest, hrest⟩ := Reader.pending_session calls r input
    refine ⟨⟨rest, ?_⟩, Reader.balances_session calls r input⟩
    rw [hrest, List.flatMap_assoc]
    rfl

end ControllerLink
