/-
# What the log says of dropped bytes

A reader counts the bytes that it drops twice: in its statistics, and since the
last start marker, which is the number that it logs when it meets the next one.
Whatever comes of the polls, the numbers in the log and the bytes dropped behind
the last marker add up to the statistics, and a number is logged right behind a
marker if any byte was dropped before it, and nowhere else.

A single poll takes no byte, or drops one, or meets a start marker, and does
something else to the two counts in each case (`Reader.Skips`). The run of
dropped bytes is also defined from outside, by the first bytes of the polls
alone (`sinceMarker`). That the count of a reader is that number, and that the
log makes up for the difference to its statistics, is an induction over polls in
turn (`Reader.Polls.skips_eq`), whatever they were asked over which stream.
-/
import ControllerLink.Proofs.FrameBlocks
import ControllerLink.Proofs.ReaderLog
import Mathlib.Algebra.GroupWithZero.Nat

set_option autoImplicit false

namespace ControllerLink

/-! ## Numbers in the log -/

/-- The number of dropped bytes that an event tells of. -/
def LogEvent.skipped? : LogEvent → Option Nat
  | .locked n => some n
  | _ => none

namespace Transcript

/-- The numbers of dropped bytes that are logged. -/
def locks (t : Transcript) : List Nat :=
  t.events.filterMap LogEvent.skipped?

@[simp] theorem locks_nil : locks [] = [] := rfl

@[simp] theorem locks_append (s t : Transcript) : locks (s ++ t) = locks s ++ locks t := by
  simp [locks, events]

@[simp] theorem locks_read (room : Nat) (o : ReadOutcome) (t : Transcript) :
    locks (.read room o :: t) = locks t := rfl

@[simp] theorem locks_byteDiscarded (b : UInt8) (t : Transcript) :
    locks (.logged (.byteDiscarded b) :: t) = locks t := rfl

/-- A number is logged with the start marker that ends a run of dropped bytes. -/
@[simp] theorem locks_locked (n : Nat) (t : Transcript) :
    locks (.logged (.locked n) :: t) = n :: locks t := rfl

/-- Where every event is of some other kind, no number is logged. -/
theorem Logs.locks_eq_nil {t : Transcript} {p : LogEvent → Bool} (h : t.Logs p)
    (hp : ∀ e, p e = true → e.skipped? = none) : t.locks = [] :=
  List.filterMap_eq_nil_iff.2 fun e he => hp e (h e he)

end Transcript

/-- Looking for a start marker logs no number; this is done once the marker is there. -/
theorem locks_hunt (ending : Ending) (steps : List ReadStep) :
    (hunt ending steps).transcript.locks = [] :=
  (hunt_logs ending steps fun _ => false).locks_eq_nil fun _ h => absurd h (by simp)

/-- Nothing behind the start marker logs a number. -/
theorem Reader.locks_pollLocked (r : Reader) (input : InputStream) (patience : Patience) :
    (r.pollLocked input patience).transcript.locks = [] := by
  refine (pollLocked_logs r input patience).locks_eq_nil fun e he => ?_
  cases e with
  | waiting received expected => rfl
  | _ => exact absurd he (by simp [LogEvent.isWaiting])

/-- A hunt that finds a byte has read it last, and no other before it. -/
theorem exists_transcript_of_byte {ending : Ending} {steps : List ReadStep} {b : UInt8}
    (hfound : (hunt ending steps).result = .byte b) :
    ∃ quiet : Transcript, (hunt ending steps).transcript = quiet ++ [.read 1 (.bytes [b])] ∧
      quiet.consumed = [] := by
  fun_induction hunt ending steps with
  | case1 => cases ending <;> exact absurd hfound (by simp)
  | case2 | case6 | case7 => exact absurd hfound (by simp)
  | case3 b' rest | case4 b' bs rest =>
    rw [Hunted.byte.inj hfound]
    exact ⟨[], rfl, rfl⟩
  | case5 rest h read ih =>
    obtain ⟨quiet, htranscript, hquiet⟩ := ih hfound
    exact ⟨read :: quiet, by rw [htranscript]; rfl, hquiet⟩

/-! ## One poll -/

namespace Poll

/-- The first byte that a poll takes off the stream: a start marker, or one that is dropped. -/
def first? (p : Poll) : Option UInt8 := p.transcript.consumed.head?

/-- A poll that logs right behind the start marker that `n` bytes were dropped, unless none was, and
logs no such number besides. -/
def LocksAfter (p : Poll) (start : UInt8) (n : Nat) : Prop :=
  ∃ quiet body : Transcript,
    p.transcript = quiet ++ .read 1 (.bytes [start]) ::
      ((if 0 < n then [.logged (.locked n)] else []) ++ body) ∧
    quiet.consumed = [] ∧ quiet.locks = [] ∧ body.locks = []

variable {p : Poll} {start : UInt8} {n : Nat}

/-- A poll that logs how many bytes were dropped before a marker has begun with the marker. -/
theorem LocksAfter.first?_eq (h : p.LocksAfter start n) : p.first? = some start := by
  obtain ⟨quiet, body, htranscript, hquiet, -⟩ := h
  rw [first?, htranscript, Transcript.consumed_append, hquiet]
  rfl

/-- The logged number is there exactly if it is not zero, and so it adds up to itself. Before the
marker and behind its event no number is logged. -/
theorem LocksAfter.sum_locks (h : p.LocksAfter start n) : p.transcript.locks.sum = n := by
  obtain ⟨quiet, body, htranscript, -, hquiet, hbody⟩ := h
  rw [htranscript, Transcript.locks_append, hquiet, List.nil_append, Transcript.locks_read,
    Transcript.locks_append, hbody, List.append_nil]
  split
  · exact List.sum_singleton
  · next hzero => exact (Nat.eq_zero_of_not_pos hzero).symm

end Poll

namespace Reader

/-- The two counts of dropped bytes. -/
def skips (r : Reader) : Nat × Nat := (r.stats.skippedBytes, r.unlockedRun)

theorem skips_giveUp (r : Reader) (target : Nat) (ending : Ending) (g : Gathering) :
    (r.giveUp target ending g).reader.skips = r.skips := by
  unfold giveUp
  cases g.result <;> rfl

theorem skips_checkPacket (r : Reader) (h : Header) : (r.checkPacket h).2.skips = r.skips := by
  unfold checkPacket
  split <;> rfl

theorem skips_of_checkHeader {r r' : Reader} {e : PacketError}
    (h : r.checkHeader = .error (e, r')) : r'.skips = r.skips := by
  unfold checkHeader at h
  -- Whatever a header is refused for, these are not the counts that go up.
  split at h
  · rw [← (Prod.mk.inj (Except.error.inj h)).2]
  · split at h
    · rw [← (Prod.mk.inj (Except.error.inj h)).2]
      rfl
    · split at h
      · rw [← (Prod.mk.inj (Except.error.inj h)).2]
        rfl
      · exact absurd h (by simp)

/-- Neither count of dropped bytes changes while the body of a packet is read. -/
theorem skips_pollBody (r : Reader) (h : Header) (input : InputStream) (patience : Patience) :
    (r.pollBody h input patience).reader.skips = r.skips := by
  unfold pollBody
  dsimp only
  split
  · exact skips_checkPacket _ _
  · exact skips_giveUp _ _ _ _

/-- However a packet ends, its bytes are not counted as dropped. -/
theorem skips_pollLocked (r : Reader) (input : InputStream) (patience : Patience) :
    (r.pollLocked input patience).reader.skips = r.skips := by
  unfold pollLocked
  dsimp only
  split
  · split
    · next hrefused => exact (skips_of_checkHeader hrefused).trans rfl
    · exact skips_pollBody _ _ _ _
  · exact skips_giveUp _ _ _ _

/-- What a poll does with the counts of dropped bytes: it takes no byte and leaves them, or drops
one and counts it twice, or meets a start marker and logs what was dropped since the last one. -/
inductive Skips (r : Reader) (p : Poll) : Prop where
  | quiet (hfirst : p.first? = none) (hskips : p.reader.skips = r.skips)
      (hlocks : p.transcript.locks = [])
  | dropped {b : UInt8} (hb : b ≠ r.config.start) (hidle : p.outcome = .idle)
      (hconsumed : p.transcript.consumed = [b])
      (hskips : p.reader.skips = (r.stats.skippedBytes + 1, r.unlockedRun + 1))
      (hlocks : p.transcript.locks = [])
  | locked (hskips : p.reader.skips = (r.stats.skippedBytes, 0))
      (hlocks : p.LocksAfter r.config.start r.unlockedRun)

/-- What the first byte of a poll tells of its log. -/
theorem Skips.locks_of_first? {r : Reader} {p : Poll} (h : r.Skips p) :
    (p.first? = some r.config.start → p.LocksAfter r.config.start r.unlockedRun) ∧
      (p.first? ≠ some r.config.start → p.transcript.locks = []) ∧
      ∀ b, p.first? = some b → b ≠ r.config.start →
        p.transcript.consumed = [b] ∧ p.outcome = .idle := by
  cases h with
  | quiet hfirst _ hlocks =>
    rw [hfirst]
    exact ⟨nofun, fun _ => hlocks, nofun⟩
  | @dropped b hb hidle hconsumed _ hlocks =>
    have hfirst : p.first? = some b := congrArg List.head? hconsumed
    rw [hfirst]
    refine ⟨fun h => absurd (Option.some.inj h) hb, fun _ => hlocks, fun b' h _ => ?_⟩
    rw [← Option.some.inj h]
    exact ⟨hconsumed, hidle⟩
  | locked _ hlocks =>
    rw [hlocks.first?_eq]
    exact ⟨fun _ => hlocks, fun h => absurd rfl h, fun b h hb => absurd (Option.some.inj h).symm hb⟩

/-- **What a poll does with the counts**, however it ends. -/
theorem poll_skips (r : Reader) (input : InputStream) (patience : Patience) :
    r.Skips (r.poll input patience) := by
  have hlocks := locks_hunt input.ending input.steps
  unfold poll
  dsimp only
  -- What the hunt has come to: a byte, or nothing at all.
  rcases (hunt_finds input.ending input.steps).result with ⟨b, hresult, hconsumed⟩ |
    ⟨hconsumed, hresult | ⟨e, hresult, -⟩⟩
  · rw [hresult]
    dsimp only
    -- The byte is the marker, which is logged with the run before it, or one more is dropped.
    by_cases hb : b = r.config.start
    · subst hb
      rw [if_pos rfl]
      obtain ⟨quiet, htranscript, hquiet⟩ := exists_transcript_of_byte hresult
      rw [htranscript, Transcript.locks_append] at hlocks
      refine .locked (skips_pollLocked _ _ _) ⟨quiet, _, ?_, hquiet,
        (List.append_eq_nil_iff.1 hlocks).1, locks_pollLocked { r with unlockedRun := 0 }
          ⟨(hunt input.ending input.steps).steps, input.ending⟩ patience⟩
      rw [htranscript, lockEvents, List.append_assoc, List.append_assoc]
      rfl
    · rw [if_neg hb]
      refine .dropped hb rfl ?_ rfl ?_
      · rw [Transcript.consumed_append, hconsumed]
        rfl
      · rw [Transcript.locks_append, hlocks]
        rfl
  · rw [hresult]
    exact .quiet (congrArg List.head? hconsumed) rfl hlocks
  · rw [hresult]
    exact .quiet (congrArg List.head? hconsumed) rfl hlocks

end Reader

/-! ## Polls in turn -/

/-- How many of the bytes that polls have met were dropped behind the last start marker. -/
def sinceMarker (start : UInt8) (polls : List Poll) : Nat :=
  ((polls.filterMap Poll.first?).reverse.takeWhile (· != start)).length

section

variable {start : UInt8} {p : Poll} (polls : List Poll)

theorem sinceMarker_of_none (h : p.first? = none) :
    sinceMarker start (polls ++ [p]) = sinceMarker start polls := by
  rw [sinceMarker, List.filterMap_append, List.filterMap_cons_none h, List.filterMap_nil,
    List.append_nil, sinceMarker]

/-- A start marker ends the run. -/
theorem sinceMarker_of_marker (h : p.first? = some start) :
    sinceMarker start (polls ++ [p]) = 0 := by
  rw [sinceMarker, List.filterMap_append, List.filterMap_cons_some h, List.filterMap_nil,
    List.reverse_append, List.reverse_singleton, List.singleton_append,
    List.takeWhile_cons_of_neg (by simp), List.length_nil]

/-- Any other byte that a poll begins with makes the run longer by one. -/
theorem sinceMarker_of_dropped {b : UInt8} (hb : b ≠ start) (h : p.first? = some b) :
    sinceMarker start (polls ++ [p]) = sinceMarker start polls + 1 := by
  rw [sinceMarker, List.filterMap_append, List.filterMap_cons_some h, List.filterMap_nil,
    List.reverse_append, List.reverse_singleton, List.singleton_append,
    List.takeWhile_cons_of_pos (by simp [hb]), List.length_cons, sinceMarker]

end

/-- `r₀.Polls polls r`: polls made in turn, each on any stream and for a caller of any patience,
have led from `r₀` to `r`; between them the limit on payloads may have been changed. -/
inductive Reader.Polls (r₀ : Reader) : List Poll → Reader → Prop where
  | start : Polls r₀ [] r₀
  | poll {polls : List Poll} {r : Reader} (h : Polls r₀ polls r) (input : InputStream)
      (patience : Patience) :
      Polls r₀ (polls ++ [r.poll input patience]) (r.poll input patience).reader
  | limit {polls : List Poll} {r : Reader} (h : Polls r₀ polls r) (max : Nat) :
      Polls r₀ polls (r.withMaxPayload max)

namespace Reader

variable {r₀ r r' : Reader} {polls polls' : List Poll}

theorem Polls.append (h : r₀.Polls polls r) (h' : r.Polls polls' r') :
    r₀.Polls (polls ++ polls') r' := by
  induction h' with
  | start => rwa [List.append_nil]
  | poll _ input patience ih =>
    rw [← List.append_assoc]
    exact ih.poll input patience
  | limit _ max ih => exact ih.limit max

/-- Every poll among polls in turn is one of a reader to which those before it have led. -/
theorem Polls.exists_poll {front back : List Poll} {p : Poll}
    (h : r₀.Polls (front ++ p :: back) r) :
    ∃ r input patience, r₀.Polls front r ∧ p = r.poll input patience := by
  generalize hpolls : front ++ p :: back = polls at h
  induction h generalizing back with
  | start => exact absurd hpolls (by simp)
  | limit _ max ih => exact ih hpolls
  | @poll polls r h input patience ih =>
    rcases List.eq_nil_or_concat back with rfl | ⟨back, last, rfl⟩
    · obtain ⟨rfl, hp⟩ := List.append_inj' hpolls rfl
      exact ⟨r, input, patience, h, List.singleton_injective hp⟩
    · rw [List.concat_eq_append, ← List.cons_append, ← List.append_assoc] at hpolls
      exact ih (List.append_inj' hpolls rfl).1

/-- The polls of a read lead to the reader that it leaves. -/
theorem polls_nextPolls (r : Reader) (input : InputStream) :
    r.Polls (r.nextPolls input) (r.next input).reader := by
  fun_induction nextPolls r input with
  | case1 r input p hmore ih =>
    rw [next_of_idle hmore.1 hmore.2]
    exact (Polls.start.poll input none).append ih
  | case2 r input p hlast =>
    rw [(next_of_last hlast).1]
    exact Polls.start.poll input none

/-- The polls of a session are made in turn. -/
theorem exists_polls_session (calls : List ReaderCall) (r : Reader) (input : InputStream) :
    ∃ r', r.Polls ((r.session input calls).flatMap CallRecord.polls) r' := by
  induction calls generalizing r input with
  | nil => exact ⟨r, .start⟩
  | cons call calls ih =>
    cases call with
    | poll patience =>
      obtain ⟨r', h⟩ := ih (r.poll input patience).reader (r.poll input patience).input
      exact ⟨r', (Polls.start.poll input patience).append h⟩
    | read =>
      obtain ⟨r', h⟩ := ih (r.next input).reader (r.next input).input
      exact ⟨r', (polls_nextPolls r input).append h⟩
    | setMaxPayload max =>
      obtain ⟨r', h⟩ := ih (r.withMaxPayload max) input
      exact ⟨r', (Polls.start.limit max).append h⟩

/-- **The two counts of a reader**, after polls that began with a new one. -/
theorem Polls.skips_eq {config : Packet.Config} (h : (make config).Polls polls r) :
    r.config.start = config.start ∧
      r.stats.skippedBytes =
        (polls.flatMap fun p => p.transcript.locks).sum + sinceMarker config.start polls ∧
      r.unlockedRun = sinceMarker config.start polls := by
  induction h with
  | start => exact ⟨rfl, rfl, rfl⟩
  | limit _ max ih => exact ih
  | @poll polls r _ input patience ih =>
    obtain ⟨hstart, hskipped, hrun⟩ := ih
    refine ⟨(congrArg _ (config_poll r input patience)).trans hstart, ?_⟩
    rw [List.flatMap_append, List.sum_append, List.flatMap_singleton]
    -- The three things that one more poll can do.
    cases r.poll_skips input patience with
    | quiet hfirst hskips hlocks =>
      obtain ⟨hcount, hcount'⟩ := Prod.mk.inj hskips
      rw [hcount, hcount', hlocks, sinceMarker_of_none polls hfirst]
      exact ⟨hskipped, hrun⟩
    | dropped hb _ hconsumed hskips hlocks =>
      obtain ⟨hcount, hcount'⟩ := Prod.mk.inj hskips
      rw [hstart] at hb
      rw [hcount, hcount', hlocks, hskipped, hrun,
        sinceMarker_of_dropped polls hb (congrArg List.head? hconsumed)]
      exact ⟨rfl, rfl⟩
    | locked hskips hlocks =>
      obtain ⟨hcount, hcount'⟩ := Prod.mk.inj hskips
      -- What was dropped since the last marker goes over into the log.
      rw [hcount, hcount', hlocks.sum_locks, hskipped, hrun,
        sinceMarker_of_marker polls (hstart ▸ hlocks.first?_eq)]
      exact ⟨rfl, rfl⟩

/-- **The log accounts for the dropped bytes.** Ask anything of a new reader in any order, over any
stream and with any patience. After every poll the statistics hold as many dropped bytes as the log
has told of so far, and those dropped behind the last start marker. A poll that meets a start marker
logs right behind it how many bytes were dropped since the one before, if there were any; no other
poll logs such a number, and a byte that is no start marker is all that its poll takes. -/
theorem log_accounts_for_skips (config : Packet.Config) (input : InputStream)
    (calls : List ReaderCall) :
    let polls := ((make config).session input calls).flatMap CallRecord.polls
    ∀ front p back, polls = front ++ p :: back →
      p.reader.stats.skippedBytes =
          ((front ++ [p]).flatMap fun p => p.transcript.locks).sum +
            sinceMarker config.start (front ++ [p]) ∧
        (p.first? = some config.start →
          p.LocksAfter config.start (sinceMarker config.start front)) ∧
        (p.first? ≠ some config.start → p.transcript.locks = []) ∧
        ∀ b, p.first? = some b → b ≠ config.start →
          p.transcript.consumed = [b] ∧ p.outcome = .idle := by
  intro polls front p back hpolls
  obtain ⟨last, hall⟩ := exists_polls_session calls (make config) input
  have hsplit : (make config).Polls (front ++ p :: back) last := hpolls ▸ hall
  obtain ⟨r, input', patience, hfront, rfl⟩ := hsplit.exists_poll
  obtain ⟨hstart, -, hrun⟩ := hfront.skips_eq
  rw [← hrun, ← hstart]
  exact ⟨hstart ▸ (hfront.poll input' patience).skips_eq.2.1,
    (r.poll_skips input' patience).locks_of_first?⟩

/-- Two bytes, a start marker with a header that fails its check, and one byte more. -/
def noisyStream : InputStream :=
  ⟨[.data [0x11, 0x22, 0x5a, 0x00], .fail .timedOut, .data [0x00, 0x00, 0x00, 0x33]], .quiet⟩

/-- Two bytes are dropped before a start marker, whose header is refused later: a two is logged with
the marker, and nothing is left over. -/
theorem log_accounts_for_skips_noisy :
    let polls := ((make .inbound).session noisyStream
      (List.replicate 4 (.poll none))).flatMap CallRecord.polls
    ∃ front p back, polls = front ++ p :: back ∧ front.length = 2 ∧
      p.first? = some Packet.Config.inbound.start ∧ p.LocksAfter Packet.Config.inbound.start 2 ∧
      p.reader.stats = { ReaderStats.zero with skippedBytes := 2, headerErrors := 1 } := by
  intro polls
  let p₁ := (make .inbound).poll noisyStream none
  let p₂ := p₁.reader.poll p₁.input none
  let p₃ := p₂.reader.poll p₂.input none
  have hpolls : polls = [p₁, p₂] ++ p₃ :: [p₃.reader.poll p₃.input none] := rfl
  have hfirst : p₃.first? = some Packet.Config.inbound.start := by decide +kernel
  have hsince : sinceMarker Packet.Config.inbound.start [p₁, p₂] = 2 := by decide +kernel
  obtain ⟨-, hlocks, -⟩ :=
    log_accounts_for_skips .inbound noisyStream (List.replicate 4 (.poll none)) _ _ _ hpolls
  exact ⟨_, _, _, hpolls, rfl, hfirst, hsince ▸ hlocks hfirst, by decide +kernel⟩

end Reader

end ControllerLink
