/-
# Reads that end the link

A read that gives no byte, or that fails and can be neither waited out nor made
again, ends the link.  A poll fails for the stream exactly when it has made such
a read: whatever the bytes come to that it has read, they never make it fail
that way.

The equivalence is proved along the stages of a poll: for the hunt, for
gathering, and then for what is made of what was gathered.  Judging a header or
a packet reads nothing and never fails for the stream, so that in the end the
transcript of a poll has a fatal read just when its outcome loses the link
(`poll_fails`).
-/
import ControllerLink.Proofs.LinkSteps
import ControllerLink.Proofs.Polling
import ControllerLink.Proofs.Reception

set_option autoImplicit false

namespace ControllerLink

/-! ## Reads that end the link -/

/-- A read that gave no byte at all, or failed in another way than by being interrupted or by
finding the line quiet. -/
def ReadOutcome.Fatal : ReadOutcome → Prop
  | .bytes chunk => chunk = []
  | .fault f => f.kind ≠ .interrupted ∧ f.kind ≠ .timedOut ∧ f.kind ≠ .wouldBlock

/-- The line is quiet in two kinds of failures, and in no other. -/
theorem FaultKind.isQuiet_iff (kind : FaultKind) :
    kind.isQuiet = true ↔ kind = .timedOut ∨ kind = .wouldBlock := by
  cases kind <;> decide

@[simp] theorem ReadOutcome.fatal_bytes (chunk : Bytes) :
    (ReadOutcome.bytes chunk).Fatal ↔ chunk = [] := Iff.rfl

/-- A fault ends the link unless it is waited out or asked again. -/
@[simp] theorem ReadOutcome.fatal_ofKind (kind : FaultKind) :
    (ReadOutcome.fault (.ofKind kind)).Fatal ↔ kind ≠ .interrupted ∧ ¬ kind.isQuiet = true := by
  rw [Fatal, Fault.ofKind, FaultKind.isQuiet_iff, not_or]

/-- At the end of a script only a quiet line goes on. -/
@[simp] theorem Ending.fatal_outcome (ending : Ending) :
    ending.outcome.Fatal ↔ ending ≠ .quiet := by
  cases ending <;> simp [outcome, ReadOutcome.Fatal, Fault.ofKind, Fault.notOpen, Fault.withText]

namespace Transcript

/-- A read of the transcript ends the link. -/
def Fails (t : Transcript) : Prop := ∃ o ∈ t.outcomes, o.Fatal

@[simp] theorem fails_nil : ¬ Fails [] := by
  simp [Fails, outcomes]

@[simp] theorem fails_read (room : Nat) (o : ReadOutcome) (t : Transcript) :
    Fails (.read room o :: t) ↔ o.Fatal ∨ Fails t := by
  simp [Fails, outcomes]

@[simp] theorem fails_asked (answer : Bool) (t : Transcript) :
    Fails (.asked answer :: t) ↔ Fails t := by
  simp [Fails, outcomes]

@[simp] theorem fails_logged (event : LogEvent) (t : Transcript) :
    Fails (.logged event :: t) ↔ Fails t := by
  simp [Fails, outcomes]

@[simp] theorem fails_append (s t : Transcript) : Fails (s ++ t) ↔ Fails s ∨ Fails t := by
  simp [Fails, outcomes, or_and_right, exists_or]

end Transcript

/-! ## Polls that end the link -/

/-- Whether a hunt ended with the link. -/
def Hunted.losesLink : Hunted → Bool
  | .failed e => e.isLinkFailure
  | _ => false

/-- Whether a gathering ended with the link. -/
def Gathered.losesLink : Gathered → Bool
  | .failed e => e.isLinkFailure
  | _ => false

/-- Whether a poll came to a frame. -/
def Polled.isFrame : Polled → Bool
  | .frame _ => true
  | _ => false

/-- Looking for a start marker ends the link exactly in the reads that say so.  An interrupted read
is made again, and an empty one is the end. -/
theorem hunt_fails (ending : Ending) (steps : List ReadStep) :
    (hunt ending steps).transcript.Fails ↔ (hunt ending steps).result.losesLink = true := by
  fun_induction hunt ending steps with
  | case1 =>
    cases ending with
    | closed | shut => exact iff_of_true (by simp) rfl
    | quiet => exact iff_of_false (by simp) (by simp [Hunted.losesLink])
  | case2 rest => simp [Hunted.losesLink, PacketError.isLinkFailure]
  | case3 b rest => simp [Hunted.losesLink]
  | case4 b bs rest => simp [Hunted.losesLink]
  | case5 rest h read ih =>
    -- An interrupted read is made again, and what it gave does not count.
    simpa [h, read] using ih
  | case6 kind rest read hkind hquiet => simp [read, hquiet, Hunted.losesLink]
  | case7 kind rest read hkind hloud =>
    simp [read, hkind, hloud, Hunted.losesLink, PacketError.isLinkFailure]

/-- On a line that stays quiet no read ends the link, and neither does the no of the caller. -/
theorem waitQuiet_fails (target : Nat) (buffer : Bytes) (filled n : Nat) :
    (waitQuiet target buffer filled n).transcript.Fails ↔
      (waitQuiet target buffer filled n).result.losesLink = true := by
  induction n with
  | zero => simp [waitQuiet, Gathered.losesLink]
  | succ n ih => simpa [waitQuiet, Gathering.after] using ih

/-- Gathering bytes ends the link exactly with the last read it makes, if at all. Case by case a
read is made that the result tells of, or the gathering behind it decides. -/
theorem gather_fails (ending : Ending) (target : Nat) (steps : List ReadStep) (buffer : Bytes)
    (filled : Nat) (patience : Patience) :
    (gather ending target steps buffer filled patience).transcript.Fails ↔
      (gather ending target steps buffer filled patience).result.losesLink = true := by
  fun_induction gather ending target steps buffer filled patience with
  | case1 steps buffer filled patience hfull => simp [Gathered.losesLink]
  | case2 buffer filled patience hlack room =>
    simp [Gathered.losesLink, PacketError.isLinkFailure]
  | case3 buffer filled patience hlack room =>
    simp [Gathered.losesLink, PacketError.isLinkFailure]
  | case4 buffer filled hlack => simp [Gathered.losesLink]
  | case5 buffer filled hlack hend n => exact waitQuiet_fails target buffer filled n
  | case6 buffer filled patience hlack room rest =>
    simp [Gathered.losesLink, PacketError.isLinkFailure]
  | case7 buffer filled patience hlack room chunk rest hchunk hfits ih =>
    simpa [Gathering.after, hchunk] using ih
  | case8 buffer filled patience hlack room chunk rest hchunk hlong =>
    -- There is room for a byte, so what was taken of the chunk is not empty.
    have hroom : room ≠ 0 := Nat.sub_ne_zero_of_lt (Nat.not_le.1 hlack)
    simp [hchunk, hroom, Gathered.losesLink]
  -- A read that was interrupted or quiet is none that ends the link.
  | case9 buffer filled patience hlack room rest read ih =>
    simpa [Gathering.after, read] using ih
  | case10 buffer filled hlack room kind rest read hkind hquiet =>
    simp [read, hquiet, Gathered.losesLink]
  | case11 buffer filled hlack room kind rest read hkind hquiet n ih =>
    simpa [Gathering.after, read, hquiet] using ih
  | case12 buffer filled hlack room kind rest read hkind hquiet ih =>
    simpa [Gathering.after, read, hquiet] using ih
  | case13 buffer filled patience hlack room kind rest read hkind hloud =>
    simp [read, hkind, hloud, Gathered.losesLink, PacketError.isLinkFailure]

namespace Reader

/-- A packet that is given up ends the link if its gathering did. -/
theorem losesLink_giveUp (r : Reader) (target : Nat) (ending : Ending) (g : Gathering) :
    (r.giveUp target ending g).outcome.losesLink = g.result.losesLink := by
  unfold giveUp
  cases g.result <;> rfl

theorem transcript_giveUp (r : Reader) (target : Nat) (ending : Ending) (g : Gathering) :
    (r.giveUp target ending g).transcript = g.transcript := rfl

/-- What a whole packet comes to never ends the link. -/
theorem losesLink_opened (h : Header) (packet : Bytes) :
    (Packet.opened h packet).losesLink = false := by
  rcases Packet.opened_cases h packet with ⟨f, -, ho⟩ | ⟨-, ho⟩
  · rw [ho]
    rfl
  · rw [ho]
    rfl

/-- The body of a packet ends the link only while it is gathered: a checksum cannot. A body that is
all there was gathered without such a read. -/
theorem pollBody_fails {r : Reader} {h : Header} (hbuffer : r.buffer = h.toBytes)
    (input : InputStream) (patience : Patience) :
    (r.pollBody h input patience).transcript.Fails ↔
      (r.pollBody h input patience).outcome.losesLink = true := by
  have hgather : (r.bodyGathering h input patience).transcript.Fails ↔
      (r.bodyGathering h input patience).result.losesLink = true := gather_fails _ _ _ _ _ _
  rcases pollBody_cases hbuffer input patience with
    ⟨-, hpoll⟩ | ⟨hcomplete, packet, reader, -, -, -, -, hpoll⟩
  · rw [hpoll, losesLink_giveUp, transcript_giveUp]
    exact hgather
  · rw [hcomplete] at hgather
    rw [hpoll, losesLink_opened]
    exact hgather

/-- Behind a start marker the header and the body are gathered, and either may end the link. -/
theorem pollLocked_fails (r : Reader) (input : InputStream) (patience : Patience) :
    (r.pollLocked input patience).transcript.Fails ↔
      (r.pollLocked input patience).outcome.losesLink = true := by
  have hgather : (r.headerGathering input patience).transcript.Fails ↔
      (r.headerGathering input patience).result.losesLink = true := gather_fails _ _ _ _ _ _
  rcases r.pollLocked_cases input patience with ⟨-, hpoll⟩ |
    ⟨hcomplete, h, -, -, ⟨e, reader, hpiece, -, -, hpoll⟩ | ⟨-, -, reader, -, -, hbuffer, hpoll⟩⟩
  · rw [hpoll, losesLink_giveUp, transcript_giveUp]
    exact hgather
  · rw [hcomplete] at hgather
    rw [hpoll, hpiece.losesLink_eq_false]
    exact hgather
  · -- The header was read without a failure, so that the rest of the packet decides.
    rw [hcomplete] at hgather
    rw [hpoll]
    dsimp only
    rw [Transcript.fails_append, pollBody_fails hbuffer, hgather]
    simp [Gathered.losesLink]

/-- **A poll ends the link exactly when one of its reads does.** -/
theorem poll_fails (r : Reader) (input : InputStream) (patience : Patience) :
    (r.poll input patience).transcript.Fails ↔
      (r.poll input patience).outcome.losesLink = true := by
  have hhunt := hunt_fails input.ending input.steps
  unfold poll
  dsimp only
  -- Without a byte the hunt decides alone; with one, what stands behind it does.
  split
  · next hresult =>
    rw [hresult] at hhunt
    exact hhunt
  · next e hresult =>
    rw [hresult] at hhunt
    exact hhunt
  · next b hresult =>
    rw [hresult] at hhunt
    have hquiet : ¬ (hunt input.ending input.steps).transcript.Fails := by
      simp [hhunt, Hunted.losesLink]
    split
    · have hlock : ¬ r.lockEvents.Fails := by
        unfold lockEvents
        split <;> simp
      simp [hquiet, hlock, pollLocked_fails]
    · simp [hquiet, Polled.losesLink]

/-- What the reader itself refuses is never the matter of a payload. -/
theorem refusal_of_poll {r : Reader} {input : InputStream} {patience : Patience} {e : PacketError}
    (hfailed : (r.poll input patience).outcome = .failed e) :
    (∀ id expected actual, e ≠ .malformedPayload id expected actual) ∧
      ∀ id, e ≠ .unknownKind id := by
  rcases r.poll_cases input patience with ⟨hidle, -⟩ | hcontinues
  · rw [hidle] at hfailed
    exact absurd hfailed (by simp)
  -- The failure is that of a piece, or one that breaks the link; neither is of these two kinds.
  rcases hcontinues.result with hpiece | ⟨-, hbroken⟩
  · rw [hfailed] at hpiece
    rcases hpiece.outcome_cases with ho | ⟨f, ho⟩ | ⟨e', ho, hrefusal⟩
    · exact absurd ho (by simp)
    · exact absurd ho (by simp)
    · obtain rfl := Polled.failed.inj ho
      constructor
      · rintro id expected actual rfl
        exact hrefusal
      · rintro id rfl
        exact hrefusal
  · rw [hfailed] at hbroken
    constructor
    · rintro id expected actual rfl
      exact absurd hbroken (by simp [Polled.Broken, PacketError.isLinkFailure])
    · rintro id rfl
      exact absurd hbroken (by simp [Polled.Broken, PacketError.isLinkFailure])

/-- A poll counts a frame exactly when it comes to one. -/
theorem frames_poll (r : Reader) (input : InputStream) (patience : Patience) :
    (r.poll input patience).reader.stats.frames =
      r.stats.frames + (r.poll input patience).outcome.isFrame.toNat := by
  rcases r.poll_cases input patience with ⟨hidle, hreader, -⟩ | hcontinues
  · rw [hidle, hreader]
    rfl
  · rw [hcontinues.stats]
    generalize (r.poll input patience).outcome = o
    cases o with
    | idle | stalled | frame => rfl
    | failed e => cases e <;> rfl

end Reader

end ControllerLink
