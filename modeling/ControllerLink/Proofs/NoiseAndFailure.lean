/-
# Noise and failure

A step of receiving tells noise from failure.  A packet that is refused is
logged and forgotten, whatever is wrong with it; only a read that gives no byte
or fails takes the link down, and then the step says so.  Which of the two it
was is decided by the reads of the step alone.

A step is taken apart into the poll that it makes and what is done with the
result, and everything that a step comes to follows from the poll
(`ReceiveStep.of_up`), or from there being none while the link is down
(`ReceiveStep.of_down`). What is left is a case analysis on the result of a
poll:
* a frame is told of, has an unknown id or a payload of a wrong size
  (`Polled.frame_cases`), and in neither case is the flag touched;
* a refusal by the reader is that of a header or a checksum, or that of a read,
  and a poll is refused for a read exactly when one of its reads was fatal.
`ReceiveStep.Classified` gathers what is to be said of one step. A run is the
list of its steps, each with the receiver and the link that it finds, and frames
are counted along that list.
-/
import ControllerLink.Proofs.FatalReads

set_option autoImplicit false

namespace ControllerLink

/-! ## Verdicts -/

/-- Why a packet, or the whole stream, was refused in a poll. -/
def Polled.refusal? : Polled → Option PacketError
  | .failed e => some e
  | .frame f =>
    match Telemetry.ofMessage f.id f.payload with
    | .ok _ => none
    | .error e => some e
  | _ => none

/-- Whether a refusal is that of a payload of a wrong size. -/
def PacketError.isMalformedPayload : PacketError → Bool
  | malformedPayload _ _ _ => true
  | _ => false

/-- What a frame comes to: its record is told of, or its id is unknown, or its payload has a wrong
size. The catalog is asked for the id first, and for the size of the payload only if it has it. -/
theorem Polled.frame_cases (f : Frame) :
    (∃ t, (Polled.frame f).received = .dispatched t.kind ∧
        (Polled.frame f).record? = some t ∧ (Polled.frame f).refusal? = none) ∨
      (Polled.frame f).record? = none ∧
        ((Polled.frame f).received = .unknown f.id ∧
            (Polled.frame f).refusal? = some (.unknownKind f.id) ∨
          ∃ id expected actual, (Polled.frame f).received = .discarded ∧
            (Polled.frame f).refusal? = some (.malformedPayload id expected actual)) := by
  rw [received, record?, refusal?, Telemetry.ofMessage]
  rcases MessageKind.ofId? f.id with _ | kind
  · exact .inr ⟨rfl, .inl ⟨rfl, rfl⟩⟩
  · dsimp only
    by_cases hsize : f.payload.length = kind.payloadSize
    · have hdecode : Telemetry.decode kind f.payload =
          .ok (Telemetry.ofValues kind (kind.layout.decode f.payload)) := if_pos hsize
      rw [hdecode]
      refine .inl ⟨_, ?_, rfl, rfl⟩
      rw [Telemetry.kind_ofValues]
    · have hdecode : Telemetry.decode kind f.payload =
          .error (.malformedPayload kind.id kind.payloadSize f.payload.length) := if_neg hsize
      rw [hdecode]
      exact .inr ⟨rfl, .inr ⟨_, _, _, rfl, rfl⟩⟩

/-- A step of receiving about to be made: the receiver and the link that it finds, and how often it
will keep waiting inside of a packet, which is until it is asked to stop. -/
structure ReceiveStep where
  receiver : Receiver
  link : Link
  patience : Patience

namespace ReceiveStep

/-- The poll that the step makes if the link is up. -/
def poll (s : ReceiveStep) : Poll :=
  s.receiver.reader.poll s.link.port.input s.patience

/-- What the step comes to, with the receiver and the link behind it. -/
def result (s : ReceiveStep) : ReceiveOutcome × Receiver × Link :=
  if s.link.up then
    Receiver.settle { s.receiver with reader := s.poll.reader }
      (Receiver.afterPoll s.link .forever s.poll) s.poll.outcome
  else (.backedOff, s.receiver, s.link)

/-- What the step comes to. -/
def outcome (s : ReceiveStep) : ReceiveOutcome := s.result.1

/-- The receiver behind the step. -/
def receiverAfter (s : ReceiveStep) : Receiver := s.result.2.1

/-- The link behind the step. -/
def linkAfter (s : ReceiveStep) : Link := s.result.2.2

/-- What the reads of the step gave; there are none while the link is down. -/
def reads (s : ReceiveStep) : List ReadOutcome :=
  if s.link.up then s.poll.transcript.outcomes else []

/-- What the step refused. -/
def refusal? (s : ReceiveStep) : Option PacketError :=
  if s.link.up then s.poll.outcome.refusal? else none

/-- Whether the step discarded a packet for the size of its payload. -/
def discardsPayload (s : ReceiveStep) : Bool :=
  s.outcome = .discarded && s.refusal?.any PacketError.isMalformedPayload

variable (s : ReceiveStep)

/-- A step that finds the link down does nothing. -/
theorem of_down (hdown : s.link.up = false) :
    s.outcome = .backedOff ∧ s.receiverAfter = s.receiver ∧ s.linkAfter = s.link ∧
      s.reads = [] ∧ s.refusal? = none := by
  have hresult : s.result = (.backedOff, s.receiver, s.link) := by
    rw [result, if_neg (by simp [hdown])]
  rw [outcome, receiverAfter, linkAfter, hresult, reads, refusal?, if_neg (by simp [hdown]),
    if_neg (by simp [hdown])]
  exact ⟨rfl, rfl, rfl, rfl, rfl⟩

/-- What a step that finds the link up does follows from its poll. -/
theorem of_up (hup : s.link.up = true) :
    s.outcome = s.poll.outcome.received ∧ s.receiverAfter.reader = s.poll.reader ∧
      s.receiverAfter.told = s.receiver.told ++ s.poll.outcome.record?.toList ∧
      s.linkAfter.up = !s.poll.outcome.losesLink ∧ s.reads = s.poll.transcript.outcomes ∧
      s.refusal? = s.poll.outcome.refusal? := by
  obtain ⟨houtcome, hreader, htold, -, hflag⟩ :=
    Receiver.settle_spec { s.receiver with reader := s.poll.reader }
      (Receiver.afterPoll s.link .forever s.poll) s.poll.outcome
  have hafter : (Receiver.afterPoll s.link .forever s.poll).up = true := hup
  rw [hafter, Bool.true_and] at hflag
  rw [outcome, receiverAfter, linkAfter, result, reads, refusal?, if_pos hup, if_pos hup,
    if_pos hup]
  exact ⟨houtcome, hreader, htold, hflag, rfl, rfl⟩

/-- That the step tells noise from failure. -/
structure Classified : Prop where
  /-- It is the step of a receiver, where a stop is asked for before it or not at all and a quiet
  line never takes the link down. -/
  isStep : ∀ stop : Bool, s.patience = (if stop then some 0 else none) →
    s.receiver.step s.link ⟨stop, none⟩ = s.result
  /-- The flag is lowered exactly by a step that says so. -/
  lowers : s.link.up = true ∧ s.linkAfter.up = false ↔ s.outcome = .linkLost
  /-- The step says so exactly when one of its reads ended the link. -/
  lost : s.outcome = .linkLost ↔ ∃ o ∈ s.reads, o.Fatal
  /-- A closed port ends the link. -/
  shut : s.link.up = true → s.link.port.isOpen = false → s.outcome = .linkLost
  /-- Every other step leaves the flag as it is. -/
  keeps : s.outcome ≠ .linkLost → s.linkAfter.up = s.link.up
  /-- What is refused for any other reason than a stream that ended or failed leaves the flag as it
  is, and is discarded or, outside of the catalog, passed over. -/
  noise : ∀ e, s.refusal? = some e → (∀ f, e ≠ .stream f) → e ≠ .closed →
    s.linkAfter.up = s.link.up ∧
      ((∃ id, e = .unknownKind id ∧ s.outcome = .unknown id) ∨
        (∀ id, e ≠ .unknownKind id) ∧ s.outcome = .discarded)
  /-- The sink is told of one record, of the kind that the step names, or of none. -/
  told : (∃ t, s.outcome = .dispatched t.kind ∧ s.receiverAfter.told = s.receiver.told ++ [t]) ∨
    (∀ kind, s.outcome ≠ .dispatched kind) ∧ s.receiverAfter.told = s.receiver.told

/-- A step tells the sink of one record, of the kind that it names, or of none. -/
theorem told_cases : (∃ t, s.outcome = .dispatched t.kind ∧
      s.receiverAfter.told = s.receiver.told ++ [t]) ∨
    (∀ kind, s.outcome ≠ .dispatched kind) ∧ s.receiverAfter.told = s.receiver.told := by
  rcases hflag : s.link.up with _ | _
  · obtain ⟨houtcome, hreceiver, -⟩ := s.of_down hflag
    rw [houtcome, hreceiver]
    exact .inr ⟨by simp, rfl⟩
  obtain ⟨houtcome, -, htold, -⟩ := s.of_up hflag
  rw [houtcome, htold]
  cases s.poll.outcome with
  | idle | stalled => exact .inr ⟨by simp [Polled.received], by simp [Polled.record?]⟩
  | failed e =>
    refine .inr ⟨?_, by simp [Polled.record?]⟩
    rw [Polled.received]
    split <;> simp
  | frame f =>
    rcases Polled.frame_cases f with ⟨t, hreceived, hrecord, -⟩ |
      ⟨hrecord, ⟨hreceived, -⟩ | ⟨id, expected, actual, hreceived, -⟩⟩
    · exact .inl ⟨t, hreceived, by rw [hrecord]; rfl⟩
    · exact .inr ⟨by simp [hreceived], by simp [hrecord]⟩
    · exact .inr ⟨by simp [hreceived], by simp [hrecord]⟩

/-- What a step refuses, but for a stream that ended or failed, is discarded or passed over. -/
theorem outcome_of_noise {e : PacketError} (hrefused : s.refusal? = some e)
    (hkept : e.isLinkFailure = false) :
    (∃ id, e = .unknownKind id ∧ s.outcome = .unknown id) ∨
      (∀ id, e ≠ .unknownKind id) ∧ s.outcome = .discarded := by
  rcases hflag : s.link.up with _ | _
  · obtain ⟨-, -, -, -, hnone⟩ := s.of_down hflag
    rw [hnone] at hrefused
    exact absurd hrefused (by simp)
  obtain ⟨houtcome, -, -, -, -, hrefusal⟩ := s.of_up hflag
  rw [hrefusal] at hrefused
  rw [houtcome]
  -- A refusal comes from the reader, which read no frame, or from the catalog, which met one.
  cases hpoll : s.poll.outcome with
  | idle | stalled =>
    rw [hpoll] at hrefused
    exact absurd hrefused (by simp [Polled.refusal?])
  | failed e' =>
    rw [hpoll] at hrefused
    obtain rfl := Option.some.inj hrefused
    refine .inr ⟨(Reader.refusal_of_poll hpoll).2, ?_⟩
    rw [Polled.received, if_neg (by simp [hkept])]
  | frame f =>
    rw [hpoll] at hrefused
    rcases Polled.frame_cases f with ⟨t, -, -, hnone⟩ |
      ⟨-, ⟨hreceived, hunknown⟩ | ⟨id, expected, actual, hreceived, hsize⟩⟩
    · rw [hnone] at hrefused
      exact absurd hrefused (by simp)
    · rw [hunknown] at hrefused
      obtain rfl := Option.some.inj hrefused
      exact .inl ⟨f.id, rfl, hreceived⟩
    · rw [hsize] at hrefused
      obtain rfl := Option.some.inj hrefused
      exact .inr ⟨by simp, hreceived⟩

/-- A step for a caller that stops at once, or never, is the step that is classified here. -/
theorem step_eq_result (stop : Bool) (h : s.patience = if stop then some 0 else none) :
    s.receiver.step s.link ⟨stop, none⟩ = s.result := by
  have hpatience : (⟨stop, none⟩ : Watch).patience = s.patience := by
    rw [h]
    cases stop <;> rfl
  rw [Receiver.step, hpatience]
  rfl

/-- Reading a closed port fails at the first byte. -/
theorem outcome_of_shut (hup : s.link.up = true) (hshut : s.link.port.isOpen = false) :
    s.outcome = .linkLost := by
  have hinput : s.link.port.input = ⟨[], .shut⟩ := by
    rw [ScriptedPort.input, if_neg (by simp [hshut])]
  rw [(s.of_up hup).1, poll, hinput]
  rfl

/-- **Every step tells noise from failure.** -/
theorem classified : s.Classified := by
  have hlost : s.outcome = .linkLost ↔ ∃ o ∈ s.reads, o.Fatal := by
    rcases hflag : s.link.up with _ | _
    · obtain ⟨houtcome, -, -, hreads, -⟩ := s.of_down hflag
      simp [houtcome, hreads]
    · obtain ⟨houtcome, -, -, -, hreads, -⟩ := s.of_up hflag
      rw [houtcome, hreads, Polled.received_eq_linkLost_iff]
      exact (s.receiver.reader.poll_fails s.link.port.input s.patience).symm
  have hlowers : s.link.up = true ∧ s.linkAfter.up = false ↔ s.outcome = .linkLost := by
    rcases hflag : s.link.up with _ | _
    · obtain ⟨houtcome, -⟩ := s.of_down hflag
      simp [houtcome]
    · obtain ⟨houtcome, -, -, hafter, -⟩ := s.of_up hflag
      rw [houtcome, hafter, Polled.received_eq_linkLost_iff]
      simp
  -- The flag only ever falls, so a step that does not lower it leaves it as it is.
  have hkeeps : s.outcome ≠ .linkLost → s.linkAfter.up = s.link.up := by
    intro hkept
    rcases hflag : s.link.up with _ | _
    · obtain ⟨-, -, hlink, -⟩ := s.of_down hflag
      rw [hlink, hflag]
    · rw [← Bool.not_eq_false]
      intro hdown
      exact hkept (hlowers.1 ⟨hflag, hdown⟩)
  refine ⟨s.step_eq_result, hlowers, hlost, s.outcome_of_shut, hkeeps, ?_, s.told_cases⟩
  intro e hrefused hstream hclosed
  -- A refusal is a link failure if it is one of the two that are excluded, and by no other.
  have hnoise : e.isLinkFailure = false := by
    cases e with
    | stream f => exact absurd rfl (hstream f)
    | closed => exact absurd rfl hclosed
    | _ => rfl
  have hverdict := s.outcome_of_noise hrefused hnoise
  refine ⟨hkeeps ?_, hverdict⟩
  rcases hverdict with ⟨id, -, houtcome⟩ | ⟨-, houtcome⟩
  · simp [houtcome]
  · simp [houtcome]

/-- A frame is counted by a step that tells of a record, that meets an unknown id, or that discards
a payload for its size, and by no other. -/
theorem frames_receiverAfter : s.receiverAfter.reader.stats.frames =
    s.receiver.reader.stats.frames + (s.outcome.isDispatched.toNat + s.outcome.isUnknown.toNat +
      s.discardsPayload.toNat) := by
  rcases hflag : s.link.up with _ | _
  · obtain ⟨houtcome, hreceiver, -, -, -⟩ := s.of_down hflag
    rw [discardsPayload, houtcome, hreceiver]
    rfl
  obtain ⟨houtcome, hreader, -, -, -, hrefusal⟩ := s.of_up hflag
  -- The reader counts a frame for each that it returns; the rest says which steps have one.
  have hframes := s.receiver.reader.frames_poll s.link.port.input s.patience
  rw [discardsPayload, houtcome, hreader, hrefusal, poll, hframes]
  congr 1
  cases hpoll : (s.receiver.reader.poll s.link.port.input s.patience).outcome with
  | idle | stalled => rfl
  | failed e =>
    -- A refusal by the reader counts no frame, and it is never one of a payload.
    have hnever : e.isMalformedPayload = false := by
      cases e with
      | malformedPayload id expected actual =>
        exact absurd rfl ((Reader.refusal_of_poll hpoll).1 id expected actual)
      | _ => rfl
    rw [Polled.received, Polled.refusal?, Option.any_some, hnever, Bool.and_false]
    split <;> rfl
  | frame f =>
    rcases Polled.frame_cases f with ⟨t, hreceived, -, hnone⟩ |
      ⟨-, ⟨hreceived, hunknown⟩ | ⟨id, expected, actual, hreceived, hsize⟩⟩
    · rw [hreceived, hnone]
      rfl
    · rw [hreceived, hunknown]
      rfl
    · rw [hreceived, hsize]
      rfl

end ReceiveStep

/-! ## Runs -/

/-- A turn of a receiver: what the other parts of the link have done to it since the last one, and
how long the receiver will wait inside of a packet. -/
structure Turn where
  meanwhile : Link → Link
  patience : Patience

namespace Receiver

/-- The steps that a receiver makes in some turns. -/
def steps (r : Receiver) (l : Link) : List Turn → List ReceiveStep
  | [] => []
  | turn :: turns =>
    let s : ReceiveStep := ⟨r, turn.meanwhile l, turn.patience⟩
    s :: s.receiverAfter.steps s.linkAfter turns

/-- The receiver behind these steps. -/
def afterTurns (r : Receiver) (l : Link) : List Turn → Receiver
  | [] => r
  | turn :: turns =>
    let s : ReceiveStep := ⟨r, turn.meanwhile l, turn.patience⟩
    s.receiverAfter.afterTurns s.linkAfter turns

/-- Each frame that was read was dispatched, unknown, or discarded for its payload. -/
theorem frames_afterTurns (r : Receiver) (l : Link) (turns : List Turn) :
    (r.afterTurns l turns).reader.stats.frames = r.reader.stats.frames +
      ((r.steps l turns).countP (·.outcome.isDispatched) +
        (r.steps l turns).countP (·.outcome.isUnknown) +
        (r.steps l turns).countP (·.discardsPayload)) := by
  have hone : ∀ b : Bool, b.toNat = if b then 1 else 0 := by decide
  induction turns generalizing r l with
  | nil => rfl
  | cons turn turns ih =>
    rw [afterTurns, steps, ih, ReceiveStep.frames_receiverAfter, List.countP_cons, List.countP_cons,
      List.countP_cons]
    simp only [hone]
    omega

/-- **Noise and failure.**  Let a receiver make any number of steps on a link, with any script of
reads behind the port, with the port open or closed, with a stop asked for at any moment, and with
anything done to the link between the steps.  Every step tells noise from failure, and over the
whole run the reader has counted one frame for each step that told of a record, met an unknown id,
or discarded a payload for its size. -/
theorem tells_noise_from_failure (r : Receiver) (l : Link) (turns : List Turn) :
    (∀ s ∈ r.steps l turns, s.Classified) ∧
      (r.afterTurns l turns).reader.stats.frames = r.reader.stats.frames +
        ((r.steps l turns).countP (·.outcome.isDispatched) +
          (r.steps l turns).countP (·.outcome.isUnknown) +
          (r.steps l turns).countP (·.discardsPayload)) :=
  ⟨fun s _ => s.classified, r.frames_afterTurns l turns⟩

/-- A link on which a report of a shot arrives, then the same report with a damaged checksum, and
then the end of the stream. -/
def noisyLink : Link where
  port :=
    { ScriptedPort.fresh with
      isOpen := true
      script :=
        [.data [0x5a, 0x0d, 0x05, 0x00, 0xc7, 0x37, 0x00, 0x00, 0x00, 0x01, 0x5c, 0x5a],
          .data [0x5a, 0x0d, 0x05, 0x00, 0xc7, 0x37, 0x00, 0x00, 0x00, 0x01, 0x5c, 0x5b],
          .data []] }
  up := true
  log := []

/-- A packet, noise and the end of the stream: only the last step loses the link. -/
theorem tells_noise_from_failure_noisy :
    (fresh.steps noisyLink (List.replicate 3 ⟨id, none⟩)).map (·.outcome) =
        [.dispatched .shoot, .discarded, .linkLost] ∧
      (fresh.afterTurns noisyLink (List.replicate 3 ⟨id, none⟩)).reader.stats.frames = 1 ∧
      ∀ s ∈ fresh.steps noisyLink (List.replicate 3 ⟨id, none⟩),
        s.outcome = .linkLost ↔ ∃ o ∈ s.reads, o.Fatal := by
  obtain ⟨hsteps, hframes⟩ :=
    tells_noise_from_failure fresh noisyLink (List.replicate 3 ⟨id, none⟩)
  exact ⟨by decide +kernel, hframes.trans (by decide +kernel), fun s hs => (hsteps s hs).lost⟩

end Receiver

end ControllerLink
