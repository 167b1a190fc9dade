/-
# When a caller is asked

A caller with some patience is asked right behind every read that finds the line
quiet within a packet, at no other time, and once it says no nothing more is
read.  Its no is the one cause for which a packet is given up; what it is told
then are the bytes of the packet that were read, and how many there should be.

`Transcript.Asking` is the grammar of such a transcript, and the two questions
that one has about a place in it, what comes next (`next_iff`) and whether
anything comes behind a no (`eq_nil_of_no`), are settled by induction on the
grammar alone. That a poll follows it is shown part by part: a hunt is silent,
gathering asks, and a poll is a hunt and at most two gatherings.
The last two sections say that a poll depends on its stream and its caller only
by what is gathered (`Reader.pollBody_stage`, `Reader.pollLocked_stage`).
Whoever compares two callers therefore only has to compare their gatherings.
-/
import ControllerLink.Proofs.Conservation

set_option autoImplicit false

namespace ControllerLink

/-! ## Questions in a transcript -/

namespace Activity

/-- A read that found the line quiet. -/
def isQuietRead : Activity → Bool
  | .read _ (.fault f) => f.kind.isQuiet
  | _ => false

/-- A question whether to keep waiting. -/
def isQuestion : Activity → Bool
  | .asked _ => true
  | _ => false

end Activity

namespace Transcript

@[simp] theorem answers_nil : answers [] = [] := rfl

@[simp] theorem answers_read (room : Nat) (outcome : ReadOutcome) (t : Transcript) :
    answers (.read room outcome :: t) = answers t := rfl

@[simp] theorem answers_asked (answer : Bool) (t : Transcript) :
    answers (.asked answer :: t) = answer :: answers t := rfl

@[simp] theorem answers_logged (event : LogEvent) (t : Transcript) :
    answers (.logged event :: t) = answers t := rfl

@[simp] theorem answers_append (s t : Transcript) : answers (s ++ t) = answers s ++ answers t :=
  List.filterMap_append

/-- A transcript in which nobody is asked and nothing calls for it. -/
def Silent (t : Transcript) : Prop :=
  ∀ x ∈ t, x.isQuietRead = false ∧ x.isQuestion = false

/-- A transcript in which the caller is asked right behind every read that found the line quiet,
once, at no other time, and never again after a no, with which it ends. -/
inductive Asking : Transcript → Prop where
  | nil : Asking []
  /-- Something that calls for no question. -/
  | other {x : Activity} {t : Transcript} (hread : x.isQuietRead = false)
      (hquestion : x.isQuestion = false) (h : Asking t) : Asking (x :: t)
  | yes {x : Activity} {t : Transcript} (hread : x.isQuietRead = true) (h : Asking t) :
      Asking (x :: .asked true :: t)
  | no {x : Activity} (hread : x.isQuietRead = true) : Asking [x, .asked false]

theorem Silent.answers_eq_nil {t : Transcript} (h : t.Silent) : t.answers = [] := by
  refine List.filterMap_eq_nil_iff.2 fun x hx => ?_
  have hquestion := (h x hx).2
  cases x with
  | asked answer => exact absurd hquestion (by simp [Activity.isQuestion])
  | read | logged => rfl

namespace Asking

/-- A read that finds the line quiet is no question. -/
theorem isQuestion_of_isQuietRead {x : Activity} (hread : x.isQuietRead = true) :
    x.isQuestion = false := by
  cases x with
  | asked answer => exact absurd hread (by simp [Activity.isQuietRead])
  | read | logged => rfl

/-- Silence before it changes nothing. -/
theorem behind {s t : Transcript} (hs : s.Silent) (ht : Asking t) : Asking (s ++ t) := by
  induction s with
  | nil => exact ht
  | cons x s ih =>
    obtain ⟨hread, hquestion⟩ := hs x List.mem_cons_self
    exact .other hread hquestion (ih fun y hy => hs y (List.mem_cons_of_mem _ hy))

/-- As long as there was no no, it can go on. A no would have been the last activity of the first
transcript. -/
theorem append {s t : Transcript} (hs : Asking s) (hno : false ∉ s.answers) (ht : Asking t) :
    Asking (s ++ t) := by
  induction hs with
  | nil => exact ht
  | @other x s hread hquestion h ih =>
    refine .other hread hquestion (ih fun hmem => hno ?_)
    rw [← List.singleton_append, answers_append]
    exact List.mem_append_right _ hmem
  | @yes x s hread h ih =>
    refine .yes hread (ih fun hmem => hno ?_)
    rw [← List.singleton_append, answers_append]
    exact List.mem_append_right _ (List.mem_cons_of_mem _ hmem)
  | @no x hread =>
    refine absurd ?_ hno
    rw [← List.singleton_append, answers_append]
    exact List.mem_append_right _ List.mem_cons_self

/-- It does not begin with a question. -/
theorem isQuestion_of_cons {x : Activity} {t : Transcript} (h : Asking (x :: t)) :
    x.isQuestion = false := by
  cases h with
  | other hread hquestion h => exact hquestion
  | yes hread h => exact isQuestion_of_isQuietRead hread
  | no hread => exact isQuestion_of_isQuietRead hread

/-- **Anything is followed by a question exactly when it is a read that found the line quiet.** What
stands behind a transcript of this kind never begins with a question by itself. -/
theorem next_iff {t before after : Transcript} {x : Activity} (h : Asking t)
    (ht : t = before ++ x :: after) :
    (∃ answer later, after = .asked answer :: later) ↔ x.isQuietRead = true := by
  have hfirst : ∀ {t : Transcript}, Asking t → ¬ ∃ answer later, t = .asked answer :: later := by
    rintro t h ⟨answer, later, rfl⟩
    exact absurd h.isQuestion_of_cons (by simp [Activity.isQuestion])
  -- A question takes up two activities with the read before it, so two steps are looked at in turn.
  induction h generalizing before with
  | nil => exact absurd ht (by simp)
  | @other y t hread hquestion h ih =>
    cases before with
    | nil =>
      obtain ⟨rfl, rfl⟩ := List.cons.inj ht
      simp [hread, hfirst h]
    | cons z before => exact ih (List.cons.inj ht).2
  | @yes y t hread h ih =>
    cases before with
    | nil =>
      obtain ⟨rfl, rfl⟩ := List.cons.inj ht
      exact ⟨fun _ => hread, fun _ => ⟨true, t, rfl⟩⟩
    | cons z before =>
      cases before with
      | nil =>
        obtain ⟨rfl, rfl⟩ := List.cons.inj (List.cons.inj ht).2
        simp [Activity.isQuietRead, hfirst h]
      | cons z' before => exact ih (List.cons.inj (List.cons.inj ht).2).2
  | @no y hread =>
    cases before with
    | nil =>
      obtain ⟨rfl, rfl⟩ := List.cons.inj ht
      exact ⟨fun _ => hread, fun _ => ⟨false, [], rfl⟩⟩
    | cons z before =>
      cases before with
      | nil =>
        obtain ⟨rfl, rfl⟩ := List.cons.inj (List.cons.inj ht).2
        simp [Activity.isQuietRead]
      | cons z' before => exact absurd (List.cons.inj (List.cons.inj ht).2).2 (by simp)

/-- **Nothing follows a no.** Only the last rule of the grammar has a no, and it has nothing behind
it. -/
theorem eq_nil_of_no {t before after : Transcript} (h : Asking t)
    (ht : t = before ++ .asked false :: after) : after = [] := by
  induction h generalizing before with
  | nil => exact absurd ht (by simp)
  | @other y t hread hquestion h ih =>
    cases before with
    | nil =>
      obtain ⟨rfl, -⟩ := List.cons.inj ht
      exact absurd hquestion (by simp [Activity.isQuestion])
    | cons z before => exact ih (List.cons.inj ht).2
  | @yes y t hread h ih =>
    cases before with
    | nil =>
      obtain ⟨rfl, -⟩ := List.cons.inj ht
      exact absurd hread (by simp [Activity.isQuietRead])
    | cons z before =>
      cases before with
      | nil => exact absurd (List.cons.inj (List.cons.inj ht).2).1 (by simp)
      | cons z' before => exact ih (List.cons.inj (List.cons.inj ht).2).2
  | @no y hread =>
    cases before with
    | nil =>
      obtain ⟨rfl, -⟩ := List.cons.inj ht
      exact absurd hread (by simp [Activity.isQuietRead])
    | cons z before =>
      cases before with
      | nil => exact (List.cons.inj (List.cons.inj ht).2).2.symm
      | cons z' before => exact absurd (List.cons.inj (List.cons.inj ht).2).2 (by simp)

end Asking

end Transcript

/-! ## Questions while bytes are gathered -/

/-- A hunt asks nobody, and one that finds a byte has not found the line quiet. The hunt goes on
behind an interruption only, and that is not a quiet line. -/
theorem hunt_silent (ending : Ending) (steps : List ReadStep) :
    (hunt ending steps).transcript.answers = [] ∧
      ∀ b, (hunt ending steps).result = .byte b → (hunt ending steps).transcript.Silent := by
  fun_induction hunt ending steps with
  | case1 => cases ending <;> exact ⟨rfl, by simp⟩
  | case2 | case6 | case7 => exact ⟨rfl, by simp⟩
  | case3 | case4 => exact ⟨rfl, fun _ _ => List.forall_mem_singleton.2 ⟨rfl, rfl⟩⟩
  | case5 rest _ _ ih =>
    refine ⟨ih.1, fun b hb => List.forall_mem_cons.2 ⟨⟨rfl, rfl⟩, ih.2 b hb⟩⟩

/-- What a transcript tells of a gathering: questions where they belong, and a no exactly when the
caller has stopped waiting. -/
structure Gathering.Asks (g : Gathering) : Prop where
  asking : g.transcript.Asking
  no_iff : false ∈ g.transcript.answers ↔ ∃ received, g.result = .abandoned received

namespace Gathering.Asks

variable {g : Gathering}

/-- A gathering that asked nothing asks as it should, unless it was abandoned. -/
theorem of_loud (hresult : ∀ received, g.result ≠ .abandoned received)
    (h : g.transcript.Silent) : g.Asks where
  asking := by simpa using Transcript.Asking.nil.behind h
  no_iff := by
    rw [h.answers_eq_nil]
    exact ⟨fun hmem => absurd hmem (by simp), fun ⟨received, h⟩ => absurd h (hresult received)⟩

/-- Something before it that calls for no question. -/
theorem after_loud (h : g.Asks) {x : Activity} (hread : x.isQuietRead = false)
    (hquestion : x.isQuestion = false) : (g.after [x]).Asks where
  asking := .other hread hquestion h.asking
  no_iff := by
    cases x with
    | asked answer => exact absurd hquestion (by simp [Activity.isQuestion])
    | read | logged => exact h.no_iff

/-- A read that found the line quiet, and a yes, before it. -/
theorem after_yes (h : g.Asks) {x : Activity} (hread : x.isQuietRead = true) (event : LogEvent) :
    (g.after [x, .asked true, .logged event]).Asks where
  asking := .yes hread (.other rfl rfl h.asking)
  no_iff := by
    cases x with
    | asked answer => exact absurd hread (by simp [Activity.isQuietRead])
    | read | logged =>
      simp only [Gathering.after, Transcript.answers_append, Transcript.answers_read,
        Transcript.answers_asked, Transcript.answers_logged, Transcript.answers_nil,
        List.singleton_append, List.mem_cons, Bool.false_eq_true, false_or]
      exact h.no_iff

end Gathering.Asks

/-- On a line that stays quiet each question follows a quiet read, and the no comes last. -/
theorem waitQuiet_asks (target : Nat) (buffer : Bytes) (filled n : Nat) :
    (waitQuiet target buffer filled n).Asks := by
  induction n with
  | zero => exact ⟨.no rfl, ⟨fun _ => ⟨filled, rfl⟩, fun _ => List.mem_cons_self⟩⟩
  | succ n ih => exact ih.after_yes rfl _

/-- **A caller with some patience is asked whenever gathering finds the line quiet.** Two cases have
a quiet read and a caller to ask: one says no and is done, one says yes. -/
theorem gather_asks (ending : Ending) (target : Nat) (steps : List ReadStep) (buffer : Bytes)
    (filled : Nat) (patience : Patience) (hpatience : patience ≠ none) :
    (gather ending target steps buffer filled patience).Asks := by
  fun_induction gather ending target steps buffer filled patience with
  | case1 => exact .of_loud (by simp) (List.forall_mem_nil _)
  | case2 | case3 | case6 | case8 =>
    exact .of_loud (by simp) (List.forall_mem_singleton.2 ⟨rfl, rfl⟩)
  | case4 | case12 => exact absurd rfl hpatience
  | case5 buffer filled hlack hend n => exact waitQuiet_asks target buffer filled n
  | case7 buffer filled patience hlack room chunk rest hchunk hfits ih =>
    exact (ih hpatience).after_loud rfl rfl
  | case9 buffer filled patience hlack room rest read ih =>
    exact (ih hpatience).after_loud rfl rfl
  | case10 buffer filled hlack room kind rest read hkind hquiet =>
    exact ⟨.no hquiet, ⟨fun _ => ⟨filled, rfl⟩, fun _ => List.mem_cons_self⟩⟩
  | case11 buffer filled hlack room kind rest read hkind hquiet n ih =>
    have hread : read.isQuietRead = true := hquiet
    exact (ih (Option.some_ne_none n)).after_yes hread _
  | case13 buffer filled patience hlack room kind rest read hkind hquiet =>
    have hread : read.isQuietRead = false := Bool.eq_false_iff.2 hquiet
    exact .of_loud (by simp) (List.forall_mem_singleton.2 ⟨hread, rfl⟩)

/-! ## What was gathered decides -/

/-- Gatherings that have come to the same, with the same in the buffer. -/
structure Gathering.Like (g g' : Gathering) : Prop where
  result : g.result = g'.result
  buffer : g.buffer = g'.buffer

/-- How a poll ends with its last gathering, that of `target` bytes: only a caller that has stopped
waiting is told of a truncated packet, and only a gathering that hangs makes the poll hang. -/
structure Polled.Closes (o : Polled) (target : Nat) (result : Gathered) : Prop where
  truncated : ∀ expected received, o = .failed (.truncated expected received) ↔
    expected = target ∧ result = .abandoned received
  stalled : o = .stalled ↔ result = .stalled

/-- Nothing that comes of complete bytes is a truncated packet. A piece is dropped, a frame or a
refusal, and no refusal of bytes is a truncated packet. -/
theorem Piece.closes {c : Packet.Config} {piece : Bytes} {o : Polled} (h : Piece c piece o)
    (target : Nat) : o.Closes target .complete := by
  rcases h.outcome_cases with rfl | ⟨f, rfl⟩ | ⟨e, rfl, hrefusal⟩
  · exact ⟨by simp, by simp⟩
  · exact ⟨by simp, by simp⟩
  · refine ⟨fun expected received => ⟨fun ho => ?_, by simp⟩, by simp⟩
    rw [Polled.failed.inj ho] at hrefusal
    exact absurd hrefusal id

/-- A poll with something that happened before it. -/
def Poll.after (p : Poll) (before : Transcript) : Poll :=
  { p with transcript := before ++ p.transcript }

namespace Reader

/-- Giving up closes the gathering that has not completed. What did not complete was abandoned,
stalled or failed, and is told as such. -/
theorem closes_giveUp (r : Reader) (ending : Ending) {target filled : Nat} {g : Gathering}
    {steps : List ReadStep} {buffer : Bytes} (hfills : g.Fills target steps buffer filled)
    (hresult : g.result ≠ .complete) :
    (r.giveUp target ending g).outcome.Closes target g.result := by
  unfold giveUp
  rcases hfills.result with ⟨hcomplete, -⟩ | ⟨hbroken, -⟩
  · exact absurd hcomplete hresult
  cases hg : g.result with
  | complete => exact absurd hg hresult
  | abandoned n => exact ⟨by simp [eq_comm], by simp⟩
  | stalled => exact ⟨by simp, by simp⟩
  | failed e =>
    rw [hg] at hbroken
    refine ⟨fun expected received => ⟨fun ho => ?_, by simp⟩, by simp⟩
    rw [Polled.failed.inj ho] at hbroken
    exact absurd hbroken (by simp [Gathered.Broken, PacketError.isLinkFailure])

/-- Giving up goes by the result of a gathering, whatever it took to come to it. -/
theorem giveUp_eq (r : Reader) (target : Nat) {ending ending' : Ending} {g g' : Gathering}
    (hresult : g'.result = g.result) :
    r.giveUp target ending' g' = ⟨(r.giveUp target ending g).outcome,
      (r.giveUp target ending g).reader, ⟨g'.steps, ending'⟩, g'.transcript⟩ := by
  unfold giveUp
  rw [hresult]

/-- **What comes of a packet is decided by what was gathered for it**, on any script and for any
caller that gathers the same. Complete bytes are checked, and anything else is given up; both look
at the buffer only. -/
theorem pollBody_stage (r : Reader) (h : Header) (input : InputStream) (patience : Patience) :
    ∃ o reader, o.Closes h.packetSize (r.bodyGathering h input patience).result ∧
      ∀ input' patience', (r.bodyGathering h input' patience').Like
          (r.bodyGathering h input patience) →
        r.pollBody h input' patience' =
          ⟨o, reader, ⟨(r.bodyGathering h input' patience').steps, input'.ending⟩,
            (r.bodyGathering h input' patience').transcript⟩ := by
  have hfills := r.bodyGathering_fills h input patience
  generalize r.bodyGathering h input patience = g at *
  by_cases hresult : g.result = .complete
  · refine ⟨({ r with buffer := g.buffer }.checkPacket h).1,
      ({ r with buffer := g.buffer }.checkPacket h).2, ?_, fun input' patience' hlike => ?_⟩
    · rw [hresult]
      unfold checkPacket
      dsimp only
      rcases Packet.opened_cases h (g.buffer.take h.packetSize) with
        ⟨f, hopen, -⟩ | ⟨hopen, -⟩
      · rw [hopen]
        exact ⟨by simp, by simp⟩
      · rw [hopen]
        exact ⟨by simp [Packet.packetMismatch], by simp⟩
    · unfold pollBody
      rw [← bodyGathering]
      dsimp only
      rw [hlike.result, hlike.buffer, hresult]
  · have hcloses := closes_giveUp { r with buffer := g.buffer } input.ending hfills hresult
    refine ⟨_, ({ r with buffer := g.buffer }.giveUp h.packetSize input.ending g).reader, hcloses,
      fun input' patience' hlike => ?_⟩
    unfold pollBody
    rw [← bodyGathering]
    dsimp only
    rw [← giveUp_eq { r with buffer := g.buffer } h.packetSize hlike.result, hlike.buffer]
    split
    · next hcomplete => exact absurd (hlike.result.symm.trans hcomplete) hresult
    · rfl

section Locked

variable {r : Reader} {input : InputStream} {patience : Patience}

/-- A header that is refused ends the poll. -/
theorem pollLocked_of_refused {buffer : Bytes} {e : PacketError} {reader : Reader}
    (hresult : (r.headerGathering input patience).result = .complete)
    (hbuffer : (r.headerGathering input patience).buffer = buffer)
    (hcheck : { r with buffer := buffer }.checkHeader = .error (e, reader)) :
    r.pollLocked input patience =
      ⟨.failed e, reader, ⟨(r.headerGathering input patience).steps, input.ending⟩,
        (r.headerGathering input patience).transcript⟩ := by
  unfold pollLocked
  dsimp only
  rw [← cleared, ← headerGathering, hresult, hbuffer, hcheck]

/-- A header that is in order has the rest of its packet gathered. -/
theorem pollLocked_of_passed {buffer : Bytes} {h : Header}
    (hresult : (r.headerGathering input patience).result = .complete)
    (hbuffer : (r.headerGathering input patience).buffer = buffer)
    (hcheck : { r with buffer := buffer }.checkHeader = .ok h) :
    r.pollLocked input patience =
      ({ r with buffer := buffer }.pollBody h
        ⟨(r.headerGathering input patience).steps, input.ending⟩
        (r.headerGathering input patience).patience).after
        (r.headerGathering input patience).transcript := by
  unfold pollLocked
  dsimp only
  rw [← cleared, ← headerGathering, hresult, hbuffer, hcheck]
  rfl

end Locked

/-- **What comes of a header is decided by what was gathered for it**: the poll ends with it, or the
rest of the packet is gathered. -/
theorem pollLocked_stage (r : Reader) (input : InputStream) (patience : Patience) :
    (∃ o reader, o.Closes Header.size (r.headerGathering input patience).result ∧
        ∀ input' patience', (r.headerGathering input' patience').Like
            (r.headerGathering input patience) →
          r.pollLocked input' patience' =
            ⟨o, reader, ⟨(r.headerGathering input' patience').steps, input'.ending⟩,
              (r.headerGathering input' patience').transcript⟩) ∨
      (r.headerGathering input patience).result = .complete ∧ ∃ (h : Header) (reader : Reader),
        h.toBytes = [r.config.start] ++ (r.headerGathering input patience).transcript.consumed ∧
        ∀ input' patience', (r.headerGathering input' patience').Like
            (r.headerGathering input patience) →
          r.pollLocked input' patience' =
            (reader.pollBody h ⟨(r.headerGathering input' patience').steps, input'.ending⟩
              (r.headerGathering input' patience').patience).after
              (r.headerGathering input' patience').transcript := by
  have hfills := r.headerGathering_fills input patience
  have hheader := @header_of_complete r input patience
  generalize r.headerGathering input patience = g at *
  by_cases hresult : g.result = .complete
  -- A complete header is refused for its checksum, for its length, or passes.
  · obtain ⟨h, hs, hbytes, hbuffer⟩ := hheader hresult
    rw [hresult]
    rcases checkHeader_cases { r with buffer := g.buffer } h hbuffer with
      ⟨hv, hcheck⟩ | ⟨hv, hbig, hcheck⟩ | ⟨hv, hfit, hcheck⟩
    · have hpiece : Piece r.config h.toBytes (.failed (Packet.headerMismatch h)) := .damaged hs hv
      exact .inl ⟨_, _, hpiece.closes _, fun input' patience' hlike =>
        pollLocked_of_refused (hlike.result.trans hresult) hlike.buffer hcheck⟩
    · have hpiece : Piece r.config h.toBytes
          (.failed (.payloadTooLarge h.length.toNat r.config.maxPayload)) := .oversized hs hv hbig
      exact .inl ⟨_, _, hpiece.closes _, fun input' patience' hlike =>
        pollLocked_of_refused (hlike.result.trans hresult) hlike.buffer hcheck⟩
    · exact .inr ⟨rfl, h, _, hbytes, fun input' patience' hlike =>
        pollLocked_of_passed (hlike.result.trans hresult) hlike.buffer hcheck⟩
  · have hcloses := closes_giveUp { r with buffer := g.buffer } input.ending hfills hresult
    refine .inl ⟨_, ({ r with buffer := g.buffer }.giveUp Header.size input.ending g).reader,
      hcloses, fun input' patience' hlike => ?_⟩
    unfold pollLocked
    dsimp only
    rw [← cleared, ← headerGathering,
      ← giveUp_eq { r with buffer := g.buffer } Header.size hlike.result, hlike.buffer]
    split
    · next hcomplete => exact absurd (hlike.result.symm.trans hcomplete) hresult
    · rfl

/-- **A no gives a packet up, and nothing else does**; how many bytes it should have had follows
from its header, if that was read. -/
theorem pollLocked_asks (r : Reader) (input : InputStream) {patience : Patience}
    (hpatience : patience ≠ none) :
    (r.pollLocked input patience).transcript.Asking ∧
      (false ∈ (r.pollLocked input patience).transcript.answers ↔
        ∃ expected received,
          (r.pollLocked input patience).outcome = .failed (.truncated expected received)) ∧
      ∀ expected received,
        (r.pollLocked input patience).outcome = .failed (.truncated expected received) →
          expected = Header.size ∨ ∃ (h : Header) (rest : Bytes), expected = h.packetSize ∧
            [r.config.start] ++ (r.pollLocked input patience).transcript.consumed =
              h.toBytes ++ rest := by
  have hheader : (r.headerGathering input patience).Asks := gather_asks _ _ _ _ _ _ hpatience
  have hleft : (r.headerGathering input patience).patience ≠ none := fun h =>
    hpatience ((gather_stalled _ _ _ _ _ _).2 h)
  rcases r.pollLocked_stage input patience with ⟨o, reader, hcloses, hpoll⟩ |
    ⟨hcomplete, h, reader, hbytes, hpoll⟩
  · rw [hpoll input patience ⟨rfl, rfl⟩]
    refine ⟨hheader.asking, hheader.no_iff.trans ?_, fun expected received ho => ?_⟩
    · simp [hcloses.truncated]
    · exact .inl ((hcloses.truncated expected received).1 ho).1
  · rw [hpoll input patience ⟨rfl, rfl⟩]
    generalize r.headerGathering input patience = g at *
    -- A header that came was not given up, so no question in it was answered with no.
    have hno : false ∉ g.transcript.answers := by
      simp [hheader.no_iff, hcomplete]
    have hasks : (reader.bodyGathering h ⟨g.steps, input.ending⟩ g.patience).Asks :=
      gather_asks _ _ _ _ _ _ hleft
    obtain ⟨o, reader', hcloses, hbody⟩ :=
      reader.pollBody_stage h ⟨g.steps, input.ending⟩ g.patience
    rw [hbody _ _ ⟨rfl, rfl⟩]
    generalize reader.bodyGathering h ⟨g.steps, input.ending⟩ g.patience = g' at *
    refine ⟨hheader.asking.append hno hasks.asking, ?_, fun expected received ho => .inr ?_⟩
    · simp [Poll.after, hno, hasks.no_iff, hcloses.truncated]
    · refine ⟨h, g'.transcript.consumed, ((hcloses.truncated expected received).1 ho).1, ?_⟩
      rw [Poll.after, Transcript.consumed_append, ← List.append_assoc, ← hbytes]

/-! ## Questions of a poll -/

/-- What stands in a transcript before the start marker, that included, and behind it what is
logged of the bytes that were dropped. -/
def front (r : Reader) (input : InputStream) : Transcript :=
  (hunt input.ending input.steps).transcript ++ r.lockEvents

/-- What the hunt for a start marker has left of a stream. -/
def behindMarker (input : InputStream) : InputStream :=
  ⟨(hunt input.ending input.steps).steps, input.ending⟩

variable {r : Reader} {input : InputStream}

/-- Once a start marker is found, a poll is what comes behind it, with the hunt in front. -/
theorem poll_of_marker (hmarker : (hunt input.ending input.steps).result = .byte r.config.start)
    (patience : Patience) :
    r.poll input patience =
      ({ r with unlockedRun := 0 }.pollLocked (behindMarker input) patience).after
        (r.front input) := by
  unfold poll
  simp only [hmarker, if_true]
  rfl

/-- Up to the start marker the line was not quiet and nobody was asked. -/
theorem front_of_marker (hmarker : (hunt input.ending input.steps).result = .byte r.config.start) :
    (r.front input).Silent ∧ (r.front input).consumed = [r.config.start] := by
  constructor
  · intro x hx
    rcases List.mem_append.1 hx with hx | hx
    · exact (hunt_silent _ _).2 _ hmarker x hx
    · unfold lockEvents at hx
      split at hx
      · rw [List.mem_singleton.1 hx]
        exact ⟨rfl, rfl⟩
      · exact absurd hx (by simp)
  -- The hunt takes a single byte, and that is the marker.
  · have hconsumed : (hunt input.ending input.steps).transcript.consumed = [r.config.start] := by
      rcases (hunt_finds input.ending input.steps).result with ⟨b, hresult, hconsumed⟩ |
        ⟨-, hresult | ⟨e, hresult, -⟩⟩
      · rw [hconsumed, Hunted.byte.inj (hresult.symm.trans hmarker)]
      · exact absurd (hresult.symm.trans hmarker) (by simp)
      · exact absurd (hresult.symm.trans hmarker) (by simp)
    rw [front, Transcript.consumed_append, hconsumed, lockEvents]
    split <;> rfl

/-- A poll that meets no start marker takes none, asks nobody and gives no packet up. -/
theorem poll_of_no_marker
    (hmarker : (hunt input.ending input.steps).result ≠ .byte r.config.start)
    (patience : Patience) :
    (r.poll input patience).transcript.answers = [] ∧
      (r.poll input patience).transcript.consumed.head? ≠ some r.config.start ∧
      (r.poll input patience).outcome.Closes Header.size .complete := by
  have hsilent := (hunt_silent input.ending input.steps).1
  unfold poll
  dsimp only
  rcases (hunt_finds input.ending input.steps).result with ⟨b, hresult, hconsumed⟩ |
    ⟨hconsumed, hresult | ⟨e, hresult, he⟩⟩
  · have hb : b ≠ r.config.start := fun hb => hmarker (hb ▸ hresult)
    simp only [hresult, if_neg hb]
    refine ⟨?_, ?_, ⟨by simp, by simp⟩⟩
    · rw [Transcript.answers_append, hsilent]
      rfl
    · rw [Transcript.consumed_append, hconsumed]
      exact fun h => hb (Option.some.inj h)
  · simp only [hresult, hsilent, hconsumed]
    exact ⟨trivial, nofun, ⟨by simp, by simp⟩⟩
  · simp only [hresult, hsilent, hconsumed]
    refine ⟨trivial, nofun, ⟨fun expected received => ⟨fun ho => ?_, by simp⟩, by simp⟩⟩
    rw [Polled.failed.inj ho] at he
    exact absurd he (by simp [PacketError.isLinkFailure])

end Reader

end ControllerLink
