/-
# Callers of any kind

A caller may answer as it likes, each time anew.  One poll only sees how many
yeses come before the first no, so that every caller is one with some patience,
or one that waits for ever on a line that stays quiet.  What is proved here is
how a poll treats its caller, whatever that answers.

The predicate of a caller has no bound on how often it says yes, whereas a poll
is defined for a number of yeses.  The bridge between them is that the answers
of a poll with patience `n` are some yeses, at most `n`, or `n` of them and a no
(`poll_answers`):
* a caller with a first no has the poll whose patience is the number of that no;
* a caller without one has the poll of any patience that is not used up, and
  there is such a patience unless the line stays quiet for ever
  (`exists_enough`);
* two patiences that agree with one caller give one poll (`poll_eq_of_le`).
-/
import ControllerLink.Proofs.Patience
import Mathlib.Data.Nat.Find

set_option autoImplicit false

namespace ControllerLink

/-! ## The hunt for the marker -/

/-- A script without the reads that find the line quiet behind its first bytes. -/
def unhurried : List ReadStep → List ReadStep
  | [] => []
  | .data bytes :: rest => .data bytes :: loud rest
  | .fail kind :: rest => .fail kind :: unhurried rest

/-- The stream on which the line is never quiet behind the first bytes. -/
def InputStream.unhurried (s : InputStream) : InputStream :=
  ⟨ControllerLink.unhurried s.steps, s.ending⟩

/-- A hunt does not reach behind the first bytes of a script. -/
theorem hunt_unhurried (ending : Ending) (steps : List ReadStep) :
    (hunt ending (unhurried steps)).result = (hunt ending steps).result ∧
      (hunt ending (unhurried steps)).transcript = (hunt ending steps).transcript ∧
      ∀ b, (hunt ending steps).result = .byte b →
        (hunt ending (unhurried steps)).steps = loud (hunt ending steps).steps := by
  fun_induction hunt ending steps with
  | case1 => exact ⟨rfl, rfl, fun _ _ => rfl⟩
  | case2 | case3 => exact ⟨rfl, rfl, fun _ _ => rfl⟩
  | case4 b bs rest hbs =>
    cases bs with
    | nil => exact absurd rfl hbs
    | cons => exact ⟨rfl, rfl, fun _ _ => rfl⟩
  | case5 rest read h ih =>
    rw [unhurried, hunt, if_pos rfl]
    exact ⟨ih.1, congrArg (List.cons _) ih.2.1, ih.2.2⟩
  -- A quiet read ends the hunt, so it is not among those that are left out.
  | case6 kind rest read hkind hquiet =>
    rw [unhurried, hunt, if_neg hkind, if_pos hquiet]
    exact ⟨rfl, rfl, by simp⟩
  | case7 kind rest read hkind hquiet =>
    rw [unhurried, hunt, if_neg hkind, if_neg hquiet]
    exact ⟨rfl, rfl, by simp⟩

namespace Reader

/-- A poll that meets no start marker has no use for a caller. -/
theorem poll_eq_of_no_marker {r : Reader} {input : InputStream}
    (hmarker : (hunt input.ending input.steps).result ≠ .byte r.config.start)
    (patience patience' : Patience) : r.poll input patience' = r.poll input patience := by
  unfold poll
  dsimp only
  split
  · rfl
  · rfl
  · next b hb =>
    have hb' : b ≠ r.config.start := fun h => hmarker (h ▸ hb)
    rw [if_neg hb', if_neg hb']

/-- A poll that meets no start marker does not reach behind the first bytes. A byte outside of a
packet, a quiet line, or the end of the stream: in none of these is more read. -/
theorem poll_unhurried_of_no_marker {r : Reader} {input : InputStream}
    (hmarker : (hunt input.ending input.steps).result ≠ .byte r.config.start)
    (patience patience' : Patience) :
    (r.poll input.unhurried patience').Unhindered (r.poll input patience) := by
  obtain ⟨hresult, htranscript, -⟩ := hunt_unhurried input.ending input.steps
  have hanswers := (poll_of_no_marker hmarker patience).1
  unfold poll at hanswers ⊢
  dsimp only [InputStream.unhurried] at hanswers ⊢
  rw [hresult, htranscript]
  rcases hfound : (hunt input.ending input.steps).result with b | - | e
  · have hb : b ≠ r.config.start := fun h => hmarker (h ▸ hfound)
    simp only [hfound, if_neg hb] at hanswers ⊢
    exact ⟨rfl, rfl, rfl, hanswers⟩
  · simp only [hfound] at hanswers ⊢
    exact ⟨rfl, rfl, rfl, hanswers⟩
  · simp only [hfound] at hanswers ⊢
    exact ⟨rfl, rfl, rfl, hanswers⟩

variable {r : Reader} {input : InputStream}

/-- Once the marker is found, what is left of an unhurried script is what is left of the script,
less its time-outs. -/
theorem poll_unhurried_of_marker
    (hmarker : (hunt input.ending input.steps).result = .byte r.config.start)
    (patience : Patience) :
    r.poll input.unhurried patience =
      ({ r with unlockedRun := 0 }.pollLocked (behindMarker input).loud patience).after
        (r.front input) := by
  obtain ⟨hresult, htranscript, hsteps⟩ := hunt_unhurried input.ending input.steps
  rw [poll_of_marker (hresult.trans hmarker)]
  unfold front behindMarker
  dsimp only [InputStream.unhurried, InputStream.loud]
  rw [htranscript, hsteps _ hmarker]

/-- The answers of a poll are those of the packet. -/
theorem answers_poll_of_marker
    (hmarker : (hunt input.ending input.steps).result = .byte r.config.start)
    (patience : Patience) :
    (r.poll input patience).transcript.answers =
      ({ r with unlockedRun := 0 }.pollLocked (behindMarker input)
        patience).transcript.answers := by
  rw [poll_of_marker hmarker, Poll.after, Transcript.answers_append,
    (front_of_marker hmarker).1.answers_eq_nil, List.nil_append]

/-- **The answers of a caller with some patience**: yes to every question, or to as many as it has
patience for and then no. -/
theorem poll_answers (r : Reader) (input : InputStream) (n : Nat) :
    AnswersOf n (r.poll input (some n)).transcript.answers := by
  by_cases hmarker : (hunt input.ending input.steps).result = .byte r.config.start
  · rw [answers_poll_of_marker hmarker]
    exact pollLocked_answers rfl
  · exact .inl ⟨0, Nat.zero_le n, (poll_of_no_marker hmarker (some n)).1⟩

/-- **A caller that did not say no could have waited longer.** -/
theorem poll_longer {n : Nat} (hno : false ∉ (r.poll input (some n)).transcript.answers)
    (more : Nat) : r.poll input (some (n + more)) = r.poll input (some n) := by
  by_cases hmarker : (hunt input.ending input.steps).result = .byte r.config.start
  · rw [answers_poll_of_marker hmarker] at hno
    have hout := pollLocked_longer { r with unlockedRun := 0 } (behindMarker input) (some n)
      (some more) hno
    rw [poll_of_marker hmarker, poll_of_marker hmarker]
    exact congrArg (Poll.after · (r.front input)) hout.eq
  · exact poll_eq_of_no_marker hmarker _ _

/-- A caller that said no would be asked again, and would say yes once more, if it had more
patience. -/
theorem poll_asked_again {n : Nat} (hno : false ∈ (r.poll input (some n)).transcript.answers)
    (more : Nat) :
    List.replicate (n + 1) true <+:
      (r.poll input (some (n + (more + 1)))).transcript.answers := by
  by_cases hmarker : (hunt input.ending input.steps).result = .byte r.config.start
  · rw [answers_poll_of_marker hmarker] at hno ⊢
    exact pollLocked_asked_again rfl more hno
  · rw [(poll_of_no_marker hmarker _).1] at hno
    exact absurd hno List.not_mem_nil

/-- **With enough patience a poll comes back without a no**, if it comes back at all. -/
theorem exists_enough (r : Reader) (input : InputStream) :
    (∃ n, false ∉ (r.poll input (some n)).transcript.answers) ∨
      (r.poll input none).outcome = .stalled := by
  by_cases hmarker : (hunt input.ending input.steps).result = .byte r.config.start
  · rcases @pollLocked_enough { r with unlockedRun := 0 } (behindMarker input) _ _ rfl
      (Nat.le_refl _) with hno | hstalled
    · exact .inl ⟨_, by rwa [answers_poll_of_marker hmarker]⟩
    · rw [poll_of_marker hmarker]
      exact .inr hstalled
  · exact .inl ⟨0, by rw [(poll_of_no_marker hmarker _).1]; exact List.not_mem_nil⟩

/-- **Time-outs that a caller waits through make no difference to a poll.** A caller with a bound on
its patience is never left waiting for ever. -/
theorem poll_unhurried {n : Nat} (hno : false ∉ (r.poll input (some n)).transcript.answers)
    (patience : Patience) :
    (r.poll input.unhurried patience).Unhindered (r.poll input (some n)) := by
  by_cases hmarker : (hunt input.ending input.steps).result = .byte r.config.start
  · have hcomes : (r.poll input (some n)).outcome ≠ .stalled := fun hstalled =>
      absurd (stalled_poll hstalled).1 (by simp)
    rw [answers_poll_of_marker hmarker] at hno
    rw [poll_of_marker hmarker] at hcomes ⊢
    rw [poll_unhurried_of_marker hmarker]
    have hloud := pollLocked_loud { r with unlockedRun := 0 } (behindMarker input) (some n) patience
      hno hcomes
    refine ⟨hloud.outcome, hloud.reader, ?_, ?_⟩
    · rw [Poll.after, Poll.after, Transcript.consumed_append, Transcript.consumed_append,
        hloud.consumed]
    · rw [Poll.after, Transcript.answers_append, (front_of_marker hmarker).1.answers_eq_nil,
        List.nil_append, hloud.answers]
  · exact poll_unhurried_of_no_marker hmarker _ _

end Reader

/-! ## Any caller

From here on a caller is any function from the number of a question to an answer.  That a poll heeds
its caller is proved separately for polls that meet a start marker and for those that do not, since
only the former ask at all. -/

/-- The poll `p` of a caller that answers its `i`-th question with `keep i`: the one of a caller
with some patience that has given these answers. -/
def Reader.PollsWhile (r : Reader) (input : InputStream) (keep : Nat → Bool) (p : Poll) : Prop :=
  ∃ n, p = r.poll input (some n) ∧
    ∀ i answer, p.transcript.answers[i]? = some answer → answer = keep i

/-- How the poll `p` of a reader of packets with the start marker `start` treats its caller. -/
structure Poll.Heeds (p : Poll) (start : UInt8) : Prop where
  /-- Whatever happens, a question follows exactly when it was a read that found the line quiet,
  and the start marker had been read. -/
  asked : ∀ (before : Transcript) (x : Activity) (after : Transcript),
    p.transcript = before ++ x :: after → ((∃ answer later, after = .asked answer :: later) ↔
      x.isQuietRead = true ∧ before.consumed.head? = some start)
  /-- No question comes out of nothing. -/
  unprompted : ∀ answer later, p.transcript ≠ .asked answer :: later
  /-- Nothing happens after a no. -/
  obeyed : ∀ before after, p.transcript = before ++ .asked false :: after → after = []
  /-- A packet is given up exactly when the caller said no. -/
  given_up_iff : (∃ expected received, p.outcome = .failed (.truncated expected received)) ↔
    false ∈ p.transcript.answers
  /-- The caller is told how many bytes of the packet were read, its start marker among them, and
  how many its header needs, or once that was read all of it. -/
  given_up : ∀ expected received, p.outcome = .failed (.truncated expected received) →
    p.transcript.consumed.head? = some start ∧ received = p.transcript.consumed.length ∧
      (received < 5 ∧ expected = 5 ∨ 5 ≤ received ∧
        ∃ h, Header.ofBytes? p.transcript.consumed = some h ∧ expected = h.packetSize)

namespace Reader

variable {r : Reader} {input : InputStream}

/-- The transcript of a poll that meets the start marker: up to the marker nobody is asked and the
line is not quiet, and behind it the caller is asked as it should be. -/
theorem poll_asking (hmarker : (hunt input.ending input.steps).result = .byte r.config.start)
    (n : Nat) :
    ∃ later, (r.poll input (some n)).transcript = r.front input ++ later ∧
      Transcript.Asking (r.front input ++ later) := by
  have hasks := pollLocked_asks { r with unlockedRun := 0 } (behindMarker input)
    (Option.some_ne_none n)
  refine ⟨_, ?_, hasks.1.behind (front_of_marker hmarker).1⟩
  rw [poll_of_marker hmarker]
  rfl

/-- A quiet read before a question has the start marker before it. -/
theorem head_of_isQuietRead
    (hmarker : (hunt input.ending input.steps).result = .byte r.config.start)
    {before later after : Transcript} {x : Activity}
    (hsplit : r.front input ++ later = before ++ x :: after) (hread : x.isQuietRead = true) :
    before.consumed.head? = some r.config.start := by
  obtain ⟨hsilent, hconsumed⟩ := front_of_marker hmarker
  rcases List.append_eq_append_iff.1 hsplit with ⟨mid, rfl, -⟩ | ⟨mid, hfront, hmid⟩
  · rw [Transcript.consumed_append, hconsumed]
    rfl
  · cases mid with
    | nil =>
      rw [List.append_nil] at hfront
      rw [← hfront, hconsumed]
      rfl
    | cons y mid =>
      obtain ⟨rfl, -⟩ := List.cons.inj hmid
      have hquiet := (hsilent x (hfront ▸ List.mem_append_right _ List.mem_cons_self)).1
      exact absurd (hread.symm.trans hquiet) (by simp)

/-- A poll that gives a packet up ends as such polls end. -/
theorem endsIn_of_truncated {patience : Patience} {expected received : Nat}
    (ho : (r.poll input patience).outcome = .failed (.truncated expected received)) :
    (r.poll input patience).EndsIn r .abandoned := by
  obtain ⟨way, h⟩ := r.exists_endsIn input patience
  have hway : way = .abandoned := by rw [h.eq_exit, Poll.exit, ho]
  exact hway ▸ h

/-- A caller that is asked is heeded: each question is for a quiet read, and the first no ends the
poll. -/
theorem heeds_of_marker (hmarker : (hunt input.ending input.steps).result = .byte r.config.start)
    (n : Nat) : (r.poll input (some n)).Heeds r.config.start := by
  obtain ⟨later, ht, hasking⟩ := poll_asking hmarker n
  obtain ⟨-, hno, hexpected⟩ := pollLocked_asks { r with unlockedRun := 0 } (behindMarker input)
    (Option.some_ne_none n)
  have hconsumed := (front_of_marker hmarker).2
  constructor
  · intro before x after hsplit
    rw [ht] at hsplit
    rw [hasking.next_iff hsplit]
    exact ⟨fun hread => ⟨hread, head_of_isQuietRead hmarker hsplit hread⟩, And.left⟩
  · intro answer later' hfirst
    rw [← ht, hfirst] at hasking
    exact absurd hasking.isQuestion_of_cons (by simp [Activity.isQuestion])
  · intro before after hsplit
    rw [ht] at hsplit
    exact hasking.eq_nil_of_no hsplit
  · rw [answers_poll_of_marker hmarker, hno, poll_of_marker hmarker]
    rfl
  · intro expected received ho
    -- The numbers that the caller is told are those of the bytes: what broke off is a header, or a
    -- body behind the header that is in the bytes already.
    obtain ⟨⟨expected', received', ho', hlen, -, hshort⟩, -⟩ := endsIn_of_truncated ho
    obtain ⟨rfl, rfl⟩ := PacketError.truncated.inj (Polled.failed.inj (ho.symm.trans ho'))
    rw [poll_of_marker hmarker] at ho hlen ⊢
    rw [Poll.after, Transcript.consumed_append, hconsumed] at hlen ⊢
    refine ⟨rfl, hlen.symm, ?_⟩
    rcases hexpected expected received ho with rfl | ⟨h, rest, rfl, hbytes⟩
    · exact .inl ⟨hshort, rfl⟩
    · refine .inr ⟨?_, h, ?_, rfl⟩
      · rw [← hlen, hbytes, List.length_append, Header.length_toBytes]
        exact Nat.le_add_right _ _
      · rw [hbytes, Header.ofBytes?_toBytes]

/-- Before a start marker is found nobody is asked. There is no question in the transcript
at all. -/
theorem heeds_of_no_marker
    (hmarker : (hunt input.ending input.steps).result ≠ .byte r.config.start)
    (n : Nat) : (r.poll input (some n)).Heeds r.config.start := by
  obtain ⟨hanswers, hhead, hcloses⟩ := poll_of_no_marker hmarker (some n)
  have hunasked : ∀ before answer after,
      (r.poll input (some n)).transcript ≠ before ++ .asked answer :: after := by
    intro before answer after hsplit
    rw [hsplit, Transcript.answers_append, Transcript.answers_asked] at hanswers
    exact absurd hanswers (by simp)
  have hkept : ∀ expected received,
      (r.poll input (some n)).outcome ≠ .failed (.truncated expected received) :=
    fun expected received ho => absurd ((hcloses.truncated expected received).1 ho).2 (by simp)
  constructor
  · intro before x after hsplit
    constructor
    · rintro ⟨answer, later, rfl⟩
      exact absurd hsplit (by simpa using hunasked (before ++ [x]) answer later)
    · rintro ⟨-, hmet⟩
      refine absurd ?_ hhead
      rw [hsplit, Transcript.consumed_append, List.head?_append, hmet]
      rfl
  · exact fun answer later => hunasked [] answer later
  · exact fun before after hsplit => absurd hsplit (hunasked before false after)
  · rw [hanswers]
    exact ⟨fun ⟨expected, received, ho⟩ => absurd ho (hkept expected received), nofun⟩
  · exact fun expected received ho => absurd ho (hkept expected received)

/-- **A poll asks its caller when it should, and heeds a no.** -/
theorem poll_heeds (r : Reader) (input : InputStream) (n : Nat) :
    (r.poll input (some n)).Heeds r.config.start := by
  by_cases hmarker : (hunt input.ending input.steps).result = .byte r.config.start
  · exact heeds_of_marker hmarker n
  · exact heeds_of_no_marker hmarker n

/-! ## Every caller has its poll -/

end Reader

/-- A caller that says yes `n` times, and then no if it was told to, gives its answers. -/
theorem AnswersOf.agrees {n : Nat} {answers : List Bool} (h : AnswersOf n answers)
    {keep : Nat → Bool} (hyes : ∀ i, i < n → keep i = true)
    (hno : false ∈ answers → keep n = false) {i : Nat} {answer : Bool}
    (hi : answers[i]? = some answer) : answer = keep i := by
  rcases h with ⟨asked, hasked, rfl⟩ | rfl
  · rw [List.getElem?_replicate] at hi
    split at hi
    · next hlt => rw [← Option.some.inj hi, hyes i (by omega)]
    · exact absurd hi (by simp)
  · have hlast := hno (List.mem_append_right _ List.mem_cons_self)
    -- Before the no, at the no, and behind it, where nothing was answered.
    rcases Nat.lt_trichotomy i n with hlt | rfl | hgt
    · rw [List.getElem?_append_left (by simpa using hlt), List.getElem?_replicate, if_pos hlt] at hi
      rw [← Option.some.inj hi, hyes i hlt]
    · rw [List.getElem?_append_right (by simp), List.length_replicate, Nat.sub_self] at hi
      rw [← Option.some.inj hi, hlast]
    · rw [List.getElem?_eq_none (by simp; omega)] at hi
      exact absurd hi (by simp)

/-- A no comes after all yeses. -/
theorem AnswersOf.getElem?_of_no {n : Nat} {answers : List Bool} (h : AnswersOf n answers)
    (hno : false ∈ answers) : answers[n]? = some false := by
  rcases h with ⟨asked, -, rfl⟩ | rfl
  · exact absurd (List.eq_of_mem_replicate hno) (by simp)
  · rw [List.getElem?_append_right (by simp), List.length_replicate, Nat.sub_self]
    rfl

namespace Reader

variable {r : Reader} {input : InputStream}

/-- Every caller has a poll, unless it says yes without end on a line that stays quiet
without end. -/
theorem exists_pollsWhile (r : Reader) (input : InputStream) (keep : Nat → Bool) :
    (∃ p, r.PollsWhile input keep p) ∨
      (∀ i, keep i = true) ∧ (r.poll input none).outcome = .stalled := by
  by_cases hyes : ∀ i, keep i = true
  · rcases r.exists_enough input with ⟨n, hno⟩ | hstalled
    · exact .inl ⟨_, n, rfl, fun i answer hi =>
        (r.poll_answers input n).agrees (fun i _ => hyes i) (fun hmem => absurd hmem hno) hi⟩
    · exact .inr ⟨hyes, hstalled⟩
  · -- The patience of this caller is the number of its first no.
    have hfirst : ∃ i, keep i = false := by simpa using hyes
    refine .inl ⟨_, Nat.find hfirst, rfl, fun i answer hi =>
      (r.poll_answers input _).agrees (fun j hj => ?_) (fun _ => Nat.find_spec hfirst) hi⟩
    simpa using Nat.find_min hfirst hj

/-- Two numbers of yeses that both agree with a caller come to the same poll: the longer patience is
not used up, or the shorter one would have said no too early. With more patience the caller says yes
where it has said no. -/
theorem poll_eq_of_le {keep : Nat → Bool} {n n' : Nat} (hle : n ≤ n')
    (hkeep : ∀ i answer, (r.poll input (some n)).transcript.answers[i]? = some answer →
      answer = keep i)
    (hkeep' : ∀ i answer, (r.poll input (some n')).transcript.answers[i]? = some answer →
      answer = keep i) : r.poll input (some n') = r.poll input (some n) := by
  obtain ⟨more, rfl⟩ := Nat.exists_eq_add_of_le hle
  by_cases hno : false ∈ (r.poll input (some n)).transcript.answers
  · cases more with
    | zero => rfl
    | succ more =>
      have hsaid := hkeep n false ((r.poll_answers input n).getElem?_of_no hno)
      obtain ⟨later, hlater⟩ := poll_asked_again hno more
      have hsays := hkeep' n true (by
        rw [← hlater, List.getElem?_append_left (by simp), List.getElem?_replicate,
          if_pos (Nat.lt_succ_self n)])
      exact absurd (hsaid.trans hsays.symm) (by simp)
  · exact poll_longer hno more

/-- A caller has one poll at most. -/
theorem pollsWhile_unique {keep : Nat → Bool} {p p' : Poll} (h : r.PollsWhile input keep p)
    (h' : r.PollsWhile input keep p') : p' = p := by
  obtain ⟨n, rfl, hkeep⟩ := h
  obtain ⟨n', rfl, hkeep'⟩ := h'
  rcases Nat.le_total n n' with hle | hle
  · exact poll_eq_of_le hle hkeep hkeep'
  · exact (poll_eq_of_le hle hkeep' hkeep).symm

/-- **What a caller is asked, and what its answers do.**  Whatever a caller answers, it has just one
poll, unless it always says yes and the line stays quiet within a packet for ever.  It is asked
right behind every read that finds the line quiet once the start marker has been read, and at no
other time; its no ends the poll, gives the packet up and is the one cause of that; and if it says
yes each time, the poll comes to what it would come to if the line had never been quiet behind the
start marker. -/
theorem caller_decides (r : Reader) (input : InputStream) (keep : Nat → Bool) :
    ((∃! p, r.PollsWhile input keep p) ∨
        (∀ i, keep i = true) ∧ (r.poll input none).outcome = .stalled) ∧
      ∀ p, r.PollsWhile input keep p → p.Heeds r.config.start ∧
        (false ∉ p.transcript.answers → ∃ p', r.PollsWhile input.unhurried keep p' ∧
          p'.outcome = p.outcome ∧ p'.reader.stats = p.reader.stats ∧
          p'.transcript.consumed = p.transcript.consumed ∧ p'.transcript.answers = []) := by
  constructor
  · rcases r.exists_pollsWhile input keep with ⟨p, hp⟩ | hstalled
    · exact .inl ⟨p, hp, fun p' hp' => pollsWhile_unique hp hp'⟩
    · exact .inr hstalled
  · rintro p ⟨n, rfl, -⟩
    refine ⟨poll_heeds r input n, fun hno => ?_⟩
    obtain ⟨houtcome, hreader, hconsumed, hanswers⟩ := poll_unhurried hno (some n)
    refine ⟨_, ⟨n, rfl, ?_⟩, houtcome, by rw [hreader], hconsumed, hanswers⟩
    simp [hanswers]

/-- A caller that waits once: the second silence gives the packet up within its header. -/
example :
    let p := (Reader.make .inbound).poll ⟨[.data [0x5a], .fail .timedOut, .data [1, 2],
      .fail .wouldBlock, .data [3]], .closed⟩ (some 1)
    p.transcript.answers = [true, false] ∧ p.outcome = .failed (.truncated 5 3) := by
  decide +kernel

end Reader

end ControllerLink
