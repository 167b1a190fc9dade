/-
# Patience

Two callers are compared on one packet.  More patience makes no difference to a
caller that did not say no, and makes one that did say yes once more; patience
for every quiet read of the script is enough, unless the line stays quiet for
ever; and the quiet reads that a caller waits through might as well not be there.

Gathering is a recursion over the script with many cases, and comparing two
callers means running it twice. Each case of it has therefore an equation of its
own (`gather_of_fits`, `gather_of_yes` and so on): an induction follows the one
caller and the equations rewrite the other. What is compared is named first:
* `Gathering.Outlasts`: the one with more patience comes to the same;
* `Gathering.Spends`: how many yeses are given of those that there are;
* `Gathering.Unhindered`: the one that sees no quiet read comes to the same.
A poll gathers twice, first the header and then the body, the second time with
the patience that is left. The part on polls carries each comparison over both
gatherings.
-/
import ControllerLink.Proofs.Questions

set_option autoImplicit false

namespace ControllerLink

/-! ## One step of gathering -/

section Step

variable {ending : Ending} {target filled : Nat} {steps rest : List ReadStep}
  {buffer chunk : Bytes} {patience : Patience} {kind : FaultKind}

theorem gather_of_le (hfull : target ≤ filled) :
    gather ending target steps buffer filled patience = ⟨.complete, buffer, steps, patience, []⟩ :=
  (gather.eq_def ..).trans (if_pos hfull)

/-- The script is used up on a stream that has ended: gathering fails, and the buffer keeps what had
come. -/
theorem gather_of_closed (hlack : ¬ target ≤ filled) :
    gather .closed target [] buffer filled patience =
      ⟨.failed .closed, buffer, [], patience, [.read (target - filled) Ending.closed.outcome]⟩ :=
  (gather.eq_def ..).trans (if_neg hlack)

/-- The script is used up on a port that is not open: that is a failure of the stream. -/
theorem gather_of_shut (hlack : ¬ target ≤ filled) :
    gather .shut target [] buffer filled patience =
      ⟨.failed (.stream .notOpen), buffer, [], patience,
        [.read (target - filled) Ending.shut.outcome]⟩ :=
  (gather.eq_def ..).trans (if_neg hlack)

/-- The script is used up on a line that stays quiet: a caller that waits without end gets nothing
more. -/
theorem gather_of_silence (hlack : ¬ target ≤ filled) :
    gather .quiet target [] buffer filled none = ⟨.stalled, buffer, [], none, []⟩ :=
  (gather.eq_def ..).trans (if_neg hlack)

/-- On a line that stays quiet a caller with some patience is asked until it has used it up. -/
theorem gather_of_quiet (hlack : ¬ target ≤ filled) (n : Nat) :
    gather .quiet target [] buffer filled (some n) = waitQuiet target buffer filled n :=
  (gather.eq_def ..).trans (if_neg hlack)

/-- An empty chunk is how a stream tells that it has ended, whatever is left of its script. -/
theorem gather_of_end (hlack : ¬ target ≤ filled) :
    gather ending target (.data [] :: rest) buffer filled patience =
      ⟨.failed .closed, buffer, rest, patience, [.read (target - filled) (.bytes [])]⟩ :=
  (gather.eq_def ..).trans ((if_neg hlack).trans (if_pos rfl))

/-- A chunk for which there is room is taken whole, and gathering goes on behind it. -/
theorem gather_of_fits (hlack : ¬ target ≤ filled) (hchunk : chunk ≠ [])
    (hfits : chunk.drop (target - filled) = []) :
    gather ending target (.data chunk :: rest) buffer filled patience =
      (gather ending target rest (buffer.overwrite filled chunk) (filled + chunk.length)
        patience).after [.read (target - filled) (.bytes chunk)] :=
  (gather.eq_def ..).trans ((if_neg hlack).trans ((if_neg hchunk).trans (if_pos hfits)))

/-- Of a chunk that is too long the front is taken; the rest stays first in the script. -/
theorem gather_of_long (hlack : ¬ target ≤ filled) (hchunk : chunk ≠ [])
    (hlong : chunk.drop (target - filled) ≠ []) :
    gather ending target (.data chunk :: rest) buffer filled patience =
      ⟨.complete, buffer.overwrite filled (chunk.take (target - filled)),
        .data (chunk.drop (target - filled)) :: rest, patience,
        [.read (target - filled) (.bytes (chunk.take (target - filled)))]⟩ :=
  (gather.eq_def ..).trans ((if_neg hlack).trans ((if_neg hchunk).trans (if_neg hlong)))

/-- An interrupted read is made again, and the caller is not asked. -/
theorem gather_of_interrupted (hlack : ¬ target ≤ filled) :
    gather ending target (.fail .interrupted :: rest) buffer filled patience =
      (gather ending target rest buffer filled patience).after
        [.read (target - filled) (.fault (.ofKind .interrupted))] :=
  (gather.eq_def ..).trans ((if_neg hlack).trans (if_pos rfl))

/-- The caller says yes and waits on. -/
theorem gather_of_yes (hlack : ¬ target ≤ filled) (hkind : kind ≠ .interrupted)
    (hquiet : kind.isQuiet = true) (n : Nat) :
    gather ending target (.fail kind :: rest) buffer filled (some (n + 1)) =
      (gather ending target rest buffer filled (some n)).after
        [.read (target - filled) (.fault (.ofKind kind)), .asked true,
          .logged (.waiting filled target)] :=
  (gather.eq_def ..).trans ((if_neg hlack).trans ((if_neg hkind).trans (if_pos hquiet)))

/-- A caller that waits without end is not asked, but a quiet read is logged all the same. -/
theorem gather_of_waiting (hlack : ¬ target ≤ filled) (hkind : kind ≠ .interrupted)
    (hquiet : kind.isQuiet = true) :
    gather ending target (.fail kind :: rest) buffer filled none =
      (gather ending target rest buffer filled none).after
        [.read (target - filled) (.fault (.ofKind kind)), .logged (.waiting filled target)] :=
  (gather.eq_def ..).trans ((if_neg hlack).trans ((if_neg hkind).trans (if_pos hquiet)))

/-- Any other failure is one of the stream, and ends the gathering at once. -/
theorem gather_of_failure (hlack : ¬ target ≤ filled) (hkind : kind ≠ .interrupted)
    (hloud : ¬ kind.isQuiet = true) :
    gather ending target (.fail kind :: rest) buffer filled patience =
      ⟨.failed (.stream (.ofKind kind)), buffer, rest, patience,
        [.read (target - filled) (.fault (.ofKind kind))]⟩ :=
  (gather.eq_def ..).trans ((if_neg hlack).trans ((if_neg hkind).trans (if_neg hloud)))

end Step

/-! ## Waiting longer -/

/-- The patience of a caller that says yes `more` times oftener. -/
def Patience.longer : Patience → Patience → Patience
  | some n, some more => some (n + more)
  | _, _ => none

/-- Nobody waits longer than without end. -/
theorem Patience.longer_none (more : Patience) : Patience.longer none more = none := by
  cases more <;> rfl

/-- With patience without end added, there is no end to anybody's patience. -/
theorem Patience.longer_forever (patience : Patience) : Patience.longer patience none = none := by
  cases patience <;> rfl

/-- The gathering `g'` of a caller with `more` patience comes to the same as `g`. -/
structure Gathering.Outlasts (g' g : Gathering) (more : Patience) : Prop where
  like : g'.Like g
  steps : g'.steps = g.steps
  patience : g'.patience = Patience.longer g.patience more
  transcript : more ≠ none → g'.transcript = g.transcript

namespace Gathering.Outlasts

variable {g' g : Gathering} {more : Patience}

/-- Gathering that comes to an end without asking leaves the caller all of its patience. -/
theorem of_same (result : Gathered) (buffer : Bytes) (steps : List ReadStep)
    (patience : Patience) (t : Transcript) :
    Outlasts ⟨result, buffer, steps, Patience.longer patience more, t⟩
      ⟨result, buffer, steps, patience, t⟩ more :=
  ⟨⟨rfl, rfl⟩, rfl, rfl, fun _ => rfl⟩

/-- Something before both; what a caller without end is not asked is missing from its transcript. -/
theorem after (h : g'.Outlasts g more) {before' before : Transcript}
    (hbefore : more ≠ none → before' = before) :
    (g'.after before').Outlasts (g.after before) more where
  like := ⟨h.like.result, h.like.buffer⟩
  steps := h.steps
  patience := h.patience
  transcript := fun hmore => by
    rw [Gathering.after, Gathering.after, hbefore hmore, h.transcript hmore]

end Gathering.Outlasts

/-- On a line that stays quiet everybody says no in the end. -/
theorem false_mem_answers_waitQuiet (target : Nat) (buffer : Bytes) (filled n : Nat) :
    false ∈ (waitQuiet target buffer filled n).transcript.answers :=
  (waitQuiet_asks target buffer filled n).no_iff.2 ⟨filled, (result_waitQuiet _ _ _ _).1⟩

/-- The answers on a line that stays quiet: all the yeses that a caller has, and a no. -/
theorem answers_waitQuiet (target : Nat) (buffer : Bytes) (filled n : Nat) :
    (waitQuiet target buffer filled n).transcript.answers = List.replicate n true ++ [false] := by
  induction n with
  | zero => rfl
  | succ n ih => exact congrArg (true :: ·) ih

/-- **A caller that did not say no could have waited longer**, and nothing would be different. Step
by step the two callers see the same: only a quiet read could tell them apart, and there the one
with the shorter patience has said yes. -/
theorem gather_longer (ending : Ending) (target : Nat) (steps : List ReadStep) (buffer : Bytes)
    (filled : Nat) (patience more : Patience)
    (hno : false ∉ (gather ending target steps buffer filled patience).transcript.answers) :
    (gather ending target steps buffer filled (Patience.longer patience more)).Outlasts
      (gather ending target steps buffer filled patience) more := by
  fun_induction gather ending target steps buffer filled patience with
  | case1 steps buffer filled patience hfull =>
    rw [gather_of_le hfull]
    exact .of_same ..
  | case2 buffer filled patience hlack room hend =>
    subst hend
    rw [gather_of_closed hlack]
    exact .of_same ..
  | case3 buffer filled patience hlack room hend =>
    subst hend
    rw [gather_of_shut hlack]
    exact .of_same ..
  | case4 buffer filled hlack hend =>
    subst hend
    rw [Patience.longer_none, gather_of_silence hlack]
    exact ⟨⟨rfl, rfl⟩, rfl, (Patience.longer_none more).symm, fun _ => rfl⟩
  | case5 buffer filled hlack hend n =>
    exact absurd (false_mem_answers_waitQuiet target buffer filled n) hno
  | case6 buffer filled patience hlack room rest =>
    rw [gather_of_end hlack]
    exact .of_same ..
  | case7 buffer filled patience hlack room chunk rest hchunk hfits ih =>
    rw [gather_of_fits hlack hchunk hfits]
    exact (ih hno).after fun _ => rfl
  | case8 buffer filled patience hlack room chunk rest hchunk hlong =>
    rw [gather_of_long hlack hchunk hlong]
    exact .of_same ..
  | case9 buffer filled patience hlack room rest read ih =>
    rw [gather_of_interrupted hlack]
    exact (ih hno).after fun _ => rfl
  | case10 buffer filled hlack room kind rest read hkind hquiet =>
    exact absurd List.mem_cons_self hno
  -- A quiet read: the patience of the one is a successor, so the other has one more too, or no end.
  | case11 buffer filled hlack room kind rest read hkind hquiet n ih =>
    have hlater : false ∉ (gather ending target rest buffer filled (some n)).transcript.answers :=
      fun hmem => hno (List.mem_cons_of_mem _ hmem)
    cases more with
    | none =>
      rw [Patience.longer, gather_of_waiting hlack hkind hquiet]
      · exact (ih hlater).after fun hmore => absurd rfl hmore
      · simp
    | some m =>
      rw [Patience.longer, Nat.succ_add, gather_of_yes hlack hkind hquiet]
      exact (ih hlater).after fun _ => rfl
  | case12 buffer filled hlack room kind rest read hkind hquiet ih =>
    rw [Patience.longer_none, gather_of_waiting hlack hkind hquiet]
    exact (ih hno).after fun _ => rfl
  | case13 buffer filled patience hlack room kind rest read hkind hquiet =>
    rw [gather_of_failure hlack hkind hquiet]
    exact .of_same ..

/-- The answers of a caller that has said yes `n` times at most: as many yeses as there were
questions, each of which took one off its patience, or all its yeses and then a no. -/
def Gathering.Spends (g : Gathering) (n : Nat) : Prop :=
  (∃ asked left, n = asked + left ∧ g.patience = some left ∧
      g.transcript.answers = List.replicate asked true) ∨
    g.transcript.answers = List.replicate n true ++ [false]

namespace Gathering.Spends

variable {g : Gathering} {n : Nat}

theorem of_unasked (hpatience : g.patience = some n) (hanswers : g.transcript.answers = []) :
    g.Spends n :=
  .inl ⟨0, n, (Nat.zero_add n).symm, hpatience, hanswers⟩

/-- A yes before the others. -/
theorem after_yes {before : Transcript} (hbefore : before.answers = [true]) (h : g.Spends n) :
    (g.after before).Spends (n + 1) := by
  unfold Spends Gathering.after
  rw [Transcript.answers_append, hbefore]
  rcases h with ⟨asked, left, rfl, hleft, hanswers⟩ | hanswers
  · rw [hanswers]
    exact .inl ⟨asked + 1, left, Nat.add_right_comm .., hleft, rfl⟩
  · rw [hanswers]
    exact .inr rfl

end Gathering.Spends

/-- **The answers of a caller with some patience while bytes are gathered.** Every yes takes one off
the patience; the no comes when nothing is left of it. -/
theorem gather_spends (ending : Ending) (target : Nat) (steps : List ReadStep) (buffer : Bytes)
    (filled : Nat) (patience : Patience) :
    ∀ n, patience = some n →
      (gather ending target steps buffer filled patience).Spends n := by
  fun_induction gather ending target steps buffer filled patience with
  | case1 | case2 | case3 | case6 | case8 | case13 =>
    exact fun n hpatience => .of_unasked hpatience rfl
  -- A caller without end has no number of yeses.
  | case4 | case12 => rintro n ⟨⟩
  | case5 buffer filled hlack hend m =>
    rintro n ⟨⟩
    exact .inr (answers_waitQuiet target buffer filled m)
  | case7 | case9 => assumption
  | case10 =>
    rintro n ⟨⟩
    exact .inr rfl
  | case11 buffer filled hlack room kind rest read hkind hquiet m ih =>
    rintro n ⟨⟩
    exact (ih m rfl).after_yes rfl

/-- **A caller that said no would have been asked again** with more patience: it has to say yes at
least once more. The second caller goes the way of the first up to its no. -/
theorem gather_asked_again (ending : Ending) (target : Nat) (steps : List ReadStep) (buffer : Bytes)
    (filled : Nat) (patience : Patience) (more : Nat) :
    ∀ n, patience = some n →
      false ∈ (gather ending target steps buffer filled patience).transcript.answers →
      List.replicate (n + 1) true <+:
        (gather ending target steps buffer filled
          (some (n + (more + 1)))).transcript.answers := by
  fun_induction gather ending target steps buffer filled patience with
  | case1 | case2 | case3 | case6 | case8 | case13 =>
    exact fun n hpatience hno => absurd hno List.not_mem_nil
  | case4 | case12 => rintro n ⟨⟩
  | case5 buffer filled hlack hend m =>
    rintro n ⟨⟩ -
    subst hend
    rw [gather_of_quiet hlack, answers_waitQuiet, Nat.add_comm more, ← Nat.add_assoc,
      List.replicate_add (m + 1), List.append_assoc]
    exact List.prefix_append _ _
  | case7 buffer filled patience hlack room chunk rest hchunk hfits ih =>
    intro n hpatience hno
    rw [gather_of_fits hlack hchunk hfits]
    exact ih n hpatience hno
  | case9 buffer filled patience hlack room rest read ih =>
    intro n hpatience hno
    rw [gather_of_interrupted hlack]
    exact ih n hpatience hno
  -- Here the one says no, and the other, with one more yes to give, goes on.
  | case10 buffer filled hlack room kind rest read hkind hquiet =>
    rintro n ⟨⟩ -
    rw [Nat.zero_add (more + 1), gather_of_yes hlack hkind hquiet]
    exact List.prefix_append [true] _
  | case11 buffer filled hlack room kind rest read hkind hquiet m ih =>
    rintro n ⟨⟩ hno
    rw [Nat.succ_add m (more + 1), gather_of_yes hlack hkind hquiet]
    exact List.cons_prefix_cons.2 ⟨rfl, ih m rfl ((List.mem_cons.1 hno).resolve_left (by simp))⟩

/-! ## Waiting long enough -/

/-- A step of a script that finds the line quiet. -/
def ReadStep.isQuiet : ReadStep → Bool
  | .fail kind => kind.isQuiet
  | .data _ => false

/-- **Whoever says yes to every quiet read of the script says no only on a line that stays quiet**,
where a caller without end would wait for ever. The count of quiet reads in what is left of the
script bounds the patience that is needed. -/
theorem gather_enough (ending : Ending) (target : Nat) (steps : List ReadStep) (buffer : Bytes)
    (filled : Nat) (patience : Patience) :
    ∀ n, patience = some n → steps.countP ReadStep.isQuiet ≤ n →
      (∃ left, (gather ending target steps buffer filled patience).patience = some left ∧
          (gather ending target steps buffer filled patience).steps.countP ReadStep.isQuiet ≤ left ∧
          false ∉ (gather ending target steps buffer filled patience).transcript.answers) ∨
        (gather ending target steps buffer filled none).result = .stalled := by
  fun_induction gather ending target steps buffer filled patience with
  | case1 | case2 | case3 =>
    exact fun n hpatience hcount => .inl ⟨n, hpatience, hcount, List.not_mem_nil⟩
  | case4 | case12 => rintro n ⟨⟩
  | case6 | case8 =>
    exact fun n hpatience hcount =>
      .inl ⟨n, hpatience, by simpa [ReadStep.isQuiet] using hcount, List.not_mem_nil⟩
  | case5 buffer filled hlack hend m =>
    subst hend
    rw [gather_of_silence hlack]
    exact fun n _ _ => .inr rfl
  | case7 buffer filled patience hlack room chunk rest hchunk hfits ih =>
    rw [gather_of_fits hlack hchunk hfits]
    exact fun n hpatience hcount => ih n hpatience (by simpa [ReadStep.isQuiet] using hcount)
  | case9 buffer filled patience hlack room rest read ih =>
    rw [gather_of_interrupted hlack]
    exact fun n hpatience hcount =>
      ih n hpatience (by simpa [ReadStep.isQuiet, FaultKind.isQuiet] using hcount)
  | case10 buffer filled hlack room kind rest read hkind hquiet =>
    rintro n ⟨⟩ hcount
    simp [ReadStep.isQuiet, hquiet] at hcount
  | case11 buffer filled hlack room kind rest read hkind hquiet m ih =>
    rintro n ⟨⟩ hcount
    have hrest : rest.countP ReadStep.isQuiet ≤ m := by
      simpa [ReadStep.isQuiet, hquiet] using hcount
    rw [gather_of_waiting hlack hkind hquiet]
    rcases ih m rfl hrest with ⟨left, hleft, hfewer, hno⟩ | hstalled
    · refine .inl ⟨left, hleft, hfewer, fun hmem => hno ?_⟩
      exact (List.mem_cons.1 hmem).resolve_left (by simp)
    · exact .inr hstalled
  | case13 buffer filled patience hlack room kind rest read hkind hquiet =>
    exact fun n hpatience hcount =>
      .inl ⟨n, hpatience, by simpa [ReadStep.isQuiet, hquiet] using hcount, List.not_mem_nil⟩

/-! ## A line that is never quiet -/

/-- A script without the reads that find the line quiet. -/
def loud (steps : List ReadStep) : List ReadStep :=
  steps.filter (!·.isQuiet)

theorem loud_data (bytes : Bytes) (rest : List ReadStep) :
    loud (.data bytes :: rest) = .data bytes :: loud rest := rfl

theorem loud_of_isQuiet {kind : FaultKind} (hquiet : kind.isQuiet = true) (rest : List ReadStep) :
    loud (.fail kind :: rest) = loud rest := by
  rw [loud, List.filter_cons_of_neg (by simp [ReadStep.isQuiet, hquiet]), loud]

theorem loud_of_failure {kind : FaultKind} (hloud : ¬ kind.isQuiet = true) (rest : List ReadStep) :
    loud (.fail kind :: rest) = .fail kind :: loud rest := by
  rw [loud, List.filter_cons_of_pos (by simp [ReadStep.isQuiet, hloud]), loud]

/-- The gathering `g'` on a line that is never quiet comes to the same as `g`, without a
question. -/
structure Gathering.Unhindered (g' g : Gathering) : Prop where
  like : g'.Like g
  steps : g'.steps = loud g.steps
  consumed : g'.transcript.consumed = g.transcript.consumed
  answers : g'.transcript.answers = []

namespace Gathering.Unhindered

variable {g' g : Gathering} {before : Transcript}

/-- The same read before both. -/
theorem after (h : g'.Unhindered g) (hanswers : before.answers = []) :
    (g'.after before).Unhindered (g.after before) where
  like := ⟨h.like.result, h.like.buffer⟩
  steps := h.steps
  consumed := by
    rw [Gathering.after, Gathering.after, Transcript.consumed_append, Transcript.consumed_append,
      h.consumed]
  answers := by
    rw [Gathering.after, Transcript.answers_append, hanswers, h.answers]
    rfl

/-- A wait before the one of them. -/
theorem of_wait (h : g'.Unhindered g) (hbefore : before.consumed = []) :
    g'.Unhindered (g.after before) where
  like := ⟨h.like.result, h.like.buffer⟩
  steps := h.steps
  consumed := by
    rw [Gathering.after, Transcript.consumed_append, hbefore, h.consumed]
    rfl
  answers := h.answers

end Gathering.Unhindered

/-- **Time-outs that a caller waits through make no difference.** The quiet reads drop out of the
other script; the cases in which the caller ends its waiting are excluded. -/
theorem gather_loud (ending : Ending) (target : Nat) (steps : List ReadStep) (buffer : Bytes)
    (filled : Nat) (patience patience' : Patience)
    (hno : false ∉ (gather ending target steps buffer filled patience).transcript.answers)
    (hcomes : (gather ending target steps buffer filled patience).result ≠ .stalled) :
    (gather ending target (loud steps) buffer filled patience').Unhindered
      (gather ending target steps buffer filled patience) := by
  fun_induction gather ending target steps buffer filled patience with
  | case1 steps buffer filled patience hfull =>
    rw [gather_of_le hfull]
    exact ⟨⟨rfl, rfl⟩, rfl, rfl, rfl⟩
  | case2 buffer filled patience hlack room hend =>
    subst hend
    rw [loud, List.filter_nil, gather_of_closed hlack]
    exact ⟨⟨rfl, rfl⟩, rfl, rfl, rfl⟩
  | case3 buffer filled patience hlack room hend =>
    subst hend
    rw [loud, List.filter_nil, gather_of_shut hlack]
    exact ⟨⟨rfl, rfl⟩, rfl, rfl, rfl⟩
  | case4 => exact absurd rfl hcomes
  | case5 buffer filled hlack hend n =>
    exact absurd (false_mem_answers_waitQuiet target buffer filled n) hno
  | case6 buffer filled patience hlack room rest =>
    rw [loud_data, gather_of_end hlack]
    exact ⟨⟨rfl, rfl⟩, rfl, rfl, rfl⟩
  | case7 buffer filled patience hlack room chunk rest hchunk hfits ih =>
    rw [loud_data, gather_of_fits hlack hchunk hfits]
    exact (ih hno hcomes).after rfl
  | case8 buffer filled patience hlack room chunk rest hchunk hlong =>
    rw [loud_data, gather_of_long hlack hchunk hlong]
    exact ⟨⟨rfl, rfl⟩, rfl, rfl, rfl⟩
  | case9 buffer filled patience hlack room rest read ih =>
    rw [loud_of_failure (by decide), gather_of_interrupted hlack]
    exact (ih hno hcomes).after rfl
  | case10 => exact absurd List.mem_cons_self hno
  | case11 buffer filled hlack room kind rest read hkind hquiet n ih =>
    rw [loud_of_isQuiet hquiet]
    exact (ih (fun hmem => hno (List.mem_cons_of_mem _ hmem)) hcomes).of_wait rfl
  | case12 buffer filled hlack room kind rest read hkind hquiet ih =>
    rw [loud_of_isQuiet hquiet]
    exact (ih hno hcomes).of_wait rfl
  | case13 buffer filled patience hlack room kind rest read hkind hquiet =>
    rw [loud_of_failure hquiet, gather_of_failure hlack hkind hquiet]
    exact ⟨⟨rfl, rfl⟩, rfl, rfl, rfl⟩

/-! ## From gatherings to polls -/

/-- The poll `p'` of a caller with `more` patience comes to the same as `p`. -/
structure Poll.Outlasts (p' p : Poll) (more : Patience) : Prop where
  outcome : p'.outcome = p.outcome
  reader : p'.reader = p.reader
  input : p'.input = p.input
  transcript : more ≠ none → p'.transcript = p.transcript

theorem Poll.Outlasts.eq {p' p : Poll} {more : Nat} (h : p'.Outlasts p (some more)) : p' = p := by
  obtain ⟨o, reader, input, t⟩ := p
  obtain ⟨o', reader', input', t'⟩ := p'
  obtain ⟨rfl, rfl, rfl, ht⟩ := h
  obtain rfl := ht nofun
  rfl

/-- The poll `p'` on a line that is never quiet comes to the same as `p`, without a question. -/
structure Poll.Unhindered (p' p : Poll) : Prop where
  outcome : p'.outcome = p.outcome
  reader : p'.reader = p.reader
  consumed : p'.transcript.consumed = p.transcript.consumed
  answers : p'.transcript.answers = []

/-- The stream on which the line is never quiet. -/
def InputStream.loud (s : InputStream) : InputStream :=
  ⟨ControllerLink.loud s.steps, s.ending⟩

/-- The answers that a caller can give that says yes `n` times at most. -/
def AnswersOf (n : Nat) (answers : List Bool) : Prop :=
  (∃ asked, asked ≤ n ∧ answers = List.replicate asked true) ∨
    answers = List.replicate n true ++ [false]

namespace Reader

variable (r : Reader) (input : InputStream)

section Body

variable (h : Header) (patience : Patience)

/-- More patience makes no difference to the packet behind a header.  The body's gathering is the
only part of the poll that can ask. -/
theorem pollBody_longer (more : Patience)
    (hno : false ∉ (r.pollBody h input patience).transcript.answers) :
    (r.pollBody h input (Patience.longer patience more)).Outlasts (r.pollBody h input patience)
      more := by
  obtain ⟨o, reader, -, hbody⟩ := r.pollBody_stage h input patience
  rw [hbody input patience ⟨rfl, rfl⟩] at hno ⊢
  have hout : (r.bodyGathering h input (Patience.longer patience more)).Outlasts
      (r.bodyGathering h input patience) more := gather_longer _ _ _ _ _ _ _ hno
  rw [hbody _ _ hout.like]
  exact ⟨rfl, rfl, by rw [hout.steps], hout.transcript⟩

/-- Time-outs that are waited through make no difference to the packet behind a header. -/
theorem pollBody_loud (patience' : Patience)
    (hno : false ∉ (r.pollBody h input patience).transcript.answers)
    (hcomes : (r.pollBody h input patience).outcome ≠ .stalled) :
    (r.pollBody h input.loud patience').Unhindered (r.pollBody h input patience) := by
  obtain ⟨o, reader, hcloses, hbody⟩ := r.pollBody_stage h input patience
  rw [hbody input patience ⟨rfl, rfl⟩] at hno hcomes ⊢
  have hloud : (r.bodyGathering h input.loud patience').Unhindered
      (r.bodyGathering h input patience) :=
    gather_loud _ _ _ _ _ _ _ hno fun hstalled => hcomes (hcloses.stalled.2 hstalled)
  rw [hbody _ _ hloud.like]
  exact ⟨rfl, rfl, hloud.consumed, hloud.answers⟩

/-- A body that never comes leaves the poll without a result. -/
theorem pollBody_stalled (hstalled : (r.bodyGathering h input patience).result = .stalled) :
    (r.pollBody h input patience).outcome = .stalled := by
  obtain ⟨o, reader, hcloses, hbody⟩ := r.pollBody_stage h input patience
  rw [hbody input patience ⟨rfl, rfl⟩]
  exact hcloses.stalled.2 hstalled

/-- All answers behind a header are given while the body is gathered. -/
theorem answers_pollBody : (r.pollBody h input patience).transcript.answers =
    (r.bodyGathering h input patience).transcript.answers := by
  obtain ⟨o, reader, -, hbody⟩ := r.pollBody_stage h input patience
  rw [hbody input patience ⟨rfl, rfl⟩]

end Body

section Locked

variable (patience : Patience)

/-- More patience makes no difference behind a start marker. The body is gathered with the patience
that the header has left, so the second comparison begins where the first has ended. Either the
header ends the poll, or the body follows with what the header has left. -/
theorem pollLocked_longer (more : Patience)
    (hno : false ∉ (r.pollLocked input patience).transcript.answers) :
    (r.pollLocked input (Patience.longer patience more)).Outlasts (r.pollLocked input patience)
      more := by
  rcases r.pollLocked_stage input patience with ⟨o, reader, -, hpoll⟩ |
    ⟨-, h, reader, -, hpoll⟩
  · rw [hpoll input patience ⟨rfl, rfl⟩] at hno ⊢
    have hout : (r.headerGathering input (Patience.longer patience more)).Outlasts
        (r.headerGathering input patience) more := gather_longer _ _ _ _ _ _ _ hno
    rw [hpoll _ _ hout.like]
    exact ⟨rfl, rfl, by rw [hout.steps], hout.transcript⟩
  · rw [hpoll input patience ⟨rfl, rfl⟩] at hno ⊢
    rw [Poll.after, Transcript.answers_append, List.mem_append, not_or] at hno
    have hout : (r.headerGathering input (Patience.longer patience more)).Outlasts
        (r.headerGathering input patience) more := gather_longer _ _ _ _ _ _ _ hno.1
    have hbody := reader.pollBody_longer ⟨(r.headerGathering input patience).steps, input.ending⟩ h
      (r.headerGathering input patience).patience more hno.2
    rw [hpoll _ _ hout.like, hout.steps, hout.patience]
    refine ⟨hbody.outcome, hbody.reader, hbody.input, fun hmore => ?_⟩
    rw [Poll.after, Poll.after, hout.transcript hmore, hbody.transcript hmore]

/-- Time-outs that are waited through make no difference behind a start marker. -/
theorem pollLocked_loud (patience' : Patience)
    (hno : false ∉ (r.pollLocked input patience).transcript.answers)
    (hcomes : (r.pollLocked input patience).outcome ≠ .stalled) :
    (r.pollLocked input.loud patience').Unhindered (r.pollLocked input patience) := by
  rcases r.pollLocked_stage input patience with ⟨o, reader, hcloses, hpoll⟩ |
    ⟨hcomplete, h, reader, -, hpoll⟩
  · rw [hpoll input patience ⟨rfl, rfl⟩] at hno hcomes ⊢
    have hloud : (r.headerGathering input.loud patience').Unhindered
        (r.headerGathering input patience) :=
      gather_loud _ _ _ _ _ _ _ hno fun hstalled => hcomes (hcloses.stalled.2 hstalled)
    rw [hpoll _ _ hloud.like]
    exact ⟨rfl, rfl, hloud.consumed, hloud.answers⟩
  · rw [hpoll input patience ⟨rfl, rfl⟩] at hno hcomes ⊢
    rw [Poll.after, Transcript.answers_append, List.mem_append, not_or] at hno
    have hloud : (r.headerGathering input.loud patience').Unhindered
        (r.headerGathering input patience) :=
      gather_loud _ _ _ _ _ _ _ hno.1 fun hstalled =>
        absurd (hcomplete.symm.trans hstalled) (by simp)
    have hbody := reader.pollBody_loud ⟨(r.headerGathering input patience).steps, input.ending⟩ h
      (r.headerGathering input patience).patience (r.headerGathering input.loud patience').patience
      hno.2 hcomes
    rw [hpoll _ _ hloud.like, hloud.steps]
    refine ⟨hbody.outcome, hbody.reader, ?_, ?_⟩
    · rw [Poll.after, Poll.after, Transcript.consumed_append, Transcript.consumed_append,
        hloud.consumed, ← hbody.consumed]
      rfl
    · rw [Poll.after, Transcript.answers_append, hloud.answers, List.nil_append, ← hbody.answers]
      rfl

variable {r input} {n : Nat}

/-- What the caller is asked while the header is gathered comes first. -/
theorem answers_of_headerGathering :
    (r.headerGathering input patience).transcript.answers <+:
      (r.pollLocked input patience).transcript.answers := by
  rcases r.pollLocked_stage input patience with ⟨o, reader, -, hpoll⟩ |
    ⟨-, h, reader, -, hpoll⟩
  · exact ⟨[], by rw [List.append_nil, hpoll input patience ⟨rfl, rfl⟩]⟩
  · rw [hpoll input patience ⟨rfl, rfl⟩, Poll.after, Transcript.answers_append]
    exact List.prefix_append _ _

variable {patience}

/-- The answers behind a start marker are those of a caller with the given patience: what the header
has spent the body does not have. The header is gathered first, with all the patience that
there is. -/
theorem pollLocked_answers (hpatience : patience = some n) :
    AnswersOf n (r.pollLocked input patience).transcript.answers := by
  have hheader : (r.headerGathering input patience).Spends n :=
    gather_spends _ _ _ _ _ _ n hpatience
  have hasks : (r.headerGathering input patience).Asks :=
    gather_asks _ _ _ _ _ _ (by simp [hpatience])
  rcases r.pollLocked_stage input patience with ⟨o, reader, -, hpoll⟩ |
    ⟨hcomplete, h, reader, -, hpoll⟩
  · rw [hpoll input patience ⟨rfl, rfl⟩]
    rcases hheader with ⟨asked, left, rfl, -, hanswers⟩ | hanswers
    · exact .inl ⟨asked, Nat.le_add_right _ _, hanswers⟩
    · exact .inr hanswers
  · rw [hpoll input patience ⟨rfl, rfl⟩, Poll.after, Transcript.answers_append, answers_pollBody]
    -- The header has spent some yeses, and the body has the rest of them.
    rcases hheader with ⟨asked, left, rfl, hleft, hanswers⟩ | hanswers
    · have hbody : (reader.bodyGathering h ⟨(r.headerGathering input patience).steps, input.ending⟩
          (r.headerGathering input patience).patience).Spends left :=
        gather_spends _ _ _ _ _ _ left hleft
      rw [hanswers]
      rcases hbody with ⟨asked', left', rfl, -, hanswers'⟩ | hanswers'
      · rw [hanswers', ← List.replicate_add]
        exact .inl ⟨asked + asked', by omega, rfl⟩
      · rw [hanswers', ← List.append_assoc, ← List.replicate_add]
        exact .inr rfl
    · -- A no would have ended the poll with the header.
      have hno : false ∈ (r.headerGathering input patience).transcript.answers := by
        rw [hanswers]
        exact List.mem_append_right _ List.mem_cons_self
      obtain ⟨received, habandoned⟩ := hasks.no_iff.1 hno
      exact absurd (hcomplete.symm.trans habandoned) (by simp)

/-- A caller that said no behind a start marker would have been asked again with more patience, be
it at the header or at the body. -/
theorem pollLocked_asked_again (hpatience : patience = some n) (more : Nat)
    (hno : false ∈ (r.pollLocked input patience).transcript.answers) :
    List.replicate (n + 1) true <+:
      (r.pollLocked input (some (n + (more + 1)))).transcript.answers := by
  -- The no is one at the header, where more patience gives one more yes.
  by_cases hheader : false ∈ (r.headerGathering input patience).transcript.answers
  · exact (gather_asked_again _ _ _ _ _ _ more n hpatience hheader).trans
      (answers_of_headerGathering _)
  -- Or the header comes as it did before, with all that is added left for the body.
  rcases r.pollLocked_stage input patience with ⟨o, reader, -, hpoll⟩ |
    ⟨-, h, reader, -, hpoll⟩
  · rw [hpoll input patience ⟨rfl, rfl⟩] at hno
    exact absurd hno hheader
  · rw [hpoll input patience ⟨rfl, rfl⟩, Poll.after, Transcript.answers_append, List.mem_append,
      answers_pollBody] at hno
    have hout : (r.headerGathering input (Patience.longer patience (some (more + 1)))).Outlasts
        (r.headerGathering input patience) (some (more + 1)) := gather_longer _ _ _ _ _ _ _ hheader
    have hspends : (r.headerGathering input patience).Spends n :=
      gather_spends _ _ _ _ _ _ n hpatience
    rcases hspends with ⟨asked, left, rfl, hleft, hanswers⟩ | hanswers
    · subst hpatience
      have hagain := gather_asked_again _ _ _ _ _ _ more left hleft (hno.resolve_left hheader)
      rw [← Patience.longer, hpoll _ _ hout.like, Poll.after, Transcript.answers_append,
        answers_pollBody, hout.transcript (by simp), hout.steps, hout.patience, hanswers, hleft,
        Nat.add_assoc, List.replicate_add]
      exact (List.prefix_append_right_inj _).2 hagain
    · refine absurd ?_ hheader
      rw [hanswers]
      exact List.mem_append_right _ List.mem_cons_self

/-- Patience for all quiet reads of the script is enough behind a start marker, or the poll of a
caller without end does not come back. -/
theorem pollLocked_enough (hpatience : patience = some n)
    (hcount : input.steps.countP ReadStep.isQuiet ≤ n) :
    false ∉ (r.pollLocked input patience).transcript.answers ∨
      (r.pollLocked input none).outcome = .stalled := by
  rcases gather_enough input.ending Header.size input.steps r.cleared 1 patience n hpatience hcount
    with ⟨left, hleft, hfewer, hno⟩ | hstalled
  · rcases r.pollLocked_stage input patience with ⟨o, reader, -, hpoll⟩ |
      ⟨-, h, reader, -, hpoll⟩
    · rw [hpoll input patience ⟨rfl, rfl⟩]
      exact .inl hno
    -- The header came without a no, so that one without end gets it too, and then the body.
    · have hout : (r.headerGathering input (Patience.longer patience none)).Outlasts
          (r.headerGathering input patience) none := gather_longer _ _ _ _ _ _ _ hno
      rw [Patience.longer_forever] at hout
      rw [hpoll input patience ⟨rfl, rfl⟩, hpoll input none hout.like, Poll.after,
        Transcript.answers_append, List.mem_append, not_or, answers_pollBody, hout.steps,
        hout.patience, Patience.longer_forever]
      rcases gather_enough input.ending h.packetSize (r.headerGathering input patience).steps
        (reader.buffer.resize h.packetSize) Header.size _ left hleft hfewer with
        ⟨-, -, -, hno'⟩ | hstalled
      · exact .inl ⟨hno, hno'⟩
      · exact .inr (reader.pollBody_stalled _ h none hstalled)
  -- The header itself never comes.
  · rcases r.pollLocked_stage input none with ⟨o, reader, hcloses, hpoll⟩ |
      ⟨hcomplete, h, reader, -, hpoll⟩
    · rw [hpoll input none ⟨rfl, rfl⟩]
      exact .inr (hcloses.stalled.2 hstalled)
    · exact absurd (hcomplete.symm.trans hstalled) (by simp)

end Locked

end Reader

end ControllerLink
