/-
# Sessions with a reader

What a caller asks of a reader in turn, and what comes of it: any sequence of
polls, reads and changes of the payload limit, or reads alone until the stream
has ended.
-/
import ControllerLink.Stream.Reader

set_option autoImplicit false

namespace ControllerLink

/-- What can be asked of a reader. -/
inductive ReaderCall where
  /-- One step of progress, for a caller with so much patience. -/
  | poll (patience : Patience)
  /-- The next packet. -/
  | read
  /-- Another limit on payloads. -/
  | setMaxPayload (max : Nat)
deriving DecidableEq, Repr

/-- What came of a call. -/
structure CallRecord where
  /-- The longest payload that was accepted when the call was made. -/
  limit : Nat
  /-- What the caller was told; `none` for a change of the limit. -/
  outcome : Option Polled
  /-- The polls that were made, in order. -/
  polls : List Poll
deriving DecidableEq, Repr

namespace CallRecord

/-- The bytes that a call took off the stream. -/
def consumed (record : CallRecord) : Bytes :=
  record.polls.flatMap fun p => p.transcript.consumed

/-- The packet that a call gave. -/
def frame? (record : CallRecord) : Option Frame :=
  match record.outcome with
  | some (.frame f) => some f
  | _ => none

end CallRecord

/-! ## Progress -/

/-- Gathering puts nothing back. -/
theorem weight_gather_le (ending : Ending) (target : Nat) (steps : List ReadStep) (buffer : Bytes)
    (filled : Nat) (patience : Patience) :
    InputStream.weight ⟨(gather ending target steps buffer filled patience).steps, ending⟩ ≤
      InputStream.weight ⟨steps, ending⟩ := by
  fun_induction gather ending target steps buffer filled patience with
  | case1 | case2 | case3 | case4 => exact Nat.le_refl _
  | case5 buffer filled hlack hend n =>
    induction n with
    | zero => exact Nat.le_refl _
    | succ n ih => exact ih
  | case6 | case10 | case13 => simp [InputStream.weight_data, InputStream.weight_fail]
  | case7 buffer filled patience hlack room chunk rest hchunk hfits ih =>
    rw [InputStream.weight_data]
    exact Nat.le_add_left_of_le ih
  | case8 buffer filled patience hlack room chunk rest hchunk hlong =>
    rw [InputStream.weight_data, InputStream.weight_data, List.length_drop]
    omega
  | case9 buffer filled patience hlack room rest read ih =>
    rw [InputStream.weight_fail]
    exact Nat.le_add_left_of_le ih
  | case11 buffer filled hlack room kind rest read hkind hquiet n ih =>
    rw [InputStream.weight_fail]
    exact Nat.le_add_left_of_le ih
  | case12 buffer filled hlack room kind rest read hkind hquiet ih =>
    rw [InputStream.weight_fail]
    exact Nat.le_add_left_of_le ih

namespace Reader

theorem weight_pollBody_le (r : Reader) (h : Header) (input : InputStream) (patience : Patience) :
    (r.pollBody h input patience).input.weight ≤ input.weight := by
  unfold pollBody
  dsimp only
  split
  · exact weight_gather_le _ _ _ _ _ _
  · exact weight_gather_le _ _ _ _ _ _

theorem weight_pollLocked_le (r : Reader) (input : InputStream) (patience : Patience) :
    (r.pollLocked input patience).input.weight ≤ input.weight := by
  unfold pollLocked
  dsimp only
  split
  · split
    · exact weight_gather_le _ _ _ _ _ _
    · exact Nat.le_trans (weight_pollBody_le _ _ _ _) (weight_gather_le _ _ _ _ _ _)
  · exact weight_gather_le _ _ _ _ _ _

/-- A poll leaves no more of a script than its hunt for the start marker. -/
theorem weight_poll_le_hunt (r : Reader) (input : InputStream) (patience : Patience) :
    (r.poll input patience).input.weight ≤
      InputStream.weight ⟨(hunt input.ending input.steps).steps, input.ending⟩ := by
  unfold poll
  dsimp only
  split
  · exact Nat.le_refl _
  · exact Nat.le_refl _
  · split
    · exact weight_pollLocked_le _ _ _
    · exact Nat.le_refl _

/-- A poll uses up a byte or a step of a script. -/
theorem weight_poll_lt (r : Reader) (input : InputStream) (patience : Patience)
    (h : input.steps ≠ []) : (r.poll input patience).input.weight < input.weight :=
  Nat.lt_of_le_of_lt (weight_poll_le_hunt r input patience)
    (weight_hunt_lt input.ending input.steps h)

theorem weight_poll_le (r : Reader) (input : InputStream) (patience : Patience) :
    (r.poll input patience).input.weight ≤ input.weight := by
  by_cases h : input.steps = []
  · have hhunt := weight_poll_le_hunt r input patience
    have hend : (hunt input.ending input.steps).steps = input.steps := by
      rw [h]
      rfl
    rwa [hend] at hhunt
  · exact Nat.le_of_lt (weight_poll_lt r input patience h)

theorem weight_next_le (r : Reader) (input : InputStream) :
    (r.next input).input.weight ≤ input.weight := by
  fun_induction next r input with
  | case1 r input p hidle hdone => exact weight_poll_le r input none
  | case2 r input p hidle hmore q ih => exact Nat.le_trans ih (weight_poll_le r input none)
  | case3 r input p hidle => exact weight_poll_le r input none

/-- A read uses up a byte or a step of a script. -/
theorem weight_next_lt (r : Reader) (input : InputStream) (h : input.steps ≠ []) :
    (r.next input).input.weight < input.weight := by
  unfold next
  simp only [h, dite_false]
  split
  · exact Nat.lt_of_le_of_lt (weight_next_le _ _) (weight_poll_lt r input none h)
  · exact weight_poll_lt r input none h

/-! ## Calls in turn -/

/-- The polls that `next` makes, in order. -/
def nextPolls (r : Reader) (input : InputStream) : List Poll :=
  let p := r.poll input none
  if _more : p.outcome = .idle ∧ input.steps ≠ [] then p :: p.reader.nextPolls p.input
  else [p]
  termination_by input.weight
  decreasing_by exact weight_poll_lt r input none _more.2

/-- What comes of calls in turn. -/
def session (r : Reader) (input : InputStream) : List ReaderCall → List CallRecord
  | [] => []
  | .poll patience :: rest =>
    let p := r.poll input patience
    ⟨r.config.maxPayload, some p.outcome, [p]⟩ :: p.reader.session p.input rest
  | .read :: rest =>
    let p := r.next input
    ⟨r.config.maxPayload, some p.outcome, r.nextPolls input⟩ :: p.reader.session p.input rest
  | .setMaxPayload max :: rest =>
    ⟨r.config.maxPayload, none, []⟩ :: (r.withMaxPayload max).session input rest

/-- Read packet after packet until the stream has ended: what every read comes to, and the reader
after the last of them.  Reading stops as well when a read never comes back, or when nothing was
left of the script, so that another one would come to the same. -/
def readAll (r : Reader) (input : InputStream) : List Polled × Reader :=
  let p := r.next input
  if _over : p.outcome = .failed .closed ∨ p.outcome = .stalled ∨ input.steps = [] then
    ([p.outcome], p.reader)
  else
    let (later, last) := p.reader.readAll p.input
    (p.outcome :: later, last)
  termination_by input.weight
  decreasing_by exact weight_next_lt r input fun h => _over (.inr (.inr h))

end Reader

end ControllerLink
