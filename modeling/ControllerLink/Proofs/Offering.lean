/-
# Offering bytes to a stream

What can happen while bytes are offered to a stream until all of them are taken,
and the stream is flushed behind them, whatever it answers each time: it takes
some of the bytes, and the rest is offered again; it is interrupted, and the
same is asked again; or it takes nothing or fails, and that is the end.

`Offers` says this without a script: it is a relation between the bytes, what is
asked of the stream, and the end. A scripted stream only goes through such a
relation (`OutputStream.offers_deliver`), and it can go through each
(`OutputStream.exists_deliver_eq`), so that whatever follows from the relation
holds for every script, and nothing that a stream could do is left out by having
one. The consequences at the end are read off the relation by induction: what
was taken, when it is done, when it fails, and what is offered at any time.
-/
import ControllerLink.Stream.Output

set_option autoImplicit false

namespace ControllerLink

/-! ## What is asked of a stream -/

namespace OutputActivity

/-- How many bytes were offered, if any were. -/
def offered? : OutputActivity → Option Nat
  | wrote offered _ | writeFailed offered _ => some offered
  | flushed | flushFailed _ => none

/-- How the stream failed, if it did. -/
def fault? : OutputActivity → Option FaultKind
  | writeFailed _ kind | flushFailed kind => some kind
  | wrote .. | flushed => none

/-- A failure while these bytes are left: to write them, or to flush if there are none. -/
def failing (bytes : Bytes) (kind : FaultKind) : OutputActivity :=
  if bytes = [] then flushFailed kind else writeFailed bytes.length kind

@[simp] theorem fault?_failing (bytes : Bytes) (kind : FaultKind) :
    (failing bytes kind).fault? = some kind := by
  unfold failing
  split <;> rfl

/-- A failure is one of an offer unless there was nothing to offer, and then it is one of
the flush. -/
theorem offered?_failing (bytes : Bytes) (kind : FaultKind) :
    (failing bytes kind).offered? = if bytes = [] then none else some bytes.length := by
  unfold failing
  split <;> rfl

theorem failing_ne_wrote (bytes : Bytes) (kind : FaultKind) (offered : Nat) (taken : Bytes) :
    failing bytes kind ≠ wrote offered taken := by
  unfold failing
  split <;> simp

theorem failing_ne_flushed (bytes : Bytes) (kind : FaultKind) : failing bytes kind ≠ flushed := by
  unfold failing
  split <;> simp

end OutputActivity

open OutputActivity (failing)

@[simp] theorem takenBytes_nil : takenBytes [] = [] := rfl

theorem takenBytes_append (first later : List OutputActivity) :
    takenBytes (first ++ later) = takenBytes first ++ takenBytes later :=
  List.flatMap_append

@[simp] theorem takenBytes_wrote (offered : Nat) (taken : Bytes) (later : List OutputActivity) :
    takenBytes (.wrote offered taken :: later) = taken ++ takenBytes later := rfl

@[simp] theorem takenBytes_flushed (later : List OutputActivity) :
    takenBytes (.flushed :: later) = takenBytes later := rfl

/-- A stream that fails takes nothing. -/
@[simp] theorem takenBytes_failing (bytes : Bytes) (kind : FaultKind)
    (later : List OutputActivity) :
    takenBytes (failing bytes kind :: later) = takenBytes later := by
  unfold failing
  split <;> rfl

/-- `Offers bytes activity e`: `bytes` are offered until all are taken, and then the stream is
flushed; `activity` is what is asked of it, and `e` is the end. -/
inductive Offers : Bytes → List OutputActivity → WriteEnd → Prop where
  | flushed : Offers [] [.flushed] .done
  | took {taken rest : Bytes} {activity : List OutputActivity} {e : WriteEnd} (htaken : taken ≠ [])
      (h : Offers rest activity e) :
      Offers (taken ++ rest) (.wrote (taken ++ rest).length taken :: activity) e
  | interrupted {bytes : Bytes} {activity : List OutputActivity} {e : WriteEnd}
      (h : Offers bytes activity e) : Offers bytes (failing bytes .interrupted :: activity) e
  | refused {bytes : Bytes} (hbytes : bytes ≠ []) :
      Offers bytes [.wrote bytes.length []] .refused
  | failed {bytes : Bytes} {kind : FaultKind} (hkind : kind ≠ .interrupted) :
      Offers bytes [failing bytes kind] (.failed kind)

/-! ## Streams -/

namespace OutputStream

/-- What happens when a stream is flushed. An interruption is asked again, and anything else is the
end. -/
theorem offers_flush (s : OutputStream) : Offers [] s.flush.activity s.flush.result := by
  rcases s with ⟨writes, flushes, room⟩
  unfold flush
  dsimp only
  fun_induction flushScripted writes room flushes with
  | case1 => exact .flushed
  | case2 rest => exact .flushed
  | case3 rest ih => exact ih.interrupted
  | case4 kind rest hkind => exact .failed hkind

variable {tail : List OutputActivity} {e : WriteEnd}

/-- What happens behind the script. -/
theorem offers_writeUnscripted (flushes : List (Option FaultKind)) (room : Room) {bytes : Bytes}
    (hbytes : bytes ≠ []) (hbehind : Offers [] tail e) :
    let w := writeUnscripted flushes room bytes
    (w.result = .done ∧ Offers bytes (w.activity ++ tail) e) ∨
      w.result ≠ .done ∧ Offers bytes w.activity w.result := by
  -- As long as there is room, one write takes all bytes.
  have htook := hbehind.took hbytes
  rw [List.append_nil] at htook
  unfold writeUnscripted
  cases room with
  | unlimited => exact .inl ⟨rfl, htook⟩
  | limited left kind final =>
    have hfailed : ∀ {rest : Bytes}, rest ≠ [] →
        Offers rest [.writeFailed rest.length kind] (.failed kind) := by
      intro rest hrest
      have h := @Offers.failed rest kind final
      rwa [failing, if_neg hrest] at h
    dsimp only
    split
    · exact .inl ⟨rfl, htook⟩
    · next hlong =>
      split
      · exact .inr ⟨by simp, hfailed hbytes⟩
      · next hleft =>
        -- The stream takes as much as it has room for, and then fails.
        refine .inr ⟨by simp, ?_⟩
        have hrest : bytes.drop left ≠ [] := by
          rw [ne_eq, List.drop_eq_nil_iff]
          exact hlong
        have htaken : bytes.take left ≠ [] := by
          rw [ne_eq, List.take_eq_nil_iff, not_or]
          exact ⟨hleft, hbytes⟩
        have hshort := (hfailed hrest).took htaken
        rwa [List.take_append_drop, List.length_drop] at hshort

/-- **What happens when bytes are written**: they are offered until all are taken, and then it goes
on as behind them, or until a write takes nothing or fails. -/
theorem offers_writeAll (s : OutputStream) (bytes : Bytes) (hbehind : Offers [] tail e) :
    ((s.writeAll bytes).result = .done ∧
        Offers bytes ((s.writeAll bytes).activity ++ tail) e) ∨
      (s.writeAll bytes).result ≠ .done ∧
        Offers bytes (s.writeAll bytes).activity (s.writeAll bytes).result := by
  rcases s with ⟨writes, flushes, room⟩
  unfold writeAll
  dsimp only
  -- Step by step of the script: each offers what is left.
  fun_induction writeScripted flushes room writes bytes with
  | case1 steps => exact .inl ⟨rfl, hbehind⟩
  | case2 bytes hbytes => exact offers_writeUnscripted flushes room hbytes hbehind
  | case3 bytes hbytes rest => exact .inr ⟨by simp, .refused hbytes⟩
  | case4 bytes hbytes most rest hmost ih =>
    have htaken : bytes.take most ≠ [] := by
      rw [ne_eq, List.take_eq_nil_iff, not_or]
      exact ⟨hmost, hbytes⟩
    rcases ih with ⟨hdone, h⟩ | ⟨hfailure, h⟩
    · have htook := h.took htaken
      rw [List.take_append_drop] at htook
      exact .inl ⟨hdone, htook⟩
    · have htook := h.took htaken
      rw [List.take_append_drop] at htook
      exact .inr ⟨hfailure, htook⟩
  | case5 bytes hbytes rest ih =>
    have hfailing : failing bytes .interrupted = .writeFailed bytes.length .interrupted :=
      if_neg hbytes
    rcases ih with ⟨hdone, h⟩ | ⟨hfailure, h⟩
    · exact .inl ⟨hdone, hfailing ▸ h.interrupted⟩
    · exact .inr ⟨hfailure, hfailing ▸ h.interrupted⟩
  | case6 bytes hbytes kind rest hkind =>
    have h := @Offers.failed bytes kind hkind
    rw [failing, if_neg hbytes] at h
    exact .inr ⟨by simp, h⟩

/-! ### Writing and flushing -/

/-- Write bytes until all of them are taken, and then flush. -/
def deliver (s : OutputStream) (bytes : Bytes) : Written :=
  let written := s.writeAll bytes
  match written.result with
  | .done => { written.stream.flush with
      activity := written.activity ++ written.stream.flush.activity }
  | _ => written

/-- Delivering bytes offers them, whatever the stream has in store. The flush comes only behind a
write that is done. -/
theorem offers_deliver (s : OutputStream) (bytes : Bytes) :
    Offers bytes (s.deliver bytes).activity (s.deliver bytes).result := by
  unfold deliver
  dsimp only
  rcases offers_writeAll s bytes (s.writeAll bytes).stream.offers_flush with
    ⟨hdone, h⟩ | ⟨hfailure, h⟩
  · rw [hdone]
    exact h
  · split
    · next hdone => exact absurd hdone hfailure
    · exact h

/-! ### Scripts -/

/-- Nothing is written of no bytes. -/
theorem deliver_nil (s : OutputStream) : s.deliver [] = s.flush := by
  unfold deliver writeAll writeScripted
  rfl

/-- What happens before the other writes happens before the delivery. -/
theorem deliver_after {s s' : OutputStream} {bytes rest : Bytes} {a : OutputActivity}
    (h : s'.writeAll bytes = (s.writeAll rest).after a) :
    s'.deliver bytes = (s.deliver rest).after a := by
  unfold deliver
  rw [h]
  rcases s.writeAll rest with ⟨_ | _ | kind, stream, activity⟩ <;> rfl

/-- A write that takes some bytes, before all that a stream does. -/
theorem deliver_accept (s : OutputStream) {taken : Bytes} (htaken : taken ≠ []) (rest : Bytes) :
    { s with writes := .accept taken.length :: s.writes }.deliver (taken ++ rest) =
      (s.deliver rest).after (.wrote (taken ++ rest).length taken) := by
  apply deliver_after
  unfold writeAll
  rw [writeScripted, if_neg (by simp [htaken])]
  dsimp only
  rw [if_neg (by simpa using htaken), List.drop_left' rfl, List.take_left' rfl]

/-- An interruption, before all that a stream does. With no bytes left it is the flush that is
interrupted, and its script is another one. -/
theorem exists_deliver_interrupted (s : OutputStream) (bytes : Bytes) :
    ∃ s' : OutputStream,
      s'.deliver bytes = (s.deliver bytes).after (failing bytes .interrupted) := by
  by_cases hbytes : bytes = []
  · subst hbytes
    refine ⟨{ s with flushes := some .interrupted :: s.flushes }, ?_⟩
    rw [deliver_nil, deliver_nil]
    rfl
  · refine ⟨{ s with writes := .fail .interrupted :: s.writes }, deliver_after ?_⟩
    unfold writeAll
    rw [writeScripted, if_neg hbytes, failing, if_neg hbytes]
    rfl

/-- A failure, whatever a stream does otherwise. -/
theorem exists_deliver_failed (bytes : Bytes) {kind : FaultKind} (hkind : kind ≠ .interrupted) :
    ∃ s : OutputStream, (s.deliver bytes).activity = [failing bytes kind] ∧
      (s.deliver bytes).result = .failed kind := by
  by_cases hbytes : bytes = []
  · subst hbytes
    refine ⟨⟨[], [some kind], .unlimited⟩, ?_⟩
    rw [deliver_nil, flush, flushScripted, if_neg hkind]
    exact ⟨rfl, rfl⟩
  · refine ⟨⟨[.fail kind], [], .unlimited⟩, ?_⟩
    have hwritten : writeAll ⟨[.fail kind], [], .unlimited⟩ bytes =
        ⟨.failed kind, ⟨[], [], .unlimited⟩, [failing bytes kind]⟩ := by
      unfold writeAll
      rw [writeScripted, if_neg hbytes, failing, if_neg hbytes]
      exact if_neg hkind
    rw [deliver, hwritten]
    exact ⟨rfl, rfl⟩

/-- **Scripts leave nothing out**: whatever can happen while bytes are offered happens with some
stream. The script is built from the end of the activity: each offer needs one step. -/
theorem exists_deliver_eq {bytes : Bytes} {activity : List OutputActivity} {e : WriteEnd}
    (h : Offers bytes activity e) : ∃ s : OutputStream,
      (s.deliver bytes).activity = activity ∧ (s.deliver bytes).result = e := by
  induction h with
  | flushed => exact ⟨unlimited, rfl, rfl⟩
  | @took taken rest activity e htaken h ih =>
    obtain ⟨s, rfl, rfl⟩ := ih
    refine ⟨{ s with writes := .accept taken.length :: s.writes }, ?_⟩
    rw [s.deliver_accept htaken]
    exact ⟨rfl, rfl⟩
  | @interrupted bytes activity e h ih =>
    obtain ⟨s, rfl, rfl⟩ := ih
    obtain ⟨s', hdelivered⟩ := s.exists_deliver_interrupted bytes
    refine ⟨s', ?_⟩
    rw [hdelivered]
    exact ⟨rfl, rfl⟩
  | @refused bytes hbytes =>
    refine ⟨⟨[.accept 0], [], .unlimited⟩, ?_⟩
    have hwritten : writeAll ⟨[.accept 0], [], .unlimited⟩ bytes =
        ⟨.refused, ⟨[], [], .unlimited⟩, [.wrote bytes.length []]⟩ := by
      unfold writeAll
      rw [writeScripted, if_neg hbytes]
      rfl
    rw [deliver, hwritten]
    exact ⟨rfl, rfl⟩
  | @failed bytes kind hkind =>
    exact exists_deliver_failed bytes hkind

end OutputStream

/-! ## What follows from it -/

namespace Offers

variable {bytes : Bytes} {activity before after : List OutputActivity} {a : OutputActivity}
  {e : WriteEnd}

/-- Something is always asked of the stream, the flush at least. -/
theorem ne_nil (h : Offers bytes activity e) : activity ≠ [] := by
  cases h <;> simp

/-- **No byte is lost or taken twice**: a stream has taken the first of the bytes offered. -/
theorem takenBytes_prefix (h : Offers bytes activity e) : takenBytes activity <+: bytes := by
  induction h with
  | flushed => exact List.prefix_rfl
  | took htaken h ih => exact (List.prefix_append_right_inj _).2 ih
  | interrupted h ih => simpa using ih
  | refused | failed => simp

/-- All went well exactly where a flush succeeds. -/
theorem eq_done_iff (h : Offers bytes activity e) : e = .done ↔ .flushed ∈ activity := by
  induction h with
  | flushed => simp
  | took htaken h ih => simpa using ih
  | interrupted h ih => simpa [(OutputActivity.failing_ne_flushed _ _).symm] using ih
  | refused hbytes => simp
  | failed hkind => simp [(OutputActivity.failing_ne_flushed _ _).symm]

/-- Where a flush succeeds, it is the last thing that is asked, and all bytes were taken before. -/
theorem exists_append_flushed (h : Offers bytes activity e) (hdone : e = .done) :
    ∃ before, activity = before ++ [.flushed] ∧ takenBytes before = bytes := by
  induction h with
  | flushed => exact ⟨[], rfl, rfl⟩
  | took htaken h ih =>
    obtain ⟨before, rfl, rfl⟩ := ih hdone
    exact ⟨_ :: before, rfl, rfl⟩
  | interrupted h ih =>
    obtain ⟨before, rfl, rfl⟩ := ih hdone
    exact ⟨_ :: before, rfl, takenBytes_failing _ _ _⟩
  | refused hbytes => exact absurd hdone (by simp)
  | failed hkind => exact absurd hdone (by simp)

/-- Bytes are refused exactly by a write that takes none. -/
theorem eq_refused_iff (h : Offers bytes activity e) :
    e = .refused ↔ ∃ offered, .wrote offered [] ∈ activity := by
  induction h with
  | flushed => simp
  | took htaken h ih => simpa [htaken.symm] using ih
  | interrupted h ih => simpa [(OutputActivity.failing_ne_wrote _ _ _ _).symm] using ih
  | refused hbytes => exact iff_of_true rfl ⟨_, List.mem_cons_self⟩
  | failed hkind => simp [(OutputActivity.failing_ne_wrote _ _ _ _).symm]

/-- It fails exactly with a fault that is no interruption. -/
theorem eq_failed_iff (h : Offers bytes activity e) (kind : FaultKind) :
    e = .failed kind ↔ kind ≠ .interrupted ∧ ∃ a ∈ activity, a.fault? = some kind := by
  induction h with
  | flushed => simp [OutputActivity.fault?]
  | took htaken h ih => simpa [OutputActivity.fault?] using ih
  | interrupted h ih =>
    rw [ih]
    simp only [List.mem_cons, exists_eq_or_imp, OutputActivity.fault?_failing, Option.some.injEq]
    exact and_congr_right fun hkind => (or_iff_right (Ne.symm hkind)).symm
  | refused hbytes => simp [OutputActivity.fault?]
  | @failed _ kind' hkind =>
    simp only [WriteEnd.failed.injEq, List.mem_singleton, exists_eq_left,
      OutputActivity.fault?_failing, Option.some.injEq]
    exact ⟨fun h => ⟨h ▸ hkind, h⟩, And.right⟩

/-- **At any time the rest is offered**: what was not taken before. -/
theorem rest (h : Offers bytes (before ++ a :: after) e) :
    takenBytes before <+: bytes ∧
      Offers (bytes.drop (takenBytes before).length) (a :: after) e := by
  induction before generalizing bytes with
  | nil => exact ⟨List.nil_prefix, h⟩
  | cons b before ih =>
    generalize hlater : before ++ a :: after = later at ih
    rw [List.cons_append, hlater] at h
    cases h with
    | flushed | refused | failed => exact absurd hlater (by simp)
    | @took taken rest _ _ htaken h =>
      obtain ⟨htook, hrest⟩ := ih h
      rw [takenBytes_wrote, List.length_append, ← List.drop_drop, List.drop_left' rfl]
      exact ⟨(List.prefix_append_right_inj _).2 htook, hrest⟩
    | interrupted h =>
      rw [takenBytes_failing]
      exact ih h

/-- What fails is asked again exactly if it was interrupted. Only two of the cases have a fault at
all: an interruption, which goes on, and a failure. -/
theorem retried (h : Offers bytes (before ++ a :: after) e) {kind : FaultKind}
    (hfault : a.fault? = some kind) : kind = .interrupted ↔ after ≠ [] := by
  obtain ⟨-, hrest⟩ := h.rest
  generalize bytes.drop (takenBytes before).length = left at hrest
  cases hrest with
  | flushed | refused | took => exact absurd hfault (by simp [OutputActivity.fault?])
  | interrupted h =>
    rw [OutputActivity.fault?_failing, Option.some.injEq] at hfault
    exact iff_of_true hfault.symm h.ne_nil
  | failed hkind =>
    rw [OutputActivity.fault?_failing, Option.some.injEq] at hfault
    exact iff_of_false (fun h => hkind (hfault.trans h)) (by simp)

/-- All bytes are offered at first, and a flush comes first if there are none. -/
theorem offered?_head (h : Offers bytes (a :: after) e) :
    a.offered? = if bytes = [] then none else some bytes.length := by
  cases h with
  | flushed => rfl
  | took htaken h => rw [if_neg (by simp [htaken])]; rfl
  | interrupted h => exact OutputActivity.offered?_failing _ _
  | refused hbytes => rw [if_neg hbytes]; rfl
  | failed hkind => exact OutputActivity.offered?_failing _ _

/-- All that was not taken before is offered, and nothing else; a flush comes when all was taken. -/
theorem offered?_eq (h : Offers bytes (before ++ a :: after) e) :
    a.offered? = if takenBytes before = bytes then none
      else some (bytes.length - (takenBytes before).length) := by
  obtain ⟨⟨left, rfl⟩, hrest⟩ := h.rest
  rw [List.drop_left' rfl] at hrest
  rw [hrest.offered?_head, List.length_append, Nat.add_sub_cancel_left]
  simp only [List.self_eq_append_right]

end Offers

end ControllerLink
