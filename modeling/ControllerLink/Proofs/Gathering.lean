/-
# Gathering bytes

What hunting for a byte and filling a buffer do to a script of reads: no byte is
lost or read twice, the bytes read stand in the buffer in their order, and a
buffer is full exactly when it has been given all the bytes that it lacked.

`Hunt.Finds` and `Gathering.Fills` are the specifications of the two recursions
that read; everything else about polls uses them and does not look into the
recursions again.  Both are proved by the induction of the function itself, with
one lemma for a chunk that is put into the buffer and one for a read that failed
and may be made again.
-/
import ControllerLink.Proofs.ByteStrings
import ControllerLink.Stream.Reader

set_option autoImplicit false

namespace ControllerLink

/-! ## Hunting -/

/-- What a hunt does to a script: the byte that it finds is the first one there, and it reads no
other. -/
structure Hunt.Finds (h : Hunt) (steps : List ReadStep) : Prop where
  pending : ∀ ending, (⟨steps, ending⟩ : InputStream).pending =
    h.transcript.consumed ++ (⟨h.steps, ending⟩ : InputStream).pending
  result : (∃ b, h.result = .byte b ∧ h.transcript.consumed = [b]) ∨
    h.transcript.consumed = [] ∧
      (h.result = .quiet ∨ ∃ e, h.result = .failed e ∧ e.isLinkFailure = true)

/-- **What the hunt comes to**, whatever the script holds: one byte that was read for it, an end or
a failure of the stream, or nothing. -/
theorem hunt_finds (ending : Ending) (steps : List ReadStep) :
    (hunt ending steps).Finds steps := by
  fun_induction hunt ending steps with
  | case1 =>
    cases ending with
    | closed => exact ⟨fun _ => rfl, .inr ⟨rfl, .inr ⟨_, rfl, rfl⟩⟩⟩
    | quiet => exact ⟨fun _ => rfl, .inr ⟨rfl, .inl rfl⟩⟩
    | shut => exact ⟨fun _ => rfl, .inr ⟨rfl, .inr ⟨_, rfl, rfl⟩⟩⟩
  | case2 rest => exact ⟨fun _ => rfl, .inr ⟨rfl, .inr ⟨_, rfl, rfl⟩⟩⟩
  | case3 b rest => exact ⟨fun _ => rfl, .inl ⟨b, rfl, rfl⟩⟩
  | case4 b bs rest => exact ⟨fun _ => rfl, .inl ⟨b, rfl, rfl⟩⟩
  -- An interrupted read is no byte and no end: what the hunt finds is found behind it.
  | case5 rest _ _ ih => exact ⟨ih.pending, ih.result⟩
  | case6 kind rest _ _ hquiet => exact ⟨fun _ => rfl, .inr ⟨rfl, .inl rfl⟩⟩
  | case7 kind rest _ _ hquiet => exact ⟨fun _ => rfl, .inr ⟨rfl, .inr ⟨_, rfl, rfl⟩⟩⟩

/-! ## Filling a buffer -/

/-- A gathering that came to nothing when so many bytes were there. -/
def Gathered.Broken (received : Nat) : Gathered → Prop
  | .complete => False
  | .abandoned n => n = received
  | .failed e => e.isLinkFailure = true
  | .stalled => True

/-- What a gathering does to a script and to a buffer of which `filled` bytes are there: what it
reads goes into the buffer, and it is complete exactly when that makes up `target` bytes. -/
structure Gathering.Fills (g : Gathering) (target : Nat) (steps : List ReadStep)
    (buffer : Bytes) (filled : Nat) : Prop where
  pending : ∀ ending, (⟨steps, ending⟩ : InputStream).pending =
    g.transcript.consumed ++ (⟨g.steps, ending⟩ : InputStream).pending
  buffer : g.buffer = buffer.overwrite filled g.transcript.consumed
  result : g.result = .complete ∧ filled + g.transcript.consumed.length = target ∨
    g.result.Broken (filled + g.transcript.consumed.length) ∧
      filled + g.transcript.consumed.length < target

namespace Gathering.Fills

variable {g : Gathering} {target filled : Nat} {steps rest : List ReadStep} {buffer : Bytes}

/-- A gathering that has read no byte. -/
theorem of_consumed_eq_nil (hconsumed : g.transcript.consumed = [])
    (hpending : ∀ ending, (⟨steps, ending⟩ : InputStream).pending =
      (⟨g.steps, ending⟩ : InputStream).pending)
    (hbuffer : g.buffer = buffer)
    (hresult : g.result = .complete ∧ filled = target ∨ g.result.Broken filled ∧ filled < target) :
    g.Fills target steps buffer filled where
  pending := fun ending => by rw [hconsumed, List.nil_append, hpending]
  buffer := by rw [hconsumed, Bytes.overwrite_nil, hbuffer]
  result := by simpa [hconsumed] using hresult

/-- A gathering that is complete has read just what was lacking. -/
theorem length_of_complete (h : g.Fills target steps buffer filled)
    (hresult : g.result = .complete) : filled + g.transcript.consumed.length = target := by
  rcases h.result with ⟨-, hcount⟩ | ⟨hbroken, -⟩
  · exact hcount
  · rw [hresult] at hbroken
    exact absurd hbroken id

/-- A chunk read before the others stands before them in the buffer. -/
theorem after_chunk {chunk : Bytes} (room : Nat) (hfilled : filled ≤ buffer.length)
    (h : g.Fills target rest (buffer.overwrite filled chunk) (filled + chunk.length)) :
    (g.after [.read room (.bytes chunk)]).Fills target (.data chunk :: rest) buffer filled where
  pending := fun ending => by
    rw [InputStream.pending_data, h.pending ending, ← List.append_assoc]
    rfl
  buffer := by
    show g.buffer = buffer.overwrite filled (chunk ++ g.transcript.consumed)
    rw [h.buffer, Bytes.overwrite_append _ _ _ _ hfilled]
  result := by
    show g.result = .complete ∧ filled + (chunk ++ g.transcript.consumed).length = target ∨
      g.result.Broken (filled + (chunk ++ g.transcript.consumed).length) ∧
        filled + (chunk ++ g.transcript.consumed).length < target
    rw [List.length_append, ← Nat.add_assoc]
    exact h.result

/-- A failed read before the others changes nothing. -/
theorem after_failure {before : Transcript} (kind : FaultKind) (hbefore : before.consumed = [])
    (h : g.Fills target rest buffer filled) :
    (g.after before).Fills target (.fail kind :: rest) buffer filled := by
  have hconsumed : (g.after before).transcript.consumed = g.transcript.consumed := by
    rw [after, Transcript.consumed_append, hbefore, List.nil_append]
  constructor
  · intro ending
    rw [hconsumed, InputStream.pending_fail, h.pending ending]
    rfl
  · rw [hconsumed]
    exact h.buffer
  · rw [hconsumed]
    exact h.result

end Gathering.Fills

/-- Waiting on a line that stays quiet reads nothing. One more answer is put in front of what
happens, and no byte with it. -/
theorem waitQuiet_fills (target : Nat) (buffer : Bytes) (filled n : Nat) (h : filled < target) :
    (waitQuiet target buffer filled n).Fills target [] buffer filled := by
  induction n with
  | zero => exact .of_consumed_eq_nil rfl (fun _ => rfl) rfl (.inr ⟨rfl, h⟩)
  | succ n ih =>
    have hconsumed : (waitQuiet target buffer filled (n + 1)).transcript.consumed =
        (waitQuiet target buffer filled n).transcript.consumed := by
      simp [waitQuiet, Gathering.after, Ending.outcome]
    exact ⟨fun ending => hconsumed ▸ ih.pending ending, hconsumed ▸ ih.buffer,
      hconsumed ▸ ih.result⟩

/-- **Gathering fills the buffer with what the stream gives.** -/
theorem gather_fills (ending : Ending) (target : Nat) (steps : List ReadStep) (buffer : Bytes)
    (filled : Nat) (patience : Patience) (hfilled : filled ≤ target)
    (hbuffer : buffer.length = target) :
    (gather ending target steps buffer filled patience).Fills target steps buffer filled := by
  fun_induction gather ending target steps buffer filled patience with
  | case1 steps buffer filled patience hfull =>
    exact .of_consumed_eq_nil rfl (fun _ => rfl) rfl (.inl ⟨rfl, Nat.le_antisymm hfilled hfull⟩)
  -- Nothing more is read: the stream has ended or stays quiet before the buffer is full.
  | case2 buffer filled patience hlack room hend =>
    exact .of_consumed_eq_nil rfl (fun _ => rfl) rfl (.inr ⟨rfl, Nat.not_le.1 hlack⟩)
  | case3 buffer filled patience hlack room hend =>
    exact .of_consumed_eq_nil rfl (fun _ => rfl) rfl (.inr ⟨rfl, Nat.not_le.1 hlack⟩)
  | case4 buffer filled hlack hend =>
    exact .of_consumed_eq_nil rfl (fun _ => rfl) rfl (.inr ⟨trivial, Nat.not_le.1 hlack⟩)
  | case5 buffer filled hlack hend n =>
    exact waitQuiet_fills target buffer filled n (Nat.not_le.1 hlack)
  | case6 buffer filled patience hlack room rest =>
    exact .of_consumed_eq_nil rfl (fun _ => rfl) rfl (.inr ⟨rfl, Nat.not_le.1 hlack⟩)
  | case7 buffer filled patience hlack room chunk rest hchunk hfits ih =>
    -- The chunk fits: it is in the buffer now, and what is read later goes behind it.
    have hroom : chunk.length ≤ target - filled := List.drop_eq_nil_iff.1 hfits
    refine .after_chunk room (by omega) (ih (by omega) ?_)
    rw [Bytes.length_overwrite _ _ _ (by omega), hbuffer]
  | case8 buffer filled patience hlack room chunk rest hchunk hlong =>
    -- The chunk is longer than the room: the rest of it stays in the script.
    have hroom : target - filled < chunk.length := by
      rw [List.drop_eq_nil_iff] at hlong
      exact Nat.not_le.1 hlong
    refine ⟨fun ending => ?_, ?_, .inl ⟨rfl, ?_⟩⟩
    · rw [InputStream.pending_data, InputStream.pending_data, ← List.append_assoc]
      simp
    · simp
    · simp
      omega
  -- A read that is made again, or waited through, leaves the buffer as it is.
  | case9 buffer filled patience hlack room rest read ih =>
    exact .after_failure _ rfl (ih hfilled hbuffer)
  | case10 buffer filled hlack room kind rest read hkind hquiet =>
    exact .of_consumed_eq_nil rfl (fun _ => rfl) rfl (.inr ⟨rfl, Nat.not_le.1 hlack⟩)
  | case11 buffer filled hlack room kind rest read hkind hquiet n ih =>
    exact .after_failure _ rfl (ih hfilled hbuffer)
  | case12 buffer filled hlack room kind rest read hkind hquiet ih =>
    exact .after_failure _ rfl (ih hfilled hbuffer)
  -- Any other failure ends the gathering.
  | case13 buffer filled patience hlack room kind rest read hkind hquiet =>
    exact .of_consumed_eq_nil rfl (fun _ => rfl) rfl (.inr ⟨rfl, Nat.not_le.1 hlack⟩)

end ControllerLink
