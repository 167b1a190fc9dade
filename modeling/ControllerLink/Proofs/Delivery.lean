/-
# Chunking independence

A stream may hand over its bytes in pieces of any size, with reads between them
that were interrupted or found the line quiet.  A reader that keeps waiting is
told the same and counts the same as if all bytes came at once, up to where
these reads stop: at a failed read, or at the end of the script.  The proof
compares both with the pieces that the bytes fall into, which know of no reads.

The scripts here are harmless ones with anything behind them, so that the same
lemmas serve a stream that is closed, one that fails, and a port whose line
stays quiet.  A poll over such a script has just three ends (`Poll.Advances`):
it waited, it took a piece of the bytes, or it was stopped where the harmless
reads stop, and then these bytes end within a piece.
-/
import ControllerLink.Proofs.Polling
import ControllerLink.Stream.Session

set_option autoImplicit false

namespace ControllerLink

/-! ## Harmless scripts -/

/-- A step of a script that gives bytes, or only delays those that come. -/
def ReadStep.Harmless : ReadStep → Prop
  | .data bytes => bytes ≠ []
  | .fail kind => kind = .interrupted ∨ kind.isQuiet = true

/-- A way for `bytes` to arrive before the stream ends: cut into chunks that are not empty, with
interrupted and quiet reads anywhere. -/
structure Delivery (bytes : Bytes) where
  steps : List ReadStep
  harmless : ∀ step ∈ steps, step.Harmless
  pending : InputStream.pending ⟨steps, .closed⟩ = bytes

namespace Delivery

/-- The stream of a delivery. -/
def input {bytes : Bytes} (d : Delivery bytes) : InputStream := ⟨d.steps, .closed⟩

/-- All bytes in one chunk, and no delays. -/
def whole (bytes : Bytes) : Delivery bytes where
  steps := (InputStream.ofBytes bytes).steps
  harmless := by
    intro step hstep
    -- No bytes at all are no chunk, rather than an empty one.
    unfold InputStream.ofBytes at hstep
    dsimp only at hstep
    split at hstep
    · exact absurd hstep (by simp)
    · next hbytes =>
      rw [List.mem_singleton] at hstep
      subst hstep
      intro hnil
      exact hbytes (by rw [hnil]; rfl)
  pending := InputStream.pending_ofBytes bytes

theorem input_whole (bytes : Bytes) : (whole bytes).input = .ofBytes bytes := rfl

end Delivery

/-! ## Where harmless reads stop

Behind the harmless part of a script stands a read that no reader gets past, or nothing at all; in
the latter case the end of the stream decides. -/

/-- What keeps a read from giving bytes, now and later. -/
inductive Stop where
  /-- The stream fails. -/
  | failure (e : PacketError)
  /-- The line stays quiet. -/
  | silence
deriving DecidableEq, Repr

/-- What gathering comes to where it is stopped. -/
def Stop.gathered : Stop → Gathered
  | failure e => .failed e
  | silence => .stalled

/-- A stop is never a gathering that is complete. -/
theorem Stop.gathered_ne_complete (s : Stop) : s.gathered ≠ .complete := by
  cases s <;> simp [gathered]

/-- What a poll comes to when it is stopped within a packet. -/
def Stop.polled : Stop → Polled
  | failure e => .failed e
  | silence => .stalled

/-- What stops a poll at the end of a script. -/
def Ending.stop : Ending → Stop
  | closed => .failure .closed
  | quiet => .silence
  | shut => .failure (.stream .notOpen)

/-- `Stops ending tail s rest`: a read with `tail` as the script before it is stopped by `s`, and
leaves `rest` of the script. -/
inductive Stops (ending : Ending) : List ReadStep → Stop → List ReadStep → Prop where
  /-- Nothing is left of the script. -/
  | used : Stops ending [] ending.stop []
  /-- No bytes: the end of the stream. -/
  | empty (rest : List ReadStep) : Stops ending (.data [] :: rest) (.failure .closed) rest
  /-- A failure of any other kind than those that only delay. -/
  | fault {kind : FaultKind} (rest : List ReadStep) (interrupted : kind ≠ .interrupted)
      (quiet : kind.isQuiet = false) :
      Stops ending (.fail kind :: rest) (.failure (.stream (.ofKind kind))) rest

namespace Stops

variable {ending : Ending} {tail rest : List ReadStep} {s : Stop}

/-- What stops a read holds no bytes. -/
theorem pending_eq (h : Stops ending tail s rest) (e : Ending) :
    (⟨tail, e⟩ : InputStream).pending = (⟨rest, e⟩ : InputStream).pending := by
  cases h <;> rfl

/-- A poll that is stopped has broken off within a piece. -/
theorem broken_polled (h : Stops ending tail s rest) (n : Nat) : s.polled.Broken n := by
  cases h with
  | used => cases ending <;> trivial
  | empty => exact rfl
  | fault => exact rfl

/-- A poll that is stopped counts nothing. -/
theorem count_polled (h : Stops ending tail s rest) (stats : ReaderStats) :
    stats.count s.polled = stats := by
  cases h with
  | used => cases ending <;> rfl
  | empty => rfl
  | fault => rfl

/-- A hunt that begins where reads stop finds the stop, unless it is silence. -/
theorem hunt_eq (h : Stops ending tail s rest) :
    (hunt ending tail).steps = rest ∧
      ((tail = [] ∧ rest = [] ∧ (hunt ending tail).result = .quiet) ∨
        ∃ e, s = .failure e ∧ (hunt ending tail).result = .failed e) := by
  cases h with
  | used =>
    cases ending with
    | closed => exact ⟨rfl, .inr ⟨_, rfl, rfl⟩⟩
    | quiet => exact ⟨rfl, .inl ⟨rfl, rfl, rfl⟩⟩
    | shut => exact ⟨rfl, .inr ⟨_, rfl, rfl⟩⟩
  | empty => exact ⟨rfl, .inr ⟨_, rfl, rfl⟩⟩
  | fault rest interrupted quiet =>
    have hquiet := Bool.eq_false_iff.1 quiet
    rw [hunt, if_neg interrupted, if_neg hquiet]
    exact ⟨rfl, .inr ⟨_, rfl, rfl⟩⟩

/-- Gathering that begins where reads stop is stopped. -/
theorem gather_eq (h : Stops ending tail s rest) {target filled : Nat} (hlack : ¬ target ≤ filled)
    (buffer : Bytes) :
    (gather ending target tail buffer filled none).result = s.gathered ∧
      (gather ending target tail buffer filled none).steps = rest ∧
      (gather ending target tail buffer filled none).patience = none := by
  unfold gather
  rw [if_neg hlack]
  cases h with
  | used => cases ending <;> exact ⟨rfl, rfl, rfl⟩
  | empty => exact ⟨rfl, rfl, rfl⟩
  | fault rest interrupted quiet =>
    have hquiet := Bool.eq_false_iff.1 quiet
    dsimp only
    rw [if_neg interrupted, if_neg hquiet]
    exact ⟨rfl, rfl, rfl⟩

end Stops

/-! ## Polls over harmless scripts -/

section

variable {ending : Ending} {tail rest : List ReadStep} {s : Stop}

/-- A hunt over a harmless script stays within it, or is stopped behind it. -/
theorem hunt_of_harmless (hstop : Stops ending tail s rest) (steps : List ReadStep)
    (hs : ∀ step ∈ steps, step.Harmless) :
    (∃ later, (∀ step ∈ later, step.Harmless) ∧
        (hunt ending (steps ++ tail)).steps = later ++ tail ∧
        ∀ e, (hunt ending (steps ++ tail)).result ≠ .failed e) ∨
      (hunt ending (steps ++ tail)).steps = rest ∧
        ∃ e, s = .failure e ∧ (hunt ending (steps ++ tail)).result = .failed e := by
  induction steps with
  | nil =>
    rw [List.nil_append]
    rcases hstop.hunt_eq with ⟨hrest, ⟨rfl, rfl, hquiet⟩ | ⟨e, hfailure, hfailed⟩⟩
    · exact .inl ⟨[], by simp, hrest, by simp [hquiet]⟩
    · exact .inr ⟨hrest, e, hfailure, hfailed⟩
  | cons step steps ih =>
    obtain ⟨hstep, hsteps⟩ := List.forall_mem_cons.1 hs
    rw [List.cons_append]
    rcases step with (_ | ⟨b, bs⟩) | kind
    · -- An empty chunk would end the stream before its time.
      exact absurd rfl hstep
    · rcases bs with _ | ⟨b', bs⟩
      · exact .inl ⟨steps, hsteps, rfl, by simp [hunt]⟩
      · refine .inl ⟨.data (b' :: bs) :: steps, ?_, rfl, by simp [hunt]⟩
        rw [List.forall_mem_cons]
        exact ⟨by simp [ReadStep.Harmless], hsteps⟩
    · rw [hunt]
      by_cases hinterrupted : kind = .interrupted
      · rw [if_pos hinterrupted]
        exact ih hsteps
      · rw [if_neg hinterrupted, if_pos (hstep.resolve_left hinterrupted)]
        exact .inl ⟨steps, hsteps, rfl, by simp⟩

/-- Gathering from a harmless script with endless patience completes within it, or is stopped
behind it. -/
theorem gather_of_harmless (hstop : Stops ending tail s rest) (target : Nat)
    (steps : List ReadStep) (buffer : Bytes) (filled : Nat)
    (hs : ∀ step ∈ steps, step.Harmless) :
    (gather ending target (steps ++ tail) buffer filled none).patience = none ∧
      (((gather ending target (steps ++ tail) buffer filled none).result = .complete ∧
          ∃ later, (∀ step ∈ later, step.Harmless) ∧
            (gather ending target (steps ++ tail) buffer filled none).steps = later ++ tail) ∨
        (gather ending target (steps ++ tail) buffer filled none).result = s.gathered ∧
          (gather ending target (steps ++ tail) buffer filled none).steps = rest) := by
  induction steps generalizing buffer filled with
  | nil =>
    by_cases hlack : target ≤ filled
    · unfold gather
      rw [if_pos hlack]
      exact ⟨rfl, .inl ⟨rfl, [], hs, rfl⟩⟩
    · obtain ⟨hresult, hrest, hpatience⟩ := hstop.gather_eq hlack buffer
      exact ⟨hpatience, .inr ⟨hresult, hrest⟩⟩
  | cons step steps ih =>
    obtain ⟨hstep, hsteps⟩ := List.forall_mem_cons.1 hs
    unfold gather
    by_cases hlack : target ≤ filled
    · rw [if_pos hlack]
      exact ⟨rfl, .inl ⟨rfl, step :: steps, hs, rfl⟩⟩
    rw [if_neg hlack, List.cons_append]
    -- A chunk is put into the buffer, and an interrupted or quiet read is made again.
    rcases step with chunk | kind
    · dsimp only
      rw [if_neg hstep]
      by_cases hfits : chunk.drop (target - filled) = []
      · rw [if_pos hfits]
        exact ih _ _ hsteps
      · -- The chunk is longer than what is lacking: the rest of it stays in the script.
        rw [if_neg hfits]
        refine ⟨rfl, .inl ⟨rfl, .data (chunk.drop (target - filled)) :: steps, ?_, rfl⟩⟩
        rw [List.forall_mem_cons]
        exact ⟨hfits, hsteps⟩
    · dsimp only
      by_cases hinterrupted : kind = .interrupted
      · rw [if_pos hinterrupted]
        exact ih _ _ hsteps
      · rw [if_neg hinterrupted, if_pos (hstep.resolve_left hinterrupted)]
        exact ih _ _ hsteps

/-- `p.RunsOut tail s rest`: the poll stayed within a harmless script before `tail` and broke off
nowhere, or it was stopped behind that script. -/
inductive Poll.RunsOut (p : Poll) (tail : List ReadStep) (s : Stop) (rest : List ReadStep) :
    Prop where
  | within (later : List ReadStep) (harmless : ∀ step ∈ later, step.Harmless)
      (steps : p.input.steps = later ++ tail) (whole : ∀ n, ¬ p.outcome.Broken n)
  | stopped (steps : p.input.steps = rest) (outcome : p.outcome = s.polled)

/-- `p.Advances r steps tail s rest`: from the reader `r` on, over harmless `steps` and `tail`
behind them, the poll waited, or took a piece of their bytes and counted it, or was stopped because
their bytes end within a piece. -/
inductive Poll.Advances (p : Poll) (r : Reader) (steps tail : List ReadStep) (s : Stop)
    (rest : List ReadStep) : Prop where
  | waited (later : List ReadStep) (harmless : ∀ step ∈ later, step.Harmless)
      (script : p.input.steps = later ++ tail) (outcome : p.outcome = .idle)
      (stats : p.reader.stats = r.stats)
      (bytes : (⟨later, .closed⟩ : InputStream).pending = (⟨steps, .closed⟩ : InputStream).pending)
  | took (later : List ReadStep) (harmless : ∀ step ∈ later, step.Harmless)
      (script : p.input.steps = later ++ tail) (piece : Bytes)
      (isPiece : Piece r.config piece p.outcome)
      (stats : p.reader.stats = r.stats.count p.outcome)
      (bytes : (⟨steps, .closed⟩ : InputStream).pending =
        piece ++ (⟨later, .closed⟩ : InputStream).pending)
  | stopped (script : p.input.steps = rest) (outcome : p.outcome = s.polled)
      (stats : p.reader.stats = r.stats)
      (cut : r.config.cut (⟨steps, .closed⟩ : InputStream).pending = none)
      (begun : s = .silence → (⟨steps, .closed⟩ : InputStream).pending ≠ [])

/-- Nothing that comes of a piece is broken off. -/
theorem Piece.not_broken {c : Packet.Config} {piece : Bytes} {o : Polled} (h : Piece c piece o)
    (n : Nat) : ¬ o.Broken n := by
  intro hbroken
  rcases h.outcome_cases with rfl | ⟨f, rfl⟩ | ⟨e, rfl, he⟩
  · exact hbroken
  · exact hbroken
  · cases e with
    | headerChecksum | packetChecksum | payloadTooLarge =>
      exact absurd hbroken (by simp [Polled.Broken, PacketError.isLinkFailure])
    | _ => exact he

namespace Reader

/-- Giving up where gathering is stopped. -/
theorem giveUp_of_gathered (r : Reader) (target : Nat) (g : Gathering)
    (hresult : g.result = s.gathered) : (r.giveUp target ending g).outcome = s.polled := by
  unfold giveUp
  rw [hresult]
  cases s <;> rfl

/-- A body for which harmless reads do not give enough ends where they stop. -/
theorem pollBody_runsOut {r : Reader} {h : Header} (hs : h.start = r.config.start)
    (hv : h.isValid = true) (hfit : h.length.toNat ≤ r.config.maxPayload)
    (hbuffer : r.buffer = h.toBytes) (hstop : Stops ending tail s rest) (steps : List ReadStep)
    (hsteps : ∀ step ∈ steps, step.Harmless) :
    (r.pollBody h ⟨steps ++ tail, ending⟩ none).RunsOut tail s rest := by
  obtain ⟨-, hend⟩ := gather_of_harmless hstop h.packetSize steps
    (r.buffer.resize h.packetSize) Header.size hsteps
  rw [show gather ending h.packetSize (steps ++ tail) (r.buffer.resize h.packetSize) Header.size
    none = r.bodyGathering h ⟨steps ++ tail, ending⟩ none from rfl] at hend
  rcases pollBody_cases hbuffer ⟨steps ++ tail, ending⟩ none with
    ⟨hresult, hpoll⟩ | ⟨hresult, packet, reader, rfl, hlen, -, -, hpoll⟩
  · rw [hpoll]
    -- Gathering the body was not complete, so it was stopped.
    rcases hend with ⟨hcomplete, -⟩ | ⟨hgathered, hrest⟩
    · exact absurd hcomplete hresult
    · exact .stopped hrest (giveUp_of_gathered _ _ _ hgathered)
  · rw [hpoll]
    rcases hend with ⟨-, later, hlater, heq⟩ | ⟨hgathered, -⟩
    · have hpiece := Piece.packet hs hv hfit (List.take_left' rfl) hlen
      exact .within later hlater heq hpiece.not_broken
    · exact absurd (hgathered.symm.trans hresult) s.gathered_ne_complete

/-- Behind a start marker the header or the body may be cut short by the stop. -/
theorem pollLocked_runsOut (r : Reader) (hstop : Stops ending tail s rest)
    (steps : List ReadStep) (hsteps : ∀ step ∈ steps, step.Harmless) :
    (r.pollLocked ⟨steps ++ tail, ending⟩ none).RunsOut tail s rest := by
  obtain ⟨hpatience, hend⟩ := gather_of_harmless hstop Header.size steps r.cleared 1 hsteps
  rw [show gather ending Header.size (steps ++ tail) r.cleared 1 none =
    r.headerGathering ⟨steps ++ tail, ending⟩ none from rfl] at hpatience hend
  rcases r.pollLocked_cases ⟨steps ++ tail, ending⟩ none with ⟨hresult, hpoll⟩ |
    ⟨hresult, h, hs, hbytes, hjudged⟩
  · rw [hpoll]
    rcases hend with ⟨hcomplete, -⟩ | ⟨hgathered, hrest⟩
    · exact absurd hcomplete hresult
    · exact .stopped hrest (giveUp_of_gathered _ _ _ hgathered)
  -- The header came whole from the harmless reads, and the body is gathered from those left over.
  rcases hend with ⟨-, later, hlater, heq⟩ | ⟨hgathered, -⟩
  · rcases hjudged with ⟨e, reader, hpiece, -, -, hpoll⟩ |
      ⟨hv, hfit, reader, hconfig, -, hbuffer, hpoll⟩
    · rw [hpoll]
      exact .within later hlater heq hpiece.not_broken
    · rw [hpoll, hpatience, heq]
      rcases pollBody_runsOut (hs.trans (by rw [hconfig])) hv (by rwa [hconfig]) hbuffer hstop
        later hlater with ⟨later', hlater', heq', hwhole⟩ | ⟨hrest, houtcome⟩
      · exact .within later' hlater' heq' hwhole
      · exact .stopped hrest houtcome
  · exact absurd (hgathered.symm.trans hresult) s.gathered_ne_complete

/-- **A poll over a harmless script breaks off nowhere within it**, but only where reads stop. -/
theorem poll_runsOut (r : Reader) (hstop : Stops ending tail s rest) (steps : List ReadStep)
    (hsteps : ∀ step ∈ steps, step.Harmless) :
    (r.poll ⟨steps ++ tail, ending⟩ none).RunsOut tail s rest := by
  unfold poll
  dsimp only
  rcases hunt_of_harmless hstop steps hsteps with ⟨later, hlater, heq, hfound⟩ |
    ⟨hrest, e, rfl, hfailed⟩
  -- What the hunt left of the script is still harmless, and the packet is gathered from that.
  · split
    · exact .within later hlater heq fun n hbroken => hbroken
    · next e he => exact absurd he (hfound e)
    · split
      · rw [heq]
        rcases pollLocked_runsOut { r with unlockedRun := 0 } hstop later hlater with
          ⟨later', hlater', heq', hwhole⟩ | ⟨hrest, houtcome⟩
        · exact .within later' hlater' heq' hwhole
        · exact .stopped hrest houtcome
      · exact .within later hlater heq fun n hbroken => hbroken
  · rw [hfailed]
    exact .stopped hrest rfl

/-- **What a poll over a harmless script does** follows from the bytes of the script. -/
theorem poll_advances (r : Reader) (hstop : Stops ending tail s rest) (steps : List ReadStep)
    (hsteps : ∀ step ∈ steps, step.Harmless) :
    (r.poll ⟨steps ++ tail, ending⟩ none).Advances r steps tail s rest := by
  have hstalled := @consumed_ne_nil_of_stalled r ⟨steps ++ tail, ending⟩ none
  have hpending := r.pending_poll ⟨steps ++ tail, ending⟩ none
  have hruns := r.poll_runsOut hstop steps hsteps
  have hcases := r.poll_cases ⟨steps ++ tail, ending⟩ none
  generalize r.poll ⟨steps ++ tail, ending⟩ none = p at *
  rcases hruns with ⟨later, hlater, heq, hwhole⟩ | ⟨hrest, houtcome⟩
  · -- What is behind the script has not been touched.
    have hbytes : (⟨steps, .closed⟩ : InputStream).pending =
        p.transcript.consumed ++ (⟨later, .closed⟩ : InputStream).pending := by
      have hall : (⟨steps, .closed⟩ : InputStream).pending ++
          (⟨tail, .closed⟩ : InputStream).pending =
            p.transcript.consumed ++ (⟨later, .closed⟩ : InputStream).pending ++
              (⟨tail, .closed⟩ : InputStream).pending := by
        rw [List.append_assoc, ← InputStream.pending_append, ← InputStream.pending_append, ← heq]
        exact hpending
      exact List.append_cancel_right hall
    rcases hcases with ⟨hidle, hreader, hconsumed, -, -⟩ | h
    · rw [hconsumed, List.nil_append] at hbytes
      exact .waited later hlater heq hidle (by rw [hreader]) hbytes.symm
    · rcases h.result with hpiece | ⟨-, hbroken⟩
      · exact .took later hlater heq _ hpiece h.stats hbytes
      · exact absurd hbroken (hwhole _)
  -- Everything before the stop was read, so the bytes of the harmless reads end within a piece.
  · have hbytes : (⟨steps, .closed⟩ : InputStream).pending = p.transcript.consumed := by
      have hall : (⟨steps, .closed⟩ : InputStream).pending ++
          (⟨tail, .closed⟩ : InputStream).pending =
            p.transcript.consumed ++ (⟨tail, .closed⟩ : InputStream).pending := by
        rw [← InputStream.pending_append, hstop.pending_eq, ← hrest]
        exact hpending
      exact List.append_cancel_right hall
    rcases hcases with ⟨hidle, -⟩ | h
    · exact absurd (hidle.symm.trans houtcome) (by cases s <;> simp [Stop.polled])
    · have hstats := h.stats
      rw [houtcome, hstop.count_polled] at hstats
      rcases h.result with hpiece | ⟨hcut, -⟩
      · rw [houtcome] at hpiece
        exact absurd (hstop.broken_polled 0) (hpiece.not_broken 0)
      · refine .stopped hrest houtcome hstats (hbytes ▸ hcut) ?_
        rintro rfl
        rw [hbytes]
        exact hstalled houtcome

end Reader

end

end ControllerLink
