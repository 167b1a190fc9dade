/-
# Reading to the end of a stream

What a reader that keeps waiting is told of a stream that ends, and what it has
counted then, follows from the pieces that the bytes of the stream fall into.
Pieces know of no reads, so neither chunks nor delays can make a difference.

The steps of the induction are `poll_took`, `next_took` and
`readAll_of_harmless`: a poll takes at most one piece, a read takes pieces up to
the first that is no dropped byte, and reading to the end takes all pieces.
`Poll.Took` is what all three keep, and it is transitive.
-/
import ControllerLink.Proofs.Delivery

set_option autoImplicit false

namespace ControllerLink

/-- What the caller is told of a byte string: what comes of its pieces, the dropped bytes left
out. -/
def Packet.Config.results (c : Packet.Config) (bytes : Bytes) : List Polled :=
  (c.outcomes bytes).filter (· ≠ .idle)

/-- A result that concerns a packet, and neither the stream nor the caller. -/
def Polled.OfPacket : Polled → Prop
  | .frame _ => True
  | .failed e => e.IsRefusal
  | .idle | .stalled => False

/-- What comes of a piece that is not a dropped byte concerns a packet. -/
theorem Piece.ofPacket {c : Packet.Config} {piece : Bytes} {o : Polled} (h : Piece c piece o)
    (ho : o ≠ .idle) : o.OfPacket := by
  rcases h.outcome_cases with hidle | ⟨f, rfl⟩ | ⟨e, rfl, he⟩
  · exact absurd hidle ho
  · exact trivial
  · exact he

/-- All that comes of a byte string comes of its pieces. -/
theorem Packet.Config.exists_piece_of_mem_outcomes {c : Packet.Config} {bytes : Bytes} {o : Polled}
    (ho : o ∈ c.outcomes bytes) : ∃ piece, Piece c piece o := by
  obtain ⟨front, rest, -, hcuts, -⟩ := c.exists_cuts bytes
  obtain ⟨-, piece, -, -, hpiece⟩ := hcuts.exists_piece ho
  exact ⟨piece, hpiece⟩

/-- All that is told of a byte string concerns packets. -/
theorem Packet.Config.ofPacket_of_mem_results (c : Packet.Config) (bytes : Bytes) {o : Polled}
    (ho : o ∈ c.results bytes) : o.OfPacket := by
  obtain ⟨hmem, hidle⟩ := List.mem_filter.1 ho
  obtain ⟨piece, hpiece⟩ := exists_piece_of_mem_outcomes hmem
  exact hpiece.ofPacket (by simpa using hidle)

namespace Packet.Config

variable {c : Config}

/-- What comes of whole pieces is told first, whatever stands behind them. -/
theorem results_append_of_cuts {s : Bytes} {os : List Polled} (h : Cuts c s os) (rest : Bytes) :
    c.results (s ++ rest) = os.filter (· ≠ .idle) ++ c.results rest := by
  rw [results, outcomes_append_of_cuts h, List.filter_append, results]

/-- Nothing is told of bytes without a start marker. -/
theorem results_append_of_notMem {s : Bytes} (hs : c.start ∉ s) (rest : Bytes) :
    c.results (s ++ rest) = c.results rest := by
  rw [results_append_of_cuts (.of_notMem hs), Polled.filter_replicate_idle, List.nil_append]

/-- Bytes without a start marker have no results: all of them are dropped. -/
theorem results_of_notMem {s : Bytes} (hs : c.start ∉ s) : c.results s = [] := by
  have hnil : c.results [] = [] := by
    rw [results, outcomes_nil, List.filter_nil]
  rw [← List.append_nil s, results_append_of_notMem hs, hnil]

end Packet.Config

/-- The frame of a packet is told first, whatever stands behind the packet. -/
theorem Parcel.results_append {c : Packet.Config} (p : Parcel c) (rest : Bytes) :
    c.results (p.bytes ++ rest) = .frame p.frame :: c.results rest := by
  rw [Packet.Config.results_append_of_cuts (.single p.piece), List.filter_cons_of_pos (by simp)]
  rfl

/-- Of packets behind each other just their frames are told. -/
theorem Parcel.results_flatMap {c : Packet.Config} (packets : List (Parcel c)) :
    c.results (packets.flatMap bytes) = packets.map fun p => .frame p.frame := by
  rw [Packet.Config.results, Packet.Config.outcomes_of_cuts (Parcel.cuts_flatMap packets)]
  simp

/-! ## What polls and reads take off a stream -/

/-- `p.Took r input os`: from the reader `r` and the stream `input` on, just the pieces of which
`os` comes were taken and counted, and what is left is a harmless script that ends. -/
structure Poll.Took (p : Poll) (r : Reader) (input : InputStream) (os : List Polled) : Prop where
  config : p.reader.config = r.config
  ending : p.input.ending = .closed
  harmless : ∀ step ∈ p.input.steps, step.Harmless
  outcomes : r.config.outcomes input.pending = os ++ r.config.outcomes p.input.pending
  stats : p.reader.stats = os.foldl .count r.stats

namespace Poll.Took

/-- What two polls in turn take. -/
theorem trans {p q : Poll} {r : Reader} {input : InputStream} {os os' : List Polled}
    (hp : p.Took r input os) (hq : q.Took p.reader p.input os') : q.Took r input (os ++ os') where
  config := hq.config.trans hp.config
  ending := hq.ending
  harmless := hq.harmless
  outcomes := by
    have hlater := hq.outcomes
    rw [hp.config] at hlater
    rw [hp.outcomes, hlater, List.append_assoc]
  stats := by rw [hq.stats, hp.stats, List.foldl_append]

end Poll.Took

namespace Reader

/-- A poll when nothing is left of the script finds the end of the stream. -/
theorem poll_of_steps_eq_nil (r : Reader) (patience : Patience) :
    (r.poll ⟨[], .closed⟩ patience).outcome = .failed .closed := rfl

/-- **What a poll takes**: a piece, or nothing, and then either some of the script was left or the
stream has ended with no whole piece in it. -/
theorem poll_took (r : Reader) {input : InputStream} (hending : input.ending = .closed)
    (hsteps : ∀ step ∈ input.steps, step.Harmless) :
    ((r.poll input none).Took r input [(r.poll input none).outcome] ∧
        ∃ piece, Piece r.config piece (r.poll input none).outcome) ∨
      (r.poll input none).Took r input [] ∧
        ((r.poll input none).outcome = .idle ∨ (r.poll input none).outcome = .failed .closed ∧
          r.config.outcomes input.pending = []) := by
  obtain ⟨steps, ending⟩ := input
  subst hending
  have hconfig := r.config_poll ⟨steps, .closed⟩ none
  have hclosed := r.ending_poll ⟨steps, .closed⟩ none
  have hadvances := r.poll_advances (@Stops.used .closed) steps hsteps
  rw [List.append_nil] at hadvances
  generalize r.poll ⟨steps, .closed⟩ none = p at *
  obtain ⟨outcome, reader, ⟨script, ending⟩, transcript⟩ := p
  subst hclosed
  -- It waited, it took a piece, or the stream has ended within one.
  rcases hadvances with ⟨later, hlater, hscript, hidle, hstats, hbytes⟩ |
    ⟨later, hlater, hscript, piece, hpiece, hstats, hbytes⟩ |
    ⟨hscript, houtcome, hstats, hcut, -⟩
  · rw [List.append_nil] at hscript
    subst hscript
    refine .inr ⟨⟨hconfig, rfl, hlater, ?_, hstats⟩, .inl hidle⟩
    rw [List.nil_append, hbytes]
  · rw [List.append_nil] at hscript
    subst hscript
    refine .inl ⟨⟨hconfig, rfl, hlater, ?_, hstats⟩, piece, hpiece⟩
    rw [hbytes, Packet.Config.outcomes_append_of_piece hpiece, List.singleton_append]
  · subst hscript
    have hnone := Packet.Config.outcomes_of_cut_eq_none hcut
    refine .inr ⟨⟨hconfig, rfl, by simp, ?_, hstats⟩, .inr ⟨houtcome, hnone⟩⟩
    rw [hnone, InputStream.pending_nil, Packet.Config.outcomes_nil, List.append_nil]

/-- **What a read takes**: dropped bytes and then one piece of another kind, or all that is left,
and then the stream has ended. -/
theorem next_took (r : Reader) {input : InputStream} (hending : input.ending = .closed)
    (hsteps : ∀ step ∈ input.steps, step.Harmless) :
    ∃ os, (r.next input).Took r input os ∧
      ((os.filter (· ≠ .idle) = [(r.next input).outcome] ∧
          (r.next input).outcome.OfPacket) ∨
        os.filter (· ≠ .idle) = [] ∧ (r.next input).outcome = .failed .closed ∧
          r.config.outcomes (r.next input).input.pending = []) := by
  fun_induction next r input with
  | case1 r input p hidle hdone =>
    -- With nothing left of the script a poll finds the end of the stream and is not idle.
    have hinput : input = ⟨[], .closed⟩ := by
      rw [← hdone, ← hending]
    rw [show p = r.poll ⟨[], .closed⟩ none by rw [← hinput], poll_of_steps_eq_nil] at hidle
    exact absurd hidle (by simp)
  | case2 r input p hidle hmore q ih =>
    -- An idle poll has dropped a byte or has taken nothing.
    obtain ⟨os, hos⟩ : ∃ os, p.Took r input os ∧ os.filter (· ≠ .idle) = [] := by
      rcases r.poll_took hending hsteps with ⟨htook, -⟩ | ⟨htook, -⟩
      · exact ⟨_, htook, List.filter_cons_of_neg (by simpa using hidle)⟩
      · exact ⟨_, htook, rfl⟩
    obtain ⟨htook, hnone⟩ := hos
    obtain ⟨os', htook', hlast⟩ := ih htook.ending htook.harmless
    refine ⟨os ++ os', htook.trans ⟨htook'.config, htook'.ending, htook'.harmless,
      htook'.outcomes, htook'.stats⟩, ?_⟩
    rw [List.filter_append, hnone, List.nil_append, ← htook.config]
    exact hlast
  | case3 r input p hidle =>
    rcases r.poll_took hending hsteps with
      ⟨htook, piece, hpiece⟩ | ⟨htook, hquiet | ⟨houtcome, hnone⟩⟩
    · exact ⟨_, htook, .inl ⟨List.filter_cons_of_pos (by simpa using hidle), hpiece.ofPacket hidle⟩⟩
    · exact absurd hquiet hidle
    · refine ⟨_, htook, .inr ⟨rfl, houtcome, ?_⟩⟩
      rw [← hnone, htook.outcomes, List.nil_append]

/-! ## All reads in turn -/

/-- **The results follow from the bytes**: over a harmless script that ends, reads give what comes
of the pieces of its bytes and then the end of the stream, and the reader has counted just
these. -/
theorem readAll_of_harmless (r : Reader) (input : InputStream) (hending : input.ending = .closed)
    (hsteps : ∀ step ∈ input.steps, step.Harmless) :
    (r.readAll input).1 = r.config.results input.pending ++ [.failed .closed] ∧
      (r.readAll input).2.stats = (r.config.outcomes input.pending).foldl .count r.stats := by
  fun_induction readAll r input with
  | case1 r input p hover =>
    obtain ⟨os, htook, ⟨hos, hpacket⟩ | ⟨hos, houtcome, hnone⟩⟩ := r.next_took hending hsteps
    · -- A result that concerns a packet ends nothing, and an empty script holds no packet.
      exfalso
      rcases hover with hclosed | hstalled | hdone
      · rw [show (r.next input).outcome = _ from hclosed] at hpacket
        exact hpacket
      · rw [show (r.next input).outcome = _ from hstalled] at hpacket
        exact hpacket
      -- The read has found the end: all pieces were dropped bytes, and no whole one is left.
      · have houtcomes := htook.outcomes
        rw [InputStream.pending, hdone, List.flatMap_nil, Packet.Config.outcomes_nil] at houtcomes
        rw [(List.append_eq_nil_iff.1 houtcomes.symm).1] at hos
        exact absurd hos (by simp)
    · have houtcomes := htook.outcomes
      rw [hnone, List.append_nil] at houtcomes
      constructor
      · rw [Packet.Config.results, houtcomes, hos, List.nil_append]
        exact congrArg (fun o => [o]) houtcome
      · rw [houtcomes]
        exact htook.stats
  | case2 r input p hover later last hlater ih =>
    obtain ⟨os, htook, ⟨hos, hpacket⟩ | ⟨hos, houtcome, hnone⟩⟩ := r.next_took hending hsteps
    · obtain ⟨hresults, hstats⟩ := ih htook.ending htook.harmless
      rw [hlater] at hresults hstats
      rw [show p.reader.config = r.config from htook.config] at hresults hstats
      -- The pieces of this read come first, then those of the reads behind it.
      rw [Packet.Config.results, htook.outcomes, List.filter_append, hos, List.foldl_append,
        ← htook.stats]
      refine ⟨?_, hstats⟩
      rw [List.singleton_append, List.cons_append]
      exact congrArg _ hresults
    · exact absurd (.inl houtcome) hover

/-- The results of all reads, when the bytes come by any delivery. -/
theorem readAll_of_delivery (r : Reader) {bytes : Bytes} (d : Delivery bytes) :
    (r.readAll d.input).1 = r.config.results bytes ++ [.failed .closed] ∧
      (r.readAll d.input).2.stats = (r.config.outcomes bytes).foldl .count r.stats := by
  have h := r.readAll_of_harmless d.input rfl d.harmless
  rwa [show d.input.pending = bytes from d.pending] at h

end Reader

/-- **Chunking independence**: however bytes are delivered, all reads together give the same results
as when they come at once, and the same is counted.  The results are those of the pieces of the
bytes, each a frame or the refusal of a packet, and then that the stream has ended. -/
theorem readAll_delivery_eq (config : Packet.Config) {bytes : Bytes} (d : Delivery bytes) :
    ((Reader.make config).readAll d.input).1 =
        ((Reader.make config).readAll (.ofBytes bytes)).1 ∧
      ((Reader.make config).readAll d.input).2.stats =
        ((Reader.make config).readAll (.ofBytes bytes)).2.stats ∧
      ((Reader.make config).readAll (.ofBytes bytes)).1 =
        config.results bytes ++ [.failed .closed] ∧
      ∀ o ∈ config.results bytes, o.OfPacket := by
  obtain ⟨hresults, hstats⟩ := (Reader.make config).readAll_of_delivery d
  obtain ⟨hresults', hstats'⟩ := (Reader.make config).readAll_of_delivery (.whole bytes)
  rw [Delivery.input_whole] at hresults' hstats'
  refine ⟨hresults.trans hresults'.symm, hstats.trans hstats'.symm, hresults', ?_⟩
  intro o ho
  exact config.ofPacket_of_mem_results bytes ho

end ControllerLink
