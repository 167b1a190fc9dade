/-
# Frames are blocks of the stream

Whatever is asked of a reader and however its stream behaves, a frame that it
returns is the image of an encoded packet, and that image is what one poll read.
Since polls read one behind the other, bytes read before a poll that failed have
no part in a later frame.

A session is any row of calls, each with the patience or the limit it is made
with.  Its transcripts put together are the bytes that it took, in order and
without a gap (`pending_session`); each frame owns the bytes of one poll
(`encode_of_poll`), and two polls own none in common.
-/
import ControllerLink.Proofs.Polling
import ControllerLink.Stream.Session

set_option autoImplicit false

namespace ControllerLink

namespace Reader

/-! ## Single polls -/

/-- A poll that gives a frame has read its packet, as the encoder writes it, and nothing else. -/
theorem encode_of_poll {r : Reader} {input : InputStream} {patience : Patience} {f : Frame}
    (hframe : (r.poll input patience).outcome = .frame f) :
    Packet.encode r.config.start f.id f.payload =
        .ok (r.poll input patience).transcript.consumed ∧
      f.payload.length ≤ r.config.maxPayload := by
  rcases poll_cases r input patience with ⟨hidle, -⟩ | h
  · exact absurd (hidle.symm.trans hframe) (by simp)
  · have hresult := h.result
    rw [hframe, List.nil_append] at hresult
    rcases hresult with hpiece | ⟨-, hbroken⟩
    · exact Packet.encode_of_piece hpiece
    · exact absurd hbroken id

/-! ## Reads -/

/-- After an idle poll a read goes on where the poll has left the reader and the stream. -/
theorem next_of_idle {r : Reader} {input : InputStream}
    (hidle : (r.poll input none).outcome = .idle) (hmore : input.steps ≠ []) :
    r.next input = { (r.poll input none).reader.next (r.poll input none).input with
      transcript := (r.poll input none).transcript ++
        ((r.poll input none).reader.next (r.poll input none).input).transcript } := by
  rw [next]
  simp only [hidle, hmore, dite_true, dite_false]

/-- Any other poll is the last one of its read. -/
theorem next_of_last {r : Reader} {input : InputStream}
    (hlast : ¬ ((r.poll input none).outcome = .idle ∧ input.steps ≠ [])) :
    (r.next input).reader = (r.poll input none).reader ∧
      (r.next input).input = (r.poll input none).input ∧
      ∀ f, (r.next input).outcome = .frame f → (r.poll input none).outcome = .frame f := by
  rw [next]
  dsimp only
  split
  · next hidle =>
    have hdone : input.steps = [] := by
      by_contra hmore
      exact hlast ⟨hidle, hmore⟩
    rw [dif_pos hdone]
    exact ⟨rfl, rfl, fun f hf => absurd hf (by simp)⟩
  · exact ⟨rfl, rfl, fun f hf => hf⟩

/-- What a read takes off the stream is what its polls take, in their order. -/
theorem pending_next (r : Reader) (input : InputStream) :
    (r.next input).reader.config = r.config ∧
      input.pending = ((r.nextPolls input).flatMap fun p => p.transcript.consumed) ++
        (r.next input).input.pending := by
  fun_induction nextPolls r input with
  | case1 r input p hmore ih =>
    rw [next_of_idle hmore.1 hmore.2]
    refine ⟨ih.1.trans (config_poll r input none), ?_⟩
    rw [List.flatMap_cons, List.append_assoc, ← ih.2]
    exact pending_poll r input none
  | case2 r input p hlast =>
    obtain ⟨hreader, hinput, -⟩ := next_of_last hlast
    rw [hreader, hinput, List.flatMap_singleton]
    exact ⟨config_poll r input none, pending_poll r input none⟩

/-- The packet that a read gives is what the last of its polls read, and the polls before that gave
nothing. An idle poll is not the last one, which is that of the read behind it. -/
theorem last_poll_of_next {r : Reader} {input : InputStream} {f : Frame}
    (hframe : (r.next input).outcome = .frame f) :
    ∃ earlier p, r.nextPolls input = earlier ++ [p] ∧ (∀ q ∈ earlier, q.outcome = .idle) ∧
      p.outcome = .frame f ∧
      Packet.encode r.config.start f.id f.payload = .ok p.transcript.consumed ∧
      f.payload.length ≤ r.config.maxPayload := by
  fun_induction nextPolls r input with
  | case1 r input p hmore ih =>
    rw [next_of_idle hmore.1 hmore.2] at hframe
    obtain ⟨earlier, q, hpolls, hidle, houtcome, hblock⟩ := ih hframe
    rw [config_poll r input none] at hblock
    refine ⟨p :: earlier, q, ?_, ?_, houtcome, hblock⟩
    · rw [hpolls, List.cons_append]
    · intro q' hq'
      rcases List.mem_cons.1 hq' with rfl | hq'
      · exact hmore.1
      · exact hidle q' hq'
  | case2 r input p hlast =>
    have houtcome := (next_of_last hlast).2.2 f hframe
    exact ⟨[], p, rfl, by simp, houtcome, encode_of_poll houtcome⟩

end Reader

/-! ## Sessions -/

/-- `Embeds start frames bytes`: the packets of `frames`, each as the encoder writes it, stand in
`bytes` in this order, none reaching into another, with any bytes before, between and behind. -/
inductive Embeds (start : UInt8) : List Frame → Bytes → Prop where
  | nil (bytes : Bytes) : Embeds start [] bytes
  | cons {f : Frame} {frames : List Frame} {block rest : Bytes} (gap : Bytes)
      (hblock : Packet.encode start f.id f.payload = .ok block)
      (hrest : Embeds start frames rest) : Embeds start (f :: frames) (gap ++ block ++ rest)

namespace Embeds

variable {start : UInt8} {frames : List Frame} {bytes : Bytes}

/-- Bytes in front change nothing. -/
theorem append_left (front : Bytes) (h : Embeds start frames bytes) :
    Embeds start frames (front ++ bytes) := by
  cases h with
  | nil => exact nil _
  | cons gap hblock hrest =>
    rw [← List.append_assoc, ← List.append_assoc]
    exact cons (front ++ gap) hblock hrest

end Embeds

namespace CallRecord

/-- A call whose frame, if it gave one, is what its last poll read: the image of the encoder, with
a payload that is not too long, and polls before it that gave nothing. -/
def FrameIsBlock (start : UInt8) (record : CallRecord) : Prop :=
  ∀ f, record.outcome = some (.frame f) →
    ∃ earlier p, record.polls = earlier ++ [p] ∧ (∀ q ∈ earlier, q.outcome = .idle) ∧
      p.outcome = .frame f ∧ Packet.encode start f.id f.payload = .ok p.transcript.consumed ∧
      f.payload.length ≤ record.limit

end CallRecord

namespace Reader

/-- The calls of a session take bytes off the stream one behind the other. -/
theorem pending_session (calls : List ReaderCall) (r : Reader) (input : InputStream) :
    ∃ rest, input.pending = (r.session input calls).flatMap CallRecord.consumed ++ rest := by
  induction calls generalizing r input with
  | nil => exact ⟨input.pending, rfl⟩
  | cons call calls ih =>
    -- A poll and a read take bytes, and a new limit takes none.
    cases call with
    | poll patience =>
      obtain ⟨rest, hrest⟩ := ih (r.poll input patience).reader (r.poll input patience).input
      refine ⟨rest, ?_⟩
      rw [session, List.flatMap_cons, CallRecord.consumed, List.flatMap_singleton,
        List.append_assoc, ← hrest]
      exact pending_poll r input patience
    | read =>
      obtain ⟨rest, hrest⟩ := ih (r.next input).reader (r.next input).input
      refine ⟨rest, ?_⟩
      rw [session, List.flatMap_cons, CallRecord.consumed, List.append_assoc, ← hrest]
      exact (pending_next r input).2
    | setMaxPayload max =>
      obtain ⟨rest, hrest⟩ := ih (r.withMaxPayload max) input
      exact ⟨rest, hrest⟩

/-- Every frame of a session is a block that one poll read. -/
theorem frameIsBlock_session (calls : List ReaderCall) (r : Reader) (input : InputStream) :
    ∀ record ∈ r.session input calls, record.FrameIsBlock r.config.start := by
  induction calls generalizing r input with
  | nil => intro record hrecord; exact absurd hrecord (by simp [session])
  | cons call calls ih =>
    intro record hrecord
    cases call with
    | poll patience =>
      rw [session, List.mem_cons] at hrecord
      rcases hrecord with rfl | hrecord
      · intro f hf
        have houtcome : (r.poll input patience).outcome = .frame f := Option.some.inj hf
        exact ⟨[], _, rfl, by simp, houtcome, encode_of_poll houtcome⟩
      · rw [← config_poll r input patience]
        exact ih _ _ record hrecord
    | read =>
      rw [session, List.mem_cons] at hrecord
      rcases hrecord with rfl | hrecord
      · intro f hf
        exact last_poll_of_next (Option.some.inj hf)
      · rw [← (pending_next r input).1]
        exact ih _ _ record hrecord
    | setMaxPayload max =>
      rw [session, List.mem_cons] at hrecord
      rcases hrecord with rfl | hrecord
      · intro f hf
        exact absurd hf (by simp)
      · exact ih (r.withMaxPayload max) input record hrecord

end Reader

/-- Frames that are blocks of what their calls took lie in the stream in the order of the calls. -/
theorem Embeds.of_frameIsBlock {start : UInt8} {records : List CallRecord} (rest : Bytes)
    (h : ∀ record ∈ records, record.FrameIsBlock start) :
    Embeds start (records.filterMap CallRecord.frame?)
      (records.flatMap CallRecord.consumed ++ rest) := by
  induction records with
  | nil => exact .nil _
  | cons record records ih =>
    have hlater := ih fun record' hrecord' => h record' (List.mem_cons_of_mem _ hrecord')
    rw [List.flatMap_cons, List.append_assoc]
    rcases hframe : record.frame? with _ | f
    · rw [List.filterMap_cons_none hframe]
      exact hlater.append_left _
    · rw [List.filterMap_cons_some hframe]
      -- The bytes of the polls before the last one are a gap in front of the packet.
      have houtcome : record.outcome = some (.frame f) := by
        unfold CallRecord.frame? at hframe
        split at hframe
        · next f' hf' => rw [hf', Option.some.inj hframe]
        · exact absurd hframe (by simp)
      obtain ⟨earlier, p, hpolls, -, -, hblock, -⟩ := h record List.mem_cons_self f houtcome
      rw [CallRecord.consumed, hpolls, List.flatMap_append, List.flatMap_singleton]
      exact .cons _ hblock hlater

/-- **No phantom frames.**  Ask anything of a reader in any order, over any stream and with any
patience.  The calls take their bytes off the stream one behind the other; a frame is what the last
poll of its call took, byte for byte the packet that the encoder writes for its id and payload, and
the payload is not longer than was accepted at that call.  So the packets of all frames lie in the
stream in the order of the frames, and no byte that an earlier poll took is part of one. -/
theorem frames_are_blocks (config : Packet.Config) (input : InputStream)
    (calls : List ReaderCall) :
    (∃ rest, input.pending =
        ((Reader.make config).session input calls).flatMap CallRecord.consumed ++ rest) ∧
      (∀ record ∈ (Reader.make config).session input calls, record.FrameIsBlock config.start) ∧
      Embeds config.start (((Reader.make config).session input calls).filterMap CallRecord.frame?)
        input.pending := by
  have hblocks := Reader.frameIsBlock_session calls (.make config) input
  obtain ⟨rest, hrest⟩ := Reader.pending_session calls (.make config) input
  refine ⟨⟨rest, hrest⟩, hblocks, ?_⟩
  rw [hrest]
  exact .of_frameIsBlock rest hblocks

end ControllerLink
