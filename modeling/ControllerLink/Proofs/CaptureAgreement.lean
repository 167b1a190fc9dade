/-
# A capture and a link agree

The same bytes can be received by a station, step by step until the stream ends,
or recorded first and decoded as a capture.  The two go about it in different
ways, but both follow from the pieces that the bytes fall into: the sinks are
told of the same records, and what one counts the other has met as often.

For the capture, the reads of the decoding loop are those of a reader that reads
to the end, and each of their results is told and counted in one step
(`told_take`).  For the link, each step of receiving comes to the next of what
is awaited, and steps are made until the link is lost (`received_until_lost`).
Both are compared in `link_agrees_with_capture`; the bytes that are dropped
between packets leave no trace on either side, so that results are compared with
the idle ones filtered out.
-/
import ControllerLink.Proofs.ReadAll
import ControllerLink.Proofs.Reception
import ControllerLink.Report.Capture

set_option autoImplicit false

namespace ControllerLink

/-! ## Counting what polls come to

A station discards a packet for two causes that a summary tells apart: its payload cannot be
decoded, or the reader refuses it. -/

/-- Idle steps do not matter to a count of others. Filtering leaves out only what is not counted. -/
theorem ReceiveOutcome.countP_eq_of_filter_eq {p : ReceiveOutcome → Bool} (hidle : p .idle = false)
    {os os' : List ReceiveOutcome} (h : os.filter (· ≠ .idle) = os'.filter (· ≠ .idle)) :
    os.countP p = os'.countP p := by
  have hfilter (l : List ReceiveOutcome) : (l.filter (· ≠ .idle)).countP p = l.countP p := by
    rw [List.countP_filter]
    apply List.countP_congr
    intro o _
    by_cases ho : o = .idle
    · simp [ho, hidle]
    · simp [ho]
  rw [← hfilter os, h, hfilter os']

/-- Packets that a reader refused for a checksum or their size. -/
def ReaderStats.refused (s : ReaderStats) : Nat := s.headerErrors + s.packetErrors + s.oversized

namespace Polled

/-- Whether a poll gives a packet of a kind in the catalog whose payload cannot be decoded. -/
def isMalformed : Polled → Bool
  | .frame f => (Polled.frame f).received = .discarded
  | _ => false

/-- A packet is discarded because it is malformed or because it is refused, and the reader counts
just the latter. -/
theorem count_discarded_add_refused {polls : List Polled}
    (h : ∀ o ∈ polls, o = .idle ∨ o.OfPacket) (stats : ReaderStats) :
    (polls.map received).count .discarded + stats.refused =
      polls.countP isMalformed + (polls.foldl .count stats).refused := by
  induction polls generalizing stats with
  | nil => simp
  | cons o polls ih =>
    obtain ⟨ho, hpolls⟩ := List.forall_mem_cons.1 h
    -- One result: a frame is discarded if it is malformed, a refusal always, and each of them is
    -- counted on one side only.
    have hstep : (if o.received = .discarded then 1 else 0) + stats.refused =
        (if o.isMalformed then 1 else 0) + (stats.count o).refused := by
      cases o with
      | idle => rfl
      | stalled => simp [OfPacket] at ho
      | frame f =>
        rw [isMalformed]
        simp [ReaderStats.count, ReaderStats.refused]
      | failed e =>
        cases e with
        | headerChecksum | packetChecksum | payloadTooLarge =>
          simp [received, isMalformed, PacketError.isLinkFailure, ReaderStats.count,
            ReaderStats.refused]
          omega
        | _ => simp [OfPacket, PacketError.IsRefusal] at ho
    have hrest := ih hpolls (stats.count o)
    rw [List.map_cons, List.count_cons, List.countP_cons, List.foldl_cons]
    simp only [beq_iff_eq]
    omega

end Polled

/-! ## The capture

Decoding a capture is a loop with one exit for its end and one for a stream that fails.  The
recursion that is run has to stop on two more conditions, which a capture never meets: a read that
does not come back, and a script that is used up. -/

namespace Capture

variable {σ : Type} {tell : σ → Telemetry → σ}

/-- `s.Told tell s' polls`: from `s` to `s'` what `polls` came to was told to the sink and
counted. -/
structure State.Told (tell : σ → Telemetry → σ) (s s' : State σ) (polls : List Polled) : Prop where
  unknown : s'.unknown = s.unknown + (polls.map Polled.received).countP ReceiveOutcome.isUnknown
  malformed : s'.malformed = s.malformed + polls.countP Polled.isMalformed
  sink : s'.sink = (polls.filterMap Polled.record?).foldl tell s.sink

namespace State

theorem Told.trans {s s' s'' : State σ} {polls polls' : List Polled} (h : s.Told tell s' polls)
    (h' : s'.Told tell s'' polls') : s.Told tell s'' (polls ++ polls') where
  unknown := by
    rw [h'.unknown, h.unknown, List.map_append, List.countP_append, Nat.add_assoc]
  malformed := by
    rw [h'.malformed, h.malformed, List.countP_append, Nat.add_assoc]
  sink := by
    rw [h'.sink, h.sink, List.filterMap_append, List.foldl_append]

/-- Of dropped bytes nothing is told or counted. -/
theorem Told.of_filter {s s' : State σ} {polls : List Polled}
    (h : s.Told tell s' (polls.filter (· ≠ .idle))) : s.Told tell s' polls where
  unknown := by
    rw [h.unknown, ← Polled.filter_received]
    congr 1
    apply ReceiveOutcome.countP_eq_of_filter_eq rfl
    simp
  malformed := by
    rw [h.malformed, List.countP_filter]
    congr 1
    apply List.countP_congr
    intro o _
    cases o <;> simp [Polled.isMalformed]
  sink := by
    rw [h.sink, Polled.filterMap_record?]

/-- That a capture has ended is neither told nor counted. -/
theorem Told.of_append_closed {s s' : State σ} {polls : List Polled}
    (h : s.Told tell s' (polls ++ [.failed .closed])) : s.Told tell s' polls where
  unknown := by
    rw [h.unknown, List.map_append, List.countP_append]
    rfl
  malformed := by
    rw [h.malformed, List.countP_append]
    rfl
  sink := by
    rw [h.sink, List.filterMap_append, List.foldl_append]
    rfl

theorem reader_take (tell : σ → Telemetry → σ) (s : State σ) (o : Polled) :
    (s.take tell o).reader = s.reader := by
  unfold take
  split
  · split
    · rfl
    · split <;> rfl
  · rfl

/-- **What becomes of one result**, whatever the reader has come to. -/
theorem told_take (s : State σ) (reader : Reader) (input : InputStream) (o : Polled) :
    s.Told tell ({ s with reader, input }.take tell o) [o] := by
  cases o with
  | idle | stalled => exact ⟨rfl, rfl, rfl⟩
  | failed e =>
    refine ⟨?_, rfl, rfl⟩
    rw [List.map_singleton, List.countP_singleton, Polled.received]
    split <;> rfl
  | frame f =>
    -- A frame has an id of the catalog or is unknown, and in the first case its payload may be
    -- malformed.
    rcases hkind : MessageKind.ofId? f.id with _ | kind
    · constructor <;> simp [take, hkind, Polled.received, Polled.isMalformed, Polled.record?,
        Telemetry.ofMessage, ReceiveOutcome.isUnknown, Except.toOption]
    · rcases hpayload : Telemetry.decode kind f.payload with e | t <;> constructor <;>
        simp [take, hkind, hpayload, Polled.received, Polled.isMalformed, Polled.record?,
          Telemetry.ofMessage, ReceiveOutcome.isUnknown, Except.toOption]

end State

/-- A failure of the stream is no result that concerns a packet. -/
theorem faultOf_of_ofPacket {o : Polled} (h : o.OfPacket) : faultOf o = none := by
  cases o with
  | failed e =>
    cases e with
    | stream => exact absurd h id
    | _ => rfl
  | _ => rfl

/-- The state behind the next read, with what has become of it. -/
def State.afterRead (tell : σ → Telemetry → σ) (s : State σ) : State σ :=
  let p := s.reader.next s.input
  { s with reader := p.reader, input := p.input }.take tell p.outcome

theorem State.reader_afterRead (tell : σ → Telemetry → σ) (s : State σ) :
    (s.afterRead tell).reader = (s.reader.next s.input).reader :=
  reader_take tell _ _

theorem State.input_afterRead (tell : σ → Telemetry → σ) (s : State σ) :
    (s.afterRead tell).input = (s.reader.next s.input).input :=
  input_take tell _ _

/-- The next read does what becomes of its result. -/
theorem State.told_afterRead (tell : σ → Telemetry → σ) (s : State σ) :
    s.Told tell (s.afterRead tell) [(s.reader.next s.input).outcome] :=
  s.told_take _ _ _

/-- `Loops tell s result n`: the loop over the packets of a capture comes from `s` to `result` with
`n` reads.  It goes on after every read that comes back, unless the capture has ended or the stream
has failed. -/
inductive Loops (tell : σ → Telemetry → σ) : State σ → Except PacketError (State σ) → Nat → Prop
  /-- The read finds the end of the capture. -/
  | closed {s : State σ} (hend : (s.reader.next s.input).outcome = .failed .closed) :
      Loops tell s (.ok (s.afterRead tell)) 1
  /-- The read finds that the stream has failed. -/
  | failed {s : State σ} {f : Fault}
      (hfault : (s.reader.next s.input).outcome = .failed (.stream f)) :
      Loops tell s (.error (.stream f)) 1
  /-- The read comes back with something else. -/
  | again {s : State σ} {result : Except PacketError (State σ)} {n : Nat}
      (hback : (s.reader.next s.input).outcome ≠ .stalled)
      (hmore : (s.reader.next s.input).outcome ≠ .failed .closed)
      (hsound : faultOf (s.reader.next s.input).outcome = none)
      (later : Loops tell (s.afterRead tell) result n) : Loops tell s result (n + 1)

/-- Decoding is over with the read that finds the end. -/
theorem decodeReads_of_closed {s : State σ} (reads : Nat)
    (hend : (s.reader.next s.input).outcome = .failed .closed) :
    decodeReads tell s reads = (.ok (s.afterRead tell), reads + 1) := by
  have hnone : faultOf (s.reader.next s.input).outcome = none := by
    rw [hend]
    rfl
  rw [decodeReads]
  split
  · next f hfault => exact absurd (hfault.symm.trans hnone) (by simp)
  · rw [dif_pos (.inl hend)]
    rfl

/-- Decoding goes on behind a read that comes to a packet. -/
theorem decodeReads_of_open {s : State σ} (reads : Nat)
    (hsound : faultOf (s.reader.next s.input).outcome = none)
    (hopen : ¬ ((s.reader.next s.input).outcome = .failed .closed ∨
      (s.reader.next s.input).outcome = .stalled ∨ s.input.steps = [])) :
    decodeReads tell s reads = decodeReads tell (s.afterRead tell) (reads + 1) := by
  rw [decodeReads]
  split
  · next f hfault => exact absurd (hfault.symm.trans hsound) (by simp)
  · rw [dif_neg hopen]
    rfl

/-- **Decoding is the loop**, while all reads before the one that finds the end come to packets:
it takes what they come to in turn, and leaves by no other exit. -/
theorem loops_decodeReads (tell : σ → Telemetry → σ) (s : State σ) (reads : Nat)
    {front : List Polled} (ends : (s.reader.readAll s.input).1 = front ++ [.failed .closed])
    (packets : ∀ o ∈ front, o.OfPacket) :
    ∃ s', decodeReads tell s reads = (.ok s', reads + (front.length + 1)) ∧
      Loops tell s (.ok s') (front.length + 1) ∧ s.Told tell s' (front ++ [.failed .closed]) ∧
      s'.reader = (s.reader.readAll s.input).2 := by
  have htold := s.told_afterRead tell
  induction front generalizing s reads with
  | nil =>
    -- Whatever ends the reading here, the one result is that the capture has ended.
    obtain ⟨hend, hlast⟩ : (s.reader.next s.input).outcome = .failed .closed ∧
        (s.reader.readAll s.input).2 = (s.reader.next s.input).reader := by
      rw [Reader.readAll] at ends ⊢
      split at ends
      · next hover => exact ⟨(List.cons.inj ends).1, by rw [dif_pos hover]⟩
      · next hopen => exact absurd (.inl (List.cons.inj ends).1) hopen
    rw [hend] at htold
    exact ⟨_, decodeReads_of_closed reads hend, .closed hend, htold,
      (State.reader_afterRead tell s).trans hlast.symm⟩
  | cons o front ih =>
    obtain ⟨hpacket, hpackets⟩ := List.forall_mem_cons.1 packets
    have hopen : ¬ ((s.reader.next s.input).outcome = .failed .closed ∨
        (s.reader.next s.input).outcome = .stalled ∨ s.input.steps = []) := by
      intro hover
      rw [Reader.readAll, dif_pos hover] at ends
      simpa using congrArg List.length ends
    -- One read of the loop is one read of a reader that reads to the end.
    have hreadAll : s.reader.readAll s.input = ((s.reader.next s.input).outcome ::
        ((s.afterRead tell).reader.readAll (s.afterRead tell).input).1,
        ((s.afterRead tell).reader.readAll (s.afterRead tell).input).2) := by
      rw [Reader.readAll, dif_neg hopen, State.reader_afterRead, State.input_afterRead]
    rw [hreadAll] at ends ⊢
    obtain ⟨rfl, hlater⟩ := List.cons.inj ends
    have hsound := faultOf_of_ofPacket hpacket
    obtain ⟨s', hs', hloops, htold', hlast⟩ :=
      ih (s.afterRead tell) (reads + 1) hlater hpackets (State.told_afterRead tell _)
    refine ⟨s', ?_, .again (fun h => hopen (.inr (.inl h))) (fun h => hopen (.inl h)) hsound hloops,
      htold.trans htold', hlast⟩
    rw [decodeReads_of_open reads hsound hopen, hs', List.length_cons, Nat.add_assoc,
      Nat.add_comm 1]

/-- The results of a capture, read to its end. -/
theorem readAll_start (sink : σ) (capture : Bytes) :
    ((State.start sink capture).reader.readAll (State.start sink capture).input).1 =
        Packet.Config.inbound.results capture ++ [.failed .closed] ∧
      ((State.start sink capture).reader.readAll (State.start sink capture).input).2.stats =
        (Packet.Config.inbound.outcomes capture).foldl .count .zero := by
  have hreads := (Reader.make .inbound).readAll_of_delivery (.whole capture)
  rw [Delivery.input_whole] at hreads
  exact hreads

/-- **Decoding a capture is the loop**: it makes one read for each piece that is not a dropped byte,
and one that finds the end. -/
theorem loops_decodeCounted (tell : σ → Telemetry → σ) (sink : σ) (capture : Bytes) :
    ∃ s', decodeCounted tell (.start sink capture) =
        (.ok s', (Packet.Config.inbound.results capture).length + 1) ∧
      Loops tell (.start sink capture) (.ok s')
        ((Packet.Config.inbound.results capture).length + 1) ∧
      (State.start sink capture).Told tell s'
        (Packet.Config.inbound.results capture ++ [.failed .closed]) ∧
      s'.reader.stats = (Packet.Config.inbound.outcomes capture).foldl .count .zero := by
  obtain ⟨hresults, hstats⟩ := readAll_start sink capture
  obtain ⟨s', hs', hloops, htold, hlast⟩ := loops_decodeReads tell _ 0 hresults
    fun o ho => Packet.Config.inbound.ofPacket_of_mem_results capture ho
  rw [Nat.zero_add] at hs'
  exact ⟨s', hs', hloops, htold, (congrArg Reader.stats hlast).trans hstats⟩

/-- The summary of a capture: what comes of its pieces, counted. -/
def summaryOf (capture : Bytes) : CaptureSummary :=
  .ofStats (((Packet.Config.inbound.outcomes capture).map Polled.received).countP
      ReceiveOutcome.isUnknown)
    ((Packet.Config.inbound.outcomes capture).countP Polled.isMalformed)
    ((Packet.Config.inbound.outcomes capture).foldl .count .zero)

/-- **Decoding a capture** tells the sink of the records in its pieces and sums up what comes of
them. -/
theorem decode_eq (tell : σ → Telemetry → σ) (sink : σ) (capture : Bytes) :
    decode tell sink capture = .ok (summaryOf capture,
      ((Packet.Config.inbound.outcomes capture).filterMap Polled.record?).foldl tell sink) := by
  obtain ⟨s', hs', -, htold, hcounts⟩ := loops_decodeCounted tell sink capture
  have hend : Packet.Config.inbound.results capture ++ [Polled.failed .closed] =
      (Packet.Config.inbound.outcomes capture ++ [Polled.failed .closed]).filter (· ≠ .idle) := by
    rw [List.filter_append]
    rfl
  rw [hend] at htold
  obtain ⟨hunknown, hmalformed, hsink⟩ := htold.of_filter.of_append_closed
  have hfrom : decodeFrom tell (.start sink capture) = .ok s' := congrArg Prod.fst hs'
  rw [decode, hfrom, summaryOf, ← hcounts]
  rw [State.start, Nat.zero_add] at hunknown hmalformed
  rw [← hunknown, ← hmalformed]
  exact congrArg (fun sink => Except.ok (_, sink)) hsink

end Capture

/-! ## The link

A station is stepped until it finds the link lost; the number of steps is not known beforehand,
because it depends on how the bytes were cut and delayed. -/

namespace Station

variable {s : Station}

/-- A station loses the link in a step of receiving just when its poll does. -/
theorem receive_eq_linkLost_iff (hs : s.Listens) :
    s.receive.1 = .linkLost ↔ s.poll.outcome.losesLink = true := by
  obtain ⟨houtcome, -, -, -, -⟩ := receive_spec hs
  rw [houtcome, Polled.received_eq_linkLost_iff]

/-- What steps of receiving came to has lost the link just when their polls have. -/
theorem Received.linkLost_mem_iff {s' : Station} {outcomes : List ReceiveOutcome}
    {polls : List Polled} (h : s.Received s' outcomes polls) :
    .linkLost ∈ outcomes ↔ ∃ o ∈ polls, o.losesLink = true := by
  have hmem : ReceiveOutcome.linkLost ∈ outcomes.filter (· ≠ .idle) ↔
      .linkLost ∈ (polls.filter (· ≠ .idle)).map Polled.received := by
    rw [h.outcomes]
  rw [← Polled.filter_received, List.mem_filter, List.mem_filter, List.mem_map] at hmem
  simpa [Polled.received_eq_linkLost_iff] using hmem

variable {front : List Polled} {last : Polled}

/-- One step, when of all that is awaited just the last loses the link: either it comes to all of
it, or the station goes on listening. What the step comes to is all of what is awaited, or it ends
before `last`. -/
theorem received_receive_or_lost (hs : s.Listens)
    (h : Awaits .inbound s.link.port.script (front ++ [last]))
    (kept : ∀ o ∈ front, o.losesLink = false) (loses : last.losesLink = true) :
    (s.receive.1 = .linkLost ∧ s.Received s.receive.2 [s.receive.1] (front ++ [last])) ∨
      ∃ polls front', front = polls ++ front' ∧ s.receive.1 ≠ .linkLost ∧
        s.Received s.receive.2 [s.receive.1] polls ∧ s.receive.2.Listens ∧
        Awaits .inbound s.receive.2.link.port.script (front' ++ [last]) := by
  obtain ⟨polls, later, hpolls, hreceived, hawaits, -⟩ := received_receive hs h
  rcases List.prefix_concat_iff.1 ⟨later, hpolls.symm⟩ with rfl | ⟨front', rfl⟩
  · have hmem := hreceived.linkLost_mem_iff.2 ⟨last, by simp, loses⟩
    exact .inl ⟨(List.mem_singleton.1 hmem).symm, hreceived⟩
  · rw [List.append_assoc] at hpolls
    obtain rfl := List.append_cancel_left hpolls
    have hkept : s.receive.1 ≠ .linkLost := by
      intro hlost
      obtain ⟨o, ho, hloses⟩ := hreceived.linkLost_mem_iff.1 (List.mem_singleton.2 hlost.symm)
      rw [kept o (List.mem_append_left _ ho)] at hloses
      exact absurd hloses (by simp)
    have hpoll : s.poll.outcome.losesLink = false :=
      Bool.eq_false_iff.2 (mt (receive_eq_linkLost_iff hs).2 hkept)
    exact .inr ⟨polls, front', rfl, hkept, hreceived, listens_receive hs hpoll, hawaits⟩

/-- **Stepping until the link is lost**: when of all that is awaited just the last loses the link,
some number of steps comes to all of it, and only the last of these steps finds the link lost. Every
step uses up something of the script, of which something is left while `last` is awaited. -/
theorem received_until_lost (hs : s.Listens)
    (h : Awaits .inbound s.link.port.script (front ++ [last]))
    (kept : ∀ o ∈ front, o.losesLink = false) (loses : last.losesLink = true) :
    ∃ n outcomes, (s.times receive n).1 = outcomes ++ [.linkLost] ∧ .linkLost ∉ outcomes ∧
      s.Received (s.times receive n).2 (outcomes ++ [.linkLost]) (front ++ [last]) := by
  induction hweight : s.weight using Nat.strongRecOn generalizing s front with
  | ind weight ih =>
    rcases received_receive_or_lost hs h kept loses with ⟨hlost, hreceived⟩ |
      ⟨polls, front', rfl, hkept, hreceived, hlistens, hawaits⟩
    · refine ⟨1, [], ?_, List.not_mem_nil, ?_⟩
      · show [s.receive.1] = _
        rw [hlost, List.nil_append]
      · rw [List.nil_append, ← hlost]
        exact hreceived
    · have hless : s.receive.2.weight < weight := by
        rw [← hweight]
        apply weight_receive_lt hs
        intro hscript
        exact absurd (h.eq_nil hscript) (by simp)
      obtain ⟨n, outcomes, houtcomes, hnotMem, hlater⟩ := ih _ hless hlistens hawaits
        (fun o ho => kept o (List.mem_append_right _ ho)) rfl
      refine ⟨n + 1, s.receive.1 :: outcomes, ?_, ?_, ?_⟩
      · show s.receive.1 :: (s.receive.2.times receive n).1 = _
        rw [houtcomes, List.cons_append]
      · rw [List.mem_cons, not_or]
        exact ⟨hkept.symm, hnotMem⟩
      · rw [List.append_assoc]
        exact hreceived.trans hlater

end Station

/-- When a capture is delivered and then ends, what comes of its pieces is awaited, and then that
the stream has ended. -/
theorem Delivery.awaits {capture : Bytes} (d : Delivery capture) :
    Awaits .inbound (d.steps ++ [.data []])
      (Packet.Config.inbound.outcomes capture ++ [.failed .closed]) := by
  have hnothing : Awaits .inbound [] [] := .last (by simp) .nil
  have hempty : ¬ (ReadStep.data []).Harmless := fun h => h rfl
  have hawaits := Awaits.session d.harmless hempty hnothing
  rw [d.pending] at hawaits
  exact hawaits

/-- **Live and recorded bytes come to the same.**  Let the bytes of a capture be delivered to a
station that listens, in any chunks and with any delays, and then end.  Stepping until the link is
lost tells the sink of just the records that decoding the capture tells a sink of, in the same
order.  As many packets are unknown as the summary says, as many are discarded as the summary says
that are malformed or refused, and the reader has counted what the summary says. -/
theorem link_agrees_with_capture {capture : Bytes} (d : Delivery capture) {s : Station}
    (listens : s.Listens) (fresh : s.receiver = .fresh)
    (script : s.link.port.script = d.steps ++ [.data []]) :
    ∃ n outcomes summary, (s.times Station.receive n).1 = outcomes ++ [.linkLost] ∧
      .linkLost ∉ outcomes ∧
      (∀ {σ : Type} (tell : σ → Telemetry → σ) (sink : σ), Capture.decode tell sink capture =
        .ok (summary, (s.times Station.receive n).2.receiver.told.foldl tell sink)) ∧
      outcomes.countP ReceiveOutcome.isUnknown = summary.unknown ∧
      outcomes.count .discarded =
        summary.malformed + summary.headerErrors + summary.packetErrors + summary.oversized ∧
      summary = .ofStats summary.unknown summary.malformed
        (s.times Station.receive n).2.receiver.reader.stats := by
  have hpieces : ∀ o ∈ Packet.Config.inbound.outcomes capture, ∃ piece, Piece .inbound piece o :=
    fun o => Packet.Config.exists_piece_of_mem_outcomes
  have hawaits := d.awaits
  rw [← script] at hawaits
  obtain ⟨n, outcomes, houtcomes, hkept, hreceived⟩ := Station.received_until_lost listens hawaits
    (fun o ho => (hpieces o ho).elim fun _ hpiece => hpiece.losesLink_eq_false) rfl
  -- Both ends of the comparison are the results of the pieces, the lost link at the end taken off.
  have hsame : outcomes.filter (· ≠ .idle) =
      ((Packet.Config.inbound.outcomes capture).map Polled.received).filter (· ≠ .idle) := by
    have houtcomes' := hreceived.outcomes
    rw [List.filter_append, List.filter_append, List.map_append] at houtcomes'
    rw [Polled.filter_received]
    exact List.append_cancel_right houtcomes'
  have htold : (s.times Station.receive n).2.receiver.told =
      (Packet.Config.inbound.outcomes capture).filterMap Polled.record? := by
    rw [hreceived.told, fresh, List.filterMap_append]
    exact List.append_nil _
  have hstats : (s.times Station.receive n).2.receiver.reader.stats =
      (Packet.Config.inbound.outcomes capture).foldl .count .zero := by
    rw [hreceived.stats, fresh, List.foldl_append]
    rfl
  refine ⟨n, outcomes, Capture.summaryOf capture, houtcomes, hkept, ?_, ?_, ?_, ?_⟩
  · intro σ tell sink
    rw [Capture.decode_eq, htold]
  · exact ReceiveOutcome.countP_eq_of_filter_eq rfl hsame
  · have hpackets : ∀ o ∈ Packet.Config.inbound.outcomes capture, o = .idle ∨ o.OfPacket := by
      intro o ho
      obtain ⟨piece, hpiece⟩ := hpieces o ho
      exact or_iff_not_imp_left.2 hpiece.ofPacket
    have hcount : outcomes.count .discarded =
        ((Packet.Config.inbound.outcomes capture).map Polled.received).count .discarded :=
      ReceiveOutcome.countP_eq_of_filter_eq rfl hsame
    have hdiscarded : outcomes.count .discarded + 0 =
        (Capture.summaryOf capture).malformed + ((Capture.summaryOf capture).headerErrors +
          (Capture.summaryOf capture).packetErrors + (Capture.summaryOf capture).oversized) := by
      rw [hcount]
      exact Polled.count_discarded_add_refused hpackets .zero
    omega
  · rw [hstats]
    rfl

/-- The report of a shot, a packet of no known kind, and one that is too short for its kind. -/
def mixedPackets : List (Parcel .inbound) :=
  [(Telemetry.shoot ⟨54, 1⟩).parcel, ⟨0x7f, [], by decide, by decide⟩,
    ⟨0x0d, [], by decide, by decide⟩]

/-- These packets, and a header behind them that fails its check. -/
def mixedCapture : Bytes := mixedPackets.flatMap Parcel.bytes ++ [0x5a, 0x00, 0x00, 0x00, 0x00]

/-- A station that has just opened its port, with all of this to come and then the end. -/
def mixedStation : Station :=
  (Station.ofPort .fresh).run [.supervise, .push (.data mixedCapture), .push (.data [])]

/-- What decoding this capture comes to, by its pieces. -/
theorem decode_mixedCapture : Capture.decode (fun told t => t :: told) [] mixedCapture =
    .ok (⟨3, 1, 1, 0, 1, 0, 0, 0⟩, [Telemetry.shoot ⟨54, 1⟩]) := by
  have hinvalid : Header.isValid ⟨0x5a, 0x00, 0x00, 0x00⟩ = false := by decide +kernel
  have hdamaged : Piece .inbound [0x5a, 0x00, 0x00, 0x00, 0x00]
      (.failed (Packet.headerMismatch ⟨0x5a, 0x00, 0x00, 0x00⟩)) := .damaged rfl hinvalid
  have hcuts := (Parcel.cuts_flatMap mixedPackets).append (.single hdamaged)
  rw [Capture.decode_eq, Capture.summaryOf, mixedCapture, Packet.Config.outcomes_of_cuts hcuts]
  decide +kernel

/-- A station that receives it counts one unknown packet and two discarded ones, the short one and
the damaged one. -/
theorem link_agrees_with_mixedCapture :
    (mixedStation.Listens ∧ mixedStation.receiver = .fresh ∧
        mixedStation.link.port.script = (Delivery.whole mixedCapture).steps ++ [.data []]) ∧
      ∃ n outcomes, (mixedStation.times Station.receive n).1 = outcomes ++ [.linkLost] ∧
        .linkLost ∉ outcomes ∧ outcomes.countP ReceiveOutcome.isUnknown = 1 ∧
        outcomes.count .discarded = 2 ∧
        (mixedStation.times Station.receive n).2.receiver.told = [Telemetry.shoot ⟨54, 1⟩] := by
  have hlistens : mixedStation.Listens := ⟨rfl, rfl, rfl⟩
  have hfresh : mixedStation.receiver = .fresh := rfl
  have hscript : mixedStation.link.port.script =
      (Delivery.whole mixedCapture).steps ++ [.data []] := by
    decide +kernel
  obtain ⟨n, outcomes, summary, houtcomes, hkept, hdecode, hunknown, hdiscarded, -⟩ :=
    link_agrees_with_capture (.whole mixedCapture) hlistens hfresh hscript
  have hboth := (hdecode (fun told t => t :: told) []).symm.trans decode_mixedCapture
  rw [Except.ok.injEq, Prod.mk.injEq] at hboth
  obtain ⟨rfl, htold⟩ := hboth
  exact ⟨⟨hlistens, hfresh, hscript⟩, n, outcomes, houtcomes, hkept, hunknown, hdiscarded,
    by simpa using htold⟩

end ControllerLink
