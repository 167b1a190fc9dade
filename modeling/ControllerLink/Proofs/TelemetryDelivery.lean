/-
# Telemetry from end to end

Records that a controller sends arrive as they are: each once, in their order,
to the last bit, whatever bytes without a start marker lie between the packets,
and however all this is cut into chunks and delayed.

What is on the line is defined by what a writer sends (`Traffic.bytes`), and
falls into pieces: the dropped bytes of the gaps and one piece for each packet
(`Traffic.cuts_bytes`). So polls of the line are known, and what steps of
receiving make of polls was shown for any of them. It is left to say which
record each packet comes to, and that the dropped bytes do not show.
-/
import ControllerLink.Proofs.ReadAll
import ControllerLink.Proofs.Reception

set_option autoImplicit false

namespace ControllerLink

/-! ## Records as polls give them -/

namespace Telemetry

/-- The packet of a record is dispatched by the kind of the record. -/
theorem received_frame (t : Telemetry) :
    (Polled.frame t.parcel.frame).received = .dispatched t.kind := by
  have hid : t.parcel.frame.id = t.kind.id := rfl
  have hpayload : t.parcel.frame.payload = t.encode := rfl
  rw [Polled.received, hid, hpayload, MessageKind.ofId?_id]
  dsimp only
  rw [decode_encode]

/-- The sink is told of just the record that was sent. -/
theorem record?_frame (t : Telemetry) : (Polled.frame t.parcel.frame).record? = some t := by
  have hid : t.parcel.frame.id = t.kind.id := rfl
  have hpayload : t.parcel.frame.payload = t.encode := rfl
  rw [Polled.record?, ofMessage, hid, hpayload, MessageKind.ofId?_id]
  dsimp only
  rw [decode_encode]
  rfl

/-- The sink is told of the records in the order of their packets. -/
theorem filterMap_frames (records : List Telemetry) :
    (records.map fun t => Polled.frame t.parcel.frame).filterMap Polled.record? = records := by
  have hrecord : (Polled.record? ∘ fun t : Telemetry => Polled.frame t.parcel.frame) = some :=
    funext record?_frame
  rw [List.filterMap_map, hrecord, List.filterMap_some]

end Telemetry

/-! ## What a controller sends -/

/-- Bytes outside of packets: none of them is the start marker of the controller. -/
structure Gap where
  bytes : Bytes
  quiet : Packet.inboundStart ∉ bytes

/-- Records with bytes before, between and behind their packets. -/
structure Traffic where
  parts : List (Gap × Telemetry)
  last : Gap

namespace Traffic

/-- The records, in order. -/
def records (traffic : Traffic) : List Telemetry := traffic.parts.map Prod.snd

/-- What is on the line: the packets that one writer makes of the records, and the gaps. -/
def bytes (traffic : Traffic) : Bytes :=
  (List.zipWith (fun part packet => part.1.bytes ++ packet) traffic.parts
    (Writer.packets traffic.records)).flatten ++ traffic.last.bytes

/-- What polls come to on the line. -/
def polls (traffic : Traffic) : List Polled :=
  (traffic.parts.flatMap fun part =>
      List.replicate part.1.bytes.length .idle ++ [.frame part.2.parcel.frame]) ++
    List.replicate traffic.last.bytes.length .idle

/-- The bytes of traffic: noise and a packet, again and again, and noise at the end. -/
theorem bytes_eq (traffic : Traffic) : traffic.bytes =
    (traffic.parts.flatMap fun part => part.1.bytes ++ part.2.parcel.bytes) ++
      traffic.last.bytes := by
  rw [bytes, Writer.packets_eq, records, List.map_map, List.zipWith_map_right, List.zipWith_self,
    List.flatMap_def]
  rfl

/-- The line falls into the dropped bytes of the gaps and the packets. -/
theorem cuts_bytes (traffic : Traffic) : Cuts .inbound traffic.bytes traffic.polls := by
  have hparts : Cuts .inbound
      (traffic.parts.flatMap fun part => part.1.bytes ++ part.2.parcel.bytes)
      (traffic.parts.flatMap fun part =>
        List.replicate part.1.bytes.length .idle ++ [.frame part.2.parcel.frame]) := by
    induction traffic.parts with
    | nil => exact .nil
    | cons part parts ih =>
      have hgap := Cuts.of_notMem (c := Packet.Config.inbound) part.1.quiet
      exact (hgap.append (.single part.2.parcel.piece)).append ih
  rw [bytes_eq]
  exact hparts.append (.of_notMem traffic.last.quiet)

/-- Without the dropped bytes the packets are left. -/
theorem filter_polls (traffic : Traffic) : traffic.polls.filter (· ≠ .idle) =
    traffic.records.map fun t => .frame t.parcel.frame := by
  have hparts : (traffic.parts.flatMap fun part =>
        List.replicate part.1.bytes.length .idle ++ [.frame part.2.parcel.frame]).filter
      (· ≠ .idle) = traffic.parts.map fun part => Polled.frame part.2.parcel.frame := by
    induction traffic.parts with
    | nil => rfl
    | cons part parts ih =>
      rw [List.flatMap_cons, List.filter_append, List.filter_append, Polled.filter_replicate_idle,
        List.nil_append, ih, List.filter_cons_of_pos (by simp)]
      rfl
  rw [polls, List.filter_append, hparts, Polled.filter_replicate_idle, List.append_nil, records,
    List.map_map]
  rfl

end Traffic

/-- **End-to-end delivery.**  Let records be sent by one writer, with any bytes without a start
marker between their packets, and let the line be delivered in any chunks and with any delays to a
station whose link is up.  After any number `n` of steps of receiving, the steps that were not idle
have dispatched the first of the records, each by its kind, the sink has been told of just these,
and the link is up; and after as many steps as the script has bytes and steps, these are all of the
records. -/
theorem telemetry_delivered (traffic : Traffic) (d : Delivery traffic.bytes) (s : Station)
    (listens : s.Listens) (script : s.link.port.script = d.steps) (n : Nat) :
    ∃ done, done <+: traffic.records ∧
      (s.times Station.receive n).1.filter (· ≠ .idle) = done.map (fun t => .dispatched t.kind) ∧
      (s.times Station.receive n).2.receiver.told = s.receiver.told ++ done ∧
      (s.times Station.receive n).2.link.up = true ∧
      (d.input.weight ≤ n → done = traffic.records) := by
  have hawaits : Awaits .inbound s.link.port.script traffic.polls := by
    rw [script]
    refine .last d.harmless ?_
    rw [d.pending]
    exact traffic.cuts_bytes
  -- Nothing that is awaited is a failure of the stream.
  have hkept : ∀ o ∈ traffic.polls, o.losesLink = false := by
    intro o ho
    obtain ⟨-, piece, -, -, hpiece⟩ := traffic.cuts_bytes.exists_piece ho
    exact hpiece.losesLink_eq_false
  obtain ⟨polls, later, hpolls, hreceived, hlistens, hall⟩ :=
    Station.received_times_receive listens hawaits hkept n
  -- Up to the dropped bytes, the polls are those of the packets of the first records.
  have hsplit : (traffic.records.map fun t => Polled.frame t.parcel.frame) =
      polls.filter (· ≠ .idle) ++ later.filter (· ≠ .idle) := by
    rw [← traffic.filter_polls, hpolls, List.filter_append]
  obtain ⟨done, rest, hrecords, hdone, hrest⟩ := List.map_eq_append_iff.1 hsplit
  refine ⟨done, ⟨rest, hrecords.symm⟩, ?_, ?_, hlistens.up, ?_⟩
  · rw [hreceived.outcomes, ← hdone, List.map_map]
    exact List.map_congr_left fun t _ => t.received_frame
  · rw [hreceived.told, ← Polled.filterMap_record?, ← hdone, Telemetry.filterMap_frames]
  · intro hweight
    have hweight : s.weight ≤ n := by
      rw [Station.weight, script]
      exact hweight
    rw [hall hweight] at hrest
    rw [hrecords, List.map_eq_nil_iff.1 hrest, List.append_nil]

/-- One report of a shot, and bytes before and behind it that belong to no packet. -/
def shotTraffic : Traffic where
  parts := [(⟨[0x00, 0xa5], by decide⟩, .shoot ⟨54, 1⟩)]
  last := ⟨[0xff], by decide⟩

/-- A station that has just opened its port, with all of this to come. -/
def shotStation : Station :=
  (Station.ofPort .fresh).run [.supervise, .push (.data shotTraffic.bytes)]

/-- One shot among noise is told of once. -/
theorem telemetry_delivered_shot :
    (shotStation.Listens ∧
        shotStation.link.port.script = (Delivery.whole shotTraffic.bytes).steps) ∧
      (shotStation.times Station.receive 20).1.filter (· ≠ .idle) = [.dispatched .shoot] ∧
      (shotStation.times Station.receive 20).2.receiver.told = [.shoot ⟨54, 1⟩] := by
  have hlistens : shotStation.Listens := ⟨rfl, rfl, rfl⟩
  have hscript : shotStation.link.port.script = (Delivery.whole shotTraffic.bytes).steps := by
    decide +kernel
  have hweight : (Delivery.whole shotTraffic.bytes).input.weight ≤ 20 := by decide +kernel
  obtain ⟨done, -, houtcomes, htold, -, hall⟩ :=
    telemetry_delivered shotTraffic (.whole _) shotStation hlistens hscript 20
  obtain rfl := hall hweight
  exact ⟨⟨hlistens, hscript⟩, houtcomes, htold⟩

end ControllerLink
