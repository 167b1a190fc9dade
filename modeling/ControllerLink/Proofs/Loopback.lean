/-
# A host that hears itself

The two directions of a link differ in their start markers, but nothing keeps
the start marker of one direction out of the packets of the other.  The numbers
of a command can spell out a whole packet from the controller, and a host whose
bytes come back takes it for one.  What stands in a packet of a command at fixed
values cannot begin such a packet; the time stamp, the numbers and the checksum
can.

A run writes packets of commands only (`writesCommands_run`), all of one size,
so a byte on the wire is told by its place within such a packet
(`Bytes.exists_block`).  The start marker of the other direction is found at the
places whose bytes vary (`isFree_of_inboundStart`), and a frame begins with it.
Where it does stand, nothing keeps the bytes behind it from passing both checks,
as the example at the end shows.
-/
import ControllerLink.Proofs.LinkSteps
import ControllerLink.Proofs.Resumption

set_option autoImplicit false

namespace ControllerLink

/-! ## What a station writes -/

/-- An operation that writes to the port past the sender. -/
def Operation.IsRaw : Operation → Prop
  | .writePort _ => True
  | _ => False

/-- All that was written are packets of commands, and so will be the next one. -/
structure Station.WritesCommands (s : Station) : Prop where
  writer : s.sender.writer.Serves .outbound
  written : ∀ block ∈ s.link.port.written, ∃ c : RobotCommand, block = c.parcel.bytes

namespace Station

/-- An operation of any other part than the sender writes nothing. -/
theorem written_apply (s : Station) {o : Operation} (hraw : ¬ o.IsRaw)
    (hsend : ∀ now, o ≠ .send now) :
    (s.apply o).2.sender = s.sender ∧ (s.apply o).2.link.port.written = s.link.port.written := by
  cases o with
  | push step => exact ⟨rfl, rfl⟩
  | failOpens count => exact ⟨rfl, rfl⟩
  | openClosed closed => exact ⟨rfl, rfl⟩
  | failWrites fail => exact ⟨rfl, rfl⟩
  | openPort => exact ⟨rfl, s.link.port.written_tryOpen⟩
  | closePort => exact ⟨rfl, rfl⟩
  | readPort room => exact ⟨rfl, rfl⟩
  | readStream room => exact ⟨rfl, rfl⟩
  | writePort bytes => exact absurd trivial hraw
  | change c =>
    refine ⟨rfl, ?_⟩
    show (if (c.apply s.command).1 = some false then s.link.logAll c.events
      else s.link).port.written = _
    by_cases hrefused : (c.apply s.command).1 = some false
    · rw [if_pos hrefused]
      rfl
    · rw [if_neg hrefused]
  | supervise =>
    refine ⟨rfl, ?_⟩
    show ((Supervisor.tryOpen _ s.link).2).port.written = _
    rw [Supervisor.port_tryOpen, ScriptedPort.written_tryOpen]
  | tick =>
    rw [apply]
    rcases s.supervisor with _ | supervisor
    · exact ⟨rfl, rfl⟩
    · exact ⟨rfl, supervisor.written_tick s.link⟩
  | markDown reason => exact ⟨rfl, congrArg ScriptedPort.written (Link.port_markDown _ _)⟩
  | receive w => exact ⟨rfl, s.receiver.written_step s.link w⟩
  | send now => exact absurd rfl (hsend now)

/-- One operation writes nothing else than packets of commands. Only the sender adds to what was
written, and all that it adds is one packet. -/
theorem writesCommands_apply {s : Station} (hs : s.WritesCommands) {o : Operation}
    (hraw : ¬ o.IsRaw) : (s.apply o).2.WritesCommands := by
  by_cases hsend : ∃ now, o = .send now
  · obtain ⟨now, rfl⟩ := hsend
    obtain ⟨hwriter, hcases⟩ := Sender.step_cases hs.writer s.link s.command now
    refine ⟨hwriter, ?_⟩
    intro block hblock
    have hblock : block ∈ (s.sender.step s.link s.command now).2.2.port.written := hblock
    rcases hcases with ⟨-, hstep⟩ | ⟨-, -, -, -, hwritten⟩ | ⟨-, -, -, -, hwritten⟩
    · rw [hstep] at hblock
      exact hs.written block hblock
    · rw [hwritten, List.mem_append, List.mem_singleton] at hblock
      rcases hblock with hblock | rfl
      · exact hs.written block hblock
      · exact ⟨_, rfl⟩
    · rw [hwritten] at hblock
      exact hs.written block hblock
  · obtain ⟨hsender, hwritten⟩ := s.written_apply hraw fun now h => hsend ⟨now, h⟩
    exact ⟨hsender ▸ hs.writer, hwritten ▸ hs.written⟩

/-- A run writes nothing else than packets of commands. -/
theorem writesCommands_run {s : Station} (hs : s.WritesCommands) {operations : List Operation}
    (hraw : ∀ o ∈ operations, ¬ o.IsRaw) : (s.run operations).WritesCommands := by
  induction operations generalizing s with
  | nil => exact hs
  | cons o operations ih =>
    obtain ⟨ho, hlater⟩ := List.forall_mem_cons.1 hraw
    exact ih (writesCommands_apply hs ho) hlater

/-- All that a run from the beginning on has written. -/
def wire (operations : List Operation) : Bytes :=
  ((ofPort .fresh).run operations).link.port.written.flatten

end Station

/-! ## The packet of a command -/

namespace RobotCommand

/-- Bytes of a packet of a command. -/
def wireSize : Nat := Header.size + layout.size + Header.checksumSize

theorem length_bytes (c : RobotCommand) : c.parcel.bytes.length = wireSize := by
  show (Packet.withHeader c.parcel.header c.encode).length = _
  rw [Packet.length_withHeader, c.length_encode]
  rfl

/-- The places in a packet of a command behind the header, other than the two flags: they hold the
time stamp, the numbers and the checksum. -/
def IsFree (i : Nat) : Prop := Header.size ≤ i ∧ i < wireSize ∧ i ≠ 45 ∧ i ≠ 46

/-- The start marker of the other direction stands in the packet of a command at free places
only. -/
theorem isFree_of_inboundStart (c : RobotCommand) {i : Nat}
    (hi : c.parcel.bytes[i]? = some Packet.inboundStart) : IsFree i := by
  have hlt : i < wireSize := by
    rw [← c.length_bytes]
    exact (List.getElem?_eq_some_iff.1 hi).1
  -- The header of a command is the same for all commands, and it does not hold the marker.
  have hheader : c.parcel.bytes.take Header.size =
      (Header.make Packet.outboundStart id 42).toBytes := by
    rw [Parcel.take_bytes, Parcel.header, show c.parcel.payload.length = 42 from c.length_encode]
    rfl
  -- A flag is written as zero or one.
  have hflag (b : Bool) : (if b then 1 else 0 : UInt8) ≠ Packet.inboundStart := by
    cases b <;> decide
  refine ⟨?_, hlt, ?_, ?_⟩
  · by_contra hfront
    have hwithin : i < Header.size := Nat.lt_of_not_le hfront
    have hmem : (c.parcel.bytes.take Header.size)[i]? = some Packet.inboundStart := by
      rw [List.getElem?_take_of_lt hwithin, hi]
    rw [hheader] at hmem
    exact absurd (List.mem_of_getElem? hmem) (by decide +kernel)
  · rintro rfl
    have hfire : c.parcel.bytes[45]? = some (if c.fire then 1 else 0) := rfl
    exact hflag c.fire (Option.some.inj (hfire.symm.trans hi))
  · rintro rfl
    have hfriction : c.parcel.bytes[46]? = some (if c.frictionOn then 1 else 0) := rfl
    exact hflag c.frictionOn (Option.some.inj (hfriction.symm.trans hi))

end RobotCommand

/-! ## The bytes on the way back -/

/-- A byte of blocks of one size is a byte of one of them. The byte lies in the first block, or as
far into the others as it is behind the first. -/
theorem Bytes.exists_block {n : Nat} {blocks : List Bytes}
    (hsize : ∀ block ∈ blocks, block.length = n) {i : Nat} {b : UInt8}
    (hi : blocks.flatten[i]? = some b) : ∃ block ∈ blocks, block[i % n]? = some b := by
  induction blocks generalizing i with
  | nil => exact absurd hi (by simp)
  | cons block blocks ih =>
    obtain ⟨hblock, hblocks⟩ := List.forall_mem_cons.1 hsize
    rw [List.flatten_cons] at hi
    by_cases hwithin : i < n
    · rw [List.getElem?_append_left (by rwa [hblock])] at hi
      refine ⟨block, List.mem_cons_self, ?_⟩
      rwa [Nat.mod_eq_of_lt hwithin]
    · rw [List.getElem?_append_right (by rw [hblock]; exact Nat.not_lt.1 hwithin), hblock] at hi
      obtain ⟨block', hmem, hbyte⟩ := ih hblocks hi
      refine ⟨block', List.mem_cons_of_mem _ hmem, ?_⟩
      rwa [Nat.mod_eq_sub_mod (Nat.not_lt.1 hwithin)]

/-- On the wire the start marker of the other direction stands at free places of packets only. -/
theorem Station.isFree_of_wire {operations : List Operation} (hraw : ∀ o ∈ operations, ¬ o.IsRaw)
    {i : Nat} (hi : (wire operations)[i]? = some Packet.inboundStart) :
    RobotCommand.IsFree (i % RobotCommand.wireSize) := by
  have hfresh : (ofPort .fresh).WritesCommands := by
    refine ⟨Writer.serves_make .outbound, ?_⟩
    intro block hblock
    exact absurd hblock (by simp [ofPort, Link.ofPort, ScriptedPort.fresh])
  have hrun := writesCommands_run hfresh hraw
  have hsize : ∀ block ∈ ((ofPort .fresh).run operations).link.port.written,
      block.length = RobotCommand.wireSize := by
    intro block hblock
    obtain ⟨c, rfl⟩ := hrun.written block hblock
    exact c.length_bytes
  obtain ⟨block, hmem, hbyte⟩ := Bytes.exists_block hsize hi
  obtain ⟨c, rfl⟩ := hrun.written block hmem
  exact c.isFree_of_inboundStart hbyte

/-- **What a host hears of itself.**  Let anything happen to a station, except that bytes are
written past its sender, and let all that it has written come back, by any delivery, to a reader of
packets from the controller.  Every result is an error, or a packet that lies in what was written
and begins within the time stamp, the numbers or the checksum of a command.  Without a start marker
of the controller there, the only result is that the stream has ended. -/
theorem loopback_results (operations : List Operation) (sending : ∀ o ∈ operations, ¬ o.IsRaw)
    (d : Delivery (Station.wire operations)) :
    (∀ o ∈ ((Reader.make .inbound).readAll d.input).1, (∃ e, o = .failed e) ∨
      ∃ f front packet back, o = .frame f ∧
        Packet.encode Packet.inboundStart f.id f.payload = .ok packet ∧
        Station.wire operations = front ++ packet ++ back ∧
        RobotCommand.IsFree (front.length % RobotCommand.wireSize)) ∧
      (Packet.inboundStart ∉ Station.wire operations →
        ((Reader.make .inbound).readAll d.input).1 = [.failed .closed]) := by
  have hresults : ((Reader.make .inbound).readAll d.input).1 =
      Packet.Config.inbound.results (Station.wire operations) ++ [.failed .closed] :=
    ((Reader.make .inbound).readAll_of_delivery d).1
  rw [hresults]
  constructor
  · intro o ho
    rcases List.mem_append.1 ho with ho | ho
    · obtain ⟨whole, rest, hwire, hcuts, -⟩ :=
        Packet.Config.inbound.exists_cuts (Station.wire operations)
      obtain ⟨hmem, hidle⟩ := List.mem_filter.1 ho
      obtain ⟨front, packet, back, rfl, hpiece⟩ := hcuts.exists_piece hmem
      -- A result is a frame or an error; a frame is the encoded packet that begins at its marker.
      rcases hpiece.outcome_cases with rfl | ⟨f, rfl⟩ | ⟨e, rfl, -⟩
      · exact absurd hidle (by simp)
      · right
        obtain ⟨hencode, -⟩ := Packet.encode_of_piece hpiece
        have hmarker : packet[0]? = some Packet.inboundStart := hpiece.getElem?_zero (by simp)
        have hpos := hpiece.length_pos
        refine ⟨f, front, packet, back ++ rest, rfl, hencode, ?_, ?_⟩
        · rw [hwire, List.append_assoc (front ++ packet)]
        · apply Station.isFree_of_wire sending
          rw [hwire, List.append_assoc, List.append_assoc,
            List.getElem?_append_right (Nat.le_refl _), Nat.sub_self,
            List.getElem?_append_left hpos, hmarker]
      · exact .inl ⟨e, rfl⟩
    · rw [List.mem_singleton] at ho
      exact .inl ⟨_, ho⟩
  · intro hquiet
    rw [Packet.Config.results_of_notMem hquiet, List.nil_append]

/-- The velocity of this command is the report of a shot. -/
def spellShot : List Operation :=
  [.supervise, .change (.velocity ⟨0x00050d5a⟩ ⟨0x000036c7⟩ ⟨0x51180100⟩), .send 0]

/-- The bytes of the command that spells a shot: the packet of a shot stands in the middle
of them. -/
theorem wire_spellShot : Station.wire spellShot =
    [0xa5, 0x01, 0x2a, 0x00, 0x4e, 0, 0, 0, 0] ++ (Parcel.shot 54).bytes ++
      (List.replicate 26 0 ++ [0xf0, 0xed]) := by
  decide +kernel

/-- A host takes its own command for the report of a shot. -/
theorem readAll_spellShot :
    ((Reader.make .inbound).readAll (.ofBytes (Station.wire spellShot))).1 =
      [.frame (Parcel.shot 54).frame, .failed .closed] := by
  have hfront : Packet.Config.inbound.start ∉
      ([0xa5, 0x01, 0x2a, 0x00, 0x4e, 0, 0, 0, 0] : Bytes) := by
    decide
  have hback : Packet.Config.inbound.start ∉ (List.replicate 26 0 ++ [0xf0, 0xed] : Bytes) := by
    decide
  have hreads := ((Reader.make .inbound).readAll_of_delivery (.whole (Station.wire spellShot))).1
  rw [Delivery.input_whole] at hreads
  rw [hreads, wire_spellShot]
  show Packet.Config.inbound.results _ ++ _ = _
  rw [List.append_assoc, Packet.Config.results_append_of_notMem hfront, Parcel.results_append,
    Packet.Config.results_of_notMem hback]
  rfl

/-- The same command, as `loopback_results` has it. -/
theorem loopback_spellShot :
    (∀ o ∈ spellShot, ¬ o.IsRaw) ∧
      ∀ o ∈ ((Reader.make .inbound).readAll (.ofBytes (Station.wire spellShot))).1,
        (∃ e, o = .failed e) ∨ ∃ f front packet back, o = .frame f ∧
          Packet.encode Packet.inboundStart f.id f.payload = .ok packet ∧
          Station.wire spellShot = front ++ packet ++ back ∧
          RobotCommand.IsFree (front.length % RobotCommand.wireSize) := by
  have hsending : ∀ o ∈ spellShot, ¬ o.IsRaw := by
    intro o ho
    simp only [spellShot, List.mem_cons, List.not_mem_nil, or_false] at ho
    rcases ho with rfl | rfl | rfl <;> exact id
  exact ⟨hsending, (loopback_results spellShot hsending (.whole _)).1⟩

end ControllerLink
