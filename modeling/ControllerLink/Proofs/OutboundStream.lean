/-
# The stream of commands

What a station writes is one packet for each step of sending that succeeds, and
that packet holds the command record as it stands at that step: every field has
the value that was last given to it, by whatever operation.  Nothing else is
written, nothing is written twice, and the controller reads just these records
back.

Two notions carry the argument:
* `RobotCommand.Follows` compares two command records by what was last assigned
  to each field, so that operations compose without their records being computed
  (`Station.follows_run`);
* `Station.HasSent` ties what a port has taken, and what a sender has counted,
  to a list of records; one operation keeps it, with the record of that
  operation behind the others (`Station.hasSent_apply`).
A moment of a run is an operation with all that came before it
(`Operation.moments`). What a station sends is defined by what it answers at its
moments, not by what it writes, so that the theorem compares two things. That
the packets are read back one by one is what decoding says of concatenated
packets.
-/
import ControllerLink.Proofs.Loopback

set_option autoImplicit false

namespace ControllerLink

/-! ## What was last assigned to a field -/

namespace Assignment

/-- The number that an assignment gives to the field `f`. -/
def number? (f : NumberField) : Assignment → Option Single
  | .number g x => if g = f then some x else none
  | .flag _ _ => none

/-- What an assignment switches the field `f` to. -/
def flag? (f : FlagField) : Assignment → Option Bool
  | .number _ _ => none
  | .flag g b => if g = f then some b else none

/-- The number last given to the field `f`, or else `before`. -/
def lastNumber (f : NumberField) (changes : List Assignment) (before : Single) : Single :=
  (changes.filterMap (number? f)).getLastD before

/-- What the field `f` was last switched to, or else `before`. -/
def lastFlag (f : FlagField) (changes : List Assignment) (before : Bool) : Bool :=
  (changes.filterMap (flag? f)).getLastD before

/-- The last value that changes in turn give to a number; those that come later overrule
the others. -/
theorem lastNumber_append (f : NumberField) (changes later : List Assignment) (before : Single) :
    lastNumber f (changes ++ later) before = lastNumber f later (lastNumber f changes before) := by
  simp only [lastNumber, List.filterMap_append, List.getLastD_eq_getLast?, List.getLast?_append,
    Option.getD_or]

/-- The last value that changes in turn give to a flag. -/
theorem lastFlag_append (f : FlagField) (changes later : List Assignment) (before : Bool) :
    lastFlag f (changes ++ later) before = lastFlag f later (lastFlag f changes before) := by
  simp only [lastFlag, List.filterMap_append, List.getLastD_eq_getLast?, List.getLast?_append,
    Option.getD_or]

end Assignment

namespace RobotCommand

/-- The number in the field `f`. -/
def number (c : RobotCommand) : NumberField → Single
  | .vx => c.vx
  | .vy => c.vy
  | .wz => c.wz
  | .chassisYaw => c.chassisYaw
  | .chassisPitch => c.chassisPitch
  | .chassisRoll => c.chassisRoll
  | .legLength => c.legLength
  | .gimbalYaw => c.gimbalYaw
  | .gimbalPitch => c.gimbalPitch

/-- Whether the field `f` is on. -/
def flag (c : RobotCommand) : FlagField → Bool
  | .fire => c.fire
  | .frictionOn => c.frictionOn

/-- The record at the time `now` after some assignments: each field has the value of the last one to
it, and is zero or off if there is none. -/
def latest (now : UInt32) (changes : List Assignment) : RobotCommand where
  timeStamp := now
  vx := Assignment.lastNumber .vx changes ⟨0⟩
  vy := Assignment.lastNumber .vy changes ⟨0⟩
  wz := Assignment.lastNumber .wz changes ⟨0⟩
  chassisYaw := Assignment.lastNumber .chassisYaw changes ⟨0⟩
  chassisPitch := Assignment.lastNumber .chassisPitch changes ⟨0⟩
  chassisRoll := Assignment.lastNumber .chassisRoll changes ⟨0⟩
  legLength := Assignment.lastNumber .legLength changes ⟨0⟩
  gimbalYaw := Assignment.lastNumber .gimbalYaw changes ⟨0⟩
  gimbalPitch := Assignment.lastNumber .gimbalPitch changes ⟨0⟩
  fire := Assignment.lastFlag .fire changes false
  frictionOn := Assignment.lastFlag .frictionOn changes false

/-- All fields but the time stamp, each assigned its value. -/
def assignments (c : RobotCommand) : List Assignment :=
  [.number .vx c.vx, .number .vy c.vy, .number .wz c.wz, .number .chassisYaw c.chassisYaw,
    .number .chassisPitch c.chassisPitch, .number .chassisRoll c.chassisRoll,
    .number .legLength c.legLength, .number .gimbalYaw c.gimbalYaw,
    .number .gimbalPitch c.gimbalPitch, .flag .fire c.fire, .flag .frictionOn c.frictionOn]

/-- `c.Follows changes before`: apart from the time stamp, `c` is `before` after `changes`. -/
structure Follows (c : RobotCommand) (changes : List Assignment) (before : RobotCommand) :
    Prop where
  number : ∀ f, c.number f = Assignment.lastNumber f changes (before.number f)
  flag : ∀ f, c.flag f = Assignment.lastFlag f changes (before.flag f)

variable {c d e : RobotCommand} {changes later : List Assignment}

theorem Follows.refl (c : RobotCommand) : c.Follows [] c := ⟨fun _ => rfl, fun _ => rfl⟩

theorem Follows.trans (h : d.Follows changes c) (h' : e.Follows later d) :
    e.Follows (changes ++ later) c where
  number f := by rw [h'.number, h.number, Assignment.lastNumber_append]
  flag f := by rw [h'.flag, h.flag, Assignment.lastFlag_append]

/-- An assignment changes the field that it names, and no other. -/
theorem follows_assign (c : RobotCommand) (change : Assignment) :
    (c.assign change).Follows [change] c := by
  cases change with
  | number g x => exact ⟨fun f => by cases g <;> cases f <;> rfl, fun f => by cases g <;> rfl⟩
  | flag g b => exact ⟨fun f => by cases g <;> rfl, fun f => by cases g <;> cases f <;> rfl⟩

/-- Making changes gives every field the last value that they have for it. -/
theorem follows_assignAll (c : RobotCommand) (changes : List Assignment) :
    (c.assignAll changes).Follows changes c := by
  induction changes generalizing c with
  | nil => exact .refl c
  | cons change changes ih => exact (c.follows_assign change).trans (ih (c.assign change))

/-- The record that follows from the idle one is the latest. Before any assignment all fields are
zero or off. -/
theorem Follows.eq_latest (h : c.Follows changes idle) (now : UInt32) :
    { c with timeStamp := now } = latest now changes := by
  have hnumber : ∀ f, c.number f = Assignment.lastNumber f changes ⟨0⟩ := by
    intro f
    rw [h.number]
    cases f <;> rfl
  have hflag : ∀ f, c.flag f = Assignment.lastFlag f changes false := by
    intro f
    rw [h.flag]
    cases f <;> rfl
  rw [latest, ← hnumber, ← hnumber, ← hnumber, ← hnumber, ← hnumber, ← hnumber, ← hnumber,
    ← hnumber, ← hnumber, ← hflag, ← hflag]
  rfl

end RobotCommand

/-- The assignments that a change makes; a line that is not understood makes none. -/
def CommandChange.assignments : CommandChange → List Assignment
  | velocity vx vy wz => [.number .vx vx, .number .vy vy, .number .wz wz]
  | chassis yaw pitch roll legLength =>
    [.number .chassisYaw yaw, .number .chassisPitch pitch, .number .chassisRoll roll,
      .number .legLength legLength]
  | gimbal yaw pitch => [.number .gimbalYaw yaw, .number .gimbalPitch pitch]
  | shooter fire frictionOn => [.flag .fire fire, .flag .frictionOn frictionOn]
  | replace c => c.assignments
  | assign changes => changes
  | line text => (CommandLine.changes? (Text.trimChars text.toList)).getD []

/-- A change makes its assignments and touches no other field. -/
theorem CommandChange.follows_apply (change : CommandChange) (c : RobotCommand) :
    (change.apply c).2.Follows change.assignments c := by
  cases change with
  | velocity vx vy wz => exact c.follows_assignAll (velocity vx vy wz).assignments
  | chassis yaw pitch roll legLength =>
    exact c.follows_assignAll (chassis yaw pitch roll legLength).assignments
  | gimbal yaw pitch => exact c.follows_assignAll (gimbal yaw pitch).assignments
  | shooter fire frictionOn => exact c.follows_assignAll (shooter fire frictionOn).assignments
  | replace d =>
    -- The time stamp alone tells `d` from the record with all fields of `d` assigned to it.
    have hall := c.follows_assignAll d.assignments
    constructor
    · intro f
      refine Eq.trans ?_ (hall.number f)
      cases f <;> rfl
    · intro f
      refine Eq.trans ?_ (hall.flag f)
      cases f <;> rfl
  | assign changes => exact c.follows_assignAll changes
  | line text =>
    rw [apply, CommandLine.apply, assignments]
    rcases CommandLine.changes? (Text.trimChars text.toList) with _ | changes
    · exact .refl c
    · exact c.follows_assignAll changes

namespace Operation

/-- The assignments that an operation makes to the command record. -/
def assignments : Operation → List Assignment
  | .change c => c.assignments
  | _ => []

/-- Operations behind `earlier`, each with all that came before it. -/
def moments (earlier : List Operation) : List Operation → List (List Operation × Operation)
  | [] => []
  | o :: later => (earlier, o) :: moments (earlier ++ [o]) later

theorem moments_append_singleton (earlier operations : List Operation) (o : Operation) :
    moments earlier (operations ++ [o]) =
      moments earlier operations ++ [(earlier ++ operations, o)] := by
  induction operations generalizing earlier with
  | nil => rw [List.append_nil]; rfl
  | cons o' operations ih =>
    rw [List.cons_append, moments, moments, ih, List.append_assoc, List.cons_append]
    rfl

end Operation

namespace Station

variable {s : Station}

theorem run_append_singleton (s : Station) (operations : List Operation) (o : Operation) :
    s.run (operations ++ [o]) = ((s.run operations).apply o).2 := by
  rw [run, run, List.foldl_append]
  rfl

/-- One operation makes its assignments to the command record, and no other. Only a change touches
the record; a tick does whatever the supervisor does, and that is not it. -/
theorem follows_apply (s : Station) (o : Operation) :
    (s.apply o).2.command.Follows o.assignments s.command := by
  cases o with
  | change c => exact c.follows_apply s.command
  | tick =>
    rw [apply]
    rcases s.supervisor with _ | supervisor <;> exact .refl _
  | _ => exact .refl _

/-- **The command of a station** holds the last values that its operations gave. -/
theorem follows_run (s : Station) (operations : List Operation) :
    (s.run operations).command.Follows (operations.flatMap Operation.assignments) s.command := by
  induction operations generalizing s with
  | nil => exact .refl _
  | cons o operations ih =>
    rw [List.flatMap_cons]
    exact (s.follows_apply o).trans (ih (s.apply o).2)

/-! ## What was sent -/

/-- The record that is sent at a moment of a run, if one is: the step of sending comes then, and
it answers that it has sent. -/
def sentAt? (s : Station) (moment : List Operation × Operation) : Option RobotCommand :=
  match moment.2, ((s.run moment.1).apply moment.2).1 with
  | .send now, .sent .sent _ => some (.latest now (moment.1.flatMap Operation.assignments))
  | _, _ => none

/-- The records that are sent in a run, in order. -/
def sentCommands (s : Station) (operations : List Operation) : List RobotCommand :=
  (Operation.moments [] operations).filterMap s.sentAt?

theorem sentCommands_append_singleton (s : Station) (operations : List Operation) (o : Operation) :
    s.sentCommands (operations ++ [o]) =
      s.sentCommands operations ++ (s.sentAt? (operations, o)).toList := by
  rw [sentCommands, Operation.moments_append_singleton, List.filterMap_append, List.nil_append,
    ← sentCommands]
  cases h : s.sentAt? (operations, o) <;> simp [h]

/-- Just the packets of `commands` were written, by the sender, and counted. -/
structure HasSent (s : Station) (commands : List RobotCommand) : Prop where
  writer : s.sender.writer.Serves .outbound
  written : s.link.port.written = commands.map fun c => c.parcel.bytes
  count : s.sender.sent = commands.length

/-- The command record with the time stamp `now`. -/
def commandAt (s : Station) (now : UInt32) : RobotCommand := { s.command with timeStamp := now }

/-- A step of sending at the time `now` writes `packet` and nothing else. -/
structure Sends (s : Station) (now : UInt32) (packet : Bytes) : Prop where
  up : s.link.up = true
  answer : (s.apply (.send now)).1 = .sent .sent [packet]
  written : (s.apply (.send now)).2.link.port.written = s.link.port.written ++ [packet]
  count : (s.apply (.send now)).2.sender.sent = s.sender.sent + 1
  kept : (s.apply (.send now)).2.link.up = true

/-- A step of sending at the time `now` writes nothing and takes the link down. -/
structure Loses (s : Station) (now : UInt32) : Prop where
  up : s.link.up = true
  answer : (s.apply (.send now)).1 = .sent .linkLost []
  written : (s.apply (.send now)).2.link.port.written = s.link.port.written
  count : (s.apply (.send now)).2.sender.sent = s.sender.sent
  lost : (s.apply (.send now)).2.link.up = false

/-- **What a step of sending comes to**: nothing while the link is down, else the packet of the
command record with the time of the step, or a write that fails. What a step answers is what the
port has more than before. -/
theorem send_cases (hs : s.sender.writer.Serves .outbound) (now : UInt32) :
    (s.apply (.send now)).2.sender.writer.Serves .outbound ∧
      ((s.link.up = false ∧ s.apply (.send now) = (.sent .backedOff [], s)) ∨
        s.Sends now (s.commandAt now).parcel.bytes ∨ s.Loses now) := by
  obtain ⟨hwriter, hcases⟩ := Sender.step_cases hs s.link s.command now
  have hanswer : (s.apply (.send now)).1 = .sent (s.sender.step s.link s.command now).1
      ((s.sender.step s.link s.command now).2.2.port.written.drop
        s.link.port.written.length) := rfl
  refine ⟨hwriter, ?_⟩
  rcases hcases with ⟨hdown, -⟩ | ⟨hup, houtcome, hcount, hkept, hwritten⟩ |
    ⟨hup, houtcome, hcount, hlost, hwritten⟩
  · exact .inl ⟨hdown, apply_send_of_down hdown now⟩
  · refine .inr (.inl ⟨hup, ?_, hwritten, hcount, hkept⟩)
    rw [hanswer, houtcome, hwritten, List.drop_left' rfl]
    rfl
  · refine .inr (.inr ⟨hup, ?_, hwritten, hcount, hlost⟩)
    rw [hanswer, houtcome, hwritten, List.drop_length]

/-- The record that an operation sends, if it sends one. -/
def sentBy? (s : Station) (o : Operation) : Option RobotCommand :=
  match o, (s.apply o).1 with
  | .send now, .sent .sent _ => some (s.commandAt now)
  | _, _ => none

/-- The record that is sent at a moment of a run is the one that its operation sends there: the
command record has followed all that came before. -/
theorem sentAt?_eq_sentBy? (port : ScriptedPort) (operations : List Operation) (o : Operation) :
    (ofPort port).sentAt? (operations, o) = ((ofPort port).run operations).sentBy? o := by
  have hlatest : ∀ now, ((ofPort port).run operations).commandAt now =
      RobotCommand.latest now (operations.flatMap Operation.assignments) :=
    ((ofPort port).follows_run operations).eq_latest
  unfold sentAt? sentBy?
  cases o <;> simp only [hlatest]

/-- One operation writes, behind the packets that are there, that of the record which it sends. Only
a step of sending writes; the other operations leave the writer and what was written alone. -/
theorem hasSent_apply {sent : List RobotCommand} (hs : s.HasSent sent) {o : Operation}
    (hraw : ¬ o.IsRaw) : (s.apply o).2.HasSent (sent ++ (s.sentBy? o).toList) := by
  by_cases hsend : ∃ now, o = .send now
  · obtain ⟨now, rfl⟩ := hsend
    obtain ⟨hwriter, ⟨-, hidle⟩ | hsends | hloses⟩ := send_cases hs.writer now
    -- The link is down: nothing is written and nothing counted.
    · have hnone : s.sentBy? (.send now) = none := by
        unfold sentBy?
        rw [hidle]
      rw [hnone, hidle, Option.toList_none, List.append_nil]
      exact hs
    · have hsome : s.sentBy? (.send now) = some (s.commandAt now) := by
        unfold sentBy?
        rw [hsends.answer]
      rw [hsome, Option.toList_some]
      refine ⟨hwriter, ?_, ?_⟩
      · rw [hsends.written, hs.written, List.map_append, List.map_singleton]
      · rw [hsends.count, hs.count, List.length_append, List.length_singleton]
    · have hnone : s.sentBy? (.send now) = none := by
        unfold sentBy?
        rw [hloses.answer]
      rw [hnone, Option.toList_none, List.append_nil]
      exact ⟨hwriter, hloses.written.trans hs.written, hloses.count.trans hs.count⟩
  · have hnone : s.sentBy? o = none := by
      cases o with
      | send now => exact absurd ⟨now, rfl⟩ hsend
      | _ => rfl
    obtain ⟨hsender, hwritten⟩ := s.written_apply hraw fun now h => hsend ⟨now, h⟩
    rw [hnone, Option.toList_none, List.append_nil]
    exact ⟨hsender ▸ hs.writer, hwritten.trans hs.written, hsender ▸ hs.count⟩

/-- A run from the beginning on has written just the packets of what it has sent. What is sent at a
moment depends on all that came before, so the run grows at its end. -/
theorem hasSent_run {port : ScriptedPort} (unused : port.written = [])
    {operations : List Operation} (sending : ∀ o ∈ operations, ¬ o.IsRaw) :
    ((ofPort port).run operations).HasSent ((ofPort port).sentCommands operations) := by
  induction operations using List.reverseRecOn with
  | nil => exact ⟨Writer.serves_make .outbound, unused, rfl⟩
  | append_singleton operations o ih =>
    have hbefore := ih fun o' ho' => sending o' (List.mem_append_left _ ho')
    rw [run_append_singleton, sentCommands_append_singleton, sentAt?_eq_sentBy?]
    exact hasSent_apply hbefore (sending o (by simp))

/-- The packets of commands, one behind the other, are read as these commands. -/
theorem readAll_commands (commands : List RobotCommand) {bytes : Bytes}
    (hbytes : bytes = commands.flatMap fun c => c.parcel.bytes) (d : Delivery bytes) :
    ∃ frames : List Frame,
      ((Reader.make .outbound).readAll d.input).1 = frames.map .frame ++ [.failed .closed] ∧
        frames.map (fun f => (f.id, RobotCommand.decode f.payload)) =
          commands.map fun c => (RobotCommand.id, .ok c) := by
  refine ⟨commands.map fun c => c.parcel.frame, ?_, ?_⟩
  · have hresults := Parcel.results_flatMap (commands.map RobotCommand.parcel)
    rw [List.flatMap_map, ← hbytes] at hresults
    rw [((Reader.make .outbound).readAll_of_delivery d).1]
    show Packet.Config.outbound.results bytes ++ _ = _
    rw [hresults, List.map_map, List.map_map]
    rfl
  · rw [List.map_map]
    apply List.map_congr_left
    intro c _
    exact congrArg (RobotCommand.id, ·) c.decode_encode

/-- **The stream of commands.**  Let anything happen to a station with an unused port, except that
bytes are written past its sender.  What was written is, in order, one packet for each step of
sending that has succeeded: the packet of the record in which every field has the value that was
last given to it before the step, and the time stamp is that of the step.  The sender has counted
just these packets, and the controller reads just these records, however their bytes are delivered.
The next step of sending changes nothing while the link is down.  Else it writes the packet of the
record as it stands then, or it loses the link and writes nothing. -/
theorem outbound_stream {port : ScriptedPort} (unused : port.written = [])
    {operations : List Operation} (sending : ∀ o ∈ operations, ¬ o.IsRaw) {s : Station}
    (reached : (ofPort port).run operations = s) :
    (s.link.port.written.map .ok = ((ofPort port).sentCommands operations).map fun c =>
        Packet.encode Packet.outboundStart RobotCommand.id c.encode) ∧
      s.sender.sent = s.link.port.written.length ∧
      (∀ d : Delivery s.link.port.written.flatten, ∃ frames : List Frame,
        ((Reader.make .outbound).readAll d.input).1 = frames.map .frame ++ [.failed .closed] ∧
          frames.map (fun f => (f.id, RobotCommand.decode f.payload)) =
            ((ofPort port).sentCommands operations).map fun c => (RobotCommand.id, .ok c)) ∧
      ∀ now, (s.link.up = false ∧ s.apply (.send now) = (.sent .backedOff [], s)) ∨
        (∃ packet, Packet.encode Packet.outboundStart RobotCommand.id
            (RobotCommand.latest now (operations.flatMap Operation.assignments)).encode =
              .ok packet ∧ s.Sends now packet) ∨
        s.Loses now := by
  subst reached
  have hsent := hasSent_run unused sending
  refine ⟨?_, ?_, fun d => ?_, fun now => ?_⟩
  · rw [hsent.written, List.map_map]
    apply List.map_congr_left
    intro c _
    exact c.parcel.encode_eq.symm
  · rw [hsent.count, hsent.written, List.length_map]
  -- The packets are read back one by one, however they are delivered.
  · refine readAll_commands _ ?_ d
    rw [hsent.written, List.flatMap_def]
  · have hlatest := ((ofPort port).follows_run operations).eq_latest now
    obtain ⟨-, hidle | hsends | hloses⟩ := send_cases hsent.writer now
    · exact .inl hidle
    · refine .inr (.inl ⟨_, ?_, hsends⟩)
      rw [← hlatest]
      exact (((ofPort port).run operations).commandAt now).parcel.encode_eq
    · exact .inr (.inr hloses)

/-- A write fails between two that succeed, and the velocity is changed twice before the second. -/
def interruptedSending : List Operation :=
  [.supervise, .change (.velocity ⟨1⟩ ⟨2⟩ ⟨3⟩), .send 5, .failWrites true, .send 6,
    .failWrites false, .change (.assign [.number .vx ⟨4⟩]), .tick,
    .change (.assign [.number .vx ⟨7⟩, .flag .fire true]), .send 8]

/-- What was sent before and after the failure. -/
def interruptedRecords : List RobotCommand :=
  [{ RobotCommand.idle with timeStamp := 5, vx := ⟨1⟩, vy := ⟨2⟩, wz := ⟨3⟩ },
    { RobotCommand.idle with timeStamp := 8, vx := ⟨7⟩, vy := ⟨2⟩, wz := ⟨3⟩, fire := true }]

/-- The commands that this run sends, as they stand at each step that succeeds. -/
theorem sentCommands_interruptedSending :
    (ofPort .fresh).sentCommands interruptedSending = interruptedRecords := by
  decide +kernel

/-- A write fails in the middle of this run, and the link comes back: what was sent is counted, and
the controller reads it. -/
theorem outbound_stream_interrupted :
    (∀ o ∈ interruptedSending, ¬ o.IsRaw) ∧
      ((ofPort .fresh).run interruptedSending).sender.sent =
        ((ofPort .fresh).run interruptedSending).link.port.written.length ∧
      ∃ frames : List Frame,
        ((Reader.make .outbound).readAll
          (.ofBytes ((ofPort .fresh).run interruptedSending).link.port.written.flatten)).1 =
            frames.map .frame ++ [.failed .closed] ∧
          frames.map (fun f => (f.id, RobotCommand.decode f.payload)) =
            interruptedRecords.map fun c => (RobotCommand.id, .ok c) := by
  have hsending : ∀ o ∈ interruptedSending, ¬ o.IsRaw := by
    simp [interruptedSending, Operation.IsRaw]
  have hunused : ScriptedPort.fresh.written = [] := rfl
  obtain ⟨-, hcount, hread, -⟩ := outbound_stream hunused hsending rfl
  refine ⟨hsending, hcount, ?_⟩
  rw [← sentCommands_interruptedSending]
  exact hread (.whole _)

end Station

end ControllerLink
