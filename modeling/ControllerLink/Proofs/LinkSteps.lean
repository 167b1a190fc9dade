/-
# What the parts of a link do to it

One lemma for each thing that a part of a link can do, saying all that it
changes of the port, of the flag and of the part itself.  Later proofs go by
these and do not open the parts again.

These are the specifications of the operations of a station, one for each part
that touches the link.  They say what is left unchanged as well as what is done,
so that invariants of runs need no other fact about an operation.
-/
import ControllerLink.Link.Station
import ControllerLink.Proofs.Sending

set_option autoImplicit false

namespace ControllerLink

/-! ## The port and the flag -/

namespace ScriptedPort

/-- Opening the port fails or not, and changes nothing else but the counters. -/
theorem tryOpen_cases (p : ScriptedPort) :
    (∃ e, p.tryOpen.1 = .error e ∧ p.tryOpen.2.isOpen = false ∧ 0 < p.openFailures) ∨
      p.tryOpen.1 = .ok () ∧ p.tryOpen.2.isOpen = !p.opensClosed ∧ p.openFailures = 0 := by
  unfold tryOpen
  split
  · next hfails => exact .inl ⟨_, rfl, rfl, hfails⟩
  · next hopens => exact .inr ⟨rfl, rfl, Nat.eq_zero_of_not_pos hopens⟩

/-- The port after an attempt to open it that does not fail. -/
theorem tryOpen_of_succeeds {p : ScriptedPort} (h : p.openFailures = 0) :
    p.tryOpen =
      (.ok (), { p with openCalls := p.openCalls + 1, isOpen := !p.opensClosed }) := by
  unfold tryOpen
  rw [if_neg (by rw [h]; exact Nat.lt_irrefl 0)]

@[simp] theorem written_tryOpen (p : ScriptedPort) : p.tryOpen.2.written = p.written := by
  unfold tryOpen
  split <;> rfl

/-- A write is taken whole, or nothing of it is. -/
theorem write_cases (p : ScriptedPort) (bytes : Bytes) :
    (∃ e, (p.write bytes).1 = .error e ∧ (p.write bytes).2.written = p.written) ∨
      (p.write bytes).1 = .ok () ∧ (p.write bytes).2.written = p.written ++ [bytes] := by
  unfold write
  dsimp only
  split
  · exact .inl ⟨_, rfl, rfl⟩
  · split
    · exact .inl ⟨_, rfl, rfl⟩
    · exact .inr ⟨rfl, rfl⟩

end ScriptedPort

namespace Link

@[simp] theorem port_logEvent (l : Link) (event : LogEvent) :
    (l.logEvent event).port = l.port := rfl

@[simp] theorem up_logEvent (l : Link) (event : LogEvent) : (l.logEvent event).up = l.up := rfl

@[simp] theorem port_markDown (l : Link) (reason : String) : (l.markDown reason).port = l.port := by
  unfold markDown
  split <;> rfl

@[simp] theorem up_markDown (l : Link) (reason : String) : (l.markDown reason).up = false := by
  unfold markDown
  split
  · rfl
  · next hdown => exact Bool.eq_false_iff.2 hdown

end Link

/-! ## The supervisor -/

namespace Supervisor

/-- The port after an attempt to open it. -/
theorem port_tryOpen (s : Supervisor) (l : Link) : (s.tryOpen l).2.port = l.port.tryOpen.2 := by
  unfold tryOpen
  dsimp only
  split
  · exact Link.port_markDown _ _
  · split
    · rfl
    · exact Link.port_markDown _ _

/-- The flag is raised exactly by an attempt that leaves the port open. An attempt can succeed and
still leave the port closed, so that both have to be asked. -/
theorem up_tryOpen (s : Supervisor) (l : Link) :
    (s.tryOpen l).2.up = l.port.tryOpen.2.isOpen := by
  unfold tryOpen
  dsimp only
  rcases l.port.tryOpen_cases with ⟨e, hresult, hshut, -⟩ | ⟨hresult, -, -⟩
  · rw [hresult, hshut]
    exact Link.up_markDown _ _
  · rw [hresult]
    dsimp only
    split
    · next hopen =>
      rw [hopen]
      rfl
    · next hshut =>
      rw [Bool.eq_false_iff.2 hshut]
      exact Link.up_markDown _ _

/-- A tick that finds the link down closes the port and tries to open it. -/
theorem tick_of_down (s : Supervisor) {l : Link} (hdown : l.up = false) :
    (s.tick l).2.2 = (s.tryOpen { l with port := l.port.close }).2 := by
  unfold tick
  rw [if_neg (by simp [hdown])]

theorem tick_of_up (s : Supervisor) {l : Link} (hup : l.up = true) : s.tick l = (true, s, l) := by
  unfold tick
  rw [if_pos hup]

theorem written_tick (s : Supervisor) (l : Link) :
    (s.tick l).2.2.port.written = l.port.written := by
  rcases hflag : l.up with _ | _
  · rw [s.tick_of_down hflag, port_tryOpen, ScriptedPort.written_tryOpen]
    rfl
  · rw [s.tick_of_up hflag]

end Supervisor

/-! ## The receiver -/

/-- Whether a step told the sink of a record. -/
def ReceiveOutcome.isDispatched : ReceiveOutcome → Bool
  | .dispatched _ => true
  | _ => false

/-- Whether a step met a valid packet with an id outside of the catalog. -/
def ReceiveOutcome.isUnknown : ReceiveOutcome → Bool
  | .unknown _ => true
  | _ => false

/-- What a step of receiving comes to when its poll comes to this. -/
def Polled.received : Polled → ReceiveOutcome
  | .idle => .idle
  | .stalled => .stalled
  | .failed e => if e.isLinkFailure then .linkLost else .discarded
  | .frame f =>
    match MessageKind.ofId? f.id with
    | none => .unknown f.id
    | some kind =>
      match Telemetry.decode kind f.payload with
      | .ok _ => .dispatched kind
      | .error _ => .discarded

/-- The record of which the sink is told when a poll comes to this. -/
def Polled.record? : Polled → Option Telemetry
  | .frame f => (Telemetry.ofMessage f.id f.payload).toOption
  | _ => none

/-- Whether the stream failed in a poll. -/
def Polled.losesLink : Polled → Bool
  | .failed e => e.isLinkFailure
  | _ => false

theorem Polled.losesLink_frame (f : Frame) : (Polled.frame f).losesLink = false := rfl

/-- A step of receiving loses the link just if the result of its poll does. -/
theorem Polled.received_eq_linkLost_iff (o : Polled) :
    o.received = .linkLost ↔ o.losesLink = true := by
  cases o with
  | idle | stalled => simp [received, losesLink]
  | failed e =>
    rw [received, losesLink]
    split
    · next hfailure => simp [hfailure]
    · next hrefused => simp [hrefused]
  | frame f =>
    rw [received, losesLink_frame]
    split
    · simp
    · split <;> simp

/-- A step of receiving is idle exactly when its poll is. -/
theorem Polled.received_eq_idle_iff (o : Polled) : o.received = .idle ↔ o = .idle := by
  cases o with
  | idle | stalled => simp [received]
  | failed e =>
    rw [received]
    split <;> simp
  | frame f =>
    rw [received]
    split
    · simp
    · split <;> simp

/-- Steps of receiving that are not idle are those of the polls that are not. -/
theorem Polled.filter_received (polls : List Polled) :
    (polls.map received).filter (· ≠ .idle) = (polls.filter (· ≠ .idle)).map received := by
  rw [List.filter_map]
  congr 1
  apply List.filter_congr
  intro o _
  simp [received_eq_idle_iff]

/-- An idle poll tells the sink of nothing. -/
theorem Polled.filterMap_record? (polls : List Polled) :
    (polls.filter (· ≠ .idle)).filterMap record? = polls.filterMap record? := by
  rw [List.filterMap_filter]
  congr 1
  funext o
  cases o <;> simp [record?]

namespace Receiver

/-- **What follows from a poll**: its outcome decides what the step comes to and of which record the
sink is told, and takes the link down exactly where the stream failed. The cases are those of the
result: a packet is known or not, and its payload decodes or not. -/
theorem settle_spec (r : Receiver) (l : Link) (o : Polled) :
    (r.settle l o).1 = o.received ∧ (r.settle l o).2.1.reader = r.reader ∧
      (r.settle l o).2.1.told = r.told ++ o.record?.toList ∧
      (r.settle l o).2.2.port = l.port ∧
      (r.settle l o).2.2.up = (l.up && !o.losesLink) := by
  cases o with
  | idle => simp [settle, Polled.received, Polled.record?, Polled.losesLink]
  | stalled => simp [settle, Polled.received, Polled.record?, Polled.losesLink]
  | failed e =>
    rw [settle, Polled.received, Polled.losesLink]
    split
    · next hfailure => simp [Polled.record?, hfailure]
    · next hrefused => simp [Polled.record?, hrefused]
  | frame f =>
    rw [settle, deliver, Polled.received, Polled.record?, Polled.losesLink_frame,
      Telemetry.ofMessage]
    rcases MessageKind.ofId? f.id with _ | kind
    · simp [Except.toOption]
    · dsimp only
      rcases Telemetry.decode kind f.payload with e | t
      · simp [Except.toOption]
      · simp [Except.toOption]

/-- The poll that a step of receiving makes while the link is up. -/
def pollOf (r : Receiver) (l : Link) (w : Watch) : Poll :=
  r.reader.poll l.port.input w.patience

/-- **What a step of receiving does** while the link is up follows from its poll. -/
theorem step_of_up (r : Receiver) {l : Link} (w : Watch) (hup : l.up = true) :
    (r.step l w).1 = (r.pollOf l w).outcome.received ∧
      (r.step l w).2.1.reader = (r.pollOf l w).reader ∧
      (r.step l w).2.1.told = r.told ++ (r.pollOf l w).outcome.record?.toList ∧
      (r.step l w).2.2.port =
        l.port.afterReads (r.pollOf l w).transcript.reads (r.pollOf l w).input ∧
      (r.step l w).2.2.up = (!w.isExceeded (r.pollOf l w).transcript.quietReads &&
        !(r.pollOf l w).outcome.losesLink) := by
  unfold step
  rw [if_pos hup]
  show (settle _ (afterPoll l w (r.pollOf l w)) (r.pollOf l w).outcome).1 = _ ∧ _
  obtain ⟨houtcome, hreader, htold, hport, hflag⟩ :=
    settle_spec { r with reader := (r.pollOf l w).reader } (afterPoll l w (r.pollOf l w))
      (r.pollOf l w).outcome
  -- What the watch has done to the link after the poll, before the result is settled.
  have hafter : (afterPoll l w (r.pollOf l w)).port =
      l.port.afterReads (r.pollOf l w).transcript.reads (r.pollOf l w).input := by
    unfold afterPoll
    dsimp only
    split
    · exact Link.port_markDown _ _
    · rfl
  have hup' : (afterPoll l w (r.pollOf l w)).up =
      !w.isExceeded (r.pollOf l w).transcript.quietReads := by
    unfold afterPoll
    dsimp only
    split
    · next hexceeded =>
      rw [hexceeded]
      exact Link.up_markDown _ _
    · next hpatient =>
      rw [Bool.eq_false_iff.2 hpatient]
      exact hup
  exact ⟨houtcome, hreader, htold, hport.trans hafter, hup' ▸ hflag⟩

/-- A step of receiving does nothing while the link is down. -/
theorem step_of_down (r : Receiver) {l : Link} (w : Watch) (hdown : l.up = false) :
    r.step l w = (.backedOff, r, l) := by
  unfold step
  rw [if_neg (by simp [hdown])]

/-- A step of receiving writes nothing. -/
theorem written_step (r : Receiver) (l : Link) (w : Watch) :
    (r.step l w).2.2.port.written = l.port.written := by
  rcases hflag : l.up with _ | _
  · rw [r.step_of_down w hflag]
  · obtain ⟨-, -, -, hport, -⟩ := r.step_of_up w hflag
    rw [hport]
    rfl

end Receiver

/-! ## The sender -/

/-- A step of sending does nothing while the link is down. -/
theorem Sender.step_of_down (s : Sender) {l : Link} (command : RobotCommand) (now : UInt32)
    (hdown : l.up = false) : s.step l command now = (.backedOff, s, l) := by
  unfold step
  rw [if_neg (by simp [hdown])]

/-- **What a step of sending does**: nothing while the link is down; else it writes the packet of
the command with the time stamp of the step, or the write fails and takes the link down. With the
flag down nothing is done; with it up the packet is assembled, and its write succeeds or fails. -/
theorem Sender.step_cases {s : Sender} (hs : s.writer.Serves .outbound) (l : Link)
    (command : RobotCommand) (now : UInt32) :
    (s.step l command now).2.1.writer.Serves .outbound ∧
      ((l.up = false ∧ s.step l command now = (.backedOff, s, l)) ∨
        (l.up = true ∧ (s.step l command now).1 = .sent ∧
          (s.step l command now).2.1.sent = s.sent + 1 ∧
          (s.step l command now).2.2.up = true ∧
          (s.step l command now).2.2.port.written =
            l.port.written ++ [({ command with timeStamp := now } : RobotCommand).parcel.bytes]) ∨
        l.up = true ∧ (s.step l command now).1 = .linkLost ∧
          (s.step l command now).2.1.sent = s.sent ∧
          (s.step l command now).2.2.up = false ∧
          (s.step l command now).2.2.port.written = l.port.written) := by
  rcases hflag : l.up with _ | _
  · rw [s.step_of_down command now hflag]
    exact ⟨hs, .inl ⟨rfl, rfl⟩⟩
  · obtain ⟨w', hw', hbuffer, hpacket⟩ :=
      Writer.assemble_parcel hs ({ command with timeStamp := now } : RobotCommand).parcel
    have hassemble : s.writer.assemble RobotCommand.id
        ({ command with timeStamp := now } : RobotCommand).encode = _ := hpacket
    unfold step
    rw [if_pos hflag, hassemble]
    dsimp only
    rw [hbuffer]
    rcases l.port.write_cases ({ command with timeStamp := now } : RobotCommand).parcel.bytes with
      ⟨e, hresult, hwritten⟩ | ⟨hresult, hwritten⟩
    · rw [hresult]
      refine ⟨hw', .inr (.inr ⟨rfl, rfl, rfl, Link.up_markDown _ _, ?_⟩)⟩
      exact (congrArg ScriptedPort.written (Link.port_markDown _ _)).trans hwritten
    · rw [hresult]
      exact ⟨hw', .inr (.inl ⟨rfl, rfl, rfl, hflag, hwritten⟩)⟩

/-! ## The station -/

namespace Station

variable {s : Station}

/-- A station whose link is down receives nothing. -/
theorem apply_receive_of_down (hdown : s.link.up = false) (w : Watch) :
    s.apply (.receive w) = (.received .backedOff [], s) := by
  rw [apply, s.receiver.step_of_down w hdown]
  dsimp only
  rw [List.drop_length]

/-- A station whose link is down sends nothing. -/
theorem apply_send_of_down (hdown : s.link.up = false) (now : UInt32) :
    s.apply (.send now) = (.sent .backedOff [], s) := by
  rw [apply, s.sender.step_of_down s.command now hdown]
  dsimp only
  rw [List.drop_length]

/-- A tick of a station with its link down closes the port and tries to open it. -/
theorem link_tick_of_down (hsupervised : s.supervisor.isSome)
    (hdown : s.link.up = false) : ∃ supervisor : Supervisor, (s.apply .tick).2.link =
      (supervisor.tryOpen { s.link with port := s.link.port.close }).2 := by
  obtain ⟨supervisor, hsupervisor⟩ := Option.isSome_iff_exists.1 hsupervised
  refine ⟨supervisor, ?_⟩
  rw [apply, hsupervisor]
  exact supervisor.tick_of_down hdown

end Station

end ControllerLink
