/-
# The flag tells the truth about the port

The parts of a link believe a flag and not the port.  Only the supervisor opens
the port, and it sets the flag by what came of that; every other part can only
lower the flag, and while the flag is down the receiver and the sender leave
everything alone.  So the flag is never up over a closed port, whatever happens
in whatever order.

Two relations between the link before and behind an operation are enough:
* `Link.Keeps`, for all parts but the supervisor: the port is neither opened nor
  closed and the flag is not raised (`Station.keeps_apply`);
* `Link.Tried`, for the supervisor: the port is what an attempt to open it has
  left, and the flag is whether it is open (`Supervisor.tried_tryOpen`).
Neither needs an invariant to hold before, so that the flag over a closed port
is excluded by one case split over the operations (`Station.isOpen_apply`). The
stations that can be reached are those of any such operations; since a station
has only one supervisor, receiver and sender, they may be exchanged for others
at any time, which allows for as many of each as there are.
-/
import ControllerLink.Proofs.LinkSteps

set_option autoImplicit false

namespace ControllerLink

/-! ## What may happen to the flag and the port

Opening and closing the port past the supervisor is what a link does not do by itself; it is left
out of the stations that can be reached. -/

/-- An operation that opens or closes the port past the supervisor. -/
def Operation.IsDirect : Operation → Prop
  | .openPort | .closePort => True
  | _ => False

/-- From `l` to `l'` the port was neither opened nor closed, and the flag was not raised. -/
structure Link.Keeps (l l' : Link) : Prop where
  isOpen : l'.port.isOpen = l.port.isOpen
  lowers : l'.up = true → l.up = true

/-- In `l` the port is `p` after an attempt to open it, and the flag says what came of that. -/
structure Link.Tried (l : Link) (p : ScriptedPort) : Prop where
  port : l.port = p.tryOpen.2
  up : l.up = l.port.isOpen

namespace Link

theorem Keeps.refl (l : Link) : l.Keeps l := ⟨rfl, id⟩

theorem Keeps.markDown {l l' : Link} (h : l.Keeps l') (reason : String) :
    l.Keeps (l'.markDown reason) where
  isOpen := by rw [port_markDown, h.isOpen]
  lowers := by
    intro hup
    exact absurd hup (by simp)

/-- When the flag is up after an attempt, the attempt has succeeded and the port is open. A failed
attempt leaves the port closed, and the flag would say so. -/
theorem Tried.tryOpen_eq {l : Link} {p : ScriptedPort} (h : l.Tried p) (hup : l.up = true) :
    p.tryOpen = (.ok (), l.port) ∧ l.port.isOpen = true := by
  have hopen : l.port.isOpen = true := h.up ▸ hup
  refine ⟨?_, hopen⟩
  rcases p.tryOpen_cases with ⟨e, -, hshut, -⟩ | ⟨hok, -, -⟩
  · rw [h.port, hshut] at hopen
    exact absurd hopen (by simp)
  · rw [h.port, ← hok]

end Link

/-! ## The parts of a link -/

/-- What an attempt to open the port has done. -/
theorem Supervisor.tried_tryOpen (s : Supervisor) (l : Link) : (s.tryOpen l).2.Tried l.port where
  port := s.port_tryOpen l
  up := by rw [up_tryOpen, port_tryOpen]

/-- A tick answers whether the flag is up behind it. -/
theorem Supervisor.fst_tick (s : Supervisor) (l : Link) : (s.tick l).1 = (s.tick l).2.2.up := by
  rcases hflag : l.up with _ | _
  · unfold tick
    rw [if_neg (by simp [hflag])]
  · rw [s.tick_of_up hflag]
    exact hflag.symm

/-- Writing neither opens nor closes the port. -/
theorem ScriptedPort.isOpen_write (p : ScriptedPort) (bytes : Bytes) :
    (p.write bytes).2.isOpen = p.isOpen := by
  unfold write
  dsimp only
  split
  · rfl
  · split <;> rfl

/-- Receiving may lower the flag, and does not close the port. -/
theorem Receiver.keeps_step (r : Receiver) (l : Link) (w : Watch) : l.Keeps (r.step l w).2.2 := by
  rcases hflag : l.up with _ | _
  · rw [r.step_of_down w hflag]
    exact .refl l
  · obtain ⟨-, -, -, hport, -⟩ := r.step_of_up w hflag
    exact ⟨by rw [hport]; rfl, fun _ => hflag⟩

/-- Sending may lower the flag, and does not close the port. -/
theorem Sender.keeps_step (s : Sender) (l : Link) (command : RobotCommand) (now : UInt32) :
    l.Keeps (s.step l command now).2.2 := by
  rcases hflag : l.up with _ | _
  · rw [s.step_of_down command now hflag]
    exact .refl l
  unfold step
  rw [if_pos hflag]
  -- Whether there is a packet, and whether it is written: neither opens the port.
  split
  · exact ⟨rfl, id⟩
  next writer _ =>
  have hkeeps : l.Keeps { l with port := (l.port.write writer.buffer).2 } :=
    ⟨l.port.isOpen_write writer.buffer, id⟩
  dsimp only
  split
  · exact hkeeps
  · exact hkeeps.markDown _

namespace Station

/-- **No part but the supervisor** opens the port, closes it, or raises the flag. -/
theorem keeps_apply (s : Station) {o : Operation} (hdirect : ¬ o.IsDirect)
    (hsupervise : o ≠ .supervise) (htick : o ≠ .tick) : s.link.Keeps (s.apply o).2.link := by
  cases o with
  | push step => exact ⟨rfl, id⟩
  | failOpens count => exact ⟨rfl, id⟩
  | openClosed closed => exact ⟨rfl, id⟩
  | failWrites fail => exact ⟨rfl, id⟩
  | openPort | closePort => exact absurd trivial hdirect
  | readPort room => exact ⟨rfl, id⟩
  | readStream room => exact ⟨rfl, id⟩
  | writePort bytes => exact ⟨s.link.port.isOpen_write bytes, id⟩
  | change c =>
    show s.link.Keeps
      (if (c.apply s.command).1 = some false then s.link.logAll c.events else s.link)
    split
    · exact ⟨rfl, id⟩
    · exact .refl _
  | supervise => exact absurd rfl hsupervise
  | tick => exact absurd rfl htick
  | markDown reason => exact Link.Keeps.markDown (.refl s.link) reason
  | receive w => exact s.receiver.keeps_step s.link w
  | send now => exact s.sender.keeps_step s.link s.command now

/-- A supervisor tries to open the port when it starts. -/
theorem tried_supervise (s : Station) : (s.apply .supervise).2.link.Tried s.link.port :=
  Supervisor.tried_tryOpen ⟨0⟩ s.link

/-- A tick with the flag up does nothing. -/
theorem apply_tick_of_up {s : Station} (hup : s.link.up = true) : (s.apply .tick).2 = s := by
  unfold apply
  dsimp only
  split
  · rfl
  · next supervisor hsupervisor =>
    rw [supervisor.tick_of_up hup, ← hsupervisor]

/-- A tick with the flag down closes the port and tries to open it. -/
theorem tried_tick {s : Station} (hsupervised : s.supervisor.isSome) (hdown : s.link.up = false) :
    (s.apply .tick).2.link.Tried s.link.port.close := by
  obtain ⟨supervisor, hlink⟩ := link_tick_of_down hsupervised hdown
  rw [hlink]
  exact supervisor.tried_tryOpen _

/-- A supervisor answers with the flag as it leaves it. -/
theorem answer_tick {s : Station} (hsupervised : s.supervisor.isSome) :
    ∃ failures, (s.apply .tick).1 = .ticked (s.apply .tick).2.link.up failures := by
  obtain ⟨supervisor, hsupervisor⟩ := Option.isSome_iff_exists.1 hsupervised
  rw [apply, hsupervisor]
  refine ⟨(supervisor.tick s.link).2.1.failures, ?_⟩
  show Answer.ticked (supervisor.tick s.link).1 _ = .ticked (supervisor.tick s.link).2.2.up _
  rw [supervisor.fst_tick]

/-! ## Stations that can be reached -/

/-- The stations that can be reached over `port`: from the one that has just been put together, by
any operations that do not open or close the port directly.  Any number of supervisors, receivers
and senders may share the link, so that the other parts may be exchanged at any time. -/
inductive Reachable (port : ScriptedPort) : Station → Prop where
  | start : Reachable port (.ofPort port)
  | apply {s : Station} (h : Reachable port s) {o : Operation} (hdirect : ¬ o.IsDirect) :
      Reachable port (s.apply o).2
  | exchange {s t : Station} (h : Reachable port s) (hlink : t.link = s.link) : Reachable port t

variable {s : Station}

/-- A run of such operations stays among these stations. -/
theorem Reachable.run {port : ScriptedPort} (h : Reachable port s) {operations : List Operation}
    (hdirect : ∀ o ∈ operations, ¬ o.IsDirect) : Reachable port (s.run operations) := by
  induction operations generalizing s with
  | nil => exact h
  | cons o operations ih =>
    obtain ⟨ho, hlater⟩ := List.forall_mem_cons.1 hdirect
    exact ih (h.apply ho) hlater

/-- One operation keeps the flag from being up over a closed port. -/
theorem isOpen_apply (hs : s.link.up = true → s.link.port.isOpen = true) {o : Operation}
    (hdirect : ¬ o.IsDirect) (hup : (s.apply o).2.link.up = true) :
    (s.apply o).2.link.port.isOpen = true := by
  by_cases hsupervise : o = .supervise
  · subst hsupervise
    exact (s.tried_supervise.tryOpen_eq hup).2
  by_cases htick : o = .tick
  · subst htick
    rcases hflag : s.link.up with _ | _
    · rcases hsupervisor : s.supervisor with _ | supervisor
      · -- Without a supervisor nothing ticks.
        rw [Station.apply, hsupervisor] at hup
        exact absurd (hflag.symm.trans hup) (by simp)
      · exact ((tried_tick (by simp [hsupervisor]) hflag).tryOpen_eq hup).2
    · rw [apply_tick_of_up hflag]
      exact hs hflag
  · have hkeeps := s.keeps_apply hdirect hsupervise htick
    rw [hkeeps.isOpen]
    exact hs (hkeeps.lowers hup)

/-- The flag is never up over a closed port. -/
theorem Reachable.isOpen_of_up {port : ScriptedPort} (h : Reachable port s)
    (hup : s.link.up = true) : s.link.port.isOpen = true := by
  induction h with
  | start => exact absurd hup (by simp [ofPort, Link.ofPort])
  | apply h hdirect ih => exact isOpen_apply ih hdirect hup
  | exchange h hlink ih =>
    rw [hlink] at hup ⊢
    exact ih hup

/-- The flag is raised only by the supervisor, and only after an attempt to open the port that
succeeded and left it open. -/
theorem tryOpen_of_raised {o : Operation} (hdirect : ¬ o.IsDirect) (hdown : s.link.up = false)
    (hup : (s.apply o).2.link.up = true) :
    (o = .supervise ∨ o = .tick) ∧ ∃ p, (p = s.link.port ∨ p = s.link.port.close) ∧
      p.tryOpen = (.ok (), (s.apply o).2.link.port) ∧
      (s.apply o).2.link.port.isOpen = true := by
  by_cases hsupervise : o = .supervise
  · subst hsupervise
    exact ⟨.inl rfl, s.link.port, .inl rfl, s.tried_supervise.tryOpen_eq hup⟩
  by_cases htick : o = .tick
  · subst htick
    rcases hsupervisor : s.supervisor with _ | supervisor
    · rw [Station.apply, hsupervisor] at hup
      exact absurd (hdown.symm.trans hup) (by simp)
    · exact ⟨.inr rfl, s.link.port.close, .inr rfl,
        (tried_tick (by simp [hsupervisor]) hdown).tryOpen_eq hup⟩
  · have hkept := (s.keeps_apply hdirect hsupervise htick).lowers hup
    exact absurd (hdown.symm.trans hkept) (by simp)

/-- **The flag tells the truth about the port**, in every station that can be reached. While it is
up, the port is open. Only a supervisor that starts or ticks raises it, and only after an attempt to
open the port that succeeded and left it open. Behind each start and each tick the flag is up
exactly when the port is open, and a tick answers just that. A step of receiving or of sending that
finds the flag down backs off and leaves the whole station as it is. -/
theorem flag_tells_truth {port : ScriptedPort} (reached : Reachable port s) :
    (s.link.up = true → s.link.port.isOpen = true) ∧
      (∀ o : Operation, ¬ o.IsDirect → s.link.up = false → (s.apply o).2.link.up = true →
        (o = .supervise ∨ o = .tick) ∧ ∃ p, (p = s.link.port ∨ p = s.link.port.close) ∧
          p.tryOpen = (.ok (), (s.apply o).2.link.port) ∧
          (s.apply o).2.link.port.isOpen = true) ∧
      (s.apply .supervise).2.link.up = (s.apply .supervise).2.link.port.isOpen ∧
      (s.supervisor.isSome → (s.apply .tick).2.link.up = (s.apply .tick).2.link.port.isOpen ∧
        ∃ failures,
          (s.apply .tick).1 = .ticked (s.apply .tick).2.link.port.isOpen failures) ∧
      (s.link.up = false →
        (∀ w, s.apply (.receive w) = (.received .backedOff [], s)) ∧
          ∀ now, s.apply (.send now) = (.sent .backedOff [], s)) := by
  refine ⟨reached.isOpen_of_up, fun o hdirect => tryOpen_of_raised hdirect,
    s.tried_supervise.up, fun hsupervised => ?_,
    fun hdown => ⟨apply_receive_of_down hdown, apply_send_of_down hdown⟩⟩
  have hflag : (s.apply .tick).2.link.up = (s.apply .tick).2.link.port.isOpen := by
    rcases hup : s.link.up with _ | _
    · exact (tried_tick hsupervised hup).up
    · rw [apply_tick_of_up hup, hup, reached.isOpen_of_up hup]
  exact ⟨hflag, hflag ▸ answer_tick hsupervised⟩

/-- The port stays closed although opening it succeeds, then it cannot be opened, then it is open,
and then a write fails. -/
def restless : List Operation :=
  [.openClosed true, .supervise, .openClosed false, .failOpens 1, .tick, .tick, .failWrites true,
    .send 0]

/-- After the write that fails the station backs off, until its supervisor raises the flag again. -/
theorem flag_tells_truth_restless :
    Reachable .fresh ((ofPort .fresh).run restless) ∧
      ((ofPort .fresh).run restless).link.up = false ∧
      ((ofPort .fresh).run restless).apply (.receive .forever) =
        (.received .backedOff [], (ofPort .fresh).run restless) ∧
      ∃ failures, (((ofPort .fresh).run restless).apply .tick).1 = .ticked true failures := by
  have hdirect : ∀ o ∈ restless, ¬ o.IsDirect := by
    simp [restless, Operation.IsDirect]
  have hreached : Reachable .fresh ((ofPort .fresh).run restless) := Reachable.start.run hdirect
  have hdown : ((ofPort .fresh).run restless).link.up = false := by decide +kernel
  have hopen : (((ofPort .fresh).run restless).apply .tick).2.link.port.isOpen = true := by
    decide +kernel
  obtain ⟨-, -, -, htick, hbacksOff⟩ := flag_tells_truth hreached
  obtain ⟨failures, hanswer⟩ := (htick (by decide +kernel)).2
  exact ⟨hreached, hdown, (hbacksOff hdown).1 .forever, failures, hopen ▸ hanswer⟩

end Station

end ControllerLink
