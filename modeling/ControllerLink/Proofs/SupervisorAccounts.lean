/-
# The accounts of a supervisor

A supervisor counts the attempts that have failed since the last one that
succeeded, and it asks for no more of the port than one attempt when it starts
and, at each tick that finds the link down, one closing and one attempt.  From
any station with its link down one good attempt is enough to recover.

Operations are told apart by whether they make an attempt
(`Station.isSome_attempt?_iff`). Those that make none ask nothing of the port
but to read and to write (`Link.Spares`, `Station.spares_apply`); those that
make one ask just what a supervisor asks (`Station.calls_apply`). The number of
failures is that of the log, where it was shown that the supervisor counts the
attempts that have failed in a row; here it is used at a tick that finds the
link down (`Station.tick_of_down`).
-/
import ControllerLink.Proofs.LinkLog

set_option autoImplicit false

namespace ControllerLink

/-! ## Calls of the port -/

namespace ScriptedPort

@[simp] theorem openCalls_tryOpen (p : ScriptedPort) :
    p.tryOpen.2.openCalls = p.openCalls + 1 := by
  unfold tryOpen
  split <;> rfl

@[simp] theorem closeCalls_tryOpen (p : ScriptedPort) :
    p.tryOpen.2.closeCalls = p.closeCalls := by
  unfold tryOpen
  split <;> rfl

/-- An attempt succeeds exactly if the port can be opened and is open behind that. An attempt fails
for an error, or because the port is closed in spite of a success. -/
theorem attempt_eq_succeeded_iff (p : ScriptedPort) :
    p.attempt = .succeeded ↔ ∃ opened, p.tryOpen = (.ok (), opened) ∧ opened.isOpen = true := by
  unfold attempt
  constructor
  · intro h
    split at h
    · exact absurd h (by simp)
    · next opened hopened =>
      split at h
      · next hopen => exact ⟨opened, hopened, hopen⟩
      · exact absurd h (by simp)
  · rintro ⟨opened, hopened, hopen⟩
    rw [hopened]
    exact if_pos hopen

end ScriptedPort

/-- From `l` to `l'` nobody has asked to open the port or to close it. -/
structure Link.Spares (l l' : Link) : Prop where
  opens : l'.port.openCalls = l.port.openCalls
  closes : l'.port.closeCalls = l.port.closeCalls

namespace Link

theorem Spares.refl (l : Link) : l.Spares l := ⟨rfl, rfl⟩

theorem Spares.markDown {l l' : Link} (h : l.Spares l') (reason : String) :
    l.Spares (l'.markDown reason) where
  opens := by rw [port_markDown, h.opens]
  closes := by rw [port_markDown, h.closes]

/-- Writing asks neither to open nor to close. -/
theorem spares_write (l : Link) (bytes : Bytes) :
    l.Spares { l with port := (l.port.write bytes).2 } := by
  unfold ScriptedPort.write
  dsimp only
  split
  · exact ⟨rfl, rfl⟩
  · split <;> exact ⟨rfl, rfl⟩

end Link

/-- Receiving neither opens nor closes the port. -/
theorem Receiver.spares_step (r : Receiver) (l : Link) (w : Watch) :
    l.Spares (r.step l w).2.2 := by
  rcases hflag : l.up with _ | _
  · rw [r.step_of_down w hflag]
    exact .refl l
  · obtain ⟨-, -, -, hport, -⟩ := r.step_of_up w hflag
    constructor <;> rw [hport] <;> rfl

/-- Sending neither opens nor closes the port. -/
theorem Sender.spares_step (s : Sender) (l : Link) (command : RobotCommand) (now : UInt32) :
    l.Spares (s.step l command now).2.2 := by
  unfold step
  split
  · split
    · exact ⟨rfl, rfl⟩
    · next writer _ =>
      have hwritten := l.spares_write writer.buffer
      dsimp only
      split
      · exact hwritten
      · exact hwritten.markDown _
  · exact .refl l

namespace Station

variable {s : Station}

/-- Whether an operation is a tick of a supervisor that finds the flag down. -/
def revives (s : Station) : Operation → Bool
  | .tick => s.supervisor.isSome && !s.link.up
  | _ => false

/-- An attempt is made by a supervisor that starts, and by each tick that finds the flag down. -/
theorem isSome_attempt?_iff (s : Station) (o : Operation) :
    (s.attempt? o).isSome = true ↔ o = .supervise ∨ s.revives o = true := by
  cases o with
  | supervise => simp [attempt?]
  | tick =>
    rw [attempt?, revives]
    split
    · next hdown => simp [hdown]
    · next hidle => simp [hidle]
  | _ => simp [attempt?, revives]

/-- Where no attempt is made, nobody opens or closes the port. -/
theorem spares_apply {o : Operation} (hdirect : ¬ o.IsDirect) (hnone : s.attempt? o = none) :
    s.link.Spares (s.apply o).2.link := by
  cases o with
  | push step | failOpens count | openClosed closed | failWrites fail => exact ⟨rfl, rfl⟩
  | openPort | closePort => exact absurd trivial hdirect
  | readPort room | readStream room => exact ⟨rfl, rfl⟩
  | writePort bytes => exact s.link.spares_write bytes
  | change c =>
    show s.link.Spares
      (if (c.apply s.command).1 = some false then s.link.logAll c.events else s.link)
    split
    · exact ⟨rfl, rfl⟩
    · exact .refl _
  | supervise => exact absurd hnone (by simp [attempt?])
  | tick =>
    rw [apply]
    rcases hsupervisor : s.supervisor with _ | supervisor
    · exact .refl _
    · rcases hflag : s.link.up with _ | _
      · exact absurd hnone (by simp [attempt?, hsupervisor, hflag])
      · dsimp only
        rw [supervisor.tick_of_up hflag]
        exact .refl _
  | markDown reason => exact (Link.Spares.refl s.link).markDown reason
  | receive w => exact s.receiver.spares_step s.link w
  | send now => exact s.sender.spares_step s.link s.command now

/-- **What an operation asks of the port**: to be opened once, by a supervisor that starts and by a
tick that finds the flag down; to be closed once, by such a tick. -/
theorem calls_apply {o : Operation} (hdirect : ¬ o.IsDirect) :
    (s.apply o).2.link.port.openCalls =
        s.link.port.openCalls + (if o = .supervise ∨ s.revives o = true then 1 else 0) ∧
      (s.apply o).2.link.port.closeCalls =
        s.link.port.closeCalls + (if s.revives o = true then 1 else 0) := by
  by_cases hattempt : o = .supervise ∨ s.revives o = true
  · rw [if_pos hattempt]
    rcases hattempt with rfl | hrevives
    · have htried := s.tried_supervise.port
      rw [htried, ScriptedPort.openCalls_tryOpen, ScriptedPort.closeCalls_tryOpen]
      exact ⟨rfl, rfl⟩
    · obtain rfl : o = .tick := by
        cases o with
        | tick => rfl
        | _ => exact absurd hrevives (by simp [revives])
      rw [if_pos hrevives]
      rw [revives, Bool.and_eq_true, Bool.not_eq_true'] at hrevives
      have htried := (tried_tick hrevives.1 hrevives.2).port
      rw [htried, ScriptedPort.openCalls_tryOpen, ScriptedPort.closeCalls_tryOpen]
      exact ⟨rfl, rfl⟩
  · have hnone : s.attempt? o = none := by
      rw [← Option.not_isSome_iff_eq_none, isSome_attempt?_iff]
      exact hattempt
    obtain ⟨hopens, hcloses⟩ := spares_apply hdirect hnone
    rw [if_neg hattempt, if_neg fun hrevives => hattempt (.inr hrevives)]
    exact ⟨hopens, hcloses⟩

/-- As often as an attempt was made, the port was asked to open. -/
theorem openCalls_run {port : ScriptedPort} {operations : List Operation}
    (alone : ∀ o ∈ operations, ¬ o.IsDirect) :
    ((ofPort port).run operations).link.port.openCalls =
      port.openCalls + ((ofPort port).attempts operations).length := by
  induction operations using List.reverseRecOn with
  | nil => rfl
  | append_singleton operations o ih =>
    have hbefore := ih fun o' ho' => alone o' (List.mem_append_left _ ho')
    have hcalls := (@calls_apply ((ofPort port).run operations) o (alone o (by simp))).1
    rw [run_append_singleton, hcalls, hbefore, attempts_append_singleton, List.length_append]
    simp only [← isSome_attempt?_iff]
    rcases ((ofPort port).run operations).attempt? o with _ | a
    · rfl
    · rfl

/-- **Recovery**: a tick that finds the flag down raises it and clears the count of failures if its
attempt succeeds, and else counts one failure more. -/
theorem tick_of_down {earlier : List Attempt} {falls : Nat} (hs : s.Recounts earlier falls)
    {supervisor : Supervisor} (hsupervisor : s.supervisor = some supervisor)
    (hdown : s.link.up = false) :
    ∃ supervisor' : Supervisor, (s.apply .tick).2.supervisor = some supervisor' ∧
      (s.apply .tick).1 = .ticked (s.apply .tick).2.link.up supervisor'.failures ∧
      (s.link.port.close.attempt = .succeeded →
        (s.apply .tick).2.link.up = true ∧ (s.apply .tick).2.link.port.isOpen = true ∧
          supervisor'.failures = 0) ∧
      (s.link.port.close.attempt ≠ .succeeded →
        (s.apply .tick).2.link.up = false ∧ supervisor'.failures = supervisor.failures + 1) := by
  have hsome : s.supervisor.isSome = true := by simp [hsupervisor]
  have hattempt : s.attempt? .tick = some s.link.port.close.attempt := by
    simp [attempt?, hsome, hdown]
  obtain ⟨-, ⟨supervisor', hsupervisor', hfailures⟩, -, hup⟩ :=
    apply_of_attempt hs (fun h => by simp at h) hattempt
  refine ⟨supervisor', hsupervisor', ?_, fun hgood => ?_, fun hbad => ?_⟩
  · rw [apply, hsupervisor] at hsupervisor' ⊢
    dsimp only at hsupervisor' ⊢
    rw [Option.some.injEq] at hsupervisor'
    rw [supervisor.fst_tick, hsupervisor']
  · rw [hgood] at hup hfailures
    refine ⟨hup, ?_, ?_⟩
    · rw [← (tried_tick hsome hdown).up]
      exact hup
    · rw [hfailures, Attempt.failuresInRow_append_succeeded]
  · cases hfailed : s.link.port.close.attempt with
    | succeeded => exact absurd hfailed hbad
    | failed reason =>
      rw [hfailed] at hup hfailures
      refine ⟨hup, ?_⟩
      rw [hfailures, Attempt.failuresInRow_append_failed, hs.failures _ hsupervisor]

/-- **The accounts of a supervisor.**  Let anything happen to a station with one supervisor at most,
except that the port is opened or closed past it.  The supervisor has counted just the attempts that
have failed since the last one that succeeded, and the port was asked to open once for each attempt.
Every operation asks the port to open once more if it starts the supervisor or is a tick that finds
the flag down, and to close once more if it is such a tick, and for nothing else of the kind.
Whenever the flag is down, a tick whose attempt to open the port succeeds and leaves it open raises
the flag and sets the count back to zero, and any other tick leaves the flag down and counts one
failure more. -/
theorem supervisor_accounts {port : ScriptedPort} {operations : List Operation}
    (single : operations.count .supervise ≤ 1) (alone : ∀ o ∈ operations, ¬ o.IsDirect)
    {s : Station} (reached : (ofPort port).run operations = s) :
    (∀ supervisor, s.supervisor = some supervisor →
        supervisor.failures = Attempt.failuresInRow ((ofPort port).attempts operations)) ∧
      s.link.port.openCalls = port.openCalls + ((ofPort port).attempts operations).length ∧
      (∀ o, ¬ o.IsDirect →
        (s.apply o).2.link.port.openCalls =
            s.link.port.openCalls + (if o = .supervise ∨ s.revives o = true then 1 else 0) ∧
          (s.apply o).2.link.port.closeCalls =
            s.link.port.closeCalls + (if s.revives o = true then 1 else 0)) ∧
      ∀ supervisor, s.supervisor = some supervisor → s.link.up = false →
        ∃ supervisor' : Supervisor, (s.apply .tick).2.supervisor = some supervisor' ∧
          (s.apply .tick).1 = .ticked (s.apply .tick).2.link.up supervisor'.failures ∧
          ((∃ opened, s.link.port.close.tryOpen = (.ok (), opened) ∧ opened.isOpen = true) →
            (s.apply .tick).2.link.up = true ∧ (s.apply .tick).2.link.port.isOpen = true ∧
              supervisor'.failures = 0) ∧
          ((¬ ∃ opened, s.link.port.close.tryOpen = (.ok (), opened) ∧ opened.isOpen = true) →
            (s.apply .tick).2.link.up = false ∧
              supervisor'.failures = supervisor.failures + 1) := by
  subst reached
  have hrun := @recounts_run port operations single
  refine ⟨hrun.failures, openCalls_run alone, fun o hdirect => calls_apply hdirect, ?_⟩
  intro supervisor hsupervisor hdown
  simp only [← ScriptedPort.attempt_eq_succeeded_iff]
  exact tick_of_down hrun hsupervisor hdown

/-- The port cannot be opened, then it stays closed although opening it succeeds, and then someone
else finds fault with the link that is down already. -/
def stubborn : List Operation :=
  [.failOpens 1, .openClosed true, .supervise, .tick, .markDown "unplugged"]

/-- After two failures of either kind one good attempt recovers the link. -/
theorem supervisor_accounts_stubborn :
    stubborn.count .supervise ≤ 1 ∧ (∀ o ∈ stubborn ++ [.openClosed false], ¬ o.IsDirect) ∧
      ((ofPort .fresh).run stubborn).link.port.openCalls = 2 ∧
      ((ofPort .fresh).run (stubborn ++ [.openClosed false])).supervisor = some ⟨2⟩ ∧
      ∃ supervisor' : Supervisor,
        (((ofPort .fresh).run (stubborn ++ [.openClosed false])).apply .tick).2.supervisor =
            some supervisor' ∧ supervisor'.failures = 0 := by
  have halone : ∀ o ∈ stubborn ++ [.openClosed false], ¬ o.IsDirect := by
    simp [stubborn, Operation.IsDirect]
  obtain ⟨-, hopens, -, -⟩ := @supervisor_accounts .fresh stubborn (by decide)
    (fun o ho => halone o (List.mem_append_left _ ho)) _ rfl
  obtain ⟨-, -, -, hrecovers⟩ := @supervisor_accounts .fresh (stubborn ++ [.openClosed false])
    (by decide) halone _ rfl
  have hsupervisor : ((ofPort .fresh).run (stubborn ++ [.openClosed false])).supervisor =
      some ⟨2⟩ := by
    decide +kernel
  obtain ⟨supervisor', hsupervisor', -, hgood, -⟩ :=
    hrecovers _ hsupervisor (by decide +kernel)
  refine ⟨by decide, halone, hopens.trans (by decide +kernel), hsupervisor, supervisor',
    hsupervisor', (hgood ⟨_, rfl, by decide +kernel⟩).2.2⟩

end Station

end ControllerLink
