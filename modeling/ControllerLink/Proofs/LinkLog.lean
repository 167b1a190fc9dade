/-
# What a link logs of its port

The log of a link tells each change of the flag and each attempt to open the
port once.  Many parts lower the flag, and they report failures in any order,
but only the one that finds it up is heard; only the supervisor opens the port,
and what it logs of an attempt follows from the attempts before it.

What is logged is compared with the attempts that an operation makes and with
the fall of the flag in it, so that a run has as many events of each kind as
there were causes (`Station.Recounts`).  That an operation logs its transition
once follows from the parts of the link, each of which logs only what it itself
has changed.
-/
import ControllerLink.Proofs.OutboundStream
import ControllerLink.Proofs.PortHealth
import ControllerLink.Proofs.ReaderLog

set_option autoImplicit false

namespace ControllerLink

/-! ## Attempts to open a port -/

/-- What came of an attempt to open a port. -/
inductive Attempt where
  | succeeded
  | failed (reason : String)
deriving DecidableEq, Repr

namespace Attempt

def isFailed : Attempt → Bool
  | succeeded => false
  | failed _ => true

/-- How many attempts at the end of a row have failed, one behind the other. -/
def failuresInRow (attempts : List Attempt) : Nat :=
  (attempts.reverse.takeWhile isFailed).length

/-- What is logged of an attempt that comes after `earlier` ones. -/
def event (earlier : List Attempt) : Attempt → LogEvent
  | succeeded =>
    match earlier.getLast? with
    | some (failed _) => .linkRestored ScriptedPort.name (1 + failuresInRow earlier)
    | _ => .linkUp ScriptedPort.name
  | failed reason =>
    match earlier.getLast? with
    | some (failed _) => .openStillFailing ScriptedPort.name reason (1 + failuresInRow earlier)
    | _ => .openFailed ScriptedPort.name reason

/-- What is logged of attempts in turn. -/
def events (attempts : List Attempt) : List LogEvent :=
  attempts.mapIdx fun i a => a.event (attempts.take i)

@[simp] theorem failuresInRow_nil : failuresInRow [] = 0 := rfl

@[simp] theorem failuresInRow_append_succeeded (attempts : List Attempt) :
    failuresInRow (attempts ++ [succeeded]) = 0 := by
  simp [failuresInRow, isFailed]

@[simp] theorem failuresInRow_append_failed (attempts : List Attempt) (reason : String) :
    failuresInRow (attempts ++ [failed reason]) = failuresInRow attempts + 1 := by
  simp [failuresInRow, List.takeWhile_cons, isFailed]

/-- What is logged depends on earlier attempts only through the failures in a row. Whether the last
attempt has failed tells whether there are failures in a row. -/
theorem event_eq (earlier : List Attempt) (a : Attempt) :
    a.event earlier = match a with
      | succeeded =>
        if 0 < failuresInRow earlier then
          .linkRestored ScriptedPort.name (failuresInRow earlier + 1)
        else .linkUp ScriptedPort.name
      | failed reason =>
        if failuresInRow earlier + 1 = 1 then .openFailed ScriptedPort.name reason
        else .openStillFailing ScriptedPort.name reason (failuresInRow earlier + 1) := by
  rcases List.eq_nil_or_concat' earlier with rfl | ⟨front, last, rfl⟩
  · cases a <;> rfl
  · cases last with
    | succeeded => cases a <;> simp [event]
    | failed reason => cases a <;> simp [event, Nat.add_comm]

/-- What is logged of one more attempt follows from the attempts before it, and changes none of
their events. -/
theorem events_append_singleton (attempts : List Attempt) (a : Attempt) :
    events (attempts ++ [a]) = events attempts ++ [a.event attempts] := by
  rw [events, List.mapIdx_concat, List.take_left' rfl, events]
  congr 1
  apply List.mapIdx_eq_mapIdx_iff.2
  intro i hi
  rw [List.take_append_of_le_length (Nat.le_of_lt hi)]

/-- A failure is worth a warning where it is the first one in a row. -/
theorem level_event_failed (earlier : List Attempt) (reason : String) :
    ((failed reason).event earlier).level =
      if earlier.getLast?.any isFailed then .debug else .warn := by
  rcases List.eq_nil_or_concat' earlier with rfl | ⟨front, last, rfl⟩
  · rfl
  · cases last <;> simp [event, isFailed, LogEvent.level]

end Attempt

/-- What comes of an attempt to open the port; a port that is closed behind it was not opened. -/
def ScriptedPort.attempt (p : ScriptedPort) : Attempt :=
  match p.tryOpen with
  | (.error e, _) => .failed e.message
  | (.ok (), p) => if p.isOpen then .succeeded else .failed "port reported closed after open"

/-! ## Events -/

namespace LogEvent

/-- Whether an event is a warning that the link is down. -/
def isLinkDown : LogEvent → Bool
  | linkDown _ => true
  | _ => false

/-- Whether an event tells that the port was opened. -/
def isOpened : LogEvent → Bool
  | linkUp _ | linkRestored .. => true
  | _ => false

/-- Whether an event tells what came of an attempt to open the port. -/
def isAttempt : LogEvent → Bool
  | linkUp _ | linkRestored .. | openFailed .. | openStillFailing .. => true
  | _ => false

/-- Whether an event tells nothing of the port and of the flag. -/
def isAside (e : LogEvent) : Bool :=
  !e.isAttempt && !e.isLinkDown

theorem isAttempt_of_isOpened {e : LogEvent} (h : e.isOpened = true) : e.isAttempt = true := by
  cases e <;> simp_all [isOpened, isAttempt]

theorem isLinkDown_of_isAttempt {e : LogEvent} (h : e.isAttempt = true) : e.isLinkDown = false := by
  cases e <;> simp_all [isAttempt, isLinkDown]

end LogEvent

namespace Attempt

theorem isAttempt_event (earlier : List Attempt) (a : Attempt) :
    (a.event earlier).isAttempt = true := by
  rw [event_eq]
  cases a <;> dsimp only <;> split <;> rfl

/-- Only of an attempt that has succeeded is it told that the port was opened. -/
theorem isOpened_event (earlier : List Attempt) (a : Attempt) :
    (a.event earlier).isOpened = !a.isFailed := by
  rw [event_eq]
  cases a <;> dsimp only <;> split <;> rfl

end Attempt

/-! ## The log and the flag -/

/-- `Traces up events up'`: from a flag that is `up` on, `events` tell all changes of the flag, and
behind them it is `up'`. -/
inductive Traces : Bool → List LogEvent → Bool → Prop where
  | nil (up : Bool) : Traces up [] up
  | fall {e : LogEvent} {events : List LogEvent} {up : Bool} (he : e.isLinkDown = true)
      (h : Traces false events up) : Traces true (e :: events) up
  | rise {e : LogEvent} {events : List LogEvent} {up : Bool} (he : e.isOpened = true)
      (h : Traces true events up) : Traces false (e :: events) up
  | other {before up : Bool} {e : LogEvent} {events : List LogEvent} (hdown : e.isLinkDown = false)
      (hopened : e.isOpened = false) (h : Traces before events up) : Traces before (e :: events) up

namespace Traces

variable {up mid up' : Bool} {events later : List LogEvent}

theorem append (h : Traces up events mid) (h' : Traces mid later up') :
    Traces up (events ++ later) up' := by
  induction h with
  | nil => exact h'
  | fall he h ih => exact .fall he (ih h')
  | rise he h ih => exact .rise he (ih h')
  | other hdown hopened h ih => exact .other hdown hopened (ih h')

/-- What is traced can be cut anywhere. -/
theorem exists_mid (h : Traces up (events ++ later) up') :
    ∃ mid, Traces up events mid ∧ Traces mid later up' := by
  induction events generalizing up with
  | nil => exact ⟨up, .nil up, h⟩
  | cons e events ih =>
    cases h with
    | fall he h =>
      obtain ⟨mid, hfront, hback⟩ := ih h
      exact ⟨mid, .fall he hfront, hback⟩
    | rise he h =>
      obtain ⟨mid, hfront, hback⟩ := ih h
      exact ⟨mid, .rise he hfront, hback⟩
    | other hdown hopened h =>
      obtain ⟨mid, hfront, hback⟩ := ih h
      exact ⟨mid, .other hdown hopened hfront, hback⟩

/-- A flag that has come up was raised by an event that tells of it. -/
theorem exists_isOpened (h : Traces false events true) : ∃ e ∈ events, e.isOpened = true := by
  induction events with
  | nil => cases h
  | cons e events ih =>
    cases h with
    | rise he h => exact ⟨e, List.mem_cons_self, he⟩
    | other hdown hopened h =>
      obtain ⟨e', he', hraised⟩ := ih h
      exact ⟨e', List.mem_cons_of_mem _ he', hraised⟩

/-- Between two falls of the flag it was raised. -/
theorem exists_isOpened_between {before between after : List LogEvent} {first second : LogEvent}
    (hfirst : first.isLinkDown = true) (hsecond : second.isLinkDown = true)
    (h : Traces up (before ++ first :: between ++ second :: after) up') :
    ∃ e ∈ between, e.isOpened = true := by
  obtain ⟨mid, hfront, hback⟩ := h.exists_mid
  obtain ⟨mid', -, hmiddle⟩ := hfront.exists_mid
  -- The flag is down behind the first event, and up before the second.
  have hup : mid = true := by
    cases hback with
    | fall => rfl
    | rise he =>
      have hdown := LogEvent.isLinkDown_of_isAttempt (LogEvent.isAttempt_of_isOpened he)
      exact absurd (hdown.symm.trans hsecond) (by simp)
    | other hdown => simp [hsecond] at hdown
  have hdown : Traces false between mid := by
    cases hmiddle with
    | fall he h => exact h
    | rise he =>
      have hdown := LogEvent.isLinkDown_of_isAttempt (LogEvent.isAttempt_of_isOpened he)
      exact absurd (hdown.symm.trans hfirst) (by simp)
    | other hdown => simp [hfirst] at hdown
  exact (hup ▸ hdown).exists_isOpened

/-- Events that tell nothing of the port and of the flag. -/
theorem of_aside (h : ∀ e ∈ events, e.isAside = true) : Traces up events up := by
  induction events with
  | nil => exact .nil up
  | cons e events ih =>
    obtain ⟨he, hevents⟩ := List.forall_mem_cons.1 h
    rw [LogEvent.isAside, Bool.and_eq_true, Bool.not_eq_true', Bool.not_eq_true'] at he
    have hopened : e.isOpened = false := by
      rw [Bool.eq_false_iff]
      intro hopened
      simp [LogEvent.isAttempt_of_isOpened hopened] at he
    exact .other he.2 hopened (ih hevents)

/-- Without an attempt to open the port the flag is never raised. -/
theorem lowers (h : Traces up events up') (hnone : ∀ e ∈ events, e.isAttempt = false)
    (hup' : up' = true) : up = true := by
  subst hup'
  rcases up with _ | _
  · obtain ⟨e, he, hopened⟩ := h.exists_isOpened
    have hattempt := LogEvent.isAttempt_of_isOpened hopened
    exact absurd ((hnone e he).symm.trans hattempt) (by simp)
  · rfl

/-- A flag that is never raised falls at most once. Once down the flag stays down, as nothing here
raises it. -/
theorem countP_isLinkDown (h : Traces up events up') (hnone : ∀ e ∈ events, e.isAttempt = false) :
    events.countP LogEvent.isLinkDown = (up && !up').toNat := by
  induction h with
  | nil up => cases up <;> rfl
  | @fall _ _ up he h ih =>
    have hlater := fun e he' => hnone e (List.mem_cons_of_mem _ he')
    have hdown : up = false := Bool.eq_false_iff.2 fun hup => absurd (h.lowers hlater hup) (by simp)
    rw [List.countP_cons, if_pos he, ih hlater, hdown]
    rfl
  | @rise e _ _ he h =>
    have hattempt := LogEvent.isAttempt_of_isOpened he
    exact absurd ((hnone e List.mem_cons_self).symm.trans hattempt) (by simp)
  | other hdown hopened h ih =>
    rw [List.countP_cons, if_neg (by simp [hdown]),
      ih fun e he => hnone e (List.mem_cons_of_mem _ he), Nat.add_zero]

end Traces

/-- An attempt finds the flag down, and leaves it up just when it succeeds. -/
theorem Attempt.traces_event (earlier : List Attempt) (a : Attempt) :
    Traces false [a.event earlier] (!a.isFailed) := by
  have hopened := a.isOpened_event earlier
  rcases hfailed : a.isFailed with _ | _
  · rw [hfailed] at hopened
    exact .rise hopened (.nil true)
  · rw [hfailed] at hopened
    exact .other (LogEvent.isLinkDown_of_isAttempt (a.isAttempt_event earlier)) hopened (.nil false)

/-- From `l` to `l'` no attempt was made to open the port, and the log tells what became of the
flag. -/
def Link.Drifts (l l' : Link) : Prop :=
  ∃ events, l'.log = l.log ++ events ∧ (∀ e ∈ events, e.isAttempt = false) ∧
    Traces l.up events l'.up

namespace Link.Drifts

variable {l l' l'' : Link}

theorem of_log_eq (hlog : l'.log = l.log) (hup : l'.up = l.up) : l.Drifts l' :=
  ⟨[], by rw [hlog, List.append_nil], by simp, hup ▸ .nil l.up⟩

theorem trans (h : l.Drifts l') (h' : l'.Drifts l'') : l.Drifts l'' := by
  obtain ⟨events, hlog, hnone, htraces⟩ := h
  obtain ⟨later, hlog', hnone', htraces'⟩ := h'
  refine ⟨events ++ later, by rw [hlog', hlog, List.append_assoc], ?_, htraces.append htraces'⟩
  rw [List.forall_mem_append]
  exact ⟨hnone, hnone'⟩

/-- Other things are logged. -/
theorem logAll (h : l.Drifts l') {events : List LogEvent}
    (haside : ∀ e ∈ events, e.isAside = true) : l.Drifts (l'.logAll events) := by
  refine h.trans ⟨events, rfl, fun e he => ?_, .of_aside haside⟩
  have hasideAt := haside e he
  rw [LogEvent.isAside, Bool.and_eq_true] at hasideAt
  exact Bool.not_eq_true' _ ▸ hasideAt.1

/-- Logging something that concerns neither the flag nor an attempt is a drift. -/
theorem logEvent (h : l.Drifts l') {event : LogEvent} (haside : event.isAside = true) :
    l.Drifts (l'.logEvent event) :=
  h.logAll (by simpa using haside)

/-- Lowering the flag is told exactly where it was up. -/
theorem markDown (h : l.Drifts l') (reason : String) : l.Drifts (l'.markDown reason) := by
  refine h.trans ?_
  unfold Link.markDown
  split
  · next hup =>
    refine ⟨[.linkDown reason], rfl, by simp [LogEvent.isAttempt], ?_⟩
    rw [hup]
    exact .fall rfl (.nil false)
  · exact of_log_eq rfl rfl

end Link.Drifts

/-! ## The parts of a link -/

/-- **What comes of an attempt** of a supervisor that finds the flag down: it is counted and logged,
once, and raises the flag if it has succeeded. The flag is down already, so that a failure lowers
and logs nothing. -/
theorem Supervisor.tryOpen_of_down {s : Supervisor} {l : Link} (hdown : l.up = false)
    {earlier : List Attempt} (hs : s.failures = Attempt.failuresInRow earlier) :
    (s.tryOpen l).1.failures = Attempt.failuresInRow (earlier ++ [l.port.attempt]) ∧
      (s.tryOpen l).2.log = l.log ++ [l.port.attempt.event earlier] ∧
      (s.tryOpen l).2.up = !l.port.attempt.isFailed := by
  have hfailure : ∀ (port : ScriptedPort) (reason : String),
      s.recordFailure { l with port } reason =
        (⟨s.failures + 1⟩, { l with
          port
          log := l.log ++ [(Attempt.failed reason).event earlier] }) := by
    intro port reason
    rw [Attempt.event_eq, ← hs, recordFailure, Link.markDown, if_neg (by simp [hdown])]
    rfl
  unfold tryOpen ScriptedPort.attempt
  rcases l.port.tryOpen with ⟨e | _, port⟩
  · dsimp only
    rw [hfailure, Attempt.failuresInRow_append_failed, hs]
    exact ⟨rfl, rfl, hdown⟩
  · dsimp only
    rcases hopen : port.isOpen with _ | _
    · rw [if_neg (by simp), if_neg (by simp), hfailure, Attempt.failuresInRow_append_failed, hs]
      exact ⟨rfl, rfl, hdown⟩
    · rw [if_pos rfl, if_pos rfl, Attempt.failuresInRow_append_succeeded, Attempt.event_eq, ← hs]
      exact ⟨rfl, rfl, rfl⟩

/-- What a reader logs concerns neither the flag nor an attempt. -/
theorem LogEvent.isAside_of_isOfReader {e : LogEvent} (h : e.isOfReader = true) :
    e.isAside = true := by
  cases e <;> simp_all [isOfReader, isAside, isAttempt, isLinkDown]

namespace Receiver

/-- That a packet was dropped concerns neither the flag nor an attempt. -/
theorem isAside_dropEvent (e : PacketError) : (dropEvent e).isAside = true := by
  cases e <;> rfl

/-- What becomes of a poll lowers the flag at most: a failure of the stream marks the link down, and
everything else is logged aside. Of all results just a failure of the stream touches the flag. -/
theorem drifts_settle (r : Receiver) (l : Link) (o : Polled) :
    l.Drifts (r.settle l o).2.2 := by
  have hsame : l.Drifts l := .of_log_eq rfl rfl
  cases o with
  | idle | stalled => exact hsame
  | failed e =>
    rw [settle]
    split
    · exact hsame.markDown e.message
    · exact hsame.logEvent (isAside_dropEvent e)
  | frame f =>
    rw [settle, deliver]
    split
    · exact hsame.logEvent rfl
    · split
      · exact hsame
      · next e _ => exact hsame.logEvent (isAside_dropEvent e)

/-- A step of receiving drifts: the events of its reader are aside, and then it settles
what came. -/
theorem drifts_step (r : Receiver) (l : Link) (w : Watch) : l.Drifts (r.step l w).2.2 := by
  unfold step
  split
  · have hpolled : l.Drifts (afterPoll l w (r.reader.poll l.port.input w.patience)) := by
      have hread : l.Drifts { l with
          port := l.port.afterReads (r.reader.poll l.port.input w.patience).transcript.reads
            (r.reader.poll l.port.input w.patience).input } := .of_log_eq rfl rfl
      -- What the reader logs comes first, and then the watch may lose its patience.
      have hlogged := hread.logAll fun e he =>
        LogEvent.isAside_of_isOfReader (r.reader.poll_logs l.port.input w.patience e he)
      unfold afterPoll
      dsimp only
      split
      · exact hlogged.markDown _
      · exact hlogged
    exact hpolled.trans (drifts_settle _ _ _)
  · exact .of_log_eq rfl rfl

end Receiver

/-- A step of sending drifts: only a write that fails marks the link down. -/
theorem Sender.drifts_step (s : Sender) (l : Link) (command : RobotCommand) (now : UInt32) :
    l.Drifts (s.step l command now).2.2 := by
  have hsame : l.Drifts l := .of_log_eq rfl rfl
  unfold step
  split
  · split
    · exact hsame.logEvent rfl
    · next writer _ =>
      have hwritten : l.Drifts { l with port := (l.port.write writer.buffer).2 } :=
        .of_log_eq rfl rfl
      dsimp only
      split
      · exact hwritten
      · exact hwritten.markDown _
  · exact hsame

/-! ## Runs of a station -/

namespace Station

/-- The attempt to open the port that an operation makes, if it makes one. -/
def attempt? (s : Station) : Operation → Option Attempt
  | .supervise => some s.link.port.attempt
  | .tick => if s.supervisor.isSome && !s.link.up then some s.link.port.close.attempt else none
  | _ => none

/-- The attempts of a run, in order. -/
def attempts (s : Station) (operations : List Operation) : List Attempt :=
  (Operation.moments [] operations).filterMap fun moment => (s.run moment.1).attempt? moment.2

/-- How often the flag goes from up to down in a run. -/
def falls (s : Station) (operations : List Operation) : Nat :=
  (Operation.moments [] operations).countP fun moment =>
    (s.run moment.1).link.up && !((s.run moment.1).apply moment.2).2.link.up

variable {s : Station}

/-- The last of some operations makes its attempt from the station that the others lead to. -/
theorem attempts_append_singleton (s : Station) (operations : List Operation) (o : Operation) :
    s.attempts (operations ++ [o]) =
      s.attempts operations ++ ((s.run operations).attempt? o).toList := by
  rw [attempts, Operation.moments_append_singleton, List.filterMap_append, List.nil_append,
    ← attempts]
  cases h : (s.run operations).attempt? o <;> simp [h]

/-- The last of some operations is a fall of the flag if it finds the flag up and leaves it down. -/
theorem falls_append_singleton (s : Station) (operations : List Operation) (o : Operation) :
    s.falls (operations ++ [o]) = s.falls operations +
      ((s.run operations).link.up && !((s.run operations).apply o).2.link.up).toNat := by
  rw [falls, Operation.moments_append_singleton, List.countP_append, List.nil_append, ← falls,
    List.countP_singleton]
  split
  · next h => rw [h]; rfl
  · next h => rw [Bool.eq_false_iff.2 h]; rfl

/-- Where no attempt is made to open the port, the log tells what becomes of the flag. Operation by
operation: a supervisor that finds the flag up makes no attempt, and the others none at all. -/
theorem drifts_apply {o : Operation} (hnone : s.attempt? o = none) :
    s.link.Drifts (s.apply o).2.link := by
  have hsame : s.link.Drifts s.link := .of_log_eq rfl rfl
  cases o with
  | supervise => exact absurd hnone (by simp [attempt?])
  | tick =>
    rw [apply]
    rcases hsupervisor : s.supervisor with _ | supervisor
    · exact hsame
    · rcases hflag : s.link.up with _ | _
      · exact absurd hnone (by simp [attempt?, hsupervisor, hflag])
      · dsimp only
        rw [supervisor.tick_of_up hflag]
        exact hsame
  | markDown reason => exact hsame.markDown reason
  | receive w => exact s.receiver.drifts_step s.link w
  | send now => exact s.sender.drifts_step s.link s.command now
  | change c =>
    show s.link.Drifts
      (if (c.apply s.command).1 = some false then s.link.logAll c.events else s.link)
    split
    · refine hsame.logAll ?_
      cases c with
      | line text =>
        intro e he
        obtain ⟨error, -, rfl⟩ := List.mem_map.1 he
        rfl
      | _ => simp [CommandChange.events]
    · exact hsame
  | _ => exact .of_log_eq rfl rfl

/-- A station with one supervisor at most: what it has logged tells of its `attempts` and of the
`falls` of its flag. -/
structure Recounts (s : Station) (attempts : List Attempt) (falls : Nat) : Prop where
  unsupervised : s.supervisor = none → attempts = [] ∧ s.link.up = false
  failures : ∀ supervisor, s.supervisor = some supervisor →
    supervisor.failures = Attempt.failuresInRow attempts
  events : s.link.log.filter LogEvent.isAttempt = Attempt.events attempts
  downs : s.link.log.countP LogEvent.isLinkDown = falls
  traces : Traces false s.link.log s.link.up

/-- Where no supervisor starts, the station keeps the one that it has. -/
theorem supervisor_apply {o : Operation} (hnone : s.attempt? o = none) :
    (s.apply o).2.supervisor = s.supervisor := by
  cases o with
  | supervise => exact absurd hnone (by simp [attempt?])
  | tick =>
    rw [apply]
    rcases hsupervisor : s.supervisor with _ | supervisor
    · exact hsupervisor
    · rcases hflag : s.link.up with _ | _
      · exact absurd hnone (by simp [attempt?, hsupervisor, hflag])
      · dsimp only
        rw [supervisor.tick_of_up hflag]
  | _ => rfl

/-- An attempt finds the flag down, counts it behind the earlier ones, and logs it once. Just two
operations make attempts: the one that starts a supervisor, and its tick while the flag is down. -/
theorem apply_of_attempt {earlier : List Attempt} {falls : Nat} (hs : s.Recounts earlier falls)
    {o : Operation} (hsingle : o = .supervise → s.supervisor = none) {a : Attempt}
    (hattempt : s.attempt? o = some a) :
    s.link.up = false ∧
      (∃ supervisor, (s.apply o).2.supervisor = some supervisor ∧
        supervisor.failures = Attempt.failuresInRow (earlier ++ [a])) ∧
      (s.apply o).2.link.log = s.link.log ++ [a.event earlier] ∧
      (s.apply o).2.link.up = !a.isFailed := by
  cases o with
  | supervise =>
    obtain ⟨rfl, hdown⟩ := hs.unsupervised (hsingle rfl)
    obtain rfl := Option.some.inj hattempt
    -- The port is closed before it is tried again, which leaves log and flag alone.
    obtain ⟨hfailures, hlog, hup⟩ := Supervisor.tryOpen_of_down (s := ⟨0⟩) hdown
      Attempt.failuresInRow_nil.symm
    exact ⟨hdown, ⟨_, rfl, hfailures⟩, hlog, hup⟩
  | tick =>
    rw [attempt?] at hattempt
    split at hattempt
    · next hdown =>
      obtain rfl := Option.some.inj hattempt
      rw [Bool.and_eq_true, Bool.not_eq_true'] at hdown
      obtain ⟨supervisor, hsupervisor⟩ := Option.isSome_iff_exists.1 hdown.1
      obtain ⟨hfailures, hlog, hup⟩ := Supervisor.tryOpen_of_down
        (l := { s.link with port := s.link.port.close }) hdown.2 (hs.failures _ hsupervisor)
      rw [apply, hsupervisor]
      dsimp only
      rw [Supervisor.tick, if_neg (by simp [hdown.2])]
      exact ⟨hdown.2, ⟨_, rfl, hfailures⟩, hlog, hup⟩
    · exact absurd hattempt (by simp)
  | _ => exact absurd hattempt (by simp [attempt?])

/-- One operation logs its attempt, if it makes one, and a fall of the flag. Without an attempt the
operation drifts, and with one it logs just that. -/
theorem recounts_apply {attempts : List Attempt} {falls : Nat} (hs : s.Recounts attempts falls)
    {o : Operation} (hsingle : o = .supervise → s.supervisor = none) :
    (s.apply o).2.Recounts (attempts ++ (s.attempt? o).toList)
      (falls + (s.link.up && !(s.apply o).2.link.up).toNat) := by
  rcases hattempt : s.attempt? o with _ | a
  · obtain ⟨events, hlog, hnone, htraces⟩ := drifts_apply hattempt
    have hsupervisor := supervisor_apply hattempt
    rw [Option.toList_none, List.append_nil]
    constructor
    · intro hunsupervised
      obtain ⟨hempty, hdown⟩ := hs.unsupervised (hsupervisor ▸ hunsupervised)
      exact ⟨hempty, Bool.eq_false_iff.2 fun hup =>
        absurd (hdown.symm.trans (htraces.lowers hnone hup)) (by simp)⟩
    · rw [hsupervisor]
      exact hs.failures
    · rw [hlog, List.filter_append, hs.events, List.filter_eq_nil_iff.2 (by simpa using hnone),
        List.append_nil]
    -- The flag was lowered once for each such event.
    · rw [hlog, List.countP_append, hs.downs, htraces.countP_isLinkDown hnone]
    · rw [hlog]
      exact hs.traces.append htraces
  · obtain ⟨hdown, ⟨supervisor, hsupervisor, hfailures⟩, hlog, hup⟩ :=
      apply_of_attempt hs hsingle hattempt
    rw [Option.toList_some]
    constructor
    · intro hunsupervised
      exact absurd (hsupervisor.symm.trans hunsupervised) (by simp)
    · intro supervisor' hsupervisor'
      rw [hsupervisor, Option.some.injEq] at hsupervisor'
      rw [← hsupervisor', hfailures]
    · rw [hlog, List.filter_append, hs.events, Attempt.events_append_singleton,
        List.filter_cons_of_pos (a.isAttempt_event attempts)]
      rfl
    · rw [hlog, List.countP_append, hs.downs, List.countP_singleton,
        LogEvent.isLinkDown_of_isAttempt (a.isAttempt_event attempts), hdown]
      rfl
    · rw [hlog, hup]
      exact hs.traces.append (hdown ▸ a.traces_event attempts)

/-- Without a supervisor no attempt is made but by one that starts. -/
theorem attempt?_of_unsupervised (hs : s.supervisor = none) {o : Operation} (ho : o ≠ .supervise) :
    s.attempt? o = none := by
  cases o with
  | supervise => exact absurd rfl ho
  | tick => simp [attempt?, hs]
  | _ => rfl

/-- A station has no supervisor until one starts. -/
theorem supervisor_run {port : ScriptedPort} {operations : List Operation}
    (hnever : .supervise ∉ operations) : ((ofPort port).run operations).supervisor = none := by
  induction operations using List.reverseRecOn with
  | nil => rfl
  | append_singleton operations o ih =>
    rw [List.mem_append, List.mem_singleton, not_or] at hnever
    have hbefore := ih hnever.1
    have hnone := attempt?_of_unsupervised hbefore (Ne.symm hnever.2)
    rw [run_append_singleton, supervisor_apply hnone, hbefore]

/-- The one supervisor of a run starts where there is none. -/
theorem supervisor_of_single {port : ScriptedPort} {operations : List Operation} {o : Operation}
    (single : (operations ++ [o]).count .supervise ≤ 1) (ho : o = .supervise) :
    ((ofPort port).run operations).supervisor = none := by
  rw [ho, List.count_append, List.count_singleton_self] at single
  have hnever : operations.count .supervise = 0 := by omega
  exact supervisor_run (List.count_eq_zero.1 hnever)

/-- A run from the beginning on has logged its attempts and the falls of its flag. -/
theorem recounts_run {port : ScriptedPort} {operations : List Operation}
    (single : operations.count .supervise ≤ 1) :
    ((ofPort port).run operations).Recounts ((ofPort port).attempts operations)
      ((ofPort port).falls operations) := by
  induction operations using List.reverseRecOn with
  | nil =>
    have hnone : ∀ supervisor, (ofPort port).supervisor ≠ some supervisor := by simp [ofPort]
    exact ⟨fun _ => ⟨rfl, rfl⟩, fun _ h => absurd h (hnone _), rfl, rfl, .nil _⟩
  | append_singleton operations o ih =>
    have hbefore := ih (Nat.le_trans (by rw [List.count_append]; exact Nat.le_add_right _ _) single)
    rw [run_append_singleton, attempts_append_singleton, falls_append_singleton]
    exact recounts_apply hbefore (supervisor_of_single single)

/-- **Transitions are logged once.**  Let anything happen to a station with one supervisor at most.
There are as many warnings that the link is down as falls of the flag, and the port was opened
between any two of them.  The log tells of each attempt to open the port once, in order: an
operation that makes an attempt logs just what follows from it and from the attempts before it, and
no other operation logs an event of this kind.  An attempt that has succeeded is told as a restored
link, with the number of attempts, where the one before it has failed, and else as a link that is
up.  A failure is a warning where it is the first attempt or follows one that has succeeded, and
else a matter of debugging. -/
theorem transitions_logged_once {port : ScriptedPort} {operations : List Operation}
    (single : operations.count .supervise ≤ 1) {s : Station}
    (reached : (ofPort port).run operations = s) :
    s.link.log.countP LogEvent.isLinkDown = (ofPort port).falls operations ∧
      (∀ before between after first second,
        s.link.log = before ++ .linkDown first :: between ++ .linkDown second :: after →
          ∃ e ∈ between, e.isOpened = true) ∧
      s.link.log.filter LogEvent.isAttempt = Attempt.events ((ofPort port).attempts operations) ∧
      (∀ o, (operations ++ [o]).count .supervise ≤ 1 →
        (∀ a, s.attempt? o = some a → (s.apply o).2.link.log =
          s.link.log ++ [a.event ((ofPort port).attempts operations)]) ∧
        (s.attempt? o = none → ∃ events, (s.apply o).2.link.log = s.link.log ++ events ∧
          ∀ e ∈ events, e.isAttempt = false)) ∧
      ∀ earlier reason, ((Attempt.failed reason).event earlier).level =
        if earlier.getLast?.any Attempt.isFailed then .debug else .warn := by
  subst reached
  have hrun := @recounts_run port operations single
  refine ⟨hrun.downs, ?_, hrun.events, ?_, Attempt.level_event_failed⟩
  -- Two events that say the link is down: in between the flag went up, and only an attempt raises
  -- it.
  · intro before between after first second hlog
    exact (hlog ▸ hrun.traces).exists_isOpened_between rfl rfl
  · intro o hsingle
    refine ⟨fun a hattempt => ?_, fun hnone => ?_⟩
    · exact (apply_of_attempt hrun (supervisor_of_single hsingle) hattempt).2.2.1
    · obtain ⟨events, hlog, hevents, -⟩ := drifts_apply hnone
      exact ⟨events, hlog, hevents⟩

/-- The port cannot be opened twice, then it is open and lost, then it stays closed although opening
it succeeds, then it is open and a write fails. -/
def flapping : List Operation :=
  [.failOpens 2, .supervise, .markDown "unplugged", .tick, .tick, .markDown "unplugged",
    .markDown "unplugged", .openClosed true, .tick, .openClosed false, .tick, .failWrites true,
    .send 0]

/-- Two failures, a success, a link that goes down, a port that closes at once, another success:
each is logged in its own words. -/
theorem transitions_logged_once_flapping :
    flapping.count .supervise ≤ 1 ∧
      ((ofPort .fresh).run flapping).link.log.countP LogEvent.isLinkDown = 2 ∧
      ((ofPort .fresh).run flapping).link.log.filter LogEvent.isAttempt =
        [.openFailed "mock" "failed to open mock: scripted open failure",
          .openStillFailing "mock" "failed to open mock: scripted open failure" 2,
          .linkRestored "mock" 3, .openFailed "mock" "port reported closed after open",
          .linkRestored "mock" 2] := by
  have hsingle : flapping.count .supervise ≤ 1 := by decide
  obtain ⟨hdowns, -, hevents, -⟩ := @transitions_logged_once .fresh flapping hsingle _ rfl
  have hfalls : (ofPort .fresh).falls flapping = 2 := by decide +kernel
  have hattempts : (ofPort .fresh).attempts flapping =
      [.failed "failed to open mock: scripted open failure",
        .failed "failed to open mock: scripted open failure", .succeeded,
        .failed "port reported closed after open", .succeeded] := by
    decide +kernel
  refine ⟨hsingle, hdowns.trans hfalls, ?_⟩
  rw [hevents, hattempts]
  rfl

end Station

end ControllerLink
