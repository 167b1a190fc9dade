/-
# A bridge thread by thread

The threads of a bridge, each between two looks at the flag that stops it, and
the owner, who raises that flag, joins the threads one by one and then closes
the port.  The actions of the threads, of the owner and of everyone who holds a
handle come in any order that the state of each thread allows; a thread that is
told to stop in the middle of a step finishes that step.  The runs of a bridge
are among these.

Whether an action is possible depends on what its thread is at, so
`Threads.step` is a partial function, and a run of actions stands for one order
in which they happened. `Threads.step_cases` says all that an action can have
done, guards included. `Bridge.Matches` compares such threads with a bridge
between two of its events, at which every thread is about to look at the flag or
is over:
* a step of a worker is entered, made, and slept off (`Bridge.Matches.deed`);
* a shutdown is the flag, a last look of every thread, the joins in turn and the
  port (`Bridge.Matches.shutdown`).
That the runs of a bridge are among those of its threads is then an induction on
the events.
-/
import ControllerLink.Link.Bridge
import ControllerLink.Proofs.Conservation
import ControllerLink.Proofs.NoiseAndFailure

set_option autoImplicit false

namespace ControllerLink

/-! ## Threads -/

theorem Worker.mem_all (w : Worker) : w ∈ Worker.all := by
  cases w <;> decide

/-- What the thread of a worker is at. -/
inductive Stage where
  /-- About to look whether it is to stop. -/
  | ready
  /-- In the middle of a step. -/
  | acting
  /-- Asleep between two steps. -/
  | pausing
  /-- Its loop has come to its end. -/
  | ended
  | panicked
deriving DecidableEq, Repr

namespace Stage

/-- Whether a thread does nothing any more. -/
def isOver : Stage → Bool
  | ended | panicked => true
  | _ => false

/-- How often at most a thread that is to stop moves on. -/
def movesLeft : Stage → Nat
  | acting => 3
  | pausing => 2
  | ready => 1
  | ended | panicked => 0

/-- A thread that is not over has a move left. -/
theorem movesLeft_pos {stage : Stage} (h : stage.isOver = false) : 0 < stage.movesLeft := by
  cases stage with
  | ready | acting | pausing => simp [movesLeft]
  | ended | panicked => exact absurd h (by simp [isOver])

end Stage

/-- A step of a worker.  A receiver gives up waiting inside of a packet when it is told to stop or
finds the link down, which can happen behind any of its reads. -/
inductive Deed where
  | tick
  | receive (patience : Patience)
  | send (now : UInt32)
deriving DecidableEq, Repr

namespace Deed

/-- Whose step it is. -/
def worker : Deed → Worker
  | tick => .supervisor
  | receive _ => .receiver
  | send _ => .sender

/-- What the thread is at behind the step: a receiver sleeps only where it found the link down. -/
def next (d : Deed) (s : Station) : Stage :=
  match d with
  | receive _ => if s.link.up then .ready else .pausing
  | _ => .pausing

end Deed

/-- The step of receiving that a station is about to make. -/
def Station.receiving (s : Station) (patience : Patience) : ReceiveStep :=
  ⟨s.receiver, s.link, patience⟩

/-- The station after a step of a worker; there is none if the step never comes back. -/
def Station.act (s : Station) : Deed → Option Station
  | .tick => some (s.apply .tick).2
  | .receive patience =>
    let step := s.receiving patience
    if step.outcome = .stalled then none
    else some { s with receiver := step.receiverAfter, link := step.linkAfter }
  | .send now => some (s.apply (.send now)).2

/-- Whether an operation is one of those who hold a handle or write the script of the port. -/
def Operation.isOutside : Operation → Bool
  | .push _ | .failOpens _ | .openClosed _ | .failWrites _ | .change _ | .markDown _ => true
  | _ => false

/-- What the owner of a bridge is at. -/
inductive Owner where
  | free
  /-- In the middle of shutting down: the threads still to be joined, and the answer so far. -/
  | joining (left : List Worker) (result : Except LinkError Unit)

/-- How often the owner moves on until it is free. -/
def Owner.movesLeft : Owner → Nat
  | free => 0
  | joining left _ => left.length + 1

/-- A bridge with its threads. -/
structure Threads where
  station : Station
  stages : Worker → Stage
  /-- Whether the workers are to go on. -/
  running : Bool
  owner : Owner
  /-- What the calls of shutting down have answered. -/
  answers : List (Except LinkError Unit)

/-- What can happen next to a bridge with its threads. -/
inductive ThreadAction where
  /-- A worker looks whether it is to stop. -/
  | enter (w : Worker)
  /-- A worker finishes a step. -/
  | act (d : Deed)
  /-- A worker wakes up. -/
  | wake (w : Worker)
  | panic (w : Worker)
  /-- The owner asks the bridge to shut down. -/
  | shutdown
  /-- The owner finds the thread that it waits for at its end. -/
  | join
  /-- The owner closes the port and has its answer. -/
  | close
  /-- Someone else does something. -/
  | use (o : Operation)
deriving DecidableEq, Repr

namespace ThreadAction

/-- Whether an action is one of a worker, or of an owner in the middle of shutting down. -/
def isMove : ThreadAction → Bool
  | shutdown | use _ => false
  | _ => true

/-- Whether an action finds fault with the link from outside. -/
def lowers : ThreadAction → Bool
  | use (.markDown _) => true
  | _ => false

end ThreadAction

namespace Threads

/-- A bridge over a port, which is opened once, with all its threads spawned. -/
def start (port : ScriptedPort) : Threads :=
  ⟨(Bridge.start port).station, fun _ => .ready, true, .free, []⟩

/-- Move a thread. -/
def set (t : Threads) (w : Worker) (stage : Stage) : Threads :=
  { t with stages := fun w' => if w' = w then stage else t.stages w' }

/-- The answer so far, once one thread more is joined: the first that has panicked stays in it. -/
def joined (t : Threads) (w : Worker) (result : Except LinkError Unit) :
    Except LinkError Unit :=
  if t.stages w = .panicked then result.bind fun _ => .error (.workerPanicked w.threadName)
  else result

/-- One action; none if it is not possible now. -/
def step (t : Threads) : ThreadAction → Option Threads
  | .enter w =>
    if t.stages w = .ready then some (t.set w (if t.running then .acting else .ended)) else none
  | .act d =>
    if t.stages d.worker = .acting then
      (t.station.act d).map fun station =>
        { t.set d.worker (d.next t.station) with station }
    else none
  | .wake w => if t.stages w = .pausing then some (t.set w .ready) else none
  | .panic w => if (t.stages w).isOver then none else some (t.set w .panicked)
  | .shutdown =>
    match t.owner with
    | .joining _ _ => none
    | .free =>
      some (if t.running then { t with running := false, owner := .joining Worker.all (.ok ()) }
        else { t with answers := t.answers ++ [.ok ()] })
  | .join =>
    match t.owner with
    | .joining (w :: left) result =>
      if (t.stages w).isOver then some { t with owner := .joining left (t.joined w result) }
      else none
    | _ => none
  | .close =>
    match t.owner with
    | .joining [] result =>
      some { t with
        station := t.station.mapPort (·.close), owner := .free, answers := t.answers ++ [result] }
    | _ => none
  | .use o => if o.isOutside then some { t with station := (t.station.apply o).2 } else none

/-- A run of actions; none if one of them is not possible. -/
def run (t : Threads) (actions : List ThreadAction) : Option Threads :=
  actions.foldlM step t

variable {t t' : Threads} {a : ThreadAction}

theorem run_cons (t : Threads) (a : ThreadAction) (actions : List ThreadAction) :
    t.run (a :: actions) = (t.step a).bind fun t' => t'.run actions := rfl

theorem run_append (t : Threads) (before behind : List ThreadAction) :
    t.run (before ++ behind) = (t.run before).bind fun t' => t'.run behind :=
  List.foldlM_append

theorem run_of_step (h : t.step a = some t') : t.run [a] = some t' := by
  rw [run_cons, h]
  rfl

theorem exists_of_run_cons {actions : List ThreadAction} (h : t.run (a :: actions) = some t') :
    ∃ u, t.step a = some u ∧ u.run actions = some t' := by
  rw [run_cons] at h
  exact Option.bind_eq_some_iff.1 h

/-- A run splits wherever its actions do. -/
theorem exists_of_run_append {before behind : List ThreadAction}
    (h : t.run (before ++ behind) = some t') :
    ∃ u, t.run before = some u ∧ u.run behind = some t' := by
  rw [run_append] at h
  exact Option.bind_eq_some_iff.1 h

@[simp] theorem stages_set_self (t : Threads) (w : Worker) (stage : Stage) :
    (t.set w stage).stages w = stage := if_pos rfl

theorem stages_set_of_ne (t : Threads) {w w' : Worker} (stage : Stage) (hne : w' ≠ w) :
    (t.set w stage).stages w' = t.stages w' := if_neg hne

/-! ## What an action does -/

/-- That from `t` to `t'` the thread of `w`, which was not over, has moved, and nothing else but the
station has changed; a thread that is to stop comes nearer to its end. -/
structure Moves (w : Worker) (t t' : Threads) : Prop where
  living : (t.stages w).isOver = false
  others : ∀ w', w' ≠ w → t'.stages w' = t.stages w'
  running : t'.running = t.running
  owner : t'.owner = t.owner
  answers : t'.answers = t.answers
  nearer : t.running = false → (t'.stages w).movesLeft < (t.stages w).movesLeft

/-- A thread in the middle of its work that is set to a later stage has moved. -/
theorem moves_set {w : Worker} {stage : Stage} (station : Station)
    (living : (t.stages w).isOver = false)
    (nearer : t.running = false → stage.movesLeft < (t.stages w).movesLeft) :
    Moves w t { t.set w stage with station } where
  living := living
  others _ hne := t.stages_set_of_ne stage hne
  running := rfl
  owner := rfl
  answers := rfl
  nearer hstopped := by
    rw [show ({ t.set w stage with station } : Threads).stages w = stage from if_pos rfl]
    exact nearer hstopped

/-- **What an action does**: a thread moves, or the owner begins or goes on or ends to shut down, or
is told at once that this has been done, or someone outside does something. Action by action: its
guard holds, and the state behind it is the one that is written there. -/
theorem step_cases (h : t.step a = some t') :
    (a.isMove = true ∧ a ≠ .join ∧ a ≠ .close ∧ ∃ w, Moves w t t') ∨
      (a = .shutdown ∧ t.owner = .free ∧ t.running = true ∧
        t' = { t with running := false, owner := .joining Worker.all (.ok ()) }) ∨
      (a = .shutdown ∧ t.owner = .free ∧ t.running = false ∧
        t' = { t with answers := t.answers ++ [.ok ()] }) ∨
      (a = .join ∧ ∃ w left result, t.owner = .joining (w :: left) result ∧
        (t.stages w).isOver = true ∧ t' = { t with owner := .joining left (t.joined w result) }) ∨
      (a = .close ∧ ∃ result, t.owner = .joining [] result ∧
        t' = { t with
          station := t.station.mapPort (·.close), owner := .free
          answers := t.answers ++ [result] }) ∨
      ∃ o, a = .use o ∧ o.isOutside = true ∧
        t' = { t with station := (t.station.apply o).2 } := by
  cases a with
  | enter w =>
    rw [step, Option.ite_none_right_eq_some, Option.some.injEq] at h
    obtain ⟨hready, rfl⟩ := h
    refine .inl ⟨rfl, by simp, by simp, w, moves_set t.station (by rw [hready]; rfl) ?_⟩
    intro hstopped
    rw [if_neg (by simp [hstopped]), hready]
    decide
  | act d =>
    rw [step, Option.ite_none_right_eq_some, Option.map_eq_some_iff] at h
    obtain ⟨hacting, station, -, rfl⟩ := h
    refine .inl ⟨rfl, by simp, by simp, d.worker,
      moves_set station (by rw [hacting]; rfl) fun _ => ?_⟩
    rw [hacting]
    unfold Deed.next
    split
    · split <;> decide
    · decide
  | wake w =>
    rw [step, Option.ite_none_right_eq_some, Option.some.injEq] at h
    obtain ⟨hpausing, rfl⟩ := h
    refine .inl ⟨rfl, by simp, by simp, w, moves_set t.station (by rw [hpausing]; rfl) fun _ => ?_⟩
    rw [hpausing]
    decide
  | panic w =>
    rw [step, Option.ite_none_left_eq_some, Option.some.injEq, Bool.not_eq_true] at h
    obtain ⟨hliving, rfl⟩ := h
    exact .inl ⟨rfl, by simp, by simp, w,
      moves_set t.station hliving fun _ => Stage.movesLeft_pos hliving⟩
  | shutdown =>
    rw [step] at h
    split at h
    · exact absurd h (by simp)
    · next hfree =>
      rw [Option.some.injEq] at h
      subst h
      rcases hrunning : t.running with _ | _
      · exact .inr (.inr (.inl ⟨rfl, hfree, rfl, rfl⟩))
      · exact .inr (.inl ⟨rfl, hfree, rfl, rfl⟩)
  | join =>
    rw [step] at h
    split at h
    · next w left result howner =>
      rw [Option.ite_none_right_eq_some, Option.some.injEq] at h
      exact .inr (.inr (.inr (.inl ⟨rfl, w, left, result, howner, h.1, h.2.symm⟩)))
    · exact absurd h (by simp)
  | close =>
    rw [step] at h
    split at h
    · next result howner =>
      rw [Option.some.injEq] at h
      exact .inr (.inr (.inr (.inr (.inl ⟨rfl, result, howner, h.symm⟩))))
    · exact absurd h (by simp)
  | use o =>
    rw [step, Option.ite_none_right_eq_some, Option.some.injEq] at h
    exact .inr (.inr (.inr (.inr (.inr ⟨o, rfl, h.1, h.2.symm⟩))))

/-! ## The answer of shutting down -/

/-- What shutting down answers once these threads are joined: the first of them that has panicked,
if there is one. -/
def verdict (stages : Worker → Stage) (workers : List Worker) : Except LinkError Unit :=
  match workers.find? fun w => stages w = .panicked with
  | some w => .error (.workerPanicked w.threadName)
  | none => .ok ()

/-- The verdict on more workers is that on the others, unless this one has panicked first. -/
theorem verdict_append_singleton (t : Threads) (workers : List Worker) (w : Worker) :
    verdict t.stages (workers ++ [w]) = t.joined w (verdict t.stages workers) := by
  unfold verdict joined
  rw [List.find?_append]
  rcases workers.find? fun w => t.stages w = .panicked with _ | first
  · by_cases hpanicked : t.stages w = .panicked
    · simp [hpanicked, Except.bind]
    · simp [hpanicked]
  · by_cases hpanicked : t.stages w = .panicked
    · simp [hpanicked, Except.bind]
    · simp [hpanicked]

/-- The answer depends only on which of the threads that are joined have panicked. -/
theorem verdict_congr {stages stages' : Worker → Stage} {workers : List Worker}
    (h : ∀ w ∈ workers, (stages' w = .panicked ↔ stages w = .panicked)) :
    verdict stages' workers = verdict stages workers := by
  have hfind : (workers.find? fun w => stages' w = .panicked) =
      workers.find? fun w => stages w = .panicked := by
    induction workers with
    | nil => rfl
    | cons w workers ih =>
      rw [List.find?_cons, List.find?_cons, decide_eq_decide.2 (h w List.mem_cons_self),
        ih fun w' hw' => h w' (List.mem_cons_of_mem _ hw')]
  unfold verdict
  rw [hfind]

/-- The owner joins thread after thread, as long as each is over. -/
theorem run_joins {joined left : List Worker} (hover : ∀ w ∈ left, (t.stages w).isOver = true)
    (howner : t.owner = .joining left (verdict t.stages joined)) :
    t.run (List.replicate left.length .join) =
      some { t with owner := .joining [] (verdict t.stages (joined ++ left)) } := by
  induction left generalizing t joined with
  | nil =>
    rw [List.append_nil, ← howner]
    rfl
  | cons w left ih =>
    have hjoin : t.step .join =
        some { t with owner := .joining left (verdict t.stages (joined ++ [w])) } := by
      rw [step, howner]
      dsimp only
      rw [if_pos (hover w List.mem_cons_self), verdict_append_singleton]
    rw [List.length_cons, List.replicate_succ, run_cons, hjoin, Option.bind_some]
    refine (@ih { t with owner := .joining left (verdict t.stages (joined ++ [w])) } (joined ++ [w])
      (fun w' hw' => hover w' (List.mem_cons_of_mem _ hw')) rfl).trans ?_
    rw [List.append_assoc, List.singleton_append]

/-- Threads that are about to look whether they are to stop all come to their end once they are. -/
theorem exists_run_enters (hstopped : t.running = false) (workers : List Worker) :
    ∃ actions stages, t.run actions = some { t with stages } ∧
      ∀ w, stages w = if t.stages w = .ready ∧ w ∈ workers then .ended else t.stages w := by
  induction workers with
  | nil => exact ⟨[], t.stages, rfl, by simp⟩
  | cons w workers ih =>
    obtain ⟨actions, stages, hrun, hended⟩ := ih
    -- A thread that is ready looks at the flag and ends; the others are left as they are.
    by_cases hready : stages w = .ready
    · have henter : ({ t with stages } : Threads).step (.enter w) =
          some { t with stages := fun w' => if w' = w then .ended else stages w' } := by
        rw [step, if_pos hready, if_neg (by simp [hstopped])]
        rfl
      refine ⟨actions ++ [.enter w], fun w' => if w' = w then .ended else stages w', ?_, ?_⟩
      · rw [run_append, hrun, Option.bind_some]
        exact run_of_step henter
      · intro w'
        by_cases hw' : w' = w
        · subst hw'
          have hbefore : t.stages w' = .ready := by
            rw [hended] at hready
            split at hready
            · exact absurd hready (by decide)
            · exact hready
          simp [hbefore]
        · simp [hw', hended w']
    · refine ⟨actions, stages, hrun, fun w' => ?_⟩
      rw [hended]
      by_cases hw' : w' = w
      · subst hw'
        rw [hended] at hready
        by_cases hbefore : t.stages w' = .ready
        · have hmem : w' ∈ workers := by
            by_contra hnot
            rw [if_neg fun h => hnot h.2] at hready
            exact hready hbefore
          simp [hbefore, hmem]
        · simp [hbefore]
      · simp [hw']

/-- An owner who finds every thread about to look whether it is to stop, or over, can shut down
without any further step of a worker. -/
theorem exists_run_close (hstopped : t.running = false)
    (howner : t.owner = .joining Worker.all (.ok ()))
    (hstages : ∀ w, t.stages w = .ready ∨ (t.stages w).isOver = true) :
    ∃ actions stages, t.run actions = some { t with
        station := t.station.mapPort (·.close), stages, owner := .free
        answers := t.answers ++ [verdict t.stages Worker.all] } ∧
      ∀ w, stages w = if t.stages w = .ready then .ended else t.stages w := by
  obtain ⟨enters, stages, henters, hended⟩ := exists_run_enters hstopped Worker.all
  simp only [Worker.mem_all, and_true] at hended
  -- After a last look all threads are over, so that all can be joined.
  have hover : ∀ w, (stages w).isOver = true := by
    intro w
    rw [hended]
    split
    · rfl
    · next hnot => exact (hstages w).resolve_left hnot
  have hverdict : verdict stages Worker.all = verdict t.stages Worker.all := by
    refine verdict_congr fun w _ => ?_
    rw [hended]
    split
    · next hready => simp [hready]
    · exact Iff.rfl
  have hjoins := @run_joins { t with stages } [] Worker.all (fun w _ => hover w) howner
  rw [List.nil_append, hverdict] at hjoins
  refine ⟨enters ++ (.replicate Worker.all.length .join ++ [.close]), stages, ?_, hended⟩
  rw [run_append, henters, Option.bind_some, run_append, hjoins, Option.bind_some]
  rfl

end Threads

/-! ## The runs of a bridge -/

namespace Station

/-- That an operation is one that can be done here by a worker, of those that have not panicked, or
by someone outside. -/
def Allows (s : Station) (panicked : List Worker) : Operation → Prop
  | .tick => .supervisor ∉ panicked
  | .receive w =>
    .receiver ∉ panicked ∧ w.quietLimit = none ∧ (s.receiver.step s.link w).1 ≠ .stalled
  | .send _ => .sender ∉ panicked
  | o => o.isOutside = true

/-- That each of these operations can be done when it is its turn. -/
def AllowsAll (s : Station) (panicked : List Worker) : List Operation → Prop
  | [] => True
  | o :: rest => s.Allows panicked o ∧ (s.apply o).2.AllowsAll panicked rest

end Station

namespace Bridge

/-- That an event lets workers do only what they can do. -/
def Admits (b : Bridge) : BridgeEvent → Prop
  | .work o => b.running = true → b.station.Allows b.panicked o
  | .shutdown rest => b.running = true → b.station.AllowsAll b.panicked rest
  | .panic _ | .change _ => True

/-- That each of these events lets workers do only what they can do when it is its turn. -/
def AdmitsAll : Bridge → List BridgeEvent → Prop
  | _, [] => True
  | b, e :: events => b.Admits e ∧ (b.step e).AdmitsAll events

/-- That the threads of `t` stand between two events of `b`. -/
structure Matches (b : Bridge) (t : Threads) : Prop where
  station : t.station = b.station
  running : t.running = b.running
  owner : t.owner = .free
  stages : ∀ w, t.stages w =
    if w ∈ b.panicked then .panicked else if b.running then .ready else .ended

variable {b : Bridge} {t : Threads}

/-- The threads begin as the bridge does. -/
theorem matches_start (port : ScriptedPort) : (start port).Matches (.start port) :=
  ⟨rfl, rfl, rfl, fun _ => rfl⟩

/-- A worker that has not panicked does a step, from one look whether it is to stop to the next. -/
theorem Matches.deed (h : b.Matches t) (hrunning : b.running = true) {d : Deed}
    (hliving : d.worker ∉ b.panicked) {s : Station} (hact : b.station.act d = some s) :
    ∃ actions t', t.run actions = some t' ∧ ({ b with station := s } : Bridge).Matches t' ∧
      t'.answers = t.answers := by
  have hready : t.stages d.worker = .ready := by
    rw [h.stages, if_neg hliving, if_pos hrunning]
  -- The thread looks at the flag, which is up, and makes its step.
  have henter : t.step (.enter d.worker) = some (t.set d.worker .acting) := by
    rw [Threads.step, if_pos hready, if_pos (h.running.trans hrunning)]
  have hdeed : (t.set d.worker .acting).step (.act d) = some
      { (t.set d.worker .acting).set d.worker (d.next t.station) with station := s } := by
    have hact' : (t.set d.worker .acting).station.act d = some s := by
      rw [← h.station] at hact
      exact hact
    rw [Threads.step, if_pos (Threads.stages_set_self _ _ _), hact']
    rfl
  have hboth : t.run [.enter d.worker, .act d] = some
      { (t.set d.worker .acting).set d.worker (d.next t.station) with station := s } := by
    rw [Threads.run_cons, henter, Option.bind_some]
    exact Threads.run_of_step hdeed
  -- The thread that looks again is where it was; one that sleeps has to wake up first.
  have hback : ∀ t' : Threads, t'.stages d.worker = .ready →
      (∀ w, w ≠ d.worker → t'.stages w = t.stages w) → t'.station = s →
      t'.running = t.running → t'.owner = t.owner →
      ({ b with station := s } : Bridge).Matches t' := by
    intro t' hready' hothers hstation hrunning' howner
    refine ⟨hstation, hrunning'.trans h.running, howner.trans h.owner, fun w => ?_⟩
    by_cases hw : w = d.worker
    · rw [hw, hready', if_neg hliving, if_pos hrunning]
    · rw [hothers w hw, h.stages]
  cases hnext : d.next t.station with
  | ready =>
    refine ⟨_, _, hboth, hback _ ?_ ?_ rfl rfl rfl, rfl⟩
    · rw [hnext]
      exact Threads.stages_set_self _ _ _
    · intro w hw
      exact (Threads.stages_set_of_ne _ _ hw).trans (Threads.stages_set_of_ne _ _ hw)
  | pausing =>
    refine ⟨[.enter d.worker, .act d] ++ [.wake d.worker], _, ?_, hback
      (({ (t.set d.worker .acting).set d.worker .pausing with station := s } : Threads).set
        d.worker .ready) (Threads.stages_set_self _ _ _) ?_ rfl rfl rfl, rfl⟩
    · rw [Threads.run_append, hboth, Option.bind_some, hnext]
      exact Threads.run_of_step (if_pos (Threads.stages_set_self _ _ _))
    · intro w hw
      exact (Threads.stages_set_of_ne _ _ hw).trans
        ((Threads.stages_set_of_ne _ _ hw).trans (Threads.stages_set_of_ne _ _ hw))
  | acting | ended | panicked =>
    cases d with
    | receive patience =>
      rw [Deed.next] at hnext
      split at hnext <;> exact absurd hnext (by decide)
    | tick | send now => exact absurd hnext (by simp [Deed.next])

/-- Whatever can be done, the threads of the bridge or those outside do. -/
theorem Matches.work (h : b.Matches t) (hrunning : b.running = true) {o : Operation}
    (hallowed : b.station.Allows b.panicked o) :
    ∃ actions t', t.run actions = some t' ∧
      ({ b with station := (b.station.apply o).2 } : Bridge).Matches t' ∧
      t'.answers = t.answers := by
  have houtside : o.isOutside = true → ∃ actions t', t.run actions = some t' ∧
      ({ b with station := (b.station.apply o).2 } : Bridge).Matches t' ∧
      t'.answers = t.answers := by
    intro hout
    refine ⟨[.use o], { t with station := (t.station.apply o).2 },
      Threads.run_of_step (if_pos hout), ⟨?_, h.running, h.owner, h.stages⟩, rfl⟩
    rw [h.station]
  -- The workers make their steps, all other operations come from outside.
  cases o with
  | tick => exact h.deed hrunning (d := .tick) hallowed rfl
  | send now => exact h.deed hrunning (d := .send now) hallowed rfl
  | receive w =>
    obtain ⟨hliving, hlimit, hback⟩ := hallowed
    obtain ⟨stop, limit⟩ := w
    obtain rfl : limit = none := hlimit
    let step := b.station.receiving (if stop then some 0 else none)
    have hstep : b.station.receiver.step b.station.link ⟨stop, none⟩ = step.result :=
      step.step_eq_result stop rfl
    refine h.deed hrunning (d := .receive (if stop then some 0 else none)) hliving ?_
    rw [hstep] at hback
    rw [Station.apply, hstep]
    exact if_neg hback
  | push _ | failOpens _ | openClosed _ | failWrites _ | change _ | markDown _ =>
    exact houtside rfl
  | openPort | closePort | readPort _ | readStream _ | writePort _ | supervise =>
    exact absurd hallowed (by simp [Station.Allows, Operation.isOutside])

/-- Several operations of the bridge in turn are made by threads that act in turn, and the flag
stays up. -/
theorem Matches.works (h : b.Matches t) (hrunning : b.running = true) {rest : List Operation}
    (hallowed : b.station.AllowsAll b.panicked rest) :
    ∃ actions t', t.run actions = some t' ∧
      ({ b with station := b.station.run rest } : Bridge).Matches t' ∧
      t'.answers = t.answers := by
  induction rest generalizing b t with
  | nil => exact ⟨[], t, rfl, h, rfl⟩
  | cons o rest ih =>
    obtain ⟨first, u, hfirst, hu, hsame⟩ := h.work hrunning hallowed.1
    obtain ⟨behind, t', hbehind, ht', hsame'⟩ := ih hu hrunning hallowed.2
    refine ⟨first ++ behind, t', ?_, ht', hsame'.trans hsame⟩
    rw [Threads.run_append, hfirst]
    exact hbehind

/-- Shutting down is a run of the threads too, with the same answer. -/
theorem Matches.shutdown (h : b.Matches t) {rest : List Operation}
    (hallowed : b.Admits (.shutdown rest)) :
    ∃ actions t', t.run actions = some t' ∧ (b.shutdown rest).2.Matches t' ∧
      t'.answers = t.answers ++ [(b.shutdown rest).1] := by
  rcases hrunning : b.running with _ | _
  -- The bridge has been shut down before: the answer comes at once.
  · have hstep : t.step .shutdown = some { t with answers := t.answers ++ [.ok ()] } := by
      rw [Threads.step, h.owner]
      dsimp only
      rw [if_neg (by simp [h.running, hrunning])]
    rw [Bridge.shutdown, if_neg (by simp [hrunning])]
    exact ⟨[.shutdown], _, Threads.run_of_step hstep,
      ⟨h.station, h.running, h.owner, h.stages⟩, rfl⟩
  -- What the workers still do comes first, and then the flag is lowered and all threads end.
  · obtain ⟨works, u, hworks, hu, hsame⟩ := h.works hrunning (hallowed hrunning)
    have hstep : u.step .shutdown =
        some { u with running := false, owner := .joining Worker.all (.ok ()) } := by
      rw [Threads.step, hu.owner]
      dsimp only
      rw [if_pos (hu.running.trans hrunning)]
    have hstages : ∀ w, u.stages w = if w ∈ b.panicked then .panicked else .ready := by
      intro w
      rw [hu.stages, if_pos hrunning]
    obtain ⟨closing, stages, hclosing, hended⟩ := @Threads.exists_run_close
      { u with running := false, owner := .joining Worker.all (.ok ()) } rfl rfl fun w => by
        show u.stages w = .ready ∨ (u.stages w).isOver = true
        rw [hstages]
        split <;> simp [Stage.isOver]
    have hverdict : Threads.verdict u.stages Worker.all = b.verdict := by
      have hfind : (fun w => decide (u.stages w = .panicked)) = b.panicked.contains := by
        funext w
        rw [hstages, List.contains_eq_mem]
        split <;> simp [*]
      rw [Threads.verdict, hfind]
      rfl
    rw [hverdict] at hclosing
    have hrun := t.run_append works (.shutdown :: closing)
    rw [hworks, Option.bind_some, Threads.run_cons, hstep, Option.bind_some, hclosing] at hrun
    rw [Bridge.shutdown, if_pos hrunning]
    refine ⟨_, _, hrun, ⟨?_, rfl, rfl, fun w => ?_⟩, ?_⟩
    · exact congrArg (Station.mapPort · _) hu.station
    · show stages w = _
      rw [hended]
      show (if u.stages w = .ready then Stage.ended else u.stages w) = _
      rw [hstages]
      split <;> simp
    · exact congrArg (· ++ [b.verdict]) hsame

/-- **One event of a bridge is made by some actions of its threads**, and in the end the two match
again. -/
theorem Matches.step (h : b.Matches t) {e : BridgeEvent} (hadmitted : b.Admits e) :
    ∃ actions t', t.run actions = some t' ∧ (b.step e).Matches t' := by
  -- A bridge that is stopped makes no steps, and then neither do its threads.
  cases e with
  | work o =>
    rcases hrunning : b.running with _ | _
    · rw [Bridge.step, if_neg (by simp [hrunning])]
      exact ⟨[], t, rfl, h⟩
    · rw [Bridge.step, if_pos hrunning]
      obtain ⟨actions, t', hrun, ht', -⟩ := h.work hrunning (hadmitted hrunning)
      exact ⟨actions, t', hrun, ht'⟩
  | panic w =>
    rcases hrunning : b.running with _ | _
    · rw [Bridge.step, if_neg (by simp [hrunning])]
      exact ⟨[], t, rfl, h⟩
    · rw [Bridge.step, if_pos hrunning]
      -- A worker panics once; its thread is over then, so a second panic is no action.
      by_cases hpanicked : w ∈ b.panicked
      · refine ⟨[], t, rfl, ⟨h.station, h.running, h.owner, fun w' => ?_⟩⟩
        rw [h.stages]
        by_cases hw : w' = w
        · simp [hw, hpanicked]
        · simp [hw]
      · have hready : t.stages w = .ready := by
          rw [h.stages, if_neg hpanicked, if_pos hrunning]
        refine ⟨[.panic w], t.set w .panicked,
          Threads.run_of_step (if_neg (by simp [hready, Stage.isOver])),
          ⟨h.station, h.running, h.owner, fun w' => ?_⟩⟩
        by_cases hw : w' = w
        · rw [hw, Threads.stages_set_self, if_pos List.mem_cons_self]
        · rw [Threads.stages_set_of_ne _ _ hw, h.stages]
          simp [hw]
  | change c =>
    refine ⟨[.use (.change c)], { t with station := (t.station.apply (.change c)).2 },
      Threads.run_of_step rfl, ⟨?_, h.running, h.owner, h.stages⟩⟩
    rw [h.station]
    rfl
  | shutdown rest =>
    obtain ⟨actions, t', hrun, ht', -⟩ := h.shutdown hadmitted
    exact ⟨actions, t', hrun, ht'⟩

/-- **The runs of a bridge are runs of its threads**, as long as every worker does only what it can
do. The induction goes over all bridges and threads that match. -/
theorem exists_threads_run (port : ScriptedPort) {events : List BridgeEvent}
    (hadmitted : (start port).AdmitsAll events) :
    ∃ actions t, (Threads.start port).run actions = some t ∧
      ((start port).run events).Matches t := by
  suffices hrun : ∀ {b : Bridge} {t : Threads}, b.Matches t → b.AdmitsAll events →
      ∃ actions t', t.run actions = some t' ∧ (b.run events).Matches t' from
    hrun (matches_start port) hadmitted
  clear hadmitted
  induction events with
  | nil => exact fun h _ => ⟨[], _, rfl, h⟩
  | cons e events ih =>
    intro b t h hadmitted
    obtain ⟨first, u, hfirst, hu⟩ := h.step hadmitted.1
    obtain ⟨behind, t', hbehind, ht'⟩ := ih hu hadmitted.2
    refine ⟨first ++ behind, t', ?_, ht'⟩
    rw [Threads.run_append, hfirst]
    exact hbehind

end Bridge

end ControllerLink
