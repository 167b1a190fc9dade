/-
# Shutting a bridge down

However the threads of a bridge take turns, its owner can be made to wait only
for a bounded number of their moves, closes the port once behind the last of
them, and nothing reaches the port from then on.  The flag that says whether
the port is usable is not lowered by this: a link that was up still says so.

The proof is by an invariant on the threads, a number that goes down, and a
relation that holds at rest:
* `Threads.Sound` names the three phases of a bridge and what is known in each;
  every action keeps it (`Threads.Sound.step`);
* `Threads.movesLeft` bounds the moves that are left once the flag is lowered,
  and as long as the owner waits somebody can move
  (`Threads.Sound.exists_move`), so that the wait comes to an end;
* `Threads.Rests` compares the bridge behind its shutdown with itself later on
  (`Threads.Closed.run`).
What outsiders do in between is not a move: they can lower the flag of the link
and fill the script of the port, and neither keeps a thread from its end.
-/
import ControllerLink.Proofs.Threads

set_option autoImplicit false

namespace ControllerLink

/-! ## What the others can do -/

/-- That the calls of a port, what was written to it and whether it is open are the same. -/
structure ScriptedPort.Untouched (p p' : ScriptedPort) : Prop where
  isOpen : p'.isOpen = p.isOpen
  openCalls : p'.openCalls = p.openCalls
  readCalls : p'.readCalls = p.readCalls
  writeCalls : p'.writeCalls = p.writeCalls
  closeCalls : p'.closeCalls = p.closeCalls
  written : p'.written = p.written

namespace ScriptedPort

theorem Untouched.refl (p : ScriptedPort) : p.Untouched p := ⟨rfl, rfl, rfl, rfl, rfl, rfl⟩

theorem Untouched.trans {p p' p'' : ScriptedPort} (h : p.Untouched p') (h' : p'.Untouched p'') :
    p.Untouched p'' where
  isOpen := h'.isOpen.trans h.isOpen
  openCalls := h'.openCalls.trans h.openCalls
  readCalls := h'.readCalls.trans h.readCalls
  writeCalls := h'.writeCalls.trans h.writeCalls
  closeCalls := h'.closeCalls.trans h.closeCalls
  written := h'.written.trans h.written

end ScriptedPort

/-- Whoever holds a handle can lower the flag, and never gets at the port. -/
theorem Station.apply_outside (s : Station) {o : Operation} (h : o.isOutside = true) :
    s.link.port.Untouched (s.apply o).2.link.port ∧
      (s.apply o).2.link.up = (s.link.up && !(ThreadAction.use o).lowers) := by
  cases o with
  | push _ | failOpens _ | openClosed _ | failWrites _ =>
    exact ⟨⟨rfl, rfl, rfl, rfl, rfl, rfl⟩, (Bool.and_true _).symm⟩
  | change c =>
    have hlink : (s.apply (.change c)).2.link =
        if (c.apply s.command).1 = some false then s.link.logAll c.events else s.link := rfl
    rw [hlink]
    split <;> exact ⟨.refl _, (Bool.and_true _).symm⟩
  | markDown reason =>
    have hlink : (s.apply (.markDown reason)).2.link = s.link.markDown reason := rfl
    rw [hlink, Link.port_markDown, Link.up_markDown]
    exact ⟨.refl _, (Bool.and_false _).symm⟩
  | openPort | closePort | readPort _ | readStream _ | writePort _ | supervise | tick
  | receive _ | send _ => exact absurd h (by simp [Operation.isOutside])

/-- A step of receiving hangs only where its poll does. -/
theorem Polled.eq_stalled_of_received {o : Polled} (h : o.received = .stalled) : o = .stalled := by
  cases o with
  | stalled => rfl
  | idle => exact absurd h (by simp [received])
  | failed e =>
    rw [received] at h
    split at h <;> exact absurd h (by simp)
  | frame f =>
    rw [received] at h
    split at h
    · exact absurd h (by simp)
    · split at h <;> exact absurd h (by simp)

/-- A receiver that has no patience left comes back from its step. -/
theorem Station.outcome_ne_stalled (s : Station) (n : Nat) :
    (s.receiving (some n)).outcome ≠ .stalled := by
  intro hstalled
  rcases hflag : s.link.up with _ | _
  · rw [((s.receiving (some n)).of_down hflag).1] at hstalled
    exact absurd hstalled (by simp)
  · rw [((s.receiving (some n)).of_up hflag).1] at hstalled
    exact absurd (Reader.stalled_poll (Polled.eq_stalled_of_received hstalled)).1
      (Option.some_ne_none n)

/-- In the middle of a step each worker can finish it. -/
theorem Station.exists_act (s : Station) (w : Worker) :
    ∃ d : Deed, d.worker = w ∧ (s.act d).isSome = true := by
  cases w with
  | supervisor => exact ⟨.tick, rfl, rfl⟩
  | sender => exact ⟨.send 0, rfl, rfl⟩
  | receiver =>
    refine ⟨.receive (some 0), rfl, ?_⟩
    rw [act, if_neg (s.outcome_ne_stalled 0)]
    rfl

namespace Threads

variable {t t' : Threads} {a : ThreadAction} {actions : List ThreadAction}

/-! ## Three phases -/

/-- That a bridge has been shut down. -/
structure Closed (t : Threads) : Prop where
  stopped : t.running = false
  owner : t.owner = .free
  finished : ∀ w, (t.stages w).isOver = true

/-- The phases of a bridge: it runs, or is being shut down, or has been.  While it is being shut
down the threads that are joined are over, and their owner has the answer so far. -/
inductive Sound (t : Threads) : Prop where
  | running (running : t.running = true) (owner : t.owner = .free) (answers : t.answers = [])
  | joining (joined left : List Worker) (workers : Worker.all = joined ++ left)
      (stopped : t.running = false) (owner : t.owner = .joining left (verdict t.stages joined))
      (finished : ∀ w ∈ joined, (t.stages w).isOver = true) (answers : t.answers = [])
  | closed (closed : t.Closed)

theorem sound_start (port : ScriptedPort) : (start port).Sound := .running rfl rfl rfl

/-- **Closing the port** stands behind the last move of every thread and answers the first call. -/
theorem Sound.step_close (h : t.Sound) (hstep : t.step .close = some t') :
    (∀ w, (t.stages w).isOver = true) ∧ t.answers = [] ∧
      t'.answers = [verdict t.stages Worker.all] ∧
      t'.station = t.station.mapPort (·.close) ∧ t'.Closed := by
  obtain ⟨result, howner, rfl⟩ : ∃ result, t.owner = .joining [] result ∧
      t' = { t with
        station := t.station.mapPort (·.close), owner := .free
        answers := t.answers ++ [result] } := by
    rcases step_cases hstep with ⟨-, -, hne, -⟩ | ⟨hother, -⟩ | ⟨hother, -⟩ | ⟨hother, -⟩ |
      ⟨-, hclosing⟩ | ⟨o, hother, -⟩
    · exact absurd rfl hne
    · exact absurd hother (by simp)
    · exact absurd hother (by simp)
    · exact absurd hother (by simp)
    · exact hclosing
    · exact absurd hother (by simp)
  -- Of the three stages of soundness only the one in which workers are joined has an owner that can
  -- close.
  cases h with
  | running running owner => exact absurd owner (by simp [howner])
  | closed closed => exact absurd closed.owner (by simp [howner])
  | joining joined left workers stopped owner finished answers =>
    rw [owner, Owner.joining.injEq] at howner
    obtain ⟨rfl, rfl⟩ := howner
    rw [List.append_nil] at workers
    have hover : ∀ w, (t.stages w).isOver = true := fun w => finished w (workers ▸ w.mem_all)
    refine ⟨hover, answers, ?_, rfl, stopped, rfl, hover⟩
    rw [answers, ← workers]
    rfl

/-- **The phases follow each other.** -/
theorem Sound.step (h : t.Sound) (hstep : t.step a = some t') : t'.Sound := by
  rcases step_cases hstep with ⟨-, -, -, w, hmoves⟩ | ⟨-, hfree, hrunning, rfl⟩ |
    ⟨-, hfree, hstopped, rfl⟩ | ⟨-, w, left, result, howner, hover, rfl⟩ | ⟨rfl, -⟩ |
    ⟨o, -, -, rfl⟩
  -- A thread moves.
  case inl =>
    cases h with
    | running running owner answers =>
      exact .running (hmoves.running.trans running) (hmoves.owner.trans owner)
        (hmoves.answers.trans answers)
    | joining joined left workers stopped owner finished answers =>
      have hothers : ∀ w' ∈ joined, t'.stages w' = t.stages w' := by
        intro w' hw'
        refine hmoves.others w' fun hsame => ?_
        have hover := finished w' hw'
        rw [hsame, hmoves.living] at hover
        exact absurd hover (by decide)
      have hverdict : verdict t'.stages joined = verdict t.stages joined :=
        verdict_congr fun w' hw' => by rw [hothers w' hw']
      refine .joining joined left workers (hmoves.running.trans stopped) ?_ ?_
        (hmoves.answers.trans answers)
      · rw [hmoves.owner, owner, hverdict]
      · intro w' hw'
        rw [hothers w' hw']
        exact finished w' hw'
    | closed closed => exact absurd (closed.finished w) (by simp [hmoves.living])
  -- The flag is lowered, and the owner begins to join.
  case inr.inl =>
    cases h with
    | running running owner answers =>
      exact .joining [] Worker.all rfl rfl rfl (fun w hw => absurd hw (by simp)) answers
    | joining joined left workers stopped => exact absurd stopped (by simp [hrunning])
    | closed closed => exact absurd closed.stopped (by simp [hrunning])
  -- Shutting down once more.
  case inr.inr.inl =>
    cases h with
    | running running => exact absurd running (by simp [hstopped])
    | joining joined left workers stopped owner => exact absurd owner (by simp [hfree])
    | closed closed => exact .closed ⟨hstopped, hfree, closed.finished⟩
  -- One more thread is joined.
  case inr.inr.inr.inl =>
    cases h with
    | running running owner => exact absurd owner (by simp [howner])
    | joining joined left' workers stopped owner finished answers =>
      rw [owner, Owner.joining.injEq] at howner
      obtain ⟨rfl, rfl⟩ := howner
      refine .joining (joined ++ [w]) left ?_ stopped ?_ ?_ answers
      · rw [workers, List.append_assoc, List.singleton_append]
      · exact congrArg (Owner.joining left) (verdict_append_singleton t joined w).symm
      · intro w' hw'
        rcases List.mem_append.1 hw' with hbefore | hlast
        · exact finished w' hbefore
        · rw [List.mem_singleton.1 hlast]
          exact hover
    | closed closed => exact absurd closed.owner (by simp [howner])
  -- The port is closed.
  case inr.inr.inr.inr.inl =>
    obtain ⟨-, -, -, -, hclosed⟩ := h.step_close hstep
    exact .closed hclosed
  -- Somebody with a handle uses the station, which no thread knows of.
  case inr.inr.inr.inr.inr =>
    cases h with
    | running running owner answers => exact .running running owner answers
    | joining joined left workers stopped owner finished answers =>
      exact .joining joined left workers stopped owner finished answers
    | closed closed => exact .closed ⟨closed.stopped, closed.owner, closed.finished⟩

/-- **Soundness is kept** along every run. -/
theorem Sound.run (h : t.Sound) (hrun : t.run actions = some t') : t'.Sound := by
  induction actions generalizing t with
  | nil =>
    obtain rfl := Option.some.inj hrun
    exact h
  | cons a actions ih =>
    obtain ⟨u, hu, hrun⟩ := exists_of_run_cons hrun
    exact ih (h.step hu) hrun

/-- The flag is lowered by shutting down, and by nothing else. -/
theorem running_step (hstep : t.step a = some t') :
    t'.running = true ↔ t.running = true ∧ a ≠ .shutdown := by
  rcases step_cases hstep with ⟨hmove, -, -, w, hmoves⟩ | ⟨rfl, -, -, rfl⟩ |
    ⟨rfl, -, hstopped, rfl⟩ | ⟨rfl, w, left, result, -, -, rfl⟩ | ⟨rfl, result, -, rfl⟩ |
    ⟨o, rfl, -, rfl⟩
  · rw [hmoves.running]
    refine ⟨fun hrunning => ⟨hrunning, ?_⟩, And.left⟩
    rintro rfl
    exact absurd hmove (by decide)
  · simp
  · simp [hstopped]
  · simp
  · simp
  · simp

/-- A bridge goes on exactly until it is asked to shut down. -/
theorem running_run (hrun : t.run actions = some t') :
    t'.running = true ↔ t.running = true ∧ .shutdown ∉ actions := by
  induction actions generalizing t with
  | nil =>
    obtain rfl := Option.some.inj hrun
    simp
  | cons a actions ih =>
    obtain ⟨u, hu, hrun⟩ := exists_of_run_cons hrun
    rw [ih hrun, running_step hu, List.mem_cons, not_or, and_assoc, ne_comm, ne_eq]

theorem running_step_of_stopped (hstopped : t.running = false) (hstep : t.step a = some t') :
    t'.running = false := by
  rw [← Bool.not_eq_true, running_step hstep]
  simp [hstopped]

/-- Until the port is closed either the flag is up or the owner is at work. The owner is free again
only when the port is closed. -/
theorem owner_step (hstep : t.step a = some t') (hclose : a ≠ .close)
    (h : t.running = true ∨ t.owner ≠ .free) : t'.running = true ∨ t'.owner ≠ .free := by
  rcases step_cases hstep with ⟨-, -, -, w, hmoves⟩ | ⟨-, -, -, rfl⟩ | ⟨-, hfree, hstopped, rfl⟩ |
    ⟨-, w, left, result, -, -, rfl⟩ | ⟨hclosing, -⟩ | ⟨o, -, -, rfl⟩
  · rw [hmoves.running, hmoves.owner]
    exact h
  · exact .inr (by simp)
  · exact h
  · exact .inr (by simp)
  · exact absurd hclosing hclose
  · exact h

/-- Only closing the port ends a shutdown. -/
theorem owner_run (hrun : t.run actions = some t') (hclose : .close ∉ actions)
    (h : t.running = true ∨ t.owner ≠ .free) : t'.running = true ∨ t'.owner ≠ .free := by
  induction actions generalizing t with
  | nil =>
    obtain rfl := Option.some.inj hrun
    exact h
  | cons a actions ih =>
    obtain ⟨u, hu, hrun⟩ := exists_of_run_cons hrun
    rw [List.mem_cons, not_or] at hclose
    exact ih hrun hclose.2 (owner_step hu (Ne.symm hclose.1) h)

/-! ## The wait -/

/-- How often at most the threads that are to stop, and the owner, move on. -/
def movesLeft (t : Threads) : Nat :=
  (t.stages .supervisor).movesLeft + (t.stages .receiver).movesLeft +
    (t.stages .sender).movesLeft + t.owner.movesLeft

/-- **Every move brings a shutdown nearer to its end**, and nobody outside sets it back. -/
theorem movesLeft_step (hstopped : t.running = false) (hstep : t.step a = some t') :
    t'.movesLeft + (if a.isMove then 1 else 0) ≤ t.movesLeft := by
  rcases step_cases hstep with ⟨hmove, -, -, w, hmoves⟩ | ⟨-, -, hrunning, -⟩ |
    ⟨rfl, -, -, rfl⟩ | ⟨rfl, w, left, result, howner, -, rfl⟩ | ⟨rfl, result, howner, rfl⟩ |
    ⟨o, rfl, -, rfl⟩
  -- A move takes its thread nearer to its end and leaves the two others where they are.
  · rw [if_pos hmove, movesLeft, movesLeft, hmoves.owner]
    have hnearer := hmoves.nearer hstopped
    cases w with
    | supervisor =>
      rw [hmoves.others .receiver (by decide), hmoves.others .sender (by decide)]
      omega
    | receiver =>
      rw [hmoves.others .supervisor (by decide), hmoves.others .sender (by decide)]
      omega
    | sender =>
      rw [hmoves.others .supervisor (by decide), hmoves.others .receiver (by decide)]
      omega
  · exact absurd hstopped (by simp [hrunning])
  · exact Nat.le_refl _
  · rw [movesLeft, movesLeft, howner]
    exact Nat.le_refl _
  · rw [movesLeft, movesLeft, howner]
    exact Nat.le_refl _
  · exact Nat.le_refl _

/-- Of the moves that are left, a run with the flag lowered spends one for each move it makes. -/
theorem movesLeft_run (hstopped : t.running = false) (hrun : t.run actions = some t') :
    t'.movesLeft + actions.countP ThreadAction.isMove ≤ t.movesLeft := by
  induction actions generalizing t with
  | nil =>
    obtain rfl := Option.some.inj hrun
    exact Nat.le_refl _
  | cons a actions ih =>
    obtain ⟨u, hu, hrun⟩ := exists_of_run_cons hrun
    have hfirst := movesLeft_step hstopped hu
    have hrest := ih (running_step_of_stopped hstopped hu) hrun
    rw [List.countP_cons]
    omega

/-- A bridge that is being shut down is a bounded number of moves away from the end of that. There
are at most three moves for each thread, and one for each join and for the port. -/
theorem Sound.movesLeft_le (h : t.Sound) (hstopped : t.running = false) : t.movesLeft ≤ 13 := by
  have hstage : ∀ w, (t.stages w).movesLeft ≤ 3 := by
    intro w
    cases t.stages w <;> simp [Stage.movesLeft]
  -- The owner has not joined more threads than there are.
  have howner : t.owner.movesLeft ≤ 4 := by
    cases h with
    | running running => exact absurd running (by simp [hstopped])
    | joining joined left workers stopped owner =>
      have hlength : Worker.all.length = joined.length + left.length := by
        rw [workers, List.length_append]
      have hall : Worker.all.length = 3 := rfl
      rw [owner, Owner.movesLeft]
      omega
    | closed closed =>
      rw [closed.owner, Owner.movesLeft]
      omega
  have hsupervisor := hstage .supervisor
  have hreceiver := hstage .receiver
  have hsender := hstage .sender
  rw [movesLeft]
  omega

/-- **Nobody is waited for in vain**: as long as a bridge is being shut down, its owner or the
thread that the owner waits for can move on, without panicking. -/
theorem Sound.exists_move (h : t.Sound) (howner : t.owner ≠ .free) :
    ∃ a, a.isMove = true ∧ (∀ w, a ≠ .panic w) ∧ (t.step a).isSome = true := by
  cases h with
  | running running owner => exact absurd owner howner
  | closed closed => exact absurd closed.owner howner
  | joining joined left workers stopped owner =>
    cases left with
    | nil =>
      refine ⟨.close, rfl, by simp, ?_⟩
      rw [Threads.step, owner]
      rfl
    | cons w left =>
      have hjoin : (t.stages w).isOver = true → (t.step .join).isSome = true := by
        intro hover
        rw [Threads.step, owner]
        dsimp only
        rw [if_pos hover]
        rfl
      -- The owner waits for this thread: it can move unless it is over, and then it can be joined.
      cases hstage : t.stages w with
      | ready =>
        refine ⟨.enter w, rfl, by simp, ?_⟩
        rw [Threads.step, if_pos hstage]
        rfl
      | acting =>
        obtain ⟨d, rfl, hact⟩ := t.station.exists_act w
        refine ⟨.act d, rfl, by simp, ?_⟩
        rw [Threads.step, if_pos hstage, Option.isSome_map]
        exact hact
      | pausing =>
        refine ⟨.wake w, rfl, by simp, ?_⟩
        rw [Threads.step, if_pos hstage]
        rfl
      | ended | panicked => exact ⟨.join, rfl, by simp, hjoin (by rw [hstage]; rfl)⟩

/-- From wherever a shutdown stands, it can be brought to its end. Each move leaves fewer, by
`movesLeft_step`. -/
theorem Sound.exists_close (h : t.Sound) (howner : t.owner ≠ .free) :
    ∃ rest t', (∀ a ∈ rest, a.isMove = true ∧ ∀ w, a ≠ .panic w) ∧
      t.run (rest ++ [.close]) = some t' := by
  induction hleft : t.movesLeft using Nat.strongRecOn generalizing t with
  | _ n ih =>
    subst hleft
    have hstopped : t.running = false := by
      cases h with
      | running running owner => exact absurd owner howner
      | joining joined left workers stopped => exact stopped
      | closed closed => exact closed.stopped
    obtain ⟨a, hmove, hcalm, hsome⟩ := h.exists_move howner
    obtain ⟨u, hu⟩ := Option.isSome_iff_exists.1 hsome
    -- The move that can be made is the last one, or there is one less behind it.
    by_cases hclose : a = .close
    · subst hclose
      exact ⟨[], u, fun a ha => absurd ha (by simp), run_of_step hu⟩
    · have hfewer : u.movesLeft < t.movesLeft := by
        have hnearer := movesLeft_step hstopped hu
        rw [if_pos hmove] at hnearer
        omega
      have hwaits : u.owner ≠ .free := by
        refine (owner_step hu hclose (.inr howner)).resolve_left ?_
        simp [running_step_of_stopped hstopped hu]
      obtain ⟨rest, t', hrest, hrun⟩ := ih _ hfewer (h.step hu) hwaits rfl
      refine ⟨a :: rest, t', ?_, ?_⟩
      · intro a' ha'
        rcases List.mem_cons.1 ha' with rfl | hbehind
        · exact ⟨hmove, hcalm⟩
        · exact hrest a' hbehind
      · rw [List.cons_append, run_cons, hu]
        exact hrun

/-! ## The quiet -/

/-- What happens to a bridge that has been shut down: it is asked to shut down again, and the others
do what they can; each call is answered at once, nothing reaches the port, and the flag is lowered
by nobody but by those who find fault from outside. -/
structure Rests (t : Threads) (actions : List ThreadAction) (t' : Threads) : Prop where
  calm : ∀ a ∈ actions, a = .shutdown ∨ ∃ o, a = .use o
  port : t.station.link.port.Untouched t'.station.link.port
  answers : t'.answers = t.answers ++ List.replicate (actions.count .shutdown) (.ok ())
  flag : t'.station.link.up = (t.station.link.up && !actions.any ThreadAction.lowers)

/-- When all is closed nothing that the threads could do moves anything any more. No thread can move
and nobody is waited for; two kinds of actions are left. -/
theorem Closed.step (h : t.Closed) (hstep : t.step a = some t') :
    t'.Closed ∧ t.Rests [a] t' := by
  rcases step_cases hstep with ⟨-, -, -, w, hmoves⟩ | ⟨-, -, hrunning, -⟩ | ⟨rfl, -, -, rfl⟩ |
    ⟨-, w, left, result, howner, -⟩ | ⟨-, result, howner, -⟩ | ⟨o, rfl, houtside, rfl⟩
  · exact absurd (h.finished w) (by simp [hmoves.living])
  · exact absurd h.stopped (by simp [hrunning])
  · refine ⟨⟨h.stopped, h.owner, h.finished⟩, by simp, .refl _, rfl, ?_⟩
    exact (Bool.and_true _).symm
  · exact absurd h.owner (by simp [howner])
  · exact absurd h.owner (by simp [howner])
  · obtain ⟨hport, hflag⟩ := t.station.apply_outside houtside
    refine ⟨⟨h.stopped, h.owner, h.finished⟩, by simp, hport, ?_, ?_⟩
    · simp
    · rw [hflag, List.any_cons, List.any_nil, Bool.or_false]

/-- **A bridge that has been shut down rests**, whatever is asked of it. -/
theorem Closed.run (h : t.Closed) (hrun : t.run actions = some t') :
    t'.Closed ∧ t.Rests actions t' := by
  induction actions generalizing t with
  | nil =>
    obtain rfl := Option.some.inj hrun
    exact ⟨h, by simp, .refl _, by simp, by simp⟩
  | cons a actions ih =>
    obtain ⟨u, hu, hrun⟩ := exists_of_run_cons hrun
    obtain ⟨hclosed, hfirst⟩ := h.step hu
    obtain ⟨hclosed', hrest⟩ := ih hclosed hrun
    refine ⟨hclosed', ?_, hfirst.port.trans hrest.port, ?_, ?_⟩
    · intro a' ha'
      rcases List.mem_cons.1 ha' with rfl | hbehind
      · exact hfirst.calm a' (List.mem_singleton_self a')
      · exact hrest.calm a' hbehind
    · rw [hrest.answers, hfirst.answers, List.append_assoc, List.replicate_append_replicate,
        ← List.count_append, List.singleton_append]
    · rw [hrest.flag, hfirst.flag]
      simp [Bool.and_assoc]

/-- **Shutting down leaves a quiet link.**  Let the threads of a bridge, its owner and the holders
of its handles do what they can in any order.  The bridge says that it runs until it is asked to
shut down for the first time.  The owner then waits for a bounded number of moves at most, and can
always be brought to the end of the wait.  It closes the port behind the last move of every worker;
this answers the first call, with the first worker that has panicked if there is one.  From then on
no call reaches the port, which stays closed, the later calls succeed, and the flag of the link
stays as closing the port has found it until someone outside lowers it. -/
theorem shutdown_quiets {port : ScriptedPort} (reached : (start port).run actions = some t) :
    (t.running = true ↔ .shutdown ∉ actions) ∧
      (t.running = false →
        (∀ rest t', t.run rest = some t' → rest.countP ThreadAction.isMove ≤ 13) ∧
          (.close ∉ actions → ∃ rest t', (∀ a ∈ rest, a.isMove = true ∧ ∀ w, a ≠ .panic w) ∧
            t.run (rest ++ [.close]) = some t')) ∧
      ∀ before behind, actions = before ++ .close :: behind →
        ∃ u v, (start port).run before = some u ∧ u.step .close = some v ∧
          (∀ w, (u.stages w).isOver = true) ∧ u.answers = [] ∧
          v.answers = [verdict u.stages Worker.all] ∧
          v.station.link = { u.station.link with port := u.station.link.port.close } ∧
          v.Rests behind t ∧ t.station.link.port.isOpen = false ∧ t.running = false := by
  have hrunning : t.running = true ↔ .shutdown ∉ actions := by
    rw [running_run reached, and_iff_right_iff_imp]
    exact fun _ => rfl
  refine ⟨hrunning, fun hstopped => ⟨fun rest t' hrest => ?_, fun hclose => ?_⟩, ?_⟩
  -- The moves that are left bound those that will be made.
  · have hspent := movesLeft_run hstopped hrest
    have hbound := ((sound_start port).run reached).movesLeft_le hstopped
    omega
  · refine ((sound_start port).run reached).exists_close ?_
    refine (owner_run reached hclose (.inl rfl)).resolve_left ?_
    rw [hstopped]
    decide
  -- The run is cut where the port is closed.
  · rintro before behind rfl
    obtain ⟨u, hbefore, hbehind⟩ := exists_of_run_append reached
    obtain ⟨v, hclose, hbehind⟩ := exists_of_run_cons hbehind
    obtain ⟨hover, hnone, hanswer, hstation, hclosed⟩ :=
      ((sound_start port).run hbefore).step_close hclose
    obtain ⟨hclosed', hrests⟩ := hclosed.run hbehind
    have hlink : v.station.link = { u.station.link with port := u.station.link.port.close } := by
      rw [hstation]
      rfl
    have hshut : v.station.link.port.isOpen = false := by
      rw [hlink]
      rfl
    exact ⟨u, v, hbefore, hclose, hover, hnone, hanswer, hlink, hrests,
      hrests.port.isOpen.trans hshut, hclosed'.stopped⟩

/-- A bridge is asked to shut down while its receiver is in the middle of a step, and once more when
this is done. -/
def interrupted : List ThreadAction :=
  [.enter .receiver, .use (.push (.data [0x5a])), .shutdown, .enter .supervisor,
    .act (.receive (some 0)), .enter .receiver, .panic .sender, .join, .join, .join] ++
    [.close, .shutdown]

/-- Here a worker is in the middle of a step when it is told to stop, and the port is shut down
twice. -/
theorem shutdown_quiets_interrupted :
    ∃ t, (start .fresh).run interrupted = some t ∧ t.running = false ∧
      t.station.link.port.isOpen = false ∧ t.answers.length = 2 ∧
      t.answers.tail = [.ok ()] := by
  obtain ⟨t, hrun⟩ := Option.isSome_iff_exists.1
    (show ((start .fresh).run interrupted).isSome = true by decide +kernel)
  obtain ⟨-, -, hquiet⟩ := shutdown_quiets hrun
  obtain ⟨u, v, -, -, -, -, hfirst, -, hrests, hshut, hstopped⟩ :=
    hquiet (interrupted.take 10) [.shutdown] rfl
  have hanswers := hrests.answers
  rw [hfirst] at hanswers
  refine ⟨t, hrun, hstopped, hshut, ?_, ?_⟩ <;> rw [hanswers] <;> rfl

end Threads

/-- A bridge that is shut down with its link up still shows the link as up, on a port that is
closed. -/
theorem Bridge.up_on_closed_port :
    ((start .fresh).run [.shutdown []]).running = false ∧
      ((start .fresh).run [.shutdown []]).station.link.port.isOpen = false ∧
      ((start .fresh).run [.shutdown []]).station.link.up = true := by
  decide +kernel

end ControllerLink
