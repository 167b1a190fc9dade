/-
# Pauses of a bridge

A point in time counts its seconds with 63 bits.  A duration that is read from a
text can be slept exactly if it ends before that count does: in milliseconds all
of them do, of those in seconds only the smaller half.  Whatever happens to a
bridge, its workers panic for no other reason than a pause that ends too late,
and such a pause makes a panic of the first turn that ends in it.

Ends are compared in nanoseconds, where a deadline is a plain sum
(`Duration.deadline?_cases`). `Schedule.Follows` says what the turns of a bridge
can lead to: the timing stays, the clock goes on, and whoever has panicked had a
pause that ends too late. It is reflexive and transitive, so it is enough to see
it for an event and for a pause, which all turns are made of
(`Schedule.follows_turn`). The other direction, that a pause too long makes a
panic, is about a single turn (`Schedule.panicked_turn_iff`). What the pauses
have to do with the arguments of a run is left to the end.
-/
import ControllerLink.Link.Schedule
import ControllerLink.Proofs.DurationTexts

set_option autoImplicit false

namespace ControllerLink

/-! ## Ends of durations -/

namespace Duration

/-- A duration in nanoseconds. -/
def inNanos (d : Duration) : Nat := d.seconds * 1000000000 + d.nanos

/-- A unit in nanoseconds. -/
def Scale.inNanos : Scale → Nat
  | milliseconds => 1000000
  | seconds => 1000000000

/-- The first nanosecond whose seconds are not counted. -/
def clockEnd : Nat := 2 ^ 63 * 1000000000

theorem inNanos_ofMillis (n : Nat) : (ofMillis n).inNanos = n * 1000000 := by
  show n / 1000 * 1000000000 + 1000000 * (n % 1000) = n * 1000000
  omega

/-- A number of units of a scale, counted in nanoseconds; a duration splits it into seconds and the
rest, which add up again. -/
theorem inNanos_times (scale : Scale) (n : Nat) : (scale.times n).inNanos = n * scale.inNanos := by
  cases scale with
  | milliseconds => exact inNanos_ofMillis n
  | seconds =>
    show n * 1000000000 + 0 = n * 1000000000
    rw [Nat.add_zero]

/-- **Where a deadline lies.** It is the sum of what it is made of, and there is none if that is not
counted any more. Nanoseconds carry at most once, and the limit is on the seconds alone. -/
theorem deadline?_cases (now d : Duration) :
    (now.inNanos + d.inNanos < clockEnd ∧
        ∃ t, deadline? now d = some t ∧ t.inNanos = now.inNanos + d.inNanos) ∨
      (clockEnd ≤ now.inNanos + d.inNanos ∧ deadline? now d = none) := by
  have hlimit : instantLimit = 2 ^ 63 - 1 := rfl
  unfold deadline?
  dsimp only
  rw [hlimit]
  simp only [inNanos, clockEnd]
  by_cases hfits : now.seconds + d.seconds + (now.nanos + d.nanos) / 1000000000 ≤ 2 ^ 63 - 1
  · rw [if_pos hfits]
    exact .inl ⟨by omega, _, rfl, by dsimp only; omega⟩
  · rw [if_neg hfits]
    exact .inr ⟨by omega, rfl⟩

end Duration

namespace Timing

/-- The pauses that a worker can make. -/
def pausesOf (t : Timing) : Worker → List Duration
  | .supervisor => [t.reconnect]
  | .receiver => [t.backoff]
  | .sender => [t.sendPeriod, t.backoff]

end Timing

/-! ## Turns -/

/-- What happens next to a bridge on a clock. -/
inductive Schedule.Turn where
  /-- A worker acts if its pause is over, and pauses again. -/
  | worker (w : Worker)
  /-- Milliseconds pass. -/
  | wait (ms : Nat)
  /-- Something else happens, which is no panic. -/
  | event (e : BridgeEvent) (calm : ∀ w, e ≠ .panic w)

namespace Schedule

/-- The schedule after a turn. -/
def turn (s : Schedule) : Turn → Schedule
  | .worker .supervisor => s.supervise
  | .worker .receiver => s.receive
  | .worker .sender => s.send
  | .wait ms => { s with clock := s.clock + ms }
  | .event e _ => s.event e

/-- The schedule after some turns. -/
def run (s : Schedule) (turns : List Turn) : Schedule :=
  turns.foldl turn s

/-- The turns of one millisecond. -/
def tickTurns : List Turn :=
  [.worker .supervisor, .worker .receiver, .worker .sender, .wait 1]

/-- What a bridge does on its clock is made of turns. -/
theorem ticks_eq_run (s : Schedule) (n : Nat) :
    s.ticks n = s.run (List.replicate n tickTurns).flatten := by
  induction n generalizing s with
  | zero => rfl
  | succ n ih =>
    rw [ticks, ih, List.replicate_succ, List.flatten_cons, run, run, List.foldl_append]
    rfl

/-- That a pause which begins now ends when seconds are not counted any more. -/
def TooLate (s : Schedule) (d : Duration) : Prop :=
  Duration.clockEnd ≤ s.now.inNanos + d.inNanos

/-- The clock of a schedule goes on from its origin in milliseconds. What is carried into the
seconds is missing from the nanoseconds. -/
theorem inNanos_now (s : Schedule) : s.now.inNanos = s.origin.inNanos + s.clock * 1000000 := by
  have hclock : (Duration.ofMillis s.clock).seconds * 1000000000 +
      (Duration.ofMillis s.clock).nanos = s.clock * 1000000 := Duration.inNanos_ofMillis s.clock
  have hcarry := Nat.div_add_mod' (s.origin.nanos + (Duration.ofMillis s.clock).nanos) 1000000000
  show (_ + _ + _ / 1000000000) * 1000000000 + _ % 1000000000 = _ * 1000000000 + _ + _
  rw [Nat.add_mul, Nat.add_mul, Nat.add_assoc, hcarry, ← hclock]
  ac_rfl

/-- The schedule with another time at which a worker acts next. -/
def setDue (s : Schedule) (w : Worker) (due : Nat) : Schedule :=
  match w with
  | .supervisor => { s with supervisorDue := due }
  | .receiver => { s with receiverDue := due }
  | .sender => { s with senderDue := due }

@[simp] theorem setDue_bridge (s : Schedule) (w : Worker) (due : Nat) :
    (s.setDue w due).bridge = s.bridge := by
  cases w <;> rfl

@[simp] theorem setDue_timing (s : Schedule) (w : Worker) (due : Nat) :
    (s.setDue w due).timing = s.timing := by
  cases w <;> rfl

@[simp] theorem setDue_origin (s : Schedule) (w : Worker) (due : Nat) :
    (s.setDue w due).origin = s.origin := by
  cases w <;> rfl

@[simp] theorem setDue_clock (s : Schedule) (w : Worker) (due : Nat) :
    (s.setDue w due).clock = s.clock := by
  cases w <;> rfl

/-- A pause makes a panic if it ends too late, and only sets when the worker acts next otherwise. -/
theorem pause_cases (s : Schedule) (w : Worker) (d : Duration) :
    (s.TooLate d ∧ s.pause w d = s.event (.panic w)) ∨
      (¬ s.TooLate d ∧ ∃ due, s.pause w d = s.setDue w due) := by
  rcases Duration.deadline?_cases s.now d with ⟨hfits, t, hdeadline, -⟩ | ⟨hlate, hdeadline⟩
  · refine .inr ⟨Nat.not_le.2 hfits, s.clock + d.clockTicks, ?_⟩
    rw [pause, hdeadline]
    cases w <;> rfl
  · refine .inl ⟨hlate, ?_⟩
    rw [pause, hdeadline]

/-- What a bridge can come to: time passes, and workers panic if one of their pauses ends too
late. -/
structure Follows (s s' : Schedule) : Prop where
  timing : s'.timing = s.timing
  origin : s'.origin = s.origin
  clock : s.clock ≤ s'.clock
  panicked : ∀ w ∈ s'.bridge.panicked,
    w ∈ s.bridge.panicked ∨ ∃ d ∈ s.timing.pausesOf w, s'.TooLate d

namespace Follows

variable {s s' s'' : Schedule}

theorem refl (s : Schedule) : s.Follows s := ⟨rfl, rfl, Nat.le_refl _, fun _ => .inl⟩

/-- What ends too late ends too late also later on. -/
theorem tooLate (h : s.Follows s') {d : Duration} (hd : s.TooLate d) : s'.TooLate d := by
  have hclock : s.clock * 1000000 ≤ s'.clock * 1000000 := Nat.mul_le_mul_right _ h.clock
  unfold TooLate at hd ⊢
  rw [inNanos_now] at hd ⊢
  rw [h.origin]
  exact Nat.le_trans hd (Nat.add_le_add_right (Nat.add_le_add_left hclock _) _)

/-- What follows a schedule that follows another follows that one: a reason for a panic stays one,
since time only goes on. -/
theorem trans (h : s.Follows s') (h' : s'.Follows s'') : s.Follows s'' where
  timing := h'.timing.trans h.timing
  origin := h'.origin.trans h.origin
  clock := Nat.le_trans h.clock h'.clock
  panicked w hw := by
    rcases h'.panicked w hw with hbefore | ⟨d, hd, hlate⟩
    · rcases h.panicked w hbefore with hbefore | ⟨d, hd, hlate⟩
      · exact .inl hbefore
      · exact .inr ⟨d, hd, h'.tooLate hlate⟩
    · rw [h.timing] at hd
      exact .inr ⟨d, hd, hlate⟩

end Follows

/-- Nobody panics in a step of the bridge that is no panic itself. -/
theorem panicked_step (b : Bridge) {e : BridgeEvent} (calm : ∀ w, e ≠ .panic w) :
    (b.step e).panicked = b.panicked := by
  cases e with
  | work o =>
    rw [Bridge.step]
    split <;> rfl
  | panic w => exact absurd rfl (calm w)
  | change c => rfl
  | shutdown rest =>
    rw [Bridge.step, Bridge.shutdown]
    split <;> rfl

/-- An event of the bridge leaves the clock alone, and makes nobody panic. -/
theorem follows_event (s : Schedule) {e : BridgeEvent} (calm : ∀ w, e ≠ .panic w) :
    s.Follows (s.event e) where
  timing := rfl
  origin := rfl
  clock := Nat.le_refl _
  panicked w hw := by
    rw [event, panicked_step s.bridge calm] at hw
    exact .inl hw

/-- A pause panics only if it ends too late, and one that does not just puts the worker off. -/
theorem follows_pause (s : Schedule) {w : Worker} {d : Duration} (hd : d ∈ s.timing.pausesOf w) :
    s.Follows (s.pause w d) := by
  rcases s.pause_cases w d with ⟨hlate, hpause⟩ | ⟨-, due, hpause⟩
  · rw [hpause]
    refine ⟨rfl, rfl, Nat.le_refl _, fun w' hw' => ?_⟩
    rw [event, Bridge.step] at hw'
    split at hw'
    · rcases List.mem_cons.1 hw' with rfl | hbefore
      · exact .inr ⟨d, hd, hlate⟩
      · exact .inl hbefore
    · exact .inl hw'
  · rw [hpause]
    refine ⟨s.setDue_timing w due, s.setDue_origin w due, Nat.le_of_eq (s.setDue_clock w due).symm,
      fun w' hw' => ?_⟩
    rw [setDue_bridge] at hw'
    exact .inl hw'

/-- A receiver that has been woken reads on until its line is quiet or it pauses. Each turn of the
loop reads once, and either goes on, blocks, or pauses. -/
theorem follows_receiveWithin (fuel : Nat) (s : Schedule) : s.Follows (receiveWithin fuel s) := by
  have hcalm : ∀ w, BridgeEvent.work (.receive .forever) ≠ .panic w := by simp
  induction fuel generalizing s with
  | zero => exact .refl s
  | succ fuel ih =>
    have hagain : s.Follows (receiveWithin fuel (s.event (.work (.receive .forever)))) :=
      (s.follows_event hcalm).trans (ih _)
    rw [receiveWithin]
    split
    · exact ⟨rfl, rfl, Nat.le_refl _, fun _ => .inl⟩
    · exact s.follows_pause (List.mem_singleton_self _)
    · dsimp only
      split
      · exact s.follows_event hcalm
      · exact hagain
    · exact hagain

/-- **A turn keeps to the rule.** A turn is an event, a pause, or both one after the other. -/
theorem follows_turn (s : Schedule) (t : Turn) : s.Follows (s.turn t) := by
  have htick : ∀ w, BridgeEvent.work .tick ≠ .panic w := by simp
  have hsend : ∀ w, BridgeEvent.work (.send 0) ≠ .panic w := by simp
  cases t with
  | worker w =>
    cases w with
    | supervisor =>
      rw [turn, supervise]
      split
      · exact (s.follows_event htick).trans (follows_pause _ (List.mem_singleton_self _))
      · exact .refl s
    | receiver =>
      rw [turn, receive]
      split
      · have hunblock : s.Follows { s with isBlocked := false } :=
          ⟨rfl, rfl, Nat.le_refl _, fun _ => .inl⟩
        exact hunblock.trans (follows_receiveWithin _ _)
      · exact .refl s
    | sender =>
      rw [turn, send]
      split
      · refine (s.follows_event hsend).trans (follows_pause _ ?_)
        show (if s.bridge.station.link.up then s.timing.sendPeriod else s.timing.backoff) ∈
          [s.timing.sendPeriod, s.timing.backoff]
        split <;> simp
      · exact .refl s
  | wait ms => exact ⟨rfl, rfl, Nat.le_add_right _ _, fun _ => .inl⟩
  | event e calm => exact s.follows_event calm

/-- **Along a run** the timing stays, the clock goes on, and every panic has had its reason. -/
theorem follows_run (s : Schedule) (turns : List Turn) : s.Follows (s.run turns) := by
  induction turns generalizing s with
  | nil => exact .refl s
  | cons t turns ih => exact (s.follows_turn t).trans (ih (s.turn t))

/-! ## Turns that end in a pause -/

/-- Whether a worker that takes its turn now makes a pause; a receiver makes one only while the link
is down. -/
def isReady (s : Schedule) : Worker → Bool
  | .supervisor => s.isAlive .supervisor && decide (s.supervisorDue ≤ s.clock)
  | .receiver =>
    s.isAlive .receiver && decide (s.receiverDue ≤ s.clock) && !s.bridge.station.link.up
  | .sender => s.isAlive .sender && decide (s.senderDue ≤ s.clock)

/-- The pause that it then makes. -/
def nextPause (s : Schedule) : Worker → Duration
  | .supervisor => s.timing.reconnect
  | .receiver => s.timing.backoff
  | .sender => if s.bridge.station.link.up then s.timing.sendPeriod else s.timing.backoff

theorem isAlive_event (s : Schedule) (o : Operation) (w : Worker) :
    (s.event (.work o)).isAlive w = s.isAlive w := by
  unfold isAlive event Bridge.step
  dsimp only
  split <;> rfl

/-- A worker that has not panicked yet does so exactly when its pause ends too late. -/
theorem panicked_pause_iff {s : Schedule} {w : Worker} (hlive : s.isAlive w = true)
    (d : Duration) : w ∈ (s.pause w d).bridge.panicked ↔ s.TooLate d := by
  unfold isAlive at hlive
  simp only [Bool.and_eq_true, Bool.not_eq_true', List.contains_eq_mem,
    decide_eq_false_iff_not] at hlive
  rcases s.pause_cases w d with ⟨hlate, hpause⟩ | ⟨hnot, due, hpause⟩
  · rw [hpause, event, Bridge.step, if_pos hlive.1]
    simp [hlate]
  · rw [hpause, setDue_bridge]
    exact iff_of_false hlive.2 hnot

/-- While the flag is down a receiver backs off, whatever its script holds. -/
theorem receiveOutcome_of_down {s : Schedule} (hdown : s.bridge.station.link.up = false) :
    s.receiveOutcome = .backedOff := by
  rw [receiveOutcome, Receiver.step, if_neg (by simp [hdown])]

/-- **A turn that ends in a pause** makes a panic exactly when that pause ends too late. -/
theorem panicked_turn_iff {s : Schedule} {w : Worker} (h : s.isReady w = true) :
    w ∈ (s.turn (.worker w)).bridge.panicked ↔ s.TooLate (s.nextPause w) := by
  -- The worker is ready, so its turn does come to the pause that is asked about.
  cases w with
  | supervisor =>
    rw [isReady] at h
    rw [turn, supervise, if_pos h]
    refine panicked_pause_iff ?_ _
    rw [isAlive_event]
    exact (Bool.and_eq_true_iff.1 h).1
  | receiver =>
    rw [isReady] at h
    obtain ⟨hdue, hdown⟩ := Bool.and_eq_true_iff.1 h
    rw [Bool.not_eq_true'] at hdown
    -- A receiver is ready only while the flag is down: otherwise it reads, and may never pause.
    have houtcome : receiveOutcome { s with isBlocked := false } = .backedOff :=
      receiveOutcome_of_down hdown
    rw [turn, receive, if_pos hdue, receiveWithin, houtcome]
    exact panicked_pause_iff (s := { s with isBlocked := false }) (Bool.and_eq_true_iff.1 hdue).1 _
  | sender =>
    rw [isReady] at h
    rw [turn, send, if_pos h]
    refine panicked_pause_iff ?_ _
    rw [isAlive_event]
    exact (Bool.and_eq_true_iff.1 h).1

end Schedule

/-! ## Pauses read from arguments -/

/-- The arguments from which the pauses of a worker are read. -/
def RunArguments.pausesOf (a : RunArguments) : Worker → List String
  | .supervisor => [a.reconnectInterval]
  | .receiver => [a.backoff]
  | .sender => [a.sendPeriod, a.backoff]

/-- Two steps that come to a result together come to one each. -/
theorem Program.exists_of_bind_eq_ok {α β : Type} {x : Except ExitError α}
    {f : α → Except ExitError β} {b : β} (h : x >>= f = .ok b) : ∃ a, x = .ok a ∧ f a = .ok b := by
  cases x with
  | error e => cases h
  | ok a => exact ⟨a, rfl, h⟩

/-- The pauses are read from the arguments one by one. -/
theorem Program.timing_eq_ok {a : RunArguments} {t : Timing} (h : timing a = .ok t) :
    duration a.reconnectInterval = .ok t.reconnect ∧ duration a.backoff = .ok t.backoff ∧
      duration a.sendPeriod = .ok t.sendPeriod := by
  obtain ⟨reconnect, hreconnect, h⟩ := exists_of_bind_eq_ok h
  obtain ⟨backoff, hbackoff, h⟩ := exists_of_bind_eq_ok h
  obtain ⟨period, hperiod, h⟩ := exists_of_bind_eq_ok h
  obtain rfl := Except.ok.inj h
  exact ⟨hreconnect, hbackoff, hperiod⟩

/-- Each pause of a worker is read from one of the arguments for it. -/
theorem Program.exists_text {a : RunArguments} {t : Timing} (h : timing a = .ok t) {w : Worker}
    {d : Duration} (hd : d ∈ t.pausesOf w) : ∃ text ∈ a.pausesOf w, duration text = .ok d := by
  obtain ⟨hreconnect, hbackoff, hperiod⟩ := timing_eq_ok h
  cases w with
  | supervisor =>
    rw [List.mem_singleton.1 hd]
    exact ⟨_, List.mem_singleton_self _, hreconnect⟩
  | receiver =>
    rw [List.mem_singleton.1 hd]
    exact ⟨_, List.mem_singleton_self _, hbackoff⟩
  | sender =>
    rcases List.mem_pair.1 hd with rfl | rfl
    · exact ⟨_, List.mem_pair.2 (.inl rfl), hperiod⟩
    · exact ⟨_, List.mem_pair.2 (.inr rfl), hbackoff⟩

/-- Arguments that ask for the longest time between two ticks of the supervisor. -/
def RunArguments.longest : RunArguments :=
  ⟨"/dev/ttyACM0", 115200, .none, .none, .one, "100ms", "18446744073709551615s", "1s", "5ms",
    false⟩

/-- The timing that these arguments ask for. -/
def Timing.longest : Timing := ⟨⟨2 ^ 64 - 1, 0⟩, ⟨1, 0⟩, ⟨0, 5000000⟩⟩

namespace Schedule

open Duration in
/-- **Durations are slept until seconds are not counted any more.**  A duration that is read from a
text is so many of a unit, and its deadline is that much later, or not counted if that is too late;
in milliseconds this does not happen to any of them but in the last 2^64 milliseconds that are
counted.  Whatever happens to a bridge whose pauses are read from arguments, a worker panics only if
one of the arguments for it is a pause that would end too late by now; and in a turn that ends in a
pause a worker panics exactly when that pause ends too late. -/
theorem sleeps_until_clockEnd {a : RunArguments} {timing : Timing}
    (hread : Program.timing a = .ok timing) (origin : Duration) (port : ScriptedPort)
    (turns : List Turn) :
    (∀ text d, Program.duration text = .ok d →
      ∃ n scale, 1 ≤ n ∧ n ≤ 2 ^ 64 - 1 ∧ Says n scale text.toList ∧
        d.inNanos = n * scale.inNanos ∧ ∀ now,
          (now.inNanos + d.inNanos < clockEnd ∧
              ∃ t, deadline? now d = some t ∧ t.inNanos = now.inNanos + d.inNanos) ∨
            (clockEnd ≤ now.inNanos + d.inNanos ∧ deadline? now d = none)) ∧
    (∀ text n, 1 ≤ n → n ≤ 2 ^ 64 - 1 → Says n .milliseconds text.toList →
      ∀ now, now.inNanos + 2 ^ 64 * 1000000 ≤ clockEnd →
        ∃ d t, Program.duration text = .ok d ∧ deadline? now d = some t) ∧
    (∀ w ∈ ((start origin timing port).run turns).bridge.panicked,
      ∃ text ∈ a.pausesOf w, ∃ d, Program.duration text = .ok d ∧
        ((start origin timing port).run turns).TooLate d) ∧
    ∀ w, ((start origin timing port).run turns).isReady w = true →
      (w ∈ (((start origin timing port).run turns).turn (.worker w)).bridge.panicked ↔
        ((start origin timing port).run turns).TooLate
          (((start origin timing port).run turns).nextPause w)) := by
  refine ⟨fun text d htext => ?_, fun text n hpos hlimit hsays now hnow => ?_, fun w hw => ?_,
    fun w => panicked_turn_iff⟩
  -- The text says a number and a scale, and the end of their product is tried.
  · rw [Program.duration_eq_ok_iff, parse_eq_ok_iff] at htext
    obtain ⟨n, scale, hpos, hlimit, hsays, rfl⟩ := htext
    exact ⟨n, scale, hpos, hlimit, hsays, inNanos_times scale n,
      fun now => deadline?_cases now (scale.times n)⟩
  -- All durations in milliseconds end before the clock does, by the room that is left.
  · have htext : Program.duration text = .ok (Scale.milliseconds.times n) := by
      rw [Program.duration_eq_ok_iff, parse_eq_ok_iff]
      exact ⟨n, .milliseconds, hpos, hlimit, hsays, rfl⟩
    have hd := inNanos_times .milliseconds n
    have hn : n * Scale.milliseconds.inNanos < 2 ^ 64 * 1000000 :=
      Nat.mul_lt_mul_of_pos_right (by omega) (by decide)
    rcases deadline?_cases now (Scale.milliseconds.times n) with ⟨-, t, ht, -⟩ | ⟨hlate, -⟩
    · exact ⟨_, t, htext, ht⟩
    · omega
  -- Every pause of the schedule was read from one of the arguments.
  · have hfollows := (start origin timing port).follows_run turns
    rcases hfollows.panicked w hw with hnone | ⟨d, hd, hlate⟩
    · exact absurd hnone (by simp [start, Bridge.start])
    · obtain ⟨text, htext, hduration⟩ := Program.exists_text hread hd
      exact ⟨text, htext, d, hduration, hlate⟩

open Duration in
/-- Five milliseconds are slept in each of the first seconds, the longest time between two ticks is
not, and at the first one the supervisor panics. The first turn of the supervisor ends in a pause
that is too late. -/
theorem sleeps_until_clockEnd_longest :
    Program.timing .longest = .ok .longest ∧
      (∃ d t, Program.duration (toString 5 ++ "ms") = .ok d ∧ deadline? ⟨1, 0⟩ d = some t) ∧
      (∀ now, deadline? now ⟨2 ^ 64 - 1, 0⟩ = none) ∧
      Worker.supervisor ∈
        ((start ⟨1, 0⟩ .longest .fresh).turn (.worker .supervisor)).bridge.panicked ∧
      ∃ text ∈ RunArguments.longest.pausesOf .supervisor, ∃ d, Program.duration text = .ok d ∧
        ((start ⟨1, 0⟩ .longest .fresh).run [.worker .supervisor]).TooLate d := by
  have hread : Program.timing .longest = .ok .longest := by decide
  have hlong : Program.duration "18446744073709551615s" = .ok ⟨2 ^ 64 - 1, 0⟩ := by decide
  obtain ⟨hdeadline, hmillis, -, hturn⟩ := sleeps_until_clockEnd hread ⟨1, 0⟩ .fresh []
  obtain ⟨-, -, hpanicked, -⟩ := sleeps_until_clockEnd hread ⟨1, 0⟩ .fresh [.worker .supervisor]
  have hpanics : Worker.supervisor ∈
      ((start ⟨1, 0⟩ .longest .fresh).turn (.worker .supervisor)).bridge.panicked :=
    (hturn .supervisor (by decide)).2 (show clockEnd ≤ _ by decide)
  refine ⟨hread, hmillis _ 5 (by decide) (by decide) (says_toString 5 (by decide)) ⟨1, 0⟩
    (by decide), fun now => ?_, hpanics, hpanicked _ hpanics⟩
  obtain ⟨-, -, -, -, -, -, hcases⟩ := hdeadline _ _ hlong
  rcases hcases now with ⟨hearly, -⟩ | ⟨-, hnone⟩
  · exact absurd hearly (Nat.not_lt.2 (Nat.le_trans (by decide) (Nat.le_add_left _ _)))
  · exact hnone

/-- The longest time in seconds is read, and is never slept: a bridge that is told to let as much
time pass between two ticks of its supervisor loses it at once, as its shutdown reports. -/
theorem supervisor_loses_longest :
    Program.duration "18446744073709551615s" = .ok ⟨2 ^ 64 - 1, 0⟩ ∧
      Duration.deadline? ⟨0, 0⟩ ⟨2 ^ 64 - 1, 0⟩ = none ∧
      Program.timing .longest = .ok .longest ∧
      (start ⟨0, 0⟩ .longest .fresh).tick.bridge.panicked = [.supervisor] ∧
      (start ⟨0, 0⟩ .longest .fresh).tick.shutdown.1 =
        .error (.workerPanicked "link-supervisor") := by
  decide

end Schedule

end ControllerLink
