/-
# What a station receives

The script of a port is a row of sessions: bytes that come in any chunks and
with any delays, then a failure that takes the link down.  What the polls of a
receiver come to is known from the bytes, session by session, and nothing of one
session reaches into the next.  From one step follows, by induction, what any
number of steps comes to; since every step uses up something of the script, in
the end all of it has been received.

The chain of lemmas goes from the script to the run:
* `Awaits` relates a script to what polls of it come to, with the bytes of each
  session cut into pieces; `Awaits.poll` is the only place where a poll is
  looked into;
* `Station.received_receive` and `Station.received_round` carry this over to a
  step of a station, the second with the supervisor opening the port again;
* `Station.received_times` makes any number of steps of one step, for both.
How many steps it takes is bounded by the weight of the script, one for each
byte and one for each of its steps.
-/
import ControllerLink.Proofs.Delivery
import ControllerLink.Proofs.LinkSteps

set_option autoImplicit false

namespace ControllerLink

/-! ## What polls of a script come to -/

/-- The failure that a step of a script stands for, if it is one. -/
def ReadStep.error : ReadStep → PacketError
  | .data _ => .closed
  | .fail kind => .stream (.ofKind kind)

/-- A step that is not harmless stops every read. An empty chunk is the end of the stream, any other
step that is not harmless is a failure. -/
theorem Stops.of_not_harmless {ending : Ending} {step : ReadStep} (h : ¬ step.Harmless)
    (rest : List ReadStep) : Stops ending (step :: rest) (.failure step.error) rest := by
  rcases step with bytes | kind
  · rw [ReadStep.Harmless, not_not] at h
    subst h
    exact .empty rest
  · rw [ReadStep.Harmless, not_or, Bool.not_eq_true] at h
    exact .fault rest h.1 h.2

/-- A failure that stops reads takes the link down. -/
theorem ReadStep.isLinkFailure_error (step : ReadStep) : step.error.isLinkFailure = true := by
  cases step <;> rfl

/-- `Awaits c script os`: polls of a reader with configuration `c` that keeps waiting come to `os`
in turn, dropped bytes counted in, and on a quiet line to nothing more. -/
inductive Awaits (c : Packet.Config) : List ReadStep → List Polled → Prop where
  /-- Bytes that end with a piece, and then a quiet line. -/
  | last {steps : List ReadStep} {os : List Polled} (harmless : ∀ step ∈ steps, step.Harmless)
      (whole : Cuts c (⟨steps, .closed⟩ : InputStream).pending os) : Awaits c steps os
  /-- Any bytes, a failure, and what is awaited behind it. -/
  | session {steps rest : List ReadStep} {os : List Polled} {fatal : ReadStep}
      (harmless : ∀ step ∈ steps, step.Harmless) (isFatal : ¬ fatal.Harmless)
      (later : Awaits c rest os) :
      Awaits c (steps ++ fatal :: rest)
        (c.outcomes (⟨steps, .closed⟩ : InputStream).pending ++ .failed fatal.error :: os)

namespace Awaits

variable {c : Packet.Config} {script : List ReadStep} {os : List Polled}

/-- When nothing is left of the script, nothing is awaited. -/
theorem eq_nil (h : Awaits c script os) (hscript : script = []) : os = [] := by
  cases h with
  | last harmless whole =>
    subst hscript
    have hnone := Packet.Config.outcomes_of_cuts whole
    rwa [InputStream.pending_nil, Packet.Config.outcomes_nil, eq_comm] at hnone
  | session harmless isFatal later => exact absurd hscript (by simp)

/-- **One poll**: it waits, and all is awaited as before, or it comes to the first of what was
awaited and counts it. -/
theorem poll (h : Awaits c script os) {r : Reader} (hconfig : r.config = c) :
    ((r.poll ⟨script, .quiet⟩ none).outcome = .idle ∧
        (r.poll ⟨script, .quiet⟩ none).reader.stats = r.stats ∧
        Awaits c (r.poll ⟨script, .quiet⟩ none).input.steps os) ∨
      ∃ later, os = (r.poll ⟨script, .quiet⟩ none).outcome :: later ∧
        (r.poll ⟨script, .quiet⟩ none).reader.stats =
          r.stats.count (r.poll ⟨script, .quiet⟩ none).outcome ∧
        Awaits c (r.poll ⟨script, .quiet⟩ none).input.steps later := by
  subst hconfig
  -- The script is the last session, or one with a failure behind its bytes.
  cases h with
  | @last steps os harmless whole =>
    have hadvances := r.poll_advances (@Stops.used .quiet) script harmless
    rw [List.append_nil] at hadvances
    generalize r.poll ⟨script, .quiet⟩ none = p at *
    rcases hadvances with ⟨later, hlater, hscript, hidle, hstats, hbytes⟩ |
      ⟨later, hlater, hscript, piece, hpiece, hstats, hbytes⟩ | ⟨-, -, -, hcut, hbegun⟩
    · left
      rw [hscript, List.append_nil]
      exact ⟨hidle, hstats, .last hlater (by rwa [hbytes])⟩
    · right
      rw [hbytes] at whole
      obtain ⟨later', rfl, hrest⟩ := Cuts.of_append (.single hpiece) whole
      rw [hscript, List.append_nil]
      exact ⟨later', rfl, hstats, .last hlater hrest⟩
    · -- The bytes end with a piece, so that no poll can stall within one.
      exfalso
      have hnonempty := hbegun rfl
      generalize (⟨script, .closed⟩ : InputStream).pending = bytes at whole hcut hnonempty
      cases whole with
      | nil => exact hnonempty rfl
      | cons hpiece hrest =>
        rw [Packet.Config.cut_of_piece hpiece] at hcut
        exact absurd hcut (by simp)
  | @session steps rest os fatal harmless isFatal later =>
    have hstop : Stops .quiet (fatal :: rest) (.failure fatal.error) rest :=
      .of_not_harmless isFatal rest
    have hadvances := r.poll_advances hstop steps harmless
    generalize r.poll ⟨steps ++ fatal :: rest, .quiet⟩ none = p at *
    rcases hadvances with ⟨steps', hsteps', hscript, hidle, hstats, hbytes⟩ |
      ⟨steps', hsteps', hscript, piece, hpiece, hstats, hbytes⟩ |
      ⟨hscript, houtcome, hstats, hcut, -⟩
    · left
      refine ⟨hidle, hstats, ?_⟩
      rw [hscript, ← hbytes]
      exact .session hsteps' isFatal later
    · right
      rw [hbytes, Packet.Config.outcomes_append_of_piece hpiece, hscript]
      exact ⟨_, rfl, hstats, .session hsteps' isFatal later⟩
    · right
      -- What was read of a piece is given up, and the failure counts as nothing.
      rw [Packet.Config.outcomes_of_cut_eq_none hcut, houtcome, hscript, hstop.count_polled]
      exact ⟨os, rfl, hstats, later⟩

end Awaits

/-- What comes of a piece never loses the link. -/
theorem Piece.losesLink_eq_false {c : Packet.Config} {piece : Bytes} {o : Polled}
    (h : Piece c piece o) : o.losesLink = false := by
  rcases h.outcome_cases with rfl | ⟨f, rfl⟩ | ⟨e, rfl, he⟩
  · rfl
  · rfl
  · cases e with
    | headerChecksum | packetChecksum | payloadTooLarge => rfl
    | _ => exact absurd he id

/-! ## Single steps of a station -/

/-- The link is up, its port is open, and the receiver reads packets from the controller. -/
structure Station.Listens (s : Station) : Prop where
  up : s.link.up = true
  isOpen : s.link.port.isOpen = true
  config : s.receiver.reader.config = .inbound

/-- The supervisor has been started, and opening the port succeeds. -/
structure Station.Reopens (s : Station) : Prop where
  supervised : s.supervisor.isSome
  succeeds : s.link.port.openFailures = 0
  opens : s.link.port.opensClosed = false

/-- `s.Received s' outcomes polls`: on the way from `s` to `s'` steps of receiving came to
`outcomes`, and what was told and counted is what follows from `polls`. -/
structure Station.Received (s s' : Station) (outcomes : List ReceiveOutcome)
    (polls : List Polled) : Prop where
  outcomes : outcomes.filter (· ≠ .idle) = (polls.filter (· ≠ .idle)).map Polled.received
  told : s'.receiver.told = s.receiver.told ++ polls.filterMap Polled.record?
  stats : s'.receiver.reader.stats = polls.foldl .count s.receiver.reader.stats

namespace Station

theorem Received.trans {s s' s'' : Station} {outcomes outcomes' : List ReceiveOutcome}
    {polls polls' : List Polled} (h : s.Received s' outcomes polls)
    (h' : s'.Received s'' outcomes' polls') :
    s.Received s'' (outcomes ++ outcomes') (polls ++ polls') where
  outcomes := by
    rw [List.filter_append, List.filter_append, List.map_append, h.outcomes, h'.outcomes]
  told := by rw [h'.told, h.told, List.filterMap_append, List.append_assoc]
  stats := by rw [h'.stats, h.stats, List.foldl_append]

variable {s : Station} {os : List Polled}

/-- The poll of one step of receiving by a station that listens. -/
def poll (s : Station) : Poll := s.receiver.reader.poll ⟨s.link.port.script, .quiet⟩ none

/-- An upper bound on the steps of receiving that use up the script of the port. -/
def weight (s : Station) : Nat := InputStream.weight ⟨s.link.port.script, .quiet⟩

/-- **What a step of receiving does** to a station that listens. -/
theorem receive_spec (hs : s.Listens) :
    s.receive.1 = s.poll.outcome.received ∧ s.receive.2.receiver.reader = s.poll.reader ∧
      s.receive.2.receiver.told = s.receiver.told ++ s.poll.outcome.record?.toList ∧
      s.receive.2.link.port = s.link.port.afterReads s.poll.transcript.reads s.poll.input ∧
      s.receive.2.link.up = !s.poll.outcome.losesLink := by
  have hpoll : s.receiver.pollOf s.link .forever = s.poll := by
    rw [Receiver.pollOf, ScriptedPort.input, if_pos hs.isOpen]
    rfl
  have hstep := s.receiver.step_of_up .forever hs.up
  rw [hpoll] at hstep
  exact hstep

theorem script_receive (hs : s.Listens) :
    s.receive.2.link.port.script = s.poll.input.steps := by
  obtain ⟨-, -, -, hport, -⟩ := receive_spec hs
  rw [hport, ScriptedPort.afterReads, if_pos hs.isOpen]

/-- A step of receiving uses up something of the script. -/
theorem weight_receive_lt (hs : s.Listens) (hmore : s.link.port.script ≠ []) :
    s.receive.2.weight < s.weight := by
  have hlt := s.receiver.reader.weight_poll_lt ⟨s.link.port.script, .quiet⟩ none hmore
  rw [weight, script_receive hs]
  exact hlt

theorem config_receive (hs : s.Listens) :
    s.receive.2.receiver.reader.config = .inbound := by
  obtain ⟨-, hreader, -, -, -⟩ := receive_spec hs
  rw [hreader]
  exact (s.receiver.reader.config_poll _ none).trans hs.config

/-- A station goes on listening unless the link is lost. -/
theorem listens_receive (hs : s.Listens) (hkept : s.poll.outcome.losesLink = false) :
    s.receive.2.Listens := by
  obtain ⟨-, -, -, hport, hup⟩ := receive_spec hs
  refine ⟨?_, ?_, config_receive hs⟩
  · rw [hup, hkept]
    rfl
  · rw [hport]
    exact hs.isOpen

/-- A step of receiving leaves the port as willing to open as it was. -/
theorem reopens_receive (hs : s.Listens) (hr : s.Reopens) : s.receive.2.Reopens := by
  obtain ⟨-, -, -, hport, -⟩ := receive_spec hs
  refine ⟨hr.supervised, ?_, ?_⟩
  · rw [hport]
    exact hr.succeeds
  · rw [hport]
    exact hr.opens

/-- A step of receiving comes to the first of what was awaited, or all is awaited as before. -/
theorem received_receive (hs : s.Listens) (h : Awaits .inbound s.link.port.script os) :
    ∃ polls later, os = polls ++ later ∧ s.Received s.receive.2 [s.receive.1] polls ∧
      Awaits .inbound s.receive.2.link.port.script later ∧
      (s.poll.outcome.losesLink = true → s.poll.outcome ∈ os) := by
  obtain ⟨houtcome, hreader, htold, -, -⟩ := receive_spec hs
  have hpoll : (s.poll.outcome = .idle ∧ s.poll.reader.stats = s.receiver.reader.stats ∧
        Awaits .inbound s.poll.input.steps os) ∨
      ∃ later, os = s.poll.outcome :: later ∧
        s.poll.reader.stats = s.receiver.reader.stats.count s.poll.outcome ∧
        Awaits .inbound s.poll.input.steps later := h.poll hs.config
  rw [script_receive hs]
  rcases hpoll with ⟨hidle, hstats, hawaits⟩ | ⟨later, rfl, hstats, hawaits⟩
  · refine ⟨[], os, rfl, ⟨?_, ?_, ?_⟩, hawaits, ?_⟩
    · rw [houtcome, hidle]
      rfl
    · rw [htold, hidle]
      rfl
    · rw [hreader, hstats]
      rfl
    · intro hlost
      rw [hidle] at hlost
      exact absurd hlost (by simp [Polled.losesLink])
  -- The poll has come to something: it is told, counted, and taken off what was awaited.
  · refine ⟨[s.poll.outcome], later, rfl, ⟨?_, ?_, ?_⟩, hawaits, fun _ => List.mem_cons_self⟩
    · rw [houtcome]
      exact Polled.filter_received [s.poll.outcome]
    · rw [htold]
      cases hrecord : s.poll.outcome.record? <;> simp [hrecord]
    · rw [hreader, hstats]
      rfl

/-- A tick of the supervisor behind a lost link opens the port again and changes nothing else that
receiving depends on. -/
theorem tick_of_reopens (hdown : s.link.up = false) (hr : s.Reopens) :
    (s.apply .tick).2.link.up = true ∧ (s.apply .tick).2.link.port.isOpen = true ∧
      (s.apply .tick).2.link.port.script = s.link.port.script ∧
      (s.apply .tick).2.receiver = s.receiver ∧ (s.apply .tick).2.Reopens := by
  obtain ⟨supervisor, hsupervisor⟩ := Option.isSome_iff_exists.1 hr.supervised
  obtain ⟨opener, hlink⟩ := link_tick_of_down hr.supervised hdown
  have hsucceeds : s.link.port.close.openFailures = 0 := hr.succeeds
  -- The port is closed and opened again, and keeps its script.
  have hport : (s.apply .tick).2.link.port = { s.link.port.close with
      openCalls := s.link.port.openCalls + 1, isOpen := true } := by
    rw [hlink, Supervisor.port_tryOpen, ScriptedPort.tryOpen_of_succeeds hsucceeds]
    show ({ s.link.port.close with openCalls := _, isOpen := !s.link.port.opensClosed } :
      ScriptedPort) = _
    rw [hr.opens]
    rfl
  have hup : (s.apply .tick).2.link.up = (s.apply .tick).2.link.port.isOpen := by
    rw [hlink, Supervisor.up_tryOpen, Supervisor.port_tryOpen]
  have hreceiver : (s.apply .tick).2.receiver = s.receiver := by
    rw [apply, hsupervisor]
  refine ⟨?_, ?_, ?_, hreceiver, ?_, ?_, ?_⟩
  · rw [hup, hport]
  · rw [hport]
  · rw [hport]
    rfl
  · rw [apply, hsupervisor]
    rfl
  · rw [hport]
    exact hr.succeeds
  · rw [hport]
    exact hr.opens

/-! ## Runs -/

/-- **From one step to any number of them.** Let `holds s os` say that `os` is what is awaited of
the station `s`, and let every step of `act` come to a part of it. Then so do any number of steps,
and as many as the script has bytes and steps come to all of it. A step takes what it comes to off
the front of what is awaited; the rest is for the others. -/
theorem received_times (act : Station → ReceiveOutcome × Station)
    (holds : Station → List Polled → Prop)
    (done : ∀ s os, holds s os → s.link.port.script = [] → os = [])
    (step : ∀ s os, holds s os → ∃ polls later, os = polls ++ later ∧
      s.Received (act s).2 [(act s).1] polls ∧ holds (act s).2 later ∧
      (s.link.port.script ≠ [] → (act s).2.weight < s.weight))
    (n : Nat) (s : Station) (os : List Polled) (h : holds s os) :
    ∃ polls later, os = polls ++ later ∧ s.Received (times act n s).2 (times act n s).1 polls ∧
      holds (times act n s).2 later ∧ (s.weight ≤ n → later = []) := by
  induction n generalizing s os with
  | zero =>
    refine ⟨[], os, rfl, ⟨rfl, (List.append_nil _).symm, rfl⟩, h, ?_⟩
    intro hweight
    apply done s os h
    have hsteps : s.link.port.script.length = 0 := by
      rw [weight, InputStream.weight] at hweight
      dsimp only at hweight
      omega
    exact List.eq_nil_of_length_eq_zero hsteps
  | succ n ih =>
    obtain ⟨polls, later, rfl, hreceived, hholds, hless⟩ := step s os h
    obtain ⟨polls', later', rfl, hreceived', hholds', hall⟩ := ih (act s).2 later hholds
    refine ⟨polls ++ polls', later', ?_, hreceived.trans hreceived', hholds', ?_⟩
    · rw [List.append_assoc]
    · intro hweight
      -- A step with the script used up makes the weight no smaller, but nothing is awaited then.
      by_cases hscript : s.link.port.script = []
      · have hnone := done s _ h hscript
        exact (List.append_eq_nil_iff.1 (List.append_eq_nil_iff.1 hnone).2).2
      · have hlt := hless hscript
        exact hall (by omega)

/-- One step of receiving, when no failure is awaited. What a step comes to is awaited, and nothing
that is awaited loses the link. -/
theorem received_receive_of_kept (hs : s.Listens) (h : Awaits .inbound s.link.port.script os)
    (kept : ∀ o ∈ os, o.losesLink = false) :
    ∃ polls later, os = polls ++ later ∧ s.Received s.receive.2 [s.receive.1] polls ∧
      (s.receive.2.Listens ∧ Awaits .inbound s.receive.2.link.port.script later ∧
        ∀ o ∈ later, o.losesLink = false) ∧
      (s.link.port.script ≠ [] → s.receive.2.weight < s.weight) := by
  obtain ⟨polls, later, hos, hreceived, hawaits, hlost⟩ := received_receive hs h
  have hup : s.poll.outcome.losesLink = false := by
    by_contra hloses
    rw [Bool.not_eq_false] at hloses
    have hkept := kept _ (hlost hloses)
    rw [hloses] at hkept
    exact absurd hkept (by simp)
  refine ⟨polls, later, hos, hreceived, ⟨listens_receive hs hup, hawaits, ?_⟩,
    weight_receive_lt hs⟩
  intro o ho
  exact kept o (hos ▸ List.mem_append_right polls ho)

/-- Any number of steps of receiving, when no failure is awaited. -/
theorem received_times_receive (hs : s.Listens) (h : Awaits .inbound s.link.port.script os)
    (kept : ∀ o ∈ os, o.losesLink = false) (n : Nat) :
    ∃ polls later, os = polls ++ later ∧
      s.Received (times receive n s).2 (times receive n s).1 polls ∧
      (times receive n s).2.Listens ∧ (s.weight ≤ n → later = []) := by
  obtain ⟨polls, later, hos, hreceived, hholds, hall⟩ := received_times receive
    (fun s os => s.Listens ∧ Awaits .inbound s.link.port.script os ∧
      ∀ o ∈ os, o.losesLink = false)
    (fun s os hholds => hholds.2.1.eq_nil)
    (fun s os hholds => received_receive_of_kept hholds.1 hholds.2.1 hholds.2.2)
    n s os ⟨hs, h, kept⟩
  exact ⟨polls, later, hos, hreceived, hholds.1, hall⟩

theorem round_def (s : Station) : s.round = (s.receive.1,
    if s.receive.1 = .linkLost then (s.receive.2.apply .tick).2 else s.receive.2) := rfl

/-- One round: receiving, and opening the port again if the link was lost. -/
theorem received_round (hs : s.Listens) (hr : s.Reopens)
    (h : Awaits .inbound s.link.port.script os) :
    ∃ polls later, os = polls ++ later ∧ s.Received s.round.2 [s.round.1] polls ∧
      (s.round.2.Listens ∧ s.round.2.Reopens ∧
        Awaits .inbound s.round.2.link.port.script later) ∧
      (s.link.port.script ≠ [] → s.round.2.weight < s.weight) := by
  obtain ⟨polls, later, hos, hreceived, hawaits, -⟩ := received_receive hs h
  obtain ⟨houtcome, -, -, -, hup⟩ := receive_spec hs
  have hr' := reopens_receive hs hr
  refine ⟨polls, later, hos, ?_⟩
  -- Either the link is kept and the round is the step, or a tick follows.
  rcases hlost : s.poll.outcome.losesLink with _ | _
  · have hround : s.round = s.receive := by
      have hkept : s.receive.1 ≠ .linkLost := by
        rw [houtcome, Ne, Polled.received_eq_linkLost_iff, hlost]
        simp
      rw [round_def, if_neg hkept]
    rw [hround]
    exact ⟨hreceived, ⟨listens_receive hs hlost, hr', hawaits⟩, weight_receive_lt hs⟩
  · have hround : s.round = (s.receive.1, (s.receive.2.apply .tick).2) := by
      have hlinkLost : s.receive.1 = .linkLost := by
        rw [houtcome, Polled.received_eq_linkLost_iff, hlost]
      rw [round_def, if_pos hlinkLost]
    have hdown : s.receive.2.link.up = false := by
      rw [hup, hlost]
      rfl
    obtain ⟨hup', hopen', hscript', hreceiver', hr''⟩ := tick_of_reopens hdown hr'
    rw [hround]
    refine ⟨⟨hreceived.outcomes, ?_, ?_⟩, ⟨⟨hup', hopen', ?_⟩, hr'', ?_⟩, ?_⟩
    · rw [hreceiver', hreceived.told]
    · rw [hreceiver', hreceived.stats]
    · rw [hreceiver']
      exact config_receive hs
    · rw [hscript']
      exact hawaits
    · intro hmore
      rw [weight, hscript']
      exact weight_receive_lt hs hmore

/-- Any number of rounds. -/
theorem received_times_round (hs : s.Listens) (hr : s.Reopens)
    (h : Awaits .inbound s.link.port.script os) (n : Nat) :
    ∃ polls later, os = polls ++ later ∧
      s.Received (times round n s).2 (times round n s).1 polls ∧
      (times round n s).2.Listens ∧ (s.weight ≤ n → later = []) := by
  obtain ⟨polls, later, hos, hreceived, hholds, hall⟩ := received_times round
    (fun s os => s.Listens ∧ s.Reopens ∧ Awaits .inbound s.link.port.script os)
    (fun s os hholds => hholds.2.2.eq_nil)
    (fun s os hholds => received_round hholds.1 hholds.2.1 hholds.2.2)
    n s os ⟨hs, hr, h⟩
  exact ⟨polls, later, hos, hreceived, hholds.1, hall⟩

end Station

end ControllerLink
