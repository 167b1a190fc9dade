/-
# Losing the link

A link can be lost at any byte, any number of times.  What it costs is the
packet that was cut: all records before it have been dispatched, and when the
port is open again the next session is read as by a reader that has read
nothing.  Nothing is counted but the packets that came whole.

A `Session` carries the proofs that its last packet is really cut and that its
failure is fatal, so that a list of sessions is all that the theorem needs to
know of a script. The cut packet has no piece in it (`Parcel.cut_take_eq_none`),
for a piece found in a part of a packet would be found in the whole packet,
which is one piece by itself. Everything else is what was said of receiving: a
session comes to its whole packets and then to its failure (`Session.awaits`),
and what comes of each poll is told, counted or neither (`Polled.IsEvent`).
-/
import ControllerLink.Proofs.TelemetryDelivery
import Mathlib.Data.List.ReduceOption

set_option autoImplicit false

namespace ControllerLink

/-! ## Cut packets -/

/-- The beginning of a packet decides nothing. -/
theorem Parcel.cut_take_eq_none {c : Packet.Config} (p : Parcel c) {kept : Nat}
    (hkept : kept < p.bytes.length) : c.cut (p.bytes.take kept) = none := by
  rcases hcut : c.cut (p.bytes.take kept) with _ | ⟨o, n⟩
  · rfl
  · -- What is found in a part of the packet would be found in the whole of it.
    obtain ⟨hn, hpiece⟩ := Packet.Config.piece_of_cut hcut
    have hjoined : (p.bytes.take kept).take n ++ ((p.bytes.take kept).drop n ++
        p.bytes.drop kept) = p.bytes ++ [] := by
      rw [← List.append_assoc, List.take_append_drop, List.take_append_drop, List.append_nil]
    obtain ⟨heq, -⟩ := hpiece.unique p.piece hjoined
    have hlen := congrArg List.length heq
    rw [List.length_take, List.length_take] at hlen
    omega

/-! ## Sessions -/

/-- What comes between opening the port and losing the link: the packets of records, a packet that
is cut, delivered in any chunks and with any delays, and the failure. -/
structure Session where
  records : List Telemetry
  /-- The record whose packet is cut. -/
  cut : Telemetry
  /-- How many bytes of that packet still come. -/
  kept : Nat
  proper : kept < cut.parcel.bytes.length
  delivery : Delivery ((records.flatMap fun t => t.parcel.bytes) ++ cut.parcel.bytes.take kept)
  failure : ReadStep
  isFatal : ¬ failure.Harmless

namespace Session

/-- The session in the script of a port. -/
def script (session : Session) : List ReadStep := session.delivery.steps ++ [session.failure]

/-- What polls come to in a session. -/
def polls (session : Session) : List Polled :=
  (session.records.map fun t => .frame t.parcel.frame) ++ [.failed session.failure.error]

/-- What is to be seen of a session: its records, and that the link is lost. -/
def events (session : Session) : List (Option Telemetry) :=
  session.records.map some ++ [none]

/-- Polls come to the whole packets, and then to the failure. Each failure separates the bytes in
front of it from all that is awaited behind. -/
theorem awaits (sessions : List Session) :
    Awaits .inbound (sessions.flatMap script) (sessions.flatMap polls) := by
  induction sessions with
  | nil => exact .last (by simp) .nil
  | cons session sessions ih =>
    have hrecords : Cuts .inbound (session.records.flatMap fun t => t.parcel.bytes)
        (session.records.map fun t => .frame t.parcel.frame) := by
      have hpackets := Parcel.cuts_flatMap (session.records.map Telemetry.parcel)
      rwa [List.flatMap_map, List.map_map] at hpackets
    have houtcomes : Packet.Config.inbound.outcomes
        (⟨session.delivery.steps, .closed⟩ : InputStream).pending =
          session.records.map fun t => .frame t.parcel.frame := by
      rw [session.delivery.pending, Packet.Config.outcomes_append_of_cuts hrecords,
        Packet.Config.outcomes_of_cut_eq_none (session.cut.parcel.cut_take_eq_none session.proper),
        List.append_nil]
    have hsession := Awaits.session session.delivery.harmless session.isFatal ih
    rw [houtcomes] at hsession
    rw [List.flatMap_cons, List.flatMap_cons, script, polls, List.append_assoc, List.append_assoc]
    exact hsession

end Session

/-! ## What polls of sessions tell -/

/-- A poll that gives the packet of a record, or finds that the stream has failed. -/
def Polled.IsEvent (o : Polled) : Prop :=
  (∃ t : Telemetry, o = .frame t.parcel.frame) ∨ ∃ e : PacketError, o = .failed e ∧
    e.isLinkFailure = true

/-- What a step of receiving comes to at a record, or when the link is lost. -/
def outcomeOf : Option Telemetry → ReceiveOutcome
  | some t => .dispatched t.kind
  | none => .linkLost

namespace Polled.IsEvent

variable {o : Polled}

theorem ne_idle (h : o.IsEvent) : o ≠ .idle := by
  rcases h with ⟨t, rfl⟩ | ⟨e, rfl, -⟩ <;> simp

/-- What an event is received as follows from the record it holds, if any. -/
theorem received_eq (h : o.IsEvent) : o.received = outcomeOf o.record? := by
  rcases h with ⟨t, rfl⟩ | ⟨e, rfl, he⟩
  · rw [t.received_frame, t.record?_frame, outcomeOf]
  · rw [received, if_pos he]
    rfl

/-- Only whole packets are counted. A frame is counted as one, and a link failure as nothing. -/
theorem count_eq (h : o.IsEvent) (stats : ReaderStats) : stats.count o =
    { stats with frames := stats.frames + o.record?.toList.length } := by
  rcases h with ⟨t, rfl⟩ | ⟨e, rfl, he⟩
  · rw [t.record?_frame]
    rfl
  · cases e with
    | stream | closed => rfl
    | _ => exact absurd he (by simp [PacketError.isLinkFailure])

end Polled.IsEvent

/-- Events are frames, so just these are counted, each with a record. -/
theorem ReaderStats.foldl_count_events {polls : List Polled} (h : ∀ o ∈ polls, o.IsEvent)
    (stats : ReaderStats) : polls.foldl .count stats =
      { stats with frames := stats.frames + (polls.filterMap Polled.record?).length } := by
  induction polls generalizing stats with
  | nil => rfl
  | cons o polls ih =>
    obtain ⟨ho, hpolls⟩ := List.forall_mem_cons.1 h
    have hlen : ((o :: polls).filterMap Polled.record?).length =
        o.record?.toList.length + (polls.filterMap Polled.record?).length := by
      cases hrecord : o.record? with
      | none => rw [List.filterMap_cons_none hrecord, Option.toList_none, List.length_nil,
          Nat.zero_add]
      | some t => rw [List.filterMap_cons_some hrecord, List.length_cons, Nat.add_comm]; rfl
    rw [List.foldl_cons, ho.count_eq, ih hpolls, hlen, ← Nat.add_assoc]

/-- All polls of a session come to events. -/
theorem Session.isEvent_of_mem_polls {session : Session} {o : Polled} (ho : o ∈ session.polls) :
    o.IsEvent := by
  rw [polls, List.mem_append, List.mem_map, List.mem_singleton] at ho
  rcases ho with ⟨t, -, rfl⟩ | rfl
  · exact .inl ⟨t, rfl⟩
  · exact .inr ⟨_, rfl, session.failure.isLinkFailure_error⟩

/-- The records of a session, in the order in which its packets come. -/
theorem Session.map_record?_polls (session : Session) :
    session.polls.map Polled.record? = session.events := by
  have hrecord : (Polled.record? ∘ fun t : Telemetry => Polled.frame t.parcel.frame) = some :=
    funext Telemetry.record?_frame
  rw [polls, events, List.map_append, List.map_map, hrecord]
  rfl

/-- **A reconnect loses only the packet it cuts.**  Let the script of a port be a row of sessions,
and let a station whose link is up go round: receive, and open the port again whenever the link was
lost.  After any number `n` of rounds, those that were not idle have dispatched the records of the
sessions and lost the link at the end of each, in this order up to some point.  The sink has been
told of just the records up to there, only these have been counted, and the link is up; and after as
many rounds as the script has bytes and steps, that point is the end of all sessions. -/
theorem reconnection_loses_cut_packet (sessions : List Session) (s : Station)
    (listens : s.Listens) (reopens : s.Reopens)
    (script : s.link.port.script = sessions.flatMap Session.script) (n : Nat) :
    ∃ seen, seen <+: sessions.flatMap Session.events ∧
      (s.times Station.round n).1.filter (· ≠ .idle) = seen.map outcomeOf ∧
      (s.times Station.round n).2.receiver.told = s.receiver.told ++ seen.reduceOption ∧
      (s.times Station.round n).2.receiver.reader.stats =
        { s.receiver.reader.stats with
          frames := s.receiver.reader.stats.frames + seen.reduceOption.length } ∧
      (s.times Station.round n).2.link.up = true ∧
      (s.weight ≤ n → seen = sessions.flatMap Session.events) := by
  have hawaits : Awaits .inbound s.link.port.script (sessions.flatMap Session.polls) := by
    rw [script]
    exact Session.awaits sessions
  have hall : (sessions.flatMap Session.polls).map Polled.record? =
      sessions.flatMap Session.events := by
    rw [List.map_flatMap]
    exact congrArg sessions.flatMap (funext Session.map_record?_polls)
  obtain ⟨polls, later, hpolls, hreceived, hlistens, hend⟩ :=
    Station.received_times_round listens reopens hawaits n
  -- What polls come to is the beginning of what is awaited of all sessions.
  have hevents : ∀ o ∈ polls, o.IsEvent := by
    intro o ho
    have hmem : o ∈ sessions.flatMap Session.polls := hpolls ▸ List.mem_append_left later ho
    obtain ⟨session, -, hsession⟩ := List.mem_flatMap.1 hmem
    exact Session.isEvent_of_mem_polls hsession
  have hrecords : (polls.map Polled.record?).reduceOption = polls.filterMap Polled.record? := by
    rw [List.reduceOption, List.filterMap_map]
    rfl
  refine ⟨polls.map Polled.record?, ⟨later.map Polled.record?, ?_⟩, ?_, ?_, ?_, hlistens.up, ?_⟩
  · rw [← hall, hpolls, List.map_append]
  -- Packets stand directly behind each other, so that no byte is dropped.
  · have hnone : polls.filter (· ≠ .idle) = polls := by
      rw [List.filter_eq_self]
      intro o ho
      simpa using (hevents o ho).ne_idle
    rw [hreceived.outcomes, hnone, List.map_map]
    exact List.map_congr_left fun o ho => (hevents o ho).received_eq
  · rw [hreceived.told, hrecords]
  · rw [hreceived.stats, ReaderStats.foldl_count_events hevents, hrecords]
  · intro hweight
    rw [← hall, hpolls, hend hweight, List.append_nil]

/-- One report of a shot, half of a second one, and then nothing more. -/
def cutShot : Session where
  records := [.shoot ⟨54, 1⟩]
  cut := .shoot ⟨55, 1⟩
  kept := 6
  proper := by decide +kernel
  delivery := .whole _
  failure := .fail .brokenPipe
  isFatal := by simp [ReadStep.Harmless, FaultKind.isQuiet]

/-- A station that has just opened its port, with two such sessions to come. -/
def cutStation : Station :=
  (Station.ofPort .fresh).run
    (.supervise :: ([cutShot, cutShot].flatMap Session.script).map .push)

/-- Two sessions, each with one shot and a second one that is cut off: each session dispatches one
shot and then loses the link. -/
theorem reconnection_loses_cut_shot :
    (cutStation.Listens ∧ cutStation.Reopens ∧
        cutStation.link.port.script = [cutShot, cutShot].flatMap Session.script) ∧
      (cutStation.times Station.round 40).1.filter (· ≠ .idle) =
        [.dispatched .shoot, .linkLost, .dispatched .shoot, .linkLost] ∧
      (cutStation.times Station.round 40).2.receiver.told = [.shoot ⟨54, 1⟩, .shoot ⟨54, 1⟩] ∧
      (cutStation.times Station.round 40).2.receiver.reader.stats = ⟨2, 0, 0, 0, 0, 0⟩ := by
  have hlistens : cutStation.Listens := ⟨by decide +kernel, by decide +kernel, by decide +kernel⟩
  have hreopens : cutStation.Reopens := ⟨by decide +kernel, by decide +kernel, by decide +kernel⟩
  have hscript : cutStation.link.port.script = [cutShot, cutShot].flatMap Session.script := by
    decide +kernel
  have hweight : cutStation.weight ≤ 40 := by decide +kernel
  obtain ⟨seen, -, houtcomes, htold, hstats, -, hall⟩ :=
    reconnection_loses_cut_packet [cutShot, cutShot] cutStation hlistens hreopens hscript 40
  obtain rfl := hall hweight
  exact ⟨⟨hlistens, hreopens, hscript⟩, houtcomes, htold, hstats⟩

end ControllerLink
