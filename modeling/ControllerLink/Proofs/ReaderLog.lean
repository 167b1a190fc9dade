/-
# What a reader logs

A poll logs the byte that it drops, the bytes that were dropped when it meets a
start marker, and each time that it goes on waiting for the rest of a packet.

`Transcript.Logs` says of all events of a transcript that they are of some kind,
and passes through everything that transcripts are put together with. Each part
of a poll has its own kind of events: a hunt has none, gathering only waits, and
the poll adds the events of dropped bytes. A link logs more than that, but not
through its reader.
-/
import ControllerLink.Stream.Reader

set_option autoImplicit false

namespace ControllerLink

namespace LogEvent

/-- Whether an event tells that the rest of a packet has not arrived. -/
def isWaiting : LogEvent → Bool
  | waiting .. => true
  | _ => false

/-- Whether an event is one of a reader. -/
def isOfReader : LogEvent → Bool
  | byteDiscarded _ | locked _ | waiting .. => true
  | _ => false

end LogEvent

/-- Every event of a transcript is such a one. -/
def Transcript.Logs (t : Transcript) (p : LogEvent → Bool) : Prop :=
  ∀ e ∈ t.events, p e = true

namespace Transcript

variable {p : LogEvent → Bool}

@[simp] theorem logs_nil : Logs [] p := by
  simp [Logs, events]

@[simp] theorem logs_read (room : Nat) (o : ReadOutcome) (t : Transcript) :
    Logs (.read room o :: t) p ↔ Logs t p := by
  simp [Logs, events]

@[simp] theorem logs_asked (answer : Bool) (t : Transcript) :
    Logs (.asked answer :: t) p ↔ Logs t p := by
  simp [Logs, events]

@[simp] theorem logs_logged (event : LogEvent) (t : Transcript) :
    Logs (.logged event :: t) p ↔ p event = true ∧ Logs t p := by
  simp [Logs, events]

@[simp] theorem logs_append (s t : Transcript) : Logs (s ++ t) p ↔ Logs s p ∧ Logs t p := by
  simp [Logs, events, or_imp, forall_and]

theorem Logs.mono {t : Transcript} {q : LogEvent → Bool} (h : t.Logs p)
    (hpq : ∀ e, p e = true → q e = true) : t.Logs q :=
  fun e he => hpq e (h e he)

end Transcript

/-- A hunt logs nothing. What an interrupted read gives is not logged. -/
theorem hunt_logs (ending : Ending) (steps : List ReadStep) (p : LogEvent → Bool) :
    (hunt ending steps).transcript.Logs p := by
  fun_induction hunt ending steps with
  | case5 rest h read ih =>
    exact (Transcript.logs_read _ _ _).2 ih
  | case6 | case7 => exact (Transcript.logs_read _ _ _).2 Transcript.logs_nil
  | _ => simp

/-- Waiting logs that it waits. -/
theorem waitQuiet_logs (target : Nat) (buffer : Bytes) (filled n : Nat) :
    (waitQuiet target buffer filled n).transcript.Logs LogEvent.isWaiting := by
  induction n with
  | zero => simp [waitQuiet]
  | succ n ih => simpa [waitQuiet, Gathering.after, LogEvent.isWaiting] using ih

/-- Gathering logs only that bytes have not arrived yet. Only a quiet read logs anything. -/
theorem gather_logs (ending : Ending) (target : Nat) (steps : List ReadStep) (buffer : Bytes)
    (filled : Nat) (patience : Patience) :
    (gather ending target steps buffer filled patience).transcript.Logs LogEvent.isWaiting := by
  fun_induction gather ending target steps buffer filled patience with
  | case5 buffer filled hlack hend n => exact waitQuiet_logs target buffer filled n
  | case7 buffer filled patience hlack room chunk rest hchunk hfits ih =>
    simpa [Gathering.after] using ih
  | case9 buffer filled patience hlack room rest read ih => simpa [Gathering.after, read] using ih
  | case11 buffer filled hlack room kind rest read hkind hquiet n ih =>
    simpa [Gathering.after, read, LogEvent.isWaiting] using ih
  | case12 buffer filled hlack room kind rest read hkind hquiet ih =>
    simpa [Gathering.after, read, LogEvent.isWaiting] using ih
  | case10 _ _ _ _ _ _ read | case13 _ _ _ _ _ _ _ read => simp [read]
  | _ => simp

namespace Reader

/-- The check of a packet logs nothing, so all that is logged is waiting. -/
theorem pollBody_logs (r : Reader) (h : Header) (input : InputStream) (patience : Patience) :
    (r.pollBody h input patience).transcript.Logs LogEvent.isWaiting := by
  unfold pollBody
  dsimp only
  split
  · exact gather_logs _ _ _ _ _ _
  · exact gather_logs _ _ _ _ _ _

/-- Behind a start marker all that is logged is waiting. -/
theorem pollLocked_logs (r : Reader) (input : InputStream) (patience : Patience) :
    (r.pollLocked input patience).transcript.Logs LogEvent.isWaiting := by
  unfold pollLocked
  dsimp only
  split
  · split
    · exact gather_logs _ _ _ _ _ _
    · exact (Transcript.logs_append _ _).2 ⟨gather_logs _ _ _ _ _ _, pollBody_logs _ _ _ _⟩
  · exact gather_logs _ _ _ _ _ _

/-- **A poll logs only events of a reader.** -/
theorem poll_logs (r : Reader) (input : InputStream) (patience : Patience) :
    (r.poll input patience).transcript.Logs LogEvent.isOfReader := by
  have hhunt := hunt_logs input.ending input.steps LogEvent.isOfReader
  unfold poll
  dsimp only
  split
  · exact hhunt
  · exact hhunt
  · split
    -- With a start marker: what was dropped before it, and the waiting behind it.
    · have hlock : r.lockEvents.Logs LogEvent.isOfReader := by
        unfold lockEvents
        split <;> simp [LogEvent.isOfReader]
      have hrest := (pollLocked_logs { r with unlockedRun := 0 }
        ⟨(hunt input.ending input.steps).steps, input.ending⟩ patience).mono
          fun e he => (show e.isOfReader = true by cases e <;> simp_all [LogEvent.isWaiting,
            LogEvent.isOfReader])
      exact (Transcript.logs_append _ _).2 ⟨(Transcript.logs_append _ _).2 ⟨hhunt, hlock⟩, hrest⟩
    · simp [hhunt, LogEvent.isOfReader]

end Reader

end ControllerLink
