/-
# Input streams

A stream of bytes as its reader meets it: a script of what its reads will give,
and what every read gives once the script is used up.  What happens while a
packet is read is kept as a transcript of reads, questions and log events.
-/
import ControllerLink.Bytes
import ControllerLink.Fault
import ControllerLink.Log

set_option autoImplicit false

namespace ControllerLink

/-- What the next read, or with a long piece of data the next reads, will give. -/
inductive ReadStep where
  /-- These bytes, never together with those of another step. -/
  | data (bytes : Bytes)
  /-- A failure. -/
  | fail (kind : FaultKind)
deriving DecidableEq, Repr

/-- What reads give once the script is used up. -/
inductive Ending where
  /-- No bytes: the stream has ended. -/
  | closed
  /-- A time-out: the line is quiet. -/
  | quiet
  /-- A failure: the port is not open. -/
  | shut
deriving DecidableEq, Repr

/-- What one read gave; no bytes at all means that the stream has ended. -/
inductive ReadOutcome where
  | bytes (chunk : Bytes)
  | fault (f : Fault)
deriving DecidableEq, Repr

/-- The fault of using a port that is not open. -/
def Fault.notOpen : Fault := .withText .notConnected "transport is not open"

/-- What a read gives at the end of a script. -/
def Ending.outcome : Ending → ReadOutcome
  | closed => .bytes []
  | quiet => .fault (.ofKind .timedOut)
  | shut => .fault .notOpen

/-- A stream: its script and its end. -/
structure InputStream where
  steps : List ReadStep
  ending : Ending
deriving DecidableEq, Repr

namespace InputStream

/-- The stream that serves `bytes` and then ends. -/
def ofBytes (bytes : Bytes) : InputStream :=
  ⟨if bytes.isEmpty then [] else [.data bytes], .closed⟩

/-- One read with room for `room` bytes. -/
def read (s : InputStream) (room : Nat) : ReadOutcome × InputStream :=
  match s.steps with
  | [] => (s.ending.outcome, s)
  | .fail kind :: rest => (.fault (.ofKind kind), ⟨rest, s.ending⟩)
  | .data bytes :: rest =>
    if bytes.length ≤ room then (.bytes bytes, ⟨rest, s.ending⟩)
    else (.bytes (bytes.take room), ⟨.data (bytes.drop room) :: rest, s.ending⟩)

/-- The bytes that the script still holds. -/
def pending (s : InputStream) : Bytes :=
  s.steps.flatMap fun
    | .data bytes => bytes
    | .fail _ => []

@[simp] theorem pending_nil (ending : Ending) : pending ⟨[], ending⟩ = [] := rfl

@[simp] theorem pending_data (bytes : Bytes) (steps : List ReadStep) (ending : Ending) :
    pending ⟨.data bytes :: steps, ending⟩ = bytes ++ pending ⟨steps, ending⟩ := rfl

@[simp] theorem pending_fail (kind : FaultKind) (steps : List ReadStep) (ending : Ending) :
    pending ⟨.fail kind :: steps, ending⟩ = pending ⟨steps, ending⟩ := rfl

theorem pending_append (front back : List ReadStep) (ending : Ending) :
    pending ⟨front ++ back, ending⟩ = pending ⟨front, ending⟩ ++ pending ⟨back, ending⟩ :=
  List.flatMap_append

theorem pending_ofBytes (bytes : Bytes) : (ofBytes bytes).pending = bytes := by
  cases bytes <;> simp [ofBytes]

/-- An upper bound on the reads of at least one byte that use up the script. -/
def weight (s : InputStream) : Nat :=
  s.steps.length + s.pending.length

/-- A chunk weighs its bytes and one more, so that an empty one weighs something as well. -/
theorem weight_data (bytes : Bytes) (steps : List ReadStep) (ending : Ending) :
    weight ⟨.data bytes :: steps, ending⟩ = 1 + bytes.length + weight ⟨steps, ending⟩ := by
  simp only [weight, pending, List.length_cons, List.flatMap_cons, List.length_append]
  omega

/-- A failure weighs one. -/
theorem weight_fail (kind : FaultKind) (steps : List ReadStep) (ending : Ending) :
    weight ⟨.fail kind :: steps, ending⟩ = 1 + weight ⟨steps, ending⟩ := by
  simp only [weight, pending, List.length_cons, List.flatMap_cons, List.nil_append]
  omega

end InputStream

/-- One thing that happened while a stream was read. -/
inductive Activity where
  /-- A read with room for some bytes, and what it gave. -/
  | read (room : Nat) (outcome : ReadOutcome)
  /-- The question whether to keep waiting, and its answer. -/
  | asked (answer : Bool)
  | logged (event : LogEvent)
deriving DecidableEq, Repr

/-- What happened, in order. -/
abbrev Transcript := List Activity

namespace Transcript

/-- What the reads gave. -/
def outcomes (t : Transcript) : List ReadOutcome :=
  t.filterMap fun
    | .read _ outcome => some outcome
    | _ => none

/-- How many reads there were. -/
def reads (t : Transcript) : Nat := t.outcomes.length

/-- The bytes that were read. -/
def consumed (t : Transcript) : Bytes :=
  t.outcomes.flatMap fun
    | .bytes chunk => chunk
    | .fault _ => []

@[simp] theorem consumed_nil : consumed [] = [] := rfl

@[simp] theorem consumed_read_bytes (room : Nat) (chunk : Bytes) (t : Transcript) :
    consumed (.read room (.bytes chunk) :: t) = chunk ++ consumed t := rfl

@[simp] theorem consumed_read_fault (room : Nat) (f : Fault) (t : Transcript) :
    consumed (.read room (.fault f) :: t) = consumed t := rfl

@[simp] theorem consumed_asked (answer : Bool) (t : Transcript) :
    consumed (.asked answer :: t) = consumed t := rfl

@[simp] theorem consumed_logged (event : LogEvent) (t : Transcript) :
    consumed (.logged event :: t) = consumed t := rfl

@[simp] theorem consumed_append (s t : Transcript) :
    consumed (s ++ t) = consumed s ++ consumed t := by
  simp [consumed, outcomes]

/-- The answers to the questions whether to keep waiting. -/
def answers (t : Transcript) : List Bool :=
  t.filterMap fun
    | .asked answer => some answer
    | _ => none

/-- The log events. -/
def events (t : Transcript) : List LogEvent :=
  t.filterMap fun
    | .logged event => some event
    | _ => none

/-- How many reads found the line quiet. -/
def quietReads (t : Transcript) : Nat :=
  t.outcomes.countP fun
    | .fault f => f.kind.isQuiet
    | .bytes _ => false

end Transcript

end ControllerLink
