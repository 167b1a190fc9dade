/-
# Output streams

A stream that bytes are written to: a script of what its next writes and
flushes do, and after that a stream that takes everything, or only so many
bytes.  `writeAll` offers bytes until all of them are taken.  A write that is
interrupted is made again, so every stream here comes to an end of its
interruptions: no write would come back from any other.
-/
import ControllerLink.Bytes
import ControllerLink.Fault

set_option autoImplicit false

namespace ControllerLink

/-- What the next write does. -/
inductive WriteStep where
  /-- It takes at most this many of the bytes offered. -/
  | accept (most : Nat)
  | fail (kind : FaultKind)
deriving DecidableEq, Repr

/-- What a stream does once its script is used up. -/
inductive Room where
  /-- It takes everything. -/
  | unlimited
  /-- It takes so many more bytes and then fails, for good. -/
  | limited (bytes : Nat) (thereafter : FaultKind) (final : thereafter ≠ .interrupted)
deriving DecidableEq, Repr

/-- A stream that bytes are written to. -/
structure OutputStream where
  writes : List WriteStep
  /-- What the next flushes do: `none` succeeds.  After these every flush succeeds. -/
  flushes : List (Option FaultKind)
  room : Room
deriving DecidableEq, Repr

/-- One thing that was asked of an output stream. -/
inductive OutputActivity where
  /-- Bytes were offered, and these of them taken. -/
  | wrote (offered : Nat) (taken : Bytes)
  /-- Bytes were offered, and the write failed. -/
  | writeFailed (offered : Nat) (kind : FaultKind)
  | flushed
  | flushFailed (kind : FaultKind)
deriving DecidableEq, Repr

/-- How writing everything ended. -/
inductive WriteEnd where
  | done
  /-- A write took nothing. -/
  | refused
  | failed (kind : FaultKind)
deriving DecidableEq, Repr

/-- The end of writing, the stream after it, and what was asked of the stream. -/
structure Written where
  result : WriteEnd
  stream : OutputStream
  activity : List OutputActivity
deriving DecidableEq, Repr

/-- The same with something that happened before it. -/
def Written.after (w : Written) (before : OutputActivity) : Written :=
  { w with activity := before :: w.activity }

/-- The bytes that a stream took. -/
def takenBytes (activity : List OutputActivity) : Bytes :=
  activity.flatMap fun
    | .wrote _ taken => taken
    | _ => []

namespace OutputStream

/-- A stream that takes everything. -/
def unlimited : OutputStream := ⟨[], [], .unlimited⟩

/-- A stream that takes so many bytes and then fails.  One that would be interrupted from then on
fails for another reason: interruptions alone never end a write. -/
def limited (bytes : Nat) (thereafter : FaultKind) : OutputStream :=
  if final : thereafter ≠ .interrupted then ⟨[], [], .limited bytes thereafter final⟩
  else ⟨[], [], .limited bytes .other (by decide)⟩

/-- Write to a stream whose script is used up. -/
def writeUnscripted (flushes : List (Option FaultKind)) (room : Room) (bytes : Bytes) : Written :=
  match room with
  | .unlimited => ⟨.done, ⟨[], flushes, room⟩, [.wrote bytes.length bytes]⟩
  | .limited left kind final =>
    if bytes.length ≤ left then
      ⟨.done, ⟨[], flushes, .limited (left - bytes.length) kind final⟩,
        [.wrote bytes.length bytes]⟩
    else if left = 0 then
      ⟨.failed kind, ⟨[], flushes, .limited 0 kind final⟩, [.writeFailed bytes.length kind]⟩
    else
      ⟨.failed kind, ⟨[], flushes, .limited 0 kind final⟩,
        [.wrote bytes.length (bytes.take left), .writeFailed (bytes.length - left) kind]⟩

/-- Write with given next steps. -/
def writeScripted (flushes : List (Option FaultKind)) (room : Room) :
    List WriteStep → Bytes → Written
  | steps, bytes =>
    if bytes = [] then ⟨.done, ⟨steps, flushes, room⟩, []⟩
    else
      match steps with
      | [] => writeUnscripted flushes room bytes
      | .accept most :: rest =>
        if most = 0 then ⟨.refused, ⟨rest, flushes, room⟩, [.wrote bytes.length []]⟩
        else
          (writeScripted flushes room rest (bytes.drop most)).after
            (.wrote bytes.length (bytes.take most))
      | .fail kind :: rest =>
        if kind = .interrupted then
          (writeScripted flushes room rest bytes).after (.writeFailed bytes.length kind)
        else ⟨.failed kind, ⟨rest, flushes, room⟩, [.writeFailed bytes.length kind]⟩

/-- Write until all bytes are taken; an interrupted write is made again. -/
def writeAll (s : OutputStream) (bytes : Bytes) : Written :=
  writeScripted s.flushes s.room s.writes bytes

/-- Flush with given next flushes. -/
def flushScripted (writes : List WriteStep) (room : Room) : List (Option FaultKind) → Written
  | [] => ⟨.done, ⟨writes, [], room⟩, [.flushed]⟩
  | none :: rest => ⟨.done, ⟨writes, rest, room⟩, [.flushed]⟩
  | some kind :: rest =>
    if kind = .interrupted then (flushScripted writes room rest).after (.flushFailed kind)
    else ⟨.failed kind, ⟨writes, rest, room⟩, [.flushFailed kind]⟩

/-- Flush; an interrupted flush is made again. -/
def flush (s : OutputStream) : Written :=
  flushScripted s.writes s.room s.flushes

end OutputStream

end ControllerLink
