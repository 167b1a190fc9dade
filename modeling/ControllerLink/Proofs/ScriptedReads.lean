/-
# What a scripted port delivers

Whatever is asked of a scripted port and however its reads are cut, its script is
handed out step by step: a failure by one read, data by as many reads as the room
of the readers makes it, and never data of two steps by one of them.  A read puts
back what did not fit.  One of a closed port, or of a port with nothing left,
leaves the script alone.

A script is handed out by groups of replies. `ReadStep.ServedBy` says which
replies hand out one step, and `Served` which ones hand out a script up to what
is left of it, the last step perhaps in part. Putting a read in front of such a
row of replies is all that a run needs:
* a read that takes a whole step adds a group (`Served.cons_whole`);
* a read that takes a piece of some data joins the group of the rest of it,
  which is still first in the script (`Served.cons_piece`).
What a single read can do is said once, for reads of the port and of its stream
together (`ScriptedPort.Reads`). That no byte is lost, doubled or moved follows
from being served, and from nothing else.
-/
import ControllerLink.Port.Scripted
import Mathlib.Data.List.Forall2

set_option autoImplicit false

namespace ControllerLink

/-! ## Replies -/

/-- What a read answers: one of the port itself, or one of its stream. -/
inductive PortReply where
  | port (result : Except PortError Bytes)
  | stream (outcome : ReadOutcome)

namespace PortReply

/-- A read that gave some bytes. -/
def Gives (chunk : Bytes) (r : PortReply) : Prop :=
  r = .port (.ok chunk) ∨ r = .stream (.bytes chunk)

/-- A read that failed; a stream tells of an error of its port by a fault. -/
def Reports (e : PortError) (r : PortReply) : Prop :=
  r = .port (.error e) ∨ r = .stream (.fault e.toFault)

/-- The bytes that a read gave. -/
def bytes : PortReply → Bytes
  | .port (.ok chunk) | .stream (.bytes chunk) => chunk
  | .port (.error _) | .stream (.fault _) => []

variable {r : PortReply} {chunk : Bytes} {e : PortError}

theorem Gives.bytes_eq (h : r.Gives chunk) : r.bytes = chunk := by
  rcases h with rfl | rfl <;> rfl

/-- The fault by which a stream tells of an error is of the kind of that error. -/
theorem Reports.kind_eq {f : Fault} (h : r.Reports e) (hr : r = .stream (.fault f)) :
    f.kind = e.toFault.kind := by
  rcases h with rfl | rfl
  · exact absurd hr (by simp)
  · exact congrArg Fault.kind (ReadOutcome.fault.inj (PortReply.stream.inj hr)).symm

theorem Reports.bytes_eq (h : r.Reports e) : r.bytes = [] := by
  rcases h with rfl | rfl <;> rfl

end PortReply

/-! ## Scripts that are handed out -/

/-- The bytes of a step. -/
def ReadStep.bytes : ReadStep → Bytes
  | .data bytes => bytes
  | .fail _ => []

/-- Reads that hand out one step of a script and nothing else.  Data that are not empty go out in
pieces that are not, each by a read of its own. -/
inductive ReadStep.ServedBy : ReadStep → List PortReply → Prop where
  | fail {kind : FaultKind} {r : PortReply} (h : r.Reports (.stream (.ofKind kind))) :
      ServedBy (.fail kind) [r]
  | empty {r : PortReply} (h : r.Gives []) : ServedBy (.data []) [r]
  | data {chunks : List Bytes} {replies : List PortReply} (hsome : chunks ≠ [])
      (hfull : [] ∉ chunks) (h : List.Forall₂ PortReply.Gives chunks replies) :
      ServedBy (.data chunks.flatten) replies

namespace ReadStep.ServedBy

/-- Reads give the bytes of the step that they hand out. -/
theorem bytes_eq {step : ReadStep} {replies : List PortReply} (h : step.ServedBy replies) :
    replies.flatMap PortReply.bytes = step.bytes := by
  cases h with
  | fail h | empty h => rw [List.flatMap_singleton, h.bytes_eq, bytes]
  | data hsome hfull h =>
    clear hsome hfull
    rw [bytes]
    induction h with
    | nil => rfl
    | cons hgives _ ih => rw [List.flatMap_cons, ih, hgives.bytes_eq, List.flatten_cons]

/-- Data handed out by one read. -/
theorem of_gives {bytes : Bytes} {r : PortReply} (h : r.Gives bytes) :
    (ReadStep.data bytes).ServedBy [r] := by
  by_cases hbytes : bytes = []
  · subst hbytes
    exact .empty h
  · have hdata : (ReadStep.data [bytes].flatten).ServedBy [r] :=
      data (by simp) (by simpa using Ne.symm hbytes) (.cons h .nil)
    rwa [List.flatten_singleton] at hdata

/-- A first piece, and then the rest of the data. The rest is served as data, in one piece more. -/
theorem cons {chunk rest : Bytes} {r : PortReply} {replies : List PortReply}
    (hchunk : chunk ≠ []) (hgives : r.Gives chunk) (hrest : rest ≠ [])
    (h : (ReadStep.data rest).ServedBy replies) :
    (ReadStep.data (chunk ++ rest)).ServedBy (r :: replies) := by
  generalize hstep : ReadStep.data rest = step at h
  cases h with
  | fail => exact absurd hstep (by simp)
  | empty => exact absurd (ReadStep.data.inj hstep) hrest
  | @data chunks _ hsome hfull h =>
    rw [ReadStep.data.inj hstep, ← List.flatten_cons]
    exact data (by simp) (by simp [hfull, Ne.symm hchunk]) (.cons hgives h)

end ReadStep.ServedBy

/-- `Served script replies left`: reads with these replies have handed out a script up to what is
left of it, one step behind the other, the last of them perhaps in part. -/
inductive Served : List ReadStep → List PortReply → List ReadStep → Prop where
  | whole {front left : List ReadStep} {groups : List (List PortReply)}
      (h : List.Forall₂ ReadStep.ServedBy front groups) :
      Served (front ++ left) groups.flatten left
  | part {front left : List ReadStep} {groups : List (List PortReply)} {bytes rest : Bytes}
      {replies : List PortReply} (h : List.Forall₂ ReadStep.ServedBy front groups)
      (hbytes : bytes ≠ []) (hpart : (ReadStep.data bytes).ServedBy replies) (hrest : rest ≠ []) :
      Served (front ++ .data (bytes ++ rest) :: left) (groups.flatten ++ replies)
        (.data rest :: left)

namespace Served

variable {script left : List ReadStep} {replies : List PortReply} {r : PortReply}

theorem refl (script : List ReadStep) : Served script [] script := by
  show Served ([] ++ script) [].flatten script
  exact whole .nil

/-- A piece of the data in front, and nothing behind it. -/
theorem of_servedBy {bytes rest : Bytes} (hbytes : bytes ≠ [])
    (h : (ReadStep.data bytes).ServedBy replies) (hrest : rest ≠ []) :
    Served (.data (bytes ++ rest) :: script) replies (.data rest :: script) := by
  show Served ([] ++ .data (bytes ++ rest) :: script) ([].flatten ++ replies) (.data rest :: script)
  exact part .nil hbytes h hrest

/-- A step handed out by one read, in front of the others. -/
theorem cons_whole {step : ReadStep} (hstep : step.ServedBy [r]) (h : Served script replies left) :
    Served (step :: script) (r :: replies) left := by
  cases h with
  | whole h => exact whole (.cons hstep h)
  | part h hbytes hpart hrest => exact part (.cons hstep h) hbytes hpart hrest

/-- A first piece of the data in front. The rest may have been handed out by the reads behind this
one, or in part, or not at all. -/
theorem cons_piece {chunk rest : Bytes} (hchunk : chunk ≠ []) (hgives : r.Gives chunk)
    (hrest : rest ≠ []) (h : Served (.data rest :: script) replies left) :
    Served (.data (chunk ++ rest) :: script) (r :: replies) left := by
  generalize hscript : ReadStep.data rest :: script = all at h
  cases h with
  | whole h =>
    cases h with
    | nil =>
      -- Nothing has been read behind the piece.
      rw [List.nil_append] at hscript
      subst hscript
      exact of_servedBy hchunk (.of_gives hgives) hrest
    | cons hstep h =>
      obtain ⟨rfl, rfl⟩ := List.cons.inj hscript
      exact whole (.cons (hstep.cons hchunk hgives hrest) h)
  | @part _ _ _ bytes rest' _ h hbytes hpart hrest' =>
    cases h with
    | nil =>
      -- The reads behind the piece have not come to the end of the same step either.
      obtain ⟨hdata, rfl⟩ := List.cons.inj hscript
      rw [ReadStep.data.inj hdata, ← List.append_assoc]
      exact of_servedBy (by simp [hchunk]) (hpart.cons hchunk hgives hbytes) hrest'
    | cons hstep h =>
      obtain ⟨rfl, rfl⟩ := List.cons.inj hscript
      exact part (.cons (hstep.cons hchunk hgives hrest) h) hbytes hpart hrest'

/-- **No byte is lost, doubled or moved**: what the reads gave and what is left make up the bytes of
the script. -/
theorem bytes_eq (h : Served script replies left) :
    replies.flatMap PortReply.bytes ++ left.flatMap ReadStep.bytes =
      script.flatMap ReadStep.bytes := by
  have hfront : ∀ {front : List ReadStep} {groups : List (List PortReply)},
      List.Forall₂ ReadStep.ServedBy front groups →
        groups.flatten.flatMap PortReply.bytes = front.flatMap ReadStep.bytes := by
    intro front groups hgroups
    induction hgroups with
    | nil => rfl
    | cons hstep _ ih =>
      rw [List.flatten_cons, List.flatMap_append, ih, hstep.bytes_eq, List.flatMap_cons]
  cases h with
  | whole h => rw [hfront h, List.flatMap_append]
  | part h _ hpart _ =>
    rw [List.flatMap_append, hfront h, hpart.bytes_eq, List.flatMap_append]
    simp [ReadStep.bytes]

end Served

/-! ## One read -/

/-- **What one read does** to a port: the port is closed; or nothing is left; or the next step is
handed out, whole or a piece of its data, and the rest put back. -/
inductive ScriptedPort.Reads (p : ScriptedPort) (r : PortReply) (p' : ScriptedPort) : Prop where
  | refused (hshut : p.isOpen = false) (hreply : r.Reports .notOpen)
      (hscript : p'.script = p.script)
  | quiet (hopen : p.isOpen = true) (hempty : p.script = [])
      (hreply : r.Reports (.stream (.ofKind .timedOut))) (hscript : p'.script = p.script)
  | whole {step : ReadStep} (hopen : p.isOpen = true) (hscript : p.script = step :: p'.script)
      (hserved : step.ServedBy [r])
  | piece {chunk rest : Bytes} {behind : List ReadStep} (hopen : p.isOpen = true)
      (hscript : p.script = .data (chunk ++ rest) :: behind) (hchunk : chunk ≠ [])
      (hrest : rest ≠ []) (hgives : r.Gives chunk) (hafter : p'.script = .data rest :: behind)

namespace ScriptedPort

/-- A read of the stream, and any reply that tells of what it came to. -/
theorem reads_of_tells (p : ScriptedPort) {room : Nat} (hroom : 0 < room) {r : PortReply}
    (hbytes : ∀ chunk, (p.readStream room).1 = .bytes chunk → r.Gives chunk)
    (hfault : ∀ f, (p.readStream room).1 = .fault f →
      r.Reports (if p.isOpen then .stream f else .notOpen)) :
    p.Reads r (p.readStream room).2 := by
  -- The port is closed, or has nothing left, or has data, or a failure next.
  rcases p with ⟨isOpen, script, written, readCalls, writeCalls, openCalls, closeCalls,
    openFailures, opensClosed, failsWrites⟩
  cases isOpen with
  | false => exact .refused rfl (hfault _ rfl) rfl
  | true =>
    rcases script with _ | ⟨_ | kind, rest⟩
    · exact .quiet rfl rfl (hfault _ rfl) rfl
    · next bytes =>
      unfold readStream input afterReads InputStream.read at *
      -- Data are taken whole if there is room, and otherwise their rest is put back.
      by_cases hfits : bytes.length ≤ room
      · simp only [if_true, if_pos hfits] at hbytes ⊢
        exact .whole rfl rfl (.of_gives (hbytes _ rfl))
      · simp only [if_true, if_neg hfits] at hbytes ⊢
        have hsplit : ReadStep.data bytes :: rest =
            .data (bytes.take room ++ bytes.drop room) :: rest := by
          rw [List.take_append_drop]
        refine .piece rfl hsplit (List.ne_nil_of_length_pos ?_) (List.ne_nil_of_length_pos ?_)
          (hbytes _ rfl) rfl
        · rw [List.length_take]
          omega
        · rw [List.length_drop]
          omega
    · exact .whole rfl rfl (.fail (hfault _ rfl))

/-- A read through the stream of the port. The stream of a closed port fails in one way only. -/
theorem reads_readStream (p : ScriptedPort) {room : Nat} (hroom : 0 < room) :
    p.Reads (.stream (p.readStream room).1) (p.readStream room).2 := by
  refine p.reads_of_tells hroom (fun chunk h => .inr (congrArg _ h)) fun f h => .inr ?_
  rw [h]
  cases hopen : p.isOpen with
  | true => rfl
  | false =>
    have hshut : (p.readStream room).1 = .fault .notOpen := by
      simp [readStream, input, hopen, InputStream.read, Ending.outcome]
    rw [ReadOutcome.fault.inj (h.symm.trans hshut)]
    rfl

/-- A read of the port itself. -/
theorem reads_read (p : ScriptedPort) {room : Nat} (hroom : 0 < room) :
    p.Reads (.port (p.read room).1) (p.read room).2 := by
  refine p.reads_of_tells hroom (fun chunk h => .inl ?_) fun f h => .inl ?_
  · simp only [read, h]
  · simp only [read, h]

end ScriptedPort

/-! ## A read in two halves -/

namespace ScriptedPort

/-- The first half of a read: it is counted, and the next step is taken off if the port is open. -/
def beginRead (p : ScriptedPort) : Option ReadStep × ScriptedPort :=
  let counted := { p with readCalls := p.readCalls + 1 }
  if p.isOpen then (p.script.head?, { counted with script := p.script.tail }) else (none, counted)

/-- The second half: data that did not fit are put back in front. -/
def endRead (p : ScriptedPort) (room : Nat) : Option ReadStep → ScriptedPort
  | some (.data bytes) =>
    if bytes.length ≤ room then p else { p with script := .data (bytes.drop room) :: p.script }
  | _ => p

/-- The two halves make a read. -/
theorem endRead_beginRead (p : ScriptedPort) (room : Nat) :
    p.beginRead.2.endRead room p.beginRead.1 = (p.readStream room).2 := by
  rcases p with ⟨isOpen, script, written, readCalls, writeCalls, openCalls, closeCalls,
    openFailures, opensClosed, failsWrites⟩
  cases isOpen with
  | false => rfl
  | true =>
    rcases script with _ | ⟨bytes | kind, rest⟩
    · rfl
    · by_cases hfits : bytes.length ≤ room
      · simp [beginRead, endRead, readStream, input, afterReads, InputStream.read, hfits]
      · simp [beginRead, endRead, readStream, input, afterReads, InputStream.read, hfits]
    · rfl

/-- **A push may fall into a read.**  Between the halves it comes to the same as behind them, for a
read puts back in front and a push adds to the end. -/
theorem push_amid_read (p : ScriptedPort) (room : Nat) (step : ReadStep) :
    (p.beginRead.2.push step).endRead room p.beginRead.1 = (p.readStream room).2.push step := by
  rw [← endRead_beginRead]
  generalize p.beginRead = halfway
  obtain ⟨taken, p'⟩ := halfway
  rcases taken with _ | bytes | kind
  · rfl
  · by_cases hfits : bytes.length ≤ room
    · simp [endRead, hfits]
    · simp [endRead, hfits, push]
  · rfl

end ScriptedPort

/-! ## Runs of calls -/

/-- What can be asked of a scripted port. -/
inductive PortCall where
  | push (step : ReadStep)
  | openPort
  | closePort
  /-- A read of the port itself. -/
  | readPort (room : Nat)
  /-- A read through its stream. -/
  | readStream (room : Nat)
deriving DecidableEq, Repr

namespace PortCall

/-- The room of a read. -/
def room? : PortCall → Option Nat
  | readPort room | readStream room => some room
  | _ => none

/-- Whether a call is a read. -/
def isRead (c : PortCall) : Bool := c.room?.isSome

/-- A read with room for at least one byte; any other call asks for none. -/
def HasRoom (c : PortCall) : Prop := ∀ room ∈ c.room?, 0 < room

/-- The step that a call adds to the script. -/
def pushed? : PortCall → Option ReadStep
  | push step => some step
  | _ => none

end PortCall

/-- One read of a port: the port before it, the reply, and the port after it. -/
structure PortReading where
  before : ScriptedPort
  reply : PortReply
  after : ScriptedPort

/-- Whether a read handed out anything of the script: the port was open and something was left. -/
def PortReading.isServed (x : PortReading) : Bool :=
  x.before.isOpen && !x.before.script.isEmpty

namespace ScriptedPort

/-- One call: the reply to a read, and the port after it. -/
def call (p : ScriptedPort) : PortCall → Option PortReply × ScriptedPort
  | .push step => (none, p.push step)
  | .openPort => (none, p.tryOpen.2)
  | .closePort => (none, p.close)
  | .readPort room => (some (.port (p.read room).1), (p.read room).2)
  | .readStream room => (some (.stream (p.readStream room).1), (p.readStream room).2)

/-- The port after calls in turn. -/
def afterCalls (p : ScriptedPort) (calls : List PortCall) : ScriptedPort :=
  calls.foldl (fun p c => (p.call c).2) p

/-- The reads among calls in turn. -/
def readings (p : ScriptedPort) : List PortCall → List PortReading
  | [] => []
  | c :: calls =>
    ((p.call c).1.map fun reply => ⟨p, reply, (p.call c).2⟩).toList ++ (p.call c).2.readings calls

/-- A call that is no read makes no reading. -/
theorem readings_of_none {p : ScriptedPort} {c : PortCall} (calls : List PortCall)
    (hnone : (p.call c).1 = none) : p.readings (c :: calls) = (p.call c).2.readings calls := by
  rw [readings, hnone]
  rfl

/-- A read makes one reading, with the port before and behind it. -/
theorem readings_of_reply {p : ScriptedPort} {c : PortCall} (calls : List PortCall)
    {r : PortReply} (hreply : (p.call c).1 = some r) :
    p.readings (c :: calls) = ⟨p, r, (p.call c).2⟩ :: (p.call c).2.readings calls := by
  rw [readings, hreply]
  rfl

/-- **What a call does**: a call without a reply only adds to the script what it pushes; any other
is a read, and is counted. -/
theorem call_cases (p : ScriptedPort) {c : PortCall} (hroom : c.HasRoom) :
    (c.isRead = false ∧ (p.call c).1 = none ∧ (p.call c).2.script = p.script ++ c.pushed?.toList ∧
        (p.call c).2.readCalls = p.readCalls) ∨
      c.isRead = true ∧ c.pushed? = none ∧ ∃ r, (p.call c).1 = some r ∧ p.Reads r (p.call c).2 ∧
        (p.call c).2.readCalls = p.readCalls + 1 := by
  cases c with
  | push step => exact .inl ⟨rfl, rfl, rfl, rfl⟩
  | openPort =>
    left
    refine ⟨rfl, rfl, ?_⟩
    show p.tryOpen.2.script = p.script ++ [] ∧ p.tryOpen.2.readCalls = p.readCalls
    rw [List.append_nil]
    unfold tryOpen
    split <;> exact ⟨rfl, rfl⟩
  | closePort => exact .inl ⟨rfl, rfl, (List.append_nil _).symm, rfl⟩
  | readPort room => exact .inr ⟨rfl, rfl, _, rfl, p.reads_read (hroom room rfl), rfl⟩
  | readStream room => exact .inr ⟨rfl, rfl, _, rfl, p.reads_readStream (hroom room rfl), rfl⟩

/-- Every reading of a run is one read of a port. -/
theorem reads_of_mem_readings {calls : List PortCall}
    (hroom : ∀ c ∈ calls, c.HasRoom) {p : ScriptedPort} :
    ∀ x ∈ p.readings calls, x.before.Reads x.reply x.after := by
  induction calls generalizing p with
  | nil => simp [readings]
  | cons c calls ih =>
    obtain ⟨hc, hcalls⟩ := List.forall_mem_cons.1 hroom
    intro x hx
    rcases p.call_cases hc with ⟨-, hnone, -⟩ | ⟨-, -, r, hreply, hreads, -⟩
    · rw [readings_of_none calls hnone] at hx
      exact ih hcalls x hx
    · rw [readings_of_reply calls hreply, List.mem_cons] at hx
      rcases hx with rfl | hx
      · exact hreads
      · exact ih hcalls x hx

/-- A run hands out its script in order, and counts its reads. -/
theorem served_readings {calls : List PortCall}
    (hroom : ∀ c ∈ calls, c.HasRoom) (p : ScriptedPort) :
    Served (p.script ++ calls.filterMap PortCall.pushed?)
        (((p.readings calls).filter PortReading.isServed).map PortReading.reply)
        (p.afterCalls calls).script ∧
      (p.readings calls).length = calls.countP (·.isRead) ∧
      (p.afterCalls calls).readCalls = p.readCalls + (p.readings calls).length := by
  induction calls generalizing p with
  | nil =>
    refine ⟨?_, rfl, rfl⟩
    show Served (p.script ++ []) [] p.script
    rw [List.append_nil]
    exact .refl p.script
  | cons c calls ih =>
    obtain ⟨hc, hcalls⟩ := List.forall_mem_cons.1 hroom
    obtain ⟨hserved, hlength, hcount⟩ := ih hcalls (p.call c).2
    have hafter : p.afterCalls (c :: calls) = (p.call c).2.afterCalls calls := rfl
    rw [hafter, hcount]
    rcases p.call_cases hc with ⟨hcall, hnone, hscript, hcounted⟩ |
      ⟨hcall, hpushed, r, hreply, hreads, hcounted⟩
    -- What the first call pushes comes behind the script and before all that is pushed later.
    · have hpushes : p.script ++ (c :: calls).filterMap PortCall.pushed? =
          (p.call c).2.script ++ calls.filterMap PortCall.pushed? := by
        rw [hscript, List.append_assoc]
        rcases hpushed : c.pushed? with _ | step
        · rw [List.filterMap_cons_none hpushed, Option.toList_none, List.nil_append]
        · rw [List.filterMap_cons_some hpushed, Option.toList_some, List.singleton_append]
      rw [readings_of_none calls hnone, hpushes, List.countP_cons_of_neg (by simp [hcall]),
        hcounted]
      exact ⟨hserved, hlength, rfl⟩
    · rw [readings_of_reply calls hreply, List.filterMap_cons_none hpushed,
        List.countP_cons_of_pos hcall, List.length_cons, hlength, hcounted]
      refine ⟨?_, rfl, by omega⟩
      -- A read that hands out nothing leaves the script as it was; any other takes from its front.
      cases hreads with
      | refused hshut _ hscript =>
        rw [List.filter_cons_of_neg (by simp [PortReading.isServed, hshut]), ← hscript]
        exact hserved
      | quiet _ hempty _ hscript =>
        rw [List.filter_cons_of_neg (by simp [PortReading.isServed, hempty]), ← hscript]
        exact hserved
      | whole hopen hscript hstep =>
        rw [List.filter_cons_of_pos (by simp [PortReading.isServed, hopen, hscript]), hscript]
        exact hserved.cons_whole hstep
      | piece hopen hscript hchunk hrest hgives hbehind =>
        rw [List.filter_cons_of_pos (by simp [PortReading.isServed, hopen, hscript]), hscript]
        rw [hbehind] at hserved
        exact hserved.cons_piece hchunk hgives hrest

/-- Reads that handed out nothing gave no bytes. -/
theorem flatMap_bytes_readings {xs : List PortReading}
    (hreads : ∀ x ∈ xs, x.before.Reads x.reply x.after) :
    (xs.flatMap fun x => x.reply.bytes) =
      ((xs.filter PortReading.isServed).map PortReading.reply).flatMap PortReply.bytes := by
  induction xs with
  | nil => rfl
  | cons x xs ih =>
    obtain ⟨hx, hxs⟩ := List.forall_mem_cons.1 hreads
    rw [List.flatMap_cons, ih hxs]
    cases hserved : x.isServed with
    | true => rw [List.filter_cons_of_pos hserved, List.map_cons, List.flatMap_cons]
    | false =>
      rw [List.filter_cons_of_neg (by simp [hserved])]
      -- A read that handed out nothing has failed.
      have hnone : x.reply.bytes = [] := by
        cases hx with
        | refused _ hreply _ | quiet _ _ hreply _ => exact hreply.bytes_eq
        | whole hopen hscript _ | piece hopen hscript _ _ _ _ =>
          exact absurd hserved (by simp [PortReading.isServed, hopen, hscript])
      rw [hnone, List.nil_append]

/-- **A port delivers its script.**  Whatever calls are made of a port, in any order, as long as its
reads have room: what they gave and what is left make up the bytes that the script held at first and
those pushed.  The reads that found the port open and something left have handed out the steps one
behind the other, each failure by one of them, and the data of a step by reads of their own.  A read
of a closed port fails for that reason, one with nothing left runs out of time, and neither touches
the script.  All reads are counted. -/
theorem delivers_script {calls : List PortCall}
    (hroom : ∀ c ∈ calls, c.HasRoom) (p : ScriptedPort) :
    let readings := p.readings calls
    let last := p.afterCalls calls
    let script := p.script ++ calls.filterMap PortCall.pushed?
    (readings.flatMap fun x => x.reply.bytes) ++ last.script.flatMap ReadStep.bytes =
        script.flatMap ReadStep.bytes ∧
      Served script ((readings.filter PortReading.isServed).map PortReading.reply) last.script ∧
      (∀ x ∈ readings, x.before.isOpen = false →
        x.reply.Reports .notOpen ∧ (∀ f, x.reply = .stream (.fault f) → f.kind = .notConnected) ∧
          x.after.script = x.before.script) ∧
      (∀ x ∈ readings, x.before.isOpen = true → x.before.script = [] →
        x.reply.Reports (.stream (.ofKind .timedOut)) ∧ x.after.script = x.before.script) ∧
      readings.length = calls.countP (·.isRead) ∧
      last.readCalls = p.readCalls + readings.length := by
  intro readings last script
  have hreads : ∀ x ∈ readings, x.before.Reads x.reply x.after := reads_of_mem_readings hroom
  obtain ⟨hserved, hlength, hcount⟩ := served_readings hroom p
  refine ⟨?_, hserved, ?_, ?_, hlength, hcount⟩
  · rw [flatMap_bytes_readings hreads]
    exact hserved.bytes_eq
  · intro x hx hshut
    cases hreads x hx with
    | refused _ hreply hscript => exact ⟨hreply, fun f => hreply.kind_eq, hscript⟩
    | quiet hopen | whole hopen | piece hopen => exact absurd (hshut.symm.trans hopen) (by simp)
  · intro x hx hopen hempty
    cases hreads x hx with
    | refused hshut => exact absurd (hopen.symm.trans hshut) (by simp)
    | quiet _ _ hreply hscript => exact ⟨hreply, hscript⟩
    | whole _ hscript | piece _ hscript => exact absurd (hempty.symm.trans hscript) (by simp)

/-- Data cut by small rooms, a failure between them, and reads before the port is open, behind the
end of the script and on the closed port. -/
def cutReads : List PortCall :=
  [.push (.data [1, 2, 3]), .readPort 4, .openPort, .push (.fail .interrupted), .push (.data [4]),
    .readPort 2, .readStream 5, .readStream 1, .readPort 1, .readStream 3, .push (.data [5]),
    .closePort, .readStream 1]

/-- Four of these seven reads are served; the other three find the port closed, or nothing there.
The last chunk is still to come. -/
theorem delivers_script_cutReads :
    let readings := fresh.readings cutReads
    let last := fresh.afterCalls cutReads
    (∀ c ∈ cutReads, c.HasRoom) ∧
      (readings.flatMap fun x => x.reply.bytes) ++ [5] = [1, 2, 3, 4, 5] ∧
      Served [.data [1, 2, 3], .fail .interrupted, .data [4], .data [5]]
        ((readings.filter PortReading.isServed).map PortReading.reply) [.data [5]] ∧
      (readings.filter fun x => !x.isServed).length = 3 ∧ last.readCalls = 7 := by
  intro readings last
  have hroom : ∀ c ∈ cutReads, c.HasRoom := by
    simp [cutReads, PortCall.HasRoom, PortCall.room?]
  have hleft : last.script = [.data [5]] := by decide
  obtain ⟨hbytes, hserved, -, -, -, hcount⟩ := delivers_script hroom fresh
  exact ⟨hroom, hbytes, hserved, by decide, hcount⟩

end ScriptedPort

end ControllerLink
