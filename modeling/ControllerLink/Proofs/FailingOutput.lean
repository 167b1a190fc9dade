/-
# Output that fails

A reporter writes line by line to a stream that may do anything: take a few
bytes at a time, be interrupted, take nothing, fail in any way.  The first line
that fails is the last one that is offered, and a broken pipe also clears the
flag that keeps the program running.  Nothing else depends on the stream:
records are counted, and names noted and announced, whether or not anything is
written.

* `Tries` says what one attempt to write does, in bytes and in calls of the
  stream: what was taken is a beginning of what was offered, all of it if
  nothing failed, and a fatal call is the last one.
* `Emits` says the same of a reporter: what its stream has taken is a beginning
  of the lines that it was given, and all of them as long as nothing has failed.
* `Noted` is the part that does not depend on the stream: the counts, and the
  names in the order in which they first came.
The first two are kept by one line and the third by one call of the sink; runs
follow by induction on the calls.
-/
import Mathlib.Data.List.Induction
import Mathlib.Data.String.Basic
import ControllerLink.Proofs.OutputLines

set_option autoImplicit false

namespace ControllerLink

open Text (lineBytes)

/-! ## Writes that fail

Whether a write goes on or fails is decided by the stream, call by call. -/

/-- Whether nothing more is written behind it: a write took nothing, or it failed and was not just
interrupted. -/
def OutputActivity.isFatal : OutputActivity → Bool
  | .wrote _ taken => taken.isEmpty
  | .writeFailed _ kind => kind != .interrupted
  | .flushed | .flushFailed _ => false

/-- `Tries bytes activity fault`: `bytes` are offered to a stream, and `fault` says what came of
it. -/
structure Tries (bytes : Bytes) (activity : List OutputActivity) (fault : Option Fault) :
    Prop where
  /-- What is taken are the first of the bytes. -/
  taken : takenBytes activity <+: bytes
  /-- All is well exactly if all bytes are taken. -/
  done_iff : fault = none ↔ takenBytes activity = bytes
  /-- Only the last thing that happens can be fatal. -/
  fatal : ∀ a ∈ activity.dropLast, a.isFatal = false
  /-- There is a fault exactly if something fatal happened. -/
  fault_iff : fault.isSome = true ↔ ∃ a ∈ activity, a.isFatal = true
  /-- A broken pipe is told exactly if it came up. -/
  pipe_iff : (∃ f, fault = some f ∧ f.kind = .brokenPipe) ↔
    ∃ offered, .writeFailed offered .brokenPipe ∈ activity

namespace Tries

variable {bytes later : Bytes} {activity activity' : List OutputActivity} {fault : Option Fault}

theorem nil : Tries [] [] none where
  taken := List.prefix_rfl
  done_iff := by simp
  fatal := by simp
  fault_iff := by simp
  pipe_iff := by simp

/-- Nothing that happens is fatal if all is well. -/
theorem harmless (h : Tries bytes activity none) : ∀ a ∈ activity, a.isFatal = false := by
  intro a ha
  cases hfatal : a.isFatal with
  | false => rfl
  | true => exact absurd (h.fault_iff.2 ⟨a, ha, hfatal⟩) (by simp)

/-- What is left of the bytes is offered behind something harmless. Since the first bytes were all
taken, everything that can have failed is in the second part. -/
theorem append (h : Tries bytes activity none) (h' : Tries later activity' fault) :
    Tries (bytes ++ later) (activity ++ activity') fault where
  taken := by
    rw [takenBytes_append, h.done_iff.1 rfl]
    exact List.prefix_append_right_inj _ |>.2 h'.taken
  done_iff := by
    rw [takenBytes_append, h.done_iff.1 rfl, List.append_cancel_left_eq]
    exact h'.done_iff
  fatal := by
    intro a ha
    -- The last activity of the whole is that of the second part, if there is one.
    rcases List.eq_nil_or_concat' activity' with rfl | ⟨front, last, rfl⟩
    · rw [List.append_nil] at ha
      exact h.fatal a ha
    · rw [← List.append_assoc, List.dropLast_concat, List.mem_append] at ha
      rcases ha with ha | ha
      · exact h.harmless a ha
      · exact h'.fatal a (by rwa [List.dropLast_concat])
  fault_iff := by
    rw [h'.fault_iff]
    constructor
    · rintro ⟨a, ha, hfatal⟩
      exact ⟨a, List.mem_append_right _ ha, hfatal⟩
    · rintro ⟨a, ha, hfatal⟩
      rcases List.mem_append.1 ha with ha | ha
      · exact absurd ((h.harmless a ha).symm.trans hfatal) (by simp)
      · exact ⟨a, ha, hfatal⟩
  pipe_iff := by
    have hquiet : ∀ offered, .writeFailed offered .brokenPipe ∉ activity :=
      fun offered hmem => absurd (h.harmless _ hmem) (by simp [OutputActivity.isFatal])
    rw [h'.pipe_iff]
    simp only [List.mem_append, hquiet, false_or]

/-- What has failed is not tried again, and the bytes behind it are not offered. -/
theorem of_failed {f : Fault} (h : Tries bytes activity (some f)) (later : Bytes) :
    Tries (bytes ++ later) activity (some f) where
  taken := h.taken.trans (List.prefix_append _ _)
  done_iff := by
    -- Not even the bytes before were all taken.
    have hshort : takenBytes activity ≠ bytes := fun hall => absurd (h.done_iff.2 hall) (by simp)
    constructor
    · simp
    · intro hall
      obtain ⟨rest, hrest⟩ := h.taken
      have hlength := congrArg List.length hall
      have hlength' := congrArg List.length hrest
      rw [List.length_append] at hlength hlength'
      have hrest' : rest = [] := List.length_eq_zero_iff.1 (by omega)
      rw [hrest', List.append_nil] at hrest
      exact absurd hrest hshort
  fatal := h.fatal
  fault_iff := h.fault_iff
  pipe_iff := h.pipe_iff

/-- Some bytes are taken, or the write is interrupted, and then it goes on. -/
theorem cons {first rest : Bytes} {a : OutputActivity} (ha : a.isFatal = false)
    (htaken : takenBytes [a] = first) (h : Tries rest activity fault) :
    Tries (first ++ rest) (a :: activity) fault := by
  have hfirst : Tries first [a] none := by
    refine ⟨htaken ▸ List.prefix_rfl, by simp [htaken], by simp, by simpa using ha, ?_⟩
    constructor
    · simp
    · rintro ⟨offered, hpipe⟩
      rw [List.mem_singleton] at hpipe
      rw [← hpipe] at ha
      exact absurd ha (by simp [OutputActivity.isFatal])
  exact hfirst.append h

/-- A write that fails, and was not just interrupted, is the end. -/
theorem failed (hbytes : bytes ≠ []) (offered : Nat) {kind : FaultKind}
    (hkind : kind ≠ .interrupted) :
    Tries bytes [.writeFailed offered kind] (some (.ofKind kind)) where
  taken := List.nil_prefix
  done_iff := by
    constructor
    · simp
    · intro hall
      exact absurd hall.symm hbytes
  fatal := by simp
  fault_iff := by simpa [OutputActivity.isFatal] using hkind
  pipe_iff := by
    constructor
    · rintro ⟨f, hf, hkind⟩
      obtain rfl := Option.some.inj hf
      obtain rfl : kind = .brokenPipe := hkind
      exact ⟨offered, List.mem_singleton_self _⟩
    -- The one activity is this failure, so a broken pipe is the kind of it.
    · rintro ⟨offered', hpipe⟩
      rw [List.mem_singleton, OutputActivity.writeFailed.injEq] at hpipe
      exact ⟨_, rfl, hpipe.2.symm⟩

/-- So is a write that takes nothing. -/
theorem refused (hbytes : bytes ≠ []) (offered : Nat) :
    Tries bytes [.wrote offered []] (Reporter.faultOf .refused) where
  taken := List.nil_prefix
  done_iff := by
    constructor
    · simp [Reporter.faultOf]
    · intro hall
      exact absurd hall.symm hbytes
  fatal := by simp
  fault_iff := by simp [Reporter.faultOf, OutputActivity.isFatal]
  pipe_iff := by simp [Reporter.faultOf, Fault.withText]

/-- Behind something fatal nothing happens, and there was a fault. -/
theorem of_fatal (h : Tries bytes activity fault) {before after : List OutputActivity}
    {a : OutputActivity} (hactivity : activity = before ++ a :: after) (ha : a.isFatal = true) :
    fault.isSome = true ∧ after = [] := by
  subst hactivity
  constructor
  · exact h.fault_iff.2 ⟨a, by simp, ha⟩
  · rcases List.eq_nil_or_concat' after with rfl | ⟨front, last, rfl⟩
    · rfl
    · have hfront : (before ++ a :: (front ++ [last])).dropLast = before ++ a :: front := by
        rw [← List.cons_append, ← List.append_assoc, List.dropLast_concat]
      have hquiet := h.fatal a (by simp [hfront])
      exact absurd (hquiet.symm.trans ha) (by simp)

end Tries

namespace OutputStream

/-- Writing without a script takes a front of the bytes, as far as there is room, and fails behind
it. -/
theorem tries_writeUnscripted (flushes : List (Option FaultKind)) (room : Room) {bytes : Bytes}
    (hbytes : bytes ≠ []) :
    Tries bytes (writeUnscripted flushes room bytes).activity
      (Reporter.faultOf (writeUnscripted flushes room bytes).result) := by
  have hall : ∀ {taken : Bytes}, taken ≠ [] → ∀ offered,
      OutputActivity.isFatal (.wrote offered taken) = false := by
    intro taken htaken offered
    simpa [OutputActivity.isFatal] using htaken
  -- With room for all of them, one write takes the bytes as they are.
  have hdone := Tries.nil.cons (hall hbytes bytes.length) (List.append_nil bytes)
  rw [List.append_nil] at hdone
  unfold writeUnscripted
  cases room with
  | unlimited => exact hdone
  | limited left kind final =>
    dsimp only
    split
    · exact hdone
    · next hlong =>
      split
      · exact .failed hbytes _ final
      · next hleft =>
        -- The stream takes as much as it has room for, and then fails.
        have hrest : bytes.drop left ≠ [] := by
          rw [ne_eq, List.drop_eq_nil_iff]
          exact hlong
        have htaken : bytes.take left ≠ [] := by
          rw [ne_eq, List.take_eq_nil_iff, not_or]
          exact ⟨hleft, hbytes⟩
        have hshort := (Tries.failed hrest (bytes.length - left) final).cons
          (hall htaken bytes.length) (List.append_nil _)
        rwa [List.take_append_drop] at hshort

/-- **What comes of writing bytes** to a stream that may do anything. -/
theorem tries_writeAll (s : OutputStream) (bytes : Bytes) :
    Tries bytes (s.writeAll bytes).activity (Reporter.faultOf (s.writeAll bytes).result) := by
  rcases s with ⟨writes, flushes, room⟩
  unfold writeAll
  dsimp only
  fun_induction writeScripted flushes room writes bytes with
  | case1 steps => exact .nil
  | case2 bytes hbytes => exact tries_writeUnscripted flushes room hbytes
  | case3 bytes hbytes rest => exact .refused hbytes bytes.length
  -- Some of the bytes are taken, and the rest is written behind them.
  | case4 bytes hbytes most rest hmost ih =>
    have htaken : OutputActivity.isFatal (.wrote bytes.length (bytes.take most)) = false := by
      simpa [OutputActivity.isFatal, hmost] using hbytes
    have hwrote := ih.cons htaken (List.append_nil _)
    rwa [List.take_append_drop] at hwrote
  | case5 bytes hbytes rest ih =>
    exact ih.cons (a := .writeFailed bytes.length .interrupted) rfl rfl
  | case6 bytes hbytes kind rest hkind => exact .failed hbytes bytes.length hkind

end OutputStream

/-! ## What does not depend on the stream -/

/-- The name under which a value is told. -/
def SinkCall.name? : SinkCall → Option String
  | .debugValue name _ => some name
  | .record _ => none

/-- The names of a record's debug values. -/
def Telemetry.debugNames : Telemetry → List String
  | .debug r => (r.packages.toList.map DebugSlot.label).filter (· ≠ "")
  | _ => []

/-- The name that an event announces. -/
def LogEvent.channel? : LogEvent → Option String
  | .channelFound name => some name
  | _ => none

/-- The values of a report are told under its names. -/
theorem Telemetry.filterMap_name?_sinkCalls (t : Telemetry) :
    t.sinkCalls.filterMap SinkCall.name? = t.debugNames := by
  cases t with
  | debug r =>
    rw [sinkCalls_debug, debugNames, DebugReport.namedValues, List.filterMap_map]
    induction r.packages.toList with
    | nil => rfl
    | cons slot slots ih =>
      rw [List.map_cons, List.map_cons]
      by_cases hlabel : slot.label = ""
      · rw [List.filter_cons_of_neg (by simp [hlabel]), List.filter_cons_of_neg (by simp [hlabel])]
        exact ih
      · rw [List.filter_cons_of_pos (by simpa using hlabel),
          List.filter_cons_of_pos (by simpa using hlabel), List.filterMap_cons, ih]
        rfl
  | _ => rfl

/-- A report is told value by value, and any other record as a whole. Each value of a report has a
name, so none is lost when their names are taken. -/
theorem Telemetry.length_sinkCalls (t : Telemetry) :
    t.sinkCalls.length = (if t.kind = .debug then 0 else 1) + t.debugNames.length := by
  cases t with
  | debug r =>
    have hall : r.namedValues.filterMap
        (fun v => SinkCall.name? (.debugValue v.1 v.2)) = r.namedValues.map Prod.fst := by
      rw [← List.filterMap_eq_map]
      rfl
    rw [← filterMap_name?_sinkCalls, sinkCalls_debug, List.filterMap_map]
    show _ = 0 + (r.namedValues.filterMap fun v => SinkCall.name? (.debugValue v.1 v.2)).length
    rw [hall, List.length_map, List.length_map, Nat.zero_add]
  | _ => rfl

namespace Reporter

variable {r : Reporter} {bytes : Bytes}

/-- What a sink is told for records, each with the time it was received at. -/
def timedCalls (received : List (String × Telemetry)) : List (String × SinkCall) :=
  received.flatMap fun x => x.2.sinkCalls.map (x.1, ·)

/-- Report what a sink is told in turn. -/
def acceptAll (r : Reporter) (calls : List (String × SinkCall)) : Reporter :=
  calls.foldl (fun r x => r.accept x.1 x.2) r

/-- The names under which values are told, in turn. -/
def namesOf (calls : List (String × SinkCall)) : List String :=
  calls.filterMap fun x => x.2.name?

/-- What is reported for records is what a sink is told of them. -/
theorem dispatchAll_eq (r : Reporter) (received : List (String × Telemetry)) :
    r.dispatchAll received = r.acceptAll (timedCalls received) := by
  unfold dispatchAll acceptAll timedCalls
  rw [List.foldl_flatMap]
  congr 1
  funext r x
  rw [dispatch_eq_foldl, List.foldl_map]

theorem acceptAll_append (r : Reporter) (calls later : List (String × SinkCall)) :
    r.acceptAll (calls ++ later) = (r.acceptAll calls).acceptAll later :=
  List.foldl_append

/-- The names that a sink is called with are those of the debug values, in order. -/
theorem namesOf_timedCalls (received : List (String × Telemetry)) :
    namesOf (timedCalls received) = received.flatMap fun x => x.2.debugNames := by
  rw [namesOf, timedCalls, List.filterMap_flatMap]
  congr 1
  funext x
  rw [List.filterMap_map, ← x.2.filterMap_name?_sinkCalls]
  rfl

/-- There is one call for each record that is no debug report, and one for each name. -/
theorem length_timedCalls (received : List (String × Telemetry)) :
    (timedCalls received).length = received.countP (fun x => x.2.kind ≠ .debug) +
      (received.flatMap fun x => x.2.debugNames).length := by
  unfold timedCalls
  induction received with
  | nil => rfl
  | cons x received ih =>
    rw [List.flatMap_cons, List.flatMap_cons, List.length_append, List.length_append, ih,
      List.length_map, x.2.length_sinkCalls, List.countP_cons]
    by_cases hkind : x.2.kind = .debug
    · simp only [hkind, ne_eq, not_true_eq_false, decide_false, Bool.false_eq_true, if_true,
        if_false]
      omega
    · simp only [hkind, ne_eq, not_false_eq_true, decide_true, if_true, if_false]
      omega

/-! ### Names -/

theorem mem_insertName {name name' : String} {names : List String} :
    name' ∈ insertName name names ↔ name' = name ∨ name' ∈ names := by
  induction names with
  | nil => simp [insertName]
  | cons n names ih =>
    rw [insertName]
    split
    · rw [List.mem_cons]
    · rw [List.mem_cons, ih, List.mem_cons]
      exact or_left_comm

/-- Sorted names stay so when a new one is inserted. The names are compared from the front, and the
new one stops at the first that is greater. -/
theorem pairwise_insertName {name : String} {names : List String}
    (hsorted : names.Pairwise (· < ·)) (hnew : name ∉ names) :
    (insertName name names).Pairwise (· < ·) := by
  induction names with
  | nil => exact List.pairwise_singleton _ _
  | cons n names ih =>
    obtain ⟨hfirst, hrest⟩ := List.pairwise_cons.1 hsorted
    rw [List.mem_cons, not_or] at hnew
    rw [insertName]
    split
    · next hless =>
      refine List.pairwise_cons.2 ⟨fun name' hname' => ?_, hsorted⟩
      rcases List.mem_cons.1 hname' with rfl | hname'
      · exact hless
      · exact lt_trans hless (hfirst name' hname')
    · next hless =>
      refine List.pairwise_cons.2 ⟨fun name' hname' => ?_, ih hrest hnew.2⟩
      rcases mem_insertName.1 hname' with rfl | hname'
      · exact lt_of_le_of_ne (not_lt.1 hless) (Ne.symm hnew.1)
      · exact hfirst name' hname'

/-- `r.Noted calls`: the calls are counted, their names are noted, and each is announced. -/
structure Noted (r : Reporter) (calls : List (String × SinkCall)) : Prop where
  records : r.records = calls.length
  names : ∀ name, name ∈ r.names ↔ name ∈ namesOf calls
  sorted : r.names.Pairwise (· < ·)
  announced : r.log.filterMap LogEvent.channel? = (namesOf calls).eraseDups

/-! ### Lines -/

/-- Bytes are offered behind what was offered before. -/
theorem write_spec (r : Reporter) (bytes : Bytes) :
    ∃ stream activity,
      (r.write bytes).2 = { r with stream, activity := r.activity ++ activity } ∧
        Tries bytes activity (r.write bytes).1 :=
  ⟨_, _, rfl, r.stream.tries_writeAll bytes⟩

/-- So is a line, and if its text fails, the line feed is not offered. -/
theorem writeLine_spec (r : Reporter) (text : String) :
    ∃ stream activity,
      (r.writeLine text).2 = { r with stream, activity := r.activity ++ activity } ∧
        Tries (lineBytes text) activity (r.writeLine text).1 := by
  obtain ⟨stream, first, hfirst, htext⟩ := r.write_spec (Text.Utf8.encode text.toList)
  unfold writeLine
  rcases hresult : r.write (Text.Utf8.encode text.toList) with ⟨_ | f, r'⟩
  · rw [hresult] at hfirst htext
    obtain ⟨stream', second, hsecond, hfeed⟩ := r'.write_spec (Text.Utf8.encode ['\n'])
    refine ⟨stream', first ++ second, ?_, htext.append hfeed⟩
    dsimp only at hfirst ⊢
    rw [hsecond, hfirst, List.append_assoc]
  · rw [hresult] at hfirst htext
    exact ⟨stream, first, hfirst, htext.of_failed _⟩

/-- **What comes of a line**: it is offered behind what was offered before, and a fault is noted,
logged, and clears the flag if it is a broken pipe. -/
theorem emit_spec (r : Reporter) (text : String) :
    ∃ stream activity fault, Tries (lineBytes text) activity fault ∧
      r.emit text = { r with
        stream
        activity := r.activity ++ activity
        writeFailed := r.writeFailed || fault.isSome
        running := r.running && !fault.any (·.kind == .brokenPipe)
        log := r.log ++ fault.toList.map fun f => .outputFailed f.message } := by
  obtain ⟨stream, activity, hline, htries⟩ := r.writeLine_spec text
  unfold emit
  rcases hresult : r.writeLine text with ⟨_ | f, r'⟩
  · rw [hresult] at hline htries
    obtain rfl : r' = _ := hline
    exact ⟨stream, activity, none, htries, by simp⟩
  · rw [hresult] at hline htries
    obtain rfl : r' = _ := hline
    exact ⟨stream, activity, some f, htries, by simp [bne]⟩

/-- `r.Emits bytes`: `bytes` were offered to the stream, and the reporter has taken note of what
came of it. -/
def Emits (r : Reporter) (bytes : Bytes) : Prop :=
  ∃ fault, Tries bytes r.activity fault ∧ r.writeFailed = fault.isSome ∧
    r.running = !fault.any (·.kind == .brokenPipe)

theorem emits_make (format : OutputFormat) (stream : OutputStream) :
    (make format stream).Emits [] :=
  ⟨none, .nil, rfl, rfl⟩

/-- A text is offered as a line, unless a line has failed before. -/
theorem Emits.report (h : r.Emits bytes) (text : String) :
    (r.report text).Emits (bytes ++ lineBytes text) := by
  obtain ⟨fault, htries, hfailed, hrunning⟩ := h
  unfold Reporter.report
  dsimp only
  rcases fault with _ | f
  · obtain ⟨stream, activity, fault, hline, hemit⟩ :=
      emit_spec { r with records := r.records + 1 } text
    rw [if_neg (by simp [hfailed]), hemit]
    exact ⟨fault, htries.append hline, by simp [hfailed], by simp [hrunning]⟩
  · rw [if_pos (by simp [hfailed])]
    exact ⟨some f, htries.of_failed _, hfailed, hrunning⟩

/-- A report counts, and whatever comes of it, nothing is noted or announced. -/
theorem report_frame (r : Reporter) (text : String) :
    (r.report text).format = r.format ∧ (r.report text).records = r.records + 1 ∧
      (r.report text).names = r.names ∧
      (r.report text).log.filterMap LogEvent.channel? = r.log.filterMap LogEvent.channel? := by
  unfold report
  dsimp only
  split
  · exact ⟨rfl, rfl, rfl, rfl⟩
  · obtain ⟨stream, activity, fault, -, hemit⟩ := emit_spec { r with records := r.records + 1 } text
    rw [hemit]
    refine ⟨rfl, rfl, rfl, ?_⟩
    dsimp only
    rw [List.filterMap_append]
    rcases fault with _ | f
    · exact List.append_nil _
    · exact List.append_nil _

/-! ### Runs -/

theorem noted_make (format : OutputFormat) (stream : OutputStream) :
    (make format stream).Noted [] where
  records := rfl
  names := by simp [make, namesOf]
  sorted := List.Pairwise.nil
  announced := rfl

/-- A name that is new is inserted and announced, and one that is not is left. -/
theorem noteName_cases (r : Reporter) (name : String) :
    (name ∈ r.names ∧ r.noteName name = r) ∨
      name ∉ r.names ∧ r.noteName name = { r with
        names := insertName name r.names
        log := r.log ++ [.channelFound name] } := by
  unfold noteName
  split
  · next hknown => exact .inl ⟨List.contains_iff_mem.1 hknown, rfl⟩
  · next hnew => exact .inr ⟨fun hknown => hnew (List.contains_iff_mem.2 hknown), rfl⟩

variable {calls : List (String × SinkCall)}

theorem namesOf_append (calls later : List (String × SinkCall)) :
    namesOf (calls ++ later) = namesOf calls ++ namesOf later :=
  List.filterMap_append

/-- One more name is one more at the end, unless it was there before. -/
theorem eraseDups_append_singleton (names : List String) (name : String) :
    (names ++ [name]).eraseDups =
      if name ∈ names then names.eraseDups else names.eraseDups ++ [name] := by
  rw [List.eraseDups_append]
  split
  · next hknown =>
    have hnone : [name].removeAll names = [] := by simp [List.removeAll, hknown]
    rw [hnone, List.eraseDups_nil, List.append_nil]
  · next hnew =>
    have hone : [name].removeAll names = [name] := by simp [List.removeAll, hnew]
    rw [hone]
    rfl

/-- One more call counts one more and notes its name, if it has a new one.  Three of the four facts
do not depend on the case; only which names there are does. -/
theorem Noted.accept (h : r.Noted calls) (x : String × SinkCall) :
    (r.accept x.1 x.2).Noted (calls ++ [x]) := by
  obtain ⟨receivedAt, call⟩ := x
  cases call with
  | record t =>
    obtain ⟨-, hrecords, hnames, hannounced⟩ :=
      r.report_frame (Report.recordText r.format receivedAt t)
    have hsame : namesOf (calls ++ [(receivedAt, .record t)]) = namesOf calls := by
      rw [namesOf_append]
      exact List.append_nil _
    constructor
    · rw [List.length_append, ← h.records]
      exact hrecords
    · rw [hsame]
      exact fun name => (congrArg (name ∈ ·) hnames).to_iff.trans (h.names name)
    · exact hnames ▸ h.sorted
    · rw [hsame]
      exact hannounced.trans h.announced
  | debugValue name value =>
    have hnames : namesOf (calls ++ [(receivedAt, .debugValue name value)]) =
        namesOf calls ++ [name] := namesOf_append _ _
    obtain ⟨-, hrecords, hkept, hannounced⟩ := (r.noteName name).report_frame
      (Report.debugText r.format receivedAt name value)
    show (r.printDebug receivedAt name value).Noted _
    unfold printDebug
    -- A name that is known leaves the names as they are; a new one is inserted and announced.
    rcases r.noteName_cases name with ⟨hknown, hsame⟩ | ⟨hnew, hnoted⟩
    · rw [hsame] at hrecords hkept hannounced ⊢
      have hmem := (h.names name).1 hknown
      constructor
      · rw [List.length_append, ← h.records]
        exact hrecords
      · intro name'
        rw [hkept, h.names, hnames, List.mem_append, List.mem_singleton]
        constructor
        · exact .inl
        · rintro (hname' | rfl)
          · exact hname'
          · exact hmem
      · exact hkept ▸ h.sorted
      · rw [hannounced, h.announced, hnames, eraseDups_append_singleton, if_pos hmem]
    · have hmem : name ∉ namesOf calls := fun hmem => hnew ((h.names name).2 hmem)
      rw [hnoted] at hrecords hkept hannounced ⊢
      constructor
      · rw [List.length_append, ← h.records]
        exact hrecords
      · intro name'
        rw [hkept, mem_insertName, h.names, hnames, List.mem_append, List.mem_singleton]
        exact or_comm
      · exact hkept ▸ pairwise_insertName h.sorted hnew
      · rw [hannounced, hnames, eraseDups_append_singleton, if_neg hmem, List.filterMap_append,
          h.announced]
        rfl

/-- Noting a name has nothing to do with the stream. -/
theorem noteName_frame (r : Reporter) (name : String) :
    (r.noteName name).format = r.format ∧ (r.noteName name).activity = r.activity ∧
      (r.noteName name).writeFailed = r.writeFailed ∧ (r.noteName name).running = r.running := by
  unfold noteName
  split
  · exact ⟨rfl, rfl, rfl, rfl⟩
  · exact ⟨rfl, rfl, rfl, rfl⟩

theorem format_accept (r : Reporter) (receivedAt : String) (call : SinkCall) :
    (r.accept receivedAt call).format = r.format := by
  cases call with
  | record t => exact (r.report_frame _).1
  | debugValue name value =>
    exact ((r.noteName name).report_frame _).1.trans (r.noteName_frame name).1

/-- Each call is one more line. -/
theorem Emits.accept (h : r.Emits bytes) (receivedAt : String) (call : SinkCall) :
    (r.accept receivedAt call).Emits (bytes ++ lineBytes (callText r.format receivedAt call)) := by
  cases call with
  | record t => exact h.report _
  | debugValue name value =>
    obtain ⟨hformat, hactivity, hfailed, hrunning⟩ := r.noteName_frame name
    have hnoted : (r.noteName name).Emits bytes := by
      unfold Emits
      rw [hactivity, hfailed, hrunning]
      exact h
    have hreported :=
      hnoted.report (Report.debugText (r.noteName name).format receivedAt name value)
    rw [hformat] at hreported
    exact hreported

/-- After a failure nothing is asked of the stream. -/
theorem report_of_failed (hfailed : r.writeFailed = true) (text : String) :
    (r.report text).writeFailed = true ∧ (r.report text).activity = r.activity ∧
      (r.report text).running = r.running := by
  unfold report
  dsimp only
  rw [if_pos hfailed]
  exact ⟨hfailed, rfl, rfl⟩

/-- After a failure a call asks nothing of the stream. -/
theorem accept_of_failed (hfailed : r.writeFailed = true) (receivedAt : String) (call : SinkCall) :
    (r.accept receivedAt call).writeFailed = true ∧
      (r.accept receivedAt call).activity = r.activity ∧
      (r.accept receivedAt call).running = r.running := by
  cases call with
  | record t => exact report_of_failed hfailed _
  | debugValue name value =>
    obtain ⟨-, hactivity, hfailed', hrunning⟩ := r.noteName_frame name
    obtain ⟨hstill, hactivity', hrunning'⟩ := report_of_failed (hfailed'.trans hfailed)
      (Report.debugText (r.noteName name).format receivedAt name value)
    rw [(r.noteName_frame name).1] at hstill hactivity' hrunning'
    exact ⟨hstill, hactivity'.trans hactivity, hrunning'.trans hrunning⟩

/-- After a failure no calls ask anything of the stream. -/
theorem acceptAll_of_failed (hfailed : r.writeFailed = true) (calls : List (String × SinkCall)) :
    (r.acceptAll calls).writeFailed = true ∧ (r.acceptAll calls).activity = r.activity ∧
      (r.acceptAll calls).running = r.running := by
  induction calls generalizing r with
  | nil => exact ⟨hfailed, rfl, rfl⟩
  | cons x calls ih =>
    obtain ⟨hstill, hactivity, hrunning⟩ := accept_of_failed hfailed x.1 x.2
    obtain ⟨hend, hactivity', hrunning'⟩ := ih hstill
    exact ⟨hend, hactivity'.trans hactivity, hrunning'.trans hrunning⟩

/-- The lines of what a sink is told. -/
def linesOf (format : OutputFormat) (calls : List (String × SinkCall)) : Bytes :=
  calls.flatMap fun x => lineBytes (callText format x.1 x.2)

/-- **Behind any calls**, on any stream, all lines were offered and all calls counted and noted.
From the last call on, since a reporter is what the calls before have made of it. -/
theorem acceptAll_make (format : OutputFormat) (stream : OutputStream)
    (calls : List (String × SinkCall)) :
    let r := (make format stream).acceptAll calls
    r.format = format ∧ r.Emits (linesOf format calls) ∧ r.Noted calls := by
  induction calls using List.reverseRecOn with
  | nil => exact ⟨rfl, emits_make format stream, noted_make format stream⟩
  | append_singleton calls x ih =>
    obtain ⟨hformat, hemits, hnoted⟩ := ih
    have hlast := hemits.accept x.1 x.2
    rw [hformat] at hlast
    dsimp only at hlast ⊢
    rw [acceptAll_append]
    refine ⟨(format_accept _ _ _).trans hformat, ?_, hnoted.accept x⟩
    rw [linesOf, List.flatMap_append, List.flatMap_singleton]
    exact hlast

/-- The texts of all records, as lines, are the lines of all calls. -/
theorem lines_textsOf (format : OutputFormat) (received : List (String × Telemetry)) :
    (textsOf format received).flatMap lineBytes = linesOf format (timedCalls received) := by
  rw [textsOf, linesOf, timedCalls, List.flatMap_assoc, List.flatMap_assoc]
  congr 1
  funext x
  rw [List.flatMap_map, List.flatMap_map]

/-- **A failure stops the output, and nothing else.** Let records be reported in any format to a
stream that may do anything.  All records are counted, each value of a debug report that has a name
as one.  A stream without faults takes the lines of all texts; the stream takes the first bytes of
these, and all of them exactly if no line failed.  A line has failed exactly if some write took
nothing, or failed and was not just interrupted, and that write is the last thing that was asked of
the stream.  Once a line has failed, also within a debug report, this stands and nothing more is
asked of the stream.  The flag that keeps the program running is cleared exactly by a broken pipe.
The names that were noted are those of all values, and up to any value each name was announced once,
in the order in which the names came first. -/
theorem failure_stops_only_output (format : OutputFormat) (stream : OutputStream)
    (received : List (String × Telemetry)) :
    let r := (make format stream).dispatchAll received
    let whole := (make format .unlimited).dispatchAll received
    r.records = received.countP (fun x => x.2.kind ≠ .debug) +
        (received.flatMap fun x => x.2.debugNames).length ∧
      takenBytes whole.activity = (textsOf format received).flatMap lineBytes ∧
      takenBytes r.activity <+: takenBytes whole.activity ∧
      (r.writeFailed = false ↔ takenBytes r.activity = takenBytes whole.activity) ∧
      (∀ before a after, r.activity = before ++ a :: after → a.isFatal = true →
        r.writeFailed = true ∧ after = []) ∧
      (r.writeFailed = true ↔ ∃ a ∈ r.activity, a.isFatal = true) ∧
      (∀ calls later, timedCalls received = calls ++ later →
        ((make format stream).acceptAll calls).writeFailed = true →
          r.writeFailed = true ∧ r.activity = ((make format stream).acceptAll calls).activity ∧
            r.running = ((make format stream).acceptAll calls).running) ∧
      (r.running = false ↔ ∃ offered, .writeFailed offered .brokenPipe ∈ r.activity) ∧
      (∀ name, name ∈ r.names ↔ name ∈ received.flatMap fun x => x.2.debugNames) ∧
      r.names.Pairwise (· < ·) ∧
      ∀ calls later, timedCalls received = calls ++ later →
        ((make format stream).acceptAll calls).log.filterMap LogEvent.channel? =
          (namesOf calls).eraseDups := by
  have hwhole : takenBytes ((make format .unlimited).dispatchAll received).activity =
      (textsOf format received).flatMap lineBytes := (wrote_dispatchAll format received).written
  dsimp only
  rw [hwhole, lines_textsOf, dispatchAll_eq]
  obtain ⟨-, ⟨fault, htries, hfailed, hrunning⟩, hnoted⟩ :=
    acceptAll_make format stream (timedCalls received)
  refine ⟨hnoted.records.trans (length_timedCalls received), rfl, htries.taken, ?_, ?_, ?_, ?_, ?_,
    ?_, hnoted.sorted, fun calls later _ => (acceptAll_make format stream calls).2.2.announced⟩
  -- A line has failed if there was a fault, and without one everything was taken.
  · rw [hfailed, ← htries.done_iff]
    cases fault <;> simp
  -- A fatal write is the last one, since nothing is asked of the stream behind it.
  · intro before a after hactivity hfatal
    obtain ⟨hfault, hlast⟩ := htries.of_fatal hactivity hfatal
    exact ⟨hfailed.trans hfault, hlast⟩
  · rw [hfailed]
    exact htries.fault_iff
  -- Calls are cut anywhere, also within the values of one report.
  · intro calls later hcalls hstopped
    rw [hcalls, acceptAll_append]
    exact acceptAll_of_failed hstopped later
  -- Only the fault of a broken pipe clears the flag.
  · rw [hrunning, ← htries.pipe_iff]
    rcases fault with _ | f
    · simp
    · simp
  · intro name
    rw [← namesOf_timedCalls]
    exact hnoted.names name

end Reporter

end ControllerLink
