/-
# One line for each record

A reporter on a stream that takes everything writes the text of each value or
record that it is told of, with a line feed behind it, and counts it.  Such a
text is always one line of JSON.  In the pretty format it is one line unless a
line feed stands in the name of a debug value, for that name is written as it is.

`Reporter.Wrote` is kept by every call of a sink: the stream has taken the lines
of some texts, and as many texts are counted. Everything about line feeds is
then arithmetic on texts, since a line feed in UTF-8 is one byte that stands for
nothing else (`Text.count_lineBytes`). In JSON no text has one because strings
are escaped; in the pretty format the only text that is put in as it came is the
name of a debug value, whose bytes are those of the record
(`DebugSlot.feeds_label`).
-/
import ControllerLink.Proofs.Offering
import ControllerLink.Proofs.PlainText
import ControllerLink.Report.Reporter

set_option autoImplicit false

namespace ControllerLink

open Text (Plain plain_append)

/-! ## Lines -/

namespace Text

/-- A text and the line feed behind it, as bytes. -/
def lineBytes (s : String) : Bytes :=
  Utf8.encode s.toList ++ [0x0a]

/-- The line feeds in a text. -/
def feeds (s : String) : Nat :=
  s.toList.count '\n'

/-- Text without control characters has no line feed. -/
theorem Plain.feeds_eq_zero {s : String} (h : Plain s.toList) : feeds s = 0 := by
  rw [feeds, List.count_eq_zero]
  intro hfeed
  exact absurd (h _ hfeed) (by decide)

theorem feeds_append (s t : String) : feeds (s ++ t) = feeds s + feeds t := by
  rw [feeds, String.toList_append, List.count_append, feeds, feeds]

/-- A line has the line feeds of its text, and one at its end. -/
theorem count_lineBytes (s : String) : (lineBytes s).count 0x0a = feeds s + 1 := by
  have hfeed : (Utf8.encode s.toList).count 0x0a = feeds s :=
    Utf8.count_encode (show '\n'.toNat < 0x80 by decide) s.toList
  rw [lineBytes, List.count_append, hfeed]
  rfl

/-- There is one line feed for each text, and those in the texts. -/
theorem count_flatMap_lineBytes (texts : List String) :
    (texts.flatMap lineBytes).count 0x0a = texts.length + (texts.map feeds).sum := by
  induction texts with
  | nil => rfl
  | cons s texts ih =>
    rw [List.flatMap_cons, List.count_append, count_lineBytes, ih, List.length_cons, List.map_cons,
      List.sum_cons]
    omega

/-- Lines end in a line feed, if there are any. -/
theorem getLast?_flatMap_lineBytes {texts : List String} (h : texts ≠ []) :
    (texts.flatMap lineBytes).getLast? = some 0x0a := by
  rw [← List.dropLast_concat_getLast h, List.flatMap_append, List.flatMap_singleton, lineBytes,
    ← List.append_assoc, List.getLast?_concat]

/-- The only control character in the line of a plain text is the line feed. -/
theorem eq_feed_of_mem_lineBytes {s : String} (h : Plain s.toList) {b : UInt8}
    (hb : b ∈ lineBytes s) (hcontrol : b < 0x20) : b = 0x0a := by
  rw [UInt8.lt_iff_toNat_lt] at hcontrol
  have hlow : b.toNat < 0x20 := hcontrol
  rcases List.mem_append.1 hb with hb | hb
  · obtain ⟨c, hc, hbc⟩ := List.mem_flatMap.1 hb
    have hnumber := Utf8.toNat_eq_of_mem_encodeChar hbc (by omega)
    have hplain := h c hc
    omega
  · exact List.mem_singleton.1 hb

end Text

open Text (lineBytes feeds feeds_append)

/-! ## Names of debug values -/

/-- The bytes of the names of a record's debug values. -/
def Telemetry.nameBytes : Telemetry → Bytes
  | .debug r => r.packages.toList.flatMap DebugSlot.nameBytes
  | _ => []

/-- A line feed is in a name as text exactly where its byte is in the name. -/
theorem DebugSlot.feeds_label (s : DebugSlot) : feeds s.label = s.nameBytes.count 0x0a := by
  rw [feeds, label, String.toList_ofList]
  exact Text.Utf8.count_decodeLossy (show '\n'.toNat < 0x80 by decide) s.nameBytes

/-- No line feed is in the names that are left out. A slot without a name is left out, and an empty
name has no line feed. -/
theorem DebugReport.sum_feeds_namedValues (r : DebugReport) :
    (r.namedValues.map fun v => feeds v.1).sum =
      (r.packages.toList.flatMap DebugSlot.nameBytes).count 0x0a := by
  unfold namedValues
  induction r.packages.toList with
  | nil => rfl
  | cons s slots ih =>
    rw [List.flatMap_cons, List.count_append, ← s.feeds_label, ← ih, List.map_cons]
    by_cases hname : s.label = ""
    · rw [List.filter_cons_of_neg (by simp [hname]), hname]
      exact (Nat.zero_add _).symm
    · rw [List.filter_cons_of_pos (by simpa using hname), List.map_cons, List.sum_cons]

/-! ## What a reporter writes -/

namespace Reporter

variable {r : Reporter} {texts : List String}

/-- The text of what a sink is told. -/
def callText (format : OutputFormat) (receivedAt : String) : SinkCall → String
  | .debugValue name value => Report.debugText format receivedAt name value
  | .record t => Report.recordText format receivedAt t

/-- Report records the way a sink is told of them, each with the time it was received at. -/
def dispatchAll (r : Reporter) (received : List (String × Telemetry)) : Reporter :=
  received.foldl (fun r x => r.dispatch x.1 x.2) r

/-- The texts of records. -/
def textsOf (format : OutputFormat) (received : List (String × Telemetry)) : List String :=
  received.flatMap fun x => x.2.sinkCalls.map (callText format x.1)

/-- `r.Wrote texts`: the stream takes everything, and it has taken the lines of `texts`. -/
structure Wrote (r : Reporter) (texts : List String) : Prop where
  stream : r.stream = .unlimited
  works : r.writeFailed = false
  written : takenBytes r.activity = texts.flatMap lineBytes
  records : r.records = texts.length

theorem wrote_make (format : OutputFormat) : (make format .unlimited).Wrote [] :=
  ⟨rfl, rfl, rfl, rfl⟩

/-- A stream that takes everything takes what is written. -/
theorem write_unlimited (hr : r.stream = .unlimited) (bytes : Bytes) :
    ∃ activity, r.write bytes = (none, { r with activity := r.activity ++ activity }) ∧
      takenBytes activity = bytes := by
  rcases r with ⟨format, stream, activity, names, records, writeFailed, running, log⟩
  subst hr
  by_cases hbytes : bytes = []
  · subst hbytes
    exact ⟨[], rfl, rfl⟩
  · refine ⟨[.wrote bytes.length bytes], ?_, List.append_nil bytes⟩
    unfold write OutputStream.writeAll OutputStream.unlimited
    rw [OutputStream.writeScripted, if_neg hbytes]
    rfl

/-- On a stream that takes everything a line is written as a whole, and nothing fails. -/
theorem emit_unlimited (hr : r.stream = .unlimited) (text : String) :
    ∃ activity, r.emit text = { r with activity := r.activity ++ activity } ∧
      takenBytes activity = lineBytes text := by
  obtain ⟨first, hfirst, htext⟩ := write_unlimited hr (Text.Utf8.encode text.toList)
  obtain ⟨second, hsecond, hfeed⟩ :=
    @write_unlimited { r with activity := r.activity ++ first } hr (Text.Utf8.encode ['\n'])
  refine ⟨first ++ second, ?_, ?_⟩
  · unfold emit writeLine
    rw [hfirst]
    dsimp only
    rw [hsecond]
    dsimp only
    rw [List.append_assoc]
  · rw [takenBytes_append, htext, hfeed]
    rfl

/-- A text is reported as one more line. -/
theorem Wrote.report (h : r.Wrote texts) (text : String) :
    (r.report text).Wrote (texts ++ [text]) ∧ (r.report text).format = r.format := by
  obtain ⟨activity, hemit, htaken⟩ :=
    @emit_unlimited { r with records := r.records + 1 } h.stream text
  unfold Reporter.report
  dsimp only
  rw [if_neg (by simp [h.works]), hemit]
  refine ⟨⟨h.stream, h.works, ?_, ?_⟩, rfl⟩
  · rw [takenBytes_append, h.written, htaken, List.flatMap_append, List.flatMap_singleton]
  · rw [List.length_append, h.records]
    rfl

theorem Wrote.noteName (h : r.Wrote texts) (name : String) :
    (r.noteName name).Wrote texts ∧ (r.noteName name).format = r.format := by
  unfold Reporter.noteName
  split
  · exact ⟨h, rfl⟩
  · exact ⟨⟨h.stream, h.works, h.written, h.records⟩, rfl⟩

/-- Each call of a sink writes one text and counts one. -/
theorem Wrote.accept (h : r.Wrote texts) (receivedAt : String) (call : SinkCall) :
    (r.accept receivedAt call).Wrote (texts ++ [callText r.format receivedAt call]) ∧
      (r.accept receivedAt call).format = r.format := by
  cases call with
  | debugValue name value =>
    obtain ⟨hnoted, hformat⟩ := h.noteName name
    obtain ⟨hreported, hsame⟩ := hnoted.report (Report.debugText r.format receivedAt name value)
    exact ⟨hreported, hsame.trans hformat⟩
  | record t => exact h.report (Report.recordText r.format receivedAt t)

/-- A record writes the texts of all calls that it makes. The format stays, so that the texts can be
listed beforehand. -/
theorem Wrote.dispatch (h : r.Wrote texts) (receivedAt : String) (t : Telemetry) :
    (r.dispatch receivedAt t).Wrote (texts ++ t.sinkCalls.map (callText r.format receivedAt)) ∧
      (r.dispatch receivedAt t).format = r.format := by
  rw [Reporter.dispatch_eq_foldl]
  induction t.sinkCalls generalizing r texts with
  | nil => exact ⟨by simpa using h, rfl⟩
  | cons call calls ih =>
    obtain ⟨haccepted, hformat⟩ := h.accept receivedAt call
    obtain ⟨hrest, hsame⟩ := ih haccepted
    rw [hformat, List.append_assoc] at hrest
    exact ⟨hrest, hsame.trans hformat⟩

/-- Records in turn write the texts of all their calls. -/
theorem Wrote.dispatchAll (h : r.Wrote texts) (received : List (String × Telemetry)) :
    (r.dispatchAll received).Wrote (texts ++ textsOf r.format received) := by
  unfold Reporter.dispatchAll textsOf
  induction received generalizing r texts with
  | nil => simpa using h
  | cons x received ih =>
    obtain ⟨hdispatched, hformat⟩ := h.dispatch x.1 x.2
    have hrest := ih hdispatched
    rw [hformat, List.append_assoc] at hrest
    exact hrest

/-- **What is written for records**: the lines of their texts, one behind the other. -/
theorem wrote_dispatchAll (format : OutputFormat) (received : List (String × Telemetry)) :
    ((make format .unlimited).dispatchAll received).Wrote (textsOf format received) :=
  (wrote_make format).dispatchAll received

/-- There is one line feed for each count, and one more for each in a text. -/
theorem Wrote.count_feeds (h : r.Wrote texts) :
    (takenBytes r.activity).count 0x0a = r.records + (texts.map feeds).sum := by
  rw [h.written, Text.count_flatMap_lineBytes, h.records]

/-- Either nothing was written, or what was written ends in a line feed. -/
theorem Wrote.ends (h : r.Wrote texts) :
    takenBytes r.activity = [] ∨ (takenBytes r.activity).getLast? = some 0x0a := by
  rw [h.written]
  by_cases htexts : texts = []
  · rw [htexts]
    exact .inl rfl
  · exact .inr (Text.getLast?_flatMap_lineBytes htexts)

/-! ## Line feeds -/

/-- JSON has no control character: those of names and times are escaped. -/
theorem plain_callText_json (receivedAt : String) (call : SinkCall) :
    Plain (callText .json receivedAt call).toList := by
  cases call <;> exact Json.plain_render _

/-- So no text of a record in JSON has one. -/
theorem plain_textsOf_json (received : List (String × Telemetry)) :
    ∀ s ∈ textsOf .json received, Plain s.toList := by
  intro s hs
  obtain ⟨x, -, hs⟩ := List.mem_flatMap.1 hs
  obtain ⟨call, -, rfl⟩ := List.mem_map.1 hs
  exact plain_callText_json x.1 call

/-- The line of a debug value has the line feeds of its name. -/
theorem feeds_debugText_pretty (receivedAt name : String) (value : Single) :
    feeds (Report.debugText .pretty receivedAt name value) = feeds name := by
  have hword : feeds "debug " = 0 := by decide
  have hsign : feeds "=" = 0 := by decide
  rw [Report.debugText, feeds_append, feeds_append, feeds_append, hword, hsign,
    value.plain_text.feeds_eq_zero, Nat.zero_add, Nat.add_zero]

/-- A pretty record has no line feed, for all its fields are plain. -/
theorem feeds_recordText_pretty (receivedAt : String) (t : Telemetry) :
    feeds (Report.recordText .pretty receivedAt t) = 0 :=
  (Report.plain_fieldLine t.kind.plain_name (Report.plain_recordFields t)).feeds_eq_zero

/-- The lines of a record have the line feeds of its names. -/
theorem sum_feeds_sinkCalls (receivedAt : String) (t : Telemetry) :
    ((t.sinkCalls.map (callText .pretty receivedAt)).map feeds).sum = t.nameBytes.count 0x0a := by
  cases t with
  | debug r =>
    rw [Telemetry.sinkCalls_debug, Telemetry.nameBytes, ← r.sum_feeds_namedValues, List.map_map,
      List.map_map]
    congr 1
    exact List.map_congr_left fun v _ => feeds_debugText_pretty receivedAt v.1 v.2
  | _ => exact Nat.add_zero _ |>.trans (feeds_recordText_pretty receivedAt _)

/-- All line feeds in pretty texts stand in the names of debug values. -/
theorem sum_feeds_textsOf_pretty (received : List (String × Telemetry)) :
    ((textsOf .pretty received).map feeds).sum =
      (received.flatMap fun x => x.2.nameBytes).count 0x0a := by
  unfold textsOf
  induction received with
  | nil => rfl
  | cons x received ih =>
    rw [List.flatMap_cons, List.map_append, List.sum_append, sum_feeds_sinkCalls, ih,
      List.flatMap_cons, List.count_append]

/-- **One line for each record.** Whatever records are reported to a stream that takes everything,
there are just as many line feeds in JSON as values and records were counted, the last at the end,
and no other control character. In the pretty format the output ends in a line feed as well, but
there are more of them than records if there are any in the names of debug values: just as many
more. -/
theorem one_line_for_each_record (received : List (String × Telemetry)) :
    let json := (make .json .unlimited).dispatchAll received
    let pretty := (make .pretty .unlimited).dispatchAll received
    ((takenBytes json.activity).count 0x0a = json.records ∧
        (takenBytes json.activity = [] ∨ (takenBytes json.activity).getLast? = some 0x0a) ∧
        ∀ b ∈ takenBytes json.activity, b < 0x20 → b = 0x0a) ∧
      (takenBytes pretty.activity).count 0x0a =
          pretty.records + (received.flatMap fun x => x.2.nameBytes).count 0x0a ∧
        (takenBytes pretty.activity = [] ∨ (takenBytes pretty.activity).getLast? = some 0x0a) := by
  have hjson := wrote_dispatchAll .json received
  have hpretty := wrote_dispatchAll .pretty received
  have hplain := plain_textsOf_json received
  refine ⟨⟨?_, hjson.ends, ?_⟩, ?_, hpretty.ends⟩
  · have hnone : ((textsOf .json received).map feeds).sum = 0 := by
      rw [List.sum_eq_zero_iff_forall_eq_nat, List.forall_mem_map]
      exact fun s hs => (hplain s hs).feeds_eq_zero
    rw [hjson.count_feeds, hnone, Nat.add_zero]
  -- A control character is in some line, and can only be the feed at its end.
  · intro b hb hcontrol
    rw [hjson.written] at hb
    obtain ⟨s, hs, hb⟩ := List.mem_flatMap.1 hb
    exact Text.eq_feed_of_mem_lineBytes (hplain s hs) hb hcontrol
  · rw [hpretty.count_feeds, sum_feeds_textsOf_pretty]

/-- A debug report whose only value has the name `a`, line feed, `b`. -/
def splitReport : Telemetry :=
  .debug ⟨0, Vector.ofFn fun i =>
    if i = 0 then ⟨DebugSlot.nameOfBytes [0x61, 0x0a, 0x62], 0, ⟨0x3f800000⟩⟩
    else .make "" ⟨0⟩⟩

/-- One value is counted, but written as two lines. -/
theorem two_lines_for_splitReport :
    let r := (make .pretty .unlimited).dispatchAll [("", splitReport)]
    r.records = 1 ∧ takenBytes r.activity = Text.Utf8.encode "debug a\nb=1\n".toList ∧
      (takenBytes r.activity).count 0x0a = 2 := by
  decide +kernel

end Reporter

end ControllerLink
