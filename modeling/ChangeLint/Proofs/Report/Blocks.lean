import ChangeLint.Engine
import ChangeLint.Proofs.Attempts

/-! # What a report writes

A file that was checked adds a *block* to the report.  In the standard layout the block is one
line for each finding; in the grouped layout it is a heading and one line for each finding,
and empty if there is none.

* `Sink.after` is what becomes of a sink that takes some bytes.
* `Style.block` is the block of a file.
* `reportKept_fileFinished` says that the two calls that report a file write its block and
  then flush, and nothing else. -/

namespace ChangeLint.Report

/-! ## Section 1: Sinks with room -/

namespace Sink

/-- Is there room for the bytes? -/
def HasRoom (sink : Sink) (bytes : List UInt8) : Prop :=
  ∀ limit ∈ sink.limit, bytes.length ≤ limit.room

/-- The sink after it took the bytes. -/
def after (sink : Sink) (bytes : List UInt8) : Sink :=
  { sink with
    written := sink.written ++ bytes
    limit := sink.limit.map fun limit => { limit with room := limit.room - bytes.length } }

@[simp] theorem after_nil (sink : Sink) : sink.after [] = sink := by
  simp [after]

@[simp] theorem written_after (sink : Sink) (bytes : List UInt8) :
    (sink.after bytes).written = sink.written ++ bytes := rfl

@[simp] theorem flushFault_after (sink : Sink) (bytes : List UInt8) :
    (sink.after bytes).flushFault = sink.flushFault := rfl

/-- Bytes are taken one piece after the other. -/
theorem after_append (sink : Sink) (a b : List UInt8) :
    sink.after (a ++ b) = (sink.after a).after b := by
  simp [after, Nat.sub_sub, Function.comp_def]

theorem HasRoom.of_append_left {sink : Sink} {a b : List UInt8} (h : sink.HasRoom (a ++ b)) :
    sink.HasRoom a := by
  intro limit hl
  have := h limit hl
  rw [List.length_append] at this
  omega

theorem HasRoom.of_append_right {sink : Sink} {a b : List UInt8} (h : sink.HasRoom (a ++ b)) :
    (sink.after a).HasRoom b := by
  intro limit hl
  -- The limit that is left came from one that had room for both pieces.
  obtain ⟨before, hb, rfl⟩ := Option.map_eq_some_iff.mp hl
  have := h before hb
  rw [List.length_append] at this
  show b.length ≤ before.room - a.length
  omega

/-- A sink with room takes all bytes of a write. -/
theorem run_writeBytes_of_hasRoom {sink : Sink} {bytes : List UInt8} (h : sink.HasRoom bytes) :
    (writeBytes bytes).run sink = ⟨.ok (), sink.after bytes, []⟩ := by
  obtain ⟨written, limit, fault⟩ := sink
  cases limit with
  | none => exact run_writeBytes_of_unlimited rfl bytes
  | some limit =>
    have hle : bytes.length ≤ limit.room := h limit rfl
    -- With room for all, what the sink takes is the whole of the bytes.
    have htake : bytes.take limit.room = bytes := List.take_of_length_le hle
    simp [writeBytes, Attempt.run, Attempt.mk, Act.run, ExceptT.run, ExceptT.mk, after, hle, htake]

theorem run_flush_of_none {sink : Sink} (h : sink.flushFault = none) :
    flush.run sink = ⟨.ok (), sink, []⟩ := by
  simp [flush, Attempt.run, Attempt.mk, Act.run, ExceptT.run, ExceptT.mk, h]

end Sink

/-! ## Section 2: Blocks -/

namespace Style

/-- The lines that a file adds to the report. -/
def block (style : Style) (file : String) (findings : List Finding) : List String :=
  match style.layout with
  | .standard => findings.map (standardLine style.theme)
  | .grouped =>
    if findings = [] then []
    else headingLine style.theme file :: findings.map (groupedLine style.theme)

/-- The bytes of some lines. -/
def bytesOf (lines : List String) : List UInt8 := lines.flatMap Text.Utf8.bytes

/-- Nothing of a block is written twice or left out: it is what is written for the findings
as they are kept, followed by what is written once the file is done. -/
theorem onKept_onFinished (style : Style) (file : String) (findings : List Finding) :
    findings.flatMap style.onKept ++ style.onFinished file findings
      = style.block file findings := by
  obtain ⟨theme, layout⟩ := style
  cases layout with
  | standard =>
    -- Every line is written as its finding is kept; nothing is left for the end.
    show findings.flatMap (fun finding => [standardLine theme finding]) ++ [] = _
    rw [List.append_nil, ← List.map_eq_flatMap]
    rfl
  -- The heading needs the findings to be known, so that all is written at the end.
  | grouped => cases findings <;> simp [onKept, onFinished, block]

/-- Lines are written one piece after the other. -/
theorem writeAll_append (a b : List String) :
    writeAll (a ++ b) = (do writeAll a; writeAll b) := by
  induction a with
  | nil => simp [writeAll]
  | cons line lines ih => simp [writeAll, ih]

/-- Findings that are reported as they are kept are lines that are written. -/
theorem reportKept_eq_writeAll (style : Style) (findings : List Finding) :
    Engine.reportKept style findings = writeAll (findings.flatMap style.onKept) := by
  induction findings with
  | nil => rfl
  | cons finding findings ih =>
    rw [List.flatMap_cons, writeAll_append, ← ih]
    rfl

/-- The two calls that report a file write its block and flush. -/
theorem reportKept_fileFinished (style : Style) (file : String) (findings : List Finding) :
    (do Engine.reportKept style findings; style.fileFinished file findings)
      = (do writeAll (style.block file findings); Sink.flush) := by
  rw [← onKept_onFinished, writeAll_append, reportKept_eq_writeAll]
  simp [fileFinished]

/-- A sink with room takes all lines. -/
theorem run_writeAll_of_hasRoom {lines : List String} {sink : Sink}
    (h : sink.HasRoom (bytesOf lines)) :
    (writeAll lines).run sink = ⟨.ok (), sink.after (bytesOf lines), []⟩ := by
  -- The sink changes from line to line, so the hypothesis is wanted for every sink.
  induction lines generalizing sink with
  | nil => simp [writeAll, bytesOf]
  | cons line lines ih =>
    have hb : bytesOf (line :: lines) = Text.Utf8.bytes line ++ bytesOf lines :=
      List.flatMap_cons
    rw [hb] at h ⊢
    have hline : (Sink.write line).run sink = ⟨.ok (), sink.after (Text.Utf8.bytes line), []⟩ :=
      Sink.run_writeBytes_of_hasRoom h.of_append_left
    have hlines := ih h.of_append_right
    rw [writeAll, Attempt.run_bind_of_ok hline, hlines, Sink.after_append]
    rfl

/-- Reporting a file to a sink with room that can be flushed adds the block of the file. -/
theorem run_report_of_hasRoom {style : Style} {file : String} {findings : List Finding}
    {sink : Sink} (hroom : sink.HasRoom (bytesOf (style.block file findings)))
    (hflush : sink.flushFault = none) :
    (do Engine.reportKept style findings; style.fileFinished file findings).run sink
      = ⟨.ok (), sink.after (bytesOf (style.block file findings)), []⟩ := by
  -- Writing does not change how the sink answers to a flush.
  have hdone : (sink.after (bytesOf (style.block file findings))).flushFault = none := by
    rw [Sink.flushFault_after, hflush]
  rw [reportKept_fileFinished]
  rw [Attempt.run_bind_of_ok (run_writeAll_of_hasRoom hroom), Sink.run_flush_of_none hdone]
  rfl

end Style

end ChangeLint.Report
