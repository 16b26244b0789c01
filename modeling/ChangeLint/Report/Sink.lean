import ChangeLint.Act
import ChangeLint.Text.Utf8

/-! # Sinks

A sink takes the bytes of a report.  It may have room for a limited number of bytes only: a
write that does not fit leaves what fits and fails.  Flushing may fail too. -/

namespace ChangeLint.Report

/-- How many bytes more a sink takes, and the fault of a write past that. -/
structure Limit where
  room : Nat
  fault : String
  deriving DecidableEq, Repr

/-- Where the bytes of a report go. -/
structure Sink where
  written : List UInt8
  limit : Option Limit
  flushFault : Option String
  deriving DecidableEq, Repr

namespace Sink

/-- An empty sink that takes everything. -/
def unlimited : Sink := ⟨[], none, none⟩

instance : Inhabited Sink := ⟨unlimited⟩

/-- Writes bytes, as many as there is room for. -/
def writeBytes (bytes : List UInt8) : Attempt Sink Unit := .mk fun sink =>
  match sink.limit with
  | none => ⟨.ok (), { sink with written := sink.written ++ bytes }, []⟩
  | some limit =>
    let sink :=
      { sink with
        written := sink.written ++ bytes.take limit.room
        limit := some { limit with room := limit.room - bytes.length } }
    if bytes.length ≤ limit.room then ⟨.ok (), sink, []⟩
    else ⟨.error (.io limit.fault), sink, []⟩

/-- Writes a text. -/
def write (text : String) : Attempt Sink Unit := writeBytes (Text.Utf8.bytes text)

/-- Has everything written so far passed on. -/
def flush : Attempt Sink Unit := .mk fun sink =>
  match sink.flushFault with
  | none => ⟨.ok (), sink, []⟩
  | some fault => ⟨.error (.io fault), sink, []⟩

/-- What was written, as text. -/
def text (sink : Sink) : String := Text.Utf8.lossyText sink.written

/-- A sink without limit takes all bytes. -/
theorem run_writeBytes_of_unlimited {sink : Sink} (h : sink.limit = none)
    (bytes : List UInt8) :
    (writeBytes bytes).run sink =
      ⟨.ok (), { sink with written := sink.written ++ bytes }, []⟩ := by
  simp [writeBytes, Attempt.run, Attempt.mk, Act.run, ExceptT.run, ExceptT.mk, h]

end Sink

end ChangeLint.Report
