import ChangeLint.Text.Decimal

/-! # Positions and faults

A mark is a position in a text: how many bytes are before it, and its line and column in
characters, all counted from zero.  A fault says what is wrong with a text and where, and in which
construct that was noticed.  Positions are shown counted from one, and the very start of a
text is not shown at all. -/

namespace ChangeLint.Yaml

/-- A position in a text. -/
structure Mark where
  index : Nat
  line : Nat
  column : Nat
  deriving DecidableEq, Repr

namespace Mark

/-- The start of a text. -/
def start : Mark := ⟨0, 0, 0⟩

instance : Inhabited Mark := ⟨start⟩

/-- Are two positions shown alike? -/
def sameSpot (a b : Mark) : Bool := a.line == b.line && a.column == b.column

/-- Is it shown at all? -/
def isShown (mark : Mark) : Bool := mark.line != 0 || mark.column != 0

/-- The position as it is shown. -/
def text (mark : Mark) : String :=
  "line " ++ Text.Decimal.text (mark.line + 1) ++ " column "
    ++ Text.Decimal.text (mark.column + 1)

/-- The position after what it belongs to, if it is shown. -/
def suffix (mark : Mark) : String := if mark.isShown then " at " ++ mark.text else ""

end Mark

/-- What is wrong with a text. -/
structure Fault where
  problem : String
  mark : Mark
  /-- The construct in which the problem was noticed, and where that starts. -/
  context : Option (String × Mark) := none
  /-- The number of bytes before the problem, for a problem with the bytes themselves. -/
  offset : Nat := 0
  deriving DecidableEq, Repr

instance : Inhabited Fault := ⟨⟨"", .start, none, 0⟩⟩

namespace Fault

/-- Where the problem is. -/
def place (fault : Fault) : String :=
  if fault.mark.isShown then fault.mark.suffix
  else if fault.offset ≠ 0 then " at position " ++ Text.Decimal.text fault.offset
  else ""

/-- In which construct the problem was noticed.  Its start is left out where it is the place of
the problem itself. -/
def surroundings (fault : Fault) : String :=
  match fault.context with
  | none => ""
  | some (construct, mark) =>
    ", " ++ construct ++ (if mark.sameSpot fault.mark then "" else mark.suffix)

/-- The text shown for a fault. -/
def text (fault : Fault) : String := fault.problem ++ fault.place ++ fault.surroundings

end Fault

end ChangeLint.Yaml
