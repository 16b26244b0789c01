import ChangeLint.Yaml.Cursor

/-! # Folding

Between two words of a scalar there may be spaces on one line, or line ends with spaces around
them.  Spaces on one line stay as they are.  A single line end becomes a space, and further
line ends after it stay; a line or paragraph separator is never turned into a space. -/

namespace ChangeLint.Yaml

/-- What stands between two words. -/
structure Gap where
  /-- The spaces and tabs before any line end. -/
  spaces : List Char
  /-- The first line end. -/
  first : List Char
  /-- The further line ends. -/
  more : List Char
  /-- Has a line ended? -/
  broken : Bool
  deriving DecidableEq, Repr

namespace Gap

/-- Nothing between two words. -/
def none : Gap := ⟨[], [], [], false⟩

/-- After a line end that was escaped and does not count. -/
def escaped : Gap := ⟨[], [], [], true⟩

/-- The text that stands for a gap. -/
def folded (gap : Gap) : List Char :=
  if gap.broken then
    if gap.first = ['\n'] then (if gap.more.isEmpty then [' '] else gap.more)
    else gap.first ++ gap.more
  else gap.spaces

/-- The gap with a space or tab more; after a line end it does not count. -/
def addSpace (gap : Gap) (c : Char) : Gap :=
  if gap.broken then gap else { gap with spaces := gap.spaces ++ [c] }

/-- The gap with a line end more. -/
def addBreak (gap : Gap) (text : List Char) : Gap :=
  if gap.broken then { gap with more := gap.more ++ text } else ⟨[], text, [], true⟩

/-- Reads a gap, at most `fuel` characters of it.  On a line that is not the first one, a tab
before the column `limit` stops the reading and is reported. -/
def readFrom (limit : Nat) : Nat → Gap → Cursor → Except Cursor (Gap × Cursor)
  | 0, gap, c => .ok (gap, c)
  | fuel + 1, gap, c =>
    if isGap c.peek then
      if gap.broken && decide (c.mark.column < limit) && c.peek == '\t' then .error c
      else readFrom limit fuel (gap.addSpace c.peek) (c.skip 1)
    else if isBreak c.peek then
      readFrom limit fuel (gap.addBreak c.readBreak.1) c.readBreak.2
    else .ok (gap, c)

/-- Reads the rest of a gap. -/
def read (limit : Nat) (gap : Gap) (c : Cursor) : Except Cursor (Gap × Cursor) :=
  readFrom limit (c.rest.length + 1) gap c

/-- Reads the rest of a gap in which tabs may stand anywhere. -/
def readFreely (gap : Gap) (c : Cursor) : Gap × Cursor :=
  match read 0 gap c with
  | .ok result => result
  | .error stopped => (gap, stopped)

end Gap

end ChangeLint.Yaml
