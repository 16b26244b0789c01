import ChangeLint.Yaml.Cursor

/-! # Block scalars

A block scalar begins with `|` (literal) or `>` (folded), hints, and the end of the line.  The
hints are how far its lines are indented and what becomes of the line ends at its end: by
default one is kept, `-` keeps none, and `+` keeps all.  Without a hint the first line that is
not empty gives the indentation.  In a folded scalar a line end between two lines that do not
begin with a gap becomes a space, or nothing if empty lines follow. -/

namespace ChangeLint.Yaml.Block

/-- What becomes of the line ends at the end. -/
inductive Chomping where
  | strip
  | clip
  | keep
  deriving DecidableEq, Repr

/-- What the first line says; an indentation of zero is to be found out. -/
structure Hints where
  chomping : Chomping
  indent : Nat
  deriving DecidableEq, Repr

/-- The construct in which faults are noticed. -/
def construct : String := "while scanning a block scalar"

/-! ## Section 1: Hints -/

/-- Reads what becomes of the line ends, if it is said here. -/
def readChomping (c : Cursor) : Chomping × Cursor :=
  if c.peek = '+' then (.keep, c.skip 1)
  else if c.peek = '-' then (.strip, c.skip 1)
  else (.clip, c)

/-- Reads the indentation, if it is given here. -/
def readIndent (start : Mark) (c : Cursor) : Except Fault (Nat × Cursor) :=
  match Text.Decimal.digit? c.peek with
  | none => .ok (0, c)
  | some 0 =>
    .error (c.faultIn construct start "found an indentation indicator equal to 0")
  | some n => .ok (n, c.skip 1)

/-- Reads the hints, in either order. -/
def readHints (start : Mark) (c : Cursor) : Except Fault (Hints × Cursor) := do
  let (chomping, next) := readChomping c
  let (indent, next) ← readIndent start next
  if chomping = .clip then
    let (chomping, next) := readChomping next
    pure (⟨chomping, indent⟩, next)
  else pure (⟨chomping, indent⟩, next)

/-! ## Section 2: Lines -/

/-- After the spaces of the indentation, which may be unknown. -/
def skipIndent (indent : Nat) : Nat → Cursor → Cursor
  | 0, c => c
  | fuel + 1, c =>
    if (indent == 0 || decide (c.mark.column < indent)) && c.peek == ' ' then
      skipIndent indent fuel (c.skip 1)
    else c

/-- The empty lines before the next line, and where that starts; also the greatest column at
which the indentation of one of these lines ended. -/
structure Breaks where
  text : List Char
  widest : Nat
  after : Cursor
  deriving DecidableEq, Repr

/-- Reads empty lines on top of what was read. -/
def readBreaks (indent : Nat) (start : Mark) :
    Nat → List Char → Nat → Cursor → Except Fault Breaks
  | 0, text, widest, c => .ok ⟨text, widest, c⟩
  | fuel + 1, text, widest, c =>
    let c := skipIndent indent (c.rest.length + 1) c
    let widest := max widest c.mark.column
    if (indent == 0 || decide (c.mark.column < indent)) && c.peek == '\t' then
      .error (c.faultIn construct start
        "found a tab character where an indentation space is expected")
    else if isBreak c.peek then
      readBreaks indent start fuel (text ++ c.readBreak.1) widest c.readBreak.2
    else .ok ⟨text, widest, c⟩

/-- Reads all empty lines that follow. -/
def readAllBreaks (indent : Nat) (start : Mark) (c : Cursor) : Except Fault Breaks :=
  readBreaks indent start (c.rest.length + 1) [] 0 c

/-- What was read of a block scalar: its text without the last line end, that line end, the
empty lines after it, and whether the last line began with a gap. -/
structure Body where
  text : List Char
  lastBreak : List Char
  breaks : List Char
  afterGap : Bool
  deriving DecidableEq, Repr

/-- The text with the line ends before the next line. -/
def Body.joined (body : Body) (literal nextGap : Bool) : List Char :=
  if !literal && body.lastBreak == ['\n'] && !body.afterGap && !nextGap then
    body.text ++ (if body.breaks.isEmpty then [' '] else []) ++ body.breaks
  else body.text ++ body.lastBreak ++ body.breaks

/-- Reads lines on top of what was read. -/
def readLines (literal : Bool) (indent : Nat) (start : Mark) :
    Nat → Body → Cursor → Except Fault (Body × Cursor)
  | 0, body, c => .ok (body, c)
  | fuel + 1, body, c =>
    if c.mark.column = indent ∧ !c.atEnd then
      let gap := isGap c.peek
      let (line, atBreak) := c.takeWhile (!isBreakOrEnd ·)
      let (lastBreak, next) := atBreak.readBreak
      match readAllBreaks indent start next with
      | .error fault => .error fault
      | .ok breaks =>
        readLines literal indent start fuel
          ⟨body.joined literal gap ++ line, lastBreak, breaks.text, gap⟩ breaks.after
    else .ok (body, c)

/-! ## Section 3: Scalars -/

/-- The text with the line ends at its end as the hints say. -/
def Body.chomped (body : Body) : Chomping → List Char
  | .strip => body.text
  | .clip => body.text ++ body.lastBreak
  | .keep => body.text ++ body.lastBreak ++ body.breaks

/-- Reads a block scalar at its indicator, in a block that is indented by `outer` columns. -/
def read (literal : Bool) (outer : Int) (c : Cursor) : Except Fault (List Char × Cursor) := do
  let start := c.mark
  let (hints, c) ← readHints start (c.skip 1)
  let c := c.skipGaps.skipComment
  if !isBreakOrEnd c.peek then
    throw (c.faultIn construct start "did not find expected comment or line break")
  let c := c.skipBreak
  let given := if hints.indent = 0 then 0 else hints.indent + outer.toNat
  let breaks ← readAllBreaks given start c
  let indent := if given = 0 then max breaks.widest (max (outer + 1).toNat 1) else given
  let (body, c) ← readLines literal indent start (c.rest.length + 1)
    ⟨[], [], breaks.text, false⟩ breaks.after
  pure (body.chomped hints.chomping, c)

end ChangeLint.Yaml.Block
