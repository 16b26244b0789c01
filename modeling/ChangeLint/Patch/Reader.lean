import ChangeLint.Patch.Changes
import ChangeLint.Patch.Header
import ChangeLint.Text.Lines

/-! # Reading a unified diff

`Changes.ofDiff` reads which lines of which files a diff adds.

The reader goes through the lines and keeps three things: the changes found so far, the file
that the last header named, and the open hunk.  While a hunk is open its counters decide
how many lines belong to it, so that an added line whose text looks like a header is not
taken for one.  A line that cannot belong to a hunk body closes the hunk and is read as a
header. -/

namespace ChangeLint.Patch

/-! ## Section 1: The open hunk -/

/-- A hunk being read: the number of its next new line, which is a machine word, and how many
lines of the old and of the new file are still to come. -/
structure Hunk where
  newLine : Nat
  oldLeft : Nat
  newLeft : Nat
  deriving DecidableEq, Repr

namespace Hunk

/-- The hunk without lines. -/
def closed : Hunk := ⟨0, 0, 0⟩

/-- The hunk that a header opens. -/
def ofHeader (header : HunkHeader) : Hunk :=
  ⟨header.newStart, header.oldLength, header.newLength⟩

/-- Are lines still to come? -/
def isOpen (hunk : Hunk) : Bool := 0 < hunk.oldLeft || 0 < hunk.newLeft

/-- The number of the line behind a line; behind the last one that a machine word can count
comes 0. -/
def lineAfter (line : Nat) : Nat := (line + 1) % Text.Decimal.wordBound

/-- After an added line. -/
def added (hunk : Hunk) : Hunk :=
  { hunk with newLine := lineAfter hunk.newLine, newLeft := hunk.newLeft - 1 }

/-- After a removed line. -/
def removed (hunk : Hunk) : Hunk := { hunk with oldLeft := hunk.oldLeft - 1 }

/-- After a line of both files. -/
def kept (hunk : Hunk) : Hunk :=
  { newLine := lineAfter hunk.newLine
    oldLeft := hunk.oldLeft - 1
    newLeft := hunk.newLeft - 1 }

end Hunk

/-- What a line of a hunk body is: added, removed, kept (also the empty line), or a remark
about the line before it. -/
inductive BodyLine where
  | added
  | removed
  | kept
  | remark
  deriving DecidableEq, Repr

/-- What a line is in a hunk body; none if it cannot stand there. -/
def BodyLine.of? : List Char → Option BodyLine
  | [] => some .kept
  | '+' :: _ => some .added
  | '-' :: _ => some .removed
  | ' ' :: _ => some .kept
  | '\\' :: _ => some .remark
  | _ => none

/-! ## Section 2: Header lines -/

/-- What a line outside of a hunk body is. -/
inductive HeaderLine where
  /-- The section of a file begins; the path is not always known here. -/
  | fileSection (path : Option (List Char))
  /-- The new file is named; none if it was deleted. -/
  | newFile (path : Option (List Char))
  /-- A hunk begins. -/
  | hunk (header : HunkHeader)
  /-- Nothing that counts. -/
  | other
  deriving DecidableEq, Repr

/-- The start of a `diff` line of git. -/
def gitOpening : List Char := ['d', 'i', 'f', 'f', ' ', '-', '-', 'g', 'i', 't', ' ']

/-- The start of a `diff` line of any tool. -/
def sectionOpening : List Char := ['d', 'i', 'f', 'f', ' ']

/-- The start of the line that names the new file. -/
def newFileOpening : List Char := ['+', '+', '+', ' ']

/-- What a line is outside of a hunk body. -/
def HeaderLine.of (line : List Char) : HeaderLine :=
  match Text.stripHead? gitOpening line with
  | some rest => .fileSection (gitPath? rest)
  | none =>
    if (Text.stripHead? sectionOpening line).isSome then .fileSection none
    else
      match Text.stripHead? newFileOpening line with
      | some rest => .newFile (newPath? rest)
      | none =>
        match HunkHeader.parse? line with
        | some header => .hunk header
        | none => .other

/-! ## Section 3: The reader -/

/-- What is known after some lines of a diff. -/
structure Reader where
  changes : Changes
  file : Option String
  hunk : Hunk
  deriving DecidableEq

namespace Reader

/-- Before the first line. -/
def start : Reader := ⟨∅, none, .closed⟩

/-- Records the next new line of the hunk as changed, if a file is known. -/
def record (reader : Reader) : Changes :=
  match reader.file with
  | some file => reader.changes.insert file (Text.Decimal.text reader.hunk.newLine)
  | none => reader.changes

/-- Reads a line of a hunk body. -/
def body (reader : Reader) : BodyLine → Reader
  | .added => { reader with changes := reader.record, hunk := reader.hunk.added }
  | .removed => { reader with hunk := reader.hunk.removed }
  | .kept => { reader with hunk := reader.hunk.kept }
  | .remark => reader

/-- Reads a line outside of a hunk body. -/
def header (reader : Reader) : HeaderLine → Reader
  | .fileSection path => { reader with file := path.map String.ofList }
  | .newFile none => { reader with file := none }
  -- A file has an entry even if no line of it was added.
  | .newFile (some path) =>
    { reader with
      file := some (String.ofList path)
      changes := reader.changes.touch (String.ofList path) }
  | .hunk header => { reader with hunk := .ofHeader header }
  | .other => reader

/-- Reads a line. -/
def step (reader : Reader) (line : List Char) : Reader :=
  if reader.hunk.isOpen then
    match BodyLine.of? line with
    | some kind => reader.body kind
    -- The hunk was cut short, or its header promised too much.
    | none => { reader with hunk := .closed }.header (.of line)
  else reader.header (.of line)

/-- Reads lines from first to last. -/
def run (reader : Reader) (lines : List (List Char)) : Reader := lines.foldl step reader

end Reader

/-- The lines that a diff adds, by file. -/
def Changes.ofDiff (diff : String) : Changes :=
  (Reader.start.run (Text.linesOf diff.toList)).changes

end ChangeLint.Patch
