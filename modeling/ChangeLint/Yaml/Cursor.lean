import ChangeLint.Text.Utf8
import ChangeLint.Yaml.Chars
import ChangeLint.Yaml.Mark

/-! # Cursors

A cursor stands in a text: it knows the rest of the text and its own position.  A carriage
return followed by a line feed is one line end. -/

namespace ChangeLint.Yaml

/-- A place in a text, with what follows it. -/
structure Cursor where
  rest : List Char
  mark : Mark
  deriving DecidableEq, Repr

namespace Cursor

/-- At the start of a text. -/
def ofText (cs : List Char) : Cursor := ⟨cs, .start⟩

/-- The character some characters ahead. -/
def peekAt (c : Cursor) (n : Nat) : Char := (c.rest.drop n).headD terminator

/-- The next character. -/
def peek (c : Cursor) : Char := c.rest.headD terminator

/-- Is there nothing more? -/
def atEnd (c : Cursor) : Bool := c.peek == terminator

/-- After some characters, none of which ends a line. -/
def skip (c : Cursor) (n : Nat) : Cursor where
  rest := c.rest.drop n
  mark :=
    { c.mark with
      index := c.mark.index + (Text.Utf8.encode (c.rest.take n)).length
      column := c.mark.column + n }

/-- The longest start of the rest that is made of characters of a class, and the cursor after
it.  No character of the class may end a line. -/
def takeWhile (c : Cursor) (p : Char → Bool) : List Char × Cursor :=
  let taken := c.rest.takeWhile p
  (taken, c.skip taken.length)

/-- After the characters of a class. -/
def skipWhile (c : Cursor) (p : Char → Bool) : Cursor := (c.takeWhile p).2

/-- After the next line end, which counts as `length` characters. -/
def nextLine (c : Cursor) (length : Nat) : Cursor where
  rest := c.rest.drop length
  mark :=
    ⟨c.mark.index + (Text.Utf8.encode (c.rest.take length)).length, c.mark.line + 1, 0⟩

/-- The next line end as it is read, and the cursor after it.  Line ends are read as a line feed,
except for the line separator and the paragraph separator, which stay what they are. -/
def readBreak (c : Cursor) : List Char × Cursor :=
  match c.rest with
  | '\r' :: '\n' :: _ => (['\n'], c.nextLine 2)
  | '\r' :: _ | '\n' :: _ | '\u0085' :: _ => (['\n'], c.nextLine 1)
  | '\u2028' :: _ => (['\u2028'], c.nextLine 1)
  | '\u2029' :: _ => (['\u2029'], c.nextLine 1)
  | _ => ([], c)

/-- After the next line end, if there is one here. -/
def skipBreak (c : Cursor) : Cursor := c.readBreak.2

/-- After a byte order mark, if one starts a line here. -/
def skipByteOrderMark (c : Cursor) : Cursor :=
  if c.mark.column = 0 ∧ c.peek = byteOrderMark then c.skip 1 else c

/-- After a comment, if one starts here. -/
def skipComment (c : Cursor) : Cursor :=
  if c.peek = '#' then c.skipWhile (!isBreakOrEnd ·) else c

/-- After spaces and tabs. -/
def skipGaps (c : Cursor) : Cursor := c.skipWhile isGap

/-- Do three given characters, followed by a gap or the end, stand at the start of a line
here? -/
def isMarker (c : Cursor) (sign : Char) : Bool :=
  c.mark.column == 0 && c.peek == sign && c.peekAt 1 == sign && c.peekAt 2 == sign
    && isGapOrEnd (c.peekAt 3)

/-- Does a line that begins or ends a document start here? -/
def isDocumentMarker (c : Cursor) : Bool := c.isMarker '-' || c.isMarker '.'

/-- A fault noticed here. -/
def fault (c : Cursor) (problem : String) : Fault := ⟨problem, c.mark, none, 0⟩

/-- A fault noticed here, in a construct that starts elsewhere. -/
def faultIn (c : Cursor) (construct : String) (start : Mark) (problem : String) : Fault :=
  ⟨problem, c.mark, some (construct, start), 0⟩

end Cursor

end ChangeLint.Yaml
