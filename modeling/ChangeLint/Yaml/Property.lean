import ChangeLint.Text.Utf8
import ChangeLint.Yaml.Cursor
import ChangeLint.Yaml.Token

/-! # Anchors, tags and directives

Names of anchors, tags in their three forms, and the two directives.  A tag is kept as bytes,
because a percent sign in it writes a byte. -/

namespace ChangeLint.Yaml.Property

/-! ## Section 1: Anchors and aliases -/

/-- May the character follow the name of an anchor? -/
def endsName (c : Char) : Bool :=
  isGapOrEnd c || c == '?' || c == ':' || c == ',' || c == ']' || c == '}' || c == '%'
    || c == '@' || c == '\x60'

/-- Reads the name of an anchor or alias after its sign. -/
def readName (construct : String) (c : Cursor) : Except Fault (List Char × Cursor) :=
  let (name, after) := (c.skip 1).takeWhile isNameChar
  if name.isEmpty || !endsName after.peek then
    .error (after.faultIn construct c.mark
      "did not find expected alphabetic or numeric character")
  else .ok (name, after)

/-! ## Section 2: Tags -/

/-- Is a tag being read in a directive? -/
abbrev InDirective : Type := Bool

/-- The construct that is named when the rest of a tag is wrong. -/
def uriConstruct (directive : InDirective) : String :=
  if directive then "while parsing a %TAG directive" else "while parsing a tag"

/-- May the character stand in the rest of a tag?  Flow indicators may only between angle
brackets and in directives. -/
def isUriChar (verbatim : Bool) (c : Char) : Bool :=
  isNameChar c || c == ';' || c == '/' || c == '?' || c == ':' || c == '@' || c == '&'
    || c == '=' || c == '+' || c == '$' || c == '.' || c == '%' || c == '!' || c == '~'
    || c == '*' || c == '\'' || c == '(' || c == ')'
    || (verbatim && (c == ',' || c == '[' || c == ']'))

/-- The byte that two hexadecimal digits after a percent sign write. -/
def escapedByte? (c : Cursor) : Option UInt8 :=
  if c.peek = '%' then
    match hexValue? (c.peekAt 1), hexValue? (c.peekAt 2) with
    | some high, some low => some (UInt8.ofNat (16 * high + low))
    | _, _ => none
  else none

/-- How many bytes a character has that starts with this one. -/
def escapedWidth (b : UInt8) : Nat :=
  if b < 0x80 then 1
  else if b &&& 0xE0 == 0xC0 then 2
  else if b &&& 0xF0 == 0xE0 then 3
  else if b &&& 0xF8 == 0xF0 then 4
  else 0

/-- Reads the further bytes of a character. -/
def readTrailing (directive : InDirective) (start : Mark) :
    Nat → Cursor → Except Fault (List UInt8 × Cursor)
  | 0, c => .ok ([], c)
  | count + 1, c =>
    match escapedByte? c with
    | none =>
      .error (c.faultIn (uriConstruct directive) start "did not find URI escaped octet")
    | some b =>
      if b &&& 0xC0 == 0x80 then do
        let (bytes, after) ← readTrailing directive start count (c.skip 3)
        pure (b :: bytes, after)
      else
        .error (c.faultIn (uriConstruct directive) start
          "found an incorrect trailing UTF-8 octet")

/-- Reads the bytes of one character, written with percent signs. -/
def readEscapes (directive : InDirective) (start : Mark) (c : Cursor) :
    Except Fault (List UInt8 × Cursor) :=
  match escapedByte? c with
  | none =>
    .error (c.faultIn (uriConstruct directive) start "did not find URI escaped octet")
  | some b =>
    match escapedWidth b with
    | 0 =>
      .error (c.faultIn (uriConstruct directive) start
        "found an incorrect leading UTF-8 octet")
    | width + 1 => do
      let (bytes, after) ← readTrailing directive start width (c.skip 3)
      pure (b :: bytes, after)

/-- Reads the rest of a tag on top of some bytes. -/
def readUriFrom (verbatim : Bool) (directive : InDirective) (start : Mark) :
    Nat → List UInt8 → Cursor → Except Fault (List UInt8 × Cursor)
  | 0, bytes, c => .ok (bytes, c)
  | fuel + 1, bytes, c =>
    if c.peek = '%' then
      match readEscapes directive start c with
      | .ok (more, after) => readUriFrom verbatim directive start fuel (bytes ++ more) after
      | .error fault => .error fault
    else if isUriChar verbatim c.peek then
      readUriFrom verbatim directive start fuel (bytes ++ Text.Utf8.encode [c.peek]) (c.skip 1)
    else .ok (bytes, c)

/-- Reads the rest of a tag after a head.  The exclamation mark at the start of the head is left
out, but a head makes the rest count as not empty. -/
def readUri (verbatim : Bool) (directive : InDirective) (head : List Char) (start : Mark)
    (c : Cursor) : Except Fault (List UInt8 × Cursor) := do
  let (bytes, after) ← readUriFrom verbatim directive start (c.rest.length + 1)
    (Text.Utf8.encode head.tail) c
  if head.isEmpty ∧ c.rest.length = after.rest.length then
    throw (after.faultIn (uriConstruct directive) start "did not find expected tag URI")
  pure (bytes, after)

/-- Reads what may be the handle of a tag: an exclamation mark, a name, and another one if there
is one. -/
def readHandle (directive : InDirective) (start : Mark) (c : Cursor) :
    Except Fault (List Char × Cursor) :=
  if c.peek ≠ '!' then
    .error (c.faultIn
      (if directive then "while scanning a tag directive" else "while scanning a tag") start
      "did not find expected '!'")
  else
    let (name, after) := (c.skip 1).takeWhile isNameChar
    let handle := '!' :: name
    if after.peek = '!' then .ok (handle ++ ['!'], after.skip 1)
    else if directive && !name.isEmpty then
      .error (after.faultIn "while parsing a tag directive" start "did not find expected '!'")
    else .ok (handle, after)

/-- Is it a handle, and not just the start of a tag? -/
def isHandle (text : List Char) : Bool := 1 < text.length && text.getLast? == some '!'

/-- The bytes up to a zero byte, which ends a tag wherever it stands. -/
def untilZero (bytes : List UInt8) : List UInt8 := bytes.takeWhile (· != 0)

/-- The exclamation mark as bytes. -/
def bang : List UInt8 := [0x21]

/-- Reads a tag without checking what follows. -/
def readTagBody (start : Mark) (c : Cursor) : Except Fault (TokenKind × Cursor) :=
  if c.peekAt 1 = '<' then do
    let (rest, after) ← readUri true false [] start (c.skip 2)
    if after.peek ≠ '>' then
      throw (after.faultIn "while scanning a tag" start "did not find the expected '>'")
    pure (.tag [] rest, after.skip 1)
  else do
    let (handle, after) ← readHandle false start c
    if isHandle handle then
      let (rest, after) ← readUri false false [] start after
      pure (.tag (Text.Utf8.encode handle) rest, after)
    else
      let (rest, after) ← readUri false false handle start after
      if (untilZero rest).isEmpty then pure (.tag [] bang, after)
      else pure (.tag bang rest, after)

/-- Reads a tag at its exclamation mark. -/
def readTag (inFlow : Bool) (c : Cursor) : Except Fault (TokenKind × Cursor) := do
  let (kind, after) ← readTagBody c.mark c
  if !(inFlow && after.peek == ',') && !isGapOrEnd after.peek then
    throw (after.faultIn "while scanning a tag" c.mark
      "did not find expected whitespace or line break")
  pure (kind, after)

/-! ## Section 3: Directives -/

/-- Reads a number of a version. -/
def readVersionNumber (start : Mark) (c : Cursor) : Except Fault (Nat × Cursor) :=
  let construct := "while scanning a %YAML directive"
  let digits := c.rest.takeWhile Char.isDigit
  if 9 < digits.length then
    .error ((c.skip 9).faultIn construct start "found extremely long version number")
  else
    match Text.Decimal.readDigits? digits with
    | some n => .ok (n, c.skip digits.length)
    | none => .error (c.faultIn construct start "did not find expected version number")

/-- Reads the version in a directive. -/
def readVersion (start : Mark) (c : Cursor) : Except Fault (TokenKind × Cursor) := do
  let (major, c) ← readVersionNumber start c.skipGaps
  if c.peek ≠ '.' then
    throw (c.faultIn "while scanning a %YAML directive" start
      "did not find expected digit or '.' character")
  let (minor, c) ← readVersionNumber start (c.skip 1)
  pure (.versionDirective major minor, c)

/-- Reads the handle in a directive and what it stands for. -/
def readTagDirective (start : Mark) (c : Cursor) : Except Fault (TokenKind × Cursor) := do
  let construct := "while scanning a %TAG directive"
  let (handle, c) ← readHandle true start c.skipGaps
  if !isGap c.peek then
    throw (c.faultIn construct start "did not find expected whitespace")
  let (rest, c) ← readUri true true [] start c.skipGaps
  if !isGapOrEnd c.peek then
    throw (c.faultIn construct start "did not find expected whitespace or line break")
  pure (.tagDirective (Text.Utf8.encode handle) rest, c)

/-- Reads the name of a directive. -/
def readDirectiveName (start : Mark) (c : Cursor) : Except Fault (List Char × Cursor) :=
  let construct := "while scanning a directive"
  let (name, after) := c.takeWhile isNameChar
  if name.isEmpty then
    .error (after.faultIn construct start "could not find expected directive name")
  else if !isGapOrEnd after.peek then
    .error (after.faultIn construct start "found unexpected non-alphabetical character")
  else .ok (name, after)

/-- Reads a directive at its percent sign: what it says, where it ends, and the cursor on the
next line. -/
def readDirective (c : Cursor) : Except Fault (TokenKind × Mark × Cursor) := do
  let start := c.mark
  let construct := "while scanning a directive"
  let (name, c) ← readDirectiveName start (c.skip 1)
  let (kind, c) ←
    if name = ['Y', 'A', 'M', 'L'] then readVersion start c
    else if name = ['T', 'A', 'G'] then readTagDirective start c
    else throw (c.faultIn construct start "found unknown directive name")
  let stop := c.mark
  let c := c.skipGaps.skipComment
  if !isBreakOrEnd c.peek then
    throw (c.faultIn construct start "did not find expected comment or line break")
  pure (kind, stop, c.skipBreak)

end ChangeLint.Yaml.Property
