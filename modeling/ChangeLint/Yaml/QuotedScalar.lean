import ChangeLint.Yaml.Folding

/-! # Quoted scalars

In single quotes a quote is written twice and everything else stands for itself.  In double
quotes a backslash begins an escape: a letter or sign for a character, a number in hexadecimal
digits, or a line end that does not count.  In both, gaps between words are folded, and a line
that begins or ends a document must not occur. -/

namespace ChangeLint.Yaml.Quoted

/-! ## Section 1: Escapes -/

/-- The character that a letter or sign after a backslash stands for. -/
def named? : Char → Option Char
  | '0' => some '\x00'
  | 'a' => some '\x07'
  | 'b' => some '\x08'
  | 't' | '\t' => some '\t'
  | 'n' => some '\n'
  | 'v' => some '\x0b'
  | 'f' => some '\x0c'
  | 'r' => some '\r'
  | 'e' => some '\x1b'
  | ' ' => some ' '
  | '"' => some '"'
  | '/' => some '/'
  | '\\' => some '\\'
  | 'N' => some '\u0085'
  | '_' => some '\u00a0'
  | 'L' => some '\u2028'
  | 'P' => some '\u2029'
  | _ => none

/-- How many hexadecimal digits follow a letter after a backslash. -/
def digits? : Char → Option Nat
  | 'x' => some 2
  | 'u' => some 4
  | 'U' => some 8
  | _ => none

/-- The number that the first `count` characters write in hexadecimal. -/
def hexNumber? : Nat → Nat → List Char → Option Nat
  | 0, value, _ => some value
  | _ + 1, _, [] => none
  | count + 1, value, c :: cs =>
    match hexValue? c with
    | some digit => hexNumber? count (16 * value + digit) cs
    | none => none

/-- Is there a character with this number? -/
def isCharNumber (n : Nat) : Bool := n < 0xD800 || (0xDFFF < n && n < 0x110000)

/-- Reads an escape at a backslash: a character, and the cursor after it. -/
def readEscape (start : Mark) (c : Cursor) : Except Fault (Char × Cursor) :=
  let construct := "while parsing a quoted scalar"
  match named? (c.peekAt 1), digits? (c.peekAt 1) with
  | some char, _ => .ok (char, c.skip 2)
  | none, none => .error (c.faultIn construct start "found unknown escape character")
  | none, some count =>
    let after := c.skip 2
    match hexNumber? count 0 after.rest with
    | none =>
      .error (after.faultIn construct start "did not find expected hexadecimal number")
    | some n =>
      if isCharNumber n then .ok (Char.ofNat n, after.skip count)
      else
        .error (after.faultIn construct start
          "found invalid Unicode character escape code")

/-! ## Section 2: Words -/

/-- A word of a quoted scalar, and whether a line end that was escaped follows it. -/
structure Word where
  text : List Char
  escapedBreak : Bool
  after : Cursor
  deriving DecidableEq, Repr

/-- The quote around a scalar. -/
def quoteOf (single : Bool) : Char := if single then '\'' else '"'

/-- Reads a word on top of some text: up to a gap, the closing quote, or the end. -/
def readWord (single : Bool) (start : Mark) : Nat → List Char → Cursor → Except Fault Word
  | 0, text, c => .ok ⟨text, false, c⟩
  | fuel + 1, text, c =>
    if isGapOrEnd c.peek then .ok ⟨text, false, c⟩
    else if single && c.peek == '\'' && c.peekAt 1 == '\'' then
      readWord single start fuel (text ++ ['\'']) (c.skip 2)
    else if c.peek == quoteOf single then .ok ⟨text, false, c⟩
    else if !single && c.peek == '\\' then
      if isBreak (c.peekAt 1) then .ok ⟨text, true, (c.skip 1).skipBreak⟩
      else
        match readEscape start c with
        | .ok (char, after) => readWord single start fuel (text ++ [char]) after
        | .error fault => .error fault
    else readWord single start fuel (text ++ [c.peek]) (c.skip 1)

/-! ## Section 3: Scalars -/

/-- Reads words and the gaps between them up to the closing quote, on top of some text. -/
def readWords (single : Bool) (start : Mark) :
    Nat → List Char → Cursor → Except Fault (List Char × Cursor)
  | 0, text, c => .ok (text, c)
  | fuel + 1, text, c =>
    let construct := "while scanning a quoted scalar"
    if c.isDocumentMarker then
      .error (c.faultIn construct start "found unexpected document indicator")
    else if c.atEnd then .error (c.faultIn construct start "found unexpected end of stream")
    else
      match readWord single start (c.rest.length + 1) text c with
      | .error fault => .error fault
      | .ok word =>
        if word.after.peek == quoteOf single then .ok (word.text, word.after.skip 1)
        else
          let (gap, after) :=
            (if word.escapedBreak then Gap.escaped else Gap.none).readFreely word.after
          readWords single start fuel (word.text ++ gap.folded) after

/-- Reads a quoted scalar at its opening quote. -/
def read (single : Bool) (c : Cursor) : Except Fault (List Char × Cursor) :=
  readWords single c.mark (c.rest.length + 1) [] (c.skip 1)

end ChangeLint.Yaml.Quoted
