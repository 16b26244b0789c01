import ChangeLint.Yaml.ScalarForm

/-! # Writing mappings

A mapping is written with an entry on a line of its own for each key.  A list has a line for
each element under its key.  Texts take the form that `formOf` chooses; what continues on
further lines is indented by two spaces.  Lines are never broken for their width. -/

namespace ChangeLint.Yaml

/-! ## Section 1: Quoted scalars -/

/-- What stands in front of a line that continues a scalar. -/
def indent : List Char := [' ', ' ']

/-- A text in single quotes up to the end of the scalar, from the start of a line or not. -/
def singleInner (lineStart : Bool) : List Char → List Char
  | [] => if lineStart then indent else []
  | c :: rest =>
    if isBreak c then c :: singleInner true rest
    else (if lineStart then indent else []) ++ (if c = '\'' then ['\'', '\''] else [c])
      ++ singleInner false rest

/-- A text in single quotes. -/
def singleQuoted (text : List Char) : List Char := '\'' :: singleInner false text ++ ['\'']

/-- A number in upper-case hexadecimal digits, filled up with zeros. -/
def hexDigits (width n : Nat) : List Char :=
  let digits := (Nat.toDigits 16 n).map Char.toUpper
  List.replicate (width - digits.length) '0' ++ digits

/-- A character given by its number, in the shortest escape that holds it. -/
def escapedNumber (c : Char) : List Char :=
  let n := c.toNat
  if n ≤ 0xFF then '\\' :: 'x' :: hexDigits 2 n
  else if n ≤ 0xFFFF then '\\' :: 'u' :: hexDigits 4 n
  else '\\' :: 'U' :: hexDigits 8 n

/-- The letter or sign that stands for a character after a backslash. -/
def escapeLetter? : Char → Option Char
  | '\x00' => some '0'
  | '\x07' => some 'a'
  | '\x08' => some 'b'
  | '\t' => some 't'
  | '\n' => some 'n'
  | '\x0b' => some 'v'
  | '\x0c' => some 'f'
  | '\r' => some 'r'
  | '\x1b' => some 'e'
  | '"' => some '"'
  | '\\' => some '\\'
  | '\u0085' => some 'N'
  | '\u2028' => some 'L'
  | '\u2029' => some 'P'
  | _ => none

/-- A character as it stands in double quotes. -/
def escaped (c : Char) : List Char :=
  match escapeLetter? c with
  | some letter => ['\\', letter]
  | none => if isPrintable c then [c] else escapedNumber c

/-- A text in double quotes. -/
def doubleQuoted (text : List Char) : List Char := '"' :: text.flatMap escaped ++ ['"']

/-! ## Section 2: Literal scalars -/

/-- The lines of a literal scalar. -/
def literalInner (lineStart : Bool) : List Char → List Char
  | [] => []
  | c :: rest =>
    if isBreak c then c :: literalInner true rest
    else (if lineStart then indent else []) ++ c :: literalInner false rest

/-- The indentation is told where the first line does not show it. -/
def indentHint (text : List Char) : List Char :=
  if text.head?.any isSpaceOrBreak then ['2'] else []

/-- What becomes of the line ends at the end of a literal scalar: there is none, or there are
several, or just one, of which nothing is said. -/
def endHint (text : List Char) : List Char :=
  match text.reverse with
  | [] => ['-']
  | [c] => if isBreak c then ['+'] else ['-']
  | c :: d :: _ => if isBreak c then (if isBreak d then ['+'] else []) else ['-']

/-- A text as a literal scalar. -/
def literal (text : List Char) : List Char :=
  '|' :: indentHint text ++ endHint text ++ '\n' :: literalInner true text

/-! ## Section 3: Mappings -/

/-- A text as a scalar of some form.  Nothing is written in the folded form. -/
def scalarIn (form : ScalarStyle) (text : List Char) : List Char :=
  match form with
  | .plain => text
  | .singleQuoted => singleQuoted text
  | .literal => literal text
  | .doubleQuoted | .folded => doubleQuoted text

/-- A text as a scalar of some form, with the end of its last line. -/
def lineIn (form : ScalarStyle) (text : List Char) : List Char :=
  match form with
  | .literal => literal text ++ (if text.getLast?.any isBreak then [] else ['\n'])
  | form => scalarIn form text ++ ['\n']

/-- The line of a scalar that is not a literal one ends behind it. -/
theorem lineIn_of_ne_literal {form : ScalarStyle} (h : form ≠ .literal) (text : List Char) :
    lineIn form text = scalarIn form text ++ ['\n'] := by
  unfold lineIn
  split
  · exact absurd rfl h
  · rfl

/-- A text as a scalar, with the end of its last line. -/
def scalarLine (text : List Char) : List Char := lineIn (formOf text) text

/-- What stands at a key. -/
inductive Value where
  | text (chars : List Char)
  | flag (value : Bool)
  | texts (elements : List (List Char))
  deriving DecidableEq, Repr

/-- The word for a truth value. -/
def flagWord : Bool → List Char
  | true => ['t', 'r', 'u', 'e']
  | false => ['f', 'a', 'l', 's', 'e']

/-- What is written after a key and its colon. -/
def Value.written : Value → List Char
  | .text chars => ' ' :: scalarLine chars
  | .flag value => ' ' :: flagWord value ++ ['\n']
  | .texts [] => [' ', '[', ']', '\n']
  | .texts elements => '\n' :: elements.flatMap fun chars => '-' :: ' ' :: scalarLine chars

/-- An entry of a mapping. -/
def writeEntry (key : List Char) (value : Value) : List Char := key ++ ':' :: value.written

/-- A mapping with entries in order. -/
def writeMapping (entries : List (List Char × Value)) : List Char :=
  entries.flatMap fun entry => writeEntry entry.1 entry.2

end ChangeLint.Yaml
