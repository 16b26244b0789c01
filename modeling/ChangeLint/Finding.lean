import ChangeLint.Text.Blank
import ChangeLint.Text.WordChar

/-! # Findings

A finding is one line of a linter's report, of the form

    file:line:column: code description

The file holds no blank, line and column are decimal digits of any script, the code is a
possibly empty run of word characters, and the description goes on to the end of the line.
Every other line of a report is noise.  Line and column stay the text that was read: `010`
and `10` are two different lines. -/

namespace ChangeLint

/-- One finding of a linter. -/
structure Finding where
  file : String
  line : String
  column : String
  code : String
  description : String
  deriving DecidableEq, Repr

namespace Finding

/-! ## Section 1: Reading a line of a report -/

/-- Cuts `…:digits` into what is before the colon and the digits.  The text is given, and the
first part answered, back to front. -/
def digitsFromEnd? (back : List Char) : Option (List Char × List Char) :=
  match back.takeWhile Text.isDecimal, back.dropWhile Text.isDecimal with
  | [], _ => none
  | digits, ':' :: rest => some (rest, digits.reverse)
  | _, _ => none

/-- Cuts `file:line:column:`, read from its end. -/
def place? (head : List Char) : Option (List Char × List Char × List Char) :=
  match head.reverse with
  | ':' :: back =>
    (digitsFromEnd? back).bind fun (back, column) =>
      (digitsFromEnd? back).bind fun (back, line) =>
        -- Digits and colons belong to the file once two fields were cut off its end.
        if back.isEmpty then none else some (back.reverse, line, column)
  | _ => none

/-- Cuts `code description` at the space, up to the end of the line. -/
def message? (cs : List Char) : Option (List Char × List Char) :=
  match cs.dropWhile Text.isWordChar with
  | ' ' :: rest => some (cs.takeWhile Text.isWordChar, rest.takeWhile (· != '\n'))
  | _ => none

/-- The finding that a text states.  The first blank of the text ends its place. -/
def ofChars? (cs : List Char) : Option Finding :=
  match cs.dropWhile (!Text.isBlank ·) with
  | ' ' :: rest =>
    (place? (cs.takeWhile (!Text.isBlank ·))).bind fun (file, line, column) =>
      (message? rest).map fun (code, description) =>
        { file := String.ofList file
          line := String.ofList line
          column := String.ofList column
          code := String.ofList code
          description := String.ofList description }
  | _ => none

/-- The finding that a line of a report states, if it states one. -/
def parse? (line : String) : Option Finding := ofChars? line.toList

/-! ## Section 2: Fields by name -/

/-- The field of a finding that a key names. -/
def get? (finding : Finding) (key : String) : Option String :=
  match key with
  | "filename" => some finding.file
  | "line_number" => some finding.line
  | "char_number" => some finding.column
  | "error_code" => some finding.code
  | "description" => some finding.description
  | _ => none

end Finding

end ChangeLint
