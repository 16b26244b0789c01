import ChangeLint.Text.Binary64
import ChangeLint.Text.Quoted
import ChangeLint.Yaml.Chars

/-! # What plain scalars look like

A plain scalar may look like a null, a boolean, a whole number or a decimal fraction; otherwise
it is just text.

* Whole numbers are written in decimal digits, or after `0x`, `0o` or `0b` in sixteen, eight
  or two; they have 128 bits, with or without a sign.
* Decimal digits after a zero are no number at all.
* Fractions have a point or an exponent, or are `.inf` or `.nan`.  One that is too large to be
  represented is text. -/

namespace ChangeLint.Yaml

/-- What a plain scalar looks like. -/
inductive PlainValue where
  | null
  | bool (value : Bool)
  | int (value : Int)
  /-- A fraction, by the text that shows it. -/
  | float (shown : List Char)
  | text
  deriving DecidableEq, Repr

namespace PlainValue

/-! ## Section 1: Words -/

/-- Is it one of the words for nothing? -/
def isNull (cs : List Char) : Bool :=
  cs == ['n', 'u', 'l', 'l'] || cs == ['N', 'u', 'l', 'l'] || cs == ['N', 'U', 'L', 'L']
    || cs == ['~']

/-- The boolean that a word stands for. -/
def bool? (cs : List Char) : Option Bool :=
  if cs == ['t', 'r', 'u', 'e'] || cs == ['T', 'r', 'u', 'e'] || cs == ['T', 'R', 'U', 'E'] then
    some true
  else if cs == ['f', 'a', 'l', 's', 'e'] || cs == ['F', 'a', 'l', 's', 'e']
      || cs == ['F', 'A', 'L', 'S', 'E'] then
    some false
  else none

/-! ## Section 2: Whole numbers -/

/-- The value of a digit in a base up to sixteen. -/
def digit? (base : Nat) (c : Char) : Option Nat := (hexValue? c).filter (· < base)

/-- The number that some digits write on top of others. -/
def digitsOnto (base before : Nat) : List Char → Option Nat
  | [] => some before
  | c :: cs => (digit? base c).bind fun d => digitsOnto base (base * before + d) cs

/-- The number that one or more digits write. -/
def digits? (base : Nat) (cs : List Char) : Option Nat :=
  if cs.isEmpty then none else digitsOnto base 0 cs

/-- Are these more than one decimal digit, the first of which is a zero, after at most one
sign? -/
def isPadded (cs : List Char) : Bool :=
  let rest := match cs with
    | '-' :: rest => rest
    | '+' :: rest => rest
    | other => other
  match rest with
  | '0' :: d :: ds => (d :: ds).all Char.isDigit
  | _ => false

/-- The number that is written without a sign in front, in any base. -/
def magnitude? (cs : List Char) : Option Nat :=
  match cs with
  | '0' :: 'x' :: digits => digits? 16 digits
  | '0' :: 'o' :: digits => digits? 8 digits
  | '0' :: 'b' :: digits => digits? 2 digits
  | digits => digits? 10 digits

/-- The first number that 128 bits do not hold. -/
def unsignedBound : Nat := Nat.pow 2 128

/-- The magnitude of the least number that 128 bits hold with a sign. -/
def signedBound : Nat := Nat.pow 2 127

/-- The whole number that a scalar writes. -/
def int? (cs : List Char) : Option Int :=
  if isPadded cs then none
  else
    match cs with
    | '-' :: rest => ((magnitude? rest).filter (· ≤ signedBound)).map fun n => -(n : Int)
    | '+' :: rest => ((magnitude? rest).filter (· < unsignedBound)).map Int.ofNat
    | rest => ((magnitude? rest).filter (· < unsignedBound)).map Int.ofNat

/-! ## Section 3: Fractions -/

/-- The exponent of a fraction: a sign and one or more digits. -/
def exponent? (cs : List Char) : Option Int :=
  match cs with
  | '-' :: digits => (digits? 10 digits).map fun n => -(n : Int)
  | '+' :: digits => (digits? 10 digits).map Int.ofNat
  | digits => (digits? 10 digits).map Int.ofNat

/-- The digits before and after a point, and what follows. -/
def mantissa (cs : List Char) : List Char × List Char × List Char :=
  let whole := cs.takeWhile Char.isDigit
  match cs.dropWhile Char.isDigit with
  | '.' :: rest => (whole, rest.takeWhile Char.isDigit, rest.dropWhile Char.isDigit)
  | rest => (whole, [], rest)

/-- The decimal number that a scalar without a sign writes. -/
def decimal? (cs : List Char) : Option Text.Binary64.Decimal :=
  let (whole, fraction, rest) := mantissa cs
  if whole.isEmpty && fraction.isEmpty then none
  else
    let exponent := match rest with
      | [] => some 0
      | 'e' :: digits => exponent? digits
      | 'E' :: digits => exponent? digits
      | _ => none
    exponent.bind fun exponent =>
      (digits? 10 (whole ++ fraction)).map fun digits =>
        ⟨digits, exponent - fraction.length⟩

/-- The fraction that a scalar without a sign writes, by the text that shows it. -/
def unsignedFloat? (cs : List Char) : Option (List Char) :=
  (decimal? cs).bind fun decimal =>
    (Text.Binary64.ofDecimal? decimal).map Text.Binary64.text

/-- Is it a word for infinity? -/
def isInfinity (cs : List Char) : Bool :=
  cs == ['.', 'i', 'n', 'f'] || cs == ['.', 'I', 'n', 'f'] || cs == ['.', 'I', 'N', 'F']

/-- Is it a word for what is not a number? -/
def isNotANumber (cs : List Char) : Bool :=
  cs == ['.', 'n', 'a', 'n'] || cs == ['.', 'N', 'a', 'N'] || cs == ['.', 'N', 'A', 'N']

/-- The fraction that a scalar writes, by the text that shows it. -/
def float? (cs : List Char) : Option (List Char) :=
  if isNotANumber cs then some ['N', 'a', 'N']
  else
    match cs with
    | '-' :: rest =>
      if isInfinity rest then some ['-', 'i', 'n', 'f']
      else (unsignedFloat? rest).map ('-' :: ·)
    | '+' :: rest =>
      if isInfinity rest then some ['i', 'n', 'f'] else unsignedFloat? rest
    | rest => if isInfinity rest then some ['i', 'n', 'f'] else unsignedFloat? rest

/-! ## Section 4: All together -/

/-- What a plain scalar looks like. -/
def ofText (cs : List Char) : PlainValue :=
  if cs.isEmpty || isNull cs then .null
  else
    match bool? cs with
    | some value => .bool value
    | none =>
      match int? cs with
      | some value => .int value
      | none =>
        if isPadded cs then .text
        else
          match float? cs with
          | some shown => .float shown
          | none => .text

/-- The text shown for a whole number: one that needs more than 64 bits says so. -/
def intText (value : Int) : String :=
  let shown := "integer `" ++ Text.Decimal.signedText value ++ "`"
  if value < -(Nat.pow 2 63 : Nat) then shown ++ " as i128"
  else if (Nat.pow 2 64 : Nat) ≤ value then shown ++ " as u128"
  else shown

end PlainValue

end ChangeLint.Yaml
