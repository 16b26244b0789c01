/-! # Decimal numbers

Reading of unsigned decimal numbers below a bound, and the decimal text of a number.

A number is written without leading zeros (`written`), and `read?` accepts what `written`
gives, more digits in front of it, and one plus sign. -/

namespace ChangeLint.Text.Decimal

/-- The value of an ASCII digit. -/
def digit? (c : Char) : Option Nat :=
  if '0' ≤ c ∧ c ≤ '9' then some (c.toNat - '0'.toNat) else none

/-- Reads ASCII digits only, on top of the digits read before; any other character refuses
the text. -/
def readOnto (before : Nat) : List Char → Option Nat
  | [] => some before
  | c :: cs => (digit? c).bind fun d => readOnto (10 * before + d) cs

/-- Reads one or more ASCII digits. -/
def readDigits? : List Char → Option Nat
  | [] => none
  | cs => readOnto 0 cs

/-- Reads an unsigned number below `bound`: an optional plus sign and one or more digits. -/
def read? (bound : Nat) (cs : List Char) : Option Nat :=
  let digits := match cs with
    | '+' :: rest => rest
    | other => other
  (readDigits? digits).filter (· < bound)

/-- The decimal digits of a number, without leading zeros. -/
def written (n : Nat) : List Char := Nat.toDigits 10 n

/-- The decimal text of a number. -/
def text (n : Nat) : String := String.ofList (written n)

/-- The decimal text of a signed number. -/
def signedText (n : Int) : String :=
  match n with
  | .ofNat n => text n
  | .negSucc n => "-" ++ text (n + 1)

/-- The first number that does not fit a machine word of 64 bits. -/
def wordBound : Nat := Nat.pow 2 64

end ChangeLint.Text.Decimal
