import ChangeLint.Text.Printable
import ChangeLint.Text.Blank

/-! # Quoted text

A text in double quotes, in which every character can be told apart: a few characters have an
escape of their own, and those without a form of their own are given by number. -/

namespace ChangeLint.Text.Quoted

/-- The hexadecimal digits of a number, in lower case and without leading zeros. -/
def hex (n : Nat) : List Char := Nat.toDigits 16 n

/-- A character given by its number. -/
def byNumber (c : Char) : List Char := ['\\', 'u', '{'] ++ hex c.toNat ++ ['}']

/-- A character as it stands in a quoted text. -/
def escape (c : Char) : List Char :=
  match c with
  | '\x00' => ['\\', '0']
  | '\t' => ['\\', 't']
  | '\r' => ['\\', 'r']
  | '\n' => ['\\', 'n']
  | '\\' => ['\\', '\\']
  | '"' => ['\\', '"']
  | c => if extendsCluster c || isHidden c then byNumber c else [c]

/-- The text in quotes. -/
def quote (cs : List Char) : List Char := '"' :: cs.flatMap escape ++ ['"']

end ChangeLint.Text.Quoted
