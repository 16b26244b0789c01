/-! # Character classes of YAML

Which characters a YAML text may hold, which of them end lines or separate words, and which
can be written without an escape.  Reading looks ahead by a fixed number of characters; past
the end of the text it sees `terminator`, which no text may hold. -/

namespace ChangeLint.Yaml

/-- What is seen past the end of a text. -/
def terminator : Char := '\x00'

/-- The mark that tells the encoding of a text.  It is a character like any other, but it is
passed over where a line starts between two tokens. -/
def byteOrderMark : Char := '\uFEFF'

/-- May a YAML text hold the character? -/
def isAllowed (c : Char) : Bool :=
  let n := c.toNat
  n == 0x09 || n == 0x0A || n == 0x0D || (0x20 ≤ n && n ≤ 0x7E) || n == 0x85
    || (0xA0 ≤ n && n ≤ 0xD7FF) || (0xE000 ≤ n && n ≤ 0xFFFD) || 0x10000 ≤ n

/-- Does the character end a line? -/
def isBreak (c : Char) : Bool :=
  c == '\r' || c == '\n' || c == '\u0085' || c == '\u2028' || c == '\u2029'

/-- Is it a space or a tab? -/
def isGap (c : Char) : Bool := c == ' ' || c == '\t'

/-- Does the character end a line, or the text? -/
def isBreakOrEnd (c : Char) : Bool := isBreak c || c == terminator

/-- Does the character separate words, or end the text? -/
def isGapOrEnd (c : Char) : Bool := isGap c || isBreakOrEnd c

/-- May the character stand in the name of an anchor, a directive or a tag handle? -/
def isNameChar (c : Char) : Bool := c.isAlphanum || c == '_' || c == '-'

/-- The value of a hexadecimal digit. -/
def hexValue? (c : Char) : Option Nat :=
  if '0' ≤ c ∧ c ≤ '9' then some (c.toNat - '0'.toNat)
  else if 'a' ≤ c ∧ c ≤ 'f' then some (c.toNat - 'a'.toNat + 10)
  else if 'A' ≤ c ∧ c ≤ 'F' then some (c.toNat - 'A'.toNat + 10)
  else none

/-- Does the character delimit flow collections or their entries? -/
def isFlowIndicator (c : Char) : Bool :=
  c == ',' || c == '[' || c == ']' || c == '{' || c == '}'

/-- Can the character be written without an escape? -/
def isPrintable (c : Char) : Bool :=
  let n := c.toNat
  n == 0x0A || (0x20 ≤ n && n ≤ 0x7E) || (0xA0 ≤ n && n ≤ 0xD7FF)
    || (0xE000 ≤ n && n ≤ 0xFFFD && n != 0xFEFF) || 0x10000 ≤ n

/-- What can be written without an escape can be read. -/
theorem isAllowed_of_isPrintable {c : Char} (h : isPrintable c = true) : isAllowed c = true := by
  simp only [isPrintable, isAllowed, Bool.or_eq_true, Bool.and_eq_true, decide_eq_true_eq,
    beq_iff_eq, bne_iff_ne] at h ⊢
  omega

end ChangeLint.Yaml
