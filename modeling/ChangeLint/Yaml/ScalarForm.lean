import ChangeLint.Yaml.PlainValue
import ChangeLint.Yaml.Token

/-! # The form of a scalar

A text can be written as a scalar in several forms, and not every form can hold every text.

* A plain scalar stands on one line, without spaces around it, and is not mistaken for anything
  else.
* Single quotes hold what needs no escape, as long as folding does not lose any space.
* A literal scalar keeps lines as they are, but cannot end in a space.
* Double quotes hold every text.

`formOf` prefers a literal scalar for a text of several lines, and otherwise the first form of
this list that will do. -/

namespace ChangeLint.Yaml

/-! ## Section 1: What a text holds -/

/-- Does a relation hold somewhere between a character and the next one? -/
def hasPair (related : Char → Char → Bool) : List Char → Bool
  | a :: b :: rest => related a b || hasPair related (b :: rest)
  | _ => false

/-- The pairs of a text are its first pair and those of the rest. -/
theorem hasPair_cons_cons (related : Char → Char → Bool) (a b : Char) (rest : List Char) :
    hasPair related (a :: b :: rest) = (related a b || hasPair related (b :: rest)) := rfl

/-- Is it a space or the end of a line? -/
def isSpaceOrBreak (c : Char) : Bool := c == ' ' || isBreak c

/-- Does a space stand at the start or the end? -/
def hasSpaceAtEdge (text : List Char) : Bool :=
  text.head?.any (· == ' ') || text.getLast?.any (· == ' ')

/-- The characters with a meaning of their own at the start of a scalar. -/
def openingIndicators : List Char :=
  ['#', ',', '[', ']', '{', '}', '&', '*', '!', '|', '>', '\'', '"', '%', '@', '\x60']

/-- Does the text start like something that is not a scalar? -/
def opensOtherwise : List Char → Bool
  | [] => false
  | c :: rest =>
    openingIndicators.contains c
      || ((c == '?' || c == '-') && isGapOrEnd (rest.headD terminator))

/-- Does the text start like the bounds of a document? -/
def opensLikeBounds (text : List Char) : Bool :=
  text.take 3 == ['-', '-', '-'] || text.take 3 == ['.', '.', '.']

/-- Does the end of a key or the start of a comment stand in the text? -/
def hasKeyEndOrComment (text : List Char) : Bool :=
  hasPair (fun a b => (a == ':' && isGapOrEnd b) || (isGapOrEnd a && b == '#'))
    (text ++ [terminator])

/-- Could the text, written plainly, be mistaken for something that is not a scalar? -/
def isMistakable (text : List Char) : Bool :=
  opensLikeBounds text || opensOtherwise text || hasKeyEndOrComment text

/-- Does a line end come right after a space? -/
def hasSpaceBeforeBreak (text : List Char) : Bool := hasPair (fun a b => a == ' ' && isBreak b) text

/-- Does a space come right after a line end? -/
def hasSpaceAfterBreak (text : List Char) : Bool := hasPair (fun a b => isBreak a && b == ' ') text

/-- Does a plain scalar with this text read as something other than text? -/
def readsAsOther (text : List Char) : Bool :=
  PlainValue.ofText text != .text || PlainValue.isPadded text

/-! ## Section 2: Which form will do -/

/-- Can the text be a plain scalar? -/
def allowsPlain (text : List Char) : Bool :=
  text.all isPrintable && !text.any isBreak && !hasSpaceAtEdge text && !isMistakable text

/-- Can the text stand in single quotes? -/
def allowsSingle (text : List Char) : Bool :=
  text.all isPrintable && !hasSpaceBeforeBreak text && !hasSpaceAfterBreak text

/-- Can the text be a literal scalar? -/
def allowsLiteral (text : List Char) : Bool :=
  text.all isPrintable && !hasSpaceBeforeBreak text && !text.getLast?.any (· == ' ')

/-- The form in which a text is written. -/
def formOf (text : List Char) : ScalarStyle :=
  if text.contains '\n' then (if allowsLiteral text then .literal else .doubleQuoted)
  else if !readsAsOther text && allowsPlain text then .plain
  else if allowsSingle text then .singleQuoted
  else .doubleQuoted

/-- A plain form has only characters that need no escape. -/
theorem isPrintable_of_allowsPlain {text : List Char} (h : allowsPlain text = true) {c : Char}
    (hc : c ∈ text) : isPrintable c = true := by
  simp only [allowsPlain, Bool.and_eq_true, List.all_eq_true] at h
  exact h.1.1.1 c hc

end ChangeLint.Yaml
