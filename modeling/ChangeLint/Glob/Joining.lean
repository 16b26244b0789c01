import ChangeLint.Glob.Expression
import ChangeLint.Text.Decimal

/-! # Globs that are matched together

Globs are made ready together.  A glob that fixes the start or the end of a path is matched as
text, and one that is about the last name in a path by that name alone.  All others need their
expressions, and an expression must not be nested too deep.  Globs that fix the extension of a
path are made ready first and each on its own, and the rest as one list, so that a fault among
these is told by its place in the list.

`joinFault?` gives the first fault of some globs. -/

namespace ChangeLint.Glob

/-! ## Section 1: What a glob fixes -/

/-- Is it a character? -/
def Token.isLiteral : Token → Bool
  | .literal _ => true
  | _ => false

/-- Are the tokens some characters and nothing else? -/
def areText (tokens : List Token) : Bool := !tokens.isEmpty && tokens.all Token.isLiteral

/-- Is it a slash? -/
def Token.isSlash : Token → Bool
  | .literal c => c == '/'
  | _ => false

/-- Do the tokens, back to front, fix the start of a path and nothing else? -/
def fixStart : List Token → Bool
  | .anyBytes :: before => areText before
  | .everythingBelow :: before => before.all Token.isLiteral
  | tokens => areText tokens

/-- Do the tokens fix the end of a path and nothing else?  A slash alone does not count, unless it
follows leading directories. -/
def fixEnd : List Token → Bool
  | .leadingDirs :: .anyBytes :: rest | .anyBytes :: rest =>
    areText rest && !(rest.length == 1 && rest.all Token.isSlash)
  | .leadingDirs :: rest => areText rest
  | _ => false

/-- Does the token stand for a character or a class that leaves out the slash? -/
def Token.staysInName : Token → Bool
  | .literal c => c != '/'
  | .oneOf negated ranges => (ranges.any fun r => r.1 ≤ '/' && '/' ≤ r.2) == negated
  | _ => false

/-- Are the tokens about the last name in a path alone, whatever directories lead to it? -/
def fixName : List Token → Bool
  | .leadingDirs :: rest => !rest.isEmpty && rest.all Token.staysInName
  | _ => false

/-- Do the tokens, back to front, fix the extension of a path? -/
def fixExtension : List Token → Bool
  | .literal c :: before => c != '/' && (c == '.' || fixExtension before)
  | _ => false

/-- How a glob is matched among others. -/
inductive Matcher where
  /-- By comparing text, or by the last name alone. -/
  | text
  /-- By an expression of its own, for the paths with an extension. -/
  | extension
  /-- By an expression among those of other globs. -/
  | expression
  deriving DecidableEq, Repr

/-- How the glob is matched among others. -/
def matcher (glob : Glob) : Matcher :=
  let reversed := glob.tokens.reverse
  if fixStart reversed || fixEnd glob.tokens || fixName glob.tokens then .text
  else if fixExtension reversed then .extension
  else .expression

/-! ## Section 2: Faults -/

/-- How deep an expression may be nested. -/
def maxDepth : Nat := 250

/-- Is the expression of the glob nested too deep? -/
def isTooDeep (glob : Glob) : Bool := maxDepth < glob.expressionDepth

/-- Why globs cannot be matched together. -/
inductive JoinFault where
  /-- An expression of its own is nested too deep. -/
  | alone (expression : String)
  /-- An expression among others is nested too deep. -/
  | among (index : Nat)
  deriving DecidableEq, Repr

/-- The text shown for a fault. -/
def JoinFault.message : JoinFault → String
  | alone expression => "error parsing glob '" ++ expression ++ "': error parsing pattern 0"
  | among index => "error parsing pattern " ++ Text.Decimal.text index

/-- The first fault of globs that are matched together. -/
def joinFault? (globs : List Glob) : Option JoinFault :=
  match globs.find? fun glob => glob.matcher = .extension && glob.isTooDeep with
  | some glob => some (.alone glob.expressionText)
  | none => ((globs.filter (·.matcher = .expression)).findIdx? isTooDeep).map .among

/-- Globs that are matched as text have no fault. -/
theorem joinFault?_eq_none_of_text {globs : List Glob} (h : ∀ glob ∈ globs, glob.matcher = .text) :
    joinFault? globs = none := by
  have alone : globs.find? (fun glob => glob.matcher = .extension && glob.isTooDeep) = none := by
    rw [List.find?_eq_none]
    intro glob member
    simp [h glob member]
  have among : globs.filter (·.matcher = .expression) = [] := by
    rw [List.filter_eq_nil_iff]
    intro glob member
    simp [h glob member]
  simp [joinFault?, alone, among]

end ChangeLint.Glob
