import ChangeLint.Glob.Basic

/-! # Globs as regular expressions

A glob says the same as a regular expression over bytes.  `Glob.expression` gives that
expression in pieces, `expressionText` writes it, and `expressionDepth` says how deep its
pieces are nested in one another. -/

namespace ChangeLint.Glob

/-! ## Section 1: Expressions -/

/-- A piece of a regular expression. -/
inductive Expression where
  /-- What a sign stands for. -/
  | sign (text : String)
  /-- What a sign stands for, as often as a mark says. -/
  | repeated (text mark : String)
  /-- One byte that is among the members, or, if negated, is not. -/
  | oneOf (negated : Bool) (members : List String)
  /-- One of several sequences. -/
  | group (branches : List (List Expression))
  deriving Repr

mutual

/-- The text of a piece. -/
def Expression.text : Expression → String
  | .sign text => text
  | .repeated text mark => text ++ mark
  | .oneOf negated members =>
    "[" ++ (if negated then "^" else "") ++ String.join members ++ "]"
  | .group branches => "(?:" ++ branchesText branches ++ ")"

/-- The text of a sequence. -/
def sequenceText : List Expression → String
  | [] => ""
  | piece :: pieces => piece.text ++ sequenceText pieces

/-- The text of the branches of a group. -/
def branchesText : List (List Expression) → String
  | [] => ""
  | [branch] => sequenceText branch
  | branch :: branches => sequenceText branch ++ "|" ++ branchesText branches

end

/-- The level that several parts add where one part stands for itself. -/
def levelOf (parts : Nat) : Nat := if parts ≤ 1 then 0 else 1

mutual

/-- How deep a piece is nested. -/
def Expression.depth : Expression → Nat
  | .sign _ => 0
  | .repeated _ _ => 1
  | .oneOf _ members => 1 + levelOf members.length
  | .group branches => 1 + levelOf branches.length + branchesDepth branches

/-- How deep the deepest piece of a sequence is nested. -/
def piecesDepth : List Expression → Nat
  | [] => 0
  | piece :: pieces => max piece.depth (piecesDepth pieces)

/-- How deep the deepest branch of a group is nested. -/
def branchesDepth : List (List Expression) → Nat
  | [] => 0
  | branch :: branches =>
    max (levelOf branch.length + piecesDepth branch) (branchesDepth branches)

end

/-- How deep a sequence is nested. -/
def sequenceDepth (pieces : List Expression) : Nat := levelOf pieces.length + piecesDepth pieces

/-! ## Section 2: Bytes -/

/-- The characters with a meaning of their own. -/
def signs : List Char :=
  ['\\', '.', '+', '*', '?', '(', ')', '|', '[', ']', '{', '}', '^', '$', '#', '&', '-', '~']

/-- A byte as it is written; beyond ASCII, by its number. -/
def byteText (b : UInt8) : String :=
  if b < 0x80 then
    let c := Char.ofNat b.toNat
    if signs.contains c then "\\" ++ c.toString else c.toString
  else "\\x" ++ String.ofList (Nat.toDigits 16 b.toNat)

/-- The bytes of a character as they are written. -/
def charTexts (c : Char) : List String := (String.utf8EncodeChar c).map byteText

/-- The members of a class for a range.  Only the bytes around the dash make a range. -/
def rangeTexts (range : Char × Char) : List String :=
  let low := charTexts range.1
  let high := charTexts range.2
  if range.1 = range.2 then low
  else low.dropLast ++ [low.getLastD "" ++ "-" ++ high.headD ""] ++ high.tail

/-! ## Section 3: Globs -/

/-- Any bytes. -/
def anything : Expression := .repeated "." "*"

mutual

/-- The pieces of a token. -/
def Token.pieces : Token → List Expression
  | .literal c => (charTexts c).map .sign
  | .anyByte => [.sign "."]
  | .anyBytes => [anything]
  | .leadingDirs => [.group [[.repeated "/" "?"], [anything, .sign "/"]]]
  | .everythingBelow => [.sign "/", anything]
  | .innerDirs => [.group [[.sign "/"], [.sign "/", anything, .sign "/"]]]
  | .oneOf negated ranges => [.oneOf negated (ranges.flatMap rangeTexts)]
  | .alternatives branches =>
    match branchesPieces branches with
    | [] => []
    | parts => [.group parts]

/-- The pieces of a sequence of tokens. -/
def tokensPieces : List Token → List Expression
  | [] => []
  | token :: tokens => token.pieces ++ tokensPieces tokens

/-- The pieces of the branches of a group, without the branches that have none. -/
def branchesPieces : List (List Token) → List (List Expression)
  | [] => []
  | branch :: branches =>
    match tokensPieces branch with
    | [] => branchesPieces branches
    | pieces => pieces :: branchesPieces branches

end

/-- The expression of a glob, which is about bytes and holds for the whole of a path. -/
def expression (glob : Glob) : List Expression :=
  let pieces := match glob.tokens with
    | [.leadingDirs] => [anything]
    | tokens => tokensPieces tokens
  [.sign "(?-u)", .sign "^"] ++ pieces ++ [.sign "$"]

/-- The text of the expression of a glob. -/
def expressionText (glob : Glob) : String := sequenceText glob.expression

/-- How deep the expression of a glob is nested. -/
def expressionDepth (glob : Glob) : Nat := sequenceDepth glob.expression

end ChangeLint.Glob
