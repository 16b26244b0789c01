import ChangeLint.Text.Blank
import ChangeLint.Text.Decimal

/-! # Header lines of a diff

Three kinds of header line say which file and which lines follow.

* `gitPath?` reads the new path off the rest of a `diff --git` line.  Paths may hold spaces,
  so the last ` b/` separates the two.
* `newPath?` reads the path off the rest of a `+++` line.  A tab and a time stamp may follow
  the path; `/dev/null` is the path of a deleted file and is none.
* `HunkHeader.parse?` reads the ranges of a line `@@ -a,b +c,d @@ context`.

Paths are given with forward slashes. -/

namespace ChangeLint.Patch

/-! ## Section 1: Paths -/

/-- The new path in the rest of a `diff --git` line. -/
def gitPath? (rest : List Char) : Option (List Char) :=
  match Text.afterLast? [' ', 'b', '/'] rest with
  | some path => some (Text.forwardSlashes path)
  | none =>
    -- Without that mark the last word is taken, if there are two at least.
    match Text.words rest with
    | _ :: second :: more =>
      (Text.stripHead? ['b', '/'] ((second :: more).getLast (by simp))).map Text.forwardSlashes
    | _ => none

/-- The path that stands for a file that does not exist. -/
def nowhere : List Char := ['/', 'd', 'e', 'v', '/', 'n', 'u', 'l', 'l']

/-- The path in the rest of a `+++` line; none for a deleted file. -/
def newPath? (rest : List Char) : Option (List Char) :=
  let path := Text.dropBlanksEnd (rest.takeWhile (· != '\t'))
  if path = nowhere then none
  else some (Text.forwardSlashes ((Text.stripHead? ['b', '/'] path).getD path))

/-! ## Section 2: Ranges -/

/-- What a hunk header says of the lines that follow: how many belong to the old file, where
the new ones start, and how many belong to the new file. -/
structure HunkHeader where
  oldLength : Nat
  newStart : Nat
  newLength : Nat
  deriving DecidableEq, Repr

/-- A range `start` or `start,length`, cut at the first comma; a missing length is 1. -/
def range? (cs : List Char) : Option (Nat × Nat) :=
  match Text.splitAtFirst? (· == ',') cs with
  | some (start, length) =>
    (Text.Decimal.read? Text.Decimal.wordBound start).bind fun start =>
      (Text.Decimal.read? Text.Decimal.wordBound length).map fun length => (start, length)
  | none => (Text.Decimal.read? Text.Decimal.wordBound cs).map fun start => (start, 1)

/-- A range after its sign. -/
def signedRange? (sign : Char) (cs : List Char) : Option (Nat × Nat) :=
  (Text.stripHead? [sign] cs).bind range?

namespace HunkHeader

/-- The mark at the start of a hunk header. -/
def opening : List Char := ['@', '@', ' ']

/-- The mark that ends the ranges. -/
def closing : List Char := [' ', '@', '@']

/-- The header whose ranges are the first two words. -/
def ofWords? : List (List Char) → Option HunkHeader
  | old :: new :: _ =>
    (signedRange? '-' old).bind fun old =>
      (signedRange? '+' new).map fun new =>
        { oldLength := old.2, newStart := new.1, newLength := new.2 }
  | _ => none

/-- The header that a line states.  The first closing mark ends the ranges; what follows is
context. -/
def parse? (line : List Char) : Option HunkHeader :=
  (Text.stripHead? opening line).bind fun body =>
    (Text.splitAtText? closing body).bind fun (ranges, _) => ofWords? (Text.words ranges)

end HunkHeader

end ChangeLint.Patch
