/-! # Globs

A glob is a pattern for paths: a sequence of tokens, some of which stand for text of any
length.  A glob is matched against the bytes of a whole path, and no token treats the slash
in a special way unless its doc says so. -/

namespace ChangeLint

/-- A piece of a glob. -/
inductive Glob.Token where
  /-- The bytes of a character. -/
  | literal (c : Char)
  /-- Any one byte. -/
  | anyByte
  /-- Any bytes. -/
  | anyBytes
  /-- Nothing, a slash, or any bytes that end with a slash. -/
  | leadingDirs
  /-- A slash and any bytes after it. -/
  | everythingBelow
  /-- A slash, or any bytes between two slashes. -/
  | innerDirs
  /-- One byte that is in one of the ranges, or, if negated, in none. -/
  | oneOf (negated : Bool) (ranges : List (Char × Char))
  /-- One of several sequences. -/
  | alternatives (branches : List (List Glob.Token))
  deriving Repr

/-- A glob. -/
structure Glob where
  tokens : List Glob.Token
  deriving Repr

namespace Glob

/-- Why a text is not a glob. -/
inductive Fault where
  | unclosedClass
  | invalidRange (low high : Char)
  | unopenedGroup
  | unclosedGroup
  deriving DecidableEq, Repr

/-- The text shown for a fault. -/
def Fault.message : Fault → String
  | unclosedClass => "unclosed character class; missing ']'"
  | invalidRange low high =>
    "invalid range; '" ++ low.toString ++ "' > '" ++ high.toString ++ "'"
  | unopenedGroup =>
    "unopened alternate group; missing '\x7b' (maybe escape '\x7d' with '[\x7d]'?)"
  | unclosedGroup =>
    "unclosed alternate group; missing '\x7d' (maybe escape '\x7b' with '[\x7b]'?)"

/-- The text shown for a fault of a given pattern. -/
def Fault.messageIn (fault : Fault) (pattern : String) : String :=
  "error parsing glob '" ++ pattern ++ "': " ++ fault.message

end Glob

end ChangeLint
