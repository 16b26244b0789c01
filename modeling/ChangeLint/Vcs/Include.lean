import ChangeLint.Error
import ChangeLint.Glob.Joining
import ChangeLint.Glob.Matching
import ChangeLint.Glob.Reading
import ChangeLint.Host.FileTree

/-! # Include filters

An include filter decides which changed files are linted: those that still exist as files and
match one of its globs.  A filter without globs lets every existing file pass.

Patterns are trimmed and their backslashes read as slashes; a pattern of blanks only is left
out. -/

namespace ChangeLint.Vcs

/-- Which changed files are linted. -/
structure Include where
  globs : List Glob
  deriving Repr

namespace Include

/-- The text of the glob that a pattern stands for. -/
def normalized (pattern : String) : List Char :=
  Text.forwardSlashes (Text.trimmed pattern.toList)

/-- The text shown for a pattern that cannot be read. -/
def faultText (pattern : String) (fault : Glob.Fault) : String :=
  "invalid include pattern '" ++ pattern ++ "': "
    ++ fault.messageIn (String.ofList (normalized pattern))

/-- Reads the glob of a pattern, unless the pattern is blank. -/
def readPattern (pattern : String) : Except Error (Option Glob) :=
  let chars := normalized pattern
  if chars.isEmpty then .ok none
  else
    match Glob.read chars with
    | .ok glob => .ok (some glob)
    | .error fault => .error (.user (faultText pattern fault))

/-- Reads the globs of patterns; the first pattern that cannot be read is reported. -/
def readPatterns : List String → Except Error (List Glob)
  | [] => .ok []
  | pattern :: patterns => do
    let glob ← readPattern pattern
    let globs ← readPatterns patterns
    pure (glob.toList ++ globs)

/-- The filter with some globs, if these can be matched together. -/
def ofGlobs (globs : List Glob) : Except Error Include :=
  match Glob.joinFault? globs with
  | some fault => .error (.user ("invalid include patterns: " ++ fault.message))
  | none => .ok ⟨globs⟩

/-- The filter with some patterns. -/
def ofPatterns (patterns : List String) : Except Error Include := do
  let globs ← readPatterns patterns
  ofGlobs globs

/-- Does the path match one of the globs, if there are any? -/
def admits (filter : Include) (path : String) : Bool :=
  filter.globs.isEmpty || filter.globs.any (·.isMatch path)

/-- Is the file at a path under a directory to be linted? -/
def accepts (filter : Include) (tree : Host.FileTree) (dir path : String) : Bool :=
  tree.leadsTo Host.Node.isFile (Host.join dir path) && filter.admits path

end Include

end ChangeLint.Vcs
