import ChangeLint.Text.Blank
import ChangeLint.Text.Utf8

/-! # File trees

A file tree holds directories and files under the paths of their names from the root.  A path
text is resolved by walking its names, from the root if it is absolute and else from a directory
that is known: every name on the way must exist, and everything that a name is looked up in must
be a directory.  So does an empty name, which is what a slash at the end leaves, and so do `.`
and `..`. -/

namespace ChangeLint.Host

/-! ## Section 1: Faults -/

/-- Why the system refuses something. -/
inductive Fault where
  | notFound
  | notDirectory
  | isDirectory
  | nameTooLong
  | denied
  | nulInName
  | nulInArgument
  | notText
  deriving DecidableEq, Repr

/-- The text shown for a fault. -/
def Fault.message : Fault → String
  | notFound => "No such file or directory (os error 2)"
  | notDirectory => "Not a directory (os error 20)"
  | isDirectory => "Is a directory (os error 21)"
  | nameTooLong => "File name too long (os error 36)"
  | denied => "Permission denied (os error 13)"
  | nulInName => "file name contained an unexpected NUL byte"
  | nulInArgument => "nul byte found in provided data"
  | notText => "stream did not contain valid UTF-8"

/-! ## Section 2: Files -/

/-- How a program ended. -/
inductive Ending where
  | exited (code : Nat)
  | signalled
  deriving DecidableEq, Repr

/-- What a program that was run leaves. -/
structure Outcome where
  stdout : List UInt8
  stderr : List UInt8
  ending : Ending
  deriving DecidableEq, Repr

/-- What happens when a file is executed. -/
inductive Execution where
  /-- The file has no execute permission. -/
  | refused
  /-- The file may be executed, but what is to interpret it does not exist. -/
  | noInterpreter
  /-- The file runs, and its outcome depends on its arguments. -/
  | runs (respond : List String → Outcome)

/-- An entry of a file tree. -/
inductive Node where
  | directory
  | file (content : List UInt8) (execution : Execution)

namespace Node

/-- Is it a file? -/
def isFile : Node → Bool
  | file _ _ => true
  | directory => false

/-- Is it a file with execute permission? -/
def isExecutable : Node → Bool
  | file _ .refused => false
  | file _ _ => true
  | directory => false

end Node

/-! ## Section 3: The tree -/

/-- A path from the root, name by name. -/
abbrev Place : Type := List String

/-- Directories and files by their place; the root always exists. -/
structure FileTree where
  entries : List (Place × Node)

namespace FileTree

/-- What is at a place. -/
def node? (tree : FileTree) (place : Place) : Option Node :=
  if place.isEmpty then some .directory else tree.entries.lookup place

/-- The tree without what is at a place. -/
def erase (tree : FileTree) (place : Place) : FileTree :=
  ⟨tree.entries.filter (·.1 != place)⟩

/-- The tree with an entry more, which hides an older one at the same place. -/
def insert (tree : FileTree) (place : Place) (node : Node) : FileTree :=
  ⟨(place, node) :: tree.entries⟩

/-- The longest name, in bytes. -/
def maxName : Nat := 255

/-- The longest path, in bytes. -/
def maxPath : Nat := 4095

/-- Looks a name up in a place. -/
def enter (tree : FileTree) (here : Place) (name : String) : Except Fault Place :=
  match tree.node? here with
  | none => .error .notFound
  | some (.file _ _) => .error .notDirectory
  | some .directory =>
    if name = "" ∨ name = "." then .ok here
    else if name = ".." then .ok here.dropLast
    else if maxName < (Text.Utf8.bytes name).length then .error .nameTooLong
    else if (tree.node? (here ++ [name])).isSome then .ok (here ++ [name])
    else .error .notFound

/-- Looks names up one after the other. -/
def walk (tree : FileTree) : Place → List String → Except Fault Place
  | here, [] => .ok here
  | here, name :: names =>
    match tree.enter here name with
    | .ok next => tree.walk next names
    | .error fault => .error fault

end FileTree

/-! ## Section 4: Path texts -/

/-- The names in a path text. -/
def names (path : String) : List String :=
  (Text.splitWhere (· == '/') path.toList).map String.ofList

/-- Does a text contain a character? -/
def hasChar (c : Char) (text : String) : Bool := text.toList.contains c

/-- A path is absolute: it starts at the root. -/
def IsAbsolute (path : String) : Prop := path.toList.head? = some '/'

instance (path : String) : Decidable (IsAbsolute path) :=
  inferInstanceAs (Decidable (_ = _))

/-- The path text of a path that is taken relative to a directory; an absolute one stands for
itself. -/
def join (dir path : String) : String :=
  if path.toList.head? = some '/' then path
  else if dir.isEmpty ∨ dir.toList.getLast? = some '/' then dir ++ path
  else dir ++ "/" ++ path

namespace IsAbsolute

theorem join_eq {path : String} (h : IsAbsolute path) (dir : String) : join dir path = path :=
  if_pos h

/-- Whatever is taken relative to an absolute path is absolute. -/
theorem join {dir : String} (h : IsAbsolute dir) (path : String) :
    IsAbsolute (join dir path) := by
  have hfront : ∀ rest : String, IsAbsolute (dir ++ rest) := by
    intro rest
    obtain ⟨more, hdir⟩ := List.head?_eq_some_iff.mp h
    rw [IsAbsolute, String.toList_append, hdir]
    rfl
  unfold Host.join
  split
  · next hpath => exact hpath
  · split
    · exact hfront path
    · rw [String.append_assoc]
      exact hfront ("/" ++ path)

end IsAbsolute

namespace FileTree

/-- What a path text leads to from the directory of an absolute path text. -/
def resolveFrom (tree : FileTree) (dir path : String) : Except Fault Node :=
  if hasChar '\x00' path then .error .nulInName
  else if path.isEmpty then .error .notFound
  else if maxPath < (Text.Utf8.bytes path).length then .error .nameTooLong
  else
    match tree.walk [] (names (join dir path)) with
    | .error fault => .error fault
    | .ok place =>
      match tree.node? place with
      | some node => .ok node
      | none => .error .notFound

/-- What an absolute path text leads to. -/
def resolve (tree : FileTree) (path : String) : Except Fault Node := tree.resolveFrom "/" path

/-- An absolute path text leads to the same from every directory. -/
theorem resolveFrom_of_isAbsolute {path : String} (h : IsAbsolute path) (tree : FileTree)
    (dir : String) : tree.resolveFrom dir path = tree.resolve path := by
  unfold resolve resolveFrom
  rw [h.join_eq dir, h.join_eq "/"]

/-- Does a path text lead to something that satisfies `p`, from a directory? -/
def leadsToFrom (tree : FileTree) (dir : String) (p : Node → Bool) (path : String) : Bool :=
  match tree.resolveFrom dir path with
  | .ok node => p node
  | .error _ => false

/-- Does an absolute path text lead to something that satisfies `p`? -/
def leadsTo (tree : FileTree) (p : Node → Bool) (path : String) : Bool :=
  tree.leadsToFrom "/" p path

/-- Reads the file that an absolute path text leads to as text. -/
def readText (tree : FileTree) (path : String) : Except Fault String :=
  match tree.resolve path with
  | .error fault => .error fault
  | .ok .directory => .error .isDirectory
  | .ok (.file content _) =>
    match Text.Utf8.strict? content with
    | some text => .ok (String.ofList text)
    | none => .error .notText

end FileTree

end ChangeLint.Host
