import ChangeLint.Act
import ChangeLint.Host.FileTree

/-! # Running programs

A host is a file tree, the directory in which the run takes place, and the directories in
which programs are searched.  `launch` runs a program in a directory and waits for its end.
A program whose name holds a slash is the file of that path; any other is searched.  The
search passes over directories without the program, goes on past files that may not be
executed, and reports those only if nothing else is found.

Paths need not be absolute.  The directory of a launch is taken relative to that of the run, and
the program and the directories searched are taken relative to the directory of the launch. -/

namespace ChangeLint.Host

/-- What a run finds around it. -/
structure Machine where
  tree : FileTree
  /-- The directory in which the run takes place. -/
  workingDir : String
  /-- The directories in which programs are searched, in order; there are none if no search path
  is set.  An empty one is the directory from which the search is made. -/
  searchPath : List String
  workingDir_absolute : IsAbsolute workingDir

/-- The behaviour of an entry that is executed. -/
def Node.execute : Node → Except Fault (List String → Outcome)
  | .directory => .error .denied
  | .file _ .refused => .error .denied
  | .file _ .noInterpreter => .error .notFound
  | .file _ (.runs respond) => .ok respond

namespace FileTree

/-- The behaviour of the file that a path text leads to from a directory. -/
def executable (tree : FileTree) (dir path : String) : Except Fault (List String → Outcome) :=
  match tree.resolveFrom dir path with
  | .error fault => .error fault
  | .ok node => node.execute

/-- Searches a program in directories that are taken relative to `dir`; `refused` says whether one
was found already that may not be executed. -/
def search (tree : FileTree) (dir program : String) (refused : Bool) :
    List String → Except Fault (List String → Outcome)
  | [] => .error (if refused then .denied else .notFound)
  | entry :: entries =>
    match tree.executable dir (join entry program) with
    | .ok respond => .ok respond
    | .error .notFound => tree.search dir program refused entries
    | .error .notDirectory => tree.search dir program refused entries
    -- The search goes on, but what was refused is remembered.
    | .error .denied => tree.search dir program true entries
    | .error fault => .error fault

end FileTree

namespace Machine

/-- The directories that a launch searches; without a search path these are the ones of the
system. -/
def launchPath (machine : Machine) : List String :=
  if machine.searchPath.isEmpty then ["/bin", "/usr/bin"] else machine.searchPath

/-- The behaviour of a program that is run from a directory. -/
def find (machine : Machine) (dir program : String) :
    Except Fault (List String → Outcome) :=
  if program.isEmpty then .error .notFound
  -- A name with a slash is a path and is not searched.
  else if hasChar '/' program then machine.tree.executable dir program
  else machine.tree.search dir program false machine.launchPath

/-- What a path text leads to from the directory in which the run takes place. -/
def resolve (machine : Machine) (path : String) : Except Fault Node :=
  machine.tree.resolveFrom machine.workingDir path

/-- What a program does that is run in a directory, before it sees its arguments. -/
def prepare (machine : Machine) (invocation : Invocation) :
    Except Fault (List String → Outcome) :=
  if hasChar '\x00' invocation.program || hasChar '\x00' invocation.dir
      || invocation.args.any (hasChar '\x00') then
    .error .nulInArgument
  else
    match machine.resolve invocation.dir with
    | .error fault => .error fault
    | .ok (.file _ _) => .error .notDirectory
    | .ok .directory =>
      -- The program is looked up where it is to run, after the change of directory.
      machine.find (join machine.workingDir invocation.dir) invocation.program

end Machine

/-- Runs a program and waits for its end. -/
def launch (invocation : Invocation) : Act Machine (Except Fault Outcome) := fun machine =>
  match machine.prepare invocation with
  | .error fault => ⟨.error fault, machine, []⟩
  | .ok respond => ⟨.ok (respond invocation.args), machine, [.ran invocation]⟩

/-- Running a program leaves the machine as it is. -/
@[simp] theorem world_launch (invocation : Invocation) (machine : Machine) :
    ((launch invocation).run machine).world = machine := by
  simp only [launch, Act.run]
  split <;> rfl

end ChangeLint.Host
