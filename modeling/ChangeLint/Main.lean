import ChangeLint.Program

/-! # The command line

The outer layer: it reads from the file system what a run asks for, runs the program, and
prints what it shows.  It never starts another program, so on the machine that it describes
none is found. -/

namespace ChangeLint.CommandLine

open Host (Machine Node Place)

/-- The place that an absolute path text names when everything on the way is a directory. -/
def placeOf (path : String) : Place :=
  (Host.names path).foldl
    (fun here name =>
      if name = "" ∨ name = "." then here
      else if name = ".." then here.dropLast
      else here ++ [name])
    []

/-- A place and the directories on the way to it. -/
def withParents (place : Place) (node : Node) : List (Place × Node) :=
  (place, node) :: (List.range place.length).map fun n => (place.take n, .directory)

/-- What is in the file of a path text, with the directories on the way to it. -/
def readEntries (path : String) : IO (List (Place × Node)) := do
  try
    let content ← IO.FS.readBinFile path
    pure (withParents (placeOf path) (.file content.toList .refused))
  catch _ => pure []

/-- The path of the configuration file that a command line leads to. -/
def configPath (args : List String) (dir : String) : String :=
  match Cli.Options.ofArgs args with
  | .ok options => (options.configPath.map (Host.join dir)).getD (Config.defaultPath dir)
  | .error _ => Config.defaultPath dir

/-- The machine that a run with these arguments finds. -/
def machine (args : List String) : IO Machine := do
  let dir := Host.join "/" (← IO.currentDir).toString
  let searched ← IO.getEnv "PATH"
  let entries ← readEntries (configPath args dir)
  pure
    { tree := ⟨entries ++ withParents (placeOf dir) .directory⟩
      workingDir := dir
      searchPath := (searched.map (·.splitOn ":")).getD []
      workingDir_absolute := Host.IsAbsolute.join (by decide) _ }

end ChangeLint.CommandLine

/-- Runs the program with the arguments of the command line. -/
def main (args : List String) : IO UInt32 := do
  let outcome := ChangeLint.Program.run args (← ChangeLint.CommandLine.machine args)
  (← IO.getStdout).write ⟨outcome.stdout.toArray⟩
  (← IO.getStdout).flush
  for message in outcome.messages do
    IO.eprintln message
  pure (UInt32.ofNat outcome.exitStatus)
