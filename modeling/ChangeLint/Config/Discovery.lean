import ChangeLint.Config.Reading
import ChangeLint.Host.Launch

/-! # Finding the configuration

A configuration file that is named must exist.  If none is named, the file that stands in the
directory of the run is read, and if there is none, everything keeps its default.  A file that
is read must hold a configuration that can be used. -/

namespace ChangeLint.Config

open Host (Machine)

/-- Reads the configuration in a file, which is shown by its path. -/
def load (machine : Machine) (path : String) : Except Error Config :=
  match machine.tree.readText (Host.join machine.workingDir path) with
  | .error fault =>
    .error (.user ("failed to read config file '" ++ path ++ "': " ++ fault.message))
  | .ok yaml => ofYaml yaml

/-- The path of the file that is read in a directory if no other is named. -/
def defaultPath (dir : String) : String := Host.join dir fileName

/-- Finds the configuration of a run in a directory. -/
def discover (named : Option String) (dir : String) : Attempt Machine Config := do
  let machine ← Attempt.ofAct Act.look
  match named with
  | some path => .ofExcept (load machine path)
  | none =>
    if machine.tree.leadsTo Host.Node.isFile (defaultPath dir) then
      Attempt.ofAct (Act.log .debug .config ("loading config from " ++ defaultPath dir))
      .ofExcept (load machine (defaultPath dir))
    else pure {}

end ChangeLint.Config
