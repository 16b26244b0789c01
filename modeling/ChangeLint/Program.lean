import ChangeLint.Cli.Help
import ChangeLint.Config.Discovery
import ChangeLint.Config.Writing
import ChangeLint.Log
import ChangeLint.Run

/-! # The program

The program reads its command line and then goes through stages, each of which may fail and
end the run:

* it looks where it is,
* it finds the configuration and lays the options over it,
* it finds the linter,
* it checks the changed files.

`Program.run` is all of it: what is shown, the exit status, and the events of the run. -/

namespace ChangeLint

open Host (Machine)

namespace Program

/-! ## Section 1: Stages -/

/-- The directory in which the run takes place, which must exist. -/
def currentDir : Attempt Machine String := do
  let machine ← Attempt.ofAct Act.look
  match machine.tree.resolve machine.workingDir with
  | .ok _ => pure machine.workingDir
  | .error fault => throw (.user ("failed to read current directory: " ++ fault.message))

/-- Logs the configuration as a text.  The text is written only if it is shown, and if it cannot be
written the run ends. -/
def showConfig (verbosity : Verbosity) (config : Config) : Attempt Machine Unit :=
  if verbosity.shows .debug then do
    let text ← Attempt.ofExcept config.toYaml?
    Attempt.ofAct (Act.log .debug .program ("effective config:\n" ++ text))
  else pure ()

/-- The configuration of the run: the one that is found, with the options laid over it. -/
def configure (options : Cli.Options) (dir : String) : Attempt Machine Config := do
  let found ← Config.discover options.configPath dir
  let config := options.applyTo found
  -- A file was checked when it was read; this is about the options laid over it.
  Attempt.ofExcept config.validate
  showConfig options.verbosity config
  pure config

/-- Goes through all stages and answers whether nothing was kept. -/
def check (options : Cli.Options) : Attempt (Session Machine) Bool := do
  let dir ← Session.onWorld currentDir
  let config ← Session.onWorld (configure options dir)
  let linter ← Session.onWorld (Linter.resolve config.linter config.linterOptions dir)
  config.process linter dir

/-! ## Section 2: What is shown -/

/-- What comes of a run of the program. -/
structure Outcome where
  exitStatus : Nat
  /-- The bytes on the standard output. -/
  stdout : List UInt8
  /-- The messages for the standard error, in order. -/
  messages : List String
  events : List Event

/-- The exit status that reports how the check ended. -/
def exitStatus : Except Error Bool → Nat
  | .ok true => ExitStatus.clean
  | .ok false => ExitStatus.findings
  | .error error => error.exitStatus

/-- The message about a failure, if there is one. -/
def failureMessages : Except Error Bool → List String
  | .ok _ => []
  | .error error => ["Error: " ++ error.message]

/-- The outcome of a check, with as much of the log as the verbosity shows. -/
def outcomeOf (verbosity : Verbosity) (reply : Reply (Session Machine) (Except Error Bool)) :
    Outcome where
  exitStatus := exitStatus reply.answer
  stdout := reply.world.sink.written
  messages := (verbosity.log reply.events).map LogEntry.shown ++ failureMessages reply.answer
  events := reply.events

/-- The exit status for a command line that cannot be used. -/
def usageStatus : Nat := 2

/-- The outcome when the program does not go on after reading the command line. -/
def stopped (stop : Cli.Stop) : Outcome :=
  match stop with
  | .fault _ => ⟨usageStatus, [], [stop.text], []⟩
  | .help _ | .version => ⟨ExitStatus.clean, Text.Utf8.bytes stop.text, [], []⟩

/-- Runs the program on a machine, with a standard output that takes everything. -/
def run (args : List String) (machine : Machine) : Outcome :=
  match Cli.Options.ofArgs args with
  | .error stop => stopped stop
  | .ok options =>
    outcomeOf options.verbosity ((check options).run ⟨machine, .unlimited⟩)

end Program

end ChangeLint
