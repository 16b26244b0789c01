import ChangeLint.Host.Launch
import ChangeLint.Text.Decimal
import ChangeLint.Text.Lines

/-! # Running version control commands

`Command.run` runs a command and answers its output; a command that cannot be run or does not
end with status 0 fails.  `Command.probe` only answers whether a command succeeded. -/

namespace ChangeLint.Vcs

open Host (Machine Outcome Ending)

/-- What a command printed; the error output is trimmed. -/
structure Output where
  stdout : String
  stderr : String
  deriving DecidableEq, Repr

namespace Output

/-- The output of a program that ended. -/
def ofOutcome (outcome : Outcome) : Output where
  stdout := Text.Utf8.lossyText outcome.stdout
  stderr := Text.trim (Text.Utf8.lossyText outcome.stderr)

/-- The lines printed that are not blank, without the blanks at their ends. -/
def lines (output : Output) : List String :=
  ((Text.lines output.stdout).map Text.trimEnd).filter (!·.isEmpty)

/-- What a failed command has to say: its error output, or else its output. -/
def complaint (output : Output) : String :=
  if output.stderr.isEmpty then Text.trim output.stdout else output.stderr

end Output

/-- The number shown for an ending; a signal has none of its own. -/
def endingText : Ending → String
  | .exited code => Text.Decimal.text code
  | .signalled => "-1"

/-- A command that is run in a directory. -/
abbrev Command : Type := Invocation

namespace Command

/-- The command as one line. -/
def line (command : Command) : String :=
  command.program ++ " " ++ " ".intercalate command.args

/-- Logs a message about a command. -/
def log (text : String) : Act W Unit := Act.log .debug .vcs text

/-- What comes of a command that was launched. -/
def judge (command : Command) : Except Host.Fault Outcome → Except Error Output
  | .error fault =>
    .error (.vcs ("failed to execute " ++ line command ++ ": " ++ fault.message))
  | .ok outcome =>
    let output := Output.ofOutcome outcome
    if outcome.ending = .exited 0 then .ok output
    else
      .error (.vcs (line command ++ " failed (exit code " ++ endingText outcome.ending ++ "): "
        ++ output.complaint))

/-- Runs a command and answers its output. -/
def run (command : Command) : Attempt Machine Output := .mk do
  log ("running " ++ line command)
  let outcome ← Host.launch command
  pure (judge command outcome)

/-- Runs a command and answers whether it succeeded. -/
def probe (command : Command) : Act Machine Bool := do
  match ← ExceptT.run (run command) with
  | .ok _ => pure true
  -- A system that is not there is no failure of the run.
  | .error error =>
    log (command.program ++ " probe failed: " ++ error.message)
    pure false

end Command

end ChangeLint.Vcs
