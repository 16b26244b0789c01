import ChangeLint.Patch.LineSet
import ChangeLint.Report.Style
import ChangeLint.Text.Decimal
import ChangeLint.Text.Lines
import ChangeLint.Vcs.Provider

/-! # The engine

The engine lints every changed file and reports the findings on changed lines.

* `Finding.kept` says which lines of a linter's report count: those that state a finding on
  one of the given lines.
* `Engine.check` asks for the changed lines of a file, lints it, and reports what is kept.
* `Engine.runWith` picks a provider and checks its files one after the other.  The run is
  clean if nothing was kept. -/

namespace ChangeLint

open Report (Sink Style)

/-! ## Section 1: What is kept -/

/-- The findings of a linter's report that are on one of the lines, in the order of the
report. -/
def Finding.kept (lines : Patch.LineSet) (report : String) : List Finding :=
  ((Text.lines report).filterMap Finding.parse?).filter fun finding =>
    lines.contains finding.line

/-! ## Section 2: Sessions -/

/-- What the engine works on: the world that its questions go to and the sink of its report. -/
structure Session (W : Type) where
  world : W
  sink : Sink

namespace Session

/-- Carries out an attempt in the world of a session. -/
def onWorld (attempt : Attempt W α) : Attempt (Session W) α :=
  attempt.within world fun world session => { session with world }

/-- Carries out an attempt on the sink of a session. -/
def onSink (attempt : Attempt Sink α) : Attempt (Session W) α :=
  attempt.within sink fun sink session => { session with sink }

/-- Notes a question and puts it to the world. -/
def ask (query : Query) (attempt : Attempt W α) : Attempt (Session W) α := do
  Attempt.ofAct (Act.emit (.asked query))
  onWorld attempt

end Session

/-! ## Section 3: The engine -/

/-- How files are linted and reported. -/
structure Engine (W : Type) where
  /-- The name of the provider to use, if it is not to be found out. -/
  vcs : Option String
  /-- The directory in which the run takes place. -/
  dir : String
  style : Style
  /-- The linter's report on a file. -/
  lint : String → Attempt W String

namespace Engine

/-- Logs a message of the engine. -/
def log (level : Level) (text : String) : Attempt W Unit :=
  .ofAct (Act.log level .engine text)

/-- Reports kept findings one after the other. -/
def reportKept (style : Style) : List Finding → Attempt Sink Unit
  | [] => pure ()
  | finding :: findings => do
    style.findingKept finding
    reportKept style findings

/-- The message that a file is checked. -/
def checkingText (file : String) (lines : Patch.LineSet) : String :=
  "checking " ++ file ++ " lines " ++ ", ".intercalate lines.toList

/-- Checks a file and answers the number of findings kept. -/
def check (engine : Engine W) (provider : Vcs.Provider W) (file : String) :
    Attempt (Session W) Nat := do
  let lines ← Session.ask (.changedLines file) (provider.changedLines file)
  log .info (checkingText file lines)
  let report ← Session.ask (.lint file) (engine.lint file)
  let findings := Finding.kept lines report
  Session.onSink (reportKept engine.style findings)
  -- This is done without findings, too, and it flushes the sink.
  Session.onSink (engine.style.fileFinished file findings)
  pure findings.length

/-- Checks files one after the other and answers the number of findings kept in all. -/
def checkAll (engine : Engine W) (provider : Vcs.Provider W) :
    List String → Attempt (Session W) Nat
  | [] => pure 0
  | file :: files => do
    let here ← engine.check provider file
    let there ← engine.checkAll provider files
    pure (here + there)

/-- Checks all files that a provider lists and answers whether nothing was kept. -/
def runOver (engine : Engine W) (provider : Vcs.Provider W) : Attempt (Session W) Bool := do
  log .debug ("using " ++ provider.name ++ " in " ++ engine.dir)
  let files ← Session.ask (.changedFiles provider.name) provider.changedFiles
  let total ← engine.checkAll provider files
  log .debug (Text.Decimal.text total ++ " violation(s) on changed lines")
  pure (total == 0)

/-- Picks a provider and runs over it. -/
def runWith (engine : Engine W) (providers : List (Vcs.Provider W)) :
    Attempt (Session W) Bool := do
  let provider ← Session.onWorld (Vcs.Provider.choose engine.vcs providers)
  engine.runOver provider

end Engine

end ChangeLint
