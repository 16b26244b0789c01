/-! # What happens in a run

A run leaves events behind, in the order in which they happened: the questions that the
engine asks, the programs that are run, and the messages that are logged.  Events are always
recorded; a verbosity decides which messages are shown. -/

namespace ChangeLint

/-- A question of the engine to a version control system or to the linter. -/
inductive Query where
  | isUsed (name : String)
  | changedFiles (name : String)
  | changedLines (file : String)
  | lint (file : String)
  deriving DecidableEq, Repr

/-- A program run: its name as it was invoked, its arguments, and the directory it ran in. -/
structure Invocation where
  program : String
  args : List String
  dir : String
  deriving DecidableEq, Repr

/-- How important a message is. -/
inductive Level where
  | debug
  | info
  | error
  deriving DecidableEq, Repr

/-- Which part of the program speaks. -/
inductive Speaker where
  | program
  | config
  | linter
  | vcs
  | engine
  deriving DecidableEq, Repr

/-- A logged message. -/
structure LogEntry where
  level : Level
  speaker : Speaker
  text : String
  deriving DecidableEq, Repr

/-- Something that happened. -/
inductive Event where
  | asked (query : Query)
  | ran (invocation : Invocation)
  | logged (entry : LogEntry)
  deriving DecidableEq, Repr

namespace Event

/-- The question, if the event is one. -/
def query? : Event → Option Query
  | asked query => some query
  | _ => none

/-- The program run, if the event is one. -/
def invocation? : Event → Option Invocation
  | ran invocation => some invocation
  | _ => none

/-- The message, if the event is one. -/
def entry? : Event → Option LogEntry
  | logged entry => some entry
  | _ => none

end Event

namespace Level

/-- The word that stands for a level in a log. -/
def word : Level → String
  | debug => "DEBUG"
  | info => "INFO"
  | error => "ERROR"

/-- The rank of a level among the levels. -/
def rank : Level → Nat
  | debug => 0
  | info => 1
  | error => 2

end Level

/-- How much of the log is shown. -/
inductive Verbosity where
  | quiet
  | verbose
  | debug
  deriving DecidableEq, Repr

namespace Verbosity

/-- The verbosity that two flags ask for; the debugging flag wins. -/
def ofFlags (verbose debug : Bool) : Verbosity :=
  if debug then .debug else if verbose then .verbose else .quiet

/-- The least level that is shown. -/
def level : Verbosity → Level
  | quiet => .error
  | verbose => .info
  | debug => .debug

/-- Is a message of this level shown? -/
def shows (verbosity : Verbosity) (level : Level) : Bool :=
  verbosity.level.rank ≤ level.rank

/-- The messages shown of some events. -/
def log (verbosity : Verbosity) (events : List Event) : List LogEntry :=
  (events.filterMap Event.entry?).filter fun entry => verbosity.shows entry.level

/-- The log of a run is that of its parts. -/
@[simp] theorem log_append (verbosity : Verbosity) (a b : List Event) :
    verbosity.log (a ++ b) = verbosity.log a ++ verbosity.log b := by
  simp [log]

end Verbosity

end ChangeLint
