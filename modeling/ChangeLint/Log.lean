import ChangeLint.Event
import ChangeLint.Text.Quoted

/-! # The log as it is shown

An entry of the log is shown with its level, the name of the part of the program that speaks,
and its text.  What could steer a terminal is shown by its number, so that no text of a file or
a program can do that; line ends and tabs are left as they are. -/

namespace ChangeLint

/-- The name under which a part of the program speaks. -/
def Speaker.name : Speaker → String
  | program => "flake8_diff"
  | config => "flake8_diff::config::operations"
  | linter => "flake8_diff::linter"
  | vcs => "flake8_diff::vcs::command"
  | engine => "flake8_diff::engine"

namespace LogEntry

/-- A character as it is shown in a log. -/
def shownChar (c : Char) : List Char :=
  match c with
  | '\x1b' => ['\\', 'x', '1', 'b']
  | '\x07' => ['\\', 'x', '0', '7']
  | '\x08' => ['\\', 'x', '0', '8']
  | '\x0c' => ['\\', 'x', '0', 'c']
  | '\x7f' => ['\\', 'x', '7', 'f']
  | c => if 0x80 ≤ c.toNat ∧ c.toNat ≤ 0x9F then Text.Quoted.byNumber c else [c]

/-- A text as it is shown in a log. -/
def shownText (text : String) : String := String.ofList (text.toList.flatMap shownChar)

/-- The text of an entry with what stands before it. -/
def shown (entry : LogEntry) : String :=
  entry.level.word ++ " " ++ entry.speaker.name ++ ": " ++ shownText entry.text

end LogEntry

end ChangeLint
