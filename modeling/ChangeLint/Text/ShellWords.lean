/-! # Words of a command line

Splits a command line into words the way a POSIX shell does.  Spaces, tabs and line feeds
separate words.  A backslash takes the next character as it is, and vanishes together with a
line feed after it.  Single quotes take everything up to the next one; double quotes let a
backslash act on a dollar sign, a grave accent, a double quote, a backslash and a line feed
only.  A number sign at the start of a word opens a comment that goes on to the end of the
line.  Nothing is expanded. -/

namespace ChangeLint.Text.ShellWords

/-- Where in a command line a character stands. -/
inductive Place where
  /-- Between words. -/
  | between
  /-- Right after a backslash between words. -/
  | betweenEscape
  /-- In a word. -/
  | word
  /-- Right after a backslash in a word. -/
  | wordEscape
  /-- In single quotes. -/
  | single
  /-- In double quotes. -/
  | double
  /-- Right after a backslash in double quotes. -/
  | doubleEscape
  /-- In a comment. -/
  | comment
  deriving DecidableEq, Repr

/-- Does the character separate words? -/
def isSeparator (c : Char) : Bool := c == ' ' || c == '\t' || c == '\n'

/-- Does a backslash in double quotes take this character as it is? -/
def isEscapable (c : Char) : Bool := c == '$' || c == '\x60' || c == '"' || c == '\\'

/-- What a character does: the place after it, the characters it adds to the word being read,
and whether it ends that word. -/
structure Move where
  place : Place
  adds : List Char
  ends : Bool
  deriving DecidableEq, Repr

/-- What a character does at a place. -/
def move : Place → Char → Move
  | .between, c =>
    if c = '\'' then ⟨.single, [], false⟩
    else if c = '"' then ⟨.double, [], false⟩
    else if c = '\\' then ⟨.betweenEscape, [], false⟩
    else if isSeparator c then ⟨.between, [], false⟩
    else if c = '#' then ⟨.comment, [], false⟩
    else ⟨.word, [c], false⟩
  | .betweenEscape, c => if c = '\n' then ⟨.between, [], false⟩ else ⟨.word, [c], false⟩
  | .word, c =>
    if c = '\'' then ⟨.single, [], false⟩
    else if c = '"' then ⟨.double, [], false⟩
    else if c = '\\' then ⟨.wordEscape, [], false⟩
    else if isSeparator c then ⟨.between, [], true⟩
    else ⟨.word, [c], false⟩
  | .wordEscape, c => if c = '\n' then ⟨.word, [], false⟩ else ⟨.word, [c], false⟩
  | .single, c => if c = '\'' then ⟨.word, [], false⟩ else ⟨.single, [c], false⟩
  | .double, c =>
    if c = '"' then ⟨.word, [], false⟩
    else if c = '\\' then ⟨.doubleEscape, [], false⟩
    else ⟨.double, [c], false⟩
  | .doubleEscape, c =>
    if c = '\n' then ⟨.double, [], false⟩
    else if isEscapable c then ⟨.double, [c], false⟩
    else ⟨.double, ['\\', c], false⟩
  | .comment, c => if c = '\n' then ⟨.between, [], false⟩ else ⟨.comment, [], false⟩

/-- The words at the end of a command line, given the word being read.  An open quote has no
end; a backslash at the very end stands for itself. -/
def atEnd : Place → List Char → Option (List (List Char))
  | .between, _ | .comment, _ => some []
  | .betweenEscape, word | .wordEscape, word => some [word ++ ['\\']]
  | .word, word => some [word]
  | .single, _ | .double, _ | .doubleEscape, _ => none

/-- The words from a place on, given what was read of the current word. -/
def wordsFrom (place : Place) (word : List Char) : List Char → Option (List (List Char))
  | [] => atEnd place word
  | c :: cs =>
    let m := move place c
    if m.ends then (wordsFrom m.place [] cs).map (word :: ·)
    else wordsFrom m.place (word ++ m.adds) cs

/-- The words of a command line; none if a quote is not closed. -/
def split? (line : String) : Option (List String) :=
  (wordsFrom .between [] line.toList).map (·.map String.ofList)

end ChangeLint.Text.ShellWords
