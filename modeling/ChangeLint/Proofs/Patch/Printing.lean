import ChangeLint.Patch.Reader
import ChangeLint.Proofs.Text.Reading

/-! # Unified diffs as they are printed

A diff is a list of sections.  A section opens with a header line of git or of Mercurial, which
further header lines may follow, and it may name the two files and go on with hunks.  A hunk is
a header line with two ranges and the lines of its body.

The lengths in a hunk header are those of its body, so that a printed hunk cannot contradict
itself.  `Diff.text` is the printed diff, and `Diff.added` are the lines that it adds to a
file. -/

namespace ChangeLint.Patch

/-- A text within a line. -/
abbrev Inline : Type := { cs : List Char // '\n' ∉ cs }

/-! ## Section 1: Hunks -/

/-- A line of a hunk body as it is printed. -/
inductive PrintedLine where
  | removed (text : Inline)
  | added (text : Inline)
  | kept (text : Inline)
  /-- A kept line that is empty, printed without its mark. -/
  | empty
  /-- A remark about the line before, such as that it has no line feed. -/
  | remark (text : Inline)

namespace PrintedLine

/-- The line with its mark. -/
def chars : PrintedLine → List Char
  | removed text => '-' :: text.val
  | added text => '+' :: text.val
  | kept text => ' ' :: text.val
  | empty => []
  | remark text => '\\' :: text.val

/-- Is it a line of the old file? -/
def inOld : PrintedLine → Bool
  | removed _ | kept _ | empty => true
  | added _ | remark _ => false

/-- Is it a line of the new file? -/
def inNew : PrintedLine → Bool
  | added _ | kept _ | empty => true
  | removed _ | remark _ => false

/-- The number of lines of the old file. -/
def oldLength (body : List PrintedLine) : Nat := body.countP inOld

/-- The number of lines of the new file. -/
def newLength (body : List PrintedLine) : Nat := body.countP inNew

/-- The numbers of the added lines if the next line of the new file has number `next`. -/
def addedFrom (next : Nat) : List PrintedLine → List Nat
  | [] => []
  | added _ :: body => next :: addedFrom (next + 1) body
  | kept _ :: body => addedFrom (next + 1) body
  | empty :: body => addedFrom (next + 1) body
  | removed _ :: body => addedFrom next body
  | remark _ :: body => addedFrom next body

end PrintedLine

/-- A range as it is printed; a length of 1 may be left out. -/
def rangeText (start length : Nat) (short : Bool) : List Char :=
  Text.Decimal.written start
    ++ if short ∧ length = 1 then [] else ',' :: Text.Decimal.written length

/-- The ranges of a hunk header as they are printed, with numbers of any size. -/
structure PrintedRanges where
  oldStart : Nat
  oldLength : Nat
  newStart : Nat
  newLength : Nat
  /-- Is an old length of 1 left out? -/
  shortOld : Bool
  /-- Is a new length of 1 left out? -/
  shortNew : Bool

namespace PrintedRanges

/-- The two ranges. -/
def text (ranges : PrintedRanges) : List Char :=
  '-' :: rangeText ranges.oldStart ranges.oldLength ranges.shortOld
    ++ ' ' :: '+' :: rangeText ranges.newStart ranges.newLength ranges.shortNew

/-- A header line with these ranges. -/
def header (ranges : PrintedRanges) (context : List Char) : List Char :=
  "@@ ".toList ++ (ranges.text ++ (" @@".toList ++ context))

/-- Do all numbers fit a machine word? -/
def Fits (ranges : PrintedRanges) : Prop :=
  ranges.oldStart < Text.Decimal.wordBound ∧ ranges.oldLength < Text.Decimal.wordBound ∧
    ranges.newStart < Text.Decimal.wordBound ∧ ranges.newLength < Text.Decimal.wordBound

instance (ranges : PrintedRanges) : Decidable ranges.Fits :=
  inferInstanceAs (Decidable (_ ∧ _ ∧ _ ∧ _))

end PrintedRanges

/-- A hunk as it is printed.  Its numbers fit a machine word. -/
structure PrintedHunk where
  oldStart : Nat
  newStart : Nat
  body : List PrintedLine
  /-- Is an old length of 1 left out? -/
  shortOld : Bool
  /-- Is a new length of 1 left out? -/
  shortNew : Bool
  context : Inline
  oldStart_lt : oldStart < Text.Decimal.wordBound
  oldLength_lt : PrintedLine.oldLength body < Text.Decimal.wordBound
  newEnd_lt : newStart + PrintedLine.newLength body < Text.Decimal.wordBound

namespace PrintedHunk

/-- The ranges of the header line: the lengths are those of the body. -/
def ranges (hunk : PrintedHunk) : PrintedRanges where
  oldStart := hunk.oldStart
  oldLength := PrintedLine.oldLength hunk.body
  newStart := hunk.newStart
  newLength := PrintedLine.newLength hunk.body
  shortOld := hunk.shortOld
  shortNew := hunk.shortNew

/-- The header line. -/
def header (hunk : PrintedHunk) : List Char := hunk.ranges.header hunk.context.val

/-- All lines. -/
def lines (hunk : PrintedHunk) : List (List Char) :=
  hunk.header :: hunk.body.map PrintedLine.chars

/-- The numbers of the lines that the hunk adds. -/
def added (hunk : PrintedHunk) : List Nat := PrintedLine.addedFrom hunk.newStart hunk.body

end PrintedHunk

/-! ## Section 2: Sections -/

/-- The line that opens a section, with what follows its first words. -/
inductive Opening where
  | git (rest : Inline)
  | mercurial (rest : Inline)

/-- The line that opens a section. -/
def Opening.chars : Opening → List Char
  | git rest => "diff --git ".toList ++ rest.val
  | mercurial rest => "diff -r ".toList ++ rest.val

theorem Opening.chars_git (rest : Inline) :
    (git rest).chars = "diff --git ".toList ++ rest.val := rfl

theorem Opening.chars_mercurial (rest : Inline) :
    (mercurial rest).chars = "diff -r ".toList ++ rest.val := rfl

/-- A header line that says nothing about lines or paths. -/
structure ExtendedLine where
  text : Inline
  not_section : ¬ "diff ".toList <+: text.val
  not_oldFile : ¬ "--- ".toList <+: text.val
  not_newFile : ¬ "+++ ".toList <+: text.val
  not_hunk : ¬ "@@ ".toList <+: text.val

/-- The path of a file, as far as it can be printed and told from what follows it. -/
structure PrintedPath where
  chars : List Char
  ne_nil : chars ≠ []
  no_newline : '\n' ∉ chars
  no_tab : '\t' ∉ chars
  no_backslash : '\\' ∉ chars
  no_blank_end : ∀ c ∈ chars.getLast?, Text.isBlank c = false

/-- The new file of a section. -/
inductive Target where
  | file (path : PrintedPath)
  /-- The file was deleted. -/
  | nowhere

/-- The name of the new file as it is printed. -/
def Target.chars : Target → List Char
  | file path => "b/".toList ++ path.chars
  | nowhere => "/dev/null".toList

theorem Target.chars_file (path : PrintedPath) :
    (file path).chars = "b/".toList ++ path.chars := rfl

theorem Target.chars_nowhere : nowhere.chars = "/dev/null".toList := rfl

theorem Target.not_newline (target : Target) : '\n' ∉ target.chars := by
  cases target with
  | file path =>
    have hside : '\n' ∉ "b/".toList := by decide
    rw [chars_file, List.mem_append, not_or]
    exact ⟨hside, path.no_newline⟩
  | nowhere =>
    rw [chars_nowhere]
    decide

/-- The path of the new file, if there is one. -/
def Target.path? : Target → Option String
  | file path => some (String.ofList path.chars)
  | nowhere => none

/-- A time stamp with the tab before it, if there is one. -/
def stampText : Option Inline → List Char
  | none => []
  | some stamp => '\t' :: stamp.val

/-- The names that a kind of diff gives to the new file of a section. -/
class NewFile (Name : Type) where
  /-- The name as it is printed. -/
  chars : Name → List Char
  no_newline : ∀ name, '\n' ∉ chars name

instance : NewFile Target where
  chars := Target.chars
  no_newline := Target.not_newline

/-- The part of a section that names its files and holds its hunks. -/
structure Edit (Name : Type) where
  oldFile : Inline
  newFile : Name
  stamp : Option Inline
  hunks : List PrintedHunk

namespace Edit

variable {Name : Type}

/-- The line that names the new file. -/
def newFileLine [NewFile Name] (edit : Edit Name) : List Char :=
  "+++ ".toList ++ (NewFile.chars edit.newFile ++ stampText edit.stamp)

/-- All lines. -/
def lines [NewFile Name] (edit : Edit Name) : List (List Char) :=
  ("--- ".toList ++ edit.oldFile.val) :: edit.newFileLine
    :: edit.hunks.flatMap PrintedHunk.lines

end Edit

/-- The section of a file; one without lines to show, as for a binary file or a change of mode,
has no edit. -/
structure PrintedSection (Name : Type) where
  opening : Opening
  extended : List ExtendedLine
  edit? : Option (Edit Name)

namespace PrintedSection

variable {Name : Type}

/-- All lines. -/
def lines [NewFile Name] (s : PrintedSection Name) : List (List Char) :=
  s.opening.chars :: (s.extended.map (·.text.val) ++ s.edit?.elim [] Edit.lines)

/-- The hunks, in order. -/
def hunks (s : PrintedSection Name) : List PrintedHunk := s.edit?.elim [] Edit.hunks

/-- The numbers of the lines that the section adds. -/
def added (s : PrintedSection Name) : List Nat := s.hunks.flatMap PrintedHunk.added

/-- The path of the new file, if the section has lines to show and the file was not deleted. -/
def path? (s : PrintedSection Target) : Option String := s.edit?.bind (·.newFile.path?)

end PrintedSection

/-! ## Section 3: Diffs -/

/-- A diff as it is printed. -/
abbrev Diff : Type := List (PrintedSection Target)

namespace Diff

/-- The printed text. -/
def text (diff : Diff) : String :=
  String.ofList (Text.unlines (diff.flatMap PrintedSection.lines))

/-- The paths of the files that the diff leaves, in order and with repeats. -/
def paths (diff : Diff) : List String := diff.filterMap PrintedSection.path?

/-- The numbers of the lines that the diff adds to a file, section by section. -/
def added (diff : Diff) (path : String) : List Nat :=
  (diff.filter (·.path? = some path)).flatMap PrintedSection.added

end Diff

end ChangeLint.Patch
