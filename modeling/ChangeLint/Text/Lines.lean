import ChangeLint.Text.Blank

/-! # Lines of a text

A line ends at a line feed.  A carriage return right before that line feed belongs to the
line end and is dropped with it; a last line without line feed is kept as it is, and
nothing follows a final line feed. -/

namespace ChangeLint.Text

/-- Drops one carriage return at the end. -/
def dropReturn (line : List Char) : List Char :=
  if line.getLast? = some '\r' then line.dropLast else line

/-- The lines made of the pieces between line feeds: all but the last piece were ended by a
line feed, and an empty last piece is no line. -/
def linesOfPieces : List (List Char) → List (List Char)
  | [] => []
  | [last] => if last.isEmpty then [] else [last]
  | piece :: next :: pieces => dropReturn piece :: linesOfPieces (next :: pieces)

/-- The lines of a text. -/
def linesOf (cs : List Char) : List (List Char) := linesOfPieces (splitWhere (· == '\n') cs)

/-- The lines of a text. -/
def lines (s : String) : List String := (linesOf s.toList).map String.ofList

/-- A text without lines is empty. -/
@[simp] theorem linesOf_nil : linesOf [] = [] := rfl

/-- Dropping a carriage return adds no character. -/
theorem mem_of_mem_dropReturn {line : List Char} {c : Char} (h : c ∈ dropReturn line) :
    c ∈ line := by
  unfold dropReturn at h
  split at h
  · exact (List.dropLast_prefix line).subset h
  · exact h

/-- No line holds a line feed. -/
theorem not_newline_of_mem_linesOf {cs : List Char} :
    ∀ line ∈ linesOf cs, '\n' ∉ line := by
  have key : ∀ pieces : List (List Char), (∀ p ∈ pieces, '\n' ∉ p) →
      ∀ line ∈ linesOfPieces pieces, '\n' ∉ line := by
    intro pieces
    induction pieces with
    | nil => simp [linesOfPieces]
    | cons piece pieces ih =>
      intro h line hl
      cases pieces with
      | nil =>
        by_cases he : piece.isEmpty
        · simp [linesOfPieces, he] at hl
        · simp [linesOfPieces, he] at hl
          exact hl ▸ h piece (by simp)
      | cons next pieces =>
        rcases List.mem_cons.mp (by simpa [linesOfPieces] using hl) with rfl | hl
        · exact fun hn => h piece (by simp) (mem_of_mem_dropReturn hn)
        · exact ih (fun p hp => h p (by simp [hp])) line hl
  refine key _ fun p hp hn => ?_
  simpa using not_sep_of_mem_splitWhere p hp '\n' hn

end ChangeLint.Text
