import ChangeLint.Patch.Members

/-! # Sets of changed lines

A set of line numbers that keeps the order in which they were first inserted.  Line numbers
are texts and compared as such.  Two sets are equal when they hold the same lines in the same
order.

* A `LineTable` holds the lines twice: as a list, for their order, and as members, for looking
  them up.  Each operation reads one of the two.
* A `LineSet` is a table in which the two agree, so that they cannot tell different things. -/

namespace ChangeLint.Patch

/-! ## Section 1: Tables -/

/-- Lines in the order of their first insertion, and the same lines as members. -/
structure LineTable where
  ordered : List String
  members : Members
  deriving DecidableEq

namespace LineTable

/-- The table without lines. -/
def empty : LineTable := ⟨[], .empty⟩

/-- Is the line among the members? -/
def contains (table : LineTable) (line : String) : Bool := table.members.contains line

/-- Adds a line behind the others, unless it is a member already.  The answer says whether it
was added. -/
def insert (table : LineTable) (line : String) : Bool × LineTable :=
  if table.contains line then (false, table)
  else (true, ⟨table.ordered ++ [line], table.members.insert line⟩)

/-- The table with all lines of a list, inserted from left to right. -/
def insertAll (table : LineTable) (lines : List String) : LineTable :=
  lines.foldl (fun table line => (table.insert line).2) table

/-- The table of the lines of a list. -/
def ofList (lines : List String) : LineTable := empty.insertAll lines

/-- The number of lines in order. -/
def size (table : LineTable) : Nat := table.ordered.length

/-- Is there no line in order? -/
def isEmpty (table : LineTable) : Bool := table.ordered.isEmpty

/-- Order and members agree: no line stands in order twice, and the lines in order are the
members. -/
structure InStep (table : LineTable) : Prop where
  nodup : table.ordered.Nodup
  agree : ∀ line, table.contains line = true ↔ line ∈ table.ordered

theorem insert_of_contains {table : LineTable} {line : String} (h : table.contains line = true) :
    table.insert line = (false, table) := if_pos h

theorem insert_of_not_contains {table : LineTable} {line : String}
    (h : table.contains line = false) :
    table.insert line = (true, ⟨table.ordered ++ [line], table.members.insert line⟩) :=
  if_neg (Bool.eq_false_iff.mp h)

theorem inStep_empty : empty.InStep where
  nodup := List.nodup_nil
  agree _ := by simp [contains, empty]

/-- An insertion keeps order and members in step. -/
theorem InStep.insert {table : LineTable} (h : table.InStep) (line : String) :
    (table.insert line).2.InStep := by
  cases hline : table.contains line with
  | true =>
    rw [insert_of_contains hline]
    exact h
  | false =>
    have hnew : line ∉ table.ordered := by
      rw [← h.agree, hline]
      exact Bool.false_ne_true
    rw [insert_of_not_contains hline]
    constructor
    · refine List.nodup_append.mpr ⟨h.nodup, by simp, ?_⟩
      intro a ha b hb hab
      rw [List.mem_singleton.mp hb] at hab
      exact hnew (hab ▸ ha)
    · intro other
      show (table.members.insert line).contains other = true ↔ other ∈ table.ordered ++ [line]
      rw [Members.contains_insert_iff, List.mem_append, List.mem_singleton, ← h.agree other]
      exact Or.comm

end LineTable

/-! ## Section 2: Sets -/

/-- A set of lines in the order of their first insertion. -/
structure LineSet where
  table : LineTable
  inStep : table.InStep
  deriving DecidableEq

namespace LineSet

/-- The lines in order. -/
def toList (set : LineSet) : List String := set.table.ordered

/-- The set without lines. -/
def empty : LineSet := ⟨.empty, LineTable.inStep_empty⟩

instance : EmptyCollection LineSet := ⟨empty⟩
instance : Inhabited LineSet := ⟨empty⟩

/-- Is the line in the set? -/
def contains (set : LineSet) (line : String) : Bool := set.table.contains line

/-- The set with the line at its end, unless it holds the line already. -/
def insert (set : LineSet) (line : String) : LineSet :=
  ⟨(set.table.insert line).2, set.inStep.insert line⟩

/-- The set with all lines of a list, inserted from left to right. -/
def insertAll (set : LineSet) (lines : List String) : LineSet := lines.foldl insert set

/-- The set of the lines of a list. -/
def ofList (lines : List String) : LineSet := insertAll empty lines

/-- The number of lines. -/
def size (set : LineSet) : Nat := set.table.size

/-- Is there no line? -/
def isEmpty (set : LineSet) : Bool := set.table.isEmpty

/-- The set with the lines of another one after its own. -/
def union (set other : LineSet) : LineSet := set.insertAll other.toList

/-! ## What the operations do to the list of lines -/

theorem nodup (set : LineSet) : set.toList.Nodup := set.inStep.nodup

theorem size_eq_length (set : LineSet) : set.size = set.toList.length := rfl

theorem contains_iff {set : LineSet} {line : String} :
    set.contains line = true ↔ line ∈ set.toList := set.inStep.agree line

/-- The order of the lines says what the members are. -/
@[ext] theorem ext {a b : LineSet} (h : a.toList = b.toList) : a = b := by
  have hmembers : a.table.members = b.table.members := by
    refine Members.ext fun line => ?_
    have hline : a.contains line = true ↔ b.contains line = true := by
      rw [contains_iff, contains_iff, h]
    exact hline
  obtain ⟨⟨_, _⟩, _⟩ := a
  obtain ⟨⟨_, _⟩, _⟩ := b
  cases h
  cases hmembers
  rfl

@[simp] theorem toList_empty : (∅ : LineSet).toList = [] := rfl

theorem toList_insert (set : LineSet) (line : String) :
    (set.insert line).toList = if line ∈ set.toList then set.toList else set.toList ++ [line] := by
  show (set.table.insert line).2.ordered = _
  by_cases h : line ∈ set.toList
  · rw [if_pos h, LineTable.insert_of_contains (contains_iff.mpr h)]
    rfl
  · have hnew : set.table.contains line = false := by
      rw [← Bool.not_eq_true]
      exact fun hline => h (contains_iff.mp hline)
    rw [if_neg h, LineTable.insert_of_not_contains hnew]
    rfl

end LineSet

end ChangeLint.Patch
