import ChangeLint.Proofs.Patch.RoundTrip
import ChangeLint.Proofs.Vcs.Answers

/-! # Diffs of one file

A system that is asked for the diff of one file may spell its path in a way of its own: relative
to another directory, quoted, or with another letter in front.  Only whether the file was
deleted matters, because all lines of the diff are taken for lines of that one file.

* `FileDiff` is such a diff as it is printed, and `FileDiff.added` are the numbers of the lines
  that it adds.
* `mem_changedIn_text` says that these are the changed lines. -/

namespace ChangeLint.Patch

open Text (dropReturn)

/-! ## Section 1: Members -/

namespace LineSet

theorem mem_toList_insert {set : LineSet} {line other : String} :
    other ∈ (set.insert line).toList ↔ other ∈ set.toList ∨ other = line := by
  rw [toList_insert]
  by_cases h : line ∈ set.toList
  · rw [if_pos h]
    constructor
    · exact Or.inl
    · rintro (hmem | rfl)
      · exact hmem
      · exact h
  · rw [if_neg h, List.mem_append, List.mem_singleton]

theorem mem_toList_insertAll {set : LineSet} {lines : List String} {line : String} :
    line ∈ (set.insertAll lines).toList ↔ line ∈ set.toList ∨ line ∈ lines := by
  -- By induction on the lines, for every set: what was inserted before is in the set.
  induction lines generalizing set with
  | nil => simp [insertAll]
  | cons first lines ih =>
    have hstep : set.insertAll (first :: lines) = (set.insert first).insertAll lines := rfl
    rw [hstep, ih, mem_toList_insert, List.mem_cons, or_assoc]

theorem mem_toList_union {set other : LineSet} {line : String} :
    line ∈ (set.union other).toList ↔ line ∈ set.toList ∨ line ∈ other.toList :=
  mem_toList_insertAll

end LineSet

namespace Changes

/-- Is the line one of some file? -/
def Holds (changes : Changes) (line : String) : Prop :=
  ∃ entry ∈ changes.entries, line ∈ entry.2.toList

/-- The lines of all files are those of any file. -/
theorem mem_toList_merged {changes : Changes} {line : String} :
    line ∈ changes.merged.toList ↔ changes.Holds line := by
  -- Generalised over the lines that are collected so far.
  have hfold : ∀ (entries : List (String × LineSet)) (set : LineSet),
      line ∈ (entries.foldl (fun set entry => set.union entry.2) set).toList
        ↔ line ∈ set.toList ∨ ∃ entry ∈ entries, line ∈ entry.2.toList := by
    intro entries
    induction entries with
    | nil => simp
    | cons entry entries ih =>
      intro set
      rw [List.foldl_cons, ih, LineSet.mem_toList_union, or_assoc]
      simp
  unfold merged Holds
  rw [hfold]
  simp

/-- Lines that are added to one file are added to the lines of all. -/
theorem holds_insertAt {changes : Changes} {path line : String} {numbers : List Nat} :
    (changes.insertAt (some path) numbers).Holds line
      ↔ changes.Holds line ∨ line ∈ numbers.map Text.Decimal.text := by
  have hentries : ∀ entries : List (String × LineSet),
      (∃ entry ∈ updateEntries path (·.insertAll (numbers.map Text.Decimal.text)) entries,
          line ∈ entry.2.toList)
        ↔ (∃ entry ∈ entries, line ∈ entry.2.toList) ∨ line ∈ numbers.map Text.Decimal.text := by
    intro entries
    induction entries with
    | nil => simp [updateEntries, LineSet.mem_toList_insertAll]
    | cons entry entries ih =>
      -- Lines go to the first entry of the path, or to a new one behind all others.
      by_cases h : entry.1 = path
      · simp only [updateEntries, if_pos h, List.mem_cons, exists_eq_or_imp,
          LineSet.mem_toList_insertAll]
        exact or_right_comm
      · simp only [updateEntries, if_neg h, List.mem_cons, exists_eq_or_imp, ih]
        exact or_assoc.symm
  exact hentries changes.entries

end Changes

/-! ## Section 2: The printed form -/

/-- The path of a file that exists, in any spelling.  What stands behind a tab does not count,
and neither do blanks at the end. -/
structure SpelledPath where
  chars : List Char
  no_newline : '\n' ∉ chars
  somewhere : Text.dropBlanksEnd (chars.takeWhile (· != '\t')) ≠ "/dev/null".toList

instance : NewFile SpelledPath where
  chars := SpelledPath.chars
  no_newline := SpelledPath.no_newline

/-- The diff of one file as it is printed: usually one section, none if there is nothing to
show, and several if the file became one of another kind. -/
structure FileDiff where
  sections : List (PrintedSection SpelledPath)

namespace FileDiff

/-- The printed text. -/
def text (diff : FileDiff) : String :=
  String.ofList (Text.unlines (diff.sections.flatMap PrintedSection.lines))

/-- The hunks, in order. -/
def hunks (diff : FileDiff) : List PrintedHunk := diff.sections.flatMap PrintedSection.hunks

/-- The numbers of the added lines in the new file. -/
def added (diff : FileDiff) : List Nat := diff.hunks.flatMap PrintedHunk.added

end FileDiff

/-! ## Section 3: Reading it -/

/-- A carriage return at the end of a path is one of the blanks there. -/
theorem dropBlanksEnd_takeWhile_dropReturn (cs : List Char) :
    Text.dropBlanksEnd ((dropReturn cs).takeWhile (· != '\t'))
      = Text.dropBlanksEnd (cs.takeWhile (· != '\t')) := by
  unfold dropReturn
  by_cases h : cs.getLast? = some '\r'
  · rw [if_pos h]
    obtain ⟨front, rfl⟩ := List.getLast?_eq_some_iff.mp h
    have hblank : Text.isBlank '\r' = true := by decide
    rw [List.dropLast_concat, List.takeWhile_append]
    -- The carriage return belongs to the path exactly if no tab stands in front of it.
    split
    · next hall =>
      have hfront : front.takeWhile (· != '\t') = front :=
        (List.takeWhile_prefix _).eq_of_length hall
      have hlast : ['\r'].takeWhile (· != '\t') = ['\r'] := by decide
      rw [hfront, hlast]
      simp [Text.dropBlanksEnd, hblank]
    · rfl
  · rw [if_neg h]

/-- In front of a time stamp stands the path, however it is spelled. -/
theorem takeWhile_spelled (path : SpelledPath) (stamp : Option Inline) :
    Text.dropBlanksEnd ((dropReturn (path.chars ++ stampText stamp)).takeWhile (· != '\t'))
      = Text.dropBlanksEnd (path.chars.takeWhile (· != '\t')) := by
  have hstamp : (stampText stamp).takeWhile (· != '\t') = [] := by
    cases stamp with
    | none => rfl
    | some stamp => simp [stampText]
  rw [dropBlanksEnd_takeWhile_dropReturn, List.takeWhile_append]
  -- A tab in the spelling ends the path already, and the stamp is not reached.
  split
  · next hall =>
    have hpath : path.chars.takeWhile (· != '\t') = path.chars :=
      (List.takeWhile_prefix _).eq_of_length hall
    rw [hstamp, hpath, List.append_nil]
  · rfl

/-- A path that is not that of a deleted file names one. -/
theorem newPath?_spelled (path : SpelledPath) (stamp : Option Inline) :
    ∃ name : String, newPath? (dropReturn (path.chars ++ stampText stamp)) = some name.toList := by
  unfold newPath?
  rw [takeWhile_spelled, if_neg]
  · exact ⟨String.ofList _, congrArg some (String.toList_ofList).symm⟩
  · rw [← toList_nowhere]
    -- The only spelling that names no file is excluded by the path itself.
    exact path.somewhere

namespace Reader

/-- A section adds the lines of its hunks, wherever it puts them. -/
theorem holds_run_section {reader : Reader} (h : reader.hunk.isOpen = false)
    (s : PrintedSection SpelledPath) :
    (reader.run (s.lines.map dropReturn)).hunk.isOpen = false ∧
      ∀ line, (reader.run (s.lines.map dropReturn)).changes.Holds line
        ↔ reader.changes.Holds line ∨ line ∈ s.added.map Text.Decimal.text := by
  cases hedit : s.edit? with
  | none =>
    -- Without an edit there is no path, and no line that would be put there.
    have hadded : s.added = [] := by
      rw [PrintedSection.added, PrintedSection.hunks, hedit]
      rfl
    obtain ⟨hclosed, hchanges⟩ := run_section s (fun _ => rfl)
      (fun edit h => absurd (hedit.symm.trans h) (Option.some_ne_none edit).symm) h
    refine ⟨hclosed, fun line => ?_⟩
    rw [hchanges, hadded]
    exact (or_iff_left List.not_mem_nil).symm
  | some edit =>
    obtain ⟨name, hname⟩ := newPath?_spelled edit.newFile edit.stamp
    -- The edit at hand is the only one of the section, and its line names some file.
    have hpath : ∀ edit', s.edit? = some edit' →
        HeaderLine.of (dropReturn edit'.newFileLine)
          = .newFile ((some name).map String.toList) := by
      intro edit' h
      obtain rfl := Option.some.inj (hedit.symm.trans h)
      rw [of_newFileLine]
      exact congrArg HeaderLine.newFile hname
    obtain ⟨hclosed, hchanges⟩ :=
      run_section s (fun h => absurd (hedit.symm.trans h) (Option.some_ne_none edit)) hpath h
    refine ⟨hclosed, fun line => ?_⟩
    rw [hchanges]
    exact Changes.holds_insertAt

/-- So do the sections of a diff. -/
theorem holds_run_sections (sections : List (PrintedSection SpelledPath)) {reader : Reader}
    (h : reader.hunk.isOpen = false) (line : String) :
    (reader.run ((sections.flatMap PrintedSection.lines).map dropReturn)).changes.Holds line
      ↔ reader.changes.Holds line ∨
        line ∈ (sections.flatMap PrintedSection.added).map Text.Decimal.text := by
  -- By induction on the sections; between them no hunk is open, which is what the step wants.
  induction sections generalizing reader with
  | nil => simp [run]
  | cons s sections ih =>
    obtain ⟨hclosed, hholds⟩ := holds_run_section h s
    rw [List.flatMap_cons, List.map_append, run_append, ih hclosed, hholds, or_assoc,
      List.flatMap_cons, List.map_append, List.mem_append]

end Reader

/-- The changed lines that are read from a diff of one file are the lines that it adds. -/
theorem FileDiff.mem_changedIn_text (diff : FileDiff) (line : String) :
    line ∈ (Vcs.changedIn diff.text).toList ↔ ∃ n ∈ diff.added, line = Text.Decimal.text n := by
  have hadded : diff.sections.flatMap PrintedSection.added = diff.added :=
    (List.flatMap_assoc ..).symm
  -- Nothing was changed before the first line.
  have hnothing : ¬ Reader.start.changes.Holds line := by
    rintro ⟨entry, hentry, _⟩
    exact absurd hentry List.not_mem_nil
  rw [Vcs.changedIn, Changes.mem_toList_merged, Changes.ofDiff, text, String.toList_ofList,
    linesOf_sections, Reader.holds_run_sections diff.sections rfl line, or_iff_right hnothing,
    hadded, List.mem_map]
  constructor
  · rintro ⟨n, hn, rfl⟩
    exact ⟨n, hn, rfl⟩
  · rintro ⟨n, hn, rfl⟩
    exact ⟨n, hn, rfl⟩

end ChangeLint.Patch
