import ChangeLint.Proofs.Patch.HeaderLines

/-! # A printed diff is read back

The reader finds in a printed diff exactly the lines that the diff adds.  The proof follows the
layers of the printed form: a line of a hunk body, a body, a hunk, a section, the diff.

* Within a body the counters of the open hunk are the numbers of lines still to come, so a body
  line is read as one whatever its text looks like (`run_body`).
* Between hunks no hunk is open (`run_hunk`, `run_hunks`).
* A section makes one update of the changes (`run_section`). -/

namespace ChangeLint.Patch

open Text (dropReturn)

/-! ## Section 1: Changes -/

namespace Changes

/-- Adds the lines with the given numbers to a file, if a file is known. -/
def insertEach (changes : Changes) (file? : Option String) (numbers : List Nat) : Changes :=
  match file? with
  | some file => numbers.foldl (fun changes n => changes.insert file (Text.Decimal.text n)) changes
  | none => changes

@[simp] theorem insertEach_nil (changes : Changes) (file? : Option String) :
    changes.insertEach file? [] = changes := by
  cases file? <;> rfl

theorem insertEach_append (changes : Changes) (file? : Option String) (front back : List Nat) :
    changes.insertEach file? (front ++ back)
      = (changes.insertEach file? front).insertEach file? back := by
  cases file? with
  | none => rfl
  | some file => exact List.foldl_append

/-- Two updates of one file are one. -/
theorem update_update (changes : Changes) (path : String) (f g : LineSet → LineSet) :
    (changes.update path f).update path g = changes.update path fun set => g (f set) := by
  obtain ⟨entries⟩ := changes
  -- Both updates stop at the same entry: the first with the path, or a new one at the end.
  have hentries : updateEntries path g (updateEntries path f entries)
      = updateEntries path (fun set => g (f set)) entries := by
    induction entries with
    | nil => simp [updateEntries]
    | cons entry entries ih =>
      by_cases h : entry.1 = path
      · simp [updateEntries, h]
      · simp [updateEntries, h, ih]
  exact congrArg Changes.mk hentries

/-- Lines that are added to a file after an update of it belong to that update. -/
theorem insertEach_update (changes : Changes) (path : String) (f : LineSet → LineSet)
    (numbers : List Nat) :
    (changes.update path f).insertEach (some path) numbers
      = changes.update path fun set => (f set).insertAll (numbers.map Text.Decimal.text) := by
  -- By induction on the numbers, for any update, which takes each number in.
  induction numbers generalizing f with
  | nil => rfl
  | cons n numbers ih =>
    have hfirst : (changes.update path f).insert path (Text.Decimal.text n)
        = changes.update path fun set => (f set).insert (Text.Decimal.text n) :=
      update_update changes path f _
    show ((changes.update path f).insert path (Text.Decimal.text n)).insertEach (some path) numbers
      = _
    rw [hfirst, ih]
    rfl

/-- An update leaves the files with an entry, and adds the updated one if it is new. -/
theorem map_fst_updateEntries (path : String) (f : LineSet → LineSet)
    (entries : List (String × LineSet)) :
    (updateEntries path f entries).map Prod.fst
      = if path ∈ entries.map Prod.fst then entries.map Prod.fst
        else entries.map Prod.fst ++ [path] := by
  induction entries with
  | nil => rfl
  | cons entry entries ih =>
    by_cases h : entry.1 = path
    · simp [updateEntries, h]
    · have h' : path ≠ entry.1 := fun e => h e.symm
      rw [updateEntries, if_neg h, List.map_cons, ih, List.map_cons]
      -- A later entry may still be the one for the path.
      by_cases hmem : path ∈ entries.map Prod.fst
      · rw [if_pos hmem, if_pos (List.mem_cons_of_mem _ hmem)]
      · rw [if_neg hmem, if_neg (by simpa [h'] using hmem), List.cons_append]

/-- The files with an entry. -/
def files (changes : Changes) : List String := changes.entries.map Prod.fst

theorem nodup_files_update {changes : Changes} (h : changes.files.Nodup) (path : String)
    (f : LineSet → LineSet) : (changes.update path f).files.Nodup := by
  unfold files update
  rw [map_fst_updateEntries]
  by_cases hmem : path ∈ changes.entries.map Prod.fst
  · rw [if_pos hmem]
    exact h
  · rw [if_neg hmem]
    -- A path is put behind the others only if none of them is it.
    refine List.nodup_append.mpr ⟨h, by simp, ?_⟩
    intro file hfile other hother heq
    rw [List.mem_singleton.mp hother] at heq
    exact hmem (heq ▸ hfile)

end Changes

/-! ## Section 2: Hunks -/

namespace PrintedLine

/-- What the line is in a hunk body. -/
def kind : PrintedLine → BodyLine
  | removed _ => .removed
  | added _ => .added
  | kept _ => .kept
  | empty => .kept
  | remark _ => .remark

/-- The mark of a printed line says what it is; its text does not matter. -/
theorem of?_chars (line : PrintedLine) :
    BodyLine.of? (dropReturn line.chars) = some line.kind := by
  -- A carriage return may be dropped from the end of a line, but the mark is at its start.
  have hmark : ∀ mark, mark ≠ '\r' → ∀ cs, dropReturn (mark :: cs) = mark :: dropReturn cs := by
    intro mark hmark cs
    have hend : [mark].getLast? ≠ some '\r' := by simpa using hmark
    exact Text.dropReturn_append hend cs
  cases line with
  | removed text => rw [chars, hmark '-' (by decide)]; rfl
  | added text => rw [chars, hmark '+' (by decide)]; rfl
  | kept text => rw [chars, hmark ' ' (by decide)]; rfl
  | empty => rfl
  | remark text => rw [chars, hmark '\\' (by decide)]; rfl

theorem addedFrom_cons (next : Nat) (line : PrintedLine) (body : List PrintedLine) :
    addedFrom next (line :: body)
      = addedFrom next [line] ++ addedFrom (next + if line.inNew then 1 else 0) body := by
  cases line <;> rfl

theorem oldLength_cons (line : PrintedLine) (body : List PrintedLine) :
    oldLength (line :: body) = oldLength body + if line.inOld then 1 else 0 := List.countP_cons

theorem newLength_cons (line : PrintedLine) (body : List PrintedLine) :
    newLength (line :: body) = newLength body + if line.inNew then 1 else 0 := List.countP_cons

end PrintedLine

/-- Within a word the number of the line behind is the next one. -/
theorem Hunk.lineAfter_of_lt {line : Nat} (h : line + 1 < Text.Decimal.wordBound) :
    lineAfter line = line + 1 := Nat.mod_eq_of_lt h

namespace Reader

/-- The changes after the next new lines of the file were added. -/
theorem record_eq (reader : Reader) :
    reader.record = reader.changes.insertEach reader.file [reader.hunk.newLine] := by
  obtain ⟨changes, file?, hunk⟩ := reader
  cases file? <;> rfl

/-- While a hunk is open, a printed line of its body is read as one. -/
theorem step_body {reader : Reader} (h : reader.hunk.isOpen = true) (line : PrintedLine) :
    reader.step (dropReturn line.chars) = reader.body line.kind := by
  unfold step
  rw [if_pos h, line.of?_chars]

/-- A remark changes nothing, also when the counters have already closed the hunk. -/
theorem step_remark (reader : Reader) (text : Inline) :
    reader.step (dropReturn (PrintedLine.remark text).chars) = reader := by
  -- Behind the last body line of a hunk the remark is read as a header line, which says nothing.
  by_cases h : reader.hunk.isOpen = true
  · rw [step_body h]
    rfl
  · have hend : ['\\'].getLast? ≠ some '\r' := by decide
    have hchars : dropReturn (PrintedLine.remark text).chars = '\\' :: dropReturn text.val :=
      Text.dropReturn_append hend text.val
    unfold step
    rw [if_neg h, hchars, HeaderLine.of_cons_other (by decide)]
    rfl

/-- The counters of the open hunk are the lengths of what is left of its body: a printed line
takes its share off them and is recorded if it is an added one. -/
theorem step_line (line : PrintedLine) (body : List PrintedLine) (changes : Changes)
    (file? : Option String) {next : Nat}
    (hnext : next + PrintedLine.newLength (line :: body) < Text.Decimal.wordBound) :
    step ⟨changes, file?, next, PrintedLine.oldLength (line :: body),
        PrintedLine.newLength (line :: body)⟩ (dropReturn line.chars)
      = ⟨changes.insertEach file? (PrintedLine.addedFrom next [line]), file?,
          next + if line.inNew then 1 else 0, PrintedLine.oldLength body,
          PrintedLine.newLength body⟩ := by
  rw [PrintedLine.newLength_cons] at hnext
  rw [PrintedLine.oldLength_cons, PrintedLine.newLength_cons]
  -- A line of the new file is counted, and the count stays within a word.
  have hafter : line.inNew = true → Hunk.lineAfter next = next + 1 := by
    intro hnew
    rw [hnew, if_pos rfl] at hnext
    exact Hunk.lineAfter_of_lt (by omega)
  cases line with
  | removed text =>
    rw [step_body (by simp [Hunk.isOpen, PrintedLine.inOld])]
    simp [Reader.body, PrintedLine.kind, Hunk.removed, PrintedLine.addedFrom,
      PrintedLine.inOld, PrintedLine.inNew]
  | added text =>
    rw [step_body (by simp [Hunk.isOpen, PrintedLine.inNew])]
    simp [Reader.body, PrintedLine.kind, record_eq, Hunk.added, hafter rfl,
      PrintedLine.addedFrom, PrintedLine.inOld, PrintedLine.inNew]
  | kept text =>
    rw [step_body (by simp [Hunk.isOpen, PrintedLine.inOld])]
    simp [Reader.body, PrintedLine.kind, Hunk.kept, hafter rfl, PrintedLine.addedFrom,
      PrintedLine.inOld, PrintedLine.inNew]
  | empty =>
    rw [step_body (by simp [Hunk.isOpen, PrintedLine.inOld])]
    simp [Reader.body, PrintedLine.kind, Hunk.kept, hafter rfl, PrintedLine.addedFrom,
      PrintedLine.inOld, PrintedLine.inNew]
  | remark text =>
    -- No line need be left to come here, so the line may be read as a header line.
    rw [step_remark]
    simp [PrintedLine.addedFrom, PrintedLine.inOld, PrintedLine.inNew]

/-- A printed body is read to its end: its added lines are found, and no line is left to come. -/
theorem run_body (body : List PrintedLine) (changes : Changes) (file? : Option String)
    {next : Nat} (hnext : next + PrintedLine.newLength body < Text.Decimal.wordBound) :
    run ⟨changes, file?, next, PrintedLine.oldLength body, PrintedLine.newLength body⟩
        (body.map fun line => dropReturn line.chars)
      = ⟨changes.insertEach file? (PrintedLine.addedFrom next body), file?,
          next + PrintedLine.newLength body, 0, 0⟩ := by
  -- By induction on the body, with the counters as the lengths of what is left of it.
  induction body generalizing changes next with
  | nil => simp [run, PrintedLine.addedFrom, PrintedLine.oldLength, PrintedLine.newLength]
  | cons line body ih =>
    -- One line less is to come, and the sum of both counters is the same.
    have hrest : next + (if line.inNew then 1 else 0) + PrintedLine.newLength body
        < Text.Decimal.wordBound := by
      rw [PrintedLine.newLength_cons] at hnext
      omega
    rw [List.map_cons, run, List.foldl_cons, step_line line body changes file? hnext]
    show run _ _ = _
    rw [ih _ hrest, ← Changes.insertEach_append, ← PrintedLine.addedFrom_cons,
      PrintedLine.newLength_cons, Nat.add_assoc, Nat.add_comm (PrintedLine.newLength body)]

/-- Between hunks a line is read as a header line. -/
theorem step_header {reader : Reader} (h : reader.hunk.isOpen = false) (line : List Char) :
    reader.step line = reader.header (.of line) := by
  unfold step
  rw [if_neg (by rw [h]; decide)]

theorem run_append (reader : Reader) (front back : List (List Char)) :
    reader.run (front ++ back) = (reader.run front).run back := List.foldl_append

/-- A printed hunk adds its lines to the file that is known, and is closed behind it. -/
theorem run_hunk {reader : Reader} (h : reader.hunk.isOpen = false) (hunk : PrintedHunk) :
    reader.run (hunk.lines.map dropReturn)
      = ⟨reader.changes.insertEach reader.file hunk.added, reader.file,
          hunk.newStart + PrintedLine.newLength hunk.body, 0, 0⟩ := by
  have hopening : HunkHeader.opening.getLast? ≠ some '\r' := by decide
  -- The header sets the counters to the lengths of the body.
  have hheader : HeaderLine.of (dropReturn hunk.header)
      = .hunk ⟨PrintedLine.oldLength hunk.body, hunk.newStart,
          PrintedLine.newLength hunk.body⟩ := by
    have hparse := parse?_header hunk
    rw [PrintedHunk.header, PrintedRanges.header, toList_hunkOpening,
      Text.dropReturn_append hopening] at hparse ⊢
    exact HeaderLine.of_hunk hparse
  show run (reader.step (dropReturn hunk.header)) _ = _
  rw [step_header h, hheader, List.map_map]
  exact run_body hunk.body reader.changes reader.file hunk.newEnd_lt

/-- So do printed hunks, one after the other. -/
theorem run_hunks (hunks : List PrintedHunk) (reader : Reader)
    (h : reader.hunk.isOpen = false) :
    ∃ hunk, hunk.isOpen = false ∧
      reader.run ((hunks.flatMap PrintedHunk.lines).map dropReturn)
        = ⟨reader.changes.insertEach reader.file (hunks.flatMap PrintedHunk.added),
            reader.file, hunk⟩ := by
  -- By induction on the hunks: each leaves the reader with a closed hunk, as the next one needs.
  induction hunks generalizing reader with
  | nil =>
    refine ⟨reader.hunk, h, ?_⟩
    rw [List.flatMap_nil, List.flatMap_nil, Changes.insertEach_nil]
    rfl
  | cons first hunks ih =>
    have hfirst : (reader.run (first.lines.map dropReturn)).hunk.isOpen = false := by
      rw [run_hunk h]
      rfl
    obtain ⟨hunk, hclosed, hrun⟩ := ih _ hfirst
    refine ⟨hunk, hclosed, ?_⟩
    rw [List.flatMap_cons, List.map_append, run_append, hrun, run_hunk h, List.flatMap_cons,
      Changes.insertEach_append]

end Reader

/-! ## Section 3: Sections -/

/-- Adds an entry for the path with the lines of the given numbers, if there is a path. -/
def Changes.insertAt (changes : Changes) (path? : Option String) (numbers : List Nat) : Changes :=
  match path? with
  | some path => changes.update path (·.insertAll (numbers.map Text.Decimal.text))
  | none => changes

namespace Reader

variable {Name : Type} [NewFile Name]

/-- Lines between hunks that say nothing leave the reader as it is. -/
theorem run_extended (lines : List ExtendedLine) (reader : Reader)
    (h : reader.hunk.isOpen = false) :
    reader.run (lines.map fun line => dropReturn line.text.val) = reader := by
  induction lines with
  | nil => rfl
  | cons line lines ih =>
    have hstep : reader.step (dropReturn line.text.val) = reader := by
      rw [step_header h, of_extended]
      rfl
    rw [List.map_cons, run, List.foldl_cons, hstep]
    exact ih

/-- The names of the files and the hunks behind them: only a path that is read off the name gets
an entry. -/
theorem run_edit (edit : Edit Name) {path? : Option String}
    (hname : HeaderLine.of (dropReturn edit.newFileLine) = .newFile (path?.map String.toList))
    (reader : Reader) (h : reader.hunk.isOpen = false) :
    (reader.run (edit.lines.map dropReturn)).hunk.isOpen = false ∧
      (reader.run (edit.lines.map dropReturn)).changes
        = reader.changes.insertAt path? (edit.hunks.flatMap PrintedHunk.added) := by
  have hold : reader.step (dropReturn ("--- ".toList ++ edit.oldFile.val)) = reader := by
    rw [step_header h, of_oldFile]
    rfl
  have hnew : reader.step (dropReturn edit.newFileLine)
      = reader.header (.newFile (path?.map String.toList)) := by
    rw [step_header h, hname]
  -- Behind the two names the reader is in front of the hunks, with the file it was told.
  have hlines : reader.run (edit.lines.map dropReturn)
      = (reader.header (.newFile (path?.map String.toList))).run
          ((edit.hunks.flatMap PrintedHunk.lines).map dropReturn) := by
    rw [Edit.lines, List.map_cons, List.map_cons, run, List.foldl_cons, List.foldl_cons, hold,
      hnew]
    rfl
  rw [hlines]
  cases path? with
  | none =>
    -- Without a file the added lines are counted, but not recorded.
    obtain ⟨hunk, hclosed, hrun⟩ := run_hunks edit.hunks { reader with file := none } h
    rw [Option.map_none, header, hrun]
    exact ⟨hclosed, rfl⟩
  | some path =>
    -- The entry is made when the file is named, so the hunks only add to it.
    obtain ⟨hunk, hclosed, hrun⟩ := run_hunks edit.hunks
      { reader with file := some path, changes := reader.changes.touch path } h
    rw [Option.map_some, header, String.ofList_toList, hrun]
    exact ⟨hclosed, Changes.insertEach_update reader.changes path id _⟩

/-- A section adds the lines of its hunks to the path that is read off its name. -/
theorem run_section (s : PrintedSection Name) {path? : Option String}
    (hnone : s.edit? = none → path? = none)
    (hname : ∀ edit, s.edit? = some edit →
      HeaderLine.of (dropReturn edit.newFileLine) = .newFile (path?.map String.toList))
    {reader : Reader} (h : reader.hunk.isOpen = false) :
    (reader.run (s.lines.map dropReturn)).hunk.isOpen = false ∧
      (reader.run (s.lines.map dropReturn)).changes = reader.changes.insertAt path? s.added := by
  obtain ⟨opening, extended, edit?⟩ := s
  obtain ⟨named?, hopening⟩ := of_opening opening
  -- Up to the edit only the name in the opening matters.
  have hlines : reader.run ((PrintedSection.lines ⟨opening, extended, edit?⟩).map dropReturn)
      = run { reader with file := named?.map String.ofList }
          ((edit?.elim [] Edit.lines).map dropReturn) := by
    have hstep : reader.step (dropReturn opening.chars)
        = { reader with file := named?.map String.ofList } := by
      rw [step_header h, hopening]
      rfl
    rw [PrintedSection.lines, List.map_cons, List.map_append, List.map_map, run,
      List.foldl_cons, hstep]
    show run _ _ = _
    rw [run_append]
    exact congrArg (run · _) (run_extended extended _ h)
  rw [hlines]
  -- The opening may name a file, but nothing is recorded before the edit names its own.
  cases edit? with
  | none =>
    rw [hnone rfl]
    exact ⟨h, rfl⟩
  | some edit =>
    exact run_edit edit (hname edit rfl) { reader with file := named?.map String.ofList } h

end Reader

/-- The changes after a section: its file has an entry, which holds the added lines too. -/
def PrintedSection.record (s : PrintedSection Target) (changes : Changes) : Changes :=
  changes.insertAt s.path? s.added

namespace Reader

/-- A section of a printed diff makes one update of the changes. -/
theorem run_record {reader : Reader} (h : reader.hunk.isOpen = false)
    (s : PrintedSection Target) :
    (reader.run (s.lines.map dropReturn)).hunk.isOpen = false ∧
      (reader.run (s.lines.map dropReturn)).changes = s.record reader.changes := by
  apply run_section s _ _ h
  · intro hnone
    rw [PrintedSection.path?, hnone]
    rfl
  · intro edit hedit
    rw [of_newFileLine, PrintedSection.path?, hedit]
    exact congrArg HeaderLine.newFile (newPath?_target edit.newFile edit.stamp)

/-- Sections are read one after the other. -/
theorem run_sections (diff : Diff) {reader : Reader} (h : reader.hunk.isOpen = false) :
    (reader.run ((diff.flatMap PrintedSection.lines).map dropReturn)).changes
      = diff.foldl (fun changes s => s.record changes) reader.changes := by
  -- By induction on the sections: each closes its last hunk and makes one update.
  induction diff generalizing reader with
  | nil => rfl
  | cons s diff ih =>
    obtain ⟨hclosed, hchanges⟩ := run_record h s
    rw [List.flatMap_cons, List.map_append, run_append, ih hclosed, hchanges, List.foldl_cons]

end Reader

/-! ## Section 4: Printed lines -/

/-! No printed line holds a line feed, so that the lines of the text are the printed ones. -/

theorem PrintedLine.not_newline (line : PrintedLine) : '\n' ∉ line.chars := by
  have hmark : ∀ mark, mark ≠ '\n' → ∀ text : Inline, '\n' ∉ mark :: text.val := by
    intro mark hmark text h
    rcases List.mem_cons.mp h with h | h
    · exact hmark h.symm
    · exact text.property h
  cases line with
  | removed text => exact hmark '-' (by decide) text
  | added text => exact hmark '+' (by decide) text
  | kept text => exact hmark ' ' (by decide) text
  | empty => exact List.not_mem_nil
  | remark text => exact hmark '\\' (by decide) text

theorem PrintedHunk.not_newline (hunk : PrintedHunk) : ∀ line ∈ hunk.lines, '\n' ∉ line := by
  intro line hline
  -- The header is made of fixed texts, digits and a context that has no line feed.
  rcases List.mem_cons.mp hline with rfl | hbody
  · have hopening : '\n' ∉ HunkHeader.opening := by decide
    have hranges : '\n' ∉ hunk.ranges.text :=
      PrintedRanges.not_mem_text (by decide) (by decide) hunk.ranges
    have hclosing : '\n' ∉ HunkHeader.closing := by decide
    rw [header, PrintedRanges.header, toList_hunkOpening, toList_hunkClosing]
    simp only [List.mem_append, not_or]
    exact ⟨hopening, hranges, hclosing, hunk.context.property⟩
  · obtain ⟨printed, _, rfl⟩ := List.mem_map.mp hbody
    exact printed.not_newline

theorem Opening.not_newline (opening : Opening) : '\n' ∉ opening.chars := by
  cases opening with
  | git rest =>
    have hgit : '\n' ∉ gitOpening := by decide
    rw [chars_git, toList_gitOpening, List.mem_append, not_or]
    exact ⟨hgit, rest.property⟩
  | mercurial rest =>
    have hmercurial : '\n' ∉ sectionOpening ++ ['-', 'r', ' '] := by decide
    rw [chars_mercurial, toList_mercurialOpening, List.mem_append, not_or]
    exact ⟨hmercurial, rest.property⟩

theorem not_newline_stampText (stamp : Option Inline) : '\n' ∉ stampText stamp := by
  cases stamp with
  | none => exact List.not_mem_nil
  | some stamp =>
    intro h
    rcases List.mem_cons.mp h with h | h
    · exact absurd h (by decide)
    · exact stamp.property h

theorem Edit.not_newline {Name : Type} [NewFile Name] (edit : Edit Name) :
    ∀ line ∈ edit.lines, '\n' ∉ line := by
  intro line hline
  -- The old name, the new name, and the hunks.
  rcases List.mem_cons.mp hline with rfl | hline
  · have hopening : '\n' ∉ ['-', '-', '-', ' '] := by decide
    rw [toList_oldFileOpening, List.mem_append, not_or]
    exact ⟨hopening, edit.oldFile.property⟩
  rcases List.mem_cons.mp hline with rfl | hline
  · have hopening : '\n' ∉ newFileOpening := by decide
    rw [newFileLine, toList_newFileOpening]
    simp only [List.mem_append, not_or]
    exact ⟨hopening, NewFile.no_newline edit.newFile, not_newline_stampText edit.stamp⟩
  · obtain ⟨hunk, _, hmem⟩ := List.mem_flatMap.mp hline
    exact hunk.not_newline line hmem

theorem PrintedSection.not_newline {Name : Type} [NewFile Name] (s : PrintedSection Name) :
    ∀ line ∈ s.lines, '\n' ∉ line := by
  intro line hline
  rcases List.mem_cons.mp hline with rfl | hline
  · exact s.opening.not_newline
  rcases List.mem_append.mp hline with hline | hline
  · obtain ⟨extended, _, rfl⟩ := List.mem_map.mp hline
    exact extended.text.property
  · cases hedit : s.edit? with
    | none =>
      rw [hedit] at hline
      exact absurd hline List.not_mem_nil
    | some edit =>
      rw [hedit] at hline
      exact edit.not_newline line hline

/-- The reader sees the printed lines. -/
theorem linesOf_sections {Name : Type} [NewFile Name] (sections : List (PrintedSection Name)) :
    Text.linesOf (Text.unlines (sections.flatMap PrintedSection.lines))
      = (sections.flatMap PrintedSection.lines).map dropReturn := by
  apply Text.linesOf_unlines
  intro line hline
  obtain ⟨s, _, hmem⟩ := List.mem_flatMap.mp hline
  exact s.not_newline line hmem

/-! ## Section 5: The round trip -/

theorem PrintedSection.get?_record (s : PrintedSection Target) (changes : Changes) (path : String) :
    (s.record changes).get? path
      = if s.path? = some path then
          some (((changes.get? path).getD ∅).insertAll (s.added.map Text.Decimal.text))
        else changes.get? path := by
  unfold record Changes.insertAt
  cases hpath : s.path? with
  | none => rfl
  | some own =>
    show (changes.update own _).get? path = _
    rw [Changes.get?_update]
    -- An update is seen in its own file only.
    by_cases h : path = own
    · subst h
      rw [if_pos rfl, if_pos rfl]
    · rw [if_neg h, if_neg]
      intro heq
      exact h (Option.some.inj heq).symm

theorem PrintedSection.nodup_files_record (s : PrintedSection Target) {changes : Changes}
    (h : changes.files.Nodup) : (s.record changes).files.Nodup := by
  unfold record Changes.insertAt
  cases s.path? with
  | none => exact h
  | some path => exact Changes.nodup_files_update h path _

namespace Diff

/-- No line is added to a file that no section leaves. -/
theorem added_of_not_mem_paths {diff : Diff} {path : String} (h : path ∉ diff.paths) :
    diff.added path = [] := by
  have hnone : diff.filter (·.path? = some path) = [] := by
    rw [List.filter_eq_nil_iff]
    intro s hs hpath
    exact h (List.mem_filterMap.mpr ⟨s, hs, by simpa using hpath⟩)
  rw [added, hnone, List.flatMap_nil]

/-- What a file has after some sections: what it had before them, and the lines they add. -/
theorem get?_foldl_record (diff : Diff) (changes : Changes) (path : String) :
    (diff.foldl (fun changes s => s.record changes) changes).get? path
      = if path ∈ diff.paths then
          some (((changes.get? path).getD ∅).insertAll
            ((diff.added path).map Text.Decimal.text))
        else changes.get? path := by
  -- By induction on the sections, for whatever the file has before the first.
  induction diff generalizing changes with
  | nil => rfl
  | cons s diff ih =>
    rw [List.foldl_cons, ih, s.get?_record]
    -- Either the section is about this file, or it leaves its entry alone.
    by_cases hs : s.path? = some path
    · have hadded : added (s :: diff) path = s.added ++ added diff path := by
        simp [added, hs]
      have hmem : path ∈ paths (s :: diff) := by simp [paths, hs]
      rw [if_pos hs, if_pos hmem, hadded, List.map_append]
      -- A later section may add to the same file, or this was the last one.
      by_cases hlater : path ∈ paths diff
      · rw [if_pos hlater, Option.getD_some]
        exact congrArg some List.foldl_append.symm
      · rw [if_neg hlater, added_of_not_mem_paths hlater, List.map_nil, List.append_nil]
    · have hadded : added (s :: diff) path = added diff path := by
        simp [added, hs]
      have hmem : path ∈ paths (s :: diff) ↔ path ∈ paths diff := by
        simp [paths, hs]
      simp only [if_neg hs, hadded, hmem]

/-- Sections give each file one entry. -/
theorem nodup_files_foldl_record (diff : Diff) {changes : Changes} (h : changes.files.Nodup) :
    (diff.foldl (fun changes s => s.record changes) changes).files.Nodup := by
  induction diff generalizing changes with
  | nil => exact h
  | cons s diff ih =>
    rw [List.foldl_cons]
    exact ih (s.nodup_files_record h)

/-- A printed diff is read back: the files that it leaves have one entry each, which holds the
numbers of the lines added to the file by its sections, first to last and without repeats. -/
theorem ofDiff_text (diff : Diff) :
    (Changes.ofDiff diff.text).files.Nodup ∧
      ∀ path, (Changes.ofDiff diff.text).get? path
        = if path ∈ diff.paths then
            some (LineSet.ofList ((diff.added path).map Text.Decimal.text))
          else none := by
  -- Reading the text is reading its printed lines, section by section.
  have hread : Changes.ofDiff diff.text
      = diff.foldl (fun changes s => s.record changes) ∅ := by
    rw [Changes.ofDiff, text, String.toList_ofList, linesOf_sections]
    exact Reader.run_sections diff rfl
  rw [hread]
  constructor
  · exact diff.nodup_files_foldl_record List.nodup_nil
  · intro path
    rw [diff.get?_foldl_record]
    rfl

/-- Added lines that look like the headers of another file are lines of this one. -/
example :
    Changes.ofDiff "diff --git a/f b/f\n--- a/f\n+++ b/f\n@@ -1 +1,2 @@\n-x\n+++ b/g\n+@@ -1 +9 @@"
      = ⟨[("f", LineSet.ofList ["1", "2"])]⟩ := by
  decide +kernel

end Diff

end ChangeLint.Patch
