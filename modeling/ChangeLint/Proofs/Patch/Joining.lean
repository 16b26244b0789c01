import ChangeLint.Proofs.Patch.RoundTrip

/-! # Diffs one behind the other

A line that starts with `diff` opens a section wherever it stands.  So when one diff is put
behind another, it is read as it is by itself, in whatever state the first one left the reader:
in the middle of a hunk, with a file, or with none.

* `Changes.Joins` says that some changes are those of two diffs put together.
* `Continues` relates the reader of both diffs to a reader of the second one alone.
  `Continues.step` is the step lemma and `Continues.run` the run lemma.
* `Changes.ofDiff_append` puts it together. -/

namespace ChangeLint.Patch

/-! ## Section 1: Sets put together -/

namespace LineSet

/-- Of lines without repeats, those are added that the set does not hold. -/
theorem toList_insertAll_of_nodup {lines : List String} (h : lines.Nodup) (set : LineSet) :
    (set.insertAll lines).toList = set.toList ++ lines.filter (· ∉ set.toList) := by
  induction lines generalizing set with
  | nil => simp [insertAll]
  | cons line lines ih =>
    obtain ⟨hline, hlines⟩ := List.nodup_cons.mp h
    have hstep : set.insertAll (line :: lines) = (set.insert line).insertAll lines := rfl
    rw [hstep, ih hlines, toList_insert]
    -- A line that the set holds changes nothing, and is not among those added either.
    by_cases hmem : line ∈ set.toList
    · rw [if_pos hmem, List.filter_cons_of_neg (by simpa using hmem)]
    · -- The line that was just added is none of the others.
      have hsame : lines.filter (· ∉ set.toList ++ [line]) = lines.filter (· ∉ set.toList) := by
        apply List.filter_congr
        intro other hother
        have hne : other ≠ line := fun heq => hline (heq ▸ hother)
        simp [hne]
      rw [if_neg hmem, List.filter_cons_of_pos (by simpa using hmem), hsame, List.append_assoc]
      rfl

/-- Two sets put together: the lines of the first one, and behind them those of the second one
that are not there already. -/
theorem toList_union (set other : LineSet) :
    (set.union other).toList = set.toList ++ other.toList.filter (· ∉ set.toList) :=
  toList_insertAll_of_nodup other.nodup set

/-- A line that is added to the second set is added to both together. -/
theorem union_insert (set other : LineSet) (line : String) :
    set.union (other.insert line) = (set.union other).insert line := by
  unfold union
  rw [toList_insert]
  by_cases h : line ∈ other.toList
  -- The line is in the second set, and so in both together, wherever it stands there.
  · have hheld : line ∈ (set.insertAll other.toList).toList := by
      have hunion := toList_union set other
      rw [union] at hunion
      rw [hunion, List.mem_append, List.mem_filter]
      by_cases hset : line ∈ set.toList
      · exact Or.inl hset
      · exact Or.inr ⟨h, by simpa using hset⟩
    rw [if_pos h]
    apply ext
    rw [toList_insert, if_pos hheld]
  · rw [if_neg h]
    exact List.foldl_append

end LineSet

/-! ## Section 2: Changes put together -/

namespace Changes

/-- The changed lines of a file, in order; none if it has no entry. -/
def linesIn (changes : Changes) (path : String) : List String :=
  ((changes.get? path).getD ∅).toList

/-- A file has an entry if it can be looked up. -/
theorem mem_files_iff {changes : Changes} {path : String} :
    path ∈ changes.files ↔ (changes.get? path).isSome = true := by
  unfold files get?
  rw [List.lookup_isSome_iff, List.mem_map]
  constructor
  · intro ⟨entry, hentry, hpath⟩
    exact ⟨entry, hentry, by simpa using hpath.symm⟩
  · intro ⟨entry, hentry, hpath⟩
    exact ⟨entry, hentry, (by simpa using hpath : path = entry.1).symm⟩

/-- Each file has the set that it has in one of two changes, and if it has one in both, these
put together. -/
def Joins (whole front back : Changes) : Prop :=
  ∀ path, whole.get? path = Option.merge LineSet.union (front.get? path) (back.get? path)

theorem joins_empty (changes : Changes) : changes.Joins changes ∅ := by
  intro path
  show changes.get? path = Option.merge LineSet.union (changes.get? path) none
  rw [Option.merge_none_right]

/-- An update of the second changes that puts lines at the end of a set is an update of both
together. -/
theorem Joins.update {whole front back : Changes} (h : whole.Joins front back) (path : String)
    {f : LineSet → LineSet}
    (hf : ∀ set other : LineSet, f (set.union other) = set.union (f other)) :
    (whole.update path f).Joins front (back.update path f) := by
  intro other
  rw [get?_update, get?_update]
  -- An update changes the entry of its own path only.
  by_cases hpath : other = path
  · rw [if_pos hpath, if_pos hpath, h path, hpath]
    -- The file has an entry afterwards; what it had in the front decides about the rest.
    cases front.get? path with
    | none =>
      rw [Option.merge_none_left, Option.merge_none_left]
    | some set =>
      cases back.get? path with
      | none =>
        have hset : set.union ∅ = set := rfl
        have hempty : f set = set.union (f ∅) := by
          rw [← hf, hset]
        simp [hempty]
      | some added => simp [hf]
  · rw [if_neg hpath, if_neg hpath]
    exact h other

theorem Joins.touch {whole front back : Changes} (h : whole.Joins front back) (path : String) :
    (whole.touch path).Joins front (back.touch path) :=
  h.update path fun _ _ => rfl

theorem Joins.insert {whole front back : Changes} (h : whole.Joins front back)
    (path line : String) : (whole.insert path line).Joins front (back.insert path line) := by
  apply h.update path
  intro set other
  exact (LineSet.union_insert set other line).symm

/-- Changes put together have the files of both. -/
theorem Joins.mem_files {whole front back : Changes} (h : whole.Joins front back)
    (path : String) : path ∈ whole.files ↔ path ∈ front.files ∨ path ∈ back.files := by
  -- A merge gives something as soon as one of the two does.
  rw [mem_files_iff, mem_files_iff, mem_files_iff, h path, Option.isSome_merge,
    Bool.or_eq_true]

/-- The lines of a file in changes put together. -/
theorem Joins.linesIn {whole front back : Changes} (h : whole.Joins front back)
    (path : String) :
    whole.linesIn path
      = front.linesIn path ++ (back.linesIn path).filter (· ∉ front.linesIn path) := by
  unfold Changes.linesIn
  rw [h path]
  cases front.get? path with
  | none =>
    -- All lines of the second changes are new then.
    rw [Option.merge_none_left]
    exact (List.filter_eq_self.mpr fun _ _ => rfl).symm
  | some set =>
    cases back.get? path with
    | none => simp
    | some added => exact LineSet.toList_union set added

end Changes

/-! ## Section 3: Two readers -/

namespace Hunk

/-- Two hunks that read the lines behind them alike: they are the same, or no line is to come in
either of them. -/
def Alike (a b : Hunk) : Prop := a = b ∨ a.isOpen = false ∧ b.isOpen = false

theorem Alike.refl (hunk : Hunk) : hunk.Alike hunk := Or.inl rfl

theorem Alike.isOpen_eq {a b : Hunk} (h : a.Alike b) : a.isOpen = b.isOpen := by
  rcases h with h | ⟨ha, hb⟩
  · rw [h]
  · rw [ha, hb]

/-- Open hunks are alike only if they are the same. -/
theorem Alike.eq_of_isOpen {a b : Hunk} (h : a.Alike b) (hopen : a.isOpen = true) : a = b := by
  rcases h with h | ⟨ha, _⟩
  · exact h
  · rw [ha] at hopen
    exact absurd hopen (by decide)

end Hunk

namespace Reader

/-- A reader that has read a diff behind others, beside one that has read this diff alone: they
know the same file, are in the same hunk, and differ in the changes found before. -/
structure Continues (front : Changes) (long short : Reader) : Prop where
  changes : long.changes.Joins front short.changes
  file : long.file = short.file
  hunk : long.hunk.Alike short.hunk

section

variable {front : Changes} {long short : Reader}

theorem Continues.record (h : Continues front long short) (hhunk : long.hunk = short.hunk) :
    long.record.Joins front short.record := by
  unfold Reader.record
  rw [h.file, hhunk]
  cases short.file with
  | none => exact h.changes
  | some file => exact h.changes.insert file _

/-- In the same hunk both readers read a body line alike. -/
theorem Continues.body (h : Continues front long short) (hhunk : long.hunk = short.hunk)
    (kind : BodyLine) : Continues front (long.body kind) (short.body kind) := by
  -- Each kind of line moves the counters of both hunks in the same way.
  cases kind with
  | added => exact ⟨h.record hhunk, h.file, Or.inl (congrArg Hunk.added hhunk)⟩
  | removed => exact ⟨h.changes, h.file, Or.inl (congrArg Hunk.removed hhunk)⟩
  | kept => exact ⟨h.changes, h.file, Or.inl (congrArg Hunk.kept hhunk)⟩
  | remark => exact h

/-- Outside of a hunk both readers read a line alike. -/
theorem Continues.header (h : Continues front long short) (line : HeaderLine) :
    Continues front (long.header line) (short.header line) := by
  -- What a header line leaves is decided by the line, but for the changes.
  cases line with
  | fileSection path => exact ⟨h.changes, rfl, h.hunk⟩
  | newFile path =>
    cases path with
    | none => exact ⟨h.changes, rfl, h.hunk⟩
    | some path => exact ⟨h.changes.touch _, rfl, h.hunk⟩
  | hunk header => exact ⟨h.changes, h.file, Hunk.Alike.refl _⟩
  | other => exact h

/-- Both readers read a line alike. -/
theorem Continues.step (h : Continues front long short) (line : List Char) :
    Continues front (long.step line) (short.step line) := by
  unfold Reader.step
  rw [← h.hunk.isOpen_eq]
  by_cases hopen : long.hunk.isOpen = true
  · rw [if_pos hopen, if_pos hopen]
    -- A line that cannot stand in the body closes the hunk of either reader.
    cases BodyLine.of? line with
    | some kind => exact h.body (h.hunk.eq_of_isOpen hopen) kind
    | none =>
      have hclosed : Continues front { long with hunk := .closed } { short with hunk := .closed } :=
        ⟨h.changes, h.file, Hunk.Alike.refl _⟩
      exact hclosed.header (.of line)
  · rw [if_neg hopen, if_neg hopen]
    exact h.header (.of line)

/-- Both readers read all lines alike. -/
theorem Continues.run (h : Continues front long short) (lines : List (List Char)) :
    Continues front (long.run lines) (short.run lines) := by
  -- By induction on the lines, with the step lemma; no hunk needs to be open or closed for it.
  induction lines generalizing long short with
  | nil => exact h
  | cons line lines ih => exact ih (h.step line)

end

/-- A line that opens a section leaves nothing of what was known before but the changes. -/
theorem continues_of_sectionOpening {line : List Char} (h : sectionOpening <+: line)
    (reader : Reader) : Continues reader.changes (reader.step line) (start.step line) := by
  obtain ⟨path, hline⟩ := HeaderLine.of_sectionOpening h
  -- The line starts with a letter, and no line of a body does.
  have hbody : BodyLine.of? line = none := by
    obtain ⟨rest, rfl⟩ := h
    rfl
  have hstart : start.step line = { start with file := path.map String.ofList } := by
    unfold step
    rw [if_neg (by decide), hline]
    rfl
  rw [hstart]
  unfold step
  rw [hline, hbody]
  -- An open hunk is closed by the line; a hunk that was read to its end stays as it is.
  by_cases hopen : reader.hunk.isOpen = true
  · rw [if_pos hopen]
    exact ⟨Changes.joins_empty reader.changes, rfl, Or.inr ⟨rfl, rfl⟩⟩
  · have hclosed : reader.hunk.isOpen = false := by simpa using hopen
    rw [if_neg hopen]
    exact ⟨Changes.joins_empty reader.changes, rfl, Or.inr ⟨hclosed, rfl⟩⟩

/-- A diff that opens a section is read behind other lines as it is read by itself. -/
theorem continues_run {lines : List (List Char)} {first : List Char}
    (hfirst : lines.head? = some first) (h : sectionOpening <+: first) (reader : Reader) :
    Continues reader.changes (reader.run lines) (start.run lines) := by
  obtain ⟨rest, rfl⟩ := List.head?_eq_some_iff.mp hfirst
  exact (continues_of_sectionOpening h reader).run rest

end Reader

/-! ## Section 4: Two diffs -/

namespace Changes

/-- The reader of two diffs one behind the other continues from the first into the second. -/
theorem continues_ofDiff {front back : String} {first : List Char}
    (hfront : front.toList = [] ∨ front.toList.getLast? = some '\n')
    (hfirst : (Text.linesOf back.toList).head? = some first) (h : sectionOpening <+: first) :
    Reader.Continues (ofDiff front) (Reader.start.run (Text.linesOf (front ++ back).toList))
      (Reader.start.run (Text.linesOf back.toList)) := by
  have hlines : Text.linesOf (front ++ back).toList
      = Text.linesOf front.toList ++ Text.linesOf back.toList := by
    rw [String.toList_append]
    exact Text.linesOf_append hfront back.toList
  rw [hlines, Reader.run_append]
  exact Reader.continues_run hfirst h _

/-- Two diffs one behind the other, of which the second one opens a section, are read as each
is read by itself: the files are those of both, and the lines of a file are those of the first
diff and behind them those of the second one that are not there already.  Nothing is left of
the first diff behind it: the reader knows the file and is in the hunk that it would know and
be in after the second diff alone. -/
theorem ofDiff_append (front back : String)
    (hfront : front = "" ∨ front.toList.getLast? = some '\n')
    (hback : ∃ first ∈ (Text.lines back).head?, "diff ".toList <+: first.toList) :
    let whole := ofDiff (front ++ back)
    let atEnd := Reader.start.run (Text.linesOf (front ++ back).toList)
    let alone := Reader.start.run (Text.linesOf back.toList)
    (∀ path, path ∈ whole.files ↔ path ∈ (ofDiff front).files ∨ path ∈ (ofDiff back).files) ∧
      (∀ path, whole.linesIn path
        = (ofDiff front).linesIn path
          ++ ((ofDiff back).linesIn path).filter (· ∉ (ofDiff front).linesIn path)) ∧
      atEnd.file = alone.file ∧ atEnd.hunk.Alike alone.hunk := by
  intro whole atEnd alone
  obtain ⟨first, hfirst, hopening⟩ := hback
  -- The first line of the text is the first one that the reader sees.
  obtain ⟨chars, hchars, rfl⟩ : ∃ chars, (Text.linesOf back.toList).head? = some chars ∧
      String.ofList chars = first := by
    have hmap : (Text.lines back).head? = (Text.linesOf back.toList).head?.map String.ofList :=
      List.head?_map
    rw [hmap] at hfirst
    exact Option.map_eq_some_iff.mp hfirst
  rw [toList_sectionOpening, String.toList_ofList] at hopening
  have hended : front.toList = [] ∨ front.toList.getLast? = some '\n' := by
    rcases hfront with rfl | h
    · exact Or.inl rfl
    · exact Or.inr h
  -- From here on the relation of the two readers is all that is used.
  have hcontinues := continues_ofDiff hended hchars hopening
  exact ⟨hcontinues.changes.mem_files, hcontinues.changes.linesIn, hcontinues.file,
    hcontinues.hunk⟩

/-- A diff that breaks off in the middle of a hunk, and behind it one that deletes a file and goes
on with another one, which the first diff changed too. -/
theorem ofDiff_append_broken_off :
    let front := "diff --git a/x b/x\n+++ b/x\n@@ -1,9 +4,9 @@\n+new\n"
    let back := "diff -r 0 y\n+++ /dev/null\n+gone\ndiff -r 0 x\n+++ b/x\n@@ -2,0 +3,2 @@\n+p\n+q\n"
    (ofDiff (front ++ back)).linesIn "x" = ["4", "3"] ∧
      ∀ path, path ∈ (ofDiff (front ++ back)).files ↔ path = "x" := by
  intro front back
  have hended : front.toList.getLast? = some '\n' := by decide +kernel
  have hopening : ∃ first ∈ (Text.lines back).head?, "diff ".toList <+: first.toList :=
    ⟨"diff -r 0 y", by decide +kernel, by decide +kernel⟩
  obtain ⟨hfiles, hlines, _⟩ := ofDiff_append front back (Or.inr hended) hopening
  have hfront : ofDiff front = ⟨[("x", LineSet.ofList ["4"])]⟩ := by decide +kernel
  have hback : ofDiff back = ⟨[("x", LineSet.ofList ["3", "4"])]⟩ := by decide +kernel
  constructor
  · rw [hlines, hfront, hback]
    decide +kernel
  · intro path
    rw [hfiles, hfront, hback]
    simp [files]

end Changes

end ChangeLint.Patch
