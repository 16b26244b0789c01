import ChangeLint.Proofs.Patch.Printing

/-! # Printed header lines are read back

A header line is known by its first characters, and these are still there when a carriage
return at its end was dropped.  For each kind of printed header line this module says what it is
read as; `parse?_header` reads the ranges of a hunk back. -/

namespace ChangeLint.Patch

open Text (dropReturn)

/-! ## Section 1: Known by the first characters -/

theorem sectionOpening_prefix_gitOpening : sectionOpening <+: gitOpening :=
  ⟨['-', '-', 'g', 'i', 't', ' '], rfl⟩

namespace HeaderLine

/-- A line that starts with `diff` opens a section. -/
theorem of_sectionOpening {line : List Char} (h : sectionOpening <+: line) :
    ∃ path, HeaderLine.of line = .fileSection path := by
  obtain ⟨rest, rfl⟩ := h
  have hstrip : Text.stripHead? sectionOpening (sectionOpening ++ rest) = some rest :=
    Text.stripHead?_eq_some_iff.mpr rfl
  unfold HeaderLine.of
  -- The line may be one of git, which is tried first and names the file.
  split
  · next path _ => exact ⟨_, rfl⟩
  · rw [hstrip]
    exact ⟨none, rfl⟩

/-- A line that does not start with `diff` is no header line of git either. -/
theorem gitOpening_of_not_sectionOpening {line : List Char} (h : ¬ sectionOpening <+: line) :
    Text.stripHead? gitOpening line = none := by
  rw [Text.stripHead?_eq_none_iff]
  intro hgit
  exact h (sectionOpening_prefix_gitOpening.trans hgit)

/-- A line of the new file's name is read as one. -/
theorem of_newFileOpening (rest : List Char) :
    HeaderLine.of (newFileOpening ++ rest) = .newFile (newPath? rest) := by
  have hstrip : Text.stripHead? newFileOpening (newFileOpening ++ rest) = some rest :=
    Text.stripHead?_eq_some_iff.mpr rfl
  have hsection : Text.stripHead? sectionOpening (newFileOpening ++ rest) = none := rfl
  have hgit : Text.stripHead? gitOpening (newFileOpening ++ rest) = none := rfl
  unfold HeaderLine.of
  rw [hgit, hsection, hstrip]
  rfl

/-- A line that states a hunk header is read as one. -/
theorem of_hunk {rest : List Char} {header : HunkHeader}
    (h : HunkHeader.parse? (HunkHeader.opening ++ rest) = some header) :
    HeaderLine.of (HunkHeader.opening ++ rest) = .hunk header := by
  have hsection : Text.stripHead? sectionOpening (HunkHeader.opening ++ rest) = none := rfl
  have hgit : Text.stripHead? gitOpening (HunkHeader.opening ++ rest) = none := rfl
  have hfile : Text.stripHead? newFileOpening (HunkHeader.opening ++ rest) = none := rfl
  unfold HeaderLine.of
  rw [hgit, hsection, hfile, h]
  rfl

/-- Every other line says nothing. -/
theorem of_other {line : List Char} (hsection : ¬ sectionOpening <+: line)
    (hfile : ¬ newFileOpening <+: line) (hhunk : ¬ HunkHeader.opening <+: line) :
    HeaderLine.of line = .other := by
  -- Without its opening nothing is a hunk header.
  have hparse : HunkHeader.parse? line = none := by
    unfold HunkHeader.parse?
    rw [Text.stripHead?_eq_none_iff.mpr hhunk]
    rfl
  unfold HeaderLine.of
  rw [gitOpening_of_not_sectionOpening hsection, Text.stripHead?_eq_none_iff.mpr hsection,
    Text.stripHead?_eq_none_iff.mpr hfile, hparse]
  rfl

/-- A line whose first character starts no header says nothing. -/
theorem of_cons_other {c : Char} (hc : c ∉ ['d', '+', '@']) (cs : List Char) :
    HeaderLine.of (c :: cs) = .other := by
  simp only [List.mem_cons, List.not_mem_nil, or_false, not_or] at hc
  obtain ⟨hd, hplus, hat⟩ := hc
  apply of_other
  · exact fun h => hd (List.cons_prefix_cons.mp h).1.symm
  · exact fun h => hplus (List.cons_prefix_cons.mp h).1.symm
  · exact fun h => hat (List.cons_prefix_cons.mp h).1.symm

end HeaderLine

/-! ## Section 2: Openings, further lines and names -/

/-! The printed words, character by character. -/

theorem toList_gitOpening : "diff --git ".toList = gitOpening := by decide

theorem toList_sectionOpening : "diff ".toList = sectionOpening := by decide

theorem toList_mercurialOpening : "diff -r ".toList = sectionOpening ++ ['-', 'r', ' '] := by
  decide

theorem toList_oldFileOpening : "--- ".toList = ['-', '-', '-', ' '] := by decide

theorem toList_newFileOpening : "+++ ".toList = newFileOpening := by decide

theorem toList_hunkOpening : "@@ ".toList = HunkHeader.opening := by decide

theorem toList_hunkClosing : " @@".toList = HunkHeader.closing := by decide

theorem toList_newSide : "b/".toList = ['b', '/'] := by decide

theorem toList_nowhere : "/dev/null".toList = nowhere := by decide

/-- The line that opens a section is read as such. -/
theorem of_opening (opening : Opening) :
    ∃ path, HeaderLine.of (dropReturn opening.chars) = .fileSection path := by
  apply HeaderLine.of_sectionOpening
  cases opening with
  -- The opening does not end in a carriage return, so it stands after one was dropped, too.
  | git rest =>
    have hend : gitOpening.getLast? ≠ some '\r' := by decide
    rw [Opening.chars_git, toList_gitOpening, Text.dropReturn_append hend]
    exact sectionOpening_prefix_gitOpening.trans (List.prefix_append _ _)
  | mercurial rest =>
    have hend : (sectionOpening ++ ['-', 'r', ' ']).getLast? ≠ some '\r' := by decide
    rw [Opening.chars_mercurial, toList_mercurialOpening, Text.dropReturn_append hend,
      List.append_assoc]
    exact List.prefix_append _ _

theorem of_extended (line : ExtendedLine) :
    HeaderLine.of (dropReturn line.text.val) = .other := by
  have hprefix := Text.dropReturn_prefix line.text.val
  apply HeaderLine.of_other
  · rw [← toList_sectionOpening]
    exact fun h => line.not_section (h.trans hprefix)
  · rw [← toList_newFileOpening]
    exact fun h => line.not_newFile (h.trans hprefix)
  · rw [← toList_hunkOpening]
    exact fun h => line.not_hunk (h.trans hprefix)

theorem of_oldFile (text : Inline) :
    HeaderLine.of (dropReturn ("--- ".toList ++ text.val)) = .other := by
  have hend : ['-', '-', '-', ' '].getLast? ≠ some '\r' := by decide
  rw [toList_oldFileOpening, Text.dropReturn_append hend]
  exact HeaderLine.of_cons_other (by decide) _

/-- A name without tab that does not end in a carriage return is what stands before the time
stamp. -/
theorem takeWhile_stamped {name : List Char} (htab : '\t' ∉ name)
    (hend : name.getLast? ≠ some '\r') (stamp : Option Inline) :
    (dropReturn (name ++ stampText stamp)).takeWhile (· != '\t') = name := by
  have hname : ∀ c ∈ name, (c != '\t') = true := by
    intro c hc
    rw [bne_iff_ne]
    rintro rfl
    exact htab hc
  rw [Text.dropReturn_append hend, List.takeWhile_append_of_pos hname]
  -- A stamp starts with a tab, and without one the name is the whole.
  cases stamp with
  | none => simp [stampText, dropReturn]
  | some stamp =>
    have hend : ['\t'].getLast? ≠ some '\r' := by decide
    have hdrop : dropReturn (stampText (some stamp)) = '\t' :: dropReturn stamp.val :=
      Text.dropReturn_append hend _
    rw [hdrop]
    simp

namespace PrintedPath

/-- The name of a file as it is printed ends as its path does. -/
theorem getLast?_name (path : PrintedPath) :
    (['b', '/'] ++ path.chars).getLast? = path.chars.getLast? := by
  have hne : path.chars.getLast? ≠ none := by
    rw [Ne, List.getLast?_eq_none_iff]
    exact path.ne_nil
  obtain ⟨last, hlast⟩ := Option.ne_none_iff_exists'.mp hne
  rw [List.getLast?_append, hlast, Option.some_or]

theorem getLast?_ne_return (path : PrintedPath) :
    (['b', '/'] ++ path.chars).getLast? ≠ some '\r' := by
  rw [path.getLast?_name]
  intro h
  have hblank : Text.isBlank '\r' = false := path.no_blank_end '\r' h
  exact absurd hblank (by decide)

end PrintedPath

/-- The name of the new file is read back, whatever stamp follows it. -/
theorem newPath?_target (target : Target) (stamp : Option Inline) :
    newPath? (dropReturn (target.chars ++ stampText stamp))
      = target.path?.map String.toList := by
  cases target with
  | nowhere =>
    have htab : '\t' ∉ nowhere := by decide
    have hend : nowhere.getLast? ≠ some '\r' := by decide
    rw [newPath?, Target.chars_nowhere, toList_nowhere, takeWhile_stamped htab hend stamp]
    rfl
  | file path =>
    have htab : '\t' ∉ ['b', '/'] ++ path.chars := by
      rw [List.mem_append, not_or]
      exact ⟨by decide, path.no_tab⟩
    have hblank : Text.dropBlanksEnd (['b', '/'] ++ path.chars) = ['b', '/'] ++ path.chars := by
      apply Text.dropBlanksEnd_of_getLast?
      rw [path.getLast?_name]
      exact path.no_blank_end
    -- A path with its prefix is not the name of a deleted file: they differ in the first
    -- character.
    have hsomewhere : ['b', '/'] ++ path.chars ≠ nowhere := by
      intro h
      exact absurd (List.cons.inj h).1 (by decide)
    have hstrip : Text.stripHead? ['b', '/'] (['b', '/'] ++ path.chars) = some path.chars :=
      Text.stripHead?_eq_some_iff.mpr rfl
    have hslashes : Text.forwardSlashes path.chars = path.chars := by
      have hsame : ∀ c ∈ path.chars, (if c = '\\' then '/' else c) = c := by
        intro c hc
        rw [if_neg]
        rintro rfl
        exact path.no_backslash hc
      rw [Text.forwardSlashes, List.map_congr_left hsame, List.map_id']
    -- The stamp is cut off; of what is left only the prefix is dropped.
    unfold newPath?
    rw [Target.chars_file, toList_newSide,
      takeWhile_stamped htab path.getLast?_ne_return stamp, hblank]
    rw [if_neg hsomewhere, hstrip, Option.getD_some, hslashes, Target.path?, Option.map_some,
      String.toList_ofList]

/-- The line that names the new file is read as such. -/
theorem of_newFileLine {Name : Type} [NewFile Name] (edit : Edit Name) :
    HeaderLine.of (dropReturn edit.newFileLine)
      = .newFile (newPath? (dropReturn (NewFile.chars edit.newFile ++ stampText edit.stamp))) := by
  have hend : newFileOpening.getLast? ≠ some '\r' := by decide
  rw [Edit.newFileLine, toList_newFileOpening, Text.dropReturn_append hend,
    HeaderLine.of_newFileOpening]

/-! ## Section 3: Hunk headers -/

/-- The characters of a printed range are digits, but for a comma. -/
theorem of_mem_rangeText {start length : Nat} {short : Bool} {c : Char}
    (h : c ∈ rangeText start length short) : c.isDigit = true ∨ c = ',' := by
  unfold rangeText at h
  rcases List.mem_append.mp h with h | h
  · exact .inl (Text.Decimal.isDigit_of_mem_written h)
  · split at h
    · cases h
    · rcases List.mem_cons.mp h with h | h
      · exact .inr h
      · exact .inl (Text.Decimal.isDigit_of_mem_written h)

/-- A printed range is read back if its numbers fit. -/
theorem range?_rangeText (start length : Nat) (short : Bool) :
    range? (rangeText start length short)
      = if start < Text.Decimal.wordBound ∧ length < Text.Decimal.wordBound then
          some (start, length)
        else none := by
  have hdigits : ∀ c ∈ Text.Decimal.written start, (c == ',') = false := by
    intro c hc
    rw [beq_eq_false_iff_ne]
    rintro rfl
    exact absurd (Text.Decimal.isDigit_of_mem_written hc) (by decide)
  have hone : 1 < Text.Decimal.wordBound := by decide
  unfold range? rangeText
  -- The only comma is the one between the numbers.
  by_cases hshort : short = true ∧ length = 1
  · rw [if_pos hshort, List.append_nil, Text.splitAtFirst?_of_forall hdigits]
    simp [Text.Decimal.read?_written, hshort.2, hone]
  · rw [if_neg hshort, Text.splitAtFirst?_append_cons hdigits rfl]
    -- If the start does not fit, the length is not read.
    by_cases hstart : start < Text.Decimal.wordBound
    · simp [Text.Decimal.read?_written, hstart]
    · simp [Text.Decimal.read?_written, hstart]

/-- The characters of printed ranges are digits, but for a few marks. -/
theorem PrintedRanges.of_mem_text {ranges : PrintedRanges} {c : Char} (h : c ∈ ranges.text) :
    c.isDigit = true ∨ c ∈ [',', '-', '+', ' '] := by
  -- The two ranges add digits and commas, and between them stand the other marks.
  have hrange : ∀ start length short, c ∈ rangeText start length short →
      c.isDigit = true ∨ c ∈ [',', '-', '+', ' '] := by
    intro start length short hc
    rcases of_mem_rangeText hc with hc | rfl
    · exact .inl hc
    · exact .inr (by decide)
  unfold PrintedRanges.text at h
  rcases List.mem_append.mp h with h | h
  · rcases List.mem_cons.mp h with rfl | h
    · exact .inr (by decide)
    · exact hrange _ _ _ h
  · rcases List.mem_cons.mp h with rfl | h
    · exact .inr (by decide)
    · rcases List.mem_cons.mp h with rfl | h
      · exact .inr (by decide)
      · exact hrange _ _ _ h

/-- A mark that is not used in ranges stands nowhere in them. -/
theorem PrintedRanges.not_mem_text {mark : Char} (hdigit : mark.isDigit = false)
    (hmark : mark ∉ [',', '-', '+', ' ']) (ranges : PrintedRanges) : mark ∉ ranges.text := by
  intro h
  rcases PrintedRanges.of_mem_text h with h | h
  · rw [hdigit] at h
    cases h
  · exact hmark h

/-- A text without `@` ends where the first mark stands. -/
theorem splitAtText?_closing {cs : List Char} (h : '@' ∉ cs) (rest : List Char) :
    Text.splitAtText? HunkHeader.closing (cs ++ (HunkHeader.closing ++ rest))
      = some (cs, rest) := by
  induction cs with
  | nil => rfl
  | cons c cs ih =>
    have hnot : Text.stripHead? HunkHeader.closing
        (c :: (cs ++ (HunkHeader.closing ++ rest))) = none := by
      rw [Text.stripHead?_eq_none_iff]
      intro hprefix
      -- The second character of the mark is an `@`, and the one behind `c` is not.
      have hsecond := (List.cons_prefix_cons.mp hprefix).2
      cases cs with
      | nil => exact absurd (List.cons_prefix_cons.mp hsecond).1 (by decide)
      | cons d cs =>
        have hd : '@' = d := (List.cons_prefix_cons.mp hsecond).1
        subst hd
        exact h (by simp)
    rw [List.cons_append, Text.splitAtText?, hnot, ih fun hc => h (by simp [hc])]
    rfl

/-- Printed ranges are two words. -/
theorem PrintedRanges.words_text (ranges : PrintedRanges) :
    Text.words ranges.text
      = ['-' :: rangeText ranges.oldStart ranges.oldLength ranges.shortOld,
          '+' :: rangeText ranges.newStart ranges.newLength ranges.shortNew] := by
  -- A range with its sign holds no blank, so that the only one is between the two.
  have hblank : ∀ sign, Text.isBlank sign = false → ∀ start length short,
      ∀ c ∈ sign :: rangeText start length short, Text.isBlank c = false := by
    intro sign hsign start length short c hc
    rcases List.mem_cons.mp hc with rfl | hc
    · exact hsign
    · rcases of_mem_rangeText hc with hdigit | rfl
      · exact Text.not_isBlank_of_isDecimal (Text.isDecimal_of_isDigit hdigit)
      · decide
  unfold PrintedRanges.text
  rw [Text.words_append_blank (hblank '-' (by decide) _ _ _) (List.cons_ne_nil _ _) (by decide),
    Text.words_of_forall (hblank '+' (by decide) _ _ _) (List.cons_ne_nil _ _)]

/-- A printed header is read back if its numbers fit, whatever context follows it. -/
theorem PrintedRanges.parse?_header (ranges : PrintedRanges) (context : List Char) :
    HunkHeader.parse? (ranges.header context)
      = if ranges.Fits then some ⟨ranges.oldLength, ranges.newStart, ranges.newLength⟩
        else none := by
  have hstrip : ∀ rest, Text.stripHead? HunkHeader.opening (HunkHeader.opening ++ rest)
      = some rest := fun rest => Text.stripHead?_eq_some_iff.mpr rfl
  have hmark : '@' ∉ ranges.text := PrintedRanges.not_mem_text (by decide) (by decide) ranges
  unfold HunkHeader.parse?
  rw [PrintedRanges.header, toList_hunkOpening, toList_hunkClosing, hstrip, Option.bind_some,
    splitAtText?_closing hmark, Option.bind_some]
  simp only [words_text, HunkHeader.ofWords?, signedRange?, Text.stripHead?, if_pos,
    Option.bind_some, range?_rangeText]
  -- The old range is read first, and the new one only if that could be.
  by_cases hold : ranges.oldStart < Text.Decimal.wordBound
      ∧ ranges.oldLength < Text.Decimal.wordBound
  · by_cases hnew : ranges.newStart < Text.Decimal.wordBound
        ∧ ranges.newLength < Text.Decimal.wordBound
    · simp [Fits, hold, hnew]
    · simp [Fits, hold, hnew]
  · have hnot : ¬ ranges.Fits := fun h => hold ⟨h.1, h.2.1⟩
    simp [hold, hnot]

/-- A printed hunk header states the lengths of its body and where the new lines start. -/
theorem parse?_header (hunk : PrintedHunk) :
    HunkHeader.parse? (dropReturn hunk.header)
      = some ⟨PrintedLine.oldLength hunk.body, hunk.newStart,
          PrintedLine.newLength hunk.body⟩ := by
  have hopening : HunkHeader.opening.getLast? ≠ some '\r' := by decide
  have hranges : hunk.ranges.text.getLast? ≠ some '\r' := by
    intro h
    exact PrintedRanges.not_mem_text (by decide) (by decide) _ (List.mem_of_getLast? h)
  have hclosing : HunkHeader.closing.getLast? ≠ some '\r' := by decide
  have hfits : hunk.ranges.Fits :=
    ⟨hunk.oldStart_lt, hunk.oldLength_lt,
      Nat.lt_of_le_of_lt (Nat.le_add_right _ _) hunk.newEnd_lt,
      Nat.lt_of_le_of_lt (Nat.le_add_left _ _) hunk.newEnd_lt⟩
  -- A carriage return can only be dropped off the context, behind the closing mark.
  have hdrop : dropReturn hunk.header = hunk.ranges.header (dropReturn hunk.context.val) := by
    rw [PrintedHunk.header, PrintedRanges.header, PrintedRanges.header, toList_hunkOpening,
      toList_hunkClosing, Text.dropReturn_append hopening, Text.dropReturn_append hranges,
      Text.dropReturn_append hclosing]
  rw [hdrop, PrintedRanges.parse?_header, if_pos hfits]
  rfl

end ChangeLint.Patch
