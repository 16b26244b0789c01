import Mathlib.Data.List.Induction
import ChangeLint.Proofs.Patch.HunkGrammar
import ChangeLint.Proofs.Patch.Joining
import ChangeLint.Proofs.Patch.OneFile

/-! # Where the added lines come from

Whatever text is read as a diff, each line number that is found for a file has its origin in it:
one line that adds it, in a hunk whose header says where to count from, behind a line that names
the file.

* `Adds` is this origin, told by the lines alone, and `Adds.unique` says that a line adds no more
  than one line of one file.
* `CountersFit` says that no line is counted beyond a machine word.  As long as this holds, the
  number found is the number of the origin; behind it, the number is what a word keeps of it.
* `Reader.Steps` says what one step of the reader can do, and `Reader.run_induction` carries what
  these steps keep over all lines.
* `Changes.ofDiff_adds` puts it together, with no assumption about the text. -/

namespace ChangeLint.Patch

/-! ## Section 1: Origins -/

/-- Can the line stand in the body of a hunk? -/
def standsInBody : List Char → Bool
  | [] => true
  | c :: _ => c == '+' || c == '-' || c == ' ' || c == '\\'

/-- In the body of a hunk, is it a line of the new file? -/
def isNew : List Char → Bool
  | [] => true
  | c :: _ => c == '+' || c == ' '

/-- Does the line start with the mark of an added one? -/
def isMarked : List Char → Bool
  | [] => false
  | c :: _ => c == '+'

/-- Is the line read as a header behind these lines?  It is if it cannot stand in a body, or if
no line of a hunk is to come. -/
def ReadAsHeader (before : List (List Char)) (line : List Char) : Prop :=
  (Reader.start.run before).hunk.isOpen = false ∨ standsInBody line = false

/-- No line of the new file is counted beyond a machine word. -/
def CountersFit (lines : List (List Char)) : Prop :=
  ∀ k (hk : k < lines.length),
    (Reader.start.run (lines.take k)).hunk.isOpen = true → isNew lines[k] = true →
      (Reader.start.run (lines.take k)).hunk.newLine + 1 < Text.Decimal.wordBound

instance (lines : List (List Char)) : Decidable (CountersFit lines) :=
  inferInstanceAs (Decidable (∀ k (hk : k < lines.length),
    (Reader.start.run (lines.take k)).hunk.isOpen = true → isNew lines[k] = true →
      (Reader.start.run (lines.take k)).hunk.newLine + 1 < Text.Decimal.wordBound))

/-- As a header, the line sets the path of the file, to none if it does not give one. -/
inductive SetsPath : List Char → Option (List Char) → Prop where
  | git (rest : List Char) : SetsPath (gitOpening ++ rest) (gitPath? rest)
  | unnamed {line : List Char} (opening : sectionOpening <+: line)
      (other : ¬ gitOpening <+: line) : SetsPath line none
  | newFile (rest : List Char) : SetsPath (newFileOpening ++ rest) (newPath? rest)

/-- The line starts like one that sets a path. -/
def OpensFile (line : List Char) : Prop := sectionOpening <+: line ∨ newFileOpening <+: line

/-- Line `k` names the file: it sets its path, and no line behind it that is read as a header
sets another one. -/
structure Names (lines : List (List Char)) (k : Nat) (file : String) : Prop where
  sets : ∃ line path, lines[k]? = some line ∧ ReadAsHeader (lines.take k) line ∧
    SetsPath line (some path) ∧ file = String.ofList path
  last : ∀ m line, k < m → lines[m]? = some line → ReadAsHeader (lines.take m) line →
    ¬ OpensFile line

/-- Line `j` adds line `n` of the file, in the hunk whose header is line `i`.  The file is the one
that is named in front of the header, only body lines stand between the two, and the count starts
where the header says. -/
inductive Adds (lines : List (List Char)) (file : String) : Nat → Nat → Nat → Prop where
  | intro {front between rest : List (List Char)} {opening text : List Char}
      {header : HunkHeader} {k : Nat}
      (order : lines = front ++ opening :: (between ++ ('+' :: text) :: rest))
      (named : Names front k file) (mark : HunkHeader.opening <+: opening)
      (parsed : HunkHeader.parse? opening = some header)
      (body : ∀ line ∈ between, standsInBody line = true) :
      Adds lines file (header.newStart + between.countP isNew) front.length
        (front.length + 1 + between.length)

/-! ## Section 2: Lines that set a path -/

theorem opening_prefix_of_parse? {line : List Char} {header : HunkHeader}
    (h : HunkHeader.parse? line = some header) : HunkHeader.opening <+: line := by
  unfold HunkHeader.parse? at h
  obtain ⟨rest, hstrip, _⟩ := Option.bind_eq_some_iff.mp h
  exact ⟨rest, (Text.stripHead?_eq_some_iff.mp hstrip).symm⟩

/-- A hunk header cannot stand in a body, and sets no path. -/
theorem not_body_of_opening {line : List Char} (h : HunkHeader.opening <+: line) :
    standsInBody line = false ∧ ¬ OpensFile line := by
  obtain ⟨rest, rfl⟩ := h
  refine ⟨rfl, ?_⟩
  rintro (hsection | hfile)
  · exact absurd (List.cons_prefix_cons.mp hsection).1 (by decide)
  · exact absurd (List.cons_prefix_cons.mp hfile).1 (by decide)

theorem SetsPath.opensFile {line : List Char} {path : Option (List Char)}
    (h : SetsPath line path) : OpensFile line := by
  cases h with
  | git rest => exact .inl (sectionOpening_prefix_gitOpening.trans (List.prefix_append _ _))
  | unnamed opening _ => exact .inl opening
  | newFile rest => exact .inr (List.prefix_append _ _)

/-- A line that sets a path is read as one, and so it sets only one. -/
theorem SetsPath.of_eq {line : List Char} {path : Option (List Char)} (h : SetsPath line path) :
    HeaderLine.of line = .fileSection path ∨ HeaderLine.of line = .newFile path := by
  cases h with
  | git rest =>
    have hstrip : Text.stripHead? gitOpening (gitOpening ++ rest) = some rest :=
      Text.stripHead?_eq_some_iff.mpr rfl
    left
    unfold HeaderLine.of
    rw [hstrip]
  -- A section of another kind than git's is read as one without a path.
  | unnamed opening other =>
    obtain ⟨rest, hrest⟩ := opening
    left
    unfold HeaderLine.of
    rw [Text.stripHead?_eq_none_iff.mpr other, Text.stripHead?_eq_some_iff.mpr hrest.symm]
    rfl
  | newFile rest => exact .inr (HeaderLine.of_newFileOpening rest)

theorem SetsPath.unique {line : List Char} {path other : Option (List Char)}
    (h : SetsPath line path) (hother : SetsPath line other) : path = other := by
  -- No line is read both as a section and as a new file, so the kinds must agree.
  rcases h.of_eq with hline | hline
  · rcases hother.of_eq with hsame | hsame
    · exact HeaderLine.fileSection.inj (hline.symm.trans hsame)
    · cases hline.symm.trans hsame
  · rcases hother.of_eq with hsame | hsame
    · cases hline.symm.trans hsame
    · exact HeaderLine.newFile.inj (hline.symm.trans hsame)

/-- What a line can be as a header. -/
theorem HeaderLine.of_cases (line : List Char) :
    (∃ path, SetsPath line path) ∨
    (∃ header, HunkHeader.parse? line = some header ∧ HeaderLine.of line = .hunk header) ∨
    ¬ OpensFile line ∧ HeaderLine.of line = .other := by
  -- The openings are tried in the order in which `HeaderLine.of` tries them.
  by_cases hsection : sectionOpening <+: line
  · left
    by_cases hgit : gitOpening <+: line
    · obtain ⟨rest, rfl⟩ := hgit
      exact ⟨_, .git rest⟩
    · exact ⟨none, .unnamed hsection hgit⟩
  · by_cases hfile : newFileOpening <+: line
    · obtain ⟨rest, rfl⟩ := hfile
      exact .inl ⟨_, .newFile rest⟩
    · right
      cases hparse : HunkHeader.parse? line with
      | some header =>
        obtain ⟨rest, rfl⟩ := opening_prefix_of_parse? hparse
        exact .inl ⟨header, rfl, HeaderLine.of_hunk hparse⟩
      | none =>
        refine .inr ⟨not_or.mpr ⟨hsection, hfile⟩, ?_⟩
        unfold HeaderLine.of
        rw [HeaderLine.gitOpening_of_not_sectionOpening hsection,
          Text.stripHead?_eq_none_iff.mpr hsection, Text.stripHead?_eq_none_iff.mpr hfile, hparse]
        rfl

/-! ## Section 3: One step of the reader -/

namespace Changes

/-- The number of lines found, over all files. -/
def total (changes : Changes) : Nat :=
  (changes.entries.flatMap fun entry => entry.2.toList).length

/-- An update by which a set grows by no more than `d` lines adds no more than these. -/
theorem total_update_le {f : LineSet → LineSet} {d : Nat}
    (hf : ∀ set, (f set).size ≤ set.size + d) (changes : Changes) (path : String) :
    (changes.update path f).total ≤ changes.total + d := by
  obtain ⟨entries⟩ := changes
  show ((updateEntries path f entries).flatMap fun entry => entry.2.toList).length
    ≤ (entries.flatMap fun entry => entry.2.toList).length + d
  -- By induction on the entries up to the one with the path; behind it nothing changes.
  induction entries with
  | nil =>
    have hempty : (f ∅).toList.length ≤ 0 + d := hf ∅
    simpa [updateEntries] using hempty
  | cons entry entries ih =>
    unfold updateEntries
    by_cases hpath : entry.1 = path
    · have hgrows : (f entry.2).toList.length ≤ entry.2.toList.length + d := hf entry.2
      rw [if_pos hpath, List.flatMap_cons, List.flatMap_cons, List.length_append,
        List.length_append]
      dsimp only
      omega
    · rw [if_neg hpath, List.flatMap_cons, List.flatMap_cons, List.length_append,
        List.length_append]
      omega

theorem total_touch_le (changes : Changes) (path : String) :
    (changes.touch path).total ≤ changes.total := by
  have hsame : ∀ set : LineSet, (id set).size ≤ set.size + 0 := fun _ => Nat.le_refl _
  exact total_update_le hsame changes path

theorem total_insert_le (changes : Changes) (path line : String) :
    (changes.insert path line).total ≤ changes.total + 1 := by
  apply total_update_le
  intro set
  rw [LineSet.size_eq_length, LineSet.size_eq_length, LineSet.toList_insert]
  -- A line that is there already adds nothing.
  split
  · exact Nat.le_succ _
  · rw [List.length_append]
    exact Nat.le_refl _

theorem linesIn_touch (changes : Changes) (path other : String) :
    (changes.touch path).linesIn other = changes.linesIn other := by
  unfold linesIn touch
  rw [get?_update]
  by_cases hpath : other = path
  · rw [if_pos hpath, hpath]
    rfl
  · rw [if_neg hpath]

theorem mem_linesIn_insert {changes : Changes} {path other line member : String} :
    member ∈ (changes.insert path line).linesIn other
      ↔ member ∈ changes.linesIn other ∨ other = path ∧ member = line := by
  unfold linesIn insert
  rw [get?_update]
  by_cases hpath : other = path
  · rw [if_pos hpath, Option.getD_some, LineSet.mem_toList_insert, hpath]
    simp
  · rw [if_neg hpath]
    simp [hpath]

end Changes

namespace Reader

/-- What a step can do.  In an open hunk it takes a body line, which is recorded if it is an added
one.  Any other line closes the hunk: it sets the path of the file, opens a hunk, or says
nothing. -/
inductive Steps (reader : Reader) (line : List Char) : Reader → Prop where
  | added {text : List Char} (isOpen : reader.hunk.isOpen = true) (mark : line = '+' :: text) :
      Steps reader line { reader with changes := reader.record, hunk := reader.hunk.added }
  | passed {hunk : Hunk} (isOpen : reader.hunk.isOpen = true) (body : standsInBody line = true)
      (unmarked : isMarked line = false)
      (next : hunk.newLine
        = if isNew line then Hunk.lineAfter reader.hunk.newLine else reader.hunk.newLine) :
      Steps reader line { reader with hunk }
  | names {changes : Changes} {hunk : Hunk} {path : Option (List Char)}
      (header : reader.hunk.isOpen = false ∨ standsInBody line = false)
      (sets : SetsPath line path) (closed : hunk.isOpen = false)
      (same : ∀ file, changes.linesIn file = reader.changes.linesIn file)
      (total : changes.total ≤ reader.changes.total) :
      Steps reader line ⟨changes, path.map String.ofList, hunk⟩
  | opens {header : HunkHeader} (parsed : HunkHeader.parse? line = some header) :
      Steps reader line { reader with hunk := .ofHeader header }
  | ignored {hunk : Hunk} (other : ¬ OpensFile line) (closed : hunk.isOpen = false) :
      Steps reader line { reader with hunk }

/-- A line that is read as a header does what a header line can do. -/
theorem steps_header {reader : Reader} {line : List Char}
    (h : reader.hunk.isOpen = false ∨ standsInBody line = false) {hunk : Hunk}
    (hclosed : hunk.isOpen = false) :
    reader.Steps line ({ reader with hunk }.header (.of line)) := by
  -- A line that sets a path, one that opens a hunk, and one that says nothing.
  rcases HeaderLine.of_cases line with ⟨path, hsets⟩ | ⟨header, hparse, hline⟩ | ⟨hother, hline⟩
  · rcases hsets.of_eq with hline | hline
    · rw [hline]
      exact .names h hsets hclosed (fun _ => rfl) (Nat.le_refl _)
    · rw [hline]
      cases path with
      | none => exact .names h hsets hclosed (fun _ => rfl) (Nat.le_refl _)
      | some path =>
        exact .names h hsets hclosed (Changes.linesIn_touch reader.changes _)
          (Changes.total_touch_le reader.changes _)
  · rw [hline]
    exact .opens hparse
  · rw [hline]
    exact .ignored hother hclosed

theorem standsInBody_of_none {line : List Char} (h : BodyLine.of? line = none) :
    standsInBody line = false := by
  cases line with
  | nil => cases h
  | cons c cs =>
    cases hstands : standsInBody (c :: cs) with
    | false => rfl
    | true =>
      simp only [standsInBody, Bool.or_eq_true, beq_iff_eq] at hstands
      rcases hstands with ((rfl | rfl) | rfl) | rfl
      · cases h
      · cases h
      · cases h
      · cases h

/-- A body line in an open hunk is recorded if it is an added one, and else passed over. -/
theorem steps_body {reader : Reader} {line : List Char} {kind : BodyLine}
    (hopen : reader.hunk.isOpen = true) (h : BodyLine.of? line = some kind) :
    reader.Steps line (reader.body kind) := by
  unfold BodyLine.of? at h
  -- The kinds of body lines, of which only the added one is recorded.
  split at h
  · cases h
    exact .passed hopen rfl rfl rfl
  · cases h
    exact .added hopen rfl
  · cases h
    exact .passed hopen rfl rfl rfl
  · cases h
    exact .passed hopen rfl rfl rfl
  · cases h
    exact .passed hopen rfl rfl rfl
  · cases h

/-- A step does nothing else. -/
theorem steps_step (reader : Reader) (line : List Char) :
    reader.Steps line (reader.step line) := by
  unfold step
  by_cases hopen : reader.hunk.isOpen = true
  · rw [if_pos hopen]
    -- In an open hunk, what cannot stand in a body closes it and is read as a header.
    cases hline : BodyLine.of? line with
    | some kind => exact steps_body hopen hline
    | none => exact steps_header (.inr (standsInBody_of_none hline)) rfl
  · rw [if_neg hopen]
    have hclosed := Bool.eq_false_iff.mpr hopen
    exact steps_header (.inl hclosed) hclosed

/-- What holds before the first line and is kept by every step holds behind all lines. -/
theorem run_induction {motive : List (List Char) → Prop} (nil : motive [])
    (snoc : ∀ lines line next, start.run (lines ++ [line]) = next →
      (start.run lines).Steps line next → motive lines → motive (lines ++ [line]))
    (lines : List (List Char)) : motive lines := by
  -- The lines are taken from the end, since a step belongs to the last one.
  induction lines using List.reverseRecOn with
  | nil => exact nil
  | append_singleton lines line ih =>
    have hrun : start.run (lines ++ [line]) = (start.run lines).step line := by
      rw [run_append]
      rfl
    exact snoc lines line _ hrun (steps_step (start.run lines) line) ih

end Reader

/-! ## Section 4: The file -/

namespace Names

variable {lines : List (List Char)} {line : List Char} {k : Nat} {file : String}

/-- The line that names the file is one of the lines. -/
theorem lt_length (h : Names lines k file) : k < lines.length := by
  obtain ⟨line, _, hline, _⟩ := h.sets
  exact (List.getElem?_eq_some_iff.mp hline).1

/-- It names the file still if no other path is set behind it. -/
theorem snoc (h : Names lines k file) (hline : ReadAsHeader lines line → ¬ OpensFile line) :
    Names (lines ++ [line]) k file where
  sets := by
    obtain ⟨opening, path, hopening, hread, hsets⟩ := h.sets
    refine ⟨opening, path, ?_, ?_, hsets⟩
    · rw [List.getElem?_append_left h.lt_length, hopening]
    · rwa [List.take_append_of_le_length (Nat.le_of_lt h.lt_length)]
  last := by
    intro m other hlater hother hread
    -- An older line is where it was, in front of the same lines.
    by_cases hm : m < lines.length
    · rw [List.getElem?_append_left hm] at hother
      rw [List.take_append_of_le_length (Nat.le_of_lt hm)] at hread
      exact h.last m other hlater hother hread
    · -- Behind the lines there is only the new one.
      have hlast : m = lines.length := by
        have hlt := (List.getElem?_eq_some_iff.mp hother).1
        rw [List.length_append, List.length_singleton] at hlt
        omega
      subst hlast
      rw [List.take_left] at hread
      rw [List.getElem?_concat_length] at hother
      cases hother
      exact hline hread

/-- A line that sets a path names the file. -/
theorem of_sets {path : List Char} (hread : ReadAsHeader lines line)
    (hsets : SetsPath line (some path)) :
    Names (lines ++ [line]) lines.length (String.ofList path) where
  sets := by
    refine ⟨line, path, List.getElem?_concat_length, ?_, hsets, rfl⟩
    rwa [List.take_left]
  last := by
    intro m other hlater hother
    have hlt := (List.getElem?_eq_some_iff.mp hother).1
    rw [List.length_append, List.length_singleton] at hlt
    omega

/-- The file is named once. -/
theorem unique {m : Nat} {other : String} (h : Names lines k file) (hother : Names lines m other) :
    file = other := by
  obtain ⟨line, path, hline, hread, hsets, rfl⟩ := h.sets
  obtain ⟨later, path', hlater, hread', hsets', rfl⟩ := hother.sets
  -- Of two lines that name a file the later one would set another path behind the earlier one.
  rcases Nat.lt_trichotomy k m with hlt | rfl | hlt
  · exact absurd hsets'.opensFile (h.last m later hlt hlater hread')
  · rw [hline] at hlater
    cases hlater
    rw [Option.some.inj (hsets.unique hsets')]
  · exact absurd hsets.opensFile (hother.last k line hlt hline hread)

end Names

namespace Reader

/-- If the reader knows a file, a line names it. -/
theorem exists_names {lines : List (List Char)} {file : String}
    (h : (start.run lines).file = some file) : ∃ k, Names lines k file := by
  -- Only a line that sets a path changes the file; behind any other the same line names it.
  induction lines using run_induction with
  | nil => cases h
  | snoc lines line next hnext hsteps ih =>
    rw [hnext] at h
    -- A line in an open hunk is not read as a header.
    have hbody : (start.run lines).hunk.isOpen = true → standsInBody line = true →
        ReadAsHeader lines line → ¬ OpensFile line := by
      rintro hopen hstands (hclosed | hnot)
      · rw [hopen] at hclosed
        cases hclosed
      · rw [hstands] at hnot
        cases hnot
    cases hsteps with
    | added isOpen mark =>
      obtain ⟨k, hnames⟩ := ih h
      exact ⟨k, hnames.snoc (hbody isOpen (by rw [mark]; rfl))⟩
    | passed isOpen body _ _ =>
      obtain ⟨k, hnames⟩ := ih h
      exact ⟨k, hnames.snoc (hbody isOpen body)⟩
    | names header sets _ _ _ =>
      obtain ⟨path, rfl, rfl⟩ := Option.map_eq_some_iff.mp h
      exact ⟨_, .of_sets header sets⟩
    | opens parsed =>
      obtain ⟨k, hnames⟩ := ih h
      have hother := (not_body_of_opening (opening_prefix_of_parse? parsed)).2
      exact ⟨k, hnames.snoc fun _ => hother⟩
    | ignored other _ =>
      obtain ⟨k, hnames⟩ := ih h
      exact ⟨k, hnames.snoc fun _ => other⟩

end Reader

/-! ## Section 5: The open hunk -/

/-- If the counters fit, they fit before the last line, and so does the number behind it. -/
theorem CountersFit.of_snoc {lines : List (List Char)} {line : List Char}
    (h : CountersFit (lines ++ [line])) :
    CountersFit lines ∧ ((Reader.start.run lines).hunk.isOpen = true → isNew line = true →
      (Reader.start.run lines).hunk.newLine + 1 < Text.Decimal.wordBound) := by
  have hlength : (lines ++ [line]).length = lines.length + 1 := List.length_append
  -- The counter in front of a line does not depend on the lines behind it.
  constructor
  · intro k hk
    have hfits := h k (by omega)
    rwa [List.take_append_of_le_length (Nat.le_of_lt hk), List.getElem_append_left hk] at hfits
  · have hfits := h lines.length (by omega)
    rwa [List.take_left, List.getElem_concat_length rfl] at hfits

/-- The reader is in the hunk that a line opens: since then only body lines were read, and they
were counted, in a machine word. -/
structure Within (lines front : List (List Char)) (opening : List Char)
    (between : List (List Char)) (header : HunkHeader) : Prop where
  order : lines = front ++ opening :: between
  parsed : HunkHeader.parse? opening = some header
  body : ∀ line ∈ between, standsInBody line = true
  next : (Reader.start.run lines).hunk.newLine
    = (header.newStart + between.countP isNew) % Text.Decimal.wordBound
  fits : CountersFit lines → header.newStart + between.countP isNew < Text.Decimal.wordBound
  file : (Reader.start.run lines).file = (Reader.start.run front).file

theorem Within.snoc {lines front between : List (List Char)} {opening line : List Char}
    {header : HunkHeader} (h : Within lines front opening between header)
    (hopen : (Reader.start.run lines).hunk.isOpen = true) (hbody : standsInBody line = true)
    (hnext : (Reader.start.run (lines ++ [line])).hunk.newLine
      = if isNew line then Hunk.lineAfter (Reader.start.run lines).hunk.newLine
        else (Reader.start.run lines).hunk.newLine)
    (hfile : (Reader.start.run (lines ++ [line])).file = (Reader.start.run lines).file) :
    Within (lines ++ [line]) front opening (between ++ [line]) header where
  order := by rw [h.order, List.append_assoc, List.cons_append]
  parsed := h.parsed
  body := by
    intro other hother
    rcases List.mem_append.mp hother with hother | hother
    · exact h.body other hother
    · rw [List.mem_singleton.mp hother]
      exact hbody
  next := by
    rw [hnext, h.next, List.countP_append, List.countP_singleton]
    -- The remainder of the count is the count of the remainders, so each step can be cut to a
    -- word.
    by_cases hnew : isNew line = true
    · rw [if_pos hnew, if_pos hnew, Hunk.lineAfter, Nat.mod_add_mod, Nat.add_assoc]
    · rw [if_neg hnew, if_neg hnew, Nat.add_zero]
  fits := by
    intro hfits
    obtain ⟨hbefore, hlast⟩ := hfits.of_snoc
    have hcount := h.fits hbefore
    rw [List.countP_append, List.countP_singleton]
    by_cases hnew : isNew line = true
    · -- The counter is exact up to here, and one more line fits.
      have hone := hlast hopen hnew
      rw [h.next, Nat.mod_eq_of_lt hcount] at hone
      rw [if_pos hnew]
      omega
    · rw [if_neg hnew]
      omega
  file := hfile.trans h.file

namespace Reader

/-- If a hunk is open, a line opened it. -/
theorem exists_within {lines : List (List Char)} (h : (start.run lines).hunk.isOpen = true) :
    ∃ front opening between header, Within lines front opening between header := by
  -- A hunk stays open behind body lines only, and is opened with no lines behind its header.
  induction lines using run_induction with
  | nil => cases h
  | snoc lines line next hnext hsteps ih =>
    rw [hnext] at h
    cases hsteps with
    | added isOpen mark =>
      obtain ⟨front, opening, between, header, hwithin⟩ := ih isOpen
      have hnew : isNew line = true := by rw [mark]; rfl
      refine ⟨front, opening, between ++ [line], header, hwithin.snoc isOpen ?_ ?_ ?_⟩
      · rw [mark]
        rfl
      · rw [hnext, hnew]
        rfl
      · rw [hnext]
    | passed isOpen body _ counted =>
      obtain ⟨front, opening, between, header, hwithin⟩ := ih isOpen
      refine ⟨front, opening, between ++ [line], header, hwithin.snoc isOpen body ?_ ?_⟩
      · rw [hnext, counted]
      · rw [hnext]
    | names _ _ closed _ _ =>
      rw [closed] at h
      cases h
    | @opens header parsed =>
      -- The header gives a number that fits a word, so that nothing is cut off yet.
      have hstart := HunkHeader.newStart_lt parsed
      refine ⟨lines, line, [], header, rfl, parsed, nofun, ?_, fun _ => hstart, ?_⟩
      · rw [hnext]
        exact (Nat.mod_eq_of_lt hstart).symm
      · rw [hnext]
    | ignored _ closed =>
      rw [closed] at h
      cases h

end Reader

/-! ## Section 6: Members -/

/-- What lines add, more lines behind them leave as it is. -/
theorem Adds.append {lines : List (List Char)} {file : String} {n i j : Nat}
    (h : Adds lines file n i j) (more : List (List Char)) : Adds (lines ++ more) file n i j := by
  cases h with
  | @intro front between rest opening text header k order named mark parsed body =>
    have hmore : lines ++ more
        = front ++ opening :: (between ++ ('+' :: text) :: (rest ++ more)) := by
      rw [order]
      simp only [List.append_assoc, List.cons_append]
    exact .intro hmore named mark parsed body

/-- An added line in the hunk that the reader is in adds the next line of the file that it
knows. -/
theorem Within.adds {lines front between : List (List Char)} {opening text : List Char}
    {header : HunkHeader} {file : String} (h : Within lines front opening between header)
    (hfile : (Reader.start.run lines).file = some file) :
    Adds (lines ++ ['+' :: text]) file (header.newStart + between.countP isNew) front.length
      (front.length + 1 + between.length) := by
  obtain ⟨k, hnamed⟩ := Reader.exists_names (h.file ▸ hfile)
  have horder : lines ++ ['+' :: text] = front ++ opening :: (between ++ ('+' :: text) :: []) := by
    rw [h.order, List.append_assoc, List.cons_append]
  exact .intro horder hnamed (opening_prefix_of_parse? h.parsed) h.parsed h.body

/-- Lines in which each is one that cannot stand in a body, or follows such a one, fall apart at
the last such line in one way only. -/
theorem append_cons_inj_of_body {front between front' between' : List (List Char)}
    {opening opening' : List Char}
    (h : front ++ opening :: between = front' ++ opening' :: between')
    (hopening : standsInBody opening = false) (hopening' : standsInBody opening' = false)
    (hbody : ∀ line ∈ between, standsInBody line = true)
    (hbody' : ∀ line ∈ between', standsInBody line = true) :
    front = front' ∧ opening = opening' ∧ between = between' := by
  -- If one front went on behind the other, its opening would be one of the body lines.
  have hnot : ∀ {first : List Char} {middle before behind : List (List Char)},
      (∀ line ∈ before, standsInBody line = true) → standsInBody first = false →
        before ≠ middle ++ first :: behind := by
    rintro first middle before behind hbefore hfirst rfl
    rw [hbefore first (by simp)] at hfirst
    cases hfirst
  -- One of the fronts starts with the other, and what is between must then be empty.
  rcases List.append_eq_append_iff.mp h with ⟨middle, rfl, hmiddle⟩ | ⟨middle, rfl, hmiddle⟩
  · cases middle with
    | nil =>
      obtain ⟨hsame, hrest⟩ := List.cons.inj hmiddle
      exact ⟨(List.append_nil front).symm, hsame, hrest⟩
    | cons line middle => exact absurd (List.cons.inj hmiddle).2 (hnot hbody hopening')
  · cases middle with
    | nil =>
      obtain ⟨hsame, hrest⟩ := List.cons.inj hmiddle
      exact ⟨List.append_nil front', hsame.symm, hrest.symm⟩
    | cons line middle => exact absurd (List.cons.inj hmiddle).2 (hnot hbody' hopening)

/-- A line adds one line of one file at most. -/
theorem Adds.unique {lines : List (List Char)} {file other : String} {n m i k j : Nat}
    (h : Adds lines file n i j) (hother : Adds lines other m k j) :
    file = other ∧ n = m ∧ i = k := by
  generalize hj : j = j' at hother
  cases h with
  | @intro front between rest opening text header _ order named mark parsed body =>
    cases hother with
    | @intro front' between' rest' opening' text' header' _ order' named' mark' parsed' body' =>
      -- In front of line `j` the lines fall apart in one way only.
      have hsame : (front ++ opening :: between) ++ ('+' :: text) :: rest
          = (front' ++ opening' :: between') ++ ('+' :: text') :: rest' := by
        rw [List.append_assoc, List.append_assoc, List.cons_append, List.cons_append, ← order,
          ← order']
      -- Both origins end at the same line, so what is in front of it has one length.
      have hlength : (front ++ opening :: between).length
          = (front' ++ opening' :: between').length := by
        simp only [List.length_append, List.length_cons]
        omega
      obtain ⟨rfl, rfl, rfl⟩ := append_cons_inj_of_body (List.append_inj hsame hlength).1
        (not_body_of_opening mark).1 (not_body_of_opening mark').1 body body'
      rw [parsed] at parsed'
      cases parsed'
      exact ⟨named.unique named', rfl, rfl⟩

namespace Reader

/-- Each line found for a file was added by a line that was read.  Its number is the one that a
machine word keeps, and the whole number as long as the counters fit. -/
theorem exists_adds {lines : List (List Char)} {file member : String}
    (h : member ∈ (start.run lines).changes.linesIn file) :
    ∃ n i j, Adds lines file n i j ∧ member = toString (n % Text.Decimal.wordBound) ∧
      (CountersFit lines → n < Text.Decimal.wordBound) := by
  -- By induction on the lines: what was found before has its origin before, which stays one.
  induction lines using run_induction with
  | nil => cases h
  | snoc lines line next hnext hsteps ih =>
    rw [hnext] at h
    have hbefore : member ∈ (start.run lines).changes.linesIn file →
        ∃ n i j, Adds (lines ++ [line]) file n i j ∧
          member = toString (n % Text.Decimal.wordBound) ∧
          (CountersFit (lines ++ [line]) → n < Text.Decimal.wordBound) := by
      intro hmember
      obtain ⟨n, i, j, hadds, hn, hfits⟩ := ih hmember
      exact ⟨n, i, j, hadds.append [line], hn, fun h => hfits h.of_snoc.1⟩
    cases hsteps with
    | @added text isOpen mark =>
      subst mark
      have hrecord : member ∈ (start.run lines).record.linesIn file := h
      unfold record at hrecord
      cases hfile : (start.run lines).file with
      | none =>
        rw [hfile] at hrecord
        exact hbefore hrecord
      | some path =>
        rw [hfile] at hrecord
        -- The member was there before, or it is the number that this line is counted with.
        rcases Changes.mem_linesIn_insert.mp hrecord with hmember | ⟨rfl, rfl⟩
        · exact hbefore hmember
        · obtain ⟨front, opening, between, header, hwithin⟩ := exists_within isOpen
          refine ⟨_, _, _, hwithin.adds hfile, ?_, fun h => hwithin.fits h.of_snoc.1⟩
          rw [hwithin.next]
          rfl
    | passed _ _ _ _ => exact hbefore h
    | names _ _ _ same _ =>
      rw [← same file] at hbefore
      exact hbefore h
    | opens _ => exact hbefore h
    | ignored _ _ => exact hbefore h

/-- No more lines are found than are marked as added. -/
theorem total_run_le (lines : List (List Char)) :
    (start.run lines).changes.total ≤ lines.countP isMarked := by
  -- Only a marked line records anything, and it records one number.
  induction lines using run_induction with
  | nil => exact Nat.le_refl 0
  | snoc lines line next hnext hsteps ih =>
    rw [hnext, List.countP_append, List.countP_singleton]
    cases hsteps with
    | added isOpen mark =>
      have hmarked : isMarked line = true := by rw [mark]; rfl
      have hrecord : (start.run lines).record.total ≤ (start.run lines).changes.total + 1 := by
        unfold record
        split
        · exact Changes.total_insert_le ..
        · exact Nat.le_succ _
      rw [if_pos hmarked]
      exact Nat.le_trans hrecord (Nat.add_le_add_right ih 1)
    | passed _ _ _ _ => exact Nat.le_add_right_of_le ih
    | names _ _ _ _ total => exact Nat.le_add_right_of_le (Nat.le_trans total ih)
    | opens _ => exact Nat.le_add_right_of_le ih
    | ignored _ _ => exact Nat.le_add_right_of_le ih

end Reader

namespace Changes

/-- Whatever text is read as a diff: as long as the counters fit a machine word, each line found
for a file is the decimal text of the number of a line that the text adds to this file; beyond
that, it is what a word keeps of this number.  A line of the text adds no more than one line of one
file, and so no more lines are found in all than are marked as added. -/
theorem ofDiff_adds (diff : String) :
    let lines := Text.linesOf diff.toList
    (CountersFit lines → ∀ file, ∀ member ∈ (ofDiff diff).linesIn file,
      ∃ n i j, member = toString n ∧ Adds lines file n i j) ∧
    (∀ file, ∀ member ∈ (ofDiff diff).linesIn file,
      ∃ n i j, member = toString (n % Text.Decimal.wordBound) ∧ Adds lines file n i j) ∧
    (∀ file other n m i k j, Adds lines file n i j → Adds lines other m k j →
      file = other ∧ n = m ∧ i = k) ∧
    (ofDiff diff).total ≤ lines.countP isMarked := by
  intro lines
  refine ⟨?_, ?_, ?_, Reader.total_run_le lines⟩
  -- Within a word the number is not cut off.
  · intro hfits file member hmember
    obtain ⟨n, i, j, hadds, hn, hlt⟩ := Reader.exists_adds hmember
    rw [Nat.mod_eq_of_lt (hlt hfits)] at hn
    exact ⟨n, i, j, hn, hadds⟩
  · intro file member hmember
    obtain ⟨n, i, j, hadds, hn, _⟩ := Reader.exists_adds hmember
    exact ⟨n, i, j, hn, hadds⟩
  · intro file other n m i k j hadds hother
    exact hadds.unique hother

/-- A hunk that is cut short by the name of another file: the counters of its header do not count
behind that, and the line that looks like a header is one of the second hunk. -/
theorem ofDiff_adds_cut_short :
    let diff := "+++ b/x\n@@ -0,0 +7,9 @@\n+a\n\n+b\nindex\n+++ y\n@@ -1 +3 @@\n+++ z\n"
    CountersFit (Text.linesOf diff.toList) ∧
      (ofDiff diff).linesIn "x" = ["7", "9"] ∧ (ofDiff diff).linesIn "y" = ["3"] ∧
      (∃ n i j, "9" = toString n ∧ Adds (Text.linesOf diff.toList) "x" n i j) ∧
      (ofDiff diff).total ≤ (Text.linesOf diff.toList).countP isMarked := by
  intro diff
  have hfits : CountersFit (Text.linesOf diff.toList) := by decide +kernel
  have hx : (ofDiff diff).linesIn "x" = ["7", "9"] := by decide +kernel
  obtain ⟨hadds, _, _, htotal⟩ := ofDiff_adds diff
  have hnine : "9" ∈ (ofDiff diff).linesIn "x" := by
    rw [hx]
    decide
  exact ⟨hfits, hx, by decide +kernel, hadds hfits "x" "9" hnine, htotal⟩

/-- Behind the last line that a machine word can count, the numbers start again with 0. -/
example : (ofDiff "+++ b/x\n@@ -0,0 +18446744073709551615,2 @@\n+a\n+b\n").linesIn "x"
    = ["18446744073709551615", "0"] := by decide +kernel

end Changes

end ChangeLint.Patch
