import ChangeLint.Finding
import ChangeLint.Proofs.Text.Reading

/-! # The grammar of a line of a report

A text states a finding if it has the form

    file:line:column: code description

up to the end of its first line.  The file may hold colons and digits of its own, so it is not
plain where it ends.  But no place holds a blank: the first blank of the text ends the place, and
line and column are what stands behind its last two colons.

* `States` is the grammar, said of the fields and not of the reader.
* `place?_eq_some_iff` and `message?_eq_some_iff` say what either half of the reader accepts.
* `parse?_eq_some_iff_states` says that the reader finds what the grammar says, and that a text
  states at most one finding. -/

namespace ChangeLint

namespace Finding

/-! ## Section 1: The grammar -/

/-- The characters of the fields are those that a line of a report has there. -/
structure Sound (finding : Finding) : Prop where
  file : ∀ c ∈ finding.file.toList, Text.isBlank c = false
  line : ∀ c ∈ finding.line.toList, Text.isDecimal c = true
  column : ∀ c ∈ finding.column.toList, Text.isDecimal c = true
  code : ∀ c ∈ finding.code.toList, Text.isWordChar c = true
  description : '\n' ∉ finding.description.toList

/-- Each field is what a line of a report may have there: only the code and the description may
be empty. -/
structure WellFormed (finding : Finding) : Prop extends Sound finding where
  file_ne_nil : finding.file.toList ≠ []
  line_ne_nil : finding.line.toList ≠ []
  column_ne_nil : finding.column.toList ≠ []

/-- The fields with the marks between them. -/
def chars (finding : Finding) : List Char :=
  finding.file.toList ++ ':' :: (finding.line.toList ++ ':' :: (finding.column.toList
    ++ ':' :: ' ' :: (finding.code.toList ++ ' ' :: finding.description.toList)))

/-- A text states a finding: it starts with the fields and the marks between them, and its first
line ends where the description does. -/
def States (cs : List Char) (finding : Finding) : Prop :=
  finding.WellFormed ∧ ∃ tail, cs = finding.chars ++ tail ∧ ∀ c ∈ tail.head?, c = '\n'

/-! ## Section 2: The place -/

/-- What is cut off the end are digits, as many as there are, behind a colon. -/
theorem digitsFromEnd?_eq_some_iff {back rest digits : List Char} :
    digitsFromEnd? back = some (rest, digits) ↔
      back.reverse = rest.reverse ++ ':' :: digits ∧ digits ≠ [] ∧
        ∀ c ∈ digits, Text.isDecimal c = true := by
  -- The reader walks from the end, the grammar is said from the front.
  have hback : back.reverse = rest.reverse ++ ':' :: digits
      ↔ back = digits.reverse ++ ':' :: rest := by
    rw [List.reverse_eq_iff]
    simp
  rw [hback]
  constructor
  · intro h
    unfold digitsFromEnd? at h
    split at h
    · cases h
    · next _ _ _ hdrop hne =>
      cases h
      obtain ⟨hsplit, hdecimal, _⟩ := Text.takeWhile_dropWhile_eq_iff.mp ⟨rfl, hdrop⟩
      rw [List.reverse_reverse]
      refine ⟨hsplit, ?_, ?_⟩
      · rw [ne_eq, List.reverse_eq_nil_iff]
        exact fun hnil => hne hnil
      · intro c hc
        exact hdecimal c (List.mem_reverse.mp hc)
    · cases h
  · rintro ⟨rfl, hne, hdecimal⟩
    -- The colon is no digit, so that taking digits stops there and not before.
    have hcolon : ∀ c ∈ (':' :: rest).head?, Text.isDecimal c = false := by
      rintro c hc
      cases hc
      decide
    obtain ⟨htake, hdrop⟩ := Text.takeWhile_dropWhile_eq_iff.mpr
      ⟨rfl, fun c hc => hdecimal c (List.mem_reverse.mp hc), hcolon⟩
    unfold digitsFromEnd?
    rw [htake, hdrop]
    cases hreverse : digits.reverse with
    | nil => exact absurd (List.reverse_eq_nil_iff.mp hreverse) hne
    | cons digit more =>
      show some (rest, (digit :: more).reverse) = _
      rw [← hreverse, List.reverse_reverse]

/-- A place is what two colons with digits behind them and a last colon make of a file. -/
theorem place?_eq_some_iff {head file line column : List Char} :
    place? head = some (file, line, column) ↔
      head = file ++ ':' :: (line ++ ':' :: (column ++ [':'])) ∧
        (file ≠ [] ∧ line ≠ [] ∧ column ≠ []) ∧
        (∀ c ∈ line, Text.isDecimal c = true) ∧ ∀ c ∈ column, Text.isDecimal c = true := by
  constructor
  · intro h
    unfold place? at h
    split at h
    · next back hreverse =>
      -- The parts are cut off one after the other, the last one first.
      obtain ⟨⟨middle, digits⟩, hcolumn, h⟩ := Option.bind_eq_some_iff.mp h
      obtain ⟨⟨front, number⟩, hline, h⟩ := Option.bind_eq_some_iff.mp h
      obtain ⟨hback, hdigits_ne, hdigits⟩ := digitsFromEnd?_eq_some_iff.mp hcolumn
      obtain ⟨hmiddle, hnumber_ne, hnumber⟩ := digitsFromEnd?_eq_some_iff.mp hline
      have hhead : head = back.reverse ++ [':'] := by
        rw [← List.reverse_cons, ← hreverse, List.reverse_reverse]
      dsimp only at h
      split at h
      · cases h
      · next hfront =>
        cases h
        refine ⟨?_, ⟨?_, hnumber_ne, hdigits_ne⟩, hnumber, hdigits⟩
        · rw [hhead, hback, hmiddle, List.append_assoc, List.append_assoc]
          rfl
        · rw [ne_eq, List.reverse_eq_nil_iff]
          exact fun hnil => hfront (List.isEmpty_iff.mpr hnil)
    · cases h
  · rintro ⟨rfl, ⟨hfile_ne, hline_ne, hcolumn_ne⟩, hline, hcolumn⟩
    -- Cutting goes from the last colon to the first; what is cut off are the fields as given.
    have hcutColumn :
        digitsFromEnd? (column.reverse ++ ':' :: (line.reverse ++ ':' :: file.reverse))
          = some (line.reverse ++ ':' :: file.reverse, column) := by
      rw [digitsFromEnd?_eq_some_iff]
      refine ⟨?_, hcolumn_ne, hcolumn⟩
      simp
    have hcutLine : digitsFromEnd? (line.reverse ++ ':' :: file.reverse)
        = some (file.reverse, line) := by
      rw [digitsFromEnd?_eq_some_iff]
      refine ⟨?_, hline_ne, hline⟩
      simp
    have hreverse : (file ++ ':' :: (line ++ ':' :: (column ++ [':']))).reverse
        = ':' :: (column.reverse ++ ':' :: (line.reverse ++ ':' :: file.reverse)) := by
      simp
    unfold place?
    rw [hreverse]
    simp [hcutColumn, hcutLine, hfile_ne]

/-! ## Section 3: The message -/

/-- A message is a code, a space, and what is left of the line. -/
theorem message?_eq_some_iff {cs code description : List Char} :
    message? cs = some (code, description) ↔
      (∀ c ∈ code, Text.isWordChar c = true) ∧ '\n' ∉ description ∧
        ∃ tail, cs = code ++ ' ' :: (description ++ tail) ∧ ∀ c ∈ tail.head?, c = '\n' := by
  have hnewline : ∀ text : List Char, (∀ c ∈ text, (c != '\n') = true) ↔ '\n' ∉ text := by
    intro text
    simp only [bne_iff_ne, ne_eq]
    exact ⟨fun h hn => h _ hn rfl, fun h c hc heq => h (heq ▸ hc)⟩
  constructor
  · intro h
    unfold message? at h
    split at h
    · next rest hrest =>
      cases h
      obtain ⟨hsplit, hcode, _⟩ := Text.takeWhile_dropWhile_eq_iff.mp ⟨rfl, hrest⟩
      obtain ⟨hends, hdescription, htail⟩ := Text.takeWhile_dropWhile_eq_iff.mp
        (⟨rfl, rfl⟩ : rest.takeWhile (· != '\n') = _ ∧ rest.dropWhile (· != '\n') = _)
      refine ⟨hcode, (hnewline _).mp hdescription, rest.dropWhile (· != '\n'), ?_, ?_⟩
      · rw [← hends]
        exact hsplit
      · intro c hc
        simpa using htail c hc
    · cases h
  · rintro ⟨hcode, hdescription, tail, rfl, htail⟩
    -- A space is no part of a word, and a line feed ends what is left of the line.
    have hspace : ∀ c ∈ (' ' :: (description ++ tail)).head?, Text.isWordChar c = false := by
      rintro c hc
      cases hc
      decide
    have hend : ∀ c ∈ tail.head?, (c != '\n') = false := by
      intro c hc
      rw [htail c hc]
      decide
    obtain ⟨hword, hrest⟩ := Text.takeWhile_dropWhile_eq_iff.mpr ⟨rfl, hcode, hspace⟩
    obtain ⟨hline, _⟩ := Text.takeWhile_dropWhile_eq_iff.mpr
      ⟨rfl, (hnewline _).mpr hdescription, hend⟩
    unfold message?
    rw [hrest, hword]
    show some (code, (description ++ tail).takeWhile (· != '\n')) = _
    rw [hline]

/-! ## Section 4: The whole text -/

/-- What the reader finds in a text is stated by it. -/
theorem states_of_ofChars? {cs : List Char} {finding : Finding}
    (h : ofChars? cs = some finding) : States cs finding := by
  unfold ofChars? at h
  split at h
  · next rest hrest =>
    obtain ⟨hsplit, hsolid, _⟩ := Text.takeWhile_dropWhile_eq_iff.mp ⟨rfl, hrest⟩
    obtain ⟨⟨file, line, column⟩, hplace, h⟩ := Option.bind_eq_some_iff.mp h
    obtain ⟨⟨code, description⟩, hmessage, rfl⟩ := Option.map_eq_some_iff.mp h
    obtain ⟨hhead, ⟨hfile_ne, hline_ne, hcolumn_ne⟩, hline, hcolumn⟩ :=
      place?_eq_some_iff.mp hplace
    obtain ⟨hcode, hdescription, tail, htail, hend⟩ := message?_eq_some_iff.mp hmessage
    -- No character before the first blank is blank, and the file is a part of that.
    rw [hhead] at hsolid hsplit
    have hfile : ∀ c ∈ file, Text.isBlank c = false := by
      intro c hc
      simpa using hsolid c (by simp [hc])
    have hform : WellFormed ⟨String.ofList file, String.ofList line, String.ofList column,
        String.ofList code, String.ofList description⟩ := {
      file := by simpa using hfile
      line := by simpa using hline
      column := by simpa using hcolumn
      code := by simpa using hcode
      description := by simpa using hdescription
      file_ne_nil := by simpa using hfile_ne
      line_ne_nil := by simpa using hline_ne
      column_ne_nil := by simpa using hcolumn_ne }
    refine ⟨hform, tail, ?_, hend⟩
    rw [hsplit, htail]
    simp [chars]
  · cases h

/-- What a text states is found in it.  No place holds a blank, so that the first blank of the
text is the space behind the place. -/
theorem ofChars?_of_states {cs : List Char} {finding : Finding} (h : States cs finding) :
    ofChars? cs = some finding := by
  obtain ⟨hform, tail, rfl, hend⟩ := h
  obtain ⟨file, line, column, code, description⟩ := finding
  obtain ⟨⟨hfile, hline, hcolumn, hcode, hdescription⟩, hfile_ne, hline_ne, hcolumn_ne⟩ := hform
  dsimp only at hfile hline hcolumn hcode hdescription hfile_ne hline_ne hcolumn_ne
  let place := file.toList ++ ':' :: (line.toList ++ ':' :: (column.toList ++ [':']))
  let message := code.toList ++ ' ' :: (description.toList ++ tail)
  have hchars : chars ⟨file, line, column, code, description⟩ ++ tail
      = place ++ ' ' :: message := by
    simp [chars, place, message]
  -- File, line and column hold no blank, nor do the colons between them.
  have hsolid : ∀ c ∈ place, (!Text.isBlank c) = true := by
    intro c hc
    simp only [place, List.mem_append, List.mem_cons, List.not_mem_nil, or_false] at hc
    rcases hc with hc | rfl | hc | rfl | hc | rfl
    · rw [hfile c hc]
      rfl
    · decide
    · rw [Text.not_isBlank_of_isDecimal (hline c hc)]
      rfl
    · decide
    · rw [Text.not_isBlank_of_isDecimal (hcolumn c hc)]
      rfl
    · decide
  have hspace : ∀ c ∈ (' ' :: message).head?, (!Text.isBlank c) = false := by
    rintro c hc
    cases hc
    decide
  -- So the text is cut at the space behind the place, and both halves are read as they were
  -- meant.
  obtain ⟨hbefore, hbehind⟩ := Text.takeWhile_dropWhile_eq_iff.mpr ⟨hchars, hsolid, hspace⟩
  have hplace : place? place = some (file.toList, line.toList, column.toList) :=
    place?_eq_some_iff.mpr ⟨rfl, ⟨hfile_ne, hline_ne, hcolumn_ne⟩, hline, hcolumn⟩
  have hmessage : message? message = some (code.toList, description.toList) :=
    message?_eq_some_iff.mpr ⟨hcode, hdescription, tail, rfl, hend⟩
  unfold ofChars?
  rw [hbehind, hbefore]
  simp [hplace, hmessage]

/-- A line of a report, or any other text, states a finding exactly if the reader finds that, and
it states no other one. -/
theorem parse?_eq_some_iff_states (text : String) :
    (∀ finding, parse? text = some finding ↔ States text.toList finding) ∧
      ∀ finding other, States text.toList finding → States text.toList other →
        finding = other := by
  have hiff : ∀ finding, parse? text = some finding ↔ States text.toList finding :=
    fun finding => ⟨states_of_ofChars?, ofChars?_of_states⟩
  refine ⟨hiff, ?_⟩
  intro finding other hfinding hother
  -- The reader finds one thing at most.
  have hsame : some finding = some other :=
    ((hiff finding).mpr hfinding).symm.trans ((hiff other).mpr hother)
  exact Option.some.inj hsame

/-- A file that looks like a place, and a second line that does not count. -/
theorem parse?_eq_some_iff_states_place :
    let text := "a:1:2:b.py:010:7:  x: y \nb.py:1:1: E1 z"
    let finding : Finding := ⟨"a:1:2:b.py", "010", "7", "", "x: y "⟩
    parse? text = some finding ∧ States text.toList finding ∧
      ∀ other, States text.toList other → other = finding := by
  intro text finding
  have hparse : parse? text = some finding := by decide +kernel
  obtain ⟨hiff, hunique⟩ := parse?_eq_some_iff_states text
  have hstates := (hiff finding).mp hparse
  exact ⟨hparse, hstates, fun other hother => hunique other finding hother hstates⟩

end Finding

end ChangeLint
