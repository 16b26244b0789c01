import ChangeLint.Proofs.Patch.HeaderLines

/-! # The grammar of a hunk header

A line is a hunk header if it has the form

    @@ -start,length +start,length @@context

where each `,length` may be missing and stands for 1 then.  Around the two ranges there may be
blanks of any kind, and other words may follow them; the context begins behind the first ` @@`
that follows the opening.

* `IsRange` and `States` are the grammar, said of the text and not of the reader.
* `range?_eq_some_iff` and `ofWords?_words_eq_some_iff` say what the parts of the reader accept.
* `parse?_eq_some_iff_printed` says that the reader finds what the grammar says, and reads printed
  ranges back. -/

namespace ChangeLint.Patch

/-! ## Section 1: The grammar -/

/-- A text is a range: a start and a length behind the first comma, or a start alone for a length
of 1.  Both are numbers that fit a machine word. -/
inductive IsRange : List Char → Nat → Nat → Prop where
  | long {front back : List Char} {start length : Nat} (hcomma : ',' ∉ front)
      (hstart : Text.Decimal.States front start) (hstart_lt : start < Text.Decimal.wordBound)
      (hlength : Text.Decimal.States back length)
      (hlength_lt : length < Text.Decimal.wordBound) :
      IsRange (front ++ ',' :: back) start length
  | short {cs : List Char} {start : Nat} (hcomma : ',' ∉ cs)
      (hstart : Text.Decimal.States cs start) (hstart_lt : start < Text.Decimal.wordBound) :
      IsRange cs start 1

namespace HunkHeader

/-- The first two words of a text are the old and the new range, each behind its sign. -/
def HasRanges (body : List Char) (header : HunkHeader) : Prop :=
  ∃ lead old gap new tail oldStart,
    body = lead ++ ('-' :: old ++ (gap ++ ('+' :: new ++ tail))) ∧
      (∀ c ∈ lead, Text.isBlank c = true) ∧
      (gap ≠ [] ∧ ∀ c ∈ gap, Text.isBlank c = true) ∧
      (∀ c ∈ tail.head?, Text.isBlank c = true) ∧
      IsRange old oldStart header.oldLength ∧ IsRange new header.newStart header.newLength

/-- A line states a hunk header: its ranges stand between the opening and the first closing mark
behind that. -/
def States (line : List Char) (header : HunkHeader) : Prop :=
  ∃ body rest, line = "@@ ".toList ++ (body ++ (" @@".toList ++ rest)) ∧
    (∀ before after, body ++ (" @@".toList ++ rest) = before ++ (" @@".toList ++ after) →
      body.length ≤ before.length) ∧
    HasRanges body header

end HunkHeader

/-! ## Section 2: Ranges -/

/-- The characters of a range are digits, but for signs and a comma. -/
theorem IsRange.of_mem {cs : List Char} {start length : Nat} (h : IsRange cs start length) :
    ∀ c ∈ cs, c.isDigit = true ∨ c ∈ ['+', ','] := by
  -- A number is digits, with a plus sign in front at most.
  have hnumber : ∀ number n, Text.Decimal.States number n →
      ∀ c ∈ number, c.isDigit = true ∨ c ∈ ['+', ','] := by
    intro number n hstates c hc
    rcases hstates.of_mem c hc with hdigit | rfl
    · exact .inl hdigit
    · exact .inr (by decide)
  cases h with
  | long _ hstart _ hlength _ =>
    intro c hc
    rcases List.mem_append.mp hc with hc | hc
    · exact hnumber _ _ hstart c hc
    · rcases List.mem_cons.mp hc with rfl | hc
      · exact .inr (by decide)
      · exact hnumber _ _ hlength c hc
  | short _ hstart _ => exact hnumber _ _ hstart

/-- A signed range is one word. -/
theorem IsRange.not_blank {cs : List Char} {start length : Nat} (h : IsRange cs start length)
    {sign : Char} (hsign : Text.isBlank sign = false) :
    ∀ c ∈ sign :: cs, Text.isBlank c = false := by
  have hmarks : ∀ c ∈ ['+', ','], Text.isBlank c = false :=
    List.forall_mem_cons.mpr ⟨rfl, List.forall_mem_singleton.mpr rfl⟩
  refine List.forall_mem_cons.mpr ⟨hsign, ?_⟩
  intro c hc
  rcases h.of_mem c hc with hdigit | hmark
  · exact Text.not_isBlank_of_isDecimal (Text.isDecimal_of_isDigit hdigit)
  · exact hmarks c hmark

/-- The start of a range fits a machine word. -/
theorem IsRange.start_lt {cs : List Char} {start length : Nat} (h : IsRange cs start length) :
    start < Text.Decimal.wordBound := by
  cases h with
  | long _ _ hstart_lt _ _ => exact hstart_lt
  | short _ _ hstart_lt => exact hstart_lt

/-- Read are the ranges. -/
theorem range?_eq_some_iff {cs : List Char} {start length : Nat} :
    range? cs = some (start, length) ↔ IsRange cs start length := by
  constructor
  · intro h
    unfold range? at h
    -- The reader cuts at the first comma, so that there is none in front of it.
    by_cases hcomma : ',' ∈ cs
    · obtain ⟨front, back, rfl, hfront⟩ := List.eq_append_cons_of_mem hcomma
      rw [Text.splitAtFirst?_append_cons (Text.beq_of_not_mem hfront) rfl] at h
      obtain ⟨first, hfirst, h⟩ := Option.bind_eq_some_iff.mp h
      obtain ⟨second, hsecond, heq⟩ := Option.map_eq_some_iff.mp h
      cases heq
      obtain ⟨hstart, hstart_lt⟩ := Text.Decimal.read?_eq_some_iff.mp hfirst
      obtain ⟨hlength, hlength_lt⟩ := Text.Decimal.read?_eq_some_iff.mp hsecond
      exact .long hfront hstart hstart_lt hlength hlength_lt
    · rw [Text.splitAtFirst?_of_forall (Text.beq_of_not_mem hcomma)] at h
      obtain ⟨first, hfirst, heq⟩ := Option.map_eq_some_iff.mp h
      cases heq
      obtain ⟨hstart, hstart_lt⟩ := Text.Decimal.read?_eq_some_iff.mp hfirst
      exact .short hcomma hstart hstart_lt
  · intro h
    unfold range?
    cases h with
    | @long front back _ _ hfront hstart hstart_lt hlength hlength_lt =>
      have hfirst : Text.Decimal.read? Text.Decimal.wordBound front = some start :=
        Text.Decimal.read?_eq_some_iff.mpr ⟨hstart, hstart_lt⟩
      have hsecond : Text.Decimal.read? Text.Decimal.wordBound back = some length :=
        Text.Decimal.read?_eq_some_iff.mpr ⟨hlength, hlength_lt⟩
      rw [Text.splitAtFirst?_append_cons (Text.beq_of_not_mem hfront) rfl]
      simp [hfirst, hsecond]
    -- Without a comma the whole is the start, and the length is 1.
    | short hcomma hstart hstart_lt =>
      have hfirst : Text.Decimal.read? Text.Decimal.wordBound cs = some start :=
        Text.Decimal.read?_eq_some_iff.mpr ⟨hstart, hstart_lt⟩
      rw [Text.splitAtFirst?_of_forall (Text.beq_of_not_mem hcomma)]
      simp [hfirst]

/-- A signed range is its sign and a range. -/
theorem signedRange?_eq_some_iff {sign : Char} {cs : List Char} {start length : Nat} :
    signedRange? sign cs = some (start, length) ↔
      ∃ range, cs = sign :: range ∧ IsRange range start length := by
  unfold signedRange?
  rw [Option.bind_eq_some_iff]
  refine exists_congr fun range => ?_
  rw [Text.stripHead?_eq_some_iff, range?_eq_some_iff]
  rfl

/-! ## Section 3: The whole line -/

namespace HunkHeader

/-- The header of a list of words is that of the first two of them. -/
theorem ofWords?_eq_some_iff {words : List (List Char)} {header : HunkHeader} :
    ofWords? words = some header ↔
      ∃ old new more oldStart, words = ('-' :: old) :: ('+' :: new) :: more ∧
        IsRange old oldStart header.oldLength ∧ IsRange new header.newStart header.newLength := by
  constructor
  · intro h
    unfold ofWords? at h
    split at h
    · next first second more =>
      obtain ⟨⟨oldStart, oldLength⟩, hold, h⟩ := Option.bind_eq_some_iff.mp h
      obtain ⟨⟨newStart, newLength⟩, hnew, heq⟩ := Option.map_eq_some_iff.mp h
      cases heq
      obtain ⟨old, rfl, holdRange⟩ := signedRange?_eq_some_iff.mp hold
      obtain ⟨new, rfl, hnewRange⟩ := signedRange?_eq_some_iff.mp hnew
      exact ⟨old, new, more, oldStart, rfl, holdRange, hnewRange⟩
    · cases h
  · rintro ⟨old, new, more, oldStart, rfl, hold, hnew⟩
    have hreadOld : signedRange? '-' ('-' :: old) = some (oldStart, header.oldLength) :=
      signedRange?_eq_some_iff.mpr ⟨old, rfl, hold⟩
    have hreadNew : signedRange? '+' ('+' :: new) = some (header.newStart, header.newLength) :=
      signedRange?_eq_some_iff.mpr ⟨new, rfl, hnew⟩
    simp [ofWords?, hreadOld, hreadNew]

/-- The ranges are found among the words of a text where the grammar sees them. -/
theorem ofWords?_words_eq_some_iff {body : List Char} {header : HunkHeader} :
    ofWords? (Text.words body) = some header ↔ HasRanges body header := by
  rw [ofWords?_eq_some_iff]
  constructor
  · rintro ⟨old, new, more, oldStart, hwords, hold, hnew⟩
    obtain ⟨lead, rest, rfl, hlead, _, hrest, hwords⟩ := Text.words_eq_cons_iff.mp hwords
    obtain ⟨gap, tail, rfl, hgap, ⟨_, hnewWord⟩, htail, _⟩ := Text.words_eq_cons_iff.mp hwords
    refine ⟨lead, old, gap, new, tail, oldStart, rfl, hlead, ⟨?_, hgap⟩, htail, hold, hnew⟩
    -- Without a gap the sign of the second word would be the blank behind the first one.
    intro hnil
    rw [hnil] at hrest
    have hblank : Text.isBlank '+' = true := hrest '+' rfl
    exact absurd hblank (by decide)
  · rintro ⟨lead, old, gap, new, tail, oldStart, rfl, hlead, ⟨hne, hgap⟩, htail, hold, hnew⟩
    -- The gap is not empty, so that a blank ends the first word.
    have hgapHead : ∀ c ∈ (gap ++ ('+' :: new ++ tail)).head?, Text.isBlank c = true := by
      obtain ⟨blank, more, rfl⟩ := List.exists_cons_of_ne_nil hne
      intro c hc
      cases hc
      exact hgap blank (by simp)
    refine ⟨old, new, Text.words tail, oldStart, ?_, hold, hnew⟩
    rw [Text.words_eq_cons_iff]
    refine ⟨lead, _, rfl, hlead, ⟨List.cons_ne_nil _ _, hold.not_blank (by decide)⟩, hgapHead, ?_⟩
    rw [Text.words_eq_cons_iff]
    exact ⟨gap, tail, rfl, hgap, ⟨List.cons_ne_nil _ _, hnew.not_blank (by decide)⟩, htail, rfl⟩

/-- The reader finds the header that a line states. -/
theorem parse?_eq_some_iff {line : List Char} {header : HunkHeader} :
    parse? line = some header ↔ States line header := by
  unfold parse? States
  rw [toList_hunkOpening, toList_hunkClosing, Option.bind_eq_some_iff]
  constructor
  · rintro ⟨text, hline, h⟩
    obtain ⟨⟨body, rest⟩, hcut, h⟩ := Option.bind_eq_some_iff.mp h
    -- The cut is the first one possible, as the grammar wants it.
    obtain ⟨htext, hfirst⟩ := Text.splitAtText?_eq_some_iff.mp hcut
    rw [htext] at hline hfirst
    exact ⟨body, rest, Text.stripHead?_eq_some_iff.mp hline, hfirst,
      ofWords?_words_eq_some_iff.mp h⟩
  · rintro ⟨body, rest, hline, hfirst, hranges⟩
    refine ⟨body ++ (closing ++ rest), Text.stripHead?_eq_some_iff.mpr hline, ?_⟩
    rw [Text.splitAtText?_eq_some_iff.mpr ⟨rfl, hfirst⟩]
    exact ofWords?_words_eq_some_iff.mpr hranges

/-- The number at which the new lines start fits a machine word. -/
theorem newStart_lt {line : List Char} {header : HunkHeader} (h : parse? line = some header) :
    header.newStart < Text.Decimal.wordBound := by
  obtain ⟨_, _, _, _, _, _, _, _, _, _, _, _, _, _, _, hnew⟩ := parse?_eq_some_iff.mp h
  exact hnew.start_lt

/-- **A line is read as a hunk header exactly if it states one, and then the header read is the
only one that it states.**  In particular printed ranges are read back if all four numbers fit a
machine word, whether or not a length of 1 is left out and whatever stands behind the closing
mark, be it another mark; if a number does not fit, nothing is read. -/
theorem parse?_eq_some_iff_printed :
    (∀ line header, parse? line = some header ↔ States line header) ∧
    (∀ line header other, States line header → States line other → header = other) ∧
    ∀ (ranges : PrintedRanges) (context : List Char),
      (ranges.Fits → parse? (ranges.header context)
        = some ⟨ranges.oldLength, ranges.newStart, ranges.newLength⟩) ∧
      (¬ ranges.Fits → parse? (ranges.header context) = none) := by
  refine ⟨fun _ _ => parse?_eq_some_iff, ?_, ?_⟩
  · intro line header other hheader hother
    have hread : parse? line = some header := parse?_eq_some_iff.mpr hheader
    rw [parse?_eq_some_iff.mpr hother] at hread
    exact (Option.some.inj hread).symm
  · intro ranges context
    -- A printed header is read in one of two ways, by whether its numbers fit.
    rw [ranges.parse?_header context]
    exact ⟨fun hfits => if_pos hfits, fun hfits => if_neg hfits⟩

/-- Signs and zeros in front of the digits, other blanks, a third word and a second mark. -/
example : parse? "@@ \t-+007,2\u2003+20 more @@ f @@".toList = some ⟨2, 20, 1⟩ := by decide

end HunkHeader

end ChangeLint.Patch
