import ChangeLint.Yaml.Folding
import ChangeLint.Yaml.ScalarForm

/-! # Cursors on written texts

What is written for reading is a text in front of other text.  This module says where a cursor
stands once it has read the first part, and how gaps and line ends are read.

* `Text.Runs` takes a text apart into words and the runs of separators between them.
* `Gap.read_spaces` and `Gap.read_breaks` read the two kinds of gaps that are written. -/

namespace ChangeLint

/-! ## Section 1: Words and runs -/

/-- A text is a word without separators, or a word in front of a run of separators and a text
that does not start with one. -/
inductive Text.Runs (p : Char → Bool) : List Char → Prop where
  | word {word : List Char} (inside : ∀ c ∈ word, p c = false) : Runs p word
  | step {word gap text : List Char} (inside : ∀ c ∈ word, p c = false)
      (between : ∀ c ∈ gap, p c = true) (parted : gap ≠ [])
      (next : ∀ c ∈ text.head?, p c = false) (rest : Runs p text) :
      Runs p (word ++ (gap ++ text))

/-- Every text can be taken apart. -/
theorem Text.runs (p : Char → Bool) (text : List Char) : Text.Runs p text := by
  induction text with
  | nil => exact .word nofun
  | cons c text ih =>
    by_cases hc : p c = true
    · have hone : ∀ d ∈ [c], p d = true := by simpa using hc
      -- The separator joins the run in front, or is a run of its own.
      cases ih with
      | word inside =>
        have hnext : ∀ d ∈ text.head?, p d = false :=
          fun d hd => inside d (List.mem_of_mem_head? hd)
        have h : Text.Runs p ([] ++ ([c] ++ text)) :=
          .step nofun hone (List.cons_ne_nil c []) hnext (.word inside)
        exact h
      | @step word gap rest inside between parted next hrest =>
        cases word with
        | nil =>
          have hall : ∀ d ∈ c :: gap, p d = true := List.forall_mem_cons.mpr ⟨hc, between⟩
          have h : Text.Runs p ([] ++ ((c :: gap) ++ rest)) :=
            .step nofun hall (List.cons_ne_nil c gap) next hrest
          exact h
        | cons d word =>
          have hd : ∀ x ∈ (d :: word ++ (gap ++ rest)).head?, p x = false := by
            simpa using inside d (by simp)
          have h : Text.Runs p ([] ++ ([c] ++ (d :: word ++ (gap ++ rest)))) :=
            .step nofun hone (List.cons_ne_nil c []) hd (.step inside between parted next hrest)
          exact h
    · rw [Bool.not_eq_true] at hc
      -- The character joins the word in front, or is one.
      cases ih with
      | word inside => exact .word (List.forall_mem_cons.mpr ⟨hc, inside⟩)
      | @step word gap rest inside between parted next hrest =>
        have hall : ∀ d ∈ c :: word, p d = false := List.forall_mem_cons.mpr ⟨hc, inside⟩
        have h : Text.Runs p (c :: word ++ (gap ++ rest)) :=
          .step hall between parted next hrest
        exact h

namespace Yaml

/-! ## Section 2: Pairs -/

/-- A relation holds somewhere exactly if it holds between two neighbours. -/
theorem hasPair_iff {related : Char → Char → Bool} {text : List Char} :
    hasPair related text = true
      ↔ ∃ front a b back, text = front ++ a :: b :: back ∧ related a b = true := by
  induction text with
  | nil => simp [hasPair]
  | cons c text ih =>
    -- One character alone has no neighbour.
    cases text with
    | nil =>
      constructor
      · intro h
        cases h
      · rintro ⟨front, a, b, back, h, _⟩
        have hlength := congrArg List.length h
        simp only [List.length_cons, List.length_nil, List.length_append] at hlength
        omega
    | cons d text =>
      rw [hasPair_cons_cons, Bool.or_eq_true, ih]
      constructor
      · rintro (h | ⟨front, a, b, back, h, hab⟩)
        · exact ⟨[], c, d, text, rfl, h⟩
        · exact ⟨c :: front, a, b, back, by rw [h, List.cons_append], hab⟩
      · rintro ⟨front, a, b, back, h, hab⟩
        -- The pair is the first one, or it is one of the rest.
        cases front with
        | nil =>
          cases h
          exact .inl hab
        | cons e front =>
          rw [List.cons_append, List.cons.injEq] at h
          exact .inr ⟨front, a, b, back, h.2, hab⟩

theorem not_related_of_hasPair {related : Char → Char → Bool} {front back : List Char}
    {a b : Char} (h : hasPair related (front ++ a :: b :: back) = false) :
    related a b = false := by
  rw [← Bool.not_eq_true] at h ⊢
  intro hab
  exact h (hasPair_iff.mpr ⟨front, a, b, back, rfl, hab⟩)

/-- What holds nowhere in a text holds nowhere in a part of it. -/
theorem hasPair_of_append {related : Char → Char → Bool} {front text back : List Char}
    (h : hasPair related (front ++ (text ++ back)) = false) : hasPair related text = false := by
  rw [← Bool.not_eq_true] at h ⊢
  intro hpair
  obtain ⟨before, a, b, after, rfl, hab⟩ := hasPair_iff.mp hpair
  refine h (hasPair_iff.mpr ⟨front ++ before, a, b, after ++ back, ?_, hab⟩)
  simp

/-! ## Section 3: Characters -/

/-- Three characters end a line and can be written without an escape. -/
theorem isBreak_cases {c : Char} (hbreak : isBreak c = true) (hprint : isPrintable c = true) :
    c = '\n' ∨ c = '\u2028' ∨ c = '\u2029' := by
  simp only [isBreak, Bool.or_eq_true, beq_iff_eq] at hbreak
  -- A carriage return and the next-line character are line ends that need an escape.
  rcases hbreak with (((rfl | rfl) | rfl) | rfl) | rfl
  · exact absurd hprint (by decide)
  · exact .inl rfl
  · exact absurd hprint (by decide)
  · exact .inr (.inl rfl)
  · exact .inr (.inr rfl)

/-- A character that can be written without an escape separates words only if it is a space or
the end of a line. -/
theorem isGapOrEnd_of_isPrintable {c : Char} (hprint : isPrintable c = true)
    (h : isSpaceOrBreak c = false) : isGapOrEnd c = false := by
  have htab : c ≠ '\t' := by
    rintro rfl
    exact absurd hprint (by decide)
  -- The end of the text cannot be written either.
  have hend : c ≠ terminator := by
    rintro rfl
    exact absurd hprint (by decide)
  simp only [isSpaceOrBreak, Bool.or_eq_false_iff, beq_eq_false_iff_ne] at h
  simp [isGapOrEnd, isGap, isBreakOrEnd, h.1, h.2, htab, hend]

/-- What does not separate words is neither a gap nor the end of a line. -/
theorem not_gap_of_isGapOrEnd {c : Char} (h : isGapOrEnd c = false) :
    isGap c = false ∧ isBreak c = false := by
  simp only [isGapOrEnd, isBreakOrEnd, Bool.or_eq_false_iff] at h
  exact ⟨h.1, h.2.1⟩

/-! ## Section 4: Positions -/

namespace Mark

/-- The position after some characters of a line. -/
def past (mark : Mark) (cs : List Char) : Mark where
  index := mark.index + (Text.Utf8.encode cs).length
  line := mark.line
  column := mark.column + cs.length

/-- The position after a character that ends a line. -/
def below (mark : Mark) (c : Char) : Mark where
  index := mark.index + (Text.Utf8.encode [c]).length
  line := mark.line + 1
  column := 0

theorem past_past (mark : Mark) (a b : List Char) :
    (mark.past a).past b = mark.past (a ++ b) := by
  simp [past, Nat.add_assoc]

@[simp] theorem past_nil (mark : Mark) : mark.past [] = mark := rfl

@[simp] theorem column_past (mark : Mark) (cs : List Char) :
    (mark.past cs).column = mark.column + cs.length := rfl

@[simp] theorem line_past (mark : Mark) (cs : List Char) : (mark.past cs).line = mark.line := rfl

@[simp] theorem column_below (mark : Mark) (c : Char) : (mark.below c).column = 0 := rfl

/-- Behind the ends of some lines a line starts. -/
theorem column_foldl_below (mark : Mark) (c : Char) (breaks : List Char) :
    ((c :: breaks).foldl below mark).column = 0 := by
  -- Only the last line end decides, so the induction is for every position before it.
  induction breaks generalizing mark c with
  | nil => rfl
  | cons d breaks ih => exact ih (mark.below c) d

theorem column_foldl_below_of_start {mark : Mark} (h : mark.column = 0) (breaks : List Char) :
    (breaks.foldl below mark).column = 0 := by
  cases breaks with
  | nil => exact h
  | cons c breaks => exact column_foldl_below mark c breaks

end Mark

namespace Cursor

theorem skip_append (cs rest : List Char) (mark : Mark) :
    skip ⟨cs ++ rest, mark⟩ cs.length = ⟨rest, mark.past cs⟩ := by
  simp [skip, Mark.past]

theorem skip_cons (c : Char) (rest : List Char) (mark : Mark) :
    skip ⟨c :: rest, mark⟩ 1 = ⟨rest, mark.past [c]⟩ := skip_append [c] rest mark

@[simp] theorem peek_cons (c : Char) (rest : List Char) (mark : Mark) :
    peek ⟨c :: rest, mark⟩ = c := rfl

@[simp] theorem peekAt_one (c : Char) (rest : List Char) (mark : Mark) :
    peekAt ⟨c :: rest, mark⟩ 1 = rest.headD terminator := rfl

theorem takeWhile_append {p : Char → Bool} {cs rest : List Char} (mark : Mark)
    (h : ∀ c ∈ cs, p c = true) (hrest : ∀ c ∈ rest.head?, p c = false) :
    takeWhile ⟨cs ++ rest, mark⟩ p = (cs, ⟨rest, mark.past cs⟩) := by
  -- Taking stops at what follows, and skipping as many characters leads there.
  have htaken : (cs ++ rest).takeWhile p = cs := by
    rw [List.takeWhile_append_of_pos h]
    cases rest with
    | nil => simp
    | cons c rest => simp [hrest c rfl]
  rw [takeWhile, htaken, skip_append]

theorem skipWhile_of_stop {p : Char → Bool} {rest : List Char} (mark : Mark)
    (h : ∀ c ∈ rest.head?, p c = false) : skipWhile ⟨rest, mark⟩ p = ⟨rest, mark⟩ := by
  have htaken := takeWhile_append mark (List.forall_mem_nil (p · = true)) h
  rw [List.nil_append, Mark.past_nil] at htaken
  rw [skipWhile, htaken]

/-- A line end that is written without an escape is read as itself. -/
theorem readBreak_cons {c : Char} (rest : List Char) (mark : Mark)
    (hbreak : isBreak c = true) (hprint : isPrintable c = true) :
    readBreak ⟨c :: rest, mark⟩ = ([c], ⟨rest, mark.below c⟩) := by
  rcases isBreak_cases hbreak hprint with rfl | rfl | rfl <;> rfl

/-- What begins or ends a document stands at the start of a line. -/
theorem isDocumentMarker_of_column {c : Cursor} (h : 0 < c.mark.column) :
    c.isDocumentMarker = false := by
  have hzero : (c.mark.column == 0) = false := by
    rw [beq_eq_false_iff_ne]
    omega
  simp [isDocumentMarker, isMarker, hzero]

end Cursor

/-! ## Section 5: Gaps -/

namespace Gap

/-- The gap with some line ends more. -/
def addBreaks (gap : Gap) (breaks : List Char) : Gap :=
  breaks.foldl (fun gap c => gap.addBreak [c]) gap

theorem addBreaks_cons (gap : Gap) (c : Char) (breaks : List Char) :
    gap.addBreaks (c :: breaks) = (gap.addBreak [c]).addBreaks breaks := rfl

/-- The first line end of a gap is kept apart from the others. -/
theorem addBreaks_none (c : Char) (breaks : List Char) :
    none.addBreaks (c :: breaks) = ⟨[], [c], breaks, true⟩ := by
  -- Generalised over the line ends that are already kept behind the first one.
  have hmore : ∀ taken : List Char, addBreaks ⟨[], [c], taken, true⟩ breaks
      = ⟨[], [c], taken ++ breaks, true⟩ := by
    induction breaks with
    | nil =>
      intro taken
      rw [List.append_nil]
      rfl
    | cons d breaks ih =>
      intro taken
      have hnext : addBreak ⟨[], [c], taken, true⟩ [d] = ⟨[], [c], taken ++ [d], true⟩ := rfl
      rw [addBreaks_cons, hnext, ih, List.append_assoc, List.singleton_append]
  exact hmore []

/-- The gap with some spaces more. -/
def addSpaces (gap : Gap) (spaces : List Char) : Gap := spaces.foldl addSpace gap

theorem addSpaces_cons (gap : Gap) (c : Char) (spaces : List Char) :
    gap.addSpaces (c :: spaces) = (gap.addSpace c).addSpaces spaces := rfl

theorem addSpaces_none (spaces : List Char) :
    none.addSpaces spaces = ⟨spaces, [], [], false⟩ := by
  -- Generalised over the spaces that are already kept.
  have hmore : ∀ taken : List Char, addSpaces ⟨taken, [], [], false⟩ spaces
      = ⟨taken ++ spaces, [], [], false⟩ := by
    induction spaces with
    | nil =>
      intro taken
      rw [List.append_nil]
      rfl
    | cons c spaces ih =>
      intro taken
      have hnext : addSpace ⟨taken, [], [], false⟩ c = ⟨taken ++ [c], [], [], false⟩ := rfl
      rw [addSpaces_cons, hnext, ih, List.append_assoc, List.singleton_append]
  exact hmore []

/-- Spaces do not count behind a line end. -/
theorem addSpaces_of_broken {gap : Gap} (h : gap.broken = true) (spaces : List Char) :
    gap.addSpaces spaces = gap := by
  induction spaces with
  | nil => rfl
  | cons c spaces ih =>
    have hsame : gap.addSpace c = gap := if_pos h
    rw [addSpaces_cons, hsame, ih]

/-- Reading stops where neither a space nor a line end stands. -/
theorem readFrom_of_stop (limit fuel : Nat) (gap : Gap) {rest : List Char} (mark : Mark)
    (h : ∀ c ∈ rest.head?, isGap c = false ∧ isBreak c = false) :
    readFrom limit fuel gap ⟨rest, mark⟩ = .ok (gap, ⟨rest, mark⟩) := by
  cases fuel with
  | zero => rfl
  | succ fuel =>
    -- At the end of the text the terminator is seen, which is neither.
    have hpeek : isGap (Cursor.peek ⟨rest, mark⟩) = false ∧
        isBreak (Cursor.peek ⟨rest, mark⟩) = false := by
      cases rest with
      | nil => exact ⟨rfl, rfl⟩
      | cons c rest => exact h c rfl
    simp [readFrom, hpeek.1, hpeek.2]

theorem readFrom_spaces (limit fuel : Nat) (gap : Gap) {spaces : List Char} (rest : List Char)
    (mark : Mark) (h : ∀ c ∈ spaces, c = ' ') :
    readFrom limit (fuel + spaces.length) gap ⟨spaces ++ rest, mark⟩
      = readFrom limit fuel (gap.addSpaces spaces) ⟨rest, mark.past spaces⟩ := by
  induction spaces generalizing gap mark with
  | nil => rfl
  | cons c spaces ih =>
    have hc : c = ' ' := h c (by simp)
    subst hc
    have hgap : isGap ' ' = true := by decide
    -- A space counts on any column; only a tab could be refused.
    have htab : (' ' == '\t') = false := by decide
    rw [List.length_cons, ← Nat.add_assoc, List.cons_append, readFrom, Cursor.peek_cons,
      if_pos hgap, htab, Bool.and_false, if_neg Bool.false_ne_true, Cursor.skip_cons,
      ih _ _ fun d hd => h d (by simp [hd]), Mark.past_past, addSpaces_cons]
    rfl

theorem readFrom_breaks (limit fuel : Nat) (gap : Gap) {breaks : List Char} (rest : List Char)
    (mark : Mark) (h : ∀ c ∈ breaks, isBreak c = true ∧ isPrintable c = true) :
    readFrom limit (fuel + breaks.length) gap ⟨breaks ++ rest, mark⟩
      = readFrom limit fuel (gap.addBreaks breaks) ⟨rest, breaks.foldl Mark.below mark⟩ := by
  induction breaks generalizing gap mark with
  | nil => rfl
  | cons c breaks ih =>
    obtain ⟨hbreak, hprint⟩ := h c (by simp)
    -- A line end is no gap, so that the second branch is taken.
    have hgap : isGap c = false := by
      rcases isBreak_cases hbreak hprint with rfl | rfl | rfl <;> decide
    rw [List.length_cons, ← Nat.add_assoc, List.cons_append, readFrom, Cursor.peek_cons, hgap,
      if_neg Bool.false_ne_true, if_pos hbreak, Cursor.readBreak_cons _ _ hbreak hprint,
      ih _ _ fun d hd => h d (by simp [hd]), addBreaks_cons, List.foldl_cons]

/-- Spaces between two words of a line. -/
theorem read_spaces (limit : Nat) {spaces rest : List Char} (mark : Mark)
    (hspaces : ∀ c ∈ spaces, c = ' ')
    (hrest : ∀ c ∈ rest.head?, isGap c = false ∧ isBreak c = false) :
    none.read limit ⟨spaces ++ rest, mark⟩
      = .ok (⟨spaces, [], [], false⟩, ⟨rest, mark.past spaces⟩) := by
  -- Fuel is the length of the text, and each space takes one of it.
  have hfuel : (spaces ++ rest).length + 1 = (rest.length + 1) + spaces.length := by
    rw [List.length_append]
    omega
  rw [read, hfuel, readFrom_spaces _ _ _ _ _ hspaces, readFrom_of_stop _ _ _ _ hrest,
    addSpaces_none]

/-- Line ends between two words, with the indentation of the second one. -/
theorem read_breaks (limit : Nat) {c : Char} {breaks spaces rest : List Char} (mark : Mark)
    (hbreaks : ∀ d ∈ c :: breaks, isBreak d = true ∧ isPrintable d = true)
    (hspaces : ∀ d ∈ spaces, d = ' ')
    (hrest : ∀ d ∈ rest.head?, isGap d = false ∧ isBreak d = false) :
    none.read limit ⟨c :: breaks ++ (spaces ++ rest), mark⟩
      = .ok (⟨[], [c], breaks, true⟩,
          ⟨rest, ((c :: breaks).foldl Mark.below mark).past spaces⟩) := by
  have hfuel : (c :: breaks ++ (spaces ++ rest)).length + 1
      = ((rest.length + 1) + spaces.length) + (c :: breaks).length := by
    simp only [List.length_append, List.length_cons]
    omega
  rw [read, hfuel, readFrom_breaks _ _ _ _ _ hbreaks, addBreaks_none,
    readFrom_spaces _ _ _ _ _ hspaces, addSpaces_of_broken rfl, readFrom_of_stop _ _ _ _ hrest]

theorem readFreely_of_read {gap next : Gap} {c after : Cursor}
    (h : read 0 gap c = .ok (next, after)) : gap.readFreely c = (next, after) := by
  rw [readFreely, h]

end Gap

end Yaml

end ChangeLint
