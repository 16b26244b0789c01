import ChangeLint.Proofs.Yaml.Cursors
import ChangeLint.Yaml.BlockScalar
import ChangeLint.Yaml.Written

/-! # Literal texts are read back

A literal scalar keeps its lines.  Each one is written behind two spaces of indentation, and an
empty one as its end alone.  Reading takes the indentation off again, and the hints restore the
line ends at the end of the text.

* `readAllBreaks_line` and `readAllBreaks_end` read the empty lines in front of a line and those
  behind the last one.
* `readLines_text` reads the lines, and `chomped_endHint` says that the hint keeps as many line
  ends as the text has.
* `read_literal` reads the scalar. -/

namespace ChangeLint.Yaml.Block

/-! ## Section 1: Empty lines -/

/-- Some line ends may stand in front of a text. -/
theorem exists_breaks (text : List Char) :
    ∃ front lines, text = front ++ lines ∧ (∀ c ∈ front, isBreak c = true) ∧
      ∀ c ∈ lines.head?, isBreak c = false := by
  induction text with
  | nil => exact ⟨[], [], rfl, nofun, nofun⟩
  | cons c text ih =>
    by_cases hc : isBreak c = true
    · obtain ⟨front, lines, rfl, hfront, hlines⟩ := ih
      exact ⟨c :: front, lines, rfl, List.forall_mem_cons.mpr ⟨hc, hfront⟩, hlines⟩
    · exact ⟨[], c :: text, rfl, nofun, by simpa using hc⟩

/-- Reading the indentation of a line ends behind it, whether the indentation is known or to be
found out. -/
theorem skipIndent_indent {given : Nat} {line : List Char} {mark : Mark} (fuel : Nat)
    (hcolumn : mark.column = 0)
    (hgiven : given = 2 ∨ (given = 0 ∧ line.headD terminator ≠ ' ')) :
    skipIndent given (fuel + 3) ⟨indent ++ line, mark⟩ = ⟨line, mark.past indent⟩ := by
  -- Two spaces are passed over; the third place is behind the indentation, or has no space.
  have hfirst : skipIndent given (fuel + 3) ⟨indent ++ line, mark⟩
      = skipIndent given (fuel + 2) ⟨' ' :: line, mark.past [' ']⟩ := by
    have hskip : Cursor.skip ⟨' ' :: ' ' :: line, mark⟩ 1 = ⟨' ' :: line, mark.past [' ']⟩ :=
      Cursor.skip_cons ' ' _ mark
    have hhere : (given == 0 || decide (mark.column < given)) = true := by
      rcases hgiven with rfl | ⟨rfl, _⟩ <;> simp [hcolumn]
    simp [indent, skipIndent, hhere, hskip]
  have hsecond : skipIndent given (fuel + 2) ⟨' ' :: line, mark.past [' ']⟩
      = skipIndent given (fuel + 1) ⟨line, (mark.past [' ']).past [' ']⟩ := by
    have hhere : (given == 0 || decide ((mark.past [' ']).column < given)) = true := by
      rcases hgiven with rfl | ⟨rfl, _⟩ <;> simp [hcolumn]
    rw [skipIndent, hhere, Cursor.peek_cons, Cursor.skip_cons]
    rfl
  have hlast : skipIndent given (fuel + 1) ⟨line, (mark.past [' ']).past [' ']⟩
      = ⟨line, (mark.past [' ']).past [' ']⟩ := by
    -- A known indentation is reached here; one to be found out goes on while there are spaces.
    rcases hgiven with rfl | ⟨rfl, hline⟩
    · simp [skipIndent, hcolumn]
    · have hpeek : (Cursor.peek ⟨line, (mark.past [' ']).past [' ']⟩ == ' ') = false :=
        beq_eq_false_iff_ne.mpr hline
      simp [skipIndent, hpeek]
  rw [hfirst, hsecond, hlast, Mark.past_past]
  rfl

theorem skipIndent_of_stop (given fuel : Nat) {rest : List Char} (mark : Mark)
    (h : rest.headD terminator ≠ ' ') : skipIndent given fuel ⟨rest, mark⟩ = ⟨rest, mark⟩ := by
  have hpeek : (Cursor.peek ⟨rest, mark⟩ == ' ') = false := beq_eq_false_iff_ne.mpr h
  cases fuel with
  | zero => rfl
  | succ fuel => simp [skipIndent, hpeek]

/-- Empty lines are read as their ends. -/
theorem readBreaks_append (given : Nat) (start mark : Mark) (fuel widest : Nat)
    (text rest : List Char) {breaks : List Char}
    (h : ∀ c ∈ breaks, isBreak c = true ∧ isPrintable c = true) :
    ∃ widest', (breaks = [] → widest' = widest) ∧
      readBreaks given start (fuel + breaks.length) text widest ⟨breaks ++ rest, mark⟩
        = readBreaks given start fuel (text ++ breaks) widest'
          ⟨rest, breaks.foldl Mark.below mark⟩ := by
  -- By induction on the empty lines, for any text before them and any widest one so far.
  induction breaks generalizing mark widest text with
  | nil => exact ⟨widest, fun _ => rfl, by rw [List.append_nil]; rfl⟩
  | cons c breaks ih =>
    obtain ⟨hbreak, hprint⟩ := h c (by simp)
    -- The end of an empty line is neither indentation nor a tab.
    have hspace : (c :: breaks ++ rest).headD terminator ≠ ' ' := by
      rintro rfl
      exact absurd hbreak (by decide)
    have htab : (c == '\t') = false := by
      rw [beq_eq_false_iff_ne]
      rintro rfl
      exact absurd hbreak (by decide)
    obtain ⟨widest', _, htail⟩ := ih (mark.below c) (max widest mark.column) (text ++ [c])
      fun d hd => h d (by simp [hd])
    refine ⟨widest', nofun, ?_⟩
    rw [List.length_cons, ← Nat.add_assoc, readBreaks, skipIndent_of_stop given _ mark hspace]
    simp only [List.cons_append, Cursor.peek_cons, htab, hbreak, Bool.and_false,
      Cursor.readBreak_cons _ _ hbreak hprint, Bool.false_eq_true, if_false, if_true, htail]
    rw [List.append_assoc]
    rfl

/-- Where neither a gap nor a line end stands behind the indentation, no line is empty. -/
theorem readBreaks_of_stop {given fuel widest : Nat} {start mark : Mark} {text line : List Char}
    {c : Cursor} (hindent : skipIndent given (c.rest.length + 1) c = ⟨line, mark⟩)
    (hline : ∀ d ∈ line.head?, isBreak d = false ∧ d ≠ '\t') :
    readBreaks given start (fuel + 1) text widest c
      = .ok ⟨text, max widest mark.column, ⟨line, mark⟩⟩ := by
  -- At the end of the input the terminator is seen, which is no break either.
  have hpeek : isBreak (Cursor.peek ⟨line, mark⟩) = false ∧
      (Cursor.peek ⟨line, mark⟩ == '\t') = false := by
    cases line with
    | nil => exact ⟨rfl, rfl⟩
    | cons d line =>
      obtain ⟨hbreak, htab⟩ := hline d rfl
      exact ⟨hbreak, beq_eq_false_iff_ne.mpr htab⟩
  simp [readBreaks, hindent, hpeek.1, hpeek.2]

/-- Empty lines in front of a line are read up to the indentation of that line. -/
theorem readAllBreaks_line {given : Nat} (start : Mark) {mark : Mark} {breaks line : List Char}
    (hbreaks : ∀ c ∈ breaks, isBreak c = true ∧ isPrintable c = true)
    (hline : ∀ c ∈ line.head?, isBreak c = false ∧ c ≠ '\t') (hcolumn : mark.column = 0)
    (hgiven : given = 2 ∨ (given = 0 ∧ line.headD terminator ≠ ' ')) :
    ∃ (widest : Nat) (after : Mark), (breaks = [] → widest = 2) ∧ after.column = 2 ∧
      readAllBreaks given start ⟨breaks ++ (indent ++ line), mark⟩
        = .ok ⟨breaks, widest, ⟨line, after⟩⟩ := by
  obtain ⟨widest, hwidest, hread⟩ :=
    readBreaks_append given start mark ((indent ++ line).length + 1) 0 [] (indent ++ line) hbreaks
  have hstart := Mark.column_foldl_below_of_start hcolumn breaks
  have hindent := skipIndent_indent line.length hstart hgiven
  -- One unit of fuel is spent on each empty line, and one on the line that ends the search.
  have hfuel : (breaks ++ (indent ++ line)).length + 1
      = ((indent ++ line).length + 1) + breaks.length := by
    rw [List.length_append]
    omega
  refine ⟨max widest 2, (breaks.foldl Mark.below mark).past indent, ?_, ?_, ?_⟩
  · intro hnil
    rw [hwidest hnil]
    rfl
  · rw [Mark.column_past, hstart]
    rfl
  · have hlast : ((breaks.foldl Mark.below mark).past indent).column = 2 := by
      rw [Mark.column_past, hstart]
      rfl
    have hlength : (indent ++ line).length + 1 = line.length + 3 := by
      simp [indent]
    rw [readAllBreaks, hfuel, hread, readBreaks_of_stop (by rw [hlength, hindent]) hline, hlast,
      List.nil_append]

/-- Empty lines in front of what is indented less are read up to there. -/
theorem readAllBreaks_end (start : Mark) {mark : Mark} {breaks rest : List Char}
    (hbreaks : ∀ c ∈ breaks, isBreak c = true ∧ isPrintable c = true)
    (hrest : ∀ c ∈ rest.head?, isGap c = false ∧ isBreak c = false) (hcolumn : mark.column = 0) :
    ∃ (widest : Nat) (after : Mark), after.column = 0 ∧
      readAllBreaks 2 start ⟨breaks ++ rest, mark⟩ = .ok ⟨breaks, widest, ⟨rest, after⟩⟩ := by
  obtain ⟨widest, _, hread⟩ :=
    readBreaks_append 2 start mark (rest.length + 1) 0 [] rest hbreaks
  have hfuel : (breaks ++ rest).length + 1 = (rest.length + 1) + breaks.length := by
    rw [List.length_append]
    omega
  -- What is indented less starts in the first column, so there is no space to pass over.
  have hnogap : rest.headD terminator ≠ ' ' := by
    cases rest with
    | nil => decide
    | cons c rest =>
      rintro rfl
      exact absurd (hrest ' ' rfl).1 (by decide)
  have hindent := skipIndent_of_stop 2 (rest.length + 1) (breaks.foldl Mark.below mark) hnogap
  have hstop : ∀ c ∈ rest.head?, isBreak c = false ∧ c ≠ '\t' := by
    intro c hc
    refine ⟨(hrest c hc).2, ?_⟩
    rintro rfl
    exact absurd (hrest '\t' hc).1 (by decide)
  refine ⟨max widest (breaks.foldl Mark.below mark).column, breaks.foldl Mark.below mark,
    Mark.column_foldl_below_of_start hcolumn breaks, ?_⟩
  rw [readAllBreaks, hfuel, hread, readBreaks_of_stop hindent hstop, List.nil_append]

/-! ## Section 2: Lines -/

theorem literalInner_append {line : List Char} (text : List Char)
    (h : ∀ c ∈ line, isBreak c = false) :
    literalInner false (line ++ text) = line ++ literalInner false text := by
  induction line with
  | nil => rfl
  | cons c line ih =>
    have hc : isBreak c = false := h c (by simp)
    rw [List.cons_append, literalInner, hc, ih fun d hd => h d (by simp [hd])]
    rfl

theorem literalInner_append_breaks {breaks : List Char} (lineStart : Bool) (text : List Char)
    (hne : breaks ≠ []) (h : ∀ c ∈ breaks, isBreak c = true) :
    literalInner lineStart (breaks ++ text) = breaks ++ literalInner true text := by
  -- Behind the first end a line starts whatever was in front of it.
  induction breaks generalizing lineStart with
  | nil => exact absurd rfl hne
  | cons c breaks ih =>
    rw [List.cons_append, literalInner, if_pos (h c (by simp)), List.cons_append]
    cases breaks with
    | nil => rfl
    | cons d breaks => rw [ih true (by simp) fun x hx => h x (by simp [hx])]

/-- A line starts with the indentation. -/
theorem literalInner_true {text : List Char} (hne : text ≠ [])
    (h : ∀ c ∈ text.head?, isBreak c = false) :
    literalInner true text = indent ++ literalInner false text := by
  obtain ⟨c, text, rfl⟩ := List.exists_cons_of_ne_nil hne
  have hc : isBreak c = false := h c rfl
  simp [literalInner, hc]

/-- A line that continues starts like its text. -/
theorem head?_literalInner {text : List Char} (rest : List Char) (hne : text ≠ [])
    (h : ∀ c ∈ text.head?, isBreak c = false) :
    (literalInner false text ++ rest).head? = text.head? := by
  obtain ⟨c, text, rfl⟩ := List.exists_cons_of_ne_nil hne
  have hc : isBreak c = false := h c rfl
  simp [literalInner, hc]

/-- Neither the end of a line nor a tab stands where a line that can be written starts. -/
theorem head_literalInner {text : List Char} (rest : List Char) (hne : text ≠ [])
    (hprint : ∀ c ∈ text, isPrintable c = true) (h : ∀ c ∈ text.head?, isBreak c = false) :
    ∀ c ∈ (literalInner false text ++ rest).head?, isBreak c = false ∧ c ≠ '\t' := by
  intro c hc
  rw [head?_literalInner rest hne h] at hc
  refine ⟨h c hc, ?_⟩
  rintro rfl
  have htab := hprint '\t' (List.mem_of_mem_head? hc)
  exact absurd htab (by decide)

/-- Whether the last line has an end is seen from what stands behind other lines. -/
theorem getLast?_any_append (front : List Char) {lines : List Char} (hne : lines ≠ []) :
    (front ++ lines).getLast?.any isBreak = lines.getLast?.any isBreak := by
  -- The last character is one of `lines`, which has some.
  rw [List.getLast?_append, List.getLast?_eq_some_getLast hne]
  rfl

/-- What can be written without an escape goes on to the end of its line. -/
theorem isBreakOrEnd_of_isPrintable {c : Char} (hprint : isPrintable c = true)
    (hbreak : isBreak c = false) : isBreakOrEnd c = false := by
  have hend : c ≠ terminator := by
    rintro rfl
    exact absurd hprint (by decide)
  simp [isBreakOrEnd, hbreak, hend]

/-- One round of reading: a line, its end, and the empty lines behind it. -/
theorem readLines_line {start mark : Mark} {fuel : Nat} {body : Body} {c : Char}
    {line rest : List Char} {breaks : Breaks} (hcolumn : mark.column = 2) (hne : line ≠ [])
    (hline : ∀ d ∈ line, isPrintable d = true ∧ isBreak d = false)
    (hc : isBreak c = true ∧ isPrintable c = true)
    (hbreaks : readAllBreaks 2 start ⟨rest, (mark.past line).below c⟩ = .ok breaks) :
    readLines true 2 start (fuel + 1) body ⟨line ++ c :: rest, mark⟩
      = readLines true 2 start fuel
          ⟨body.text ++ body.lastBreak ++ body.breaks ++ line, [c], breaks.text,
            isGap (line.headD terminator)⟩ breaks.after := by
  -- What is taken up to the end of the line is exactly the line.
  have hinside : ∀ d ∈ line, (!isBreakOrEnd d) = true := by
    intro d hd
    obtain ⟨hprint, hbreak⟩ := hline d hd
    rw [isBreakOrEnd_of_isPrintable hprint hbreak]
    rfl
  have hstop : ∀ d ∈ (c :: rest).head?, (!isBreakOrEnd d) = false := by
    intro d hd
    cases hd
    simp [isBreakOrEnd, hc.1]
  have hpeek : Cursor.peek ⟨line ++ c :: rest, mark⟩ = line.headD terminator ∧
      Cursor.atEnd ⟨line ++ c :: rest, mark⟩ = false := by
    obtain ⟨d, line, rfl⟩ := List.exists_cons_of_ne_nil hne
    have hd := hinside d (by simp)
    simp only [isBreakOrEnd, Bool.not_eq_true', Bool.or_eq_false_iff] at hd
    exact ⟨rfl, hd.2⟩
  -- The line is moved behind what was read, and the ends behind it wait in the body.
  simp [readLines, hcolumn, hpeek.1, hpeek.2, Cursor.takeWhile_append mark hinside hstop,
    Cursor.readBreak_cons rest (mark.past line) hc.1 hc.2, hbreaks, Body.joined]

/-- No line is read where the text is indented less. -/
theorem readLines_of_outdent (start : Mark) (fuel : Nat) (body : Body) {cursor : Cursor}
    (h : cursor.mark.column = 0) :
    readLines true 2 start fuel body cursor = .ok (body, cursor) := by
  cases fuel with
  | zero => rfl
  | succ fuel => simp [readLines, h]

section

variable {line more text rest : List Char} {c : Char} {mark : Mark} (start : Mark) (fuel : Nat)
  (body : Body) (hcolumn : mark.column = 2) (hne : line ≠ [])
  (hline : ∀ d ∈ line, isPrintable d = true ∧ isBreak d = false)
  (hbreaks : ∀ d ∈ c :: more, isBreak d = true ∧ isPrintable d = true)

include hline hbreaks in
/-- A line is written as it is, and so are its end and the empty lines behind it. -/
theorem literalInner_line (text rest : List Char) :
    literalInner false (line ++ (c :: more ++ text)) ++ rest
      = line ++ c :: (more ++ (literalInner true text ++ rest)) := by
  rw [literalInner_append _ fun d hd => (hline d hd).2,
    literalInner_append_breaks _ _ (List.cons_ne_nil c more) fun d hd => (hbreaks d hd).1]
  simp

include hcolumn hne hline hbreaks

/-- The last line is read with all line ends behind it. -/
theorem readLines_last (hrest : ∀ d ∈ rest.head?, isGap d = false ∧ isBreak d = false) :
    ∃ after : Mark, after.column = 0 ∧
      readLines true 2 start (fuel + 1) body ⟨literalInner false (line ++ c :: more) ++ rest, mark⟩
        = .ok (⟨body.text ++ body.lastBreak ++ body.breaks ++ line, [c], more,
            isGap (line.headD terminator)⟩, ⟨rest, after⟩) := by
  have hmore : ∀ d ∈ more, isBreak d = true ∧ isPrintable d = true :=
    fun d hd => hbreaks d (by simp [hd])
  obtain ⟨widest, after, hafter, hread⟩ :=
    readAllBreaks_end start hmore hrest (Mark.column_below (mark.past line) c)
  have hwritten : literalInner false (line ++ c :: more) ++ rest = line ++ c :: (more ++ rest) := by
    have hall := literalInner_line hline hbreaks [] rest
    rwa [List.append_nil] at hall
  refine ⟨after, hafter, ?_⟩
  -- Below the last line end nothing is indented, so reading ends in the next round.
  rw [hwritten, readLines_line hcolumn hne hline (hbreaks c (by simp)) hread,
    readLines_of_outdent start fuel _ hafter]

/-- A line in front of others is read up to the next one that is not empty. -/
theorem readLines_next (htext : text ≠ []) (hprint : ∀ d ∈ text, isPrintable d = true)
    (hnext : ∀ d ∈ text.head?, isBreak d = false) :
    ∃ after : Mark, after.column = 2 ∧
      readLines true 2 start (fuel + 1) body
          ⟨literalInner false (line ++ (c :: more ++ text)) ++ rest, mark⟩
        = readLines true 2 start fuel
            ⟨body.text ++ body.lastBreak ++ body.breaks ++ line, [c], more,
              isGap (line.headD terminator)⟩ ⟨literalInner false text ++ rest, after⟩ := by
  have hmore : ∀ d ∈ more, isBreak d = true ∧ isPrintable d = true :=
    fun d hd => hbreaks d (by simp [hd])
  obtain ⟨widest, after, _, hafter, hread⟩ :=
    readAllBreaks_line start hmore (head_literalInner rest htext hprint hnext)
      (Mark.column_below (mark.past line) c) (.inl rfl)
  refine ⟨after, hafter, ?_⟩
  rw [literalInner_line hline hbreaks, literalInner_true htext hnext, List.append_assoc,
    readLines_line hcolumn hne hline (hbreaks c (by simp)) hread]

end

/-- The lines of a text whose last line has an end are read up to what is indented less.  The
line ends at the end of the text are kept apart. -/
theorem readLines_text {text rest : List Char} (start : Mark)
    (hrest : ∀ c ∈ rest.head?, isGap c = false ∧ isBreak c = false) :
    (∀ c ∈ text, isPrintable c = true) → text ≠ [] → (∀ c ∈ text.head?, isBreak c = false) →
      text.getLast?.any isBreak = true →
      ∀ (fuel : Nat) (body : Body) (mark : Mark), text.length < fuel → mark.column = 2 →
      ∃ (front : List Char) (c : Char) (more : List Char) (afterGap : Bool) (after : Mark),
        text = front ++ c :: more ∧ (∀ d ∈ c :: more, isBreak d = true) ∧ after.column = 0 ∧
          readLines true 2 start fuel body ⟨literalInner false text ++ rest, mark⟩
            = .ok (⟨body.text ++ body.lastBreak ++ body.breaks ++ front, [c], more, afterGap⟩,
                ⟨rest, after⟩) := by
  -- The induction is on the lines of the text; the ends behind a line are not yet in the body.
  induction Text.runs isBreak text with
  | @word word inside =>
    -- One line without an end is excluded.
    intro _ hne _ hlast
    rw [List.getLast?_eq_some_getLast hne, Option.any_some,
      inside _ (List.getLast_mem hne)] at hlast
    cases hlast
  | @step line breaks text inside between parted next _ ih =>
    intro hprint _ hhead hlast fuel body mark hfuel hcolumn
    obtain ⟨fuel, rfl⟩ : ∃ n, fuel = n + 1 := ⟨fuel - 1, by omega⟩
    obtain ⟨c, more, rfl⟩ := List.exists_cons_of_ne_nil parted
    have hline : line ≠ [] := by
      rintro rfl
      have hc := hhead c rfl
      rw [between c (by simp)] at hc
      cases hc
    have hchars : ∀ d ∈ line, isPrintable d = true ∧ isBreak d = false :=
      fun d hd => ⟨hprint d (by simp [hd]), inside d hd⟩
    have hbreaks : ∀ d ∈ c :: more, isBreak d = true ∧ isPrintable d = true := by
      intro d hd
      refine ⟨between d hd, hprint d ?_⟩
      rw [List.mem_append, List.mem_append]
      exact .inr (.inl hd)
    -- What is behind the line ends is nothing or the next line.
    by_cases htext : text = []
    · subst htext
      obtain ⟨after, hafter, hread⟩ :=
        readLines_last start fuel body hcolumn hline hchars hbreaks hrest
      refine ⟨line, c, more, isGap (line.headD terminator), after, by simp, between, hafter, ?_⟩
      rw [List.append_nil, hread]
    -- More lines follow, and the hypothesis reads them behind this one.
    · have htextprint : ∀ d ∈ text, isPrintable d = true := fun d hd => hprint d (by simp [hd])
      obtain ⟨after, hafter, hread⟩ :=
        readLines_next start fuel body hcolumn hline hchars hbreaks htext htextprint next
      have hlast' : text.getLast?.any isBreak = true := by
        rwa [← List.append_assoc, getLast?_any_append _ htext] at hlast
      have hlength : text.length < fuel := by
        simp only [List.length_append, List.length_cons] at hfuel
        omega
      obtain ⟨front, d, last, afterGap, stop, hsplit, hlasts, hstop, hrun⟩ :=
        ih htextprint htext next hlast' fuel
          ⟨body.text ++ body.lastBreak ++ body.breaks ++ line, [c], more,
            isGap (line.headD terminator)⟩ after hlength hafter
      refine ⟨line ++ (c :: more ++ front), d, last, afterGap, stop, ?_, hlasts, hstop, ?_⟩
      · rw [hsplit]
        simp
      · rw [hread, hrun]
        simp

/-! ## Section 3: The end of the text -/

/-- The line end that is written behind a text whose last line has none. -/
def closing (text : List Char) : List Char := if text.getLast?.any isBreak then [] else ['\n']

/-- What a hint says about the line ends at the end. -/
def chomping (hint : List Char) : Chomping :=
  if hint = ['-'] then .strip else if hint = ['+'] then .keep else .clip

/-- The hint is about the last two characters. -/
theorem endHint_cases (text : List Char) :
    (endHint text = ['-'] ∧ text.getLast?.any isBreak = false) ∨
      (endHint text = ['+'] ∧ text.getLast?.any isBreak = true) ∨
      (endHint text = [] ∧ text.getLast?.any isBreak = true ∧
        ∃ front d c, text = front ++ [d] ++ [c] ∧ isBreak d = false) := by
  -- The hint is computed from the end, so the text is taken from there.
  obtain ⟨reversed, rfl⟩ : ∃ reversed : List Char, text = reversed.reverse :=
    ⟨text.reverse, by simp⟩
  match reversed with
  | [] => exact .inl ⟨rfl, rfl⟩
  | [c] =>
    by_cases hc : isBreak c = true
    · exact .inr (.inl (by simp [endHint, hc]))
    · exact .inl (by simp [endHint, hc])
  -- The last two characters decide.
  | c :: d :: front =>
    by_cases hc : isBreak c = true
    · by_cases hd : isBreak d = true
      · exact .inr (.inl (by simp [endHint, hc, hd]))
      · rw [Bool.not_eq_true] at hd
        refine .inr (.inr ⟨by simp [endHint, hc, hd], by simp [hc], front.reverse, d, c, ?_, hd⟩)
        simp
    · exact .inl (by simp [endHint, hc])

/-- Where a line is in front of the last line end, no other line end is. -/
theorem eq_of_line_end {front more before : List Char} {c d e : Char}
    (h : front ++ c :: more = before ++ [d] ++ [e]) (hbreaks : ∀ x ∈ c :: more, isBreak x = true)
    (hd : isBreak d = false) : more = [] ∧ front = before ++ [d] ∧ c = e := by
  -- Were there more line ends, `d` would be one of them.
  have hmore : more = [] := by
    by_cases hne : more = []
    · exact hne
    · exfalso
      -- Otherwise the line would end in a line end itself.
      have hlast := List.dropLast_concat_getLast hne
      rw [← hlast, ← List.cons_append, ← List.append_assoc] at h
      have hfront := (List.append_inj' h rfl).1
      have hin : d ∈ c :: more.dropLast := by
        have hend : (front ++ c :: more.dropLast).getLast? = some d := by
          rw [hfront, List.getLast?_concat]
        have hcons := List.cons_ne_nil c more.dropLast
        rw [List.getLast?_append, List.getLast?_eq_some_getLast hcons, Option.some_or,
          Option.some.injEq] at hend
        rw [← hend]
        exact List.getLast_mem _
      have hbreak : isBreak d = true := by
        refine hbreaks d ?_
        rcases List.mem_cons.mp hin with rfl | hmem
        · simp
        · exact List.mem_cons_of_mem _ (List.dropLast_subset more hmem)
      rw [hd] at hbreak
      cases hbreak
  subst hmore
  obtain ⟨hfront, hlast⟩ := List.append_inj' h rfl
  exact ⟨rfl, hfront, by simpa using hlast⟩

/-- The line ends that the hint keeps are those of the text. -/
theorem chomped_endHint {text front more : List Char} {c : Char} (afterGap : Bool)
    (h : text ++ closing text = front ++ c :: more)
    (hbreaks : ∀ d ∈ c :: more, isBreak d = true) :
    Body.chomped ⟨front, [c], more, afterGap⟩ (chomping (endHint text)) = text := by
  -- One case for each hint: strip, keep and neither.
  rcases endHint_cases text with ⟨hhint, hlast⟩ | ⟨hhint, hlast⟩ | ⟨hhint, hlast, hsome⟩
  · have hclosing : closing text = ['\n'] := by simp [closing, hlast]
    rw [hclosing] at h
    -- The only line end is the one that was written behind the text.
    have hfront : front = text := by
      by_cases hne : text = []
      · subst hne
        have hlength := congrArg List.length h
        simp only [List.length_append, List.length_cons, List.length_nil] at hlength
        exact List.eq_nil_of_length_eq_zero (by omega)
      · have hend := List.dropLast_concat_getLast hne
        have hd : isBreak (text.getLast hne) = false := by
          rw [List.getLast?_eq_some_getLast hne] at hlast
          exact hlast
        rw [← hend] at h
        rw [(eq_of_line_end h.symm hbreaks hd).2.1, hend]
    rw [hhint, hfront]
    rfl
  -- Everything is kept, so nothing has to be known of where the lines end.
  · have hclosing : closing text = [] := by simp [closing, hlast]
    rw [hclosing, List.append_nil] at h
    rw [hhint, h]
    simp [chomping, Body.chomped]
  · -- One line end behind a line is what is kept without a hint.
    obtain ⟨before, d, e, hsplit, hd⟩ := hsome
    have hclosing : closing text = [] := by simp [closing, hlast]
    rw [hclosing, List.append_nil] at h
    obtain ⟨_, hfront, hc⟩ := eq_of_line_end (h.symm.trans hsplit) hbreaks hd
    rw [hhint, hsplit, hfront, hc]
    rfl

/-- All line ends are kept where there is nothing else. -/
theorem chomped_of_breaks {text : List Char} (hne : text ≠ [])
    (h : ∀ c ∈ text, isBreak c = true) :
    Body.chomped ⟨[], [], text, false⟩ (chomping (endHint text)) = text := by
  have hlast : text.getLast?.any isBreak = true := by
    rw [List.getLast?_eq_some_getLast hne]
    exact h _ (List.getLast_mem hne)
  -- Only the hint to keep is left: the others need a last line with something on it.
  rcases endHint_cases text with ⟨_, hno⟩ | ⟨hhint, _⟩ | ⟨_, _, front, d, c, hsplit, hd⟩
  · rw [hlast] at hno
    cases hno
  · rw [hhint]
    rfl
  · have hbreak := h d (by simp [hsplit])
    rw [hd] at hbreak
    cases hbreak

/-! ## Section 4: Scalars -/

/-- How far the hint says that lines are indented. -/
def hinted (text : List Char) : Nat := if text.head?.any isSpaceOrBreak then 2 else 0

theorem readHints_written (start mark : Mark) (text rest : List Char) :
    ∃ after : Mark, readHints start ⟨indentHint text ++ endHint text ++ '\n' :: rest, mark⟩
      = .ok (⟨chomping (endHint text), hinted text⟩, ⟨'\n' :: rest, after⟩) := by
  have hends : endHint text = ['-'] ∨ endHint text = ['+'] ∨ endHint text = [] := by
    rcases endHint_cases text with ⟨h, _⟩ | ⟨h, _⟩ | ⟨h, _⟩
    · exact .inl h
    · exact .inr (.inl h)
    · exact .inr (.inr h)
  -- Each of the two hints is there or not, and what is read is computed for each choice.
  by_cases hfirst : text.head?.any isSpaceOrBreak = true
  · rcases hends with h | h | h <;> rw [h, indentHint, hinted, if_pos hfirst, if_pos hfirst] <;>
      exact ⟨_, rfl⟩
  · rcases hends with h | h | h <;> rw [h, indentHint, hinted, if_neg hfirst, if_neg hfirst] <;>
      exact ⟨_, rfl⟩

theorem literalInner_append_feed (lineStart : Bool) (text : List Char) :
    literalInner lineStart (text ++ ['\n']) = literalInner lineStart text ++ ['\n'] := by
  -- The feed is written alone on its line, so it brings no indentation with it.
  induction text generalizing lineStart with
  | nil => rfl
  | cons c text ih =>
    rw [List.cons_append, literalInner, literalInner]
    split <;> simp [ih]

theorem literalInner_append_closing (text : List Char) :
    literalInner true (text ++ closing text) = literalInner true text ++ closing text := by
  unfold closing
  split
  · rw [List.append_nil, List.append_nil]
  · exact literalInner_append_feed true text

theorem length_le_literalInner (lineStart : Bool) (text : List Char) :
    text.length ≤ (literalInner lineStart text).length := by
  induction text generalizing lineStart with
  | nil => exact Nat.zero_le _
  | cons c text ih =>
    -- Both kinds of continuation occur, and neither drops a character.
    have hrest := ih true
    have hline := ih false
    rw [literalInner]
    split <;> simp only [List.length_append, List.length_cons] <;> omega

theorem printable_append_closing {text : List Char} (h : ∀ c ∈ text, isPrintable c = true) :
    ∀ c ∈ text ++ closing text, isPrintable c = true := by
  intro c hc
  rcases List.mem_append.mp hc with hc | hc
  · exact h c hc
  · unfold closing at hc
    split at hc
    · cases hc
    · rw [List.mem_singleton.mp hc]
      decide

/-- With the line end behind it, the last line has one. -/
theorem getLast?_append_closing (text : List Char) :
    (text ++ closing text).getLast?.any isBreak = true := by
  unfold closing
  split
  case isTrue h => rwa [List.append_nil]
  case isFalse h =>
    rw [List.getLast?_concat]
    rfl

/-- The hint is left out only if the first line shows its indentation. -/
theorem hinted_cases (text : List Char) :
    hinted text = 2 ∨ (hinted text = 0 ∧ ∀ c ∈ text.head?, isSpaceOrBreak c = false) := by
  by_cases h : text.head?.any isSpaceOrBreak = true
  · exact .inl (if_pos h)
  · refine .inr ⟨if_neg h, ?_⟩
    simpa [Option.any_eq_true] using h

/-- Empty lines and the lines behind them are written with the indentation of the first of
these. -/
theorem literalInner_of_lines {front lines : List Char} (hne : lines ≠ [])
    (hfront : ∀ c ∈ front, isBreak c = true) (hnext : ∀ c ∈ lines.head?, isBreak c = false) :
    literalInner true (front ++ lines) = front ++ (indent ++ literalInner false lines) := by
  by_cases hempty : front = []
  · rw [hempty]
    exact literalInner_true hne hnext
  · rw [literalInner_append_breaks true lines hempty hfront, literalInner_true hne hnext]

/-- Without a hint the text starts with its first line, and that shows how far it is indented. -/
theorem hinted_of_lines {text front lines back : List Char} (hne : text ≠ [])
    (hsplit : text ++ back = front ++ lines) (hfront : ∀ c ∈ front, isBreak c = true) :
    hinted text = 2 ∨ (hinted text = 0 ∧ front = [] ∧ ∃ c, lines.head? = some c ∧ c ≠ ' ') := by
  -- With a hint there is nothing to show.
  rcases hinted_cases text with htwo | ⟨hzero, hfirst⟩
  · exact .inl htwo
  · obtain ⟨c, text, rfl⟩ := List.exists_cons_of_ne_nil hne
    have hc : (c == ' ') = false ∧ isBreak c = false := by
      simpa [isSpaceOrBreak] using hfirst c rfl
    -- The first character is no line end, so that no empty line stands in front.
    have hempty : front = [] := by
      cases front with
      | nil => rfl
      | cons d front =>
        rw [List.cons_append, List.cons_append, List.cons.injEq] at hsplit
        have hbreak := hfront d (by simp)
        rw [← hsplit.1, hc.2] at hbreak
        cases hbreak
    rw [hempty, List.nil_append] at hsplit
    refine .inr ⟨hzero, hempty, c, ?_, beq_eq_false_iff_ne.mp hc.1⟩
    rw [← hsplit]
    rfl

/-- What is read behind the first line of a literal scalar with some text, in front of what is
indented less. -/
def ReadsBack (text rest : List Char) (start mark : Mark) : Prop :=
  ∃ (breaks : Breaks) (body : Body) (after : Mark), after.column = 0 ∧
    readAllBreaks (hinted text) start ⟨literalInner true (text ++ closing text) ++ rest, mark⟩
      = .ok breaks ∧
    (hinted text = 0 → breaks.widest = 2) ∧
    readLines true 2 start ((literalInner true (text ++ closing text) ++ rest).length + 1)
      ⟨[], [], breaks.text, false⟩ breaks.after = .ok (body, ⟨rest, after⟩) ∧
    body.chomped (chomping (endHint text)) = text

section
variable {text rest : List Char} {mark : Mark} (start : Mark)
  (hprint : ∀ c ∈ text, isPrintable c = true) (hne : text ≠ [])
  (hrest : ∀ c ∈ rest.head?, isGap c = false ∧ isBreak c = false) (hcolumn : mark.column = 0)

include hprint hne hrest hcolumn

/-- Line ends alone are empty lines, and all of them are kept. -/
theorem readsBack_of_breaks (hall : ∀ c ∈ text, isBreak c = true) :
    ReadsBack text rest start mark := by
  have hclosing : closing text = [] := by
    rw [closing, if_pos]
    rw [List.getLast?_eq_some_getLast hne]
    exact hall _ (List.getLast_mem hne)
  -- A text that starts with an empty line gets a hint.
  have hhinted : hinted text = 2 := by
    obtain ⟨c, text, rfl⟩ := List.exists_cons_of_ne_nil hne
    have hc := hall c (by simp)
    simp [hinted, isSpaceOrBreak, hc]
  obtain ⟨widest, after, hafter, hread⟩ :=
    readAllBreaks_end start (fun c hc => ⟨hall c hc, hprint c hc⟩) hrest hcolumn
  refine ⟨⟨text, widest, ⟨rest, after⟩⟩, ⟨[], [], text, false⟩, after, hafter, ?_, ?_, ?_, ?_⟩
  · have hinner := literalInner_append_breaks true [] hne hall
    rw [hclosing, hinner, hhinted, ← hread]
    simp [literalInner]
  · rw [hhinted]
    intro h
    cases h
  · exact readLines_of_outdent start _ _ hafter
  · exact chomped_of_breaks hne hall

/-- Empty lines may stand in front of the first line of a text. -/
theorem readsBack_of_lines {front lines : List Char} (hlines : lines ≠ [])
    (hsplit : text ++ closing text = front ++ lines) (hfront : ∀ c ∈ front, isBreak c = true)
    (hnext : ∀ c ∈ lines.head?, isBreak c = false) : ReadsBack text rest start mark := by
  have hclosed := printable_append_closing hprint
  have hlast : lines.getLast?.any isBreak = true := by
    rw [← getLast?_any_append front hlines, ← hsplit]
    exact getLast?_append_closing text
  have hbreaks : ∀ c ∈ front, isBreak c = true ∧ isPrintable c = true :=
    fun c hc => ⟨hfront c hc, hclosed c (by simp [hsplit, hc])⟩
  have hlinesprint : ∀ c ∈ lines, isPrintable c = true :=
    fun c hc => hclosed c (by simp [hsplit, hc])
  have hstart := head_literalInner rest hlines hlinesprint hnext
  have hwritten : literalInner true (text ++ closing text) ++ rest
      = front ++ (indent ++ (literalInner false lines ++ rest)) := by
    rw [hsplit, literalInner_of_lines hlines hfront hnext]
    simp
  -- The indentation is told by the hint, or can be seen in the first line.
  have hhinted : hinted text = 2 ∨
      (hinted text = 0 ∧ front = [] ∧
        (literalInner false lines ++ rest).headD terminator ≠ ' ') := by
    rcases hinted_of_lines hne hsplit hfront with htwo | ⟨hzero, hempty, c, hhead, hc⟩
    · exact .inl htwo
    · refine .inr ⟨hzero, hempty, ?_⟩
      rw [List.headD_eq_head?_getD, head?_literalInner rest hlines hnext, hhead]
      exact hc
  obtain ⟨widest, middle, hwidest, hmiddle, hread⟩ :=
    readAllBreaks_line start hbreaks hstart hcolumn (hhinted.imp id (And.imp id And.right))
  -- The indentation only adds to the text, so the fuel is enough for all lines.
  have hlength : lines.length < (literalInner true (text ++ closing text) ++ rest).length + 1 := by
    have hle := length_le_literalInner true (text ++ closing text)
    rw [hsplit, List.length_append] at hle
    rw [hsplit, List.length_append]
    omega
  obtain ⟨before, c, more, afterGap, after, hends, hall, hafter, hrun⟩ :=
    readLines_text start hrest hlinesprint hlines hnext hlast _ ⟨[], [], front, false⟩ middle
      hlength hmiddle
  refine ⟨⟨front, widest, ⟨literalInner false lines ++ rest, middle⟩⟩, _, after, hafter, ?_, ?_,
    hrun, ?_⟩
  · rw [hwritten, hread]
  · intro hzero
    rcases hhinted with htwo | ⟨_, hempty, _⟩
    · rw [hzero] at htwo
      cases htwo
    · exact hwidest hempty
  -- The hint gives back the line ends that were kept apart.
  · refine chomped_endHint afterGap ?_ hall
    rw [hsplit, hends]
    simp

/-- What stands behind the first line of a literal scalar is read as its text. -/
theorem readsBack : ReadsBack text rest start mark := by
  obtain ⟨front, lines, hsplit, hfront, hnext⟩ := exists_breaks (text ++ closing text)
  -- Either the text has nothing but line ends, or a first line behind some of them.
  by_cases hlines : lines = []
  · refine readsBack_of_breaks start hprint hne hrest hcolumn fun c hc => hfront c ?_
    rw [hlines, List.append_nil] at hsplit
    simp [← hsplit, hc]
  · exact readsBack_of_lines start hprint hne hrest hcolumn hlines hsplit hfront hnext

end

/-- A literal scalar is read back, with the end of its last line. -/
theorem read_literal {text rest : List Char} (mark : Mark)
    (hprint : ∀ c ∈ text, isPrintable c = true) (hne : text ≠ [])
    (hrest : ∀ c ∈ rest.head?, isGap c = false ∧ isBreak c = false) :
    ∃ after : Mark, after.column = 0 ∧
      read true 0 ⟨literal text ++ (closing text ++ rest), mark⟩ = .ok (text, ⟨rest, after⟩) := by
  have hwritten : literal text ++ (closing text ++ rest) = '|' :: (indentHint text ++ endHint text
      ++ '\n' :: (literalInner true (text ++ closing text) ++ rest)) := by
    rw [literalInner_append_closing]
    simp [literal]
  obtain ⟨stop, hhints⟩ := readHints_written mark (mark.past ['|']) text
    (literalInner true (text ++ closing text) ++ rest)
  obtain ⟨breaks, body, after, hafter, hbreaks, hwidest, hlines, hchomped⟩ :=
    readsBack mark hprint hne hrest (Mark.column_below stop '\n')
  refine ⟨after, hafter, ?_⟩
  -- The lines are read by what was shown of them; how they look no longer matters.
  generalize literalInner true (text ++ closing text) ++ rest = lines at *
  -- Behind the hints the line ends, and the lines start below.
  have hgaps : (Cursor.mk ('\n' :: lines) stop).skipGaps.skipComment = ⟨'\n' :: lines, stop⟩ := by
    rw [Cursor.skipGaps, Cursor.skipWhile_of_stop stop (by simp; decide)]
    exact if_neg (by simp)
  have hskip : (Cursor.mk ('\n' :: lines) stop).skipBreak = ⟨lines, stop.below '\n'⟩ := by
    rw [Cursor.skipBreak, Cursor.readBreak_cons lines stop (by decide) (by decide)]
  have hend : isBreakOrEnd '\n' = true := by decide
  -- How far the lines are indented is told by the hint or by the first line.
  have hgiven : (if hinted text = 0 then 0 else hinted text + (0 : Int).toNat) = hinted text := by
    rcases hinted_cases text with h | ⟨h, _⟩ <;> rw [h] <;> rfl
  have hindent : (if hinted text = 0 then max breaks.widest (max ((0 : Int) + 1).toNat 1)
      else hinted text) = 2 := by
    rcases hinted_cases text with htwo | ⟨hzero, _⟩
    · rw [htwo]
      rfl
    · rw [if_pos hzero, hwidest hzero]
      rfl
  rw [hwritten, read]
  simp only [Cursor.skip_cons, hhints, bind, Except.bind, hgaps, Cursor.peek_cons, hend, hgiven,
    hindent, hskip, hbreaks, hlines, hchomped, Bool.not_true, Bool.false_eq_true, if_false, pure,
    Except.pure]

/-! ## Section 5: Characters -/

theorem mem_literalInner {lineStart : Bool} {text : List Char} {c : Char}
    (h : c ∈ literalInner lineStart text) : c ∈ text ∨ c = ' ' := by
  induction text generalizing lineStart with
  | nil => cases h
  | cons d text ih =>
    have hindent : ∀ x ∈ (if lineStart then indent else []), x = ' ' := by
      cases lineStart <;> simp [indent]
    rw [literalInner] at h
    -- Only in front of a line is something added, and that is spaces.
    split at h
    · rcases List.mem_cons.mp h with rfl | h
      · exact .inl (by simp)
      · exact (ih h).imp (List.mem_cons_of_mem d) id
    · rcases List.mem_append.mp h with h | h
      · exact .inr (hindent c h)
      · rcases List.mem_cons.mp h with rfl | h
        · exact .inl (by simp)
        · exact (ih h).imp (List.mem_cons_of_mem d) id

/-- A literal scalar holds nothing that a text may not hold. -/
theorem isAllowed_of_mem_literal {text : List Char} (h : ∀ c ∈ text, isPrintable c = true)
    {c : Char} (hc : c ∈ literal text ++ closing text) : isAllowed c = true := by
  have hindent : ∀ d ∈ indentHint text, isAllowed d = true := by
    unfold indentHint
    split <;> exact List.all_eq_true.mp (by decide)
  have hend : ∀ d ∈ endHint text, isAllowed d = true := by
    rcases endHint_cases text with ⟨hhint, _⟩ | ⟨hhint, _⟩ | ⟨hhint, _⟩ <;> rw [hhint] <;>
      exact List.all_eq_true.mp (by decide)
  have hinner : ∀ d ∈ literalInner true text, isAllowed d = true := by
    intro d hd
    rcases mem_literalInner hd with hd | rfl
    · exact isAllowed_of_isPrintable (h d hd)
    · decide
  rcases List.mem_append.mp hc with hc | hc
  -- The bar, the two hints, a feed and the lines.
  · simp only [literal, List.cons_append, List.append_assoc, List.mem_cons, List.mem_append] at hc
    rcases hc with rfl | hc | hc | rfl | hc
    · decide
    · exact hindent c hc
    · exact hend c hc
    · decide
    · exact hinner c hc
  · exact isAllowed_of_isPrintable (printable_append_closing h c (List.mem_append_right text hc))

end ChangeLint.Yaml.Block
