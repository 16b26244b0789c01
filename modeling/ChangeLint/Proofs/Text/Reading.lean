import ChangeLint.Text.Decimal
import ChangeLint.Text.Lines
import ChangeLint.Text.WordChar

/-! # Reading back what was written

Lines that are written one after the other, words between blanks, and the decimal digits of a
number are read back as they were.

* `linesOf_append_newline` takes the first line off a text.
* `words_eq_cons_iff` takes the first word off a text.
* `splitAtText?_eq_some_iff` says where a mark stands first.
* `read?_eq_some_iff` says which texts are numbers, and `read?_written` reads the digits of a
  number back. -/

namespace ChangeLint.Text

/-! ## Section 1: Pieces -/

/-- A mark that stands nowhere in a text is none of its characters. -/
theorem beq_of_not_mem {cs : List Char} {mark : Char} (h : mark ∉ cs) :
    ∀ c ∈ cs, (c == mark) = false := by
  intro c hc
  rw [beq_eq_false_iff_ne]
  intro heq
  exact h (heq ▸ hc)

/-- A text without separator is one piece. -/
theorem splitWhere_of_forall {p : Char → Bool} {cs : List Char} (h : ∀ c ∈ cs, p c = false) :
    splitWhere p cs = [cs] := by
  induction cs with
  | nil => rfl
  | cons c cs ih =>
    have hc : p c = false := h c (by simp)
    rw [splitWhere, ih fun d hd => h d (by simp [hd])]
    simp [hc]

/-- A separator ends a piece. -/
theorem splitWhere_append_cons {p : Char → Bool} {piece : List Char} {sep : Char}
    (h : ∀ c ∈ piece, p c = false) (hsep : p sep = true) (cs : List Char) :
    splitWhere p (piece ++ sep :: cs) = piece :: splitWhere p cs := by
  induction piece with
  | nil => simp [splitWhere, hsep]
  | cons c piece ih =>
    have hc : p c = false := h c (by simp)
    rw [List.cons_append, splitWhere, ih fun d hd => h d (by simp [hd])]
    simp [hc]

/-- What stands before the first separator goes to the first piece. -/
theorem exists_splitWhere_append {p : Char → Bool} {front : List Char}
    (h : ∀ c ∈ front, p c = false) (cs : List Char) :
    ∃ piece pieces, splitWhere p cs = piece :: pieces ∧
      splitWhere p (front ++ cs) = (front ++ piece) :: pieces := by
  -- There is always a first piece, and the front only makes it longer.
  obtain ⟨piece, pieces, hcs⟩ := List.exists_cons_of_ne_nil (splitWhere_ne_nil p cs)
  refine ⟨piece, pieces, hcs, ?_⟩
  induction front with
  | nil => exact hcs
  | cons c front ih =>
    have hc : p c = false := h c (by simp)
    rw [List.cons_append, splitWhere, ih fun d hd => h d (by simp [hd])]
    simp [hc]

/-- A piece holds characters of the text only. -/
theorem mem_of_mem_splitWhere {p : Char → Bool} {cs piece : List Char} {c : Char}
    (hpiece : piece ∈ splitWhere p cs) (hc : c ∈ piece) : c ∈ cs := by
  -- By induction on the text; a separator opens a piece, and any other character joins the first
  -- one.
  induction cs generalizing piece with
  | nil =>
    rw [List.mem_singleton.mp hpiece] at hc
    exact hc
  | cons d cs ih =>
    unfold splitWhere at hpiece
    split at hpiece
    · rcases List.mem_cons.mp hpiece with rfl | hpiece
      · exact absurd hc List.not_mem_nil
      · exact List.mem_cons_of_mem d (ih hpiece hc)
    · split at hpiece
      · next h => exact absurd h (splitWhere_ne_nil p cs)
      · next first pieces h =>
        rw [h] at ih
        -- Only the first piece got the character in front of it.
        rcases List.mem_cons.mp hpiece with rfl | hpiece
        · rcases List.mem_cons.mp hc with rfl | hc
          · exact List.mem_cons_self ..
          · exact List.mem_cons_of_mem d (ih (List.mem_cons_self ..) hc)
        · exact List.mem_cons_of_mem d (ih (List.mem_cons_of_mem first hpiece) hc)

/-! ## Section 2: Lines -/

/-- A carriage return is dropped only at the very end. -/
theorem dropReturn_append {head : List Char} (h : head.getLast? ≠ some '\r') (cs : List Char) :
    dropReturn (head ++ cs) = head ++ dropReturn cs := by
  unfold dropReturn
  -- The last character is one of `cs` if there is any.
  cases hlast : cs.getLast? with
  | none =>
    rw [List.getLast?_eq_none_iff.mp hlast, List.append_nil, if_neg h]
    simp
  | some last =>
    have hne : cs ≠ [] := by
      rintro rfl
      simp at hlast
    rw [List.getLast?_append, hlast, Option.some_or, List.dropLast_append_of_ne_nil hne]
    split <;> rfl

/-- What is dropped stands at the end. -/
theorem dropReturn_prefix (cs : List Char) : dropReturn cs <+: cs := by
  unfold dropReturn
  split
  · exact List.dropLast_prefix cs
  · exact List.prefix_refl cs

/-- A line holds characters of the text only. -/
theorem mem_of_mem_linesOf {cs line : List Char} {c : Char} (hline : line ∈ linesOf cs)
    (hc : c ∈ line) : c ∈ cs := by
  have hpieces : ∀ pieces : List (List Char), line ∈ linesOfPieces pieces →
      ∃ piece ∈ pieces, c ∈ piece := by
    intro pieces
    induction pieces with
    | nil => intro h; exact absurd h List.not_mem_nil
    | cons piece pieces ih =>
      intro h
      cases pieces with
      | nil =>
        -- The last piece is a line unless it is empty.
        unfold linesOfPieces at h
        split at h
        · exact absurd h List.not_mem_nil
        · exact ⟨piece, List.mem_cons_self .., List.mem_singleton.mp h ▸ hc⟩
      | cons next pieces =>
        rcases List.mem_cons.mp h with rfl | h
        · exact ⟨piece, List.mem_cons_self .., mem_of_mem_dropReturn hc⟩
        · obtain ⟨other, hother, hmem⟩ := ih h
          exact ⟨other, List.mem_cons_of_mem piece hother, hmem⟩
  obtain ⟨piece, hpiece, hmem⟩ := hpieces _ hline
  exact mem_of_mem_splitWhere hpiece hmem

/-- A line of a text on strings: its characters are those of the text, and none is a line feed. -/
theorem mem_of_mem_lines {text line : String} (h : line ∈ lines text) {c : Char}
    (hc : c ∈ line.toList) : c ∈ text.toList := by
  obtain ⟨chars, hchars, rfl⟩ := List.mem_map.mp h
  rw [String.toList_ofList] at hc
  exact mem_of_mem_linesOf hchars hc

theorem not_newline_of_mem_lines {text line : String} (h : line ∈ lines text) :
    '\n' ∉ line.toList := by
  obtain ⟨chars, hchars, rfl⟩ := List.mem_map.mp h
  rw [String.toList_ofList]
  exact not_newline_of_mem_linesOf chars hchars

/-- The first line feed of a text ends its first line. -/
theorem linesOf_append_newline {line : List Char} (h : '\n' ∉ line) (cs : List Char) :
    linesOf (line ++ '\n' :: cs) = dropReturn line :: linesOf cs := by
  unfold linesOf
  rw [splitWhere_append_cons (beq_of_not_mem h) rfl]
  -- There is always a piece behind the line feed, so the first one is a line of its own.
  cases hrest : splitWhere (· == '\n') cs with
  | nil => exact absurd hrest (splitWhere_ne_nil _ cs)
  | cons next pieces => rfl

/-- What stands behind a line feed is cut into lines by itself. -/
theorem linesOf_append_of_newline (front back : List Char) :
    linesOf (front ++ '\n' :: back) = linesOf (front ++ ['\n']) ++ linesOf back := by
  -- Line by line: either the line feed is the first one, or one before it ends a line.
  by_cases h : '\n' ∈ front
  · obtain ⟨line, rest, hsplit, hline⟩ := List.eq_append_cons_of_mem h
    -- The first line is taken off both sides, and the rest is shorter.
    have hshorter : rest.length < front.length := by
      rw [hsplit, List.length_append, List.length_cons]
      omega
    have hrest := linesOf_append_of_newline rest back
    rw [hsplit, List.append_assoc, List.append_assoc, List.cons_append, List.cons_append,
      linesOf_append_newline hline, linesOf_append_newline hline, hrest, List.cons_append]
  · rw [linesOf_append_newline h, linesOf_append_newline h, linesOf_nil, List.cons_append,
      List.nil_append]
termination_by front.length

/-- The lines of two texts, of which the first one is empty or ends a line. -/
theorem linesOf_append {front : List Char} (h : front = [] ∨ front.getLast? = some '\n')
    (back : List Char) : linesOf (front ++ back) = linesOf front ++ linesOf back := by
  rcases h with rfl | h
  · rfl
  -- The line feed is moved in front of the second text, where it ends the first one.
  · obtain ⟨init, rfl⟩ := List.getLast?_eq_some_iff.mp h
    rw [List.append_assoc]
    exact linesOf_append_of_newline init back

/-- Lines that are written each with its end. -/
def unlines (lines : List (List Char)) : List Char := lines.flatMap (· ++ ['\n'])

/-- Lines are read back, each without a carriage return at its end. -/
theorem linesOf_unlines {lines : List (List Char)} (h : ∀ line ∈ lines, '\n' ∉ line) :
    linesOf (unlines lines) = lines.map dropReturn := by
  induction lines with
  | nil => rfl
  | cons line lines ih =>
    have hcons : unlines (line :: lines) = line ++ '\n' :: unlines lines := by
      simp [unlines]
    rw [hcons, linesOf_append_newline (h line (by simp)), ih fun l hl => h l (by simp [hl]),
      List.map_cons]

/-- Between the line feeds of lines that are written stand the lines, and nothing behind the last
one. -/
theorem splitWhere_unlines {lines : List (List Char)} (h : ∀ line ∈ lines, '\n' ∉ line) :
    splitWhere (· == '\n') (unlines lines) = lines ++ [[]] := by
  induction lines with
  | nil => rfl
  | cons line lines ih =>
    have hline := beq_of_not_mem (h line (by simp))
    have hcons : unlines (line :: lines) = line ++ '\n' :: unlines lines := by
      simp [unlines]
    rw [hcons, splitWhere_append_cons hline rfl, ih fun l hl => h l (by simp [hl]),
      List.cons_append]

/-- Lines without a carriage return are read back as they are. -/
theorem lines_of_unlines {rows : List String} (hfeed : ∀ row ∈ rows, '\n' ∉ row.toList)
    (hreturn : ∀ row ∈ rows, '\r' ∉ row.toList) :
    lines (String.ofList (unlines (rows.map String.toList))) = rows := by
  have hlines : ∀ line ∈ rows.map String.toList, '\n' ∉ line := by
    intro line hline
    obtain ⟨row, hrow, rfl⟩ := List.mem_map.mp hline
    exact hfeed row hrow
  -- With no carriage return in a row, none is dropped at its end.
  have hsame : ∀ row ∈ rows, String.ofList (dropReturn row.toList) = row := by
    intro row hrow
    have hend : row.toList.getLast? ≠ some '\r' :=
      fun h => hreturn row hrow (List.mem_of_getLast? h)
    rw [dropReturn, if_neg hend, String.ofList_toList]
  rw [lines, String.toList_ofList, linesOf_unlines hlines, List.map_map, List.map_map]
  exact (List.map_congr_left hsame).trans (List.map_id' rows)

/-! ## Section 3: Words -/

/-- Blanks stand between words. -/
theorem words_append_blank {word : List Char} {blank : Char}
    (h : ∀ c ∈ word, isBlank c = false) (hne : word ≠ []) (hblank : isBlank blank = true)
    (cs : List Char) : words (word ++ blank :: cs) = word :: words cs := by
  unfold words
  rw [splitWhere_append_cons h hblank]
  simp [hne]

/-- A text without blanks is one word. -/
theorem words_of_forall {word : List Char} (h : ∀ c ∈ word, isBlank c = false)
    (hne : word ≠ []) : words word = [word] := by
  unfold words
  rw [splitWhere_of_forall h]
  simp [hne]

/-- Blanks in front of the words do not count. -/
theorem words_blanks_append {lead : List Char} (h : ∀ c ∈ lead, isBlank c = true)
    (cs : List Char) : words (lead ++ cs) = words cs := by
  induction lead with
  | nil => rfl
  | cons c lead ih =>
    have hc : isBlank c = true := h c (by simp)
    rw [← ih fun d hd => h d (by simp [hd])]
    simp [words, splitWhere, hc]

/-- A word goes up to the next blank. -/
theorem words_append {word rest : List Char} (h : ∀ c ∈ word, isBlank c = false)
    (hne : word ≠ []) (hrest : ∀ c ∈ rest.head?, isBlank c = true) :
    words (word ++ rest) = word :: words rest := by
  -- A word ends with the text or at a blank, and the blank starts no word.
  cases rest with
  | nil =>
    rw [List.append_nil, words_of_forall h hne]
    rfl
  | cons blank rest =>
    have hblank : isBlank blank = true := hrest blank rfl
    have hlead : ∀ c ∈ [blank], isBlank c = true := by simpa using hblank
    have hskip : words (blank :: rest) = words rest := words_blanks_append hlead rest
    rw [words_append_blank h hne hblank, hskip]

/-- A text is cut where a class ends: the first part lies in the class, and the second part does
not start in it. -/
theorem takeWhile_dropWhile_eq_iff {p : Char → Bool} {cs front back : List Char} :
    cs.takeWhile p = front ∧ cs.dropWhile p = back ↔
      cs = front ++ back ∧ (∀ c ∈ front, p c = true) ∧ ∀ c ∈ back.head?, p c = false := by
  constructor
  · rintro ⟨rfl, rfl⟩
    refine ⟨List.takeWhile_append_dropWhile.symm, List.all_eq_true.mp List.all_takeWhile, ?_⟩
    intro c hc
    have hnot := List.head?_dropWhile_not p cs
    rw [Option.mem_def.mp hc] at hnot
    exact hnot
  -- Both functions pass over the front and stop at once behind it.
  · rintro ⟨rfl, hfront, hback⟩
    rw [List.takeWhile_append_of_pos hfront, List.dropWhile_append_of_pos hfront]
    cases back with
    | nil => simp
    | cons c back =>
      have hc : p c = false := hback c rfl
      simp [hc]

/-- The first word of a text stands behind its first blanks, as long as it goes, and the other
words are those of the rest. -/
theorem words_eq_cons_iff {cs word : List Char} {more : List (List Char)} :
    words cs = word :: more ↔
      ∃ lead rest, cs = lead ++ (word ++ rest) ∧ (∀ c ∈ lead, isBlank c = true) ∧
        (word ≠ [] ∧ ∀ c ∈ word, isBlank c = false) ∧
        (∀ c ∈ rest.head?, isBlank c = true) ∧ words rest = more := by
  constructor
  · intro h
    -- The text is cut twice: behind its first blanks, and behind the word that follows.
    obtain ⟨hcs, hlead, hafter⟩ := takeWhile_dropWhile_eq_iff.mp
      (⟨rfl, rfl⟩ : cs.takeWhile isBlank = _ ∧ cs.dropWhile isBlank = _)
    generalize hafterEq : cs.dropWhile isBlank = after at hcs hafter
    obtain ⟨hsplit, hword, hrest⟩ := takeWhile_dropWhile_eq_iff.mp
      (⟨rfl, rfl⟩ : after.takeWhile (!isBlank ·) = _ ∧ after.dropWhile (!isBlank ·) = _)
    have hword : ∀ c ∈ after.takeWhile (!isBlank ·), isBlank c = false := by
      intro c hc
      simpa using hword c hc
    have hrest : ∀ c ∈ (after.dropWhile (!isBlank ·)).head?, isBlank c = true := by
      intro c hc
      simpa using hrest c hc
    rw [hcs, words_blanks_append hlead] at h
    -- There is a word, since what is behind the blanks is not empty.
    have hne : after.takeWhile (!isBlank ·) ≠ [] := by
      cases after with
      | nil => cases h
      | cons c after => simp [hafter c rfl]
    rw [hsplit, words_append hword hne hrest] at h
    obtain ⟨hsame, hmore⟩ := List.cons.inj h
    refine ⟨cs.takeWhile isBlank, after.dropWhile (!isBlank ·), ?_, hlead, ?_, hrest, hmore⟩
    · rw [← hsame, ← hsplit]
      exact hcs
    · rw [← hsame]
      exact ⟨hne, hword⟩
  · rintro ⟨lead, rest, rfl, hlead, ⟨hne, hword⟩, hrest, rfl⟩
    rw [words_blanks_append hlead, words_append hword hne hrest]

/-- A text that ends in no blank has none to drop there. -/
theorem dropBlanksEnd_of_getLast? {cs : List Char}
    (h : ∀ c ∈ cs.getLast?, isBlank c = false) : dropBlanksEnd cs = cs := by
  unfold dropBlanksEnd
  -- Blanks are dropped from the reversed text, whose head is the last character.
  cases hrev : cs.reverse with
  | nil =>
    rw [List.reverse_eq_nil_iff.mp hrev]
    rfl
  | cons last front =>
    have hlast : cs.getLast? = some last := by
      rw [← List.head?_reverse, hrev, List.head?_cons]
    have hblank : isBlank last = false := h last hlast
    rw [List.dropWhile_cons_of_neg (by simp [hblank]), ← hrev, List.reverse_reverse]

/-! ## Section 4: Cuts at a mark -/

/-- A text is cut at the first character of a class. -/
theorem splitAtFirst?_append_cons {p : Char → Bool} {head : List Char} {sep : Char}
    (h : ∀ c ∈ head, p c = false) (hsep : p sep = true) (cs : List Char) :
    splitAtFirst? p (head ++ sep :: cs) = some (head, cs) := by
  induction head with
  | nil => simp [splitAtFirst?, hsep]
  | cons c head ih =>
    have hc : p c = false := h c (by simp)
    rw [List.cons_append, splitAtFirst?, ih fun d hd => h d (by simp [hd])]
    simp [hc]

theorem splitAtFirst?_of_forall {p : Char → Bool} {cs : List Char}
    (h : ∀ c ∈ cs, p c = false) : splitAtFirst? p cs = none := by
  induction cs with
  | nil => rfl
  | cons c cs ih =>
    have hc : p c = false := h c (by simp)
    rw [splitAtFirst?, ih fun d hd => h d (by simp [hd])]
    simp [hc]

/-- What does not start a text is not stripped off it. -/
theorem stripHead?_eq_none_iff {head cs : List Char} :
    stripHead? head cs = none ↔ ¬ head <+: cs := by
  rw [← Option.not_isSome_iff_eq_none, Option.isSome_iff_exists]
  constructor
  · rintro h ⟨rest, rfl⟩
    exact h ⟨rest, stripHead?_eq_some_iff.mpr rfl⟩
  · rintro h ⟨rest, hrest⟩
    exact h ⟨rest, (stripHead?_eq_some_iff.mp hrest).symm⟩

/-- A mark at the start of a text stands there first. -/
theorem splitAtText?_mark_append_eq_some_iff {mark rest front back : List Char} :
    splitAtText? mark (mark ++ rest) = some (front, back) ↔
      mark ++ rest = front ++ (mark ++ back) ∧
        ∀ before after, mark ++ rest = before ++ (mark ++ after) →
          front.length ≤ before.length := by
  have hstrip : stripHead? mark (mark ++ rest) = some rest := stripHead?_eq_some_iff.mpr rfl
  have hcut : splitAtText? mark (mark ++ rest) = some ([], rest) := by
    cases htext : mark ++ rest with
    | nil => simp [splitAtText?, htext ▸ hstrip]
    | cons c cs => simp [splitAtText?, htext ▸ hstrip]
  rw [hcut]
  constructor
  · intro h
    cases h
    exact ⟨rfl, fun _ _ _ => Nat.zero_le _⟩
  -- The mark stands at 0, so no other place is as early.
  · rintro ⟨hsplit, hfirst⟩
    have hfront : front = [] := List.length_eq_zero_iff.mp
      (Nat.le_zero.mp (hfirst [] rest rfl))
    subst hfront
    rw [List.append_cancel_left hsplit]

/-- Where the text does not start with the mark, something stands before every place of it. -/
theorem before_ne_nil {mark cs before after : List Char} (h : ¬ mark <+: cs)
    (hcs : cs = before ++ (mark ++ after)) : before ≠ [] := by
  intro hnil
  rw [hnil] at hcs
  exact h ⟨after, hcs.symm⟩

/-- A text is cut where the mark stands first. -/
theorem splitAtText?_eq_some_iff {mark cs front back : List Char} :
    splitAtText? mark cs = some (front, back) ↔
      cs = front ++ (mark ++ back) ∧
        ∀ before after, cs = before ++ (mark ++ after) → front.length ≤ before.length := by
  -- By induction on the text: the mark starts here, or the rest is cut and one character is put
  -- back.
  induction cs generalizing front with
  | nil =>
    by_cases hprefix : mark <+: []
    · obtain ⟨rest, hrest⟩ := hprefix
      rw [← hrest]
      exact splitAtText?_mark_append_eq_some_iff
    · rw [splitAtText?, stripHead?_eq_none_iff.mpr hprefix]
      constructor
      · intro h
        cases h
      · rintro ⟨hcs, _⟩
        exact absurd (List.append_eq_nil_iff.mp hcs.symm).1 (before_ne_nil hprefix hcs)
  | cons c cs ih =>
    by_cases hprefix : mark <+: c :: cs
    · obtain ⟨rest, hrest⟩ := hprefix
      rw [← hrest]
      exact splitAtText?_mark_append_eq_some_iff
    · -- The mark does not start here, and each later place is one of the rest.
      rw [splitAtText?, stripHead?_eq_none_iff.mpr hprefix]
      constructor
      · intro h
        obtain ⟨⟨later, rest⟩, hlater, heq⟩ := Option.map_eq_some_iff.mp h
        cases heq
        obtain ⟨hcs, hfirst⟩ := ih.mp hlater
        refine ⟨congrArg (c :: ·) hcs, ?_⟩
        intro before after htext
        cases before with
        | nil => exact absurd rfl (before_ne_nil hprefix htext)
        | cons d before => exact Nat.succ_le_succ (hfirst before after (List.cons.inj htext).2)
      · rintro ⟨hcs, hfirst⟩
        cases front with
        | nil => exact absurd rfl (before_ne_nil hprefix hcs)
        | cons d front =>
          obtain ⟨rfl, htail⟩ := List.cons.inj hcs
          have hlater : splitAtText? mark cs = some (front, back) := by
            refine ih.mpr ⟨htail, ?_⟩
            intro before after htext
            exact Nat.le_of_succ_le_succ (hfirst (c :: before) after (congrArg (c :: ·) htext))
          rw [hlater]
          rfl

/-! ## Section 5: Blanks and digits -/

/-- No blank is a decimal digit. -/
theorem isDecimal_of_isBlank {c : Char} (h : isBlank c = true) : isDecimal c = false := by
  -- The class of blanks is a short list, and each member is looked up among the digits.
  have hblank : c.toNat ∈ [9, 10, 11, 12, 13, 0x20] ∨ c.toNat ∈ [0x85, 0xA0, 0x1680, 0x2000,
      0x2001, 0x2002, 0x2003, 0x2004, 0x2005, 0x2006, 0x2007, 0x2008, 0x2009, 0x200A, 0x2028,
      0x2029, 0x202F, 0x205F, 0x3000] := by
    simp only [isBlank, Bool.or_eq_true, Bool.and_eq_true, decide_eq_true_eq, beq_iff_eq] at h
    simp only [List.mem_cons, List.not_mem_nil, or_false]
    omega
  unfold isDecimal
  -- The two parts of the list belong to the two parts of the test for digits.
  rcases hblank with hascii | hrest
  · have hsmall : ∀ n ∈ [9, 10, 11, 12, 13, 0x20], n < 48 := by decide
    have hn : c.toNat < 48 := hsmall _ hascii
    have hdigit : c.isDigit = false := by
      rw [← Bool.not_eq_true, Char.isDigit_iff_toNat]
      exact fun hdigit => absurd hdigit.1 (Nat.not_le_of_lt hn)
    rw [if_pos (by omega), hdigit]
  · have hlarge : ∀ n ∈ [0x85, 0xA0, 0x1680, 0x2000, 0x2001, 0x2002, 0x2003, 0x2004, 0x2005,
        0x2006, 0x2007, 0x2008, 0x2009, 0x200A, 0x2028, 0x2029, 0x202F, 0x205F, 0x3000],
        ¬ n < 0x80 ∧ decimalRanges.holds n = false := by
      decide
    obtain ⟨hn, hranges⟩ := hlarge _ hrest
    rw [if_neg hn, hranges]

theorem not_isBlank_of_isDecimal {c : Char} (h : isDecimal c = true) : isBlank c = false := by
  rw [← Bool.not_eq_true]
  intro hblank
  rw [isDecimal_of_isBlank hblank] at h
  exact absurd h (by decide)

/-! ## Section 6: Decimal numbers -/

namespace Decimal

/-- Digits are read as the number that they write. -/
theorem readOnto_of_isDigit {cs : List Char} (h : ∀ c ∈ cs, c.isDigit = true) (before : Nat) :
    readOnto before cs = some (Nat.ofDigitChars 10 cs before) := by
  -- What was read before is generalised: each digit multiplies it by ten.
  induction cs generalizing before with
  | nil => rfl
  | cons c cs ih =>
    have hc : '0' ≤ c ∧ c ≤ '9' := by
      have := h c (by simp)
      simpa [Char.isDigit, Char.le_def] using this
    rw [readOnto, digit?, if_pos hc, Option.bind_some, ih fun d hd => h d (by simp [hd]),
      Nat.ofDigitChars_cons]

/-- Only digits are read. -/
theorem readOnto_eq_some_iff {before n : Nat} {cs : List Char} :
    readOnto before cs = some n ↔
      (∀ c ∈ cs, c.isDigit = true) ∧ Nat.ofDigitChars 10 cs before = n := by
  -- A character that is no digit makes the whole reading fail.
  have hdigits : ∀ before n, readOnto before cs = some n → ∀ c ∈ cs, c.isDigit = true := by
    induction cs with
    | nil => simp
    | cons c cs ih =>
      intro before n h
      obtain ⟨d, hdigit, hrest⟩ := Option.bind_eq_some_iff.mp h
      have hc : c.isDigit = true := by
        unfold digit? at hdigit
        split at hdigit
        · next hrange => simpa [Char.isDigit, Char.le_def] using hrange
        · cases hdigit
      exact List.forall_mem_cons.mpr ⟨hc, ih _ _ hrest⟩
  constructor
  · intro h
    have hcs := hdigits before n h
    rw [readOnto_of_isDigit hcs] at h
    exact ⟨hcs, Option.some.inj h⟩
  · rintro ⟨hcs, rfl⟩
    exact readOnto_of_isDigit hcs before

/-- A text states a number: ASCII digits of that value, at least one, perhaps behind a plus
sign. -/
def States (cs : List Char) (n : Nat) : Prop :=
  ∃ digits, (cs = digits ∨ cs = '+' :: digits) ∧ digits ≠ [] ∧
    (∀ c ∈ digits, c.isDigit = true) ∧ Nat.ofDigitChars 10 digits 0 = n

theorem States.of_mem {cs : List Char} {n : Nat} (h : States cs n) :
    ∀ c ∈ cs, c.isDigit = true ∨ c = '+' := by
  obtain ⟨digits, hcs, _, hdigits, _⟩ := h
  intro c hc
  rcases hcs with rfl | rfl
  · exact .inl (hdigits c hc)
  · rcases List.mem_cons.mp hc with hsign | hc
    · exact .inr hsign
    · exact .inl (hdigits c hc)

theorem readDigits?_eq_some_iff {cs : List Char} {n : Nat} :
    readDigits? cs = some n ↔
      cs ≠ [] ∧ (∀ c ∈ cs, c.isDigit = true) ∧ Nat.ofDigitChars 10 cs 0 = n := by
  cases cs with
  | nil => simp [readDigits?]
  | cons c cs => simp only [readDigits?, readOnto_eq_some_iff, ne_eq, reduceCtorEq,
      not_false_eq_true, true_and]

/-- Read are the numbers below the bound. -/
theorem read?_eq_some_iff {bound n : Nat} {cs : List Char} :
    read? bound cs = some n ↔ States cs n ∧ n < bound := by
  have hplus : '+'.isDigit = false := by decide
  unfold read? States
  rw [Option.filter_eq_some_iff, decide_eq_true_iff]
  -- The bound is asked on both sides alike; what is left is the sign.
  refine and_congr_left fun _ => ?_
  split
  · next rest =>
    rw [readDigits?_eq_some_iff]
    constructor
    · intro h
      exact ⟨rest, .inr rfl, h⟩
    · rintro ⟨digits, hcs | hcs, hne, hdigits, hvalue⟩
      · -- The sign is no digit.
        rw [hdigits '+' (by simp [← hcs])] at hplus
        cases hplus
      · cases hcs
        exact ⟨hne, hdigits, hvalue⟩
  · next hsign =>
    rw [readDigits?_eq_some_iff]
    constructor
    · intro h
      exact ⟨cs, .inl rfl, h⟩
    · rintro ⟨digits, hcs | hcs, hrest⟩
      · cases hcs
        exact hrest
      · exact absurd hcs (hsign digits)

/-- A text states one number at most. -/
theorem States.unique {cs : List Char} {n m : Nat} (hn : States cs n) (hm : States cs m) :
    n = m := by
  -- Reading is a function, and with a bound above both numbers it reads each of them.
  have hreadn := read?_eq_some_iff.mpr ⟨hn, (by omega : n < max n m + 1)⟩
  have hreadm := read?_eq_some_iff.mpr ⟨hm, (by omega : m < max n m + 1)⟩
  exact Option.some.inj (hreadn.symm.trans hreadm)

theorem isDigit_of_mem_written {n : Nat} {c : Char} (h : c ∈ written n) : c.isDigit = true :=
  Nat.isDigit_of_mem_toDigits (by decide) (by decide) h

theorem written_ne_nil (n : Nat) : written n ≠ [] := Nat.toDigits_ne_nil

theorem states_written (n : Nat) : States (written n) n :=
  ⟨written n, .inl rfl, written_ne_nil n, fun _ hc => isDigit_of_mem_written hc,
    Nat.ofDigitChars_ten_toDigits⟩

/-- A number is read back from its digits if it fits. -/
theorem read?_written (bound n : Nat) :
    read? bound (written n) = if n < bound then some n else none := by
  split
  · next h => exact read?_eq_some_iff.mpr ⟨states_written n, h⟩
  · next h =>
    rw [Option.eq_none_iff_forall_ne_some]
    intro m hread
    obtain ⟨hstates, hm⟩ := read?_eq_some_iff.mp hread
    rw [← (states_written n).unique hstates] at hm
    exact h hm

end Decimal

end ChangeLint.Text
