import ChangeLint.Proofs.Yaml.Cursors
import ChangeLint.Yaml.PlainScalar

/-! # Plain texts are read back

A text that may be written plainly is made of words and spaces, and no word ends in the colon of
a key or starts a comment.  So it is read up to the end of its line and no further. -/

namespace ChangeLint.Yaml.Plain

/-! ## Section 1: Words -/

/-- A word is read up to where none goes on, unless it ends in a colon. -/
theorem word_append {word rest : List Char} (hword : ∀ c ∈ word, isGapOrEnd c = false)
    (hlast : word.getLast? ≠ some ':') (hrest : Plain.word false rest = ([], false)) :
    Plain.word false (word ++ rest) = (word, false) := by
  induction word with
  | nil => exact hrest
  | cons c word ih =>
    have hc : isGapOrEnd c = false := hword c (by simp)
    -- A colon within the word has a character of the word behind it.
    have hnext : (c == ':' && isGapOrEnd ((word ++ rest).headD terminator)) = false ∧
        word.getLast? ≠ some ':' := by
      cases word with
      | nil =>
        have hcolon : c ≠ ':' := by simpa using hlast
        exact ⟨by simp [hcolon], by simp⟩
      | cons d word =>
        have hd : isGapOrEnd d = false := hword d (by simp)
        exact ⟨by simp [hd], by rwa [List.getLast?_cons_cons] at hlast⟩
    have htail := ih (fun d hd => hword d (by simp [hd])) hnext.2
    simp only [List.cons_append, Plain.word, hc, hnext.1, htail, Bool.false_and,
      Bool.or_false, Bool.false_eq_true, if_false]

/-- No word starts with a gap or with the end of a line. -/
theorem word_of_gap {c : Char} (h : isGapOrEnd c = true) (rest : List Char) :
    Plain.word false (c :: rest) = ([], false) := by
  simp [Plain.word, h]

/-- One round of reading: a word, and the gap behind it. -/
theorem readFrom_word {indent : Int} {start mark stop : Mark} {fuel : Nat}
    {text word rest : List Char} {gap next : Gap} {onward : Cursor}
    (hmarker : Cursor.isDocumentMarker ⟨word ++ rest, mark⟩ = false)
    (hcomment : (word ++ rest).headD terminator ≠ '#') (hne : word ≠ [])
    (hword : Plain.word false (word ++ rest) = (word, false))
    (hgap : Gap.none.read indent.toNat ⟨rest, mark.past word⟩ = .ok (next, onward)) :
    readFrom false indent start (fuel + 1) text stop gap ⟨word ++ rest, mark⟩
      = if (onward.mark.column : Int) < indent then
          .ok ⟨text ++ gap.folded ++ word, mark.past word, onward, next.broken⟩
        else
          readFrom false indent start fuel (text ++ gap.folded ++ word) (mark.past word) next
            onward := by
  -- Four tests come before a word is taken: the marker, the comment, the word itself, and the
  -- gap.
  have hpeek : (Cursor.peek ⟨word ++ rest, mark⟩ == '#') = false :=
    beq_eq_false_iff_ne.mpr hcomment
  have hempty : word.isEmpty = false := by
    rw [List.isEmpty_eq_false_iff]
    exact hne
  simp only [readFrom, hmarker, hpeek, hword, hempty, Cursor.skip_append, hgap, Bool.or_false,
    Bool.false_eq_true, if_false, Bool.not_false, Bool.true_and, decide_eq_true_eq]

/-! ## Section 2: Texts -/

/-- A text that can be written plainly, or what is left of one at the start of a word. -/
structure Writable (text : List Char) : Prop where
  inline : ∀ c ∈ text, isPrintable c = true ∧ isBreak c = false
  unmarked : hasKeyEndOrComment text = false
  start : ∀ c ∈ text.head?, c ≠ ' ' ∧ c ≠ '#'
  stop : text.getLast? ≠ some ' '

namespace Writable

theorem of_allowsPlain {text : List Char} (h : allowsPlain text = true) : Writable text := by
  simp only [allowsPlain, isMistakable, hasSpaceAtEdge, Bool.and_eq_true, Bool.not_eq_true',
    Bool.or_eq_false_iff, List.all_eq_true, List.any_eq_false] at h
  -- Every condition of a plain text is one that the writer checks.
  obtain ⟨⟨⟨hprint, hbreak⟩, hfirst, hlast⟩, ⟨_, hopen⟩, hkey⟩ := h
  refine ⟨?_, hkey, ?_, ?_⟩
  · intro c hc
    exact ⟨hprint c hc, by simpa using hbreak c hc⟩
  · intro c hc
    cases text with
    | nil => cases hc
    | cons d text =>
      cases hc
      constructor
      · rintro rfl
        exact absurd hfirst (by simp)
      · rintro rfl
        exact absurd hopen (by simp [opensOtherwise, openingIndicators])
  · intro hspace
    rw [hspace] at hlast
    exact absurd hlast (by decide)

/-- A part that starts a word goes on as a writable text. -/
theorem tail {front text : List Char} (h : Writable (front ++ ' ' :: text))
    (hnext : ∀ c ∈ text.head?, c ≠ ' ') : Writable text ∧ text ≠ [] := by
  obtain ⟨hinline, hmarked, _, hstop⟩ := h
  have hne : text ≠ [] := by
    -- A text that ended with the space would not be writable.
    rintro rfl
    exact hstop (by simp)
  refine ⟨⟨?_, ?_, ?_, ?_⟩, hne⟩
  · intro c hc
    exact hinline c (by simp [hc])
  · unfold hasKeyEndOrComment at hmarked ⊢
    -- The pairs of the rest are pairs of the whole.
    have hsplit : front ++ ' ' :: text ++ [terminator]
        = (front ++ [' ']) ++ ((text ++ [terminator]) ++ []) := by simp
    rw [hsplit] at hmarked
    exact hasPair_of_append hmarked
  · intro c hc
    refine ⟨hnext c hc, ?_⟩
    rintro rfl
    obtain ⟨rest, rfl⟩ := List.head?_eq_some_iff.mp hc
    have hsplit : front ++ ' ' :: '#' :: rest ++ [terminator]
        = front ++ ' ' :: '#' :: (rest ++ [terminator]) := by simp
    rw [hasKeyEndOrComment, hsplit] at hmarked
    exact absurd (not_related_of_hasPair hmarked) (by decide)
  · intro hlast
    refine hstop ?_
    rw [List.getLast?_append, List.getLast?_cons, hlast]
    rfl

/-- A word of a writable text does not end in a colon. -/
theorem getLast?_word {word rest : List Char} (h : Writable (word ++ rest))
    (hrest : ∀ c ∈ rest.head?, c = ' ') : word.getLast? ≠ some ':' := by
  intro hlast
  obtain ⟨front, rfl⟩ := List.getLast?_eq_some_iff.mp hlast
  have hmarked := h.unmarked
  unfold hasKeyEndOrComment at hmarked
  -- Behind the word there is a space or the end of the text, and both would end a key.
  cases rest with
  | nil =>
    have hsplit : front ++ [':'] ++ [] ++ [terminator] = front ++ ':' :: terminator :: [] := by
      simp
    rw [hsplit] at hmarked
    exact absurd (not_related_of_hasPair hmarked) (by decide)
  | cons c rest =>
    have hc : c = ' ' := hrest c rfl
    subst hc
    have hsplit : front ++ [':'] ++ ' ' :: rest ++ [terminator]
        = front ++ ':' :: ' ' :: (rest ++ [terminator]) := by simp
    rw [hsplit] at hmarked
    exact absurd (not_related_of_hasPair hmarked) (by decide)

theorem isGapOrEnd_word {text : List Char} (h : Writable text) {c : Char} (hc : c ∈ text)
    (hspace : c ≠ ' ') : isGapOrEnd c = false := by
  obtain ⟨hprint, hbreak⟩ := h.inline c hc
  apply isGapOrEnd_of_isPrintable hprint
  simp [isSpaceOrBreak, hspace, hbreak]

/-- What starts a writable text starts no comment and no gap. -/
theorem head_append {text : List Char} (h : Writable text) (hne : text ≠ []) (rest : List Char) :
    (text ++ rest).headD terminator ≠ '#' ∧
      ∀ c ∈ (text ++ rest).head?, isGap c = false ∧ isBreak c = false := by
  cases text with
  | nil => exact absurd rfl hne
  | cons d text =>
    obtain ⟨hspace, hcomment⟩ := h.start d rfl
    refine ⟨hcomment, ?_⟩
    intro c hc
    cases hc
    exact not_gap_of_isGapOrEnd (h.isGapOrEnd_word (List.mem_cons_self ..) hspace)

end Writable

section

variable {word spaces text behind : List Char} {start stop mark : Mark} {before : List Char}
  {gap : Gap} {indent : Int}

/-- A word of a line is read with the spaces behind it, if another one follows. -/
theorem readFrom_next (fuel : Nat) (h : Writable (word ++ (spaces ++ text))) (hne : word ≠ [])
    (htext : Writable text) (htextne : text ≠ []) (inside : ∀ c ∈ word, c ≠ ' ')
    (hspaces : ∀ c ∈ spaces, c = ' ') (parted : spaces ≠ []) (hindent : indent ≤ 1)
    (hmarker : Cursor.isDocumentMarker ⟨word ++ (spaces ++ (text ++ behind)), mark⟩ = false) :
    readFrom false indent start (fuel + 1) before stop gap
        ⟨word ++ (spaces ++ (text ++ behind)), mark⟩
      = readFrom false indent start fuel (before ++ gap.folded ++ word) (mark.past word)
          ⟨spaces, [], [], false⟩ ⟨text ++ behind, (mark.past word).past spaces⟩ := by
  have hall : ∀ c ∈ word, isGapOrEnd c = false :=
    fun c hc => h.isGapOrEnd_word (by simp [hc]) (inside c hc)
  have hcomment := (h.head_append (by simp [hne]) behind).1
  rw [List.append_assoc, List.append_assoc] at hcomment
  have hread : Gap.none.read indent.toNat ⟨spaces ++ (text ++ behind), mark.past word⟩
      = .ok (⟨spaces, [], [], false⟩, ⟨text ++ behind, (mark.past word).past spaces⟩) :=
    Gap.read_spaces _ _ hspaces (htext.head_append htextne _).2
  obtain ⟨c, spaces, rfl⟩ := List.exists_cons_of_ne_nil parted
  have hc : c = ' ' := hspaces c (by simp)
  subst hc
  have hbehind : ∀ c ∈ (' ' :: spaces ++ text).head?, c = ' ' := by
    intro d hd
    cases hd
    rfl
  have hword : Plain.word false (word ++ (' ' :: spaces ++ (text ++ behind)))
      = (word, false) :=
    word_append hall (h.getLast?_word hbehind) (word_of_gap (by decide) _)
  -- The next word stands behind the first column, which is far enough to the right.
  have hless : ¬ (((mark.past word).past (' ' :: spaces)).column : Int) < indent := by
    simp only [Mark.column_past, List.length_cons]
    omega
  rw [readFrom_word hmarker hcomment hne hword hread, if_neg hless]

/-- A writable text is read word by word, if its last word is read with what is behind it. -/
theorem readFrom_words (result : List Char → Mark → Except Fault Result) (hindent : indent ≤ 1)
    (hlast : ∀ {word before : List Char} {stop mark : Mark} {gap : Gap} (fuel : Nat),
      Writable word → word ≠ [] → (∀ c ∈ word, c ≠ ' ') →
      Cursor.isDocumentMarker ⟨word ++ behind, mark⟩ = false →
      readFrom false indent start (fuel + 2) before stop gap ⟨word ++ behind, mark⟩
        = result (before ++ gap.folded ++ word) (mark.past word))
    (h : Writable text) (hne : text ≠ []) :
    ∀ (fuel : Nat) (before : List Char) (stop mark : Mark) (gap : Gap), text.length + 1 < fuel →
      Cursor.isDocumentMarker ⟨text ++ behind, mark⟩ = false →
      readFrom false indent start fuel before stop gap ⟨text ++ behind, mark⟩
        = result (before ++ gap.folded ++ text) (mark.past text) := by
  -- The induction is on the words of the text; the gap in front of a word is still open.
  induction Text.runs (· == ' ') text with
  | @word word inside =>
    intro fuel before stop mark gap hfuel hmarker
    obtain ⟨fuel, rfl⟩ : ∃ n, fuel = n + 2 := ⟨fuel - 2, by omega⟩
    have hinside : ∀ c ∈ word, c ≠ ' ' := fun c hc => by simpa using inside c hc
    exact hlast fuel h hne hinside hmarker
  | @step word spaces text inside between parted next _ ih =>
    intro fuel before stop mark gap hfuel hmarker
    obtain ⟨fuel, rfl⟩ : ∃ n, fuel = n + 1 := ⟨fuel - 1, by omega⟩
    have hinside : ∀ c ∈ word, c ≠ ' ' := fun c hc => by simpa using inside c hc
    have hspaces : ∀ c ∈ spaces, c = ' ' := fun c hc => by simpa using between c hc
    have hnext : ∀ c ∈ text.head?, c ≠ ' ' := fun c hc => by simpa using next c hc
    -- No writable text starts with a space, so there is a word in front of the first gap.
    have hwordne : word ≠ [] := by
      rintro rfl
      obtain ⟨c, spaces, rfl⟩ := List.exists_cons_of_ne_nil parted
      exact (h.start c rfl).1 (hspaces c (by simp))
    -- The last space of the gap is what the rest of the text stands behind.
    have hlastspace : spaces = spaces.dropLast ++ [' '] := by
      have hsplit := List.dropLast_concat_getLast parted
      rwa [hspaces _ (List.getLast_mem parted), eq_comm] at hsplit
    obtain ⟨htail, htailne⟩ : Writable text ∧ text ≠ [] := by
      have hsplit : word ++ (spaces ++ text) = (word ++ spaces.dropLast) ++ ' ' :: text := by
        rw [hlastspace]
        simp
      rw [hsplit] at h
      exact h.tail hnext
    have hlength : text.length + 1 < fuel := by
      have hsome := List.length_pos_iff.mpr parted
      simp only [List.length_append] at hfuel
      omega
    have hcolumn : 0 < ((mark.past word).past spaces).column := by
      have hsome := List.length_pos_iff.mpr parted
      simp only [Mark.column_past]
      omega
    -- From the next word on the hypothesis applies, with the gap in front of that word.
    have hrun := ih htail htailne fuel (before ++ gap.folded ++ word) (mark.past word)
      ((mark.past word).past spaces) ⟨spaces, [], [], false⟩ hlength
      (Cursor.isDocumentMarker_of_column hcolumn)
    have hwhole : word ++ (spaces ++ text) ++ behind = word ++ (spaces ++ (text ++ behind)) := by
      simp
    rw [hwhole] at hmarker ⊢
    rw [readFrom_next fuel h hwordne htail htailne hinside hspaces parted hindent hmarker, hrun]
    simp [Gap.folded, Mark.past_past]

end

section

variable {word text rest : List Char} {start stop mark : Mark} {before : List Char} {gap : Gap}

/-- The last word of a line is read with the end of the line. -/
theorem readFrom_last (fuel : Nat) (h : Writable word) (hne : word ≠ [])
    (inside : ∀ c ∈ word, c ≠ ' ')
    (hmarker : Cursor.isDocumentMarker ⟨word ++ '\n' :: rest, mark⟩ = false)
    (hrest : ∀ c ∈ rest.head?, isGap c = false ∧ isBreak c = false) :
    readFrom false 1 start (fuel + 1) before stop gap ⟨word ++ '\n' :: rest, mark⟩
      = .ok ⟨before ++ gap.folded ++ word, mark.past word,
          ⟨rest, (mark.past word).below '\n'⟩, true⟩ := by
  have hlast : word.getLast? ≠ some ':' := by
    have hwhole : Writable (word ++ []) := by rwa [List.append_nil]
    exact hwhole.getLast?_word nofun
  have hword : Plain.word false (word ++ '\n' :: rest) = (word, false) :=
    word_append (fun c hc => h.isGapOrEnd_word hc (inside c hc)) hlast
      (word_of_gap (by decide) rest)
  have hbreaks : ∀ d ∈ ['\n'], isBreak d = true ∧ isPrintable d = true :=
    List.forall_mem_singleton.mpr (by decide)
  have hgap : Gap.none.read (1 : Int).toNat ⟨'\n' :: rest, mark.past word⟩
      = .ok (⟨[], ['\n'], [], true⟩, ⟨rest, (mark.past word).below '\n'⟩) :=
    Gap.read_breaks 1 (mark.past word) hbreaks (List.forall_mem_nil (· = ' ')) hrest
  -- The next line starts in the first column, which is too far to the left to go on.
  have hless : (((mark.past word).below '\n').column : Int) < 1 := by
    rw [Mark.column_below]
    decide
  rw [readFrom_word hmarker (h.head_append hne _).1 hne hword hgap, if_pos hless]

/-- A text that is written plainly is read back up to the end of its line, and reading goes on
where the next line starts. -/
theorem read_text (h : Writable text) (hne : text ≠ []) (hcolumn : 0 < mark.column)
    (hrest : ∀ c ∈ rest.head?, isGap c = false ∧ isBreak c = false) :
    read false 0 ⟨text ++ '\n' :: rest, mark⟩
      = .ok ⟨text, mark.past text, ⟨rest, (mark.past text).below '\n'⟩, true⟩ := by
  -- There are more characters than words, so the fuel is enough.
  have hlength : text.length + 1 < (text ++ '\n' :: rest).length + 1 := by
    simp only [List.length_append, List.length_cons]
    omega
  exact readFrom_words
    (fun text stop => .ok ⟨text, stop, ⟨rest, stop.below '\n'⟩, true⟩) (Int.le_refl 1)
    (fun fuel hword hne inside hmarker =>
      readFrom_last (fuel + 1) hword hne inside hmarker hrest)
    h hne _ [] mark mark .none hlength (Cursor.isDocumentMarker_of_column hcolumn)

/-! ## Section 3: Keys -/

/-- Where no word goes on, reading ends. -/
theorem readFrom_of_no_word {indent : Int} (fuel : Nat) (hcolumn : 0 < mark.column)
    (hword : Plain.word false rest = ([], false)) :
    readFrom false indent start (fuel + 1) text stop gap ⟨rest, mark⟩
      = .ok ⟨text, stop, ⟨rest, mark⟩, gap.broken⟩ := by
  have hmarker : Cursor.isDocumentMarker ⟨rest, mark⟩ = false :=
    Cursor.isDocumentMarker_of_column hcolumn
  simp [readFrom, hword, hmarker]

/-- The last word of a key is read up to the colon. -/
theorem readFrom_colon {indent : Int} (fuel : Nat) (hindent : indent ≤ 1) (h : Writable word)
    (hne : word ≠ []) (inside : ∀ c ∈ word, c ≠ ' ')
    (hmarker : Cursor.isDocumentMarker ⟨word ++ ':' :: rest, mark⟩ = false)
    (hrest : isGapOrEnd (rest.headD terminator) = true) :
    readFrom false indent start (fuel + 2) before stop gap ⟨word ++ ':' :: rest, mark⟩
      = .ok ⟨before ++ gap.folded ++ word, mark.past word, ⟨':' :: rest, mark.past word⟩,
          false⟩ := by
  -- A colon in front of a gap ends a key and starts no word.
  have hcolon : Plain.word false (':' :: rest) = ([], false) := by
    simp only [Plain.word, hrest]
    rfl
  have hlast : word.getLast? ≠ some ':' := by
    have hwhole : Writable (word ++ []) := by rwa [List.append_nil]
    exact hwhole.getLast?_word nofun
  have hword : Plain.word false (word ++ ':' :: rest) = (word, false) :=
    word_append (fun c hc => h.isGapOrEnd_word hc (inside c hc)) hlast hcolon
  have hstop : ∀ c ∈ (':' :: rest).head?, isGap c = false ∧ isBreak c = false := by
    intro c hc
    cases hc
    decide
  have hgap : Gap.none.read indent.toNat ⟨':' :: rest, mark.past word⟩
      = .ok (⟨[], [], [], false⟩, ⟨':' :: rest, mark.past word⟩) :=
    Gap.read_spaces indent.toNat (mark.past word) (List.forall_mem_nil (· = ' ')) hstop
  have hcolumn : 0 < (mark.past word).column := by
    have hsome := List.length_pos_iff.mpr hne
    rw [Mark.column_past]
    omega
  have hless : ¬ ((mark.past word).column : Int) < indent := by
    omega
  -- No second word stands behind the last one, because the colon ends it.
  rw [readFrom_word hmarker (h.head_append hne _).1 hne hword hgap, if_neg hless,
    readFrom_of_no_word _ hcolumn hcolon]

/-- A text that is written plainly is no line that begins or ends a document. -/
theorem isDocumentMarker_of_allowsPlain (hplain : allowsPlain text = true) (rest : List Char)
    (mark : Mark) : Cursor.isDocumentMarker ⟨text ++ ':' :: rest, mark⟩ = false := by
  simp only [allowsPlain, isMistakable, opensLikeBounds, Bool.and_eq_true, Bool.not_eq_true',
    Bool.or_eq_false_iff, beq_eq_false_iff_ne] at hplain
  obtain ⟨hdashes, hdots⟩ := hplain.2.1.1
  -- Three signs at the start would be three characters of the text, because none is a colon.
  have hsign : ∀ sign : Char, sign ≠ ':' → text.take 3 ≠ [sign, sign, sign] →
      Cursor.isMarker ⟨text ++ ':' :: rest, mark⟩ sign = false := by
    intro sign hcolon hbounds
    rcases text with _ | ⟨a, _ | ⟨b, _ | ⟨c, more⟩⟩⟩
    · simp [Cursor.isMarker, hcolon.symm]
    · simp [Cursor.isMarker, Cursor.peekAt, hcolon.symm]
    · simp [Cursor.isMarker, Cursor.peekAt, hcolon.symm]
    · have hnot : ¬ (a = sign ∧ b = sign ∧ c = sign) := by
        rintro ⟨rfl, rfl, rfl⟩
        exact hbounds rfl
      simp only [Cursor.isMarker, Cursor.peekAt, Cursor.peek, List.cons_append, List.headD_cons,
        List.drop_succ_cons, List.drop_zero]
      rw [← Bool.not_eq_true]
      intro hall
      simp only [Bool.and_eq_true, beq_iff_eq] at hall
      exact hnot ⟨hall.1.1.1.2, hall.1.1.2, hall.1.2⟩
  unfold Cursor.isDocumentMarker
  rw [hsign '-' (by decide) hdashes, hsign '.' (by decide) hdots]
  rfl

/-- A key that is written plainly is read up to its colon. -/
theorem read_key {outer : Int} (mark : Mark) (houter : outer ≤ 0)
    (hplain : allowsPlain text = true) (hne : text ≠ [])
    (hrest : isGapOrEnd (rest.headD terminator) = true) :
    read false outer ⟨text ++ ':' :: rest, mark⟩
      = .ok ⟨text, mark.past text, ⟨':' :: rest, mark.past text⟩, false⟩ := by
  have hlength : text.length + 1 < (text ++ ':' :: rest).length + 1 := by
    simp only [List.length_append, List.length_cons]
    omega
  -- A key may stand in the first column, where the text of a value would have ended.
  have hindent : outer + 1 ≤ 1 := by omega
  exact readFrom_words
    (fun text stop => .ok ⟨text, stop, ⟨':' :: rest, stop⟩, false⟩) hindent
    (fun fuel hword hne inside hmarker =>
      readFrom_colon fuel hindent hword hne inside hmarker hrest)
    (.of_allowsPlain hplain) hne _ [] mark mark .none hlength
    (isDocumentMarker_of_allowsPlain hplain rest mark)

end

end ChangeLint.Yaml.Plain
