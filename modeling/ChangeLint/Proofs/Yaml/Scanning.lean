import ChangeLint.Proofs.Yaml.LiteralTexts
import ChangeLint.Proofs.Yaml.PlainTexts
import ChangeLint.Proofs.Yaml.QuotedTexts
import ChangeLint.Yaml.Scanner

/-! # Written mappings are scanned

The scanner is followed through a mapping as it is written.  Between two tokens it stands in a
block mapping that starts in the first column, and no key waits for its colon except right
behind the key itself.

* `IsKey` says of a text in some form that it can be a key on the line of its colon.
* `next_key` and `next_colon` are the steps for such a key, and `next_question`, `next_quoted` and
  `next_colon_below` those for a key behind a question mark.
* `next_open`, `next_close`, `next_dash` and `next_end` are steps, one for each other thing that is
  written.
* `readsLine_scalarLine` reads a scalar in the form that was chosen for it, and
  `readsLine_scalarIn` one in any form that fits on a line. -/

namespace ChangeLint.Yaml

/-! ## Section 1: Forms -/

/-- Each form is chosen only for what it can hold. -/
theorem formOf_cases (text : List Char) :
    (formOf text = .literal ∧ text ≠ [] ∧ ∀ c ∈ text, isPrintable c = true) ∨
      (formOf text = .plain ∧ allowsPlain text = true ∧ PlainValue.ofText text = .text) ∨
      (formOf text = .singleQuoted ∧ Quoted.Quotable true text) ∨
      formOf text = .doubleQuoted := by
  unfold formOf
  -- The cases follow the tests of `formOf`: a line feed, what reads as something else, single
  -- quotes.
  by_cases hline : text.contains '\n' = true
  · have hmem : '\n' ∈ text := by simpa using hline
    rw [if_pos hline]
    by_cases hliteral : allowsLiteral text = true
    · refine .inl ⟨if_pos hliteral, List.ne_nil_of_mem hmem, ?_⟩
      simp only [allowsLiteral, Bool.and_eq_true, List.all_eq_true] at hliteral
      exact hliteral.1.1
    · exact .inr (.inr (.inr (if_neg hliteral)))
  -- On one line single quotes are enough for whatever they can hold at all.
  · have hmem : '\n' ∉ text := by simpa using hline
    rw [if_neg hline]
    by_cases hplain : (!readsAsOther text && allowsPlain text) = true
    · refine .inr (.inl ⟨if_pos hplain, ?_⟩)
      simp only [readsAsOther, Bool.and_eq_true, Bool.not_eq_true', Bool.or_eq_false_iff,
        bne_eq_false_iff_eq] at hplain
      exact ⟨hplain.2, hplain.1.1⟩
    · rw [if_neg hplain]
      by_cases hsingle : allowsSingle text = true
      · exact .inr (.inr (.inl ⟨if_pos hsingle, .of_allowsSingle hsingle hmem⟩))
      · exact .inr (.inr (.inr (if_neg hsingle)))

/-- A plain scalar for a text is not empty. -/
theorem ne_nil_of_ofText {text : List Char} (h : PlainValue.ofText text = .text) : text ≠ [] := by
  rintro rfl
  cases h

/-! ## Section 2: Scanners in a block -/

namespace Scanner

/-- A scanner in a block mapping that starts in the first column, or in front of one. -/
def inBlock (opened : Bool) (cursor : Cursor) (tokens : List Token) (keyAllowed : Bool)
    (key : Option SimpleKey) : Scanner where
  cursor
  tokens
  flow := 0
  indent := if opened then 0 else -1
  indents := if opened then [-1] else []
  keyAllowed
  keys := [key]

/-- What may turn out to be a key need not be one. -/
def MayDrop (key : Option SimpleKey) : Prop := ∀ k ∈ key, k.required = false

theorem mayDrop_none : MayDrop none := nofun

variable {opened keyAllowed : Bool} {cursor : Cursor} {tokens : List Token}
  {key : Option SimpleKey}

@[simp] theorem cursor_inBlock :
    (inBlock opened cursor tokens keyAllowed key).cursor = cursor := rfl

@[simp] theorem mark_inBlock :
    (inBlock opened cursor tokens keyAllowed key).mark = cursor.mark := rfl

@[simp] theorem inFlow_inBlock :
    (inBlock opened cursor tokens keyAllowed key).inFlow = false := rfl

/-- A key for which it is not too late is waited for. -/
theorem dropStale_of_not_isStale {k : SimpleKey}
    (h : (inBlock opened cursor tokens keyAllowed (some k)).isStale k = false) :
    (inBlock opened cursor tokens keyAllowed (some k)).dropStale
      = .ok (inBlock opened cursor tokens keyAllowed (some k)) := by
  simp only [dropStale, inBlock, freshKeys, bind, Except.bind, pure, Except.pure] at h ⊢
  simp [h]

/-- It is not too late on the line of the key, unless the key is too long. -/
theorem dropStale_of_fresh {k : SimpleKey} (hline : k.mark.line = cursor.mark.line)
    (hindex : cursor.mark.index ≤ k.mark.index + maxKey) :
    (inBlock opened cursor tokens keyAllowed (some k)).dropStale
      = .ok (inBlock opened cursor tokens keyAllowed (some k)) := by
  have hshort : ¬ k.mark.index + maxKey < cursor.mark.index := by omega
  -- Neither of the two reasons to give a key up holds.
  apply dropStale_of_not_isStale
  simp [isStale, hline, hshort]

/-- A key that need not be one is waited for or given up. -/
theorem dropStale_cases (opened : Bool) (cursor : Cursor) (tokens : List Token)
    (keyAllowed : Bool) (h : MayDrop key) :
    ∃ key', (key' = key ∨ key' = none) ∧ (inBlock opened cursor tokens keyAllowed key).dropStale
      = .ok (inBlock opened cursor tokens keyAllowed key') := by
  cases key with
  | none => exact ⟨none, .inl rfl, rfl⟩
  | some k =>
    have hfree : k.required = false := h k rfl
    -- A key that is too late would be a fault only if it were required.
    by_cases hstale : (inBlock opened cursor tokens keyAllowed (some k)).isStale k = true
    · refine ⟨none, .inr rfl, ?_⟩
      simp only [dropStale, inBlock, freshKeys, bind, Except.bind, pure, Except.pure] at hstale ⊢
      simp [hstale, hfree]
    · rw [Bool.not_eq_true] at hstale
      exact ⟨some k, .inl rfl, dropStale_of_not_isStale hstale⟩

theorem dropStale_inBlock (opened : Bool) (cursor : Cursor) (tokens : List Token)
    (keyAllowed : Bool) (h : MayDrop key) :
    ∃ key', MayDrop key' ∧ (inBlock opened cursor tokens keyAllowed key).dropStale
      = .ok (inBlock opened cursor tokens keyAllowed key') := by
  obtain ⟨key', rfl | rfl, hdrop⟩ := dropStale_cases opened cursor tokens keyAllowed h
  · exact ⟨key', h, hdrop⟩
  · exact ⟨none, mayDrop_none, hdrop⟩

/-- On a line below that of a key it is too late for it. -/
theorem dropStale_below (opened : Bool) (tokens : List Token) (keyAllowed : Bool) (h : MayDrop key)
    (hline : ∀ k ∈ key, k.mark.line < cursor.mark.line) :
    (inBlock opened cursor tokens keyAllowed key).dropStale
      = .ok (inBlock opened cursor tokens keyAllowed none) := by
  cases key with
  | none => rfl
  | some k =>
    have hfree : k.required = false := h k rfl
    have hlate : k.mark.line < cursor.mark.line := hline k rfl
    -- The line alone decides: it is later, however short the key is.
    simp [dropStale, inBlock, freshKeys, isStale, Scanner.mark, hlate, hfree, bind, Except.bind,
      pure, Except.pure]

theorem dropKey_inBlock (h : MayDrop key) :
    (inBlock opened cursor tokens keyAllowed key).dropKey
      = .ok (inBlock opened cursor tokens keyAllowed none) := by
  cases key with
  | none => rfl
  | some k =>
    have hfree : k.required = false := h k rfl
    simp [dropKey, inBlock, hfree]

/-- What may turn out to be a key once the next token is read.  In the first column of a mapping
the token must be a key. -/
def saved (opened : Bool) (cursor : Cursor) (tokens : List Token) (keyAllowed : Bool)
    (key : Option SimpleKey) : Option SimpleKey :=
  if keyAllowed then
    some ⟨decide ((if opened then (0 : Int) else -1) = cursor.mark.column), tokens.length,
      cursor.mark⟩
  else key

theorem saveKey_inBlock (h : MayDrop key) :
    (inBlock opened cursor tokens keyAllowed key).saveKey
      = .ok (inBlock opened cursor tokens keyAllowed
          (saved opened cursor tokens keyAllowed key)) := by
  cases keyAllowed with
  | false => rfl
  | true =>
    -- A key that was waited for is given up first, which is no fault.
    simp only [saveKey, dropKey_inBlock h, bind, Except.bind, pure, Except.pure]
    rfl

/-- Behind the first column no token must be a key. -/
theorem mayDrop_saved (h : MayDrop key) (hcolumn : 0 < cursor.mark.column) :
    MayDrop (saved opened cursor tokens keyAllowed key) := by
  cases keyAllowed with
  | false => exact h
  | true =>
    intro k hk
    cases hk
    -- The column is none of the two that a mapping here could be indented to.
    have hnot : ¬ (if opened then (0 : Int) else -1) = cursor.mark.column := by
      split <;> omega
    exact decide_eq_false hnot

/-- No block is indented less than the first column. -/
theorem closeBlocks_inBlock (column : Nat) :
    (inBlock opened cursor tokens keyAllowed key).closeBlocks column
      = inBlock opened cursor tokens keyAllowed key := by
  cases opened with
  | false => rfl
  | true =>
    -- Only the end of the text is indented less, and a column is a natural number.
    have hnot : ¬ (column : Int) < 0 := by omega
    simp [closeBlocks, inBlock, inFlow, closeBlocksFrom, hnot]

/-- A step from where the next token starts. -/
theorem next_inBlock {next : Cursor} {allowed : Bool}
    (hskip : skipToToken (cursor.rest.length + 1) (inBlock opened cursor tokens keyAllowed key)
      = inBlock opened next tokens allowed key) (h : MayDrop key) :
    ∃ key', MayDrop key' ∧ (inBlock opened cursor tokens keyAllowed key).next
      = ((inBlock opened next tokens allowed key').scanToken >>= dropStale) := by
  obtain ⟨key', hkey', hdrop⟩ := dropStale_inBlock opened next tokens allowed h
  refine ⟨key', hkey', ?_⟩
  -- Of the four parts of a step only the token is left open.
  simp only [Scanner.next, cursor_inBlock, mark_inBlock, hskip, hdrop, closeBlocks_inBlock, bind,
    Except.bind]

/-! ## Section 3: To the next token -/

/-- Neither a gap, the end of a line nor a comment starts here. -/
def StartsToken (rest : List Char) : Prop :=
  ∀ c ∈ rest.head?, isGap c = false ∧ isBreak c = false ∧ c ≠ '#' ∧ c ≠ byteOrderMark

theorem startsToken_cons {c : Char}
    (h : isGap c = false ∧ isBreak c = false ∧ c ≠ '#' ∧ c ≠ byteOrderMark) (rest : List Char) :
    StartsToken (c :: rest) := by
  intro d hd
  cases hd
  exact h

/-- A line is read, and some text is behind it: the scanner stands where the next line starts or
in front of the end of the line. -/
def EndsLine (cursor : Cursor) (keyAllowed : Bool) (rest : List Char) : Prop :=
  (cursor.rest = rest ∧ cursor.mark.column = 0 ∧ keyAllowed = true) ∨ cursor.rest = '\n' :: rest

theorem peek_ne {rest : List Char} {c : Char} (mark : Mark) (h : ∀ d ∈ rest.head?, d ≠ c)
    (hc : c ≠ terminator) : Cursor.peek ⟨rest, mark⟩ ≠ c := by
  cases rest with
  | nil => exact hc.symm
  | cons d rest => exact h d rfl

/-- Spaces are passed over up to what is neither a gap nor a comment. -/
theorem skip_spaces {s : Scanner} {spaces rest : List Char} (mark : Mark)
    (hspaces : ∀ c ∈ spaces, c = ' ')
    (h : ∀ c ∈ rest.head?, isGap c = false ∧ c ≠ '#' ∧ c ≠ byteOrderMark) :
    ((Cursor.mk (spaces ++ rest) mark).skipByteOrderMark.skipWhile s.isGapHere).skipComment
      = ⟨rest, mark.past spaces⟩ := by
  -- Neither a byte order mark is passed over nor a comment.
  have hmark : (Cursor.mk (spaces ++ rest) mark).skipByteOrderMark
      = ⟨spaces ++ rest, mark⟩ := by
    refine if_neg fun hbom => peek_ne mark ?_ (by decide) hbom.2
    intro c hc
    cases spaces with
    | nil => exact (h c hc).2.2
    | cons d spaces =>
      cases hc
      rw [hspaces c (by simp)]
      decide
  have hinside : ∀ c ∈ spaces, s.isGapHere c = true := by
    intro c hc
    rw [hspaces c hc]
    rfl
  -- A gap here is a gap anywhere, so what is none stops the search.
  have hstop : ∀ c ∈ rest.head?, s.isGapHere c = false := by
    intro c hc
    have hgap := (h c hc).1
    simp only [isGap, Bool.or_eq_false_iff] at hgap
    simp [isGapHere, hgap.1, hgap.2]
  -- There is no comment to pass over: that would need a sharp.
  have hcomment : (Cursor.mk rest (mark.past spaces)).skipComment = ⟨rest, mark.past spaces⟩ :=
    if_neg (peek_ne _ (fun c hc => (h c hc).2.1) (by decide))
  rw [hmark, Cursor.skipWhile, Cursor.takeWhile_append mark hinside hstop, hcomment]

/-- Spaces in front of a token are passed over. -/
theorem skipToToken_spaces (opened : Bool) (tokens : List Token) (keyAllowed : Bool)
    (key : Option SimpleKey) (mark : Mark) (fuel : Nat) {spaces rest : List Char}
    (hspaces : ∀ c ∈ spaces, c = ' ') (h : StartsToken rest) :
    skipToToken (fuel + 1) (inBlock opened ⟨spaces ++ rest, mark⟩ tokens keyAllowed key)
      = inBlock opened ⟨rest, mark.past spaces⟩ tokens keyAllowed key := by
  have hskip := skip_spaces (s := inBlock opened ⟨spaces ++ rest, mark⟩ tokens keyAllowed key)
    mark hspaces fun c hc => ⟨(h c hc).1, (h c hc).2.2⟩
  -- Without a break behind the spaces the search ends in its first round.
  have hbreak : isBreak (Cursor.peek ⟨rest, mark.past spaces⟩) = false := by
    cases rest with
    | nil => rfl
    | cons c rest => exact (h c rfl).2.1
  simp only [skipToToken, cursor_inBlock, hskip, hbreak, Bool.false_eq_true, if_false]
  rfl

/-- The space in front of a token is passed over. -/
theorem skipToToken_space (opened : Bool) (tokens : List Token) (keyAllowed : Bool)
    (key : Option SimpleKey) (mark : Mark) (fuel : Nat) {rest : List Char} (h : StartsToken rest) :
    skipToToken (fuel + 1) (inBlock opened ⟨' ' :: rest, mark⟩ tokens keyAllowed key)
      = inBlock opened ⟨rest, mark.past [' ']⟩ tokens keyAllowed key := by
  have hspace : ∀ c ∈ [' '], c = ' ' := List.forall_mem_singleton.mpr rfl
  have hskip := skipToToken_spaces opened tokens keyAllowed key mark fuel hspace h
  rwa [List.singleton_append] at hskip

/-- Where a token starts, nothing is passed over. -/
theorem skipToToken_of_start (opened : Bool) (tokens : List Token) (keyAllowed : Bool)
    (key : Option SimpleKey) (mark : Mark) (fuel : Nat) {rest : List Char}
    (h : StartsToken rest) :
    skipToToken (fuel + 1) (inBlock opened ⟨rest, mark⟩ tokens keyAllowed key)
      = inBlock opened ⟨rest, mark⟩ tokens keyAllowed key := by
  have hskip := skipToToken_spaces opened tokens keyAllowed key mark fuel
    (List.forall_mem_nil (· = ' ')) h
  rwa [List.nil_append, Mark.past_nil] at hskip

/-- The end of a line in front of a token is passed over, and a key may start behind it. -/
theorem skipToToken_feed {rest : List Char} {mark : Mark} (fuel : Nat) (h : StartsToken rest) :
    skipToToken (fuel + 2) (inBlock opened ⟨'\n' :: rest, mark⟩ tokens keyAllowed key)
      = inBlock opened ⟨rest, mark.below '\n'⟩ tokens true key := by
  -- The first round passes over the break and the second finds the token, so the fuel is two.
  have hfirst : skipToToken (fuel + 2)
      (inBlock opened ⟨'\n' :: rest, mark⟩ tokens keyAllowed key)
        = skipToToken (fuel + 1) (inBlock opened ⟨rest, mark.below '\n'⟩ tokens true key) := by
    have hfeed : ∀ c ∈ ('\n' :: rest).head?, isGap c = false ∧ c ≠ '#' ∧ c ≠ byteOrderMark := by
      intro c hc
      cases hc
      decide
    have hskip := skip_spaces (s := inBlock opened ⟨'\n' :: rest, mark⟩ tokens keyAllowed key)
      mark (List.forall_mem_nil (· = ' ')) hfeed
    rw [List.nil_append, Mark.past_nil] at hskip
    have hbreak : isBreak '\n' = true := by decide
    have hbelow : Cursor.skipBreak ⟨'\n' :: rest, mark⟩ = ⟨rest, mark.below '\n'⟩ := rfl
    rw [skipToToken]
    simp only [cursor_inBlock, hskip, Cursor.peek_cons, hbreak, if_true, hbelow, inFlow_inBlock,
      Bool.not_false, Bool.or_true]
    rfl
  rw [hfirst, skipToToken_of_start opened tokens true key _ fuel h]

/-- Behind the end of a line a key may start. -/
theorem skipToToken_of_endsLine (opened : Bool) (tokens : List Token) (key : Option SimpleKey)
    {rest : List Char} (hline : EndsLine cursor keyAllowed rest)
    (h : StartsToken rest) :
    ∃ mark : Mark, mark.column = 0 ∧
      skipToToken (cursor.rest.length + 1) (inBlock opened cursor tokens keyAllowed key)
        = inBlock opened ⟨rest, mark⟩ tokens true key := by
  obtain ⟨cs, mark⟩ := cursor
  -- The break is already read, or still in front.
  rcases hline with ⟨hrest, hcolumn, rfl⟩ | hrest
  · cases hrest
    exact ⟨mark, hcolumn, skipToToken_of_start opened tokens true key mark _ h⟩
  · cases hrest
    exact ⟨mark.below '\n', rfl, skipToToken_feed _ h⟩

/-! ## Section 4: Scalars -/

section
variable (opened : Bool) (tokens : List Token) (keyAllowed : Bool) (h : MayDrop key)

include h

theorem scanPlain_inBlock {result : Plain.Result}
    (hread : Plain.read false (if opened then 0 else -1) cursor = .ok result) :
    (inBlock opened cursor tokens keyAllowed key).scanPlain
      = .ok (inBlock opened result.after
          (⟨.scalar result.text .plain, cursor.mark, result.stop⟩ :: tokens) result.broken
          (saved opened cursor tokens keyAllowed key)) := by
  simp only [scanPlain, saveKey_inBlock h, bind, Except.bind, inFlow_inBlock, cursor_inBlock]
  -- The scalar is read at the indentation of the block, which `inBlock` shows.
  rw [inBlock, hread]
  rfl

theorem scanQuoted_inBlock {single : Bool} {text : List Char} {after : Cursor}
    (hread : Quoted.read single cursor = .ok (text, after)) :
    (inBlock opened cursor tokens keyAllowed key).scanQuoted single
      = .ok (inBlock opened after
          (⟨.scalar text (if single then .singleQuoted else .doubleQuoted), cursor.mark,
            after.mark⟩ :: tokens) false (saved opened cursor tokens keyAllowed key)) := by
  simp only [scanQuoted, saveKey_inBlock h, bind, Except.bind, cursor_inBlock, hread]
  rfl

theorem scanLiteral_inBlock {text : List Char} {after : Cursor}
    (hread : Block.read true 0 cursor = .ok (text, after)) :
    (inBlock true cursor tokens keyAllowed key).scanBlockScalar true
      = .ok (inBlock true after (⟨.scalar text .literal, cursor.mark, after.mark⟩ :: tokens) true
          none) := by
  -- A literal scalar is never a key, so nothing is saved for it.
  simp only [scanBlockScalar, dropKey_inBlock h, bind, Except.bind]
  rw [inBlock]
  simp only [if_true, hread]
  rfl

end

/-- A character that has no meaning of its own in front of the next one starts a plain scalar. -/
theorem scanToken_plain {c : Char} {rest : List Char} {mark : Mark}
    (hgap : isGapOrEnd c = false) (hopen : openingIndicators.contains c = false)
    (hnext : isGapOrEnd (rest.headD terminator) = true → c ≠ '-' ∧ c ≠ '?' ∧ c ≠ ':')
    (hmarker : Cursor.isDocumentMarker ⟨c :: rest, mark⟩ = false) :
    (inBlock opened ⟨c :: rest, mark⟩ tokens keyAllowed key).scanToken
      = (inBlock opened ⟨c :: rest, mark⟩ tokens keyAllowed key).scanPlain := by
  simp only [openingIndicators, List.contains_eq_mem, decide_eq_false_iff_not, List.mem_cons,
    List.not_mem_nil, or_false, not_or] at hopen
  have hend : c ≠ terminator := by
    rintro rfl
    exact absurd hgap (by decide)
  -- Both document markers are tried before a scalar is.
  have hmarkers : Cursor.isMarker ⟨c :: rest, mark⟩ '-' = false ∧
      Cursor.isMarker ⟨c :: rest, mark⟩ '.' = false := by
    simpa [Cursor.isDocumentMarker] using hmarker
  -- These three have a meaning of their own only in front of a gap.
  by_cases hsign : c = '-' ∨ c = '?' ∨ c = ':'
  · have hgapnext : isGapOrEnd (rest.headD terminator) = false := by
      rw [← Bool.not_eq_true]
      intro hnot
      obtain ⟨hdash, hquestion, hcolon⟩ := hnext hnot
      rcases hsign with rfl | rfl | rfl
      · exact hdash rfl
      · exact hquestion rfl
      · exact hcolon rfl
    have hgapnext' : isGap (rest.headD terminator) = false := by
      simp only [isGapOrEnd, Bool.or_eq_false_iff] at hgapnext
      exact hgapnext.1
    have hstarts : (inBlock opened ⟨c :: rest, mark⟩ tokens keyAllowed key).startsPlain = true := by
      rcases hsign with rfl | rfl | rfl <;>
        simp [startsPlain, hgapnext, hgapnext', -List.headD_eq_head?_getD]
    rcases hsign with rfl | rfl | rfl <;>
      simp [scanToken, hstarts, Cursor.atEnd, hmarkers, hgapnext, hend,
        -List.headD_eq_head?_getD]
  -- What is no indicator at all starts a plain scalar whatever is behind it.
  · simp only [not_or] at hsign
    have hindicator : isIndicator c = false := by
      simp [isIndicator, isFlowIndicator, hgap, hsign, hopen]
    have hstarts : (inBlock opened ⟨c :: rest, mark⟩ tokens keyAllowed key).startsPlain = true := by
      simp [startsPlain, hindicator]
    simp [scanToken, hstarts, Cursor.atEnd, hmarkers, hend, hsign, hopen]

/-- A text that may be written plainly starts like a plain scalar. -/
theorem scanToken_text {text rest : List Char} {mark : Mark} (hplain : allowsPlain text = true)
    (hne : text ≠ []) (hmarker : Cursor.isDocumentMarker ⟨text ++ rest, mark⟩ = false) :
    (inBlock opened ⟨text ++ rest, mark⟩ tokens keyAllowed key).scanToken
      = (inBlock opened ⟨text ++ rest, mark⟩ tokens keyAllowed key).scanPlain := by
  have hwritable := Plain.Writable.of_allowsPlain hplain
  simp only [allowsPlain, isMistakable, Bool.and_eq_true, Bool.not_eq_true',
    Bool.or_eq_false_iff] at hplain
  obtain ⟨_, ⟨_, hopen⟩, hmarked⟩ := hplain
  obtain ⟨c, more, rfl⟩ := List.exists_cons_of_ne_nil hne
  have hgap := hwritable.isGapOrEnd_word (List.mem_cons_self ..) (hwritable.start c rfl).1
  simp only [opensOtherwise, Bool.or_eq_false_iff] at hopen
  refine scanToken_plain hgap hopen.1 (fun hnext => ?_) hmarker
  -- A text of one character is judged as if a gap were behind it.
  have hnext' : isGapOrEnd (more.headD terminator) = true := by
    cases more with
    | nil => decide
    | cons d more => exact hnext
  rw [hnext', Bool.and_true, Bool.or_eq_false_iff, beq_eq_false_iff_ne, beq_eq_false_iff_ne]
    at hopen
  -- A dash and a question mark are refused as first characters, a colon as the end of a key.
  refine ⟨hopen.2.2, hopen.2.1, ?_⟩
  rintro rfl
  -- A colon in front of a gap would be the pair that ends a key.
  have hpair : ∃ d back, ':' :: more ++ [terminator] = [] ++ ':' :: d :: back ∧
      isGapOrEnd d = true := by
    cases more with
    | nil => exact ⟨terminator, [], rfl, by decide⟩
    | cons d more => exact ⟨d, more ++ [terminator], rfl, hnext'⟩
  obtain ⟨d, back, hsplit, hd⟩ := hpair
  rw [hasKeyEndOrComment, hsplit] at hmarked
  have hrelated := not_related_of_hasPair hmarked
  simp [hd] at hrelated

theorem startsToken_text {text : List Char} (hplain : allowsPlain text = true) (hne : text ≠ [])
    (rest : List Char) : StartsToken (text ++ rest) := by
  have hwritable := Plain.Writable.of_allowsPlain hplain
  obtain ⟨hcomment, hgap⟩ := hwritable.head_append hne rest
  obtain ⟨c, more, rfl⟩ := List.exists_cons_of_ne_nil hne
  intro d hd
  cases hd
  refine ⟨(hgap c rfl).1, (hgap c rfl).2, hcomment, ?_⟩
  -- A byte order mark is not printable, so no plain text has one.
  rintro rfl
  exact absurd (hwritable.inline byteOrderMark (by simp)).1 (by decide)

/-- A quote starts a quoted scalar. -/
theorem scanToken_quote (single : Bool) (rest : List Char) (mark : Mark) :
    (inBlock opened ⟨Quoted.quoteOf single :: rest, mark⟩ tokens keyAllowed key).scanToken
      = (inBlock opened ⟨Quoted.quoteOf single :: rest, mark⟩ tokens keyAllowed
          key).scanQuoted single := by
  have hend : '\'' ≠ terminator ∧ '"' ≠ terminator := by decide
  cases single <;> simp [scanToken, Quoted.quoteOf, Cursor.atEnd, Cursor.isMarker, hend]

theorem startsToken_quote (single : Bool) (rest : List Char) :
    StartsToken (Quoted.quoteOf single :: rest) :=
  startsToken_cons (by cases single <;> decide) rest

/-! ## Section 5: Keys -/

/-- A text that can be written in some form on one line. -/
inductive FitsLine : ScalarStyle → List Char → Prop where
  | plain {text : List Char} (plain : allowsPlain text = true) (ne_nil : text ≠ []) :
      FitsLine .plain text
  | single {text : List Char} (quoted : Quoted.Quotable true text)
      (unbroken : ∀ c ∈ text, isBreak c = false) : FitsLine .singleQuoted text
  | double (text : List Char) : FitsLine .doubleQuoted text

/-- A text that can be a key on the line of its colon. -/
structure IsKey (style : ScalarStyle) (text : List Char) : Prop where
  fits : FitsLine style text
  short : (Text.Utf8.encode (scalarIn style text)).length ≤ maxKey

theorem scalarIn_single (text rest : List Char) :
    scalarIn .singleQuoted text ++ rest
      = Quoted.quoteOf true :: (Quoted.inner true text ++ Quoted.quoteOf true :: rest) := by
  simp [scalarIn, singleQuoted, Quoted.quoteOf, Quoted.inner]

theorem scalarIn_double (text rest : List Char) :
    scalarIn .doubleQuoted text ++ rest
      = Quoted.quoteOf false :: (Quoted.inner false text ++ Quoted.quoteOf false :: rest) := by
  simp [scalarIn, doubleQuoted, Quoted.quoteOf, Quoted.inner]

namespace FitsLine

variable {style : ScalarStyle} {text : List Char}

theorem startsToken (h : FitsLine style text) (rest : List Char) :
    StartsToken (scalarIn style text ++ rest) := by
  cases h with
  | plain plain ne_nil => exact startsToken_text plain ne_nil rest
  | single _ _ =>
    rw [scalarIn_single]
    exact startsToken_quote true _
  | double =>
    rw [scalarIn_double]
    exact startsToken_quote false _

theorem scalarIn_ne_nil (h : FitsLine style text) : scalarIn style text ≠ [] := by
  cases h with
  | plain _ ne_nil => exact ne_nil
  | single _ _ => exact List.cons_ne_nil _ _
  | double => exact List.cons_ne_nil _ _

end FitsLine

/-- What stands in quotes on one line is read, and may be a key. -/
theorem scanToken_quoted {single : Bool} {text : List Char} (opened : Bool) (tokens : List Token)
    (keyAllowed : Bool) (rest : List Char) (mark : Mark) (hquoted : Quoted.Quotable single text)
    (hline : Quoted.OnOneLine single text) (hrest : rest.headD terminator ≠ '\'')
    (hkey : MayDrop key) :
    (inBlock opened ⟨Quoted.quoteOf single :: (Quoted.inner single text
        ++ Quoted.quoteOf single :: rest), mark⟩ tokens keyAllowed key).scanToken
      = .ok (inBlock opened
          ⟨rest, mark.past (Quoted.quoteOf single :: (Quoted.inner single text
            ++ [Quoted.quoteOf single]))⟩
          (⟨.scalar text (if single then .singleQuoted else .doubleQuoted), mark,
            mark.past (Quoted.quoteOf single :: (Quoted.inner single text
              ++ [Quoted.quoteOf single]))⟩ :: tokens) false
          (saved opened ⟨Quoted.quoteOf single :: (Quoted.inner single text
            ++ Quoted.quoteOf single :: rest), mark⟩ tokens keyAllowed key)) := by
  obtain ⟨after, hafter, hread⟩ := Quoted.read_inner mark hquoted hrest
  -- On one line the mark behind the quotes is a matter of counting.
  rw [hafter hline] at hread
  rw [scanToken_quote]
  exact scanQuoted_inBlock opened tokens keyAllowed hkey hread

/-- A key at the start of a line is read, and waits for its colon. -/
theorem scanToken_key {style : ScalarStyle} {text rest : List Char} {mark : Mark} (opened : Bool)
    (tokens : List Token) (h : FitsLine style text) (hcolumn : mark.column = 0)
    (hkey : MayDrop key) (hrest : isGapOrEnd (rest.headD terminator) = true) :
    (inBlock opened ⟨scalarIn style text ++ ':' :: rest, mark⟩ tokens true key).scanToken
      = .ok (inBlock opened ⟨':' :: rest, mark.past (scalarIn style text)⟩
          (⟨.scalar text style, mark, mark.past (scalarIn style text)⟩ :: tokens) false
          (some ⟨opened, tokens.length, mark⟩)) := by
  -- In the first column the text must be a key exactly if the mapping has started there.
  have hsaved : ∀ cs, saved opened ⟨cs, mark⟩ tokens true key
      = some ⟨opened, tokens.length, mark⟩ := by
    intro cs
    cases opened <;> simp [saved, hcolumn]
  -- A quote behind a quoted key would belong to it.
  have hcolon : (':' :: rest).headD terminator ≠ '\'' := by
    show ':' ≠ '\''
    decide
  cases h with
  | plain plain ne_nil =>
    have houter : (if opened then (0 : Int) else -1) ≤ 0 := by cases opened <;> decide
    have hread := Plain.read_key mark houter plain ne_nil hrest
    have hmarker := Plain.isDocumentMarker_of_allowsPlain plain rest mark
    -- A plain key ends at the colon, and only there.
    show (inBlock opened ⟨text ++ ':' :: rest, mark⟩ tokens true key).scanToken = _
    rw [scanToken_text plain ne_nil hmarker, scanPlain_inBlock opened tokens true hkey hread,
      hsaved]
    rfl
  | single quoted unbroken =>
    have hscan := scanToken_quoted opened tokens true (':' :: rest) mark quoted
      (fun _ => unbroken) hcolon hkey
    rw [← scalarIn_single, hsaved] at hscan
    exact hscan
  | double =>
    have hscan := scanToken_quoted opened tokens true (':' :: rest) mark (.double text) nofun
      hcolon hkey
    rw [← scalarIn_double, hsaved] at hscan
    exact hscan

theorem next_key (opened : Bool) (tokens : List Token) {style : ScalarStyle}
    {text rest : List Char} (h : IsKey style text)
    (hline : EndsLine cursor keyAllowed (scalarIn style text ++ ':' :: rest)) (hkey : MayDrop key)
    (hrest : isGapOrEnd (rest.headD terminator) = true) :
    ∃ mark : Mark, mark.column = 0 ∧
      (inBlock opened cursor tokens keyAllowed key).next
        = .ok (inBlock opened ⟨':' :: rest, mark.past (scalarIn style text)⟩
            (⟨.scalar text style, mark, mark.past (scalarIn style text)⟩ :: tokens) false
            (some ⟨opened, tokens.length, mark⟩)) := by
  obtain ⟨mark, hcolumn, hskip⟩ := skipToToken_of_endsLine opened tokens key hline
    (h.fits.startsToken _)
  obtain ⟨key', hkey', hnext⟩ := next_inBlock hskip hkey
  refine ⟨mark, hcolumn, ?_⟩
  rw [hnext, scanToken_key opened tokens h.fits hcolumn hkey' hrest]
  -- The colon is on the line of the key and near enough.
  refine dropStale_of_fresh (Mark.line_past mark _).symm ?_
  have hshort := h.short
  simp only [Mark.past]
  omega

/-- The colon behind a word makes it a key.  In front of the first one a mapping starts. -/
theorem next_colon (opened : Bool) (tokens : List Token) (token : Token) {rest : List Char}
    {mark stop : Mark} (hcolumn : mark.column = 0) (hline : mark.line = stop.line)
    (hindex : stop.index ≤ mark.index + maxKey)
    (hrest : isGapOrEnd (rest.headD terminator) = true) :
    (inBlock opened ⟨':' :: rest, stop⟩ (token :: tokens) false
        (some ⟨opened, tokens.length, mark⟩)).next
      = .ok (inBlock true ⟨rest, stop.past [':']⟩
          (⟨.value, stop, stop.past [':']⟩ :: token :: ⟨.key, mark, mark⟩
            :: (if opened then tokens else ⟨.blockMappingStart, mark, mark⟩ :: tokens))
          false none) := by
  have hstart : StartsToken (':' :: rest) := startsToken_cons (by decide) rest
  have hskip := skipToToken_of_start opened (token :: tokens) false
    (some ⟨opened, tokens.length, mark⟩) stop (':' :: rest).length hstart
  -- The key is on this line and near enough, so the colon still finds it.
  have hdrop : (inBlock opened ⟨':' :: rest, stop⟩ (token :: tokens) false
      (some ⟨opened, tokens.length, mark⟩)).dropStale = .ok _ :=
    dropStale_of_fresh hline hindex
  have hscan : (inBlock opened ⟨':' :: rest, stop⟩ (token :: tokens) false
      (some ⟨opened, tokens.length, mark⟩)).scanToken
        = (inBlock opened ⟨':' :: rest, stop⟩ (token :: tokens) false
            (some ⟨opened, tokens.length, mark⟩)).scanValue := by
    have hend : ':' ≠ terminator := by decide
    simp [scanToken, Cursor.atEnd, Cursor.isMarker, hend, hrest, -List.headD_eq_head?_getD]
  have hvalue : (inBlock opened ⟨':' :: rest, stop⟩ (token :: tokens) false
      (some ⟨opened, tokens.length, mark⟩)).scanValue
        = .ok (inBlock true ⟨rest, stop.past [':']⟩
            (⟨.value, stop, stop.past [':']⟩ :: token :: ⟨.key, mark, mark⟩
              :: (if opened then tokens else ⟨.blockMappingStart, mark, mark⟩ :: tokens))
            false none) := by
    -- The tokens are put in front of the word and, before that, in front of the key.
    have hbefore : tokens.length + 1 + 1 - tokens.length = 2 := by omega
    cases opened <;>
      simp [scanValue, inBlock, pushAt, openBlock, inFlow, count, allowKey, pushIndicator, push,
        Scanner.mark, Cursor.skip_cons, hcolumn, hbefore]
  simp only [Scanner.next, cursor_inBlock, mark_inBlock, hskip, hdrop, closeBlocks_inBlock, hscan,
    hvalue, bind, Except.bind]
  rfl

/-! ## Section 6: Keys behind a question mark -/

theorem column_past_space (mark : Mark) : 0 < (mark.past [' ']).column := by
  rw [Mark.column_past]
  exact Nat.succ_pos _

/-- A question mark at the start of a line is read.  In front of the first key a mapping starts. -/
theorem next_question (opened : Bool) (tokens : List Token) {rest : List Char}
    (hline : EndsLine cursor keyAllowed ('?' :: ' ' :: rest)) (hkey : MayDrop key) :
    ∃ mark : Mark, (inBlock opened cursor tokens keyAllowed key).next
      = .ok (inBlock true ⟨' ' :: rest, mark.past ['?']⟩
          (⟨.key, mark, mark.past ['?']⟩
            :: (if opened then tokens else ⟨.blockMappingStart, mark, mark⟩ :: tokens)) true
          none) := by
  have hstart : StartsToken ('?' :: ' ' :: rest) := startsToken_cons (by decide) _
  obtain ⟨mark, hcolumn, hskip⟩ := skipToToken_of_endsLine opened tokens key hline hstart
  obtain ⟨key', hkey', hnext⟩ := next_inBlock hskip hkey
  have htoken : (inBlock opened ⟨'?' :: ' ' :: rest, mark⟩ tokens true key').scanToken
      = (inBlock opened ⟨'?' :: ' ' :: rest, mark⟩ tokens true key').scanKey := by
    have hend : '?' ≠ terminator := by decide
    have hspace : isGapOrEnd ' ' = true := by decide
    simp [scanToken, Cursor.atEnd, Cursor.isMarker, hend, hspace]
  -- In the first column the mark opens a mapping, unless one is open already.
  have hblock : (inBlock opened ⟨'?' :: ' ' :: rest, mark⟩ tokens true key').blockIndicator
      .blockMappingStart "mapping keys are not allowed in this context"
        = .ok (inBlock true ⟨'?' :: ' ' :: rest, mark⟩
            (if opened then tokens else ⟨.blockMappingStart, mark, mark⟩ :: tokens) true key') := by
    cases opened <;>
      simp [blockIndicator, openBlock, inBlock, inFlow, pushAt, count, Scanner.mark, hcolumn]
  refine ⟨mark, ?_⟩
  rw [hnext, htoken, scanKey, hblock]
  simp only [bind, Except.bind, dropKey_inBlock hkey']
  rfl

/-- A text in double quotes behind a question mark is read.  It could still be a key of its own, if
a colon came on the same line. -/
theorem next_quoted (tokens : List Token) (text rest : List Char) (mark : Mark) :
    ∃ (token : Token) (stop : Mark) (key : Option SimpleKey),
      token.kind = .scalar text .doubleQuoted ∧ MayDrop key ∧ (∀ k ∈ key, k.mark.line = stop.line) ∧
        (inBlock true ⟨' ' :: (scalarIn .doubleQuoted text ++ '\n' :: rest), mark⟩ tokens true
            none).next
          = .ok (inBlock true ⟨'\n' :: rest, stop⟩ (token :: tokens) false key) := by
  have hfeed : ('\n' :: rest).headD terminator ≠ '\'' := by
    show '\n' ≠ '\''
    decide
  have hskip := skipToToken_space true tokens true none mark
    (' ' :: (scalarIn .doubleQuoted text ++ '\n' :: rest)).length
    ((FitsLine.double text).startsToken ('\n' :: rest))
  obtain ⟨key, hkey, hnext⟩ := next_inBlock hskip mayDrop_none
  have hscan := scanToken_quoted true tokens true ('\n' :: rest) (mark.past [' ']) (.double text)
    nofun hfeed hkey
  rw [← scalarIn_double] at hscan
  rw [hscan] at hnext
  -- What was saved stands on the line of the text, whether it is waited for or not.
  have hsaved : MayDrop (saved true ⟨scalarIn .doubleQuoted text ++ '\n' :: rest, mark.past [' ']⟩
      tokens true key) := mayDrop_saved hkey (column_past_space mark)
  -- Behind the text it is waited for, or given up as too long.
  obtain ⟨last, hlast, hdrop⟩ := dropStale_cases true _ _ false hsaved
  rcases hlast with rfl | rfl
  · refine ⟨_, _, _, rfl, hsaved, fun k hk => ?_, hnext.trans hdrop⟩
    cases hk
    rfl
  · exact ⟨_, _, none, rfl, mayDrop_none, nofun, hnext.trans hdrop⟩

/-- The colon on the line below a key is read. -/
theorem next_colon_below (tokens : List Token) {rest : List Char} {stop : Mark}
    (hkey : MayDrop key) (hline : ∀ k ∈ key, k.mark.line = stop.line)
    (hrest : isGapOrEnd (rest.headD terminator) = true) :
    ∃ (token : Token) (mark : Mark), token.kind = .value ∧
      (inBlock true ⟨'\n' :: ':' :: rest, stop⟩ tokens false key).next
        = .ok (inBlock true ⟨rest, mark⟩ (token :: tokens) true none) := by
  have hstart : StartsToken (':' :: rest) := startsToken_cons (by decide) _
  have hskip : skipToToken ((':' :: rest).length + 2)
      (inBlock true ⟨'\n' :: ':' :: rest, stop⟩ tokens false key)
        = inBlock true ⟨':' :: rest, stop.below '\n'⟩ tokens true key := skipToToken_feed _ hstart
  -- A key of its own would have had its colon on the line above.
  have hdrop : (inBlock true ⟨':' :: rest, stop.below '\n'⟩ tokens true key).dropStale
      = .ok (inBlock true ⟨':' :: rest, stop.below '\n'⟩ tokens true none) := by
    refine dropStale_below true tokens true hkey fun k hk => ?_
    rw [hline k hk]
    exact Nat.lt_succ_self _
  have htoken : (inBlock true ⟨':' :: rest, stop.below '\n'⟩ tokens true none).scanToken
      = (inBlock true ⟨':' :: rest, stop.below '\n'⟩ tokens true none).scanValue := by
    have hend : ':' ≠ terminator := by decide
    simp [scanToken, Cursor.atEnd, Cursor.isMarker, hend, hrest, -List.headD_eq_head?_getD]
  have hvalue : (inBlock true ⟨':' :: rest, stop.below '\n'⟩ tokens true none).scanValue
      = .ok (inBlock true ⟨rest, (stop.below '\n').past [':']⟩
          (⟨.value, stop.below '\n', (stop.below '\n').past [':']⟩ :: tokens) true none) := by
    simp [scanValue, inBlock, blockIndicator, openBlock, inFlow, allowKey, pushIndicator, push,
      Scanner.mark, Cursor.skip_cons, Mark.column_below, bind, Except.bind, pure, Except.pure]
  refine ⟨⟨.value, stop.below '\n', (stop.below '\n').past [':']⟩,
    (stop.below '\n').past [':'], rfl, ?_⟩
  simp only [Scanner.next, cursor_inBlock]
  rw [List.length_cons, hskip]
  simp only [hdrop, closeBlocks_inBlock, htoken, hvalue, bind, Except.bind, mark_inBlock]
  rfl

/-! ## Section 7: Lines -/

/-- What a step reads in front of the rest of the text: a token, and the end of its line, or
all up to there. -/
def ReadsLine (s : Scanner) (tokens : List Token) (kind : TokenKind) (rest : List Char) : Prop :=
  ∃ (cursor : Cursor) (token : Token) (keyAllowed : Bool) (key : Option SimpleKey),
    s.next = .ok (inBlock true cursor (token :: tokens) keyAllowed key) ∧ token.kind = kind ∧
      EndsLine cursor keyAllowed rest ∧ MayDrop key

/-- A scalar behind a space is read, if its token is. -/
theorem readsLine_of_scanToken {text rest : List Char} {mark : Mark} {kind : TokenKind}
    (hkey : MayDrop key) (hstart : StartsToken text)
    (hscan : ∀ key, MayDrop key → ∃ (cursor : Cursor) (token : Token) (allowed : Bool)
      (key' : Option SimpleKey),
      (inBlock true ⟨text, mark.past [' ']⟩ tokens keyAllowed key).scanToken
        = .ok (inBlock true cursor (token :: tokens) allowed key') ∧ token.kind = kind ∧
          EndsLine cursor allowed rest ∧ MayDrop key') :
    ReadsLine (inBlock true ⟨' ' :: text, mark⟩ tokens keyAllowed key) tokens kind rest := by
  have hskip := skipToToken_space true tokens keyAllowed key mark (' ' :: text).length hstart
  obtain ⟨key', hkey', hnext⟩ := next_inBlock hskip hkey
  obtain ⟨cursor, token, allowed, after, hread, hkind, hends, hafter⟩ := hscan key' hkey'
  -- What may be a key may become too late for one with the token that is read.
  obtain ⟨last, hlast, hdrop⟩ := dropStale_inBlock true cursor (token :: tokens) allowed hafter
  refine ⟨cursor, token, allowed, last, ?_, hkind, hends, hlast⟩
  rw [hnext, hread]
  exact hdrop

variable {text rest : List Char} {mark : Mark}

/-- What may be written plainly is read as a plain scalar. -/
theorem readsLine_plain (hplain : allowsPlain text = true) (hne : text ≠ []) (hkey : MayDrop key)
    (hrest : StartsToken rest) :
    ReadsLine (inBlock true ⟨' ' :: (text ++ '\n' :: rest), mark⟩ tokens keyAllowed key) tokens
      (.scalar text .plain) rest := by
  have hcolumn := column_past_space mark
  have hread := Plain.read_text (.of_allowsPlain hplain) hne hcolumn
    fun c hc => ⟨(hrest c hc).1, (hrest c hc).2.1⟩
  have hmarker : Cursor.isDocumentMarker ⟨text ++ '\n' :: rest, mark.past [' ']⟩ = false :=
    Cursor.isDocumentMarker_of_column hcolumn
  refine readsLine_of_scanToken hkey (startsToken_text hplain hne _) fun key hkey => ?_
  have hscan := scanPlain_inBlock true tokens keyAllowed hkey hread
  rw [← scanToken_text hplain hne hmarker] at hscan
  -- The break behind a plain scalar is read with it.
  exact ⟨_, _, _, _, hscan, rfl, .inl ⟨rfl, Mark.column_below _ _, rfl⟩,
    mayDrop_saved hkey hcolumn⟩

/-- What stands in quotes is read as a quoted scalar. -/
theorem readsLine_quoted {single : Bool} (hquoted : Quoted.Quotable single text)
    (hkey : MayDrop key) :
    ReadsLine
      (inBlock true ⟨' ' :: Quoted.quoteOf single :: (Quoted.inner single text
        ++ Quoted.quoteOf single :: '\n' :: rest), mark⟩ tokens keyAllowed key) tokens
      (.scalar text (if single then .singleQuoted else .doubleQuoted)) rest := by
  have hfeed : ('\n' :: rest).headD terminator ≠ '\'' := by
    show '\n' ≠ '\''
    decide
  obtain ⟨after, _, hread⟩ := Quoted.read_inner (mark.past [' ']) hquoted hfeed
  refine readsLine_of_scanToken hkey (startsToken_quote single _) fun key hkey => ?_
  have hscan := scanQuoted_inBlock true tokens keyAllowed hkey hread
  rw [← scanToken_quote] at hscan
  -- Behind quotes the break is left for the next step.
  exact ⟨_, _, _, _, hscan, rfl, .inr rfl, mayDrop_saved hkey (column_past_space mark)⟩

/-- What may be written as lines is read as a literal scalar. -/
theorem readsLine_literal (hprint : ∀ c ∈ text, isPrintable c = true) (hne : text ≠ [])
    (hkey : MayDrop key) (hrest : StartsToken rest) :
    ReadsLine
      (inBlock true ⟨' ' :: (literal text ++ (Block.closing text ++ rest)), mark⟩ tokens keyAllowed
        key) tokens (.scalar text .literal) rest := by
  obtain ⟨after, hafter, hread⟩ := Block.read_literal (mark.past [' ']) hprint hne
    fun c hc => ⟨(hrest c hc).1, (hrest c hc).2.1⟩
  have hstart : StartsToken (literal text ++ (Block.closing text ++ rest)) :=
    startsToken_cons (by decide) _
  refine readsLine_of_scanToken hkey hstart fun key hkey => ?_
  -- A bar has no other meaning, whatever is behind it.
  have htoken : ∀ rest, (inBlock true ⟨'|' :: rest, mark.past [' ']⟩ tokens keyAllowed
      key).scanToken
        = (inBlock true ⟨'|' :: rest, mark.past [' ']⟩ tokens keyAllowed
            key).scanBlockScalar true := by
    have hend : '|' ≠ terminator := by decide
    intro rest
    simp [scanToken, Cursor.atEnd, Cursor.isMarker, hend]
  have hscan := scanLiteral_inBlock tokens keyAllowed hkey hread
  rw [literal, List.cons_append, List.cons_append, List.cons_append, ← htoken] at hscan
  -- All lines of the text are read with it, and what was waited for is given up.
  exact ⟨_, _, _, _, hscan, rfl, .inl ⟨rfl, hafter, rfl⟩, mayDrop_none⟩

/-- What fits on a line is read as a scalar of its form. -/
theorem readsLine_scalarIn {style : ScalarStyle} (h : FitsLine style text) (hkey : MayDrop key)
    (hrest : StartsToken rest) :
    ReadsLine (inBlock true ⟨' ' :: (scalarIn style text ++ '\n' :: rest), mark⟩ tokens keyAllowed
      key) tokens (.scalar text style) rest := by
  cases h with
  | plain plain ne_nil => exact readsLine_plain plain ne_nil hkey hrest
  | single quoted _ =>
    rw [scalarIn_single]
    exact readsLine_quoted quoted hkey
  | double =>
    rw [scalarIn_double]
    exact readsLine_quoted (.double text) hkey

/-- Whatever its form is, a text is read as a scalar. -/
theorem readsLine_scalarLine (text : List Char) (hkey : MayDrop key) (hrest : StartsToken rest) :
    ReadsLine (inBlock true ⟨' ' :: (scalarLine text ++ rest), mark⟩ tokens keyAllowed key) tokens
      (.scalar text (formOf text)) rest := by
  -- Each form ends its line in its own way.
  rcases formOf_cases text with
    ⟨hform, hne, hprint⟩ | ⟨hform, hplain, htext⟩ | ⟨hform, hquoted⟩ | hform
  · have hline : scalarLine text ++ rest = literal text ++ (Block.closing text ++ rest) := by
      simp [scalarLine, lineIn, hform, Block.closing]
    rw [hline, hform]
    exact readsLine_literal hprint hne hkey hrest
  · have hline : scalarLine text ++ rest = scalarIn .plain text ++ '\n' :: rest := by
      simp [scalarLine, lineIn, hform]
    rw [hline, hform]
    exact readsLine_scalarIn (.plain hplain (ne_nil_of_ofText htext)) hkey hrest
  · have hline : scalarLine text ++ rest = Quoted.quoteOf true :: (Quoted.inner true text
        ++ Quoted.quoteOf true :: '\n' :: rest) := by
      rw [← scalarIn_single]
      simp [scalarLine, lineIn, hform]
    rw [hline, hform]
    exact readsLine_quoted hquoted hkey
  · have hline : scalarLine text ++ rest = scalarIn .doubleQuoted text ++ '\n' :: rest := by
      simp [scalarLine, lineIn, hform]
    rw [hline, hform]
    exact readsLine_scalarIn (.double text) hkey hrest

/-! ## Section 8: Lists -/

/-- The scanner behind an opening bracket. -/
def inBrackets (cursor : Cursor) (tokens : List Token) : Scanner :=
  { inBlock true cursor tokens true none with flow := 1, keys := [none, none] }

/-- An opening bracket behind a space is read. -/
theorem next_open (mark : Mark) (tokens : List Token) (rest : List Char) :
    (inBlock true ⟨' ' :: '[' :: rest, mark⟩ tokens false none).next
      = .ok (inBrackets ⟨rest, (mark.past [' ']).past ['[']⟩
          (⟨.flowSequenceStart, mark.past [' '], (mark.past [' ']).past ['[']⟩ :: tokens)) := by
  have hstart : StartsToken ('[' :: rest) := startsToken_cons (by decide) rest
  have hskip := skipToToken_space true tokens false none mark (' ' :: '[' :: rest).length hstart
  -- Behind a colon no key is waited for, and none may start.
  have hdrop : ∀ cursor, (inBlock true cursor tokens false none).dropStale
      = .ok (inBlock true cursor tokens false none) := fun _ => rfl
  have htoken : (inBlock true ⟨'[' :: rest, mark.past [' ']⟩ tokens false none).scanToken
      = (inBlock true ⟨'[' :: rest, mark.past [' ']⟩ tokens false none).scanFlowStart
          .flowSequenceStart := by
    have hend : '[' ≠ terminator := by decide
    simp [scanToken, Cursor.atEnd, Cursor.isMarker, hend]
  simp only [Scanner.next, cursor_inBlock, mark_inBlock, hskip, hdrop, closeBlocks_inBlock, htoken,
    bind, Except.bind]
  rfl

/-- The closing bracket right behind it is read. -/
theorem next_close (mark : Mark) (tokens : List Token) (rest : List Char) :
    (inBrackets ⟨']' :: rest, mark⟩ tokens).next
      = .ok (inBlock true ⟨rest, mark.past [']']⟩
          (⟨.flowSequenceEnd, mark, mark.past [']']⟩ :: tokens) false none) := by
  have hbracket : ∀ c ∈ (']' :: rest).head?, isGap c = false ∧ c ≠ '#' ∧ c ≠ byteOrderMark := by
    intro c hc
    cases hc
    decide
  have hspaces := skip_spaces (s := inBrackets ⟨']' :: rest, mark⟩ tokens) mark
    (List.forall_mem_nil (· = ' ')) hbracket
  rw [List.nil_append, Mark.past_nil] at hspaces
  have hcursor : (inBrackets ⟨']' :: rest, mark⟩ tokens).cursor = ⟨']' :: rest, mark⟩ := rfl
  -- Here the scanner is inside brackets, so the lemmas for a block do not apply.
  have hskip : skipToToken ((']' :: rest).length + 1) (inBrackets ⟨']' :: rest, mark⟩ tokens)
      = inBrackets ⟨']' :: rest, mark⟩ tokens := by
    have hbreak : isBreak ']' = false := by decide
    simp only [skipToToken, hcursor, hspaces, Cursor.peek_cons, hbreak, Bool.false_eq_true,
      if_false]
    rfl
  have hdrop : (inBrackets ⟨']' :: rest, mark⟩ tokens).dropStale
      = .ok (inBrackets ⟨']' :: rest, mark⟩ tokens) := rfl
  have hclose : ∀ column, (inBrackets ⟨']' :: rest, mark⟩ tokens).closeBlocks column
      = inBrackets ⟨']' :: rest, mark⟩ tokens := fun _ => rfl
  have htoken : (inBrackets ⟨']' :: rest, mark⟩ tokens).scanToken
      = (inBrackets ⟨']' :: rest, mark⟩ tokens).scanFlowEnd .flowSequenceEnd := by
    have hend : ']' ≠ terminator := by decide
    simp [scanToken, hcursor, Cursor.atEnd, Cursor.isMarker, hend]
  simp only [Scanner.next, hcursor, hskip, hdrop, hclose, htoken, bind, Except.bind]
  rfl

/-- A dash at the start of a line is read. -/
theorem next_dash (tokens : List Token) (hline : EndsLine cursor keyAllowed ('-' :: ' ' :: rest))
    (hkey : MayDrop key) :
    ∃ (token : Token) (mark : Mark), token.kind = .blockEntry ∧
      (inBlock true cursor tokens keyAllowed key).next
        = .ok (inBlock true ⟨' ' :: rest, mark⟩ (token :: tokens) true none) := by
  have hstart : StartsToken ('-' :: ' ' :: rest) := startsToken_cons (by decide) _
  obtain ⟨mark, hcolumn, hskip⟩ := skipToToken_of_endsLine true tokens key hline hstart
  obtain ⟨key', hkey', hnext⟩ := next_inBlock hskip hkey
  have htoken : (inBlock true ⟨'-' :: ' ' :: rest, mark⟩ tokens true key').scanToken
      = (inBlock true ⟨'-' :: ' ' :: rest, mark⟩ tokens true key').scanBlockEntry := by
    have hend : '-' ≠ terminator := by decide
    have hspace : isGapOrEnd ' ' = true := by decide
    simp [scanToken, Cursor.atEnd, Cursor.isMarker, hend, hspace]
  -- A list at a key may stand in the column of the key, and then opens no block of its own.
  have hblock : (inBlock true ⟨'-' :: ' ' :: rest, mark⟩ tokens true key').blockIndicator
      .blockSequenceStart "block sequence entries are not allowed in this context"
        = .ok (inBlock true ⟨'-' :: ' ' :: rest, mark⟩ tokens true key') := by
    simp [blockIndicator, openBlock, inBlock, inFlow, Scanner.mark, hcolumn]
  refine ⟨⟨.blockEntry, mark, mark.past ['-']⟩, mark.past ['-'], rfl, ?_⟩
  rw [hnext, htoken, scanBlockEntry, hblock]
  simp only [bind, Except.bind, dropKey_inBlock hkey']
  rfl

/-! ## Section 9: The end -/

/-- At the end of the text the mapping ends, and so does everything. -/
theorem next_end (tokens : List Token) (hline : EndsLine cursor keyAllowed [])
    (hkey : MayDrop key) :
    ∃ (s : Scanner) (first second : Token), first.kind = .blockEnd ∧ second.kind = .streamEnd ∧
      s.tokens = second :: first :: tokens ∧
      (inBlock true cursor tokens keyAllowed key).next = .ok s := by
  obtain ⟨mark, hcolumn, hskip⟩ := skipToToken_of_endsLine true tokens key hline
    (fun c hc => nomatch hc)
  obtain ⟨key', hkey', hnext⟩ := next_inBlock hskip hkey
  -- Everything is indented more than the end of the text.
  have hclose : (inBlock true ⟨[], mark⟩ tokens true key').closeBlocks (-1)
      = inBlock false ⟨[], mark⟩ (⟨.blockEnd, mark, mark⟩ :: tokens) true key' := rfl
  have htoken : (inBlock true ⟨[], mark⟩ tokens true key').scanToken
      = (inBlock true ⟨[], mark⟩ tokens true key').scanEnd := rfl
  have hscan : (inBlock true ⟨[], mark⟩ tokens true key').scanEnd
      = .ok (inBlock false ⟨[], mark⟩
          (⟨.streamEnd, mark, mark⟩ :: ⟨.blockEnd, mark, mark⟩ :: tokens) false none) := by
    have hsame : ({ inBlock true ⟨[], mark⟩ tokens true key' with cursor := ⟨[], mark⟩ } : Scanner)
        = inBlock true ⟨[], mark⟩ tokens true key' := rfl
    simp only [scanEnd, mark_inBlock, cursor_inBlock, hcolumn, if_true]
    rw [hsame, hclose, dropKey_inBlock hkey']
    rfl
  refine ⟨inBlock false ⟨[], mark⟩
    (⟨.streamEnd, mark, mark⟩ :: ⟨.blockEnd, mark, mark⟩ :: tokens) false none,
    ⟨.blockEnd, mark, mark⟩, ⟨.streamEnd, mark, mark⟩, rfl, rfl, rfl, ?_⟩
  rw [hnext, htoken, hscan]
  rfl

end Scanner

end ChangeLint.Yaml
