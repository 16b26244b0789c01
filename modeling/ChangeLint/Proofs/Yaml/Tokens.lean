import ChangeLint.Proofs.Yaml.Scanning

/-! # The tokens of a written mapping

A run of the scanner is followed through the entries of a mapping, one step at a time.  Each
step takes something away from the text, so that the scanner reaches the end of it.

* An `Entry` has its key and its content in any of several forms, and `Entry.tokens` says which
  tokens stand for it.
* `scans_entry` is the run through an entry, and `scans_entries` the one through all of them.
* `ofText_entries` gives the tokens of the whole text. -/

namespace ChangeLint.Yaml

/-! ## Section 1: Runs -/

namespace Scanner

/-- The scanner reads tokens one after the other, and the text becomes shorter each time. -/
inductive Scans : Scanner → Scanner → Prop where
  | refl (s : Scanner) : Scans s s
  | step {s t u : Scanner} (next : s.next = .ok t) (more : t.isDone = false)
      (shorter : t.cursor.rest.length < s.cursor.rest.length) (run : Scans t u) : Scans s u

/-- A step is made as long as there is fuel. -/
theorem scan_succ (fuel : Nat) (s : Scanner) :
    TokenStream.scan (fuel + 1) s = match s.next with
      | .error fault => ⟨s.decidedTokens, some fault⟩
      | .ok s => if s.isDone then ⟨s.tokens.reverse, none⟩ else TokenStream.scan fuel s := by
  -- Unfolding by the equations of `scan` would evaluate the step.
  delta TokenStream.scan
  rfl

namespace Scans

theorem trans {s t u : Scanner} (first : Scans s t) (second : Scans t u) : Scans s u := by
  induction first with
  | refl _ => exact second
  | step next more shorter _ ih => exact .step next more shorter (ih second)

/-- Nothing is lost on the way: with enough fuel the rest is scanned from where a run ends. -/
theorem scan_eq {s t : Scanner} (run : Scans s t) :
    ∀ fuel, s.cursor.rest.length < fuel →
      ∃ fuel', t.cursor.rest.length < fuel' ∧
        TokenStream.scan fuel s = TokenStream.scan fuel' t := by
  -- Each step takes one of the fuel and at least one character of the text.
  induction run with
  | refl s =>
    intro fuel hfuel
    exact ⟨fuel, hfuel, rfl⟩
  | @step s t u next more shorter _ ih =>
    intro fuel hfuel
    obtain ⟨fuel, rfl⟩ : ∃ n, fuel = n + 1 := ⟨fuel - 1, by omega⟩
    obtain ⟨fuel', hfuel', hscan⟩ := ih fuel (by omega)
    refine ⟨fuel', hfuel', ?_⟩
    rw [scan_succ, next]
    simp only [more, Bool.false_eq_true, if_false, hscan]

end Scans

/-! ## Section 2: Places -/

/-- Between two lines of a mapping, some tokens have been read, and some text follows. -/
def AtLine (opened : Bool) (kinds : List TokenKind) (rest : List Char) (s : Scanner) : Prop :=
  ∃ (cursor : Cursor) (tokens : List Token) (keyAllowed : Bool) (key : Option SimpleKey),
    s = inBlock opened cursor tokens keyAllowed key ∧ tokens.reverse.map Token.kind = kinds ∧
      EndsLine cursor keyAllowed rest ∧ MayDrop key

/-- On a line of a mapping, in front of a value or an element. -/
def OnLine (keyAllowed : Bool) (kinds : List TokenKind) (rest : List Char) (s : Scanner) : Prop :=
  ∃ (mark : Mark) (tokens : List Token),
    s = inBlock true ⟨rest, mark⟩ tokens keyAllowed none ∧
      tokens.reverse.map Token.kind = kinds

theorem isDone_of_kind {s : Scanner} {token : Token} {tokens : List Token}
    (hs : s.tokens = token :: tokens) (h : token.kind ≠ .streamEnd) : s.isDone = false := by
  obtain ⟨kind, start, stop⟩ := token
  unfold isDone
  rw [hs]
  -- Only the end of the stream, read last, ends the scan.
  split
  case h_1 hcons =>
    cases hcons
    exact absurd rfl h
  case h_2 => rfl

theorem length_of_endsLine {cursor : Cursor} {keyAllowed : Bool} {rest : List Char}
    (h : EndsLine cursor keyAllowed rest) :
    rest.length ≤ cursor.rest.length ∧ cursor.rest.length ≤ rest.length + 1 := by
  rcases h with ⟨hrest, _⟩ | hrest <;> rw [hrest] <;> simp

/-! ## Section 3: Entries -/

variable {opened keyAllowed : Bool} {kinds : List TokenKind} {rest : List Char} {s : Scanner}

/-- The key at the start of a line and its colon. -/
theorem scans_key {style : ScalarStyle} {text : List Char} (h : IsKey style text)
    (hs : AtLine opened kinds (scalarIn style text ++ ':' :: rest) s)
    (hrest : isGapOrEnd (rest.headD terminator) = true) :
    ∃ t, Scans s t ∧
      OnLine false (kinds ++ (if opened then [] else [.blockMappingStart])
        ++ [.key, .scalar text style, .value]) rest t := by
  obtain ⟨cursor, tokens, keyAllowed, key, rfl, hkinds, hline, hkey⟩ := hs
  obtain ⟨mark, hcolumn, hfirst⟩ := next_key opened tokens h hline hkey hrest
  -- The first step reads the text, and the second one turns it into a key.
  have hindex : (mark.past (scalarIn style text)).index ≤ mark.index + maxKey := by
    have hshort := h.short
    simp only [Mark.past]
    omega
  have hsecond := next_colon opened tokens
    ⟨.scalar text style, mark, mark.past (scalarIn style text)⟩ hcolumn
    (Mark.line_past mark (scalarIn style text)).symm hindex hrest
  -- The key is not empty, so the first step shortens the text, and the second takes the colon.
  have hlength := (length_of_endsLine hline).1
  have hpos := List.length_pos_iff.mpr h.fits.scalarIn_ne_nil
  rw [List.length_append, List.length_cons] at hlength
  refine ⟨_, .step hfirst (isDone_of_kind rfl ?_) ?_
    (.step hsecond (isDone_of_kind rfl ?_) ?_ (.refl _)), ⟨_, _, rfl, ?_⟩⟩
  · intro h
    cases h
  · show (':' :: rest).length < cursor.rest.length
    rw [List.length_cons]
    omega
  · intro h
    cases h
  · exact Nat.lt_succ_self rest.length
  -- The token for the mapping is put in front of the key, where the first entry is.
  · cases opened <;> simp [hkinds]

/-- The key behind a question mark and the colon on the next line. -/
theorem scans_explicit {text : List Char}
    (hs : AtLine opened kinds
      ('?' :: ' ' :: (scalarIn .doubleQuoted text ++ '\n' :: ':' :: rest)) s)
    (hrest : isGapOrEnd (rest.headD terminator) = true) :
    ∃ t, Scans s t ∧
      OnLine true (kinds ++ (if opened then [] else [.blockMappingStart])
        ++ [.key, .scalar text .doubleQuoted, .value]) rest t := by
  obtain ⟨cursor, tokens, keyAllowed, key, rfl, hkinds, hline, hkey⟩ := hs
  -- Three steps: the question mark, the text, and the colon on the line below.
  obtain ⟨mark, hfirst⟩ := next_question opened tokens hline hkey
  obtain ⟨token, stop, saved, hkind, hsaved, hsame, hsecond⟩ :=
    next_quoted (⟨.key, mark, mark.past ['?']⟩
      :: (if opened then tokens else ⟨.blockMappingStart, mark, mark⟩ :: tokens)) text
      (':' :: rest) (mark.past ['?'])
  obtain ⟨colon, after, hcolon, hthird⟩ := next_colon_below _ hsaved hsame hrest
  have hlength := (length_of_endsLine hline).1
  rw [List.length_cons] at hlength
  refine ⟨_, .step hfirst (isDone_of_kind rfl ?_) ?_
    (.step hsecond (isDone_of_kind rfl ?_) ?_
      (.step hthird (isDone_of_kind rfl ?_) ?_ (.refl _))), ⟨_, _, rfl, ?_⟩⟩
  · nofun
  -- Each of them leaves less of the text.
  · show (' ' :: (scalarIn .doubleQuoted text ++ '\n' :: ':' :: rest)).length < cursor.rest.length
    omega
  · rw [hkind]
    nofun
  · show ('\n' :: ':' :: rest).length
      < (' ' :: (scalarIn .doubleQuoted text ++ '\n' :: ':' :: rest)).length
    simp only [List.length_cons, List.length_append]
    omega
  · rw [hcolon]
    nofun
  · show rest.length < ('\n' :: ':' :: rest).length
    simp only [List.length_cons]
    omega
  · cases opened <;> simp [hkinds, hkind, hcolon]

/-- What is read behind a space up to the end of the line. -/
theorem scans_of_readsLine {text : List Char} {kind : TokenKind}
    (hs : OnLine keyAllowed kinds (' ' :: text) s)
    (hread : ∀ mark tokens,
      ReadsLine (inBlock true ⟨' ' :: text, mark⟩ tokens keyAllowed none) tokens kind rest)
    (hmore : kind ≠ .streamEnd) (hlength : rest.length < text.length) :
    ∃ t, Scans s t ∧ AtLine true (kinds ++ [kind]) rest t := by
  obtain ⟨mark, tokens, rfl, hkinds⟩ := hs
  obtain ⟨cursor, token, allowed, key, hnext, hkind, hline, hkey⟩ := hread mark tokens
  -- The end of the line may be left, but then the scalar itself has been read.
  have hle := (length_of_endsLine hline).2
  refine ⟨_, .step hnext (isDone_of_kind rfl ?_) ?_ (.refl _),
    cursor, token :: tokens, allowed, key, rfl, ?_, hline, hkey⟩
  · rwa [hkind]
  · show cursor.rest.length < (' ' :: text).length
    rw [List.length_cons]
    omega
  · simp [hkinds, hkind]

/-- A scalar and the end of its line. -/
theorem scans_scalar {text : List Char}
    (hs : OnLine keyAllowed kinds (' ' :: (scalarLine text ++ rest)) s)
    (hrest : StartsToken rest) :
    ∃ t, Scans s t ∧ AtLine true (kinds ++ [.scalar text (formOf text)]) rest t := by
  refine scans_of_readsLine hs (fun mark tokens => readsLine_scalarLine text mayDrop_none hrest)
    nofun ?_
  -- Nothing is written as nothing: at least the line ends.
  have hwritten : 0 < (scalarLine text).length := by
    unfold scalarLine lineIn
    split <;> simp [literal]
  rw [List.length_append]
  omega

/-- A scalar in a form of its own and the end of its line. -/
theorem scans_scalarIn {style : ScalarStyle} {text : List Char} (h : FitsLine style text)
    (hs : OnLine keyAllowed kinds (' ' :: (scalarIn style text ++ '\n' :: rest)) s)
    (hrest : StartsToken rest) :
    ∃ t, Scans s t ∧ AtLine true (kinds ++ [.scalar text style]) rest t := by
  refine scans_of_readsLine hs (fun mark tokens => readsLine_scalarIn h mayDrop_none hrest) nofun ?_
  rw [List.length_append, List.length_cons]
  omega

theorem fitsLine_flagWord (value : Bool) : FitsLine .plain (flagWord value) := by
  cases value <;> exact .plain (by decide) (by decide)

/-- The brackets around nothing, and the end of their line. -/
theorem scans_brackets (hs : OnLine false kinds (' ' :: '[' :: ']' :: '\n' :: rest) s) :
    ∃ t, Scans s t ∧
      AtLine true (kinds ++ [.flowSequenceStart, .flowSequenceEnd]) rest t := by
  obtain ⟨mark, tokens, rfl, hkinds⟩ := hs
  have hfirst := next_open mark tokens (']' :: '\n' :: rest)
  have hsecond := next_close ((mark.past [' ']).past ['['])
    (⟨.flowSequenceStart, mark.past [' '], (mark.past [' ']).past ['[']⟩ :: tokens) ('\n' :: rest)
  -- The line end behind the brackets is left for the next line.
  refine ⟨_, .step hfirst (isDone_of_kind rfl nofun) ?_
    (.step hsecond (isDone_of_kind rfl nofun) ?_ (.refl _)), ⟨_, _, _, _, rfl, ?_, .inr rfl,
      mayDrop_none⟩⟩
  · show (']' :: '\n' :: rest).length < (' ' :: '[' :: ']' :: '\n' :: rest).length
    simp
  · exact Nat.lt_succ_self ('\n' :: rest).length
  · simp [hkinds]

/-- A dash in front of an element. -/
theorem scans_dash (hs : AtLine true kinds ('-' :: ' ' :: rest) s) :
    ∃ t, Scans s t ∧ OnLine true (kinds ++ [.blockEntry]) (' ' :: rest) t := by
  obtain ⟨cursor, tokens, keyAllowed, key, rfl, hkinds, hline, hkey⟩ := hs
  obtain ⟨token, mark, hkind, hnext⟩ := next_dash tokens hline hkey
  have hlength := (length_of_endsLine hline).1
  refine ⟨_, .step hnext (isDone_of_kind rfl ?_) ?_ (.refl _), ⟨_, _, rfl, ?_⟩⟩
  · rw [hkind]
    nofun
  · show (' ' :: rest).length < cursor.rest.length
    rw [List.length_cons] at hlength
    omega
  · simp [hkinds, hkind]

end Scanner

/-! ## Section 4: Entries and their tokens -/

/-- What is written for a text: a scalar in the form that is chosen for it. -/
def scalarToken (text : List Char) : TokenKind := .scalar text (formOf text)

/-- The tokens for a value. -/
def Value.tokens : Value → List TokenKind
  | .text chars => [scalarToken chars]
  | .flag value => [.scalar (flagWord value) .plain]
  | .texts [] => [.flowSequenceStart, .flowSequenceEnd]
  | .texts elements => elements.flatMap fun chars => [.blockEntry, scalarToken chars]

/-- The lines of the elements of a list. -/
def elementLines (elements : List (List Char)) : List Char :=
  elements.flatMap fun chars => '-' :: ' ' :: scalarLine chars

/-- What stands at a key: a value as it is always written, or a scalar in another form. -/
inductive Content where
  | value (value : Value)
  | scalar (style : ScalarStyle) (text : List Char)
  deriving DecidableEq, Repr

namespace Content

/-- What is written behind the colon. -/
def written : Content → List Char
  | .value given => given.written
  | .scalar style text => ' ' :: (scalarIn style text ++ ['\n'])

def tokens : Content → List TokenKind
  | .value given => given.tokens
  | .scalar style text => [.scalar text style]

/-- A scalar must fit on the line of its key, unless its form is chosen for it. -/
def Writable : Content → Prop
  | .value _ => True
  | .scalar style text => Scanner.FitsLine style text

/-- A list is not a scalar. -/
def IsScalar : Content → Prop
  | .value (.texts _) => False
  | _ => True

end Content

/-- An entry of a mapping. -/
structure Entry where
  key : List Char
  /-- The form in which the key is written. -/
  style : ScalarStyle
  /-- Does the key stand behind a question mark, with its colon on the next line? -/
  explicit : Bool
  content : Content
  deriving DecidableEq, Repr

namespace Entry

/-- An entry with a plain key and a value as it is always written. -/
def plain (key : List Char) (value : Value) : Entry := ⟨key, .plain, false, .value value⟩

/-- The text of an entry. -/
def written (entry : Entry) : List Char :=
  if entry.explicit then
    '?' :: ' ' :: (scalarIn entry.style entry.key ++ '\n' :: ':' :: entry.content.written)
  else scalarIn entry.style entry.key ++ ':' :: entry.content.written

/-- However its key is written, an entry has the same tokens. -/
def tokens (entry : Entry) : List TokenKind :=
  .key :: .scalar entry.key entry.style :: .value :: entry.content.tokens

/-- An entry that is read as it is meant.  A key that is too long to be on the line of its colon
goes behind a question mark. -/
inductive Writable : Entry → Prop where
  | inline {key : List Char} {style : ScalarStyle} {content : Content}
      (isKey : Scanner.IsKey style key) (writable : content.Writable) :
      Writable ⟨key, style, false, content⟩
  | explicit (key : List Char) {content : Content} (writable : content.Writable)
      (isScalar : content.IsScalar) : Writable ⟨key, .doubleQuoted, true, content⟩

end Entry

/-- A mapping is written entry by entry. -/
theorem writeMapping_eq (entries : List (List Char × Value)) :
    writeMapping entries
      = (entries.map fun entry => Entry.plain entry.1 entry.2).flatMap Entry.written := by
  rw [List.flatMap_map]
  rfl

namespace Scanner

variable {kinds : List TokenKind} {rest : List Char} {s : Scanner}

theorem startsToken_elementLines {elements : List (List Char)} (hrest : StartsToken rest) :
    StartsToken (elementLines elements ++ rest) := by
  cases elements with
  | nil => exact hrest
  | cons chars elements => exact startsToken_cons (by decide) _

/-- The elements of a list, one on each line. -/
theorem scans_elements (elements : List (List Char)) (hrest : StartsToken rest)
    (hs : AtLine true kinds (elementLines elements ++ rest) s) :
    ∃ t, Scans s t ∧
      AtLine true (kinds ++ elements.flatMap fun chars => [.blockEntry, scalarToken chars])
        rest t := by
  -- By induction on the elements, for any tokens before them.
  induction elements generalizing kinds s with
  | nil => exact ⟨s, .refl s, by simpa [elementLines] using hs⟩
  | cons chars elements ih =>
    have hsplit : elementLines (chars :: elements) ++ rest
        = '-' :: ' ' :: (scalarLine chars ++ (elementLines elements ++ rest)) := by
      simp [elementLines]
    -- The dash, the scalar behind it, and the other elements.
    rw [hsplit] at hs
    obtain ⟨t, hdash, ht⟩ := scans_dash hs
    obtain ⟨u, hscalar, hu⟩ := scans_scalar ht (startsToken_elementLines hrest)
    obtain ⟨v, helements, hv⟩ := ih hu
    refine ⟨v, (hdash.trans hscalar).trans helements, ?_⟩
    simpa [scalarToken] using hv

/-- What stands behind a colon.  Where another key could start, it is a scalar. -/
theorem scans_content {keyAllowed : Bool} {content : Content} (hwritable : content.Writable)
    (hplace : keyAllowed = true → content.IsScalar) (hrest : StartsToken rest)
    (hs : OnLine keyAllowed kinds (content.written ++ rest) s) :
    ∃ t, Scans s t ∧ AtLine true (kinds ++ content.tokens) rest t := by
  -- A flag and a text are scalars on the line of the colon; a list has lines of its own.
  match content, hwritable, hplace, hs with
  | .scalar style text, hfits, _, hs =>
    have hline : (Content.scalar style text).written ++ rest
        = ' ' :: (scalarIn style text ++ '\n' :: rest) := by
      simp [Content.written]
    rw [hline] at hs
    exact scans_scalarIn hfits hs hrest
  | .value (.text chars), _, _, hs => exact scans_scalar hs hrest
  | .value (.flag value), _, _, hs =>
    have hline : (Content.value (.flag value)).written ++ rest
        = ' ' :: (scalarIn .plain (flagWord value) ++ '\n' :: rest) := by
      simp [Content.written, Value.written, scalarIn]
    rw [hline] at hs
    exact scans_scalarIn (fitsLine_flagWord value) hs hrest
  | .value (.texts elements), _, hplace, hs =>
    -- Behind a question mark a dash would be a list of its own, which `hplace` excludes.
    obtain rfl : keyAllowed = false := Bool.eq_false_iff.mpr hplace
    cases elements with
    | nil => exact scans_brackets hs
    | cons chars elements =>
      obtain ⟨mark, tokens, rfl, hkinds⟩ := hs
      exact scans_elements (chars :: elements) hrest
        ⟨_, tokens, false, none, rfl, hkinds, .inr rfl, mayDrop_none⟩

/-! ## Section 5: Mappings -/

theorem startsToken_written {entry : Entry} (h : entry.Writable) (rest : List Char) :
    StartsToken (entry.written ++ rest) := by
  cases h with
  | inline isKey _ =>
    simp only [Entry.written, Bool.false_eq_true, if_false, List.append_assoc]
    exact isKey.fits.startsToken _
  | explicit => exact startsToken_cons (by decide) _

theorem startsToken_entries {entries : List Entry} (h : ∀ entry ∈ entries, entry.Writable) :
    StartsToken (entries.flatMap Entry.written) := by
  cases entries with
  | nil => exact fun c hc => nomatch hc
  | cons entry entries => exact startsToken_written (h entry (by simp)) _

/-- Whatever stands at a key, there is a gap or the end of the line behind the colon. -/
theorem isGapOrEnd_written (content : Content) (rest : List Char) :
    isGapOrEnd ((content.written ++ rest).headD terminator) = true := by
  have hgap : isGapOrEnd ' ' = true ∧ isGapOrEnd '\n' = true := by decide
  match content with
  | .value (.text _) | .value (.flag _) | .value (.texts []) | .scalar _ _ => exact hgap.1
  | .value (.texts (_ :: _)) => exact hgap.2

/-- An entry: its key and what stands there. -/
theorem scans_entry {opened : Bool} {entry : Entry} (h : entry.Writable) (hrest : StartsToken rest)
    (hs : AtLine opened kinds (entry.written ++ rest) s) :
    ∃ t, Scans s t ∧
      AtLine true (kinds ++ (if opened then [] else [.blockMappingStart]) ++ entry.tokens)
        rest t := by
  -- The two ways to write a key are followed by the same content.
  cases h with
  | @inline key style content isKey writable =>
    have hsplit : Entry.written ⟨key, style, false, content⟩ ++ rest
        = scalarIn style key ++ ':' :: (content.written ++ rest) := by
      simp [Entry.written]
    have hplace : false = true → content.IsScalar := nofun
    rw [hsplit] at hs
    obtain ⟨t, hkey, ht⟩ := scans_key isKey hs (isGapOrEnd_written content rest)
    obtain ⟨u, hcontent, hu⟩ := scans_content writable hplace hrest ht
    exact ⟨u, hkey.trans hcontent, by simpa [Entry.tokens] using hu⟩
  | @explicit key content writable isScalar =>
    have hsplit : Entry.written ⟨key, .doubleQuoted, true, content⟩ ++ rest
        = '?' :: ' ' :: (scalarIn .doubleQuoted key
          ++ '\n' :: ':' :: (content.written ++ rest)) := by
      simp [Entry.written]
    rw [hsplit] at hs
    obtain ⟨t, hkey, ht⟩ := scans_explicit hs (isGapOrEnd_written content rest)
    obtain ⟨u, hcontent, hu⟩ := scans_content writable (fun _ => isScalar) hrest ht
    exact ⟨u, hkey.trans hcontent, by simpa [Entry.tokens] using hu⟩

/-- All entries of a mapping, from the second one on. -/
theorem scans_entries (entries : List Entry) (h : ∀ entry ∈ entries, entry.Writable)
    (hs : AtLine true kinds (entries.flatMap Entry.written) s) :
    ∃ t, Scans s t ∧ AtLine true (kinds ++ entries.flatMap Entry.tokens) [] t := by
  -- By induction on the entries; the mapping is open from the first one on.
  induction entries generalizing kinds s with
  | nil => exact ⟨s, .refl s, by simpa using hs⟩
  | cons entry entries ih =>
    have hrest : ∀ entry ∈ entries, entry.Writable := fun entry hentry => h entry (by simp [hentry])
    obtain ⟨t, hentry, ht⟩ := scans_entry (h entry (by simp)) (startsToken_entries hrest) hs
    obtain ⟨u, hentries, hu⟩ := ih hrest ht
    refine ⟨u, hentry.trans hentries, ?_⟩
    simpa using hu

/-- Behind the last line everything ends. -/
theorem scan_end (hs : AtLine true kinds [] s) (fuel : Nat) (hfuel : 0 < fuel) :
    ∃ tokens, TokenStream.scan fuel s = ⟨tokens, none⟩ ∧
      tokens.map Token.kind = kinds ++ [.blockEnd, .streamEnd] := by
  obtain ⟨cursor, tokens, keyAllowed, key, rfl, hkinds, hline, hkey⟩ := hs
  obtain ⟨t, first, second, hfirst, hsecond, htokens, hnext⟩ := next_end tokens hline hkey
  obtain ⟨fuel, rfl⟩ : ∃ n, fuel = n + 1 := ⟨fuel - 1, by omega⟩
  -- The stream is done with the token for its end, whatever fuel is left.
  have hdone : t.isDone = true := by
    obtain ⟨kind, start, stop⟩ := second
    cases hsecond
    simp [isDone, htokens]
  refine ⟨t.tokens.reverse, ?_, ?_⟩
  · rw [scan_succ, hnext]
    simp only [hdone, if_true]
  · simp [htokens, hfirst, hsecond, ← hkinds]

end Scanner

/-! ## Section 6: Whole texts -/

theorem isAllowed_of_mem_quoted {single : Bool} {text : List Char} {c : Char}
    (hquoted : Quoted.Quotable single text)
    (hc : c ∈ Quoted.quoteOf single :: (Quoted.inner single text ++ [Quoted.quoteOf single])) :
    isAllowed c = true := by
  have hquote : isAllowed (Quoted.quoteOf single) = true := by cases single <;> decide
  rcases List.mem_cons.mp hc with rfl | hc
  · exact hquote
  · rcases List.mem_append.mp hc with hc | hc
    · exact Quoted.isAllowed_of_mem_inner hquoted hc
    · rw [List.mem_singleton.mp hc]
      exact hquote

theorem isAllowed_of_mem_scalarIn {style : ScalarStyle} {text : List Char} {c : Char}
    (h : Scanner.FitsLine style text) (hc : c ∈ scalarIn style text) : isAllowed c = true := by
  cases h with
  | plain plain _ => exact isAllowed_of_isPrintable (isPrintable_of_allowsPlain plain hc)
  | single quoted _ =>
    refine isAllowed_of_mem_quoted quoted ?_
    rwa [← Scanner.scalarIn_single, List.append_nil]
  | double =>
    refine isAllowed_of_mem_quoted (.double text) ?_
    rwa [← Scanner.scalarIn_double, List.append_nil]

theorem isAllowed_of_mem_scalarLine {text : List Char} {c : Char} (hc : c ∈ scalarLine text) :
    isAllowed c = true := by
  have hfeed : isAllowed '\n' = true := by decide
  -- But for a literal scalar, the end of the line stands behind the scalar.
  have hbehind : (∀ c ∈ scalarIn (formOf text) text, isAllowed c = true) → formOf text ≠ .literal →
      isAllowed c = true := by
    intro hall hform
    rw [scalarLine, lineIn_of_ne_literal hform] at hc
    rcases List.mem_append.mp hc with hc | hc
    · exact hall c hc
    · rw [List.mem_singleton.mp hc]
      exact hfeed
  -- Every form has only characters that it may hold.
  rcases formOf_cases text with
    ⟨hform, _, hprint⟩ | ⟨hform, hplain, htext⟩ | ⟨hform, hquoted⟩ | hform
  · have hline : scalarLine text = literal text ++ Block.closing text := by
      simp [scalarLine, lineIn, hform, Block.closing]
    exact Block.isAllowed_of_mem_literal hprint (hline ▸ hc)
  · rw [hform] at hbehind
    exact hbehind (fun c => isAllowed_of_mem_scalarIn (.plain hplain (ne_nil_of_ofText htext)))
      (by decide)
  · rw [hform] at hbehind
    refine hbehind (fun c hc => isAllowed_of_mem_quoted hquoted ?_) (by decide)
    rwa [← Scanner.scalarIn_single, List.append_nil]
  · rw [hform] at hbehind
    exact hbehind (fun c => isAllowed_of_mem_scalarIn (.double text)) (by decide)

theorem isAllowed_of_mem_written {value : Value} {c : Char} (hc : c ∈ value.written) :
    isAllowed c = true := by
  cases value with
  | text chars =>
    rcases List.mem_cons.mp hc with rfl | hc
    · decide
    · exact isAllowed_of_mem_scalarLine hc
  | flag value =>
    have hall : (Value.flag value).written.all isAllowed = true := by cases value <;> decide
    exact List.all_eq_true.mp hall c hc
  | texts elements =>
    cases elements with
    | nil =>
      have hall : (Value.texts []).written.all isAllowed = true := by decide
      exact List.all_eq_true.mp hall c hc
    | cons chars elements =>
      rcases List.mem_cons.mp hc with rfl | hc
      · decide
      · obtain ⟨chars, _, hc⟩ := List.mem_flatMap.mp hc
        rcases List.mem_cons.mp hc with rfl | hc
        · decide
        · rcases List.mem_cons.mp hc with rfl | hc
          · decide
          · exact isAllowed_of_mem_scalarLine hc

theorem isAllowed_of_mem_content {content : Content} (h : content.Writable) {c : Char}
    (hc : c ∈ content.written) : isAllowed c = true := by
  cases content with
  | value value => exact isAllowed_of_mem_written hc
  | scalar style text =>
    rcases List.mem_cons.mp hc with rfl | hc
    · decide
    · rcases List.mem_append.mp hc with hc | hc
      · exact isAllowed_of_mem_scalarIn h hc
      · rw [List.mem_singleton.mp hc]
        decide

theorem isAllowed_of_mem_entry {entry : Entry} (h : entry.Writable) {c : Char}
    (hc : c ∈ entry.written) : isAllowed c = true := by
  have hsigns : ∀ sign ∈ ['?', ' ', '\n', ':'], isAllowed sign = true :=
    List.all_eq_true.mp (by decide)
  -- Besides the key and the content there are only the signs.
  cases h with
  | inline isKey writable =>
    simp only [Entry.written, Bool.false_eq_true, if_false, List.mem_append, List.mem_cons] at hc
    rcases hc with hc | rfl | hc
    · exact isAllowed_of_mem_scalarIn isKey.fits hc
    · exact hsigns _ (by simp)
    · exact isAllowed_of_mem_content writable hc
  | explicit key writable _ =>
    simp only [Entry.written, if_true, List.mem_append, List.mem_cons] at hc
    rcases hc with rfl | rfl | hc | rfl | rfl | hc
    · exact hsigns _ (by simp)
    · exact hsigns _ (by simp)
    · exact isAllowed_of_mem_scalarIn (.double key) hc
    · exact hsigns _ (by simp)
    · exact hsigns _ (by simp)
    · exact isAllowed_of_mem_content writable hc

/-- A text without anything forbidden is scanned. -/
theorem forbiddenFrom_of_isAllowed {cs : List Char} (h : ∀ c ∈ cs, isAllowed c = true)
    (offset : Nat) : TokenStream.forbiddenFrom offset cs = none := by
  -- The offset is only for the fault, of which there is none.
  induction cs generalizing offset with
  | nil => rfl
  | cons c cs ih =>
    rw [TokenStream.forbiddenFrom, if_pos (h c (by simp))]
    exact ih (fun d hd => h d (by simp [hd])) _

/-- The tokens of a mapping that is written. -/
def mappingTokens (entries : List Entry) : List TokenKind :=
  .streamStart :: .blockMappingStart :: (entries.flatMap Entry.tokens ++ [.blockEnd, .streamEnd])

/-- A mapping that is written has the tokens of its entries. -/
theorem ofText_entries {entries : List Entry} (hne : entries ≠ [])
    (h : ∀ entry ∈ entries, entry.Writable) :
    ∃ tokens, TokenStream.ofText (entries.flatMap Entry.written) = ⟨tokens, none⟩ ∧
      tokens.map Token.kind = mappingTokens entries := by
  obtain ⟨entry, entries, rfl⟩ := List.exists_cons_of_ne_nil hne
  have hrest : ∀ entry ∈ entries, entry.Writable := fun entry hentry => h entry (by simp [hentry])
  have hall : ∀ c ∈ (entry :: entries).flatMap Entry.written, isAllowed c = true := by
    intro c hc
    obtain ⟨other, hother, hc⟩ := List.mem_flatMap.mp hc
    exact isAllowed_of_mem_entry (h other hother) hc
  -- In front of the first line no mapping is open, so the first entry is followed on its own.
  have hstart : Scanner.AtLine false [.streamStart] ((entry :: entries).flatMap Entry.written)
      (Scanner.start ((entry :: entries).flatMap Entry.written)) :=
    ⟨_, _, true, none, rfl, rfl, .inl ⟨rfl, rfl, rfl⟩, Scanner.mayDrop_none⟩
  obtain ⟨t, hfirst, ht⟩ := Scanner.scans_entry (h entry (by simp))
    (Scanner.startsToken_entries hrest) hstart
  obtain ⟨u, hothers, hu⟩ := Scanner.scans_entries entries hrest ht
  -- The runs give the tokens, and the scan with its fuel follows them to the end.
  obtain ⟨fuel, hfuel, hscan⟩ := (hfirst.trans hothers).scan_eq
    (((entry :: entries).flatMap Entry.written).length + 1) (Nat.lt_succ_self _)
  obtain ⟨tokens, hend, hkinds⟩ := Scanner.scan_end hu fuel (by omega)
  refine ⟨tokens, ?_, ?_⟩
  · rw [TokenStream.ofText, forbiddenFrom_of_isAllowed hall 0]
    exact hscan.trans hend
  · rw [hkinds]
    simp [mappingTokens]

end ChangeLint.Yaml
