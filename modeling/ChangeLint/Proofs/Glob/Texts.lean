import ChangeLint.Glob.Joining
import ChangeLint.Glob.Reading
import ChangeLint.Proofs.Glob.Language
import ChangeLint.Proofs.Text.Encoding

/-! # Globs that fix a text

A pattern in which no character has a meaning of its own is read as its characters, and with a
star in front of it as any bytes and then its characters.  The first kind of glob matches one
path, the second kind the paths that end in the text.

* `read_text` and `read_star_text` read such patterns.
* `isMatch_ofText_iff` and `isMatch_ending_iff` say which paths they match. -/

namespace ChangeLint.Glob

/-! ## Section 1: Reading -/

/-- The characters that have a meaning of their own in a glob. -/
def metacharacters : List Char := ['*', '?', '[', ']', '{', '}', ',', '\\']

/-- The tokens of a text. -/
def textTokens (text : List Char) : List Token := text.map .literal

/-- The glob of one path. -/
def ofText (text : List Char) : Glob := ⟨textTokens text⟩

/-- The glob of the paths that end in a text. -/
def ending (text : List Char) : Glob := ⟨.anyBytes :: textTokens text⟩

namespace Reader

variable {c : Char} {text : List Char}

theorem plain_of_notMem (h : c ∉ metacharacters) (reader : Reader) :
    reader.plain c = .ok { reader with tokens := .literal c :: reader.tokens, last := some c } := by
  simp only [metacharacters, List.mem_cons, List.not_mem_nil, or_false, not_or] at h
  obtain ⟨_, hquestion, hopen, _, hbrace, hclose, hcomma, _⟩ := h
  -- Of the characters with a meaning only five are seen here; the others are not read as plain.
  rw [plain, if_neg hquestion, if_neg hopen, if_neg hbrace, if_neg hclose, if_neg hcomma]
  rfl

/-- With nothing pending, a character without meaning is a token. -/
theorem step_of_notMem (h : c ∉ metacharacters) {reader : Reader}
    (hpending : reader.pending = .nothing) :
    reader.step c = .ok { reader with tokens := .literal c :: reader.tokens, last := some c } := by
  have hstar : c ≠ '*' := by
    rintro rfl
    exact h (by decide)
  unfold step
  split
  · rw [fresh, if_neg hstar, plain_of_notMem h]
  -- Whatever else could be pending, nothing is.
  all_goals next hother => rw [hpending] at hother; cases hother

/-- Characters without meaning are read one after the other. -/
theorem foldlM_text (h : ∀ c ∈ text, c ∉ metacharacters) (reader : Reader)
    (hpending : reader.pending = .nothing) :
    ∃ last, text.foldlM step reader
      = .ok { reader with tokens := (textTokens text).reverse ++ reader.tokens, last := last } := by
  -- By induction on the text; the reader has its tokens in reverse and nothing pending.
  induction text generalizing reader with
  | nil => exact ⟨reader.last, rfl⟩
  | cons c text ih =>
    have hc : c ∉ metacharacters := h c (by simp)
    obtain ⟨last, hrest⟩ := ih (fun d hd => h d (by simp [hd]))
      { reader with tokens := .literal c :: reader.tokens, last := some c } hpending
    refine ⟨last, ?_⟩
    rw [List.foldlM_cons, step_of_notMem hc hpending]
    show text.foldlM step _ = _
    rw [hrest]
    simp [textTokens]

end Reader

/-- A text without metacharacters is read as its characters. -/
theorem read_text {text : List Char} (h : ∀ c ∈ text, c ∉ metacharacters) :
    read text = .ok (ofText text) := by
  obtain ⟨last, hread⟩ := Reader.foldlM_text h .start rfl
  rw [read, hread]
  simp [ofText, Reader.finish, Reader.result, Reader.start, bind, Except.bind]

/-- A star in front of such a text stands for any bytes. -/
theorem read_star_text {text : List Char} (h : ∀ c ∈ text, c ∉ metacharacters) :
    read ('*' :: text) = .ok (ending text) := by
  cases text with
  | nil => rfl
  | cons c text =>
    have hc : c ∉ metacharacters := h c (by simp)
    have hstar : c ≠ '*' := by
      rintro rfl
      exact hc (by decide)
    have htext : ∀ d ∈ text, d ∉ metacharacters := fun d hd => h d (List.mem_cons_of_mem c hd)
    -- The first character of the text settles the star, and nothing is pending behind it.
    have hsecond : Reader.step ⟨[], [], some '*', .star none⟩ c
        = .ok ⟨[], [.literal c, .anyBytes], some c, .nothing⟩ := by
      rw [Reader.step]
      simp only [if_neg hstar]
      exact Reader.plain_of_notMem hc _
    have hfold : ('*' :: c :: text).foldlM Reader.step .start
        = text.foldlM Reader.step ⟨[], [.literal c, .anyBytes], some c, .nothing⟩ := by
      show (Reader.step ⟨[], [], some '*', .star none⟩ c >>= text.foldlM Reader.step) = _
      rw [hsecond]
      rfl
    obtain ⟨last, hread⟩ := Reader.foldlM_text htext
      ⟨[], [.literal c, .anyBytes], some c, .nothing⟩ rfl
    rw [read, hfold, hread]
    simp [ending, textTokens, Reader.finish, Reader.result, bind, Except.bind]

/-! ## Section 2: Matching -/

/-- The tokens of a text stand for its bytes. -/
theorem tokensLanguage_textTokens (text : List Char) :
    tokensLanguage (textTokens text) = {Text.Utf8.encode text} := by
  -- By induction on the text: the bytes of a text are those of its characters.
  induction text with
  | nil => rfl
  | cons c text ih =>
    have hcons : tokensLanguage (textTokens (c :: text))
        = {String.utf8EncodeChar c} * {Text.Utf8.encode text} := by
      rw [← ih]
      rfl
    rw [hcons, Text.Utf8.encode_cons]
    ext word
    rw [Language.mem_mul]
    constructor
    · rintro ⟨_, rfl, _, rfl, rfl⟩
      rfl
    · rintro rfl
      exact ⟨_, rfl, _, rfl, rfl⟩

theorem isMatch_ofText_iff {text : List Char} {path : String} :
    (ofText text).isMatch path = true ↔ path.toList = text := by
  -- A text is never the one glob that is matched otherwise.
  have hne : (ofText text).tokens ≠ [.leadingDirs] := by
    cases text with
    | nil => exact nofun
    | cons c text => exact nofun
  rw [isMatch_iff, language_of_ne hne, ofText, tokensLanguage_textTokens]
  exact Text.Utf8.encode_inj

theorem isMatch_ending_iff {text : List Char} {path : String} :
    (ending text).isMatch path = true ↔ text <:+ path.toList := by
  have hne : (ending text).tokens ≠ [.leadingDirs] := nofun
  have hlanguage : tokensLanguage (ending text).tokens = ⊤ * {Text.Utf8.encode text} := by
    rw [← tokensLanguage_textTokens]
    rfl
  rw [isMatch_iff, language_of_ne hne, hlanguage, mem_top_mul]
  -- Bytes that end in the bytes of a text are a text that ends in it, for no character starts
  -- inside another.
  constructor
  · rintro ⟨_, rfl, hends⟩
    exact Text.Utf8.encode_suffix_iff.mp hends
  · intro hends
    exact ⟨_, rfl, Text.Utf8.encode_suffix_iff.mpr hends⟩

/-! ## Section 3: Being matched with others -/

theorem areText_textTokens {text : List Char} (h : text ≠ []) :
    areText (textTokens text) = true := by
  cases text with
  | nil => exact absurd rfl h
  | cons c text => simp [areText, textTokens, Token.isLiteral]

theorem areText_reverse {tokens : List Token} (h : areText tokens = true) :
    areText tokens.reverse = true := by
  simpa [areText] using h

theorem fixStart_of_areText {tokens : List Token} (h : areText tokens = true) :
    fixStart tokens = true := by
  cases tokens with
  | nil => exact h
  | cons token tokens =>
    cases token with
    | literal c => exact h
    | _ => simp [areText, Token.isLiteral] at h

/-- A glob of one path is matched by comparing text. -/
theorem joinFault?_ofText {text : List Char} (h : text ≠ []) : joinFault? [ofText text] = none := by
  refine joinFault?_eq_none_of_text (List.forall_mem_singleton.mpr ?_)
  have hstart := fixStart_of_areText (areText_reverse (areText_textTokens h))
  simp [matcher, ofText, hstart]

/-- A glob of the paths that end in a text is matched by comparing text as well, but for a lone
slash, which needs an expression that is not deep. -/
theorem joinFault?_ending {text : List Char} (h : text ≠ []) :
    joinFault? [ending text] = none := by
  by_cases hslash : text = ['/']
  · subst hslash
    rfl
  · refine joinFault?_eq_none_of_text (List.forall_mem_singleton.mpr ?_)
    have hend : fixEnd (ending text).tokens = true := by
      show (areText (textTokens text) && !((textTokens text).length == 1
        && (textTokens text).all Token.isSlash)) = true
      rw [areText_textTokens h, Bool.true_and, Bool.not_eq_true', Bool.and_eq_false_iff]
      -- A text of one character is the slash that is excluded, or fixes the end by itself.
      match text, hslash with
      | [], _ => exact absurd rfl h
      | [c], hslash =>
        right
        simpa [textTokens, Token.isSlash] using hslash
      | _ :: _ :: _, _ => exact .inl rfl
    simp [matcher, hend]

end ChangeLint.Glob
