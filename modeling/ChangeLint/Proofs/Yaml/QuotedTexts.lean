import Mathlib.Algebra.Group.Nat.Defs
import ChangeLint.Proofs.Yaml.Cursors
import ChangeLint.Yaml.QuotedScalar
import ChangeLint.Yaml.Written

/-! # Quoted texts are read back

In quotes every character is spelled by itself, and only gaps are read together.  What is
written in double quotes has no gaps but spaces, because line ends are escaped there.  In single
quotes a line end is followed by the indentation of the next line, which is not read.

* `IsEscape` is what is read as a character behind a backslash, and `escaped_cases` says that a
  character is written by itself or by such an escape.
* `readWords_inner` reads a text up to the quote that closes it. -/

namespace ChangeLint.Yaml.Quoted

/-! ## Section 1: Hexadecimal digits -/

/-- A number is written as its digits, of which none is too large. -/
theorem exists_toDigits (n : Nat) :
    ∃ digits : List Nat, (∀ d ∈ digits, d < 16) ∧ Nat.toDigits 16 n = digits.map Nat.digitChar ∧
      digits.foldl (fun value d => 16 * value + d) 0 = n := by
  induction n using Nat.strongRecOn with
  -- By strong induction, since a number is written by the digits of its sixteenth.
  | ind n ih =>
    by_cases h : n < 16
    · refine ⟨[n], by simpa using h, ?_, by simp⟩
      rw [Nat.toDigits_of_lt_base h]
      rfl
    · -- The last digit is the remainder by sixteen, and the others are those of the quotient.
      have hle : 16 ≤ n := Nat.le_of_not_lt h
      have hless : n / 16 < n := by omega
      obtain ⟨digits, hbound, hwritten, hvalue⟩ := ih (n / 16) hless
      refine ⟨digits ++ [n % 16], ?_, ?_, ?_⟩
      · intro d hd
        rcases List.mem_append.mp hd with hd | hd
        · exact hbound d hd
        · rw [List.mem_singleton.mp hd]
          omega
      · rw [Nat.toDigits_of_base_le (by decide) hle, hwritten, List.map_append]
        rfl
      · rw [List.foldl_append, hvalue, List.foldl_cons, List.foldl_nil]
        omega

/-- A digit as it is written. -/
def hexDigit (d : Nat) : Char := (Nat.digitChar d).toUpper

theorem hexValue?_hexDigit {d : Nat} (h : d < 16) : hexValue? (hexDigit d) = some d := by
  have hall : ∀ d < 16, hexValue? (hexDigit d) = some d := by decide
  exact hall d h

theorem isAllowed_hexDigit {d : Nat} (h : d < 16) : isAllowed (hexDigit d) = true := by
  have hall : ∀ d < 16, isAllowed (hexDigit d) = true := by decide
  exact hall d h

/-- A number that is not too large is written in digits of some width. -/
theorem exists_hexDigits {width n : Nat} (hpos : 0 < width) (h : n < 16 ^ width) :
    ∃ digits : List Nat, digits.length = width ∧ (∀ d ∈ digits, d < 16) ∧
      hexDigits width n = digits.map hexDigit ∧
      digits.foldl (fun value d => 16 * value + d) 0 = n := by
  obtain ⟨digits, hbound, hwritten, hvalue⟩ := exists_toDigits n
  -- A number that has room in the width has no more digits than that.
  have hlength : digits.length ≤ width := by
    have hle := (Nat.length_toDigits_le_iff (by decide) hpos).mpr h
    rwa [hwritten, List.length_map] at hle
  -- Zeros in front fill the width and do not change the number.
  refine ⟨List.replicate (width - digits.length) 0 ++ digits, ?_, ?_, ?_, ?_⟩
  · rw [List.length_append, List.length_replicate]
    omega
  · intro d hd
    rcases List.mem_append.mp hd with hd | hd
    · rw [List.eq_of_mem_replicate hd]
      decide
    · exact hbound d hd
  · have hzero : hexDigit 0 = '0' := by decide
    simp only [hexDigits, hwritten, List.length_map, List.map_append, List.map_replicate, hzero,
      List.map_map]
    rfl
  · have hzeros : ∀ count : Nat,
        (List.replicate count 0).foldl (fun value d => 16 * value + d) 0 = 0 := by
      intro count
      induction count with
      | zero => rfl
      | succ count ih => rwa [List.replicate_succ, List.foldl_cons]
    rw [List.foldl_append, hzeros, hvalue]

/-- Digits are read as their number. -/
theorem hexNumber?_map {digits : List Nat} (value : Nat) (rest : List Char)
    (h : ∀ d ∈ digits, d < 16) :
    hexNumber? digits.length value (digits.map hexDigit ++ rest)
      = some (digits.foldl (fun value d => 16 * value + d) value) := by
  -- The value so far is generalised, for each digit changes it.
  induction digits generalizing value with
  | nil => cases rest <;> rfl
  | cons d digits ih =>
    have hd := hexValue?_hexDigit (h d (by simp))
    simp only [List.length_cons, List.map_cons, List.cons_append, hexNumber?, hd]
    exact ih _ fun e he => h e (by simp [he])

/-! ## Section 2: Escapes -/

theorem isCharNumber_toNat (c : Char) : isCharNumber c.toNat = true := by
  have hvalid : c.toNat < 0xD800 ∨ (0xDFFF < c.toNat ∧ c.toNat < 0x110000) := c.valid
  simpa [isCharNumber] using hvalid

/-- A backslash with what stands behind it, which is read as a character. -/
structure IsEscape (c : Char) (written : List Char) : Prop where
  opens : ∃ letter more, written = '\\' :: letter :: more ∧ isBreak letter = false
  allowed : ∀ d ∈ written, isAllowed d = true
  read (start mark : Mark) (rest : List Char) :
    readEscape start ⟨written ++ rest, mark⟩ = .ok (c, ⟨rest, mark.past written⟩)

/-- A letter that stands for a character is read as that. -/
theorem isEscape_letter {letter c : Char} (h : escapeLetter? c = some letter) :
    IsEscape c ['\\', letter] := by
  -- The table of letters is small: what is written by a letter is what the letter names.
  have hletter : named? letter = some c ∧ isBreak letter = false ∧ isAllowed letter = true := by
    unfold escapeLetter? at h
    split at h <;> cases h <;> decide
  obtain ⟨hnamed, hbreak, hallowed⟩ := hletter
  refine ⟨⟨letter, [], rfl, hbreak⟩, ?_, ?_⟩
  · intro d hd
    rcases List.mem_cons.mp hd with rfl | hd
    · decide
    · rwa [List.mem_singleton.mp hd]
  · intro start mark rest
    have hpeek : Cursor.peekAt ⟨['\\', letter] ++ rest, mark⟩ 1 = letter := rfl
    have hskip : Cursor.skip ⟨['\\', letter] ++ rest, mark⟩ 2 = ⟨rest, mark.past ['\\', letter]⟩ :=
      Cursor.skip_append ['\\', letter] rest mark
    simp only [readEscape, hpeek, hnamed, hskip]

/-- The number of a character in some width is read as the character. -/
theorem isEscape_number {letter c : Char} {width : Nat} (hname : named? letter = none)
    (hdigits : digits? letter = some width)
    (hletter : isBreak letter = false ∧ isAllowed letter = true) (hpos : 0 < width)
    (h : c.toNat < 16 ^ width) : IsEscape c ('\\' :: letter :: hexDigits width c.toNat) := by
  obtain ⟨digits, rfl, hbound, hwritten, hvalue⟩ := exists_hexDigits hpos h
  rw [hwritten]
  refine ⟨⟨letter, _, rfl, hletter.1⟩, ?_, ?_⟩
  · intro d hd
    rcases List.mem_cons.mp hd with rfl | hd
    · decide
    rcases List.mem_cons.mp hd with rfl | hd
    · exact hletter.2
    · obtain ⟨k, hk, rfl⟩ := List.mem_map.mp hd
      exact isAllowed_hexDigit (hbound k hk)
  · intro start mark rest
    -- The letter is behind the backslash, and all digits are passed over at once.
    have hskip : Cursor.skip ⟨'\\' :: letter :: (digits.map hexDigit ++ rest), mark⟩ 2
        = ⟨digits.map hexDigit ++ rest, mark.past ['\\', letter]⟩ :=
      Cursor.skip_append ['\\', letter] _ mark
    have hlast : Cursor.skip ⟨digits.map hexDigit ++ rest, mark.past ['\\', letter]⟩ digits.length
        = ⟨rest, (mark.past ['\\', letter]).past (digits.map hexDigit)⟩ := by
      have hall := Cursor.skip_append (digits.map hexDigit) rest (mark.past ['\\', letter])
      rwa [List.length_map] at hall
    have hpeek : Cursor.peekAt ⟨'\\' :: letter :: (digits.map hexDigit ++ rest), mark⟩ 1
        = letter := rfl
    simp only [List.cons_append, readEscape, hpeek, hname, hdigits, hskip,
      hexNumber?_map 0 rest hbound, hvalue, isCharNumber_toNat, if_true, Char.ofNat_toNat, hlast,
      Mark.past_past]
    rfl

/-- One of three widths has room for the number of a character. -/
theorem isEscape_escapedNumber (c : Char) : IsEscape c (escapedNumber c) := by
  -- Characters end far below what eight digits can hold.
  have hvalid : c.toNat < 16 ^ 8 := by
    have hchar : c.toNat < 0xD800 ∨ (0xDFFF < c.toNat ∧ c.toNat < 0x110000) := c.valid
    omega
  unfold escapedNumber
  dsimp only
  -- The smallest width with room is taken, as in `escapedNumber`.
  by_cases hbyte : c.toNat ≤ 0xFF
  · rw [if_pos hbyte]
    exact isEscape_number rfl rfl (by decide) (by decide) (by omega)
  · rw [if_neg hbyte]
    by_cases hword : c.toNat ≤ 0xFFFF
    · rw [if_pos hword]
      exact isEscape_number rfl rfl (by decide) (by decide) (by omega)
    · rw [if_neg hword]
      exact isEscape_number rfl rfl (by decide) (by decide) hvalid

/-- In double quotes a character stands by itself, or there is an escape for it. -/
theorem escaped_cases (c : Char) :
    (escaped c = [c] ∧ escapeLetter? c = none ∧ isPrintable c = true) ∨ IsEscape c (escaped c) := by
  cases hletter : escapeLetter? c with
  | some letter =>
    right
    rw [escaped, hletter]
    exact isEscape_letter hletter
  | none =>
    rw [escaped, hletter]
    by_cases hprint : isPrintable c = true
    · exact .inl ⟨if_pos hprint, rfl, hprint⟩
    · right
      dsimp only
      rw [if_neg hprint]
      exact isEscape_escapedNumber c

/-! ## Section 3: Words -/

/-- A character as it stands in quotes. -/
def spell (single : Bool) (c : Char) : List Char :=
  if single then (if c = '\'' then ['\'', '\''] else [c]) else escaped c

/-- Does the character stand between words, as it is written in quotes? -/
def parts (single : Bool) (c : Char) : Bool := if single then isSpaceOrBreak c else c == ' '

/-- Can the character be written in quotes? -/
def canSpell (single : Bool) (c : Char) : Prop :=
  single = true → isPrintable c = true ∧ c ≠ '\n'

/-- A character in single quotes is read as itself. -/
theorem readWord_single (start mark : Mark) {c : Char} (fuel : Nat) (text rest : List Char)
    (h : isGapOrEnd c = false) :
    readWord true start (fuel + 1) text ⟨spell true c ++ rest, mark⟩
      = readWord true start fuel (text ++ [c]) ⟨rest, mark.past (spell true c)⟩ := by
  by_cases hquote : c = '\''
  -- A quote is doubled, and the pair is read as one quote.
  · subst hquote
    exact congrArg (readWord true start fuel (text ++ ['\'']))
      (Cursor.skip_append ['\'', '\''] rest mark)
  · have hspell : spell true c = [c] := by simp [spell, hquote]
    have hskip : Cursor.skip ⟨c :: rest, mark⟩ 1 = ⟨rest, mark.past [c]⟩ :=
      Cursor.skip_cons c rest mark
    simp [hspell, readWord, h, hquote, quoteOf, hskip]

/-- An escape is read as the character that it was written for. -/
theorem readWord_escape (start mark : Mark) {c : Char} {written : List Char} (fuel : Nat)
    (text rest : List Char) (h : IsEscape c written) :
    readWord false start (fuel + 1) text ⟨written ++ rest, mark⟩
      = readWord false start fuel (text ++ [c]) ⟨rest, mark.past written⟩ := by
  obtain ⟨letter, more, rfl, hbreak⟩ := h.opens
  -- The letter does not end the line, so this is no fold.
  have hread := h.read start mark rest
  have hgap : isGapOrEnd '\\' = false := by decide
  have hpeek : Cursor.peekAt ⟨'\\' :: letter :: more ++ rest, mark⟩ 1 = letter := rfl
  simp only [List.cons_append] at hread hpeek ⊢
  simp [readWord, hgap, hpeek, hbreak, hread, quoteOf]

/-- The characters that end lines have escapes. -/
theorem isGapOrEnd_of_unescaped {c : Char} (hletter : escapeLetter? c = none)
    (hprint : isPrintable c = true) (hspace : c ≠ ' ') : isGapOrEnd c = false := by
  have hbreak : isBreak c = false := by
    rw [← Bool.not_eq_true]
    intro hbreak
    -- Of the characters that end lines only three are printable, and each has a letter.
    rcases isBreak_cases hbreak hprint with rfl | rfl | rfl <;> cases hletter
  exact isGapOrEnd_of_isPrintable hprint (by simp [isSpaceOrBreak, hspace, hbreak])

/-- A character in double quotes is read as itself or by its escape. -/
theorem readWord_double (start mark : Mark) {c : Char} (fuel : Nat) (text rest : List Char)
    (h : c ≠ ' ') :
    readWord false start (fuel + 1) text ⟨spell false c ++ rest, mark⟩
      = readWord false start fuel (text ++ [c]) ⟨rest, mark.past (spell false c)⟩ := by
  have hspell : spell false c = escaped c := rfl
  rw [hspell]
  rcases escaped_cases c with ⟨hescaped, hletter, hprint⟩ | hescape
  · -- A quote and a backslash have escapes, so that this is neither.
    have hquote : c ≠ '"' := by
      rintro rfl
      cases hletter
    have hslash : c ≠ '\\' := by
      rintro rfl
      cases hletter
    have hgap := isGapOrEnd_of_unescaped hletter hprint h
    have hskip : Cursor.skip ⟨c :: rest, mark⟩ 1 = ⟨rest, mark.past [c]⟩ :=
      Cursor.skip_cons c rest mark
    rw [hescaped]
    simp [readWord, hgap, hquote, hslash, quoteOf, hskip]
  · exact readWord_escape start mark fuel text rest hescape

/-- A word is read character by character. -/
theorem readWord_spell {single : Bool} (start mark : Mark) {word : List Char} (fuel : Nat)
    (text rest : List Char) (hspell : ∀ c ∈ word, canSpell single c)
    (hword : ∀ c ∈ word, parts single c = false) :
    readWord single start (fuel + word.length) text ⟨word.flatMap (spell single) ++ rest, mark⟩
      = readWord single start fuel (text ++ word)
        ⟨rest, mark.past (word.flatMap (spell single))⟩ := by
  -- By induction on the word: one character is one round, and what it adds is behind `text`.
  induction word generalizing text mark with
  | nil =>
    rw [List.append_nil]
    rfl
  | cons c word ih =>
    have hc := hword c (by simp)
    have hfirst : ∀ more, readWord single start (fuel + word.length + 1) text
        ⟨spell single c ++ more, mark⟩
          = readWord single start (fuel + word.length) (text ++ [c])
            ⟨more, mark.past (spell single c)⟩ := by
      intro more
      -- The two kinds of quotes share only the shape of the step.
      cases single with
      | true =>
        obtain ⟨hprint, _⟩ := hspell c (by simp) rfl
        exact readWord_single start mark _ text more (isGapOrEnd_of_isPrintable hprint hc)
      | false => exact readWord_double start mark _ text more (by simpa [parts] using hc)
    rw [List.flatMap_cons, List.append_assoc, List.length_cons, ← Nat.add_assoc, hfirst,
      ih _ _ (fun d hd => hspell d (by simp [hd])) fun d hd => hword d (by simp [hd]),
      Mark.past_past, List.append_assoc, List.singleton_append]

/-- A word ends at a gap. -/
theorem readWord_of_gap {single : Bool} (start mark : Mark) (fuel : Nat) (text : List Char)
    {c : Char} (rest : List Char) (h : isGapOrEnd c = true) :
    readWord single start fuel text ⟨c :: rest, mark⟩ = .ok ⟨text, false, ⟨c :: rest, mark⟩⟩ := by
  cases fuel with
  | zero => rfl
  | succ fuel => simp [readWord, h]

/-- A word ends at the closing quote, unless another one follows it. -/
theorem readWord_of_quote (single : Bool) (start mark : Mark) (fuel : Nat) (text : List Char)
    {rest : List Char} (h : rest.headD terminator ≠ '\'') :
    readWord single start fuel text ⟨quoteOf single :: rest, mark⟩
      = .ok ⟨text, false, ⟨quoteOf single :: rest, mark⟩⟩ := by
  cases fuel with
  | zero => rfl
  | succ fuel =>
    have hgap : isGapOrEnd (quoteOf single) = false := by cases single <;> decide
    -- Two quotes in a row would be one of the text.
    have hnext : (rest.headD terminator == '\'') = false := beq_eq_false_iff_ne.mpr h
    have hpeek : Cursor.peekAt ⟨quoteOf single :: rest, mark⟩ 1 = rest.headD terminator := rfl
    simp only [readWord, Cursor.peek_cons, hpeek, hgap, hnext, Bool.and_false, if_false,
      Bool.false_eq_true, beq_self_eq_true, if_true]

/-! ## Section 4: What is written -/

/-- A text as it stands between quotes. -/
def inner (single : Bool) (text : List Char) : List Char :=
  if single then singleInner false text else text.flatMap escaped

/-- A text that can be written in quotes, or what is left of one. -/
structure Quotable (single : Bool) (text : List Char) : Prop where
  spelled : ∀ c ∈ text, canSpell single c
  before : single = true → hasSpaceBeforeBreak text = false
  after : single = true → hasSpaceAfterBreak text = false

namespace Quotable

/-- Every text can be written in double quotes. -/
theorem double (text : List Char) : Quotable false text := ⟨nofun, nofun, nofun⟩

theorem of_allowsSingle {text : List Char} (h : allowsSingle text = true) (hline : '\n' ∉ text) :
    Quotable true text := by
  simp only [allowsSingle, Bool.and_eq_true, Bool.not_eq_true', List.all_eq_true] at h
  refine ⟨?_, fun _ => h.1.2, fun _ => h.2⟩
  intro c hc _
  refine ⟨h.1.1 c hc, ?_⟩
  rintro rfl
  exact hline hc

theorem of_append {single : Bool} {front text back : List Char}
    (h : Quotable single (front ++ (text ++ back))) : Quotable single text :=
  ⟨fun c hc => h.spelled c (by simp [hc]), fun hs => hasPair_of_append (h.before hs),
    fun hs => hasPair_of_append (h.after hs)⟩

/-- A gap of a text in single quotes is made of spaces or of line ends, and one in double quotes
of spaces. -/
theorem uniform {single : Bool} {gap : List Char} (h : Quotable single gap)
    (hgap : ∀ c ∈ gap, parts single c = true) :
    (∀ c ∈ gap, c = ' ') ∨ (single = true ∧ ∀ c ∈ gap, isBreak c = true) := by
  -- By induction on the gap: its first character is of the kind of its second.
  induction gap with
  | nil => exact .inl nofun
  | cons c gap ih =>
    have htail : Quotable single gap := by
      have hsplit : c :: gap = [c] ++ (gap ++ []) := by simp
      rw [hsplit] at h
      exact h.of_append
    have hc := hgap c (by simp)
    cases single with
    -- In double quotes only spaces part words.
    | false =>
      refine .inl fun d hd => ?_
      simpa [parts] using hgap d hd
    | true =>
      simp only [parts, if_true, isSpaceOrBreak, Bool.or_eq_true, beq_iff_eq] at hc
      cases gap with
      | nil => simpa using hc
      | cons d gap =>
        -- A space and a line end are never neighbours, whichever of them comes first.
        have hbefore : (c == ' ' && isBreak d) = false := by
          have hpair := h.before rfl
          rw [hasSpaceBeforeBreak, hasPair_cons_cons, Bool.or_eq_false_iff] at hpair
          exact hpair.1
        have hafter : (isBreak c && d == ' ') = false := by
          have hpair := h.after rfl
          rw [hasSpaceAfterBreak, hasPair_cons_cons, Bool.or_eq_false_iff] at hpair
          exact hpair.1
        have hspace : isBreak ' ' = false := by decide
        rcases ih htail fun e he => hgap e (List.mem_cons_of_mem _ he) with hall | ⟨_, hall⟩
        · refine .inl (List.forall_mem_cons.mpr ⟨?_, hall⟩)
          have hd : d = ' ' := hall d (by simp)
          subst hd
          rcases hc with hc | hc
          · exact hc
          · simp [hc] at hafter
        · refine .inr ⟨rfl, List.forall_mem_cons.mpr ⟨?_, hall⟩⟩
          have hd : isBreak d = true := hall d (by simp)
          rcases hc with hc | hc
          · simp [hc, hd] at hbefore
          · exact hc

end Quotable

/-- Words are spelled character by character. -/
theorem inner_append {single : Bool} {word : List Char} (text : List Char)
    (h : ∀ c ∈ word, single = true → isBreak c = false) :
    inner single (word ++ text) = word.flatMap (spell single) ++ inner single text := by
  cases single with
  | false => exact List.flatMap_append
  -- In single quotes it matters where lines start, and inside a word none does.
  | true =>
    induction word with
    | nil => rfl
    | cons c word ih =>
      have hc := h c (by simp) rfl
      have htail := ih fun d hd => h d (by simp [hd])
      simp only [inner, if_true] at htail ⊢
      simp [singleInner, hc, htail, spell]

theorem flatMap_spell_spaces (single : Bool) {spaces : List Char} (h : ∀ c ∈ spaces, c = ' ') :
    spaces.flatMap (spell single) = spaces := by
  have hspace : spell single ' ' = [' '] := by cases single <;> decide
  induction spaces with
  | nil => rfl
  | cons c spaces ih =>
    have hc : c = ' ' := h c (by simp)
    rw [List.flatMap_cons, ih fun d hd => h d (by simp [hd]), hc, hspace]
    rfl

/-- Behind line ends the next line is indented. -/
theorem inner_append_breaks {breaks text : List Char} (hne : breaks ≠ [])
    (hbreaks : ∀ c ∈ breaks, isBreak c = true) (hnext : ∀ c ∈ text.head?, isBreak c = false) :
    inner true (breaks ++ text) = breaks ++ (indent ++ inner true text) := by
  have hline : singleInner true text = indent ++ singleInner false text := by
    cases text with
    | nil => rfl
    | cons c text =>
      have hc : isBreak c = false := hnext c rfl
      simp [singleInner, hc]
  -- Whether a line starts matters in front of the first line end only, so it is generalised.
  have hall : ∀ lineStart, breaks ≠ [] →
      singleInner lineStart (breaks ++ text) = breaks ++ singleInner true text := by
    clear hne
    induction breaks with
    | nil => exact fun _ hne => absurd rfl hne
    | cons c breaks ih =>
      intro lineStart _
      have hc : isBreak c = true := hbreaks c (by simp)
      cases breaks with
      | nil => simp [singleInner, hc]
      | cons d breaks =>
        have htail := ih (fun e he => hbreaks e (List.mem_cons_of_mem _ he)) true
          (List.cons_ne_nil d breaks)
        simp only [List.cons_append] at htail ⊢
        rw [singleInner, if_pos hc, htail]
  have hfirst := hall false hne
  simp only [inner, if_true, hfirst, hline]

/-! ## Section 5: Characters that are written -/

theorem isAllowed_of_mem_escaped {c d : Char} (h : d ∈ escaped c) : isAllowed d = true := by
  rcases escaped_cases c with ⟨hescaped, _, hprint⟩ | hescape
  · rw [hescaped] at h
    rw [List.mem_singleton.mp h]
    exact isAllowed_of_isPrintable hprint
  · exact hescape.allowed d h

theorem isAllowed_of_mem_indent {lineStart : Bool} {d : Char}
    (h : d ∈ if lineStart then indent else []) : isAllowed d = true := by
  cases lineStart with
  | true =>
    simp only [indent, if_true, List.mem_cons, List.not_mem_nil, or_false, or_self] at h
    rw [h]
    decide
  | false => cases h

theorem isAllowed_of_mem_singleInner {text : List Char} {lineStart : Bool} {d : Char}
    (htext : ∀ c ∈ text, isPrintable c = true) (h : d ∈ singleInner lineStart text) :
    isAllowed d = true := by
  induction text generalizing lineStart with
  | nil => exact isAllowed_of_mem_indent h
  | cons c text ih =>
    have hc : isAllowed c = true := isAllowed_of_isPrintable (htext c (by simp))
    have htail : ∀ x ∈ text, isPrintable x = true := fun x hx => htext x (by simp [hx])
    rw [singleInner] at h
    -- A line end stands as it is; in front of anything else the indentation may stand.
    split at h
    · rcases List.mem_cons.mp h with rfl | hd
      · exact hc
      · exact ih htail hd
    · rcases List.mem_append.mp h with hd | hd
      · rcases List.mem_append.mp hd with hd | hd
        · exact isAllowed_of_mem_indent hd
        · split at hd
          · simp only [List.mem_cons, List.not_mem_nil, or_false, or_self] at hd
            rw [hd]
            decide
          · rwa [List.mem_singleton.mp hd]
      · exact ih htail hd

theorem isAllowed_of_mem_inner {single : Bool} {text : List Char} (h : Quotable single text)
    {d : Char} (hd : d ∈ inner single text) : isAllowed d = true := by
  cases single with
  | true => exact isAllowed_of_mem_singleInner (fun c hc => (h.spelled c hc rfl).1) hd
  -- In double quotes the reason is local: each character is escaped on its own.
  | false =>
    obtain ⟨c, _, hmem⟩ := List.mem_flatMap.mp hd
    exact isAllowed_of_mem_escaped hmem

/-- A word starts neither with a gap nor with the end of the text. -/
theorem head_spell {single : Bool} {c : Char} (hspell : canSpell single c)
    (hpart : parts single c = false) :
    ∃ d more, spell single c = d :: more ∧ isGapOrEnd d = false := by
  cases single with
  -- A quote is doubled, and stays a quote in front.
  | true =>
    have hgap := isGapOrEnd_of_isPrintable (hspell rfl).1 hpart
    by_cases hquote : c = '\''
    · exact ⟨'\'', ['\''], by simp [spell, hquote], by decide⟩
    · exact ⟨c, [], by simp [spell, hquote], hgap⟩
  | false =>
    have hspell : spell false c = escaped c := rfl
    rw [hspell]
    rcases escaped_cases c with ⟨hescaped, hletter, hprint⟩ | hescape
    · have hspace : c ≠ ' ' := by simpa [parts] using hpart
      exact ⟨c, [], hescaped, isGapOrEnd_of_unescaped hletter hprint hspace⟩
    · obtain ⟨letter, more, hwritten, _⟩ := hescape.opens
      exact ⟨'\\', letter :: more, hwritten, by decide⟩

theorem isGapOrEnd_of_parts {single : Bool} {c : Char} (h : parts single c = true) :
    isGapOrEnd c = true := by
  have hspace : isGapOrEnd ' ' = true := by decide
  cases single with
  | false =>
    have hc : c = ' ' := by simpa [parts] using h
    rwa [hc]
  | true =>
    simp only [parts, if_true, isSpaceOrBreak, Bool.or_eq_true, beq_iff_eq] at h
    rcases h with rfl | h
    · exact hspace
    · simp [isGapOrEnd, isBreakOrEnd, h]

theorem isBreak_of_not_parts {single : Bool} {word : List Char}
    (h : ∀ c ∈ word, parts single c = false) : ∀ c ∈ word, single = true → isBreak c = false := by
  rintro c hc rfl
  have hc := h c hc
  simp only [parts, if_true, isSpaceOrBreak, Bool.or_eq_false_iff] at hc
  exact hc.2

theorem length_le_flatMap_spell {single : Bool} {word : List Char}
    (hspell : ∀ c ∈ word, canSpell single c) (hword : ∀ c ∈ word, parts single c = false) :
    word.length ≤ (word.flatMap (spell single)).length := by
  induction word with
  | nil => exact Nat.le_refl 0
  | cons c word ih =>
    -- No character is spelled by nothing.
    obtain ⟨d, more, hc, _⟩ := head_spell (hspell c (by simp)) (hword c (by simp))
    have htail := ih (fun e he => hspell e (by simp [he])) fun e he => hword e (by simp [he])
    rw [List.flatMap_cons, hc]
    simp only [List.length_cons, List.length_append]
    omega

/-! ## Section 6: Texts -/

/-- One round of reading: a word, and the closing quote or the gap behind it. -/
theorem readWords_word {single : Bool} (start : Mark) {mark : Mark} {word rest : List Char}
    (fuel : Nat) (text : List Char) (hspell : ∀ c ∈ word, canSpell single c)
    (hword : ∀ c ∈ word, parts single c = false) (hcolumn : 0 < mark.column)
    (hend : (word.flatMap (spell single) ++ rest).headD terminator ≠ terminator)
    (hstop : ∀ fuel text mark, readWord single start fuel text ⟨rest, mark⟩
      = .ok ⟨text, false, ⟨rest, mark⟩⟩) :
    readWords single start (fuel + 1) text ⟨word.flatMap (spell single) ++ rest, mark⟩
      = if rest.headD terminator == quoteOf single then
          .ok (text ++ word,
            Cursor.skip ⟨rest, mark.past (word.flatMap (spell single))⟩ 1)
        else
          let gap := Gap.none.readFreely ⟨rest, mark.past (word.flatMap (spell single))⟩
          readWords single start fuel (text ++ word ++ gap.1.folded) gap.2 := by
  have hmarker := Cursor.isDocumentMarker_of_column
    (c := ⟨word.flatMap (spell single) ++ rest, mark⟩) hcolumn
  have hatEnd : Cursor.atEnd ⟨word.flatMap (spell single) ++ rest, mark⟩ = false :=
    beq_eq_false_iff_ne.mpr hend
  -- There is fuel for all characters of the word.
  obtain ⟨more, hmore⟩ : ∃ more, (word.flatMap (spell single) ++ rest).length + 1
      = more + word.length := by
    have hle := length_le_flatMap_spell hspell hword
    refine ⟨(word.flatMap (spell single) ++ rest).length + 1 - word.length, ?_⟩
    rw [List.length_append]
    omega
  have hread : readWord single start ((word.flatMap (spell single) ++ rest).length + 1) text
      ⟨word.flatMap (spell single) ++ rest, mark⟩
        = .ok ⟨text ++ word, false, ⟨rest, mark.past (word.flatMap (spell single))⟩⟩ := by
    rw [hmore, readWord_spell start mark more text rest hspell hword, hstop]
  -- What is left is the choice between the quote and a gap.
  simp only [readWords, hmarker, hatEnd, hread, Bool.false_eq_true, if_false]
  rfl

/-- No line ends where the text is written, unless an escape stands for the end. -/
def OnOneLine (single : Bool) (text : List Char) : Prop :=
  single = true → ∀ c ∈ text, isBreak c = false

/-- A gap is read as it was before it was written. -/
theorem readFreely_gap {single : Bool} {gap text rest : List Char} {mark : Mark}
    (h : Quotable single gap) (hgap : ∀ c ∈ gap, parts single c = true) (hne : gap ≠ [])
    (hnext : ∀ c ∈ text.head?, parts single c = false)
    (hstop : ∀ c ∈ rest.head?, isGap c = false ∧ isBreak c = false) (hcolumn : 0 < mark.column) :
    ∃ (c : Char) (written : List Char) (read : Gap) (after : Mark),
      inner single (gap ++ text) = c :: written ++ inner single text ∧ isGapOrEnd c = true ∧
      0 < after.column ∧ (OnOneLine single gap → after = mark.past (c :: written)) ∧
      read.folded = gap ∧
      Gap.none.readFreely ⟨c :: written ++ rest, mark⟩ = (read, ⟨rest, after⟩) := by
  obtain ⟨c, gap, rfl⟩ := List.exists_cons_of_ne_nil hne
  have hc : isGapOrEnd c = true := isGapOrEnd_of_parts (hgap c (by simp))
  -- Spaces are read as they are, and line ends with the indentation of the next line.
  rcases h.uniform hgap with hspaces | ⟨rfl, hbreaks⟩
  · refine ⟨c, gap, ⟨c :: gap, [], [], false⟩, mark.past (c :: gap), ?_, hc, ?_, fun _ => rfl,
      rfl, ?_⟩
    · have hno : ∀ d ∈ c :: gap, single = true → isBreak d = false := by
        intro d hd _
        rw [hspaces d hd]
        decide
      rw [inner_append text hno, flatMap_spell_spaces single hspaces]
    · rw [Mark.column_past]
      omega
    · exact Gap.readFreely_of_read (Gap.read_spaces 0 mark hspaces hstop)
  · have hall : ∀ d ∈ c :: gap, isBreak d = true ∧ isPrintable d = true :=
      fun d hd => ⟨hbreaks d hd, (h.spelled d hd rfl).1⟩
    have hspaces : ∀ d ∈ indent, d = ' ' := by simp [indent]
    have hread := Gap.read_breaks 0 mark hall hspaces hstop
    have hline : ∀ d ∈ text.head?, isBreak d = false := by
      intro d hd
      have hd := hnext d hd
      simp only [parts, if_true, isSpaceOrBreak, Bool.or_eq_false_iff] at hd
      exact hd.2
    have hfeed : c ≠ '\n' := (h.spelled c (by simp) rfl).2
    -- Below the last line end the next line is indented, and that is read with the gap.
    refine ⟨c, gap ++ indent, ⟨[], [c], gap, true⟩, ((c :: gap).foldl Mark.below mark).past indent,
      ?_, hc, ?_, ?_, ?_, ?_⟩
    · rw [inner_append_breaks hne hbreaks hline]
      simp
    · rw [Mark.column_past, Mark.column_foldl_below]
      decide
    -- A text on one line has no such gap.
    · intro honeline
      have hnone := honeline rfl c (List.mem_cons_self ..)
      rw [hbreaks c (List.mem_cons_self ..)] at hnone
      cases hnone
    · simp [Gap.folded, hfeed]
    · apply Gap.readFreely_of_read
      rw [← hread]
      simp

/-- What stands in front of a quote starts with a word, unless the text starts with a gap. -/
theorem head_inner {single : Bool} {text : List Char} (rest : List Char)
    (h : Quotable single text) (hnext : ∀ c ∈ text.head?, parts single c = false) :
    ∀ c ∈ (inner single text ++ quoteOf single :: rest).head?,
      isGap c = false ∧ isBreak c = false := by
  have hstart : ∃ d more, inner single text ++ quoteOf single :: rest = d :: more ∧
      isGapOrEnd d = false := by
    -- Behind the text the quote follows, which is no gap either.
    cases text with
    | nil =>
      have hnil : inner single [] = [] := by cases single <;> rfl
      refine ⟨quoteOf single, rest, by rw [hnil]; rfl, ?_⟩
      cases single <;> decide
    | cons c text =>
      have hpart : parts single c = false := hnext c rfl
      obtain ⟨d, more, hd, hgap⟩ := head_spell (h.spelled c (by simp)) hpart
      have hno : ∀ x ∈ [c], single = true → isBreak x = false := by
        intro x hx hs
        rw [List.mem_singleton.mp hx]
        subst hs
        simp only [parts, if_true, isSpaceOrBreak, Bool.or_eq_false_iff] at hpart
        exact hpart.2
      have hinner := inner_append text hno
      rw [List.flatMap_singleton, hd] at hinner
      exact ⟨d, _, by rw [← List.singleton_append, hinner]; rfl, hgap⟩
  obtain ⟨d, more, heq, hd⟩ := hstart
  intro c hc
  rw [heq] at hc
  cases hc
  exact not_gap_of_isGapOrEnd hd

/-- The end of the text is not reached before the quote. -/
theorem inner_ne_terminator {single : Bool} {text : List Char} (rest : List Char)
    (h : Quotable single text) :
    (inner single text ++ quoteOf single :: rest).headD terminator ≠ terminator := by
  cases hinner : inner single text with
  | nil =>
    have hquote : quoteOf single ≠ terminator := by cases single <;> decide
    exact hquote
  -- The terminator is not allowed in a text, and everything that is written is.
  | cons c more =>
    have hc : isAllowed c = true := isAllowed_of_mem_inner h (by simp [hinner])
    rintro rfl
    exact absurd hc (by decide)

section

variable {single : Bool} {word gap text rest : List Char} {mark : Mark} (start : Mark)
  (fuel : Nat) (before : List Char) (hcolumn : 0 < mark.column)
  (inside : ∀ c ∈ word, parts single c = false)

include hcolumn inside

/-- The last word is read with the quote behind it. -/
theorem readWords_last (h : Quotable single word) (hrest : rest.headD terminator ≠ '\'') :
    readWords single start (fuel + 1) before ⟨inner single word ++ quoteOf single :: rest, mark⟩
      = .ok (before ++ word, ⟨rest, mark.past (inner single word ++ [quoteOf single])⟩) := by
  -- A word without gaps is spelled character by character up to the quote.
  have hinner : inner single word = word.flatMap (spell single) := by
    have hnil : inner single [] = [] := by cases single <;> rfl
    have hall := inner_append [] (isBreak_of_not_parts inside)
    rwa [hnil, List.append_nil, List.append_nil] at hall
  have hstop := fun fuel text mark => readWord_of_quote single start mark fuel text hrest
  have hend := inner_ne_terminator rest h
  rw [hinner] at hend ⊢
  rw [readWords_word start fuel before h.spelled inside hcolumn hend hstop, if_pos,
    Cursor.skip_cons, Mark.past_past]
  exact beq_self_eq_true _

/-- Another word is read with the gap behind it. -/
theorem readWords_next (h : Quotable single (word ++ (gap ++ text)))
    (between : ∀ c ∈ gap, parts single c = true) (parted : gap ≠ []) (htext : Quotable single text)
    (next : ∀ c ∈ text.head?, parts single c = false) :
    ∃ (front : List Char) (after : Mark),
      inner single (word ++ (gap ++ text)) = front ++ inner single text ∧ 0 < after.column ∧
      (OnOneLine single gap → after = mark.past front) ∧
      readWords single start (fuel + 1) before
          ⟨inner single (word ++ (gap ++ text)) ++ quoteOf single :: rest, mark⟩
        = readWords single start fuel (before ++ word ++ gap)
            ⟨inner single text ++ quoteOf single :: rest, after⟩ := by
  have hcolumn' : 0 < (mark.past (word.flatMap (spell single))).column := by
    rw [Mark.column_past]
    omega
  obtain ⟨c, written, read, after, hinner, hc, hafter, hline, hfolded, hread⟩ :=
    readFreely_gap h.of_append between parted next (head_inner rest htext next) hcolumn'
  -- What is written in front of the rest is the word and the gap as it is written.
  have hfront : inner single (word ++ (gap ++ text))
      = (word.flatMap (spell single) ++ c :: written) ++ inner single text := by
    rw [inner_append _ (isBreak_of_not_parts inside), hinner]
    simp
  have hwhole : inner single (word ++ (gap ++ text)) ++ quoteOf single :: rest
      = word.flatMap (spell single)
        ++ (c :: written ++ (inner single text ++ quoteOf single :: rest)) := by
    rw [hfront]
    simp
  have hend := inner_ne_terminator rest h
  rw [hwhole] at hend ⊢
  have hspell : ∀ c ∈ word, canSpell single c := fun c hc => h.spelled c (by simp [hc])
  have hstop : ∀ fuel before mark, readWord single start fuel before
      ⟨c :: written ++ (inner single text ++ quoteOf single :: rest), mark⟩
        = .ok ⟨before, false,
            ⟨c :: written ++ (inner single text ++ quoteOf single :: rest), mark⟩⟩ :=
    fun fuel before mark => readWord_of_gap start mark fuel before _ hc
  -- The gap does not start with the quote, so that reading goes on behind it.
  have hquote : (c == quoteOf single) = false := by
    rw [beq_eq_false_iff_ne]
    rintro rfl
    cases single <;> exact absurd hc (by decide)
  refine ⟨_, after, hfront, hafter, fun honeline => ?_, ?_⟩
  · rw [hline honeline, Mark.past_past]
  · rw [readWords_word start fuel before hspell inside hcolumn hend hstop, hread]
    simp [hquote, hfolded]

end

/-- A text is read up to the quote that closes it. -/
theorem readWords_inner {single : Bool} {text rest : List Char} (start : Mark)
    (h : Quotable single text) (hrest : rest.headD terminator ≠ '\'') :
    ∀ (fuel : Nat) (before : List Char) (mark : Mark), text.length < fuel → 0 < mark.column →
      ∃ after : Mark,
        (OnOneLine single text → after = mark.past (inner single text ++ [quoteOf single])) ∧
        readWords single start fuel before ⟨inner single text ++ quoteOf single :: rest, mark⟩
          = .ok (before ++ text, ⟨rest, after⟩) := by
  -- The induction is on the words of the text.
  induction Text.runs (parts single) text with
  | @word word inside =>
    intro fuel before mark hfuel hcolumn
    obtain ⟨fuel, rfl⟩ : ∃ n, fuel = n + 1 := ⟨fuel - 1, by omega⟩
    exact ⟨_, fun _ => rfl, readWords_last start fuel before hcolumn inside h hrest⟩
  | @step word gap text inside between parted next _ ih =>
    intro fuel before mark hfuel hcolumn
    obtain ⟨fuel, rfl⟩ : ∃ n, fuel = n + 1 := ⟨fuel - 1, by omega⟩
    -- What is behind the gap can be written in quotes too, so the hypothesis applies to it.
    have htext : Quotable single text := by
      have hsplit : word ++ (gap ++ text) = (word ++ gap) ++ (text ++ []) := by simp
      rw [hsplit] at h
      exact h.of_append
    -- Each round reads some of the text, for no gap is empty.
    have hlength : text.length < fuel := by
      have hsome := List.length_pos_iff.mpr parted
      simp only [List.length_append] at hfuel
      omega
    obtain ⟨front, after, hfront, hafter, hgap, hread⟩ :=
      readWords_next start fuel before hcolumn inside h between parted htext next
    obtain ⟨last, hlast, hrun⟩ := ih htext fuel (before ++ word ++ gap) after hlength hafter
    refine ⟨last, fun honeline => ?_, ?_⟩
    · rw [hlast fun hs c hc => honeline hs c (by simp [hc]),
        hgap fun hs c hc => honeline hs c (by simp [hc]), hfront, Mark.past_past,
        List.append_assoc]
    · rw [hread, hrun]
      simp

theorem length_escaped_pos (c : Char) : 0 < (escaped c).length := by
  rcases escaped_cases c with ⟨hescaped, _⟩ | hescape
  · rw [hescaped]
    exact Nat.one_pos
  · obtain ⟨letter, more, hwritten, _⟩ := hescape.opens
    rw [hwritten]
    exact Nat.succ_pos _

/-- Nothing that is written is shorter than the text. -/
theorem length_le_inner (single : Bool) (text : List Char) :
    text.length ≤ (inner single text).length := by
  cases single with
  | false =>
    show text.length ≤ (text.flatMap escaped).length
    induction text with
    | nil => exact Nat.le_refl 0
    | cons c text ih =>
      have hc := length_escaped_pos c
      rw [List.flatMap_cons, List.length_append, List.length_cons]
      omega
  | true =>
    -- The indentation can only add to it, so that it does not matter where a line starts.
    have hall : ∀ lineStart, text.length ≤ (singleInner lineStart text).length := by
      induction text with
      | nil => exact fun _ => Nat.zero_le _
      | cons c text ih =>
        intro lineStart
        have hrest := ih true
        have hline := ih false
        have hc : 0 < (if c = '\'' then ['\'', '\''] else [c]).length := by
          split <;> simp
        rw [singleInner]
        split
        · rw [List.length_cons, List.length_cons]
          omega
        · simp only [List.length_append, List.length_cons]
          omega
    exact hall false

/-- A quoted text is read back. -/
theorem read_inner {single : Bool} {text rest : List Char} (mark : Mark)
    (h : Quotable single text) (hrest : rest.headD terminator ≠ '\'') :
    ∃ after : Mark,
      (OnOneLine single text →
        after = mark.past (quoteOf single :: (inner single text ++ [quoteOf single]))) ∧
      read single ⟨quoteOf single :: (inner single text ++ quoteOf single :: rest), mark⟩
        = .ok (text, ⟨rest, after⟩) := by
  -- What is written is at least as long as the text, so there is fuel for a round per character.
  have hlength : text.length
      < (quoteOf single :: (inner single text ++ quoteOf single :: rest)).length + 1 := by
    have hle := length_le_inner single text
    simp only [List.length_cons, List.length_append]
    omega
  have hcolumn : 0 < (mark.past [quoteOf single]).column := by
    rw [Mark.column_past, List.length_singleton]
    omega
  obtain ⟨after, hafter, hrun⟩ := readWords_inner mark h hrest _ [] _ hlength hcolumn
  refine ⟨after, fun honeline => ?_, ?_⟩
  · rw [hafter honeline, Mark.past_past]
    rfl
  · rw [read, Cursor.skip_cons, hrun, List.nil_append]

end ChangeLint.Yaml.Quoted
