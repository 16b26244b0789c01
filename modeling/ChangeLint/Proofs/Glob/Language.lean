import Mathlib.Computability.Language
import ChangeLint.Glob.Matching

/-! # What globs match

A glob stands for a language of bytes.  The language is given token by token, without a word on
how a path is run through.  The matcher goes over a path from its end and keeps one truth value
for each rest of it; we show that these are the values of membership.

* `Token.language` and `Glob.language` are the languages.
* `Tells` says that truth values are those of a language, with one rule for each operation of the
  matcher.
* `isMatch_iff` says that a glob matches a path if the bytes of the path are a word of its
  language. -/

namespace ChangeLint.Glob

/-! ## Section 1: Languages -/

/-- The words of one byte of a class. -/
def byteOf (p : UInt8 → Bool) : Language UInt8 := {word | ∃ b, p b = true ∧ word = [b]}

/-- The word that is a slash. -/
def slash : Language UInt8 := byteOf isSlash

mutual

/-- What a token stands for.  A group stands for what its branches stand for that are not void;
if there are none, for the empty word. -/
def Token.language : Token → Language UInt8
  | .literal c => {String.utf8EncodeChar c}
  | .anyByte => byteOf fun _ => true
  | .anyBytes => ⊤
  | .leadingDirs => 1 + ⊤ * slash
  | .everythingBelow => slash * ⊤
  | .innerDirs => slash + slash * ⊤ * slash
  | .oneOf negated ranges => byteOf fun b => (ranges.any (rangeHolds · b)) != negated
  | .alternatives branches => if branchesAreVoid branches then 1 else branchesLanguage branches

/-- What a sequence of tokens stands for. -/
def tokensLanguage : List Token → Language UInt8
  | [] => 1
  | token :: tokens => token.language * tokensLanguage tokens

/-- What the branches of a group stand for that are not void. -/
def branchesLanguage : List (List Token) → Language UInt8
  | [] => 0
  | branch :: branches =>
    if tokensAreVoid branch then branchesLanguage branches
    else tokensLanguage branch + branchesLanguage branches

end

/-- What a glob stands for. -/
def language (glob : Glob) : Language UInt8 :=
  match glob.tokens with
  | [.leadingDirs] => ⊤
  | tokens => tokensLanguage tokens

/-- Only a glob that is nothing but leading directories is not matched token by token. -/
theorem language_of_ne {glob : Glob} (h : glob.tokens ≠ [.leadingDirs]) :
    glob.language = tokensLanguage glob.tokens := by
  unfold language
  split
  · next hdirs => exact absurd hdirs h
  · rfl

/-- A word of one byte and then some word. -/
theorem mem_byteOf_mul {p : UInt8 → Bool} {L : Language UInt8} {word : List UInt8} :
    word ∈ byteOf p * L ↔ ∃ b rest, word = b :: rest ∧ p b = true ∧ rest ∈ L := by
  rw [Language.mem_mul]
  constructor
  · rintro ⟨_, ⟨b, hb, rfl⟩, rest, hrest, rfl⟩
    exact ⟨b, rest, rfl, hb, hrest⟩
  · rintro ⟨b, rest, rfl, hb, hrest⟩
    exact ⟨[b], ⟨b, hb, rfl⟩, rest, hrest, rfl⟩

/-- Any word and then some word: a word that ends in it. -/
theorem mem_top_mul {L : Language UInt8} {word : List UInt8} :
    word ∈ ⊤ * L ↔ ∃ rest ∈ L, rest <:+ word := by
  rw [Language.mem_mul]
  constructor
  · rintro ⟨before, _, rest, hrest, rfl⟩
    exact ⟨rest, hrest, before, rfl⟩
  · rintro ⟨rest, hrest, before, rfl⟩
    exact ⟨before, trivial, rest, hrest, rfl⟩

/-- A word may be nothing before some word. -/
theorem add_top_mul (L : Language UInt8) : L + ⊤ * L = ⊤ * L := by
  ext word
  rw [Language.mem_add, mem_top_mul]
  constructor
  · rintro (hword | hends)
    · exact ⟨word, hword, List.suffix_refl word⟩
    · exact hends
  · exact .inr

/-! ## Section 2: Truth values of a language -/

/-- The truth values say of each rest of a path whether it is a word of a language. -/
inductive Tells (L : Language UInt8) : List UInt8 → Accepts → Prop
  | nil {ok : Bool} (first : ok = true ↔ [] ∈ L) : Tells L [] [ok]
  | cons {b : UInt8} {path : List UInt8} {ok : Bool} {rest : Accepts}
      (first : ok = true ↔ b :: path ∈ L) (others : Tells L path rest) :
      Tells L (b :: path) (ok :: rest)

namespace Tells

variable {L M : Language UInt8} {path : List UInt8} {acc other : Accepts}

/-- The first value is about the whole path. -/
theorem headD_iff (h : Tells L path acc) : acc.headD false = true ↔ path ∈ L := by
  cases h with
  | nil first => exact first
  | cons first others => exact first

/-- Some value holds if the path ends in a word. -/
theorem any_iff (h : Tells L path acc) : acc.any id = true ↔ path ∈ ⊤ * L := by
  rw [mem_top_mul]
  -- By induction on the path: it ends in a word if it is one or its rest ends in one.
  induction h with
  | nil first => simpa using first
  | @cons b path ok rest first others ih =>
    rw [List.any_cons, Bool.or_eq_true, ih, id_eq, first]
    constructor
    · rintro (hword | ⟨word, hword, hends⟩)
      · exact ⟨b :: path, hword, List.suffix_refl _⟩
      · exact ⟨word, hword, List.suffix_cons_iff.mpr (.inr hends)⟩
    · rintro ⟨word, hword, hends⟩
      rcases List.suffix_cons_iff.mp hends with rfl | hends
      · exact .inl hword
      · exact .inr ⟨word, hword, hends⟩

theorem atEnd (path : List UInt8) : Tells 1 path (.atEnd path) := by
  induction path with
  | nil => exact .nil (by simp [Language.mem_one])
  | cons b path ih => exact .cons (by simp [Language.mem_one]) ih

theorem never (path : List UInt8) : Tells 0 path (.never path) := by
  induction path with
  | nil => exact .nil (by simp [Language.notMem_zero])
  | cons b path ih => exact .cons (by simp [Language.notMem_zero]) ih

theorem or (h : Tells L path acc) (hother : Tells M path other) :
    Tells (L + M) path (acc.or other) := by
  -- Both lists of values go along the same path.
  induction h generalizing other with
  | nil first =>
    cases hother with
    | nil second => exact .nil (by rw [Bool.or_eq_true, first, second, Language.mem_add])
  | cons first _ ih =>
    cases hother with
    | cons second hothers =>
      exact .cons (by rw [Bool.or_eq_true, first, second, Language.mem_add]) (ih hothers)

/-- The values for what comes behind a byte stand one place further. -/
theorem afterByte (p : UInt8 → Bool) (h : Tells L path acc) :
    Tells (byteOf p * L) path (acc.afterByte p path) := by
  -- By induction on the path; the value for a rest looks one place ahead.
  induction h with
  | nil first => exact .nil (by simp [mem_byteOf_mul])
  | @cons b path ok rest first others ih =>
    have hbyte : ∀ next : Bool, (next = true ↔ path ∈ L) →
        ((p b && next) = true ↔ b :: path ∈ byteOf p * L) := by
      intro next hnext
      rw [Bool.and_eq_true, hnext, mem_byteOf_mul]
      constructor
      · rintro ⟨hb, hpath⟩
        exact ⟨b, path, rfl, hb, hpath⟩
      · rintro ⟨_, _, hcons, hb, hpath⟩
        obtain ⟨rfl, rfl⟩ := List.cons.inj hcons
        exact ⟨hb, hpath⟩
    -- The next value is there whether the path ends behind this byte or goes on.
    cases others with
    | nil next => exact .cons (hbyte _ next) ih
    | cons next _ => exact .cons (hbyte _ next) ih

theorem afterAnyBytes (h : Tells L path acc) : Tells (⊤ * L) path acc.afterAnyBytes := by
  -- Each value is whether one of those behind it holds.
  induction h with
  | nil first =>
    have hany := (Tells.nil first).any_iff
    exact .nil hany
  | cons first others ih =>
    have hany := (Tells.cons first others).any_iff
    exact .cons hany ih

/-- The values behind a fixed word, from those behind its last byte on. -/
theorem afterWord (h : Tells L path acc) (word : List UInt8) :
    Tells ({word} * L) path (word.foldr (fun b rest => rest.afterByte (· == b) path) acc) := by
  -- By induction on the word, whose bytes are put in front one by one.
  induction word with
  | nil => rwa [show ({[]} : Language UInt8) = 1 from rfl, one_mul]
  | cons b word ih =>
    have hcons : ({b :: word} : Language UInt8) = byteOf (· == b) * {word} := by
      ext other
      rw [mem_byteOf_mul]
      constructor
      · rintro rfl
        exact ⟨b, word, rfl, beq_self_eq_true b, rfl⟩
      · rintro ⟨c, _, rfl, hc, rfl⟩
        rw [beq_iff_eq.mp hc]
        rfl
    rw [hcons, mul_assoc]
    exact ih.afterByte (· == b)

end Tells

/-! ## Section 3: The matcher -/

/-! The matcher follows the tokens from the last one back; at each of them the values for the
language of what follows become those for the token and what follows it. -/

mutual

theorem Token.tells_accepts {L : Language UInt8} {path : List UInt8} {rest : Accepts}
    (h : Tells L path rest) : ∀ token : Token,
    Tells (token.language * L) path (token.accepts path rest)
  | .literal c => h.afterWord (String.utf8EncodeChar c)
  | .anyByte => h.afterByte _
  | .anyBytes => h.afterAnyBytes
  | .leadingDirs => by
    -- The last slash is read first, as the matcher comes from the end.
    have hslash : Tells (slash * L) path (rest.afterByte isSlash path) := h.afterByte isSlash
    -- Nothing, a slash, or anything and a slash: the second is a case of the third.
    have hdirs := h.or (hslash.or hslash.afterAnyBytes)
    rw [add_top_mul] at hdirs
    rw [Token.language, add_mul, one_mul, mul_assoc]
    exact hdirs
  | .everythingBelow => by
    rw [Token.language, mul_assoc]
    exact h.afterAnyBytes.afterByte isSlash
  | .innerDirs => by
    have hslash : Tells (slash * L) path (rest.afterByte isSlash path) := h.afterByte isSlash
    rw [Token.language, add_mul, mul_assoc, mul_assoc]
    exact hslash.or (hslash.afterAnyBytes.afterByte isSlash)
  | .oneOf _ _ => h.afterByte _
  | .alternatives branches => by
    rw [Token.language, Token.accepts]
    split
    · rwa [one_mul]
    · exact branches_tell h branches

theorem tokens_tell {L : Language UInt8} {path : List UInt8} {rest : Accepts}
    (h : Tells L path rest) : ∀ tokens : List Token,
    Tells (tokensLanguage tokens * L) path (tokensAccept path rest tokens)
  | [] => by
    rw [tokensLanguage, one_mul]
    exact h
  | token :: tokens => by
    rw [tokensLanguage, mul_assoc]
    exact Token.tells_accepts (tokens_tell h tokens) token

theorem branches_tell {L : Language UInt8} {path : List UInt8} {rest : Accepts}
    (h : Tells L path rest) : ∀ branches : List (List Token),
    Tells (branchesLanguage branches * L) path (branchesAccept path rest branches)
  | [] => by
    rw [branchesLanguage, zero_mul]
    exact .never path
  | branch :: branches => by
    rw [branchesLanguage, branchesAccept]
    split
    · exact branches_tell h branches
    · rw [add_mul]
      exact (tokens_tell h branch).or (branches_tell h branches)

end

/-- **The matcher decides the language of a glob**, for every glob and every path. -/
theorem isMatch_iff {glob : Glob} {path : String} :
    glob.isMatch path = true ↔ Text.Utf8.bytes path ∈ glob.language := by
  -- Leading directories alone match everything, though by their tokens they would not.
  by_cases hdirs : glob.tokens = [.leadingDirs]
  · obtain ⟨_⟩ := glob
    obtain rfl : _ = [Token.leadingDirs] := hdirs
    exact iff_of_true rfl trivial
  -- From the empty word at the end, all tokens are read back to the start of the path.
  · have htells := tokens_tell (.atEnd (Text.Utf8.bytes path)) glob.tokens
    rw [mul_one] at htells
    rw [language_of_ne hdirs, ← htells.headD_iff]
    unfold isMatch
    split
    · next h => exact absurd h hdirs
    · rfl

end ChangeLint.Glob
