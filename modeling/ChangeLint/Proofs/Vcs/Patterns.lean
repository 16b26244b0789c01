import ChangeLint.Proofs.Glob.Language
import ChangeLint.Proofs.Text.Trimming
import ChangeLint.Vcs.Include

/-! # What include patterns ask for

Patterns ask for texts of globs: their own texts, without the blanks around them and with slashes
for backslashes, as far as anything is left.  Whether a filter can be made of them, and what it
lets pass, depends on these texts alone, and neither on their order nor on how often each is asked
for.

* `Asks` are the texts asked for, `Wanted` the paths.
* `exists_ofPatterns_iff` says of which patterns a filter can be made, `ofPatterns_of_firstFault`
  what is said of others.
* `admits_iff` says what a filter lets pass.
* `Reworded` are patterns that ask for the same in other words. -/

namespace ChangeLint.Glob

/-! ## Section 1: Globs that can be matched together -/

/-- Is the glob matched as text, or by an expression that is not too deep? -/
def Fits (glob : Glob) : Prop := glob.matcher = .text ∨ glob.isTooDeep = false

/-- Globs can be matched together if each can be matched. -/
theorem joinFault?_eq_none_iff {globs : List Glob} :
    joinFault? globs = none ↔ ∀ glob ∈ globs, glob.Fits := by
  -- A glob may be refused in either of two places, one for each way of matching by an expression.
  have hfits (glob : Glob) : glob.Fits ↔
      ¬ (glob.matcher = .extension ∧ glob.isTooDeep = true) ∧
        (glob.matcher = .expression → glob.isTooDeep = false) := by
    unfold Fits
    cases glob.matcher <;> simp
  unfold joinFault?
  constructor
  · intro h
    split at h
    · cases h
    · next halone =>
      rw [Option.map_eq_none_iff, List.findIdx?_eq_none_iff] at h
      rw [List.find?_eq_none] at halone
      intro glob hglob
      refine (hfits glob).mpr ⟨?_, ?_⟩
      · simpa using halone glob hglob
      · intro hmatcher
        exact h glob (List.mem_filter.mpr ⟨hglob, by simp [hmatcher]⟩)
  · intro h
    have halone : globs.find? (fun glob => glob.matcher = .extension && glob.isTooDeep) = none := by
      rw [List.find?_eq_none]
      intro glob hglob
      simpa using ((hfits glob).mp (h glob hglob)).1
    rw [halone]
    -- None is refused on its own, so what is left are the expressions that are joined.
    show Option.map _ _ = none
    rw [Option.map_eq_none_iff, List.findIdx?_eq_none_iff]
    intro glob hglob
    obtain ⟨hmem, hmatcher⟩ := List.mem_filter.mp hglob
    exact ((hfits glob).mp (h glob hmem)).2 (by simpa using hmatcher)

end ChangeLint.Glob

namespace ChangeLint.Vcs.Include

/-! ## Section 2: One pattern -/

theorem normalized_eq_nil_iff {pattern : String} :
    normalized pattern = [] ↔ Text.isBlankText pattern = true := by
  unfold normalized Text.forwardSlashes Text.isBlankText
  rw [List.map_eq_nil_iff, Text.trimmed_eq_nil_iff]

/-- The pattern is not blank, and is the glob of a text. -/
def Names (pattern : String) (text : List Char) : Prop :=
  Text.isBlankText pattern = false ∧ normalized pattern = text

/-- The pattern is not blank, and no glob. -/
def Faulty (pattern : String) (fault : Glob.Fault) : Prop :=
  Text.isBlankText pattern = false ∧ Glob.read (normalized pattern) = .error fault

section

variable {pattern : String}

theorem readPattern_of_blank (h : Text.isBlankText pattern = true) :
    readPattern pattern = .ok none := by
  unfold readPattern
  rw [normalized_eq_nil_iff.mpr h]
  rfl

theorem not_isEmpty_normalized (h : Text.isBlankText pattern = false) :
    ¬ (normalized pattern).isEmpty = true := by
  rw [List.isEmpty_iff, normalized_eq_nil_iff, h]
  exact Bool.false_ne_true

theorem readPattern_of_names {text : List Char} {glob : Glob} (h : Names pattern text)
    (hread : Glob.read text = .ok glob) : readPattern pattern = .ok (some glob) := by
  obtain ⟨hblank, rfl⟩ := h
  unfold readPattern
  simp only [if_neg (not_isEmpty_normalized hblank), hread]

theorem readPattern_of_faulty {fault : Glob.Fault} (h : Faulty pattern fault) :
    readPattern pattern = .error (.user (faultText pattern fault)) := by
  unfold readPattern
  simp only [if_neg (not_isEmpty_normalized h.1), h.2]

end

/-! ## Section 3: Lists of patterns -/

/-- The patterns ask for a glob with this text. -/
def Asks (patterns : List String) (text : List Char) : Prop :=
  ∃ pattern ∈ patterns, Names pattern text

/-- The first pattern of a list that is no glob, although it is not blank. -/
def FirstFault (patterns : List String) (pattern : String) (fault : Glob.Fault) : Prop :=
  ∃ before after, patterns = before ++ pattern :: after ∧ Faulty pattern fault ∧
    ∀ other ∈ before, ¬ ∃ fault, Faulty other fault

/-- The path is a word of a glob that is asked for, or none is asked for. -/
def Wanted (patterns : List String) (path : String) : Prop :=
  (∀ pattern ∈ patterns, Text.isBlankText pattern = true) ∨
    ∃ text glob, Asks patterns text ∧ Glob.read text = .ok glob ∧
      Text.Utf8.bytes path ∈ glob.language

section

variable {patterns : List String}

/-- Patterns are read one by one up to the first fault. -/
theorem readPatterns_of_firstFault {pattern : String} {fault : Glob.Fault}
    (h : FirstFault patterns pattern fault) :
    readPatterns patterns = .error (.user (faultText pattern fault)) := by
  obtain ⟨before, after, rfl, hfault, hbefore⟩ := h
  -- By induction on the patterns in front, each of which is blank or a glob.
  induction before with
  | nil =>
    rw [List.nil_append, readPatterns, readPattern_of_faulty hfault]
    rfl
  | cons first before ih =>
    have hrest := ih fun other hother => hbefore other (List.mem_cons_of_mem first hother)
    have hfirst : ∃ glob, readPattern first = .ok glob := by
      cases hblank : Text.isBlankText first with
      | true => exact ⟨none, readPattern_of_blank hblank⟩
      | false =>
        cases hread : Glob.read (normalized first) with
        | ok glob => exact ⟨some glob, readPattern_of_names ⟨hblank, rfl⟩ hread⟩
        | error fault =>
          exact absurd ⟨fault, hblank, hread⟩ (hbefore first (List.mem_cons_self ..))
    obtain ⟨glob, hglob⟩ := hfirst
    rw [List.cons_append, readPatterns, hglob, hrest]
    rfl

/-- Without a fault all globs that are asked for are read, and no others. -/
theorem exists_readPatterns (h : ∀ pattern ∈ patterns, ¬ ∃ fault, Faulty pattern fault) :
    ∃ globs, readPatterns patterns = .ok globs ∧
      ∀ glob, glob ∈ globs ↔ ∃ text, Asks patterns text ∧ Glob.read text = .ok glob := by
  -- By induction on the patterns: a blank one adds nothing, and any other its glob.
  induction patterns with
  | nil => exact ⟨[], rfl, by simp [Asks]⟩
  | cons first patterns ih =>
    obtain ⟨globs, hrest, hglobs⟩ :=
      ih fun other hother => h other (List.mem_cons_of_mem first hother)
    have hasks (text : List Char) :
        Asks (first :: patterns) text ↔ Names first text ∨ Asks patterns text := by
      simp [Asks]
    simp only [hasks, readPatterns, hrest]
    cases hblank : Text.isBlankText first with
    | true =>
      have hnames (text : List Char) : ¬ Names first text := by simp [Names, hblank]
      refine ⟨globs, by rw [readPattern_of_blank hblank]; rfl, fun glob => ?_⟩
      simp only [hnames, false_or, hglobs]
    | false =>
      cases hread : Glob.read (normalized first) with
      | error fault => exact absurd ⟨fault, hblank, hread⟩ (h first (List.mem_cons_self ..))
      | ok read =>
        have hmade : readPattern first = .ok (some read) := readPattern_of_names ⟨hblank, rfl⟩ hread
        refine ⟨read :: globs, by rw [hmade]; rfl, fun glob => ?_⟩
        rw [List.mem_cons, hglobs]
        constructor
        · rintro (rfl | ⟨text, htext, hglob⟩)
          · exact ⟨_, .inl ⟨hblank, rfl⟩, hread⟩
          · exact ⟨text, .inr htext, hglob⟩
        · rintro ⟨text, ⟨_, rfl⟩ | htext, hglob⟩
          · rw [hread] at hglob
            exact .inl (Except.ok.inj hglob).symm
          · exact .inr ⟨text, htext, hglob⟩

/-- Of patterns either none is faulty, or there is a first one. -/
theorem faultless_or_firstFault (patterns : List String) :
    (∀ pattern ∈ patterns, ¬ ∃ fault, Faulty pattern fault) ∨
      ∃ pattern fault, FirstFault patterns pattern fault := by
  -- By induction on the patterns: the first one is faulty, or the first fault is behind it.
  induction patterns with
  | nil => exact .inl nofun
  | cons first patterns ih =>
    by_cases hfirst : ∃ fault, Faulty first fault
    · obtain ⟨fault, hfault⟩ := hfirst
      exact .inr ⟨first, fault, [], patterns, rfl, hfault, nofun⟩
    · rcases ih with hnone | ⟨pattern, fault, before, after, rfl, hfault, hbefore⟩
      · exact .inl (List.forall_mem_cons.mpr ⟨hfirst, hnone⟩)
      · exact .inr ⟨pattern, fault, first :: before, after, rfl, hfault,
          List.forall_mem_cons.mpr ⟨hfirst, hbefore⟩⟩

/-! ## Section 4: Filters -/

theorem ofPatterns_of_firstFault {pattern : String} {fault : Glob.Fault}
    (h : FirstFault patterns pattern fault) :
    ofPatterns patterns = .error (.user (faultText pattern fault)) := by
  rw [ofPatterns, readPatterns_of_firstFault h]
  rfl

/-- A filter holds the globs that are asked for, and each of them can be matched. -/
theorem ofPatterns_eq_ok {filter : Include} (h : ofPatterns patterns = .ok filter) :
    (∀ glob, glob ∈ filter.globs ↔ ∃ text, Asks patterns text ∧ Glob.read text = .ok glob) ∧
      (∀ text, Asks patterns text → ∃ glob, Glob.read text = .ok glob ∧ glob.Fits) := by
  -- With a fault there would be no filter.
  rcases faultless_or_firstFault patterns with hnone | ⟨pattern, fault, hfault⟩
  · obtain ⟨globs, hread, hglobs⟩ := exists_readPatterns hnone
    rw [ofPatterns, hread] at h
    replace h : ofGlobs globs = .ok filter := h
    unfold ofGlobs at h
    split at h
    · cases h
    · next hjoin =>
      obtain rfl := Except.ok.inj h
      refine ⟨hglobs, ?_⟩
      rintro text ⟨pattern, hpattern, hblank, rfl⟩
      cases hglob : Glob.read (normalized pattern) with
      | error fault => exact absurd ⟨fault, hblank, hglob⟩ (hnone pattern hpattern)
      | ok glob =>
        have hmem : glob ∈ globs := (hglobs glob).mpr ⟨_, ⟨pattern, hpattern, hblank, rfl⟩, hglob⟩
        exact ⟨glob, rfl, Glob.joinFault?_eq_none_iff.mp hjoin glob hmem⟩
  · rw [ofPatterns_of_firstFault hfault] at h
    cases h

/-- A filter can be made of patterns if each text that they ask for is a glob that can be
matched. -/
theorem exists_ofPatterns_iff : (∃ filter, ofPatterns patterns = .ok filter) ↔
    ∀ text, Asks patterns text → ∃ glob, Glob.read text = .ok glob ∧ glob.Fits := by
  constructor
  · rintro ⟨filter, hfilter⟩
    exact (ofPatterns_eq_ok hfilter).2
  · intro h
    -- A faulty pattern would ask for a text that is no glob.
    have hnone : ∀ pattern ∈ patterns, ¬ ∃ fault, Faulty pattern fault := by
      rintro pattern hpattern ⟨fault, hblank, hfault⟩
      obtain ⟨glob, hglob, _⟩ := h _ ⟨pattern, hpattern, hblank, rfl⟩
      rw [hfault] at hglob
      cases hglob
    obtain ⟨globs, hread, hglobs⟩ := exists_readPatterns hnone
    have hjoin : Glob.joinFault? globs = none := by
      refine Glob.joinFault?_eq_none_iff.mpr fun glob hglob => ?_
      obtain ⟨text, htext, hread⟩ := (hglobs glob).mp hglob
      obtain ⟨other, hother, hfits⟩ := h text htext
      rw [hread] at hother
      exact Except.ok.inj hother ▸ hfits
    refine ⟨⟨globs⟩, ?_⟩
    rw [ofPatterns, hread]
    show ofGlobs globs = _
    rw [ofGlobs, hjoin]

/-- A filter lets the paths pass that are wanted. -/
theorem admits_iff {filter : Include} (h : ofPatterns patterns = .ok filter) {path : String} :
    filter.admits path = true ↔ Wanted patterns path := by
  obtain ⟨hglobs, hasked⟩ := ofPatterns_eq_ok h
  -- A filter without globs lets everything pass, and that is one of blank patterns.
  have hempty : filter.globs = [] ↔ ∀ pattern ∈ patterns, Text.isBlankText pattern = true := by
    constructor
    · intro hnil pattern hpattern
      by_contra hblank
      have hnames : Asks patterns (normalized pattern) :=
        ⟨pattern, hpattern, Bool.not_eq_true _ ▸ hblank, rfl⟩
      obtain ⟨glob, hglob, _⟩ := hasked _ hnames
      have hmem := (hglobs glob).mpr ⟨_, hnames, hglob⟩
      rw [hnil] at hmem
      cases hmem
    · intro hblank
      refine List.eq_nil_iff_forall_not_mem.mpr fun glob hglob => ?_
      obtain ⟨_, ⟨pattern, hpattern, hnot, _⟩, _⟩ := (hglobs glob).mp hglob
      rw [hblank pattern hpattern] at hnot
      cases hnot
  unfold admits Wanted
  rw [Bool.or_eq_true, List.isEmpty_iff, hempty, List.any_eq_true]
  simp only [hglobs, Glob.isMatch_iff]
  constructor
  · rintro (hblank | ⟨glob, ⟨text, htext, hread⟩, hword⟩)
    · exact .inl hblank
    · exact .inr ⟨text, glob, htext, hread, hword⟩
  · rintro (hblank | ⟨text, glob, htext, hread, hword⟩)
    · exact .inl hblank
    · exact .inr ⟨glob, ⟨text, htext, hread⟩, hword⟩

end

/-! ## Section 5: The same in other words -/

/-- Two lists of patterns that ask for the same.  What is said of the first pattern holds of any,
as patterns may change places. -/
inductive Reworded : List String → List String → Prop
  | reordered {patterns other : List String} (h : patterns.Perm other) : Reworded patterns other
  | repeated {patterns : List String} {pattern : String} (h : pattern ∈ patterns) :
      Reworded patterns (pattern :: patterns)
  | blank {patterns : List String} {pattern : String} (h : Text.isBlankText pattern = true) :
      Reworded patterns (pattern :: patterns)
  | padded {patterns : List String} (pattern : String) {before after : String}
      (hbefore : Text.isBlankText before = true) (hafter : Text.isBlankText after = true) :
      Reworded (pattern :: patterns) ((before ++ pattern ++ after) :: patterns)
  | slashes {patterns : List String} {pattern other : String}
      (h : Text.forwardSlashes pattern.toList = Text.forwardSlashes other.toList) :
      Reworded (pattern :: patterns) (other :: patterns)
  | symm {patterns other : List String} (h : Reworded patterns other) : Reworded other patterns
  | trans {patterns between other : List String} (h : Reworded patterns between)
      (hnext : Reworded between other) : Reworded patterns other

/-- Patterns with the same normal form name the same. -/
theorem names_iff_of_normalized_eq {pattern other : String}
    (h : normalized pattern = normalized other) (text : List Char) :
    Names pattern text ↔ Names other text := by
  unfold Names
  rw [← Bool.not_eq_true, ← Bool.not_eq_true, ← normalized_eq_nil_iff, ← normalized_eq_nil_iff, h]

theorem asks_cons {pattern : String} {patterns : List String} {text : List Char} :
    Asks (pattern :: patterns) text ↔ Names pattern text ∨ Asks patterns text := by
  simp [Asks]

/-- Other words ask for the same texts. -/
theorem Reworded.asks_iff {patterns other : List String} (h : Reworded patterns other) :
    ∀ text, Asks patterns text ↔ Asks other text := by
  -- By induction on the rewording: each way of it leaves the normal forms that are asked for.
  induction h with
  | reordered h =>
    intro text
    simp only [Asks, h.mem_iff]
  | repeated h =>
    intro text
    rw [asks_cons]
    exact ⟨.inr, fun hor => hor.elim (fun hnames => ⟨_, h, hnames⟩) id⟩
  | blank h =>
    intro text
    simp [asks_cons, Names, h]
  | padded pattern hbefore hafter =>
    intro text
    rw [asks_cons, asks_cons, names_iff_of_normalized_eq]
    unfold normalized
    rw [String.toList_append, String.toList_append, Text.trimmed_padded hbefore hafter]
  | slashes h =>
    intro text
    rw [asks_cons, asks_cons, names_iff_of_normalized_eq]
    unfold normalized
    -- Backslashes are no blanks, so it does not matter which of both is done first.
    rw [← Text.trimmed_forwardSlashes, h, Text.trimmed_forwardSlashes]
  | symm _ ih => exact fun text => (ih text).symm
  | trans _ _ ih ihnext => exact fun text => (ih text).trans (ihnext text)

/-- Patterns that ask for nothing are blank. -/
theorem forall_blank_iff {patterns : List String} :
    (∀ pattern ∈ patterns, Text.isBlankText pattern = true) ↔ ∀ text, ¬ Asks patterns text := by
  constructor
  · rintro h text ⟨pattern, hpattern, hnot, _⟩
    rw [h pattern hpattern] at hnot
    cases hnot
  · intro h pattern hpattern
    by_contra hblank
    exact h _ ⟨pattern, hpattern, Bool.not_eq_true _ ▸ hblank, rfl⟩

/-- Other words want the same paths. -/
theorem Reworded.wanted_iff {patterns other : List String} (h : Reworded patterns other)
    (path : String) : Wanted patterns path ↔ Wanted other path := by
  unfold Wanted
  rw [forall_blank_iff, forall_blank_iff]
  -- What is wanted is said by what is asked for alone.
  simp only [h.asks_iff]

/-- A filter can be made of other words as well. -/
theorem Reworded.exists_ofPatterns_iff {patterns other : List String}
    (h : Reworded patterns other) :
    (∃ filter, ofPatterns patterns = .ok filter) ↔ ∃ filter, ofPatterns other = .ok filter := by
  rw [Include.exists_ofPatterns_iff, Include.exists_ofPatterns_iff]
  simp only [h.asks_iff]

/-- Filters of other words accept the same files. -/
theorem Reworded.accepts_eq {patterns other : List String} (h : Reworded patterns other)
    {filter second : Include} (hfilter : ofPatterns patterns = .ok filter)
    (hsecond : ofPatterns other = .ok second) : filter.accepts = second.accepts := by
  funext tree dir path
  have hadmits : filter.admits path = second.admits path := by
    rw [Bool.eq_iff_iff, admits_iff hfilter, admits_iff hsecond, h.wanted_iff]
  rw [accepts, accepts, hadmits]

end ChangeLint.Vcs.Include
