import ChangeLint.Config.Basic
import ChangeLint.Proofs.Glob.Texts
import ChangeLint.Proofs.Text.Reading
import ChangeLint.Proofs.Vcs.Patterns

/-! # Filters by the end of a path

A text in which nothing has a meaning of its own is the most common pattern, alone or behind a
star.  Alone it accepts the file of that path; behind a star, all files whose paths end in it, in
whatever directory.

* `IsVerbatim` are the texts that a pattern takes as they are.
* `accepts_of_verbatim` says what is accepted for such a text, and what by default. -/

namespace ChangeLint.Vcs.Include

/-- A text that a pattern takes as it is: there is something in it, no blanks are around it, and
none of its characters has a meaning of its own. -/
structure IsVerbatim (text : String) : Prop where
  nonempty : text.toList ≠ []
  bareStart : ∀ c ∈ text.toList.head?, Text.isBlank c = false
  bareEnd : ∀ c ∈ text.toList.getLast?, Text.isBlank c = false
  plain : ∀ c ∈ text.toList, c ∉ Glob.metacharacters

/-- A text without backslashes and without blanks around it is its own normal form. -/
theorem normalized_eq_toList {pattern : String}
    (hstart : ∀ c ∈ pattern.toList.head?, Text.isBlank c = false)
    (hend : ∀ c ∈ pattern.toList.getLast?, Text.isBlank c = false)
    (hslashes : '\\' ∉ pattern.toList) : normalized pattern = pattern.toList := by
  -- No blank is at the start or the end, so nothing is trimmed.
  have hdropped : Text.dropBlanks pattern.toList = pattern.toList := by
    unfold Text.dropBlanks
    cases hchars : pattern.toList with
    | nil => rfl
    | cons c cs =>
      have hc : Text.isBlank c = false := hstart c (by rw [hchars]; rfl)
      rw [List.dropWhile_cons_of_neg (by simp [hc])]
  -- And no backslash is anywhere, so no slash is put for one.
  have hkept : ∀ c ∈ pattern.toList, (if c = '\\' then '/' else c) = c := by
    intro c hc
    have hne : c ≠ '\\' := fun heq => hslashes (heq ▸ hc)
    exact if_neg hne
  rw [normalized, Text.trimmed, hdropped, Text.dropBlanksEnd_of_getLast? hend, Text.forwardSlashes,
    List.map_congr_left hkept, List.map_id']

/-- A filter of one glob that can be matched alone. -/
theorem ofPatterns_singleton {pattern : String} {text : List Char} {glob : Glob}
    (hnames : Names pattern text) (hread : Glob.read text = .ok glob)
    (hjoin : Glob.joinFault? [glob] = none) : ofPatterns [pattern] = .ok ⟨[glob]⟩ := by
  rw [ofPatterns, readPatterns, readPattern_of_names hnames hread]
  show ofGlobs [glob] = _
  rw [ofGlobs, hjoin]

/-- Such a filter accepts the files that the glob matches. -/
theorem accepts_singleton {glob : Glob} {tree : Host.FileTree} {dir path : String} :
    accepts ⟨[glob]⟩ tree dir path = true ↔
      tree.leadsTo Host.Node.isFile (Host.join dir path) = true ∧ glob.isMatch path = true := by
  simp [accepts, admits]

namespace IsVerbatim

variable {text : String}

/-- A backslash would have a meaning. -/
theorem not_backslash (h : IsVerbatim text) : '\\' ∉ text.toList :=
  fun hmem => h.plain '\\' hmem (by decide)

/-- The text alone is a pattern for one path. -/
theorem ofPatterns_text (h : IsVerbatim text) :
    ofPatterns [text] = .ok ⟨[.ofText text.toList]⟩ := by
  have hnormal := normalized_eq_toList h.bareStart h.bareEnd h.not_backslash
  -- The text is its own normal form, and it is not empty.
  have hblank : Text.isBlankText text = false := by
    rw [← Bool.not_eq_true, ← normalized_eq_nil_iff, hnormal]
    exact h.nonempty
  exact ofPatterns_singleton ⟨hblank, hnormal⟩ (Glob.read_text h.plain)
    (Glob.joinFault?_ofText h.nonempty)

/-- Behind a star it is a pattern for the paths that end in it. -/
theorem ofPatterns_star (h : IsVerbatim text) :
    ofPatterns ["*" ++ text] = .ok ⟨[.ending text.toList]⟩ := by
  have hchars : ("*" ++ text).toList = '*' :: text.toList := by simp
  have hnormal : normalized ("*" ++ text) = '*' :: text.toList := by
    rw [← hchars]
    -- The star is in front, and the end is that of the text.
    refine normalized_eq_toList ?_ ?_ ?_
    · rw [hchars]
      rintro c hc
      obtain rfl : '*' = c := Option.some.inj hc
      decide
    · rw [hchars, List.getLast?_cons_of_ne_nil h.nonempty]
      exact h.bareEnd
    · rw [hchars]
      exact fun hmem => (List.mem_cons.mp hmem).elim (by decide) h.not_backslash
  have hblank : Text.isBlankText ("*" ++ text) = false := by
    rw [← Bool.not_eq_true, ← normalized_eq_nil_iff, hnormal]
    exact List.cons_ne_nil _ _
  exact ofPatterns_singleton ⟨hblank, hnormal⟩ (Glob.read_star_text h.plain)
    (Glob.joinFault?_ending h.nonempty)

end IsVerbatim

/-- A text without any blanks and metacharacters is meant as it stands. -/
theorem isVerbatim_of_all {text : String} (hne : text.toList ≠ [])
    (hall : (text.toList.all fun c => !Text.isBlank c && !Glob.metacharacters.contains c) = true) :
    IsVerbatim text := by
  have hmem : ∀ c ∈ text.toList, Text.isBlank c = false ∧ c ∉ Glob.metacharacters := by
    simpa using hall
  exact ⟨hne, fun c hc => (hmem c (List.mem_of_mem_head? hc)).1,
    fun c hc => (hmem c (List.mem_of_getLast? hc)).1, fun c hc => (hmem c hc).2⟩

/-- The end of the paths that are linted by default. -/
theorem isVerbatim_py : IsVerbatim ".py" := isVerbatim_of_all (by decide) (by decide)

/-- **A text behind a star accepts the files whose paths end in it, and alone the file of that
path**, in every tree, directory and for every path.  By default the files are accepted whose
paths end in `.py`. -/
theorem accepts_of_verbatim :
    (∀ text : String, IsVerbatim text →
      (∃ filter, ofPatterns ["*" ++ text] = .ok filter ∧
        ∀ (tree : Host.FileTree) (dir path : String), filter.accepts tree dir path = true ↔
          tree.leadsTo Host.Node.isFile (Host.join dir path) = true ∧
            text.toList <:+ path.toList) ∧
      ∃ filter, ofPatterns [text] = .ok filter ∧
        ∀ (tree : Host.FileTree) (dir path : String), filter.accepts tree dir path = true ↔
          tree.leadsTo Host.Node.isFile (Host.join dir path) = true ∧ path = text) ∧
    ∃ filter, ofPatterns ({} : Config).patterns = .ok filter ∧
      ∀ (tree : Host.FileTree) (dir path : String), filter.accepts tree dir path = true ↔
        tree.leadsTo Host.Node.isFile (Host.join dir path) = true ∧
          ['.', 'p', 'y'] <:+ path.toList := by
  -- The directory and the tree have a part in whether there is a file, and none in what is
  -- matched.
  have hending (text : List Char) (tree : Host.FileTree) (dir path : String) :
      accepts ⟨[.ending text]⟩ tree dir path = true ↔
        tree.leadsTo Host.Node.isFile (Host.join dir path) = true ∧ text <:+ path.toList := by
    rw [accepts_singleton, Glob.isMatch_ending_iff]
  refine ⟨fun text h => ⟨?_, ?_⟩, ?_⟩
  · exact ⟨_, h.ofPatterns_star, hending text.toList⟩
  · refine ⟨_, h.ofPatterns_text, fun tree dir path => ?_⟩
    rw [accepts_singleton, Glob.isMatch_ofText_iff, String.toList_inj]
  · exact ⟨_, isVerbatim_py.ofPatterns_star, hending ".py".toList⟩

/-! Files in a directory with a line feed in its name, and one that has no name but its ending. -/

namespace Endings

def tree : Host.FileTree :=
  ⟨[(["w"], .directory), (["w", "a\nb"], .directory), (["w", "a\nb", "ñ.py"], .file [] .refused),
    (["w", "n.py"], .file [] .refused), (["w", ".py"], .file [] .refused)]⟩

theorem isVerbatim : IsVerbatim "ñ.py" := isVerbatim_of_all (by decide) (by decide)

end Endings

theorem accepts_of_verbatim_endings :
    IsVerbatim "ñ.py" ∧
    (∃ filter, ofPatterns ["*ñ.py"] = .ok filter ∧
      filter.accepts Endings.tree "/w" "a\nb/ñ.py" = true ∧
      filter.accepts Endings.tree "/w" "n.py" = false) ∧
    (∃ filter, ofPatterns ["ñ.py"] = .ok filter ∧
      filter.accepts Endings.tree "/w" "a\nb/ñ.py" = false) ∧
    ∃ filter, ofPatterns ({} : Config).patterns = .ok filter ∧
      filter.accepts Endings.tree "/w" "a\nb/ñ.py" = true ∧
      filter.accepts Endings.tree "/w" ".py" = true ∧
      filter.accepts Endings.tree "/w" "gone.py" = false := by
  obtain ⟨htexts, standard, hstandard, hpy⟩ := accepts_of_verbatim
  obtain ⟨⟨star, hstar, hends⟩, alone, halone, hpath⟩ := htexts "ñ.py" Endings.isVerbatim
  refine ⟨Endings.isVerbatim, ⟨star, hstar, ?_, ?_⟩, ⟨alone, halone, ?_⟩,
    standard, hstandard, ?_, ?_, ?_⟩
  · exact (hends _ _ _).mpr ⟨by decide +kernel, by decide⟩
  · rw [← Bool.not_eq_true, hends]
    exact fun h => absurd h.2 (by decide)
  · rw [← Bool.not_eq_true, hpath]
    exact fun h => absurd h.2 (by decide)
  · exact (hpy _ _ _).mpr ⟨by decide +kernel, by decide⟩
  · exact (hpy _ _ _).mpr ⟨by decide +kernel, by decide⟩
  · rw [← Bool.not_eq_true, hpy]
    exact fun h => absurd h.1 (by decide +kernel)

end ChangeLint.Vcs.Include
