import ChangeLint.Proofs.Report.Fields
import ChangeLint.Proofs.Report.Rows

/-! # Emphasis can be taken off again

A terminal does not show escape sequences.  Here they are taken off a text, and what a theme
paints is then what the theme `off` writes.

* `stripped` takes all escape sequences off a text.
* `Shows` says that a text is another one with escape sequences put between its characters.
  Texts that are put together show what their parts show.
* `shows_reportRows` says that a report shows the report without emphasis. -/

namespace ChangeLint.Report

/-! ## Section 1: Escape sequences -/

/-- The character that starts an escape sequence. -/
def escape : Char := '\x1b'

/-- What follows the escape sequence at the start of a text.  A sequence is `escape`, a bracket
and all that comes up to the next `m`. -/
def behindSequence? : List Char → Option (List Char)
  | '\x1b' :: '[' :: cs => (Text.splitAtFirst? (· == 'm') cs).map Prod.snd
  | _ => none

/-- A cut leaves less behind it. -/
theorem length_of_splitAtFirst? {p : Char → Bool} {cs front back : List Char}
    (h : Text.splitAtFirst? p cs = some (front, back)) : back.length < cs.length := by
  -- What stands in front of the cut changes from step to step, so it is generalized.
  induction cs generalizing front with
  | nil => cases h
  | cons c cs ih =>
    unfold Text.splitAtFirst? at h
    split at h
    · cases h
      exact Nat.lt_succ_self _
    · obtain ⟨⟨front, rest⟩, hcut, hpair⟩ := Option.map_eq_some_iff.mp h
      cases hpair
      exact Nat.lt_succ_of_lt (ih hcut)

theorem length_of_behindSequence? {cs rest : List Char} (h : behindSequence? cs = some rest) :
    rest.length < cs.length := by
  unfold behindSequence? at h
  split at h
  · next cs =>
    obtain ⟨⟨front, back⟩, hcut, rfl⟩ := Option.map_eq_some_iff.mp h
    have hshorter := length_of_splitAtFirst? hcut
    simp only [List.length_cons]
    omega
  · cases h

/-- The text without its escape sequences. -/
def stripped : List Char → List Char
  | [] => []
  | c :: cs =>
    match h : behindSequence? (c :: cs) with
    | some rest =>
      have : rest.length ≤ cs.length := Nat.le_of_lt_succ (length_of_behindSequence? h)
      stripped rest
    | none => c :: stripped cs
termination_by cs => cs.length
decreasing_by
  · exact Nat.lt_succ_of_le this
  · exact Nat.lt_succ_self cs.length

@[simp] theorem stripped_nil : stripped [] = [] := by
  rw [stripped]

/-- A character that starts no sequence stays. -/
theorem stripped_cons {c : Char} (h : c ≠ escape) (cs : List Char) :
    stripped (c :: cs) = c :: stripped cs := by
  -- Only the escape character starts a sequence.
  have hnone : behindSequence? (c :: cs) = none := by
    unfold behindSequence?
    split
    · next heq => exact absurd (List.cons.inj heq).1 h
    · rfl
  rw [stripped]
  split
  · next hsome =>
    rw [hnone] at hsome
    cases hsome
  · rfl

/-- A sequence is taken off. -/
theorem stripped_sequence {code : List Char} (h : 'm' ∉ code) (cs : List Char) :
    stripped (escape :: '[' :: (code ++ 'm' :: cs)) = stripped cs := by
  -- The code holds no `m`, so that the sequence ends at the one given.
  have hsome : behindSequence? (escape :: '[' :: (code ++ 'm' :: cs)) = some cs := by
    show (Text.splitAtFirst? (· == 'm') (code ++ 'm' :: cs)).map Prod.snd = some cs
    rw [Text.splitAtFirst?_append_cons (Text.beq_of_not_mem h) rfl]
    rfl
  rw [stripped]
  split
  · next heq =>
    rw [hsome] at heq
    cases heq
    rfl
  · next hnone =>
    rw [hsome] at hnone
    cases hnone

/-- Stacked sequences around an empty text are taken off, and one that does not end stays. -/
example : stripped "\x1b[31m\x1b[1m\x1b[0m\x1b[39m @ 9\x1b[3".toList = " @ 9\x1b[3".toList := by
  decide +kernel

/-! ## Section 2: What a text shows -/

/-- The first text is the second one with escape sequences put between its characters. -/
inductive Shows : List Char → List Char → Prop where
  | nil : Shows [] []
  | char {c : Char} {painted plain : List Char} (visible : c ≠ escape)
      (rest : Shows painted plain) : Shows (c :: painted) (c :: plain)
  | sequence {code painted plain : List Char} (parameter : 'm' ∉ code) (inline : '\n' ∉ code)
      (rest : Shows painted plain) : Shows (escape :: '[' :: (code ++ 'm' :: painted)) plain

namespace Shows

/-- A text without escape character shows itself. -/
theorem refl {cs : List Char} (h : escape ∉ cs) : Shows cs cs := by
  induction cs with
  | nil => exact .nil
  | cons c cs ih =>
    have hc : escape ≠ c := List.ne_of_not_mem_cons h
    exact .char (Ne.symm hc) (ih (List.not_mem_of_not_mem_cons h))

/-- Texts that are put together show what they show one after the other. -/
theorem append {a b painted plain : List Char} (h : Shows a b) (hrest : Shows painted plain) :
    Shows (a ++ painted) (b ++ plain) := by
  -- By induction on what the first text shows; the second one comes behind.
  induction h with
  | nil => exact hrest
  | char visible _ ih => exact .char visible ih
  | sequence parameter inline _ ih =>
    rw [List.cons_append, List.cons_append, List.append_assoc, List.cons_append]
    exact .sequence parameter inline ih

/-- What a text shows is what is left when its sequences are taken off. -/
theorem stripped_eq {painted plain : List Char} (h : Shows painted plain) :
    stripped painted = plain := by
  induction h with
  | nil => exact stripped_nil
  | char visible _ ih => rw [stripped_cons visible, ih]
  | sequence parameter _ _ ih => rw [stripped_sequence parameter, ih]

/-- No escape character is shown. -/
theorem not_escape {painted plain : List Char} (h : Shows painted plain) : escape ∉ plain := by
  induction h with
  | nil => exact List.not_mem_nil
  | char visible _ ih => exact List.not_mem_cons_of_ne_of_not_mem (Ne.symm visible) ih
  | sequence _ _ _ ih => exact ih

/-- Between its line feeds a text shows what stands between them in the other one. -/
theorem map_stripped_splitWhere {painted plain : List Char} (h : Shows painted plain) :
    (Text.splitWhere (· == '\n') painted).map stripped = Text.splitWhere (· == '\n') plain := by
  induction h with
  | nil => simp [Text.splitWhere]
  | @char c painted plain visible _ ih =>
    by_cases hc : c = '\n'
    · rw [hc]
      simp [Text.splitWhere, ih]
    · have hfront := Text.beq_of_not_mem (show '\n' ∉ [c] by simp [Ne.symm hc])
      -- The character goes to the first piece of either text.
      obtain ⟨first, pieces, hpieces, hpainted⟩ := Text.exists_splitWhere_append hfront painted
      obtain ⟨piece, others, hothers, hplain⟩ := Text.exists_splitWhere_append hfront plain
      rw [hpieces, hothers] at ih
      obtain ⟨hfirst, hrest⟩ := List.cons.inj ih
      rw [List.singleton_append] at hpainted hplain
      rw [hpainted, hplain, List.map_cons, List.singleton_append, stripped_cons visible, hfirst,
        hrest]
      rfl
  | @sequence code painted plain parameter inline _ ih =>
    -- A sequence is within its line, so that it goes to the first piece.
    have hline : '\n' ∉ escape :: '[' :: (code ++ ['m']) := by
      simp [escape, inline]
    have hfront := Text.beq_of_not_mem hline
    have hjoin : escape :: '[' :: (code ++ 'm' :: painted)
        = escape :: '[' :: (code ++ ['m']) ++ painted := by
      simp
    obtain ⟨first, pieces, hpieces, hpainted⟩ := Text.exists_splitWhere_append hfront painted
    rw [hpieces] at ih
    rw [hjoin, hpainted, ← ih, List.map_cons, List.map_cons]
    congr 1
    rw [List.cons_append, List.cons_append, List.append_assoc, List.singleton_append]
    exact stripped_sequence parameter first

end Shows

/-! ## Section 3: Parts -/

/-- An effect around a text is not shown. -/
theorem shows_wrap (effect : Effect) {text : String} {plain : List Char}
    (h : Shows text.toList plain) : Shows (effect.wrap text).toList plain := by
  have hon : 'm' ∉ effect.onCode.toList ∧ '\n' ∉ effect.onCode.toList := by
    cases effect <;> decide
  have hoff : 'm' ∉ effect.offCode.toList ∧ '\n' ∉ effect.offCode.toList := by
    cases effect <;> decide
  have hwrap : (effect.wrap text).toList
      = escape :: '[' :: (effect.onCode.toList ++ 'm' :: (text.toList
        ++ escape :: '[' :: (effect.offCode.toList ++ 'm' :: []))) := by
    simp [Effect.wrap, Effect.sequence, escape]
  -- The closing sequence shows nothing behind the text, and the opening one nothing in front.
  have hlast := h.append (.sequence hoff.1 hoff.2 .nil)
  rw [List.append_nil] at hlast
  rw [hwrap]
  exact .sequence hon.1 hon.2 hlast

/-- Nor are several effects. -/
theorem shows_wraps (effects : List Effect) {text : String} {plain : List Char}
    (h : Shows text.toList plain) :
    Shows (effects.foldl (fun text effect => effect.wrap text) text).toList plain := by
  induction effects generalizing text with
  | nil => exact h
  | cons effect effects ih => exact ih (shows_wrap effect h)

/-- A painted part shows its text. -/
theorem shows_paint (theme : Theme) (part : Part) {text : String} (h : escape ∉ text.toList) :
    Shows (theme.paint part text).toList text.toList :=
  shows_wraps (theme.effects part) (.refl h)

/-! ## Section 4: Lines and reports -/

/-- A line of the standard layout shows the line without emphasis. -/
theorem shows_flat (theme : Theme) {finding : Finding} (h : escape ∉ finding.chars) :
    Shows (Painted.ofFinding theme finding).flat.toList
      (Painted.ofFinding .off finding).flat.toList := by
  simp only [Finding.chars, List.mem_append, List.mem_cons, not_or] at h
  obtain ⟨hfile, hfirst, hline, hsecond, hcolumn, hthird, hspace, hcode, hlast, hdescription⟩ := h
  rw [Painted.toList_flat, Painted.toList_flat, Painted.ofFinding_eq, Painted.ofFinding_eq]
  -- The parts with their marks, from left to right.
  refine (shows_paint theme .file hfile).append (.char (Ne.symm hfirst) ?_)
  refine (shows_paint theme .line hline).append (.char (Ne.symm hsecond) ?_)
  refine (shows_paint theme .column hcolumn).append (.char (Ne.symm hthird) ?_)
  refine .char (Ne.symm hspace) ((shows_paint theme .code hcode).append ?_)
  exact .char (Ne.symm hlast) (shows_paint theme .description hdescription)

/-- So does a line of the grouped layout. -/
theorem shows_grouped (theme : Theme) {finding : Finding} (h : escape ∉ finding.chars) :
    Shows (Painted.ofFinding theme finding).grouped.toList
      (Painted.ofFinding .off finding).grouped.toList := by
  simp only [Finding.chars, List.mem_append, List.mem_cons, not_or] at h
  obtain ⟨-, -, hline, hcolon, hcolumn, -, -, hcode, -, hdescription⟩ := h
  have hat : Shows [' ', '@', ' '] [' ', '@', ' '] := .refl (by decide)
  have hdash : Shows [' ', '-', ' '] [' ', '-', ' '] := .refl (by decide)
  rw [Painted.toList_grouped, Painted.toList_grouped, Painted.ofFinding_eq, Painted.ofFinding_eq]
  refine .char (by decide) ((shows_paint theme .code hcode).append (hat.append ?_))
  refine (shows_paint theme .line hline).append (.char (Ne.symm hcolon) ?_)
  exact (shows_paint theme .column hcolumn).append
    (hdash.append (shows_paint theme .description hdescription))

/-- So does the heading of a file. -/
theorem shows_heading (theme : Theme) {file : String} (h : escape ∉ file.toList) :
    Shows (Painted.ofHeading theme file headingText).heading.toList
      (Painted.ofHeading .off file headingText).heading.toList := by
  have hheader : escape ∉ headingText.toList := by decide
  have hcolon : Shows (": ".toList) (": ".toList) := .refl (by decide)
  rw [Painted.heading_ofHeading, Painted.heading_ofHeading]
  simp only [String.toList_append, Theme.paint_off]
  exact ((shows_paint theme .header hheader).append hcolon).append (shows_paint theme .file h)

/-- Lines with their ends show what the lines show. -/
theorem shows_unlines {α : Type} {items : List α} {painted plain : α → String}
    (h : ∀ item ∈ items, Shows (painted item).toList (plain item).toList) :
    Shows (Text.unlines ((items.map painted).map String.toList))
      (Text.unlines ((items.map plain).map String.toList)) := by
  induction items with
  | nil => exact .nil
  | cons item items ih =>
    have hend : Shows ['\n'] ['\n'] := .refl (by decide)
    have hitem := (h item (List.mem_cons_self ..)).append hend
    exact hitem.append (ih fun other hother => h other (List.mem_cons_of_mem item hother))

/-- The rows of a file show the rows without emphasis. -/
theorem shows_rows (theme : Theme) (layout : Layout) {file : String} {findings : List Finding}
    (hfile : escape ∉ file.toList) (h : ∀ finding ∈ findings, escape ∉ finding.chars) :
    Shows (Text.unlines ((Style.rows ⟨theme, layout⟩ file findings).map String.toList))
      (Text.unlines ((Style.rows ⟨.off, layout⟩ file findings).map String.toList)) := by
  cases layout with
  | standard => exact shows_unlines fun finding hmem => shows_flat theme (h finding hmem)
  | grouped =>
    unfold Style.rows
    -- Without findings there is no heading, and nothing to show.
    by_cases hempty : findings = []
    · simp only [if_pos hempty]
      exact .nil
    · simp only [if_neg hempty]
      have hend : Shows ['\n'] ['\n'] := .refl (by decide)
      have hheading := (shows_heading theme hfile).append hend
      exact hheading.append (shows_unlines fun finding hmem => shows_grouped theme (h finding hmem))

/-- A report on files without escape character shows the report without emphasis. -/
theorem shows_reportRows (theme : Theme) (layout : Layout) {visits : List Visit}
    (h : ∀ visit ∈ visits, escape ∉ visit.file.toList ∧ escape ∉ visit.report.toList) :
    Shows (Text.unlines (Style.reportRows ⟨theme, layout⟩ visits))
      (Text.unlines (Style.reportRows ⟨.off, layout⟩ visits)) := by
  induction visits with
  | nil => exact .nil
  | cons visit visits ih =>
    obtain ⟨hfile, hreport⟩ := h visit (List.mem_cons_self ..)
    -- The characters of a finding are those of the linter's report.
    have hkept : ∀ finding ∈ visit.kept, escape ∉ finding.chars :=
      fun finding hmem hescape => hreport (Visit.mem_report_of_mem_kept hmem hescape)
    have hrest := ih fun other hother => h other (List.mem_cons_of_mem visit hother)
    rw [Style.reportRows_cons, Style.reportRows_cons, Text.unlines, Text.unlines,
      List.flatMap_append, List.flatMap_append]
    exact (shows_rows theme layout hfile hkept).append hrest

end ChangeLint.Report
