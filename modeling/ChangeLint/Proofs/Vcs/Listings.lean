import ChangeLint.Proofs.Text.Reading
import ChangeLint.Proofs.Vcs.Answers
import ChangeLint.Proofs.Vcs.Patterns

/-! # Listings of changed files

A system lists the changed files one on each line.  Lines are ended in one of two ways, and some
may be blank.  What is taken from a listing are its paths, in their order and as often as they
are listed, as far as they lead to files and are wanted.

* `Row` is a line of a listing, and `listingText` the text of some rows.
* `Context.accepted_listingText` says what is taken from a listing.
* `Kind.changedFiles_of_patterns` says so of a run of either system, in terms of the patterns
  that its filter was made of. -/

namespace ChangeLint.Vcs

open Host (Machine Printed)

/-! ## Section 1: Rows -/

/-- A path that can stand on a line of its own. -/
structure ListedPath where
  text : String
  nonempty : text.toList ≠ []
  oneLine : '\n' ∉ text.toList
  bareEnd : ∀ c ∈ text.toList.getLast?, Text.isBlank c = false

/-- How a line is ended. -/
inductive LineEnd where
  | feed
  | returnFeed

/-- What a line end puts before the line feed. -/
def LineEnd.front : LineEnd → List Char
  | feed => []
  | returnFeed => ['\r']

/-- A line of a listing. -/
inductive Row where
  | file (path : ListedPath) (lineEnd : LineEnd)
  | blank (blanks : List Char) (lineEnd : LineEnd) (allBlank : ∀ c ∈ blanks, Text.isBlank c = true)
      (oneLine : '\n' ∉ blanks)

namespace Row

/-- The path on the line. -/
def path? : Row → Option String
  | file path _ => some path.text
  | blank _ _ _ _ => none

@[simp] theorem path?_file (path : ListedPath) (lineEnd : LineEnd) :
    (file path lineEnd).path? = some path.text := rfl

@[simp] theorem path?_blank {blanks : List Char} {lineEnd : LineEnd}
    (allBlank : ∀ c ∈ blanks, Text.isBlank c = true) (oneLine : '\n' ∉ blanks) :
    (blank blanks lineEnd allBlank oneLine).path? = none := rfl

/-- The characters before the line feed. -/
def chars : Row → List Char
  | file path lineEnd => path.text.toList ++ lineEnd.front
  | blank blanks lineEnd _ _ => blanks ++ lineEnd.front

end Row

/-- The paths that are listed. -/
def paths (rows : List Row) : List String := rows.filterMap Row.path?

/-- The text of a listing. -/
def listingText (rows : List Row) : String := String.ofList (Text.unlines (rows.map Row.chars))

/-! ## Section 2: Reading a listing -/

namespace Row

theorem not_newline (row : Row) : '\n' ∉ row.chars := by
  have hfront (lineEnd : LineEnd) : '\n' ∉ lineEnd.front := by
    cases lineEnd <;> decide
  cases row with
  | file path lineEnd =>
    exact fun h => (List.mem_append.mp h).elim path.oneLine (hfront lineEnd)
  | blank blanks lineEnd _ oneLine =>
    exact fun h => (List.mem_append.mp h).elim oneLine (hfront lineEnd)

/-- The end of a line goes with the line feed. -/
theorem dropReturn_append_front {text : List Char} (h : text.getLast? ≠ some '\r')
    (lineEnd : LineEnd) : Text.dropReturn (text ++ lineEnd.front) = text := by
  rw [Text.dropReturn_append h]
  cases lineEnd <;> exact List.append_nil text

/-- Of a line its path is left, or nothing. -/
theorem trimEnd_dropReturn (row : Row) :
    Text.trimEnd (String.ofList (Text.dropReturn row.chars)) = row.path?.getD "" := by
  unfold Text.trimEnd
  rw [String.toList_ofList]
  cases row with
  | file path lineEnd =>
    -- A path that ended in a carriage return would end in a blank.
    have hreturn : path.text.toList.getLast? ≠ some '\r' := by
      intro hlast
      have hblank := path.bareEnd '\r' hlast
      revert hblank
      decide
    show String.ofList (Text.dropBlanksEnd (Text.dropReturn (path.text.toList ++ _))) = path.text
    rw [dropReturn_append_front hreturn, Text.dropBlanksEnd_of_getLast? path.bareEnd,
      String.ofList_toList]
  | blank blanks lineEnd allBlank _ =>
    -- A blank line is blank with its end, whichever that is.
    have hall : ∀ c ∈ Text.dropReturn (blanks ++ lineEnd.front), Text.isBlank c = true := by
      intro c hc
      rcases List.mem_append.mp (Text.mem_of_mem_dropReturn hc) with hc | hc
      · exact allBlank c hc
      · cases lineEnd with
        | feed => cases hc
        | returnFeed =>
          rw [List.mem_singleton.mp hc]
          decide
    -- Blanks are dropped from the end until nothing is left.
    have hnone : Text.dropBlanksEnd (Text.dropReturn (blanks ++ lineEnd.front)) = [] := by
      unfold Text.dropBlanksEnd
      rw [List.reverse_eq_nil_iff, List.dropWhile_eq_nil_iff]
      exact fun c hc => hall c (List.mem_reverse.mp hc)
    show String.ofList (Text.dropBlanksEnd (Text.dropReturn (blanks ++ _))) = ""
    rw [hnone]

end Row

/-- What is left of the lines of a listing. -/
theorem trimEnd_lines_listingText (rows : List Row) :
    (Text.lines (listingText rows)).map Text.trimEnd = rows.map fun row => row.path?.getD "" := by
  -- No row has a line feed, so the lines of the text are the rows.
  have hfeed : ∀ line ∈ rows.map Row.chars, '\n' ∉ line := by
    intro line hline
    obtain ⟨row, _, rfl⟩ := List.mem_map.mp hline
    exact row.not_newline
  unfold Text.lines listingText
  rw [String.toList_ofList, Text.linesOf_unlines hfeed, List.map_map, List.map_map, List.map_map]
  exact List.map_congr_left fun row _ => row.trimEnd_dropReturn

/-- From a listing the paths are taken that the filter accepts. -/
theorem Context.accepted_listingText (ctx : Context) (tree : Host.FileTree) (rows : List Row) :
    ctx.accepted tree (listingText rows)
      = (paths rows).filter (ctx.filter.accepts tree ctx.dir) := by
  unfold Context.accepted paths
  rw [trimEnd_lines_listingText]
  -- By induction on the rows: a blank one leaves an empty path, which is not taken.
  induction rows with
  | nil => rfl
  | cons row rows ih =>
    cases row with
    | file path _ =>
      have hkept : path.text.isEmpty = false := by
        rw [← Bool.not_eq_true, String.isEmpty_iff, ← String.toList_eq_nil_iff]
        exact path.nonempty
      simp [List.filter_cons, hkept, ih]
    | blank _ _ _ _ =>
      rw [List.filterMap_cons_none rfl]
      simpa using ih

/-! ## Section 3: Changed files -/

namespace Include

/-- The patterns keep within the limits on the size of globs. -/
def InLimits (patterns : List String) : Prop :=
  ∀ text glob, Asks patterns text → Glob.read text = .ok glob → glob.isTooDeep = false

/-- Within the limits, patterns make no filter only if one of them is faulty. -/
theorem exists_error_iff {patterns : List String} (h : InLimits patterns) :
    (∃ error, ofPatterns patterns = .error error) ↔
      ∃ pattern ∈ patterns, ∃ fault, Faulty pattern fault := by
  constructor
  · rintro ⟨error, herror⟩
    -- Were none faulty, every text asked for would be a glob within the limits.
    by_contra hnone
    have hfilter : ∃ filter, ofPatterns patterns = .ok filter := by
      refine exists_ofPatterns_iff.mpr ?_
      rintro text ⟨pattern, hpattern, hblank, rfl⟩
      cases hread : Glob.read (normalized pattern) with
      | ok glob => exact ⟨glob, rfl, .inr (h _ glob ⟨pattern, hpattern, hblank, rfl⟩ hread)⟩
      | error fault => exact absurd ⟨pattern, hpattern, fault, hblank, hread⟩ hnone
    obtain ⟨filter, hok⟩ := hfilter
    rw [hok] at herror
    cases herror
  · rintro ⟨pattern, hpattern, fault, hfault⟩
    -- If any is faulty there is a first one, and that is what the error says.
    rcases faultless_or_firstFault patterns with hnone | ⟨first, fault, hfirst⟩
    · exact absurd ⟨fault, hfault⟩ (hnone pattern hpattern)
    · exact ⟨_, ofPatterns_of_firstFault hfirst⟩

end Include

open Include

namespace Kind

/-- The changed files depend on what a filter accepts only. -/
theorem changedFiles_congr (kind : Kind) (dir : String) (commits : List String)
    {filter second : Include} (h : filter.accepts = second.accepts) :
    kind.changedFiles ⟨dir, commits, filter⟩ = kind.changedFiles ⟨dir, commits, second⟩ := by
  unfold changedFiles
  simp only [h]
  rfl

/-- **The changed files are those that are listed, exist and are wanted**, for either system and
on every machine.  They depend on what the patterns ask for and not on how they say so; and
patterns within the limits are refused only for one that is no glob, the first of which is
named. -/
theorem changedFiles_of_patterns (patterns : List String) :
    (∀ filter, ofPatterns patterns = .ok filter →
      ∀ (kind : Kind) (dir : String) (commits : List String) (machine : Machine) (rows : List Row),
        Printed [0] (machine.launched (kind.listCommand ⟨dir, commits, filter⟩))
          (listingText rows) →
        ∃ keep : String → Bool,
          (∀ path, keep path = true ↔
            machine.tree.leadsTo Host.Node.isFile (Host.join dir path) = true ∧
              Wanted patterns path) ∧
          (kind.changedFiles ⟨dir, commits, filter⟩).Gives machine
            (.ok ((paths rows).filter keep)) machine
            [kind.listCommand ⟨dir, commits, filter⟩]) ∧
    (∀ other, Reworded patterns other →
      ((∃ filter, ofPatterns patterns = .ok filter) ↔ ∃ filter, ofPatterns other = .ok filter) ∧
      ∀ filter second, ofPatterns patterns = .ok filter → ofPatterns other = .ok second →
        ∀ (kind : Kind) (dir : String) (commits : List String),
          kind.changedFiles ⟨dir, commits, filter⟩ = kind.changedFiles ⟨dir, commits, second⟩) ∧
    (InLimits patterns →
      ((∃ error, ofPatterns patterns = .error error) ↔
        ∃ pattern ∈ patterns, ∃ fault, Faulty pattern fault)) ∧
    ∀ pattern fault, FirstFault patterns pattern fault →
      ofPatterns patterns = .error (.user (faultText pattern fault)) := by
  refine ⟨?_, ?_, exists_error_iff, fun pattern fault => ofPatterns_of_firstFault⟩
  · intro filter hfilter kind dir commits machine rows hprinted
    -- What is kept is what the filter accepts on the machine.
    refine ⟨filter.accepts machine.tree dir, ?_, ?_⟩
    · intro path
      rw [accepts, Bool.and_eq_true, admits_iff hfilter]
    · have hgives := gives_changedFiles_of_printed hprinted
      rw [Context.accepted_listingText] at hgives
      exact hgives
  · intro other hother
    refine ⟨hother.exists_ofPatterns_iff, ?_⟩
    intro filter second hfilter hsecond kind dir commits
    exact kind.changedFiles_congr dir commits (hother.accepts_eq hfilter hsecond)

/-! A listing with a blank line, a file named twice, a file that is gone, and one that no pattern
matches. -/

namespace Listed

def rows : List Row :=
  [.file ⟨"sub/é.py", by decide, by decide, by rintro c ⟨⟩; decide⟩ .returnFeed,
    .blank [' '] .feed (List.forall_mem_singleton.mpr rfl) (by decide),
    .file ⟨"gone.py", by decide, by decide, by rintro c ⟨⟩; decide⟩ .feed,
    .file ⟨"notes", by decide, by decide, by rintro c ⟨⟩; decide⟩ .feed,
    .file ⟨"sub/é.py", by decide, by decide, by rintro c ⟨⟩; decide⟩ .feed]

def git (_ : List String) : Host.Outcome :=
  ⟨Text.Utf8.bytes (listingText rows), [], .exited 0⟩

def machine : Machine where
  tree := ⟨[(["w"], .directory), (["w", "notes"], .file [] .refused),
    (["w", "sub"], .directory), (["w", "sub", "é.py"], .file [] .refused), (["bin"], .directory),
    (["bin", "git"], .file [] (.runs git))]⟩
  workingDir := "/w"
  searchPath := ["/bin"]
  workingDir_absolute := Host.isAbsolute_sample

def patterns : List String := ["sub\\*.py"]

def padded : List String := ["", "\tsub/*.py "]

def glob : Glob := ⟨[.literal 's', .literal 'u', .literal 'b', .literal '/', .anyBytes,
  .literal '.', .literal 'p', .literal 'y']⟩

def filter : Include := ⟨[glob]⟩

def faulty : List String := [" ", "a\\[", "\x7b"]

theorem ofPatterns_patterns : ofPatterns patterns = .ok filter := by
  have hnames : Names "sub\\*.py" ['s', 'u', 'b', '/', '*', '.', 'p', 'y'] :=
    ⟨by decide, by decide⟩
  have hread : readPattern "sub\\*.py" = .ok (some glob) := readPattern_of_names hnames rfl
  rw [ofPatterns, patterns, readPatterns, hread]
  rfl

theorem reworded : Reworded patterns padded := by
  have hslashes : Reworded patterns ["sub/*.py"] := .slashes (by decide)
  have hpadded : Reworded ["sub/*.py"] ["\tsub/*.py "] :=
    @Reworded.padded [] "sub/*.py" "\t" " " (by decide) (by decide)
  exact (hslashes.trans hpadded).trans (.blank (by decide))

theorem printed : Printed [0] (machine.launched (Kind.git.listCommand ⟨"/w", [], filter⟩))
    (listingText rows) := by
  have hbytes : Text.Utf8.lossyText (Text.Utf8.bytes (listingText rows)) = listingText rows := by
    decide +kernel
  rw [← hbytes]
  exact .exited rfl (by decide)

end Listed

theorem changedFiles_of_patterns_listed :
    (Kind.git.changedFiles ⟨"/w", [], Listed.filter⟩).Gives Listed.machine
      (.ok ["sub/é.py", "sub/é.py"]) Listed.machine
      [Kind.git.listCommand ⟨"/w", [], Listed.filter⟩] ∧
    (∃ filter, ofPatterns Listed.padded = .ok filter ∧
      Kind.git.changedFiles ⟨"/w", [], filter⟩
        = Kind.git.changedFiles ⟨"/w", [], Listed.filter⟩) ∧
    (∃ error, ofPatterns Listed.faulty = .error error) ∧
    ofPatterns Listed.faulty = .error (.user
      ("invalid include pattern 'a\\[': error parsing glob 'a/[': "
        ++ "unclosed character class; missing ']'")) := by
  have hfilter := Listed.ofPatterns_patterns
  obtain ⟨hfiles, hwords, _⟩ := changedFiles_of_patterns Listed.patterns
  obtain ⟨_, _, hlimits, hfirst⟩ := changedFiles_of_patterns Listed.faulty
  refine ⟨?_, ?_, ?_, ?_⟩
  · obtain ⟨keep, hkeep, hgives⟩ := hfiles _ hfilter .git "/w" [] _ _ Listed.printed
    have hkept : (paths Listed.rows).filter keep = ["sub/é.py", "sub/é.py"] := by
      -- What is kept is known up to equality, so the filter itself may be run.
      have hsame : keep = Listed.filter.accepts Listed.machine.tree "/w" := by
        funext path
        rw [Bool.eq_iff_iff, hkeep, accepts, Bool.and_eq_true, admits_iff hfilter]
      rw [hsame]
      decide +kernel
    rw [hkept] at hgives
    exact hgives
  · obtain ⟨hexists, hequal⟩ := hwords _ Listed.reworded
    obtain ⟨filter, hpadded⟩ := hexists.mp ⟨_, hfilter⟩
    exact ⟨filter, hpadded, (hequal _ _ hfilter hpadded .git "/w" []).symm⟩
  · refine (hlimits ?_).mpr ⟨"a\\[", by simp [Listed.faulty], .unclosedClass, rfl, rfl⟩
    rintro text glob ⟨pattern, hpattern, _, rfl⟩ hread
    simp only [Listed.faulty, List.mem_cons, List.not_mem_nil, or_false] at hpattern
    rcases hpattern with rfl | rfl | rfl
    · obtain rfl : (⟨[]⟩ : Glob) = glob := Except.ok.inj hread
      rfl
    · cases hread
    · cases hread
  · have htext : faultText "a\\[" .unclosedClass
        = "invalid include pattern 'a\\[': error parsing glob 'a/[': "
          ++ "unclosed character class; missing ']'" := by decide +kernel
    rw [← htext]
    refine hfirst "a\\[" .unclosedClass ⟨[" "], ["\x7b"], rfl, ⟨rfl, rfl⟩, ?_⟩
    rintro other hother ⟨fault, hnot, _⟩
    rw [List.mem_singleton.mp hother] at hnot
    cases hnot

end Kind

end ChangeLint.Vcs
