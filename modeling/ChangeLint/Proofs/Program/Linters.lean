import ChangeLint.Proofs.Program.Stages

/-! # Where the linter is found, and what is launched later

The program of a linter is looked up once.  A name with a slash is a path, and the directories in
which programs are searched do not count for it.  Any other name is searched in these, and the
first that has an executable file of that name is taken; a directory that is not given by an
absolute path is taken relative to that of the run.  Launching a name with a slash searches
nothing, so no later launch of it can come to another program.

* `Locates` is the lookup, said of the file tree and not of the search.
* `locate_eq_some_iff` says that the search finds what is located.
* `launched_of_slash` says what launching a name with a slash comes to, on any machine.
* `Settled` says that a linter is launched from where it was found or does not depend on that, and
  `lint_runs_located` puts all together: what is set up is what is launched.
* `lint_falls_back_emptied` is the exception: what is found in an empty entry of the search path is
  a name without a slash, and each launch searches it again. -/

namespace ChangeLint

open Host (Machine FileTree Node)

namespace Host

/-! ## Section 1: Texts -/

theorem hasChar_iff {c : Char} {text : String} : hasChar c text = true ↔ c ∈ text.toList :=
  List.contains_iff_mem

theorem isEmpty_eq_false_of_mem {c : Char} {text : String} (h : c ∈ text.toList) :
    text.isEmpty = false := by
  rw [← Bool.not_eq_true, String.isEmpty_iff]
  rintro rfl
  exact absurd h List.not_mem_nil

/-- A path that is taken relative to a directory with a name has a slash. -/
theorem slash_mem_join {dir path : String} (h : dir ≠ "") : '/' ∈ (join dir path).toList := by
  have hempty : dir.isEmpty = false := by
    rw [← Bool.not_eq_true, String.isEmpty_iff]
    exact h
  -- An absolute path stays as it is, and in front of any other the directory ends in a slash.
  unfold join
  split
  · next hpath => exact List.mem_of_mem_head? hpath
  · split
    · next hlast =>
      -- The directory is not empty, so it ends in the slash.
      rw [hempty] at hlast
      have hend := hlast.resolve_left Bool.false_ne_true
      rw [String.toList_append]
      exact List.mem_append_left _ (List.mem_of_getLast? hend)
    · have hslash : '/' ∈ "/".toList := by decide
      rw [String.toList_append, String.toList_append]
      exact List.mem_append_left _ (List.mem_append_right _ hslash)

/-! ## Section 2: Launching a name with a slash -/

/-- A launch can be carried out: its texts can be handed over, its directory is there, and its
program is a path that leads from `here` to a file that runs. -/
structure Machine.Runnable (machine : Machine) (here : String) (invocation : Invocation)
    (respond : List String → Outcome) : Prop where
  texts : ∀ text ∈ invocation.program :: invocation.dir :: invocation.args,
    '\x00' ∉ text.toList
  dir : machine.resolve invocation.dir = .ok .directory
  program : ∃ content,
    machine.tree.resolveFrom here invocation.program = .ok (.file content (.runs respond))

/-- What stands against a launch. -/
inductive Machine.Refused (machine : Machine) (here : String) (invocation : Invocation) :
    Fault → Prop where
  | text {text : String} (hmem : text ∈ invocation.program :: invocation.dir :: invocation.args)
      (hnul : '\x00' ∈ text.toList) : Refused machine here invocation .nulInArgument
  | dir {fault : Fault} (h : machine.resolve invocation.dir = .error fault) :
      Refused machine here invocation fault
  | dirIsFile {content : List UInt8} {execution : Execution}
      (h : machine.resolve invocation.dir = .ok (.file content execution)) :
      Refused machine here invocation .notDirectory
  | program {fault : Fault} (h : machine.tree.executable here invocation.program = .error fault) :
      Refused machine here invocation fault

theorem FileTree.executable_eq_ok_iff {tree : FileTree} {dir path : String}
    {respond : List String → Outcome} :
    tree.executable dir path = .ok respond ↔
      ∃ content, tree.resolveFrom dir path = .ok (.file content (.runs respond)) := by
  unfold FileTree.executable
  constructor
  · intro h
    split at h
    · cases h
    · next node hnode =>
      cases node with
      | directory => cases h
      | file content execution =>
        -- Of the three kinds of files only one can be run.
        cases execution with
        | refused => cases h
        | noInterpreter => cases h
        | runs other =>
          cases h
          exact ⟨content, hnode⟩
  · rintro ⟨content, hnode⟩
    rw [hnode]
    rfl

namespace Machine

/-- A name with a slash is not searched. -/
theorem find_of_slash {program : String} (h : '/' ∈ program.toList) (machine : Machine)
    (dir : String) : machine.find dir program = machine.tree.executable dir program := by
  rw [find, isEmpty_eq_false_of_mem h, hasChar_iff.mpr h]
  rfl

/-- A launch is refused at once if one of its texts cannot be handed over. -/
theorem prepare_of_nul {invocation : Invocation} {text : String}
    (hmem : text ∈ invocation.program :: invocation.dir :: invocation.args)
    (hnul : '\x00' ∈ text.toList) (machine : Machine) :
    machine.prepare invocation = .error .nulInArgument := by
  have htext : Host.hasChar '\x00' text = true := hasChar_iff.mpr hnul
  unfold prepare
  rw [if_pos]
  simp only [Bool.or_eq_true, List.any_eq_true, or_assoc]
  -- The program, the directory and the arguments are looked through alike.
  rcases List.mem_cons.mp hmem with rfl | hmem
  · exact .inl htext
  · rcases List.mem_cons.mp hmem with rfl | hmem
    · exact .inr (.inl htext)
    · exact .inr (.inr ⟨text, hmem, htext⟩)

/-- With texts that can be handed over, the directory decides first and then the program. -/
theorem prepare_of_texts {invocation : Invocation}
    (htexts : ∀ text ∈ invocation.program :: invocation.dir :: invocation.args,
      '\x00' ∉ text.toList) (machine : Machine) :
    machine.prepare invocation =
      match machine.resolve invocation.dir with
      | .error fault => .error fault
      | .ok (.file _ _) => .error .notDirectory
      | .ok .directory =>
        machine.find (join machine.workingDir invocation.dir) invocation.program := by
  have hfree : ∀ text ∈ invocation.program :: invocation.dir :: invocation.args,
      Host.hasChar '\x00' text = false := by
    intro text hmem
    rw [← Bool.not_eq_true, hasChar_iff]
    exact htexts text hmem
  have hargs : invocation.args.any (Host.hasChar '\x00') = false := by
    rw [List.any_eq_false]
    intro text hmem
    simp [hfree text (by simp [hmem])]
  unfold prepare
  rw [hfree invocation.program (by simp), hfree invocation.dir (by simp), hargs]
  rfl

/-- Launching a name with a slash runs the file to which it leads from the directory of the launch,
or fails for a reason that lies in the launch and in what is at its two paths. -/
theorem launched_of_slash {invocation : Invocation} (hslash : '/' ∈ invocation.program.toList)
    (machine : Machine) :
    (∃ respond, machine.Runnable (join machine.workingDir invocation.dir) invocation respond ∧
      machine.launched invocation = .ok (respond invocation.args)) ∨
    ∃ fault, machine.Refused (join machine.workingDir invocation.dir) invocation fault ∧
      machine.launched invocation = .error fault := by
  unfold launched
  -- Texts that cannot be handed over stand before anything that is looked up.
  by_cases hnul : ∃ text ∈ invocation.program :: invocation.dir :: invocation.args,
      '\x00' ∈ text.toList
  · obtain ⟨text, hmem, hnul⟩ := hnul
    rw [prepare_of_nul hmem hnul]
    exact .inr ⟨.nulInArgument, .text hmem hnul, rfl⟩
  · have htexts : ∀ text ∈ invocation.program :: invocation.dir :: invocation.args,
        '\x00' ∉ text.toList := fun text hmem h => hnul ⟨text, hmem, h⟩
    rw [prepare_of_texts htexts]
    -- The directory is looked at first, and only in it the program.
    cases hnode : machine.resolve invocation.dir with
    | error fault => exact .inr ⟨fault, .dir hnode, rfl⟩
    | ok node =>
      cases node with
      | file content execution => exact .inr ⟨.notDirectory, .dirIsFile hnode, rfl⟩
      | directory =>
        dsimp only
        rw [find_of_slash hslash]
        cases hprogram : machine.tree.executable (join machine.workingDir invocation.dir)
            invocation.program with
        | error fault => exact .inr ⟨fault, .program hprogram, rfl⟩
        | ok respond =>
          have hfile := FileTree.executable_eq_ok_iff.mp hprogram
          exact .inl ⟨respond, ⟨htexts, hnode, hfile⟩, rfl⟩

end Machine

end Host

namespace Linter

/-! ## Section 3: The lookup -/

/-- A path leads to a file with execute permission, from the directory of the run. -/
def Offers (machine : Machine) (path : String) : Prop :=
  ∃ content execution, machine.resolve path = .ok (.file content execution) ∧
    execution ≠ .refused

/-- What lets the search pass over a path. -/
inductive Lacks (machine : Machine) (path : String) : Prop where
  | missing (fault : Host.Fault) (h : machine.resolve path = .error fault)
  | directory (h : machine.resolve path = .ok .directory)
  | refused (content : List UInt8) (h : machine.resolve path = .ok (.file content .refused))

/-- Where a program is.  A name with a slash is a path from a directory; for any other name it is
in the first of the directories searched that has such a file. -/
inductive Locates (machine : Machine) (dir program : String) : String → Prop where
  | path (hslash : '/' ∈ program.toList) (hfile : Offers machine (Host.join dir program)) :
      Locates machine dir program (Host.join dir program)
  | searched {before after : List String} {entry : String} (hslash : '/' ∉ program.toList)
      (hentries : machine.searchPath = before ++ entry :: after)
      (hbefore : ∀ other ∈ before, Lacks machine (Host.join other program))
      (hfile : Offers machine (Host.join entry program)) :
      Locates machine dir program (Host.join entry program)

theorem leadsTo_isExecutable_iff {machine : Machine} {path : String} :
    machine.tree.leadsToFrom machine.workingDir Node.isExecutable path = true
      ↔ Offers machine path := by
  unfold Host.FileTree.leadsToFrom Offers Machine.resolve
  constructor
  · intro h
    cases hnode : machine.tree.resolveFrom machine.workingDir path with
    | error fault =>
      rw [hnode] at h
      cases h
    | ok node =>
      rw [hnode] at h
      -- A directory is never run; a file is, unless its permission refuses it.
      cases node with
      | directory => cases h
      | file content execution =>
        refine ⟨content, execution, rfl, ?_⟩
        rintro rfl
        cases h
  · rintro ⟨content, execution, hnode, hexecution⟩
    rw [hnode]
    cases execution with
    | refused => exact absurd rfl hexecution
    | noInterpreter => rfl
    | runs respond => rfl

theorem leadsTo_isExecutable_eq_false_iff {machine : Machine} {path : String} :
    machine.tree.leadsToFrom machine.workingDir Node.isExecutable path = false
      ↔ Lacks machine path := by
  unfold Host.FileTree.leadsToFrom
  constructor
  · intro h
    cases hnode : machine.tree.resolveFrom machine.workingDir path with
    | error fault => exact .missing fault hnode
    | ok node =>
      rw [hnode] at h
      -- What is passed over is told by the same cases, each of which is a reason.
      cases node with
      | directory => exact .directory hnode
      | file content execution =>
        cases execution with
        | refused => exact .refused content hnode
        | noInterpreter => cases h
        | runs respond => cases h
  · intro h
    cases h with
    | missing fault hnode =>
      rw [Machine.resolve] at hnode
      rw [hnode]
    | directory hnode =>
      rw [Machine.resolve] at hnode
      rw [hnode]
      rfl
    | refused content hnode =>
      rw [Machine.resolve] at hnode
      rw [hnode]
      rfl

/-- The search finds what is located. -/
theorem locate_eq_some_iff {machine : Machine} {dir program binary : String} :
    locate machine dir program = some binary ↔ Locates machine dir program binary := by
  unfold locate candidates
  -- A name with a slash has one candidate, and any other has one for each directory.
  by_cases hslash : '/' ∈ program.toList
  · rw [if_pos (Host.hasChar_iff.mpr hslash)]
    constructor
    · intro h
      obtain ⟨hoffers, hmem⟩ := And.intro (List.find?_some h) (List.mem_of_find?_eq_some h)
      rw [List.mem_singleton] at hmem
      subst hmem
      exact .path hslash (leadsTo_isExecutable_iff.mp hoffers)
    · intro h
      cases h with
      | path _ hfile => exact List.find?_cons_of_pos (leadsTo_isExecutable_iff.mpr hfile)
      | searched hno => exact absurd hslash hno
  · rw [if_neg fun h => hslash (Host.hasChar_iff.mp h), List.find?_map,
      Option.map_eq_some_iff]
    constructor
    · rintro ⟨entry, hentry, rfl⟩
      -- The first that offers the program has only such in front of it as lack it.
      obtain ⟨hoffers, before, after, hentries, hbefore⟩ :=
        List.find?_eq_some_iff_append.mp hentry
      refine .searched hslash hentries ?_ (leadsTo_isExecutable_iff.mp hoffers)
      intro other hother
      have hnot := hbefore other hother
      rw [Bool.not_eq_true'] at hnot
      exact leadsTo_isExecutable_eq_false_iff.mp hnot
    · intro h
      cases h with
      | path hyes => exact absurd hyes hslash
      | @searched before after entry _ hentries hbefore hfile =>
        refine ⟨entry, ?_, rfl⟩
        rw [List.find?_eq_some_iff_append]
        refine ⟨leadsTo_isExecutable_iff.mpr hfile, before, after, hentries, ?_⟩
        intro other hother
        rw [Bool.not_eq_true']
        exact leadsTo_isExecutable_eq_false_iff.mpr (hbefore other hother)

/-- The program of a linter is settled: it is the same file from every directory, or it has a slash
and is launched in the directory of the run, from which it was found. -/
def Settled (machine : Machine) (linter : Linter) : Prop :=
  Host.IsAbsolute linter.binary ∨
    '/' ∈ linter.binary.toList ∧ linter.dir = machine.workingDir

/-- The directories of a lookup, by which what is found is settled: all of them are absolute, or
programs are found from the directory of the run and no empty entry is searched. -/
inductive Steady (machine : Machine) (dir : String) : Prop where
  | absolute (hdir : Host.IsAbsolute dir)
      (hentries : ∀ entry ∈ machine.searchPath, Host.IsAbsolute entry)
  | here (hdir : dir = machine.workingDir) (hentries : "" ∉ machine.searchPath)

/-- What is located from steady directories is settled. -/
theorem Locates.settled {machine : Machine} {dir program : String} {linter : Linter}
    (h : Locates machine dir program linter.binary) (hlinter : linter.dir = dir)
    (hsteady : Steady machine dir) : linter.Settled machine := by
  generalize hbinary : linter.binary = binary at h
  -- From absolute directories an absolute path is found; from here, one with a slash.
  cases hsteady with
  | absolute hdir hentries =>
    refine .inl ?_
    rw [hbinary]
    cases h with
    | path => exact hdir.join program
    | @searched _ _ entry _ hsplit _ _ =>
      refine (hentries entry ?_).join program
      rw [hsplit]
      exact List.mem_append_right _ (List.mem_cons_self ..)
  | here hdir hentries =>
    refine .inr ⟨?_, hlinter.trans hdir⟩
    rw [hbinary]
    cases h with
    | path =>
      apply Host.slash_mem_join
      rintro rfl
      exact absurd (hdir ▸ machine.workingDir_absolute) (by decide)
    | @searched _ _ entry _ hsplit _ _ =>
      apply Host.slash_mem_join
      rintro rfl
      rw [hsplit] at hentries
      exact hentries (List.mem_append_right _ (List.mem_cons_self ..))

theorem Settled.slash_mem {machine : Machine} {linter : Linter} (h : linter.Settled machine) :
    '/' ∈ linter.binary.toList := by
  rcases h with habsolute | ⟨hslash, _⟩
  · exact List.mem_of_mem_head? habsolute
  · exact hslash

/-- A settled program leads to the same from where it is launched as from where it was found,
whatever the files are and wherever a later run takes place. -/
theorem Settled.resolveFrom_eq {machine : Machine} {linter : Linter} (h : linter.Settled machine)
    (tree : FileTree) (later : String) :
    tree.resolveFrom (Host.join later linter.dir) linter.binary
      = tree.resolveFrom machine.workingDir linter.binary := by
  -- An absolute path does not depend on the directory, and else both directories are one.
  rcases h with habsolute | ⟨_, hdir⟩
  · rw [FileTree.resolveFrom_of_isAbsolute habsolute, FileTree.resolveFrom_of_isAbsolute habsolute]
  · rw [hdir, machine.workingDir_absolute.join_eq]

/-! ## Section 4: Setting up and linting -/

/-- A linter is found exactly if the command line has a first word and the program of that name is
located. -/
theorem find_eq_ok_iff {machine : Machine} {command dir : String} {options : Option String}
    {linter : Linter} :
    find machine command options dir = .ok linter ↔
      ∃ program words, Text.ShellWords.split? command = some (program :: words) ∧
        Locates machine dir program linter.binary ∧
        linter.args = words ++ (Text.words (options.getD "").toList).map String.ofList ∧
        linter.dir = dir := by
  constructor
  · intro h
    obtain ⟨program, words, hsplit, hlocate, hargs, hdir⟩ := words_of_find h
    exact ⟨program, words, hsplit, locate_eq_some_iff.mp hlocate, hargs, hdir⟩
  · rintro ⟨program, words, hsplit, hlocates, hargs, hdir⟩
    obtain ⟨binary, args, _⟩ := linter
    subst hargs hdir
    simp only [find, hsplit, locate_eq_some_iff.mpr hlocates]

/-- A linter whose program is settled runs the file to which that leads from where it was found, or
fails for a reason that lies in the launch and in what is at its paths. -/
theorem Settled.gives_lint {machine : Machine} {linter : Linter} (h : linter.Settled machine)
    (later : Machine) (file : String) :
    (∃ respond, later.Runnable machine.workingDir (linter.invocation file) respond ∧
      (linter.lint file).Gives later
        (linter.judge file (.ok (respond (linter.args ++ [file])))) later
        [linter.invocation file]) ∨
    ∃ fault, later.Refused machine.workingDir (linter.invocation file) fault ∧
      (linter.lint file).Gives later
        (.error (.linter ("failed to execute " ++ linter.binary ++ ": " ++ fault.message))) later
        [] := by
  have hlint := Host.gives_judged (linter.invocation file) later (linter.judge file)
  have hsame : later.tree.resolveFrom (Host.join later.workingDir (linter.invocation file).dir)
      (linter.invocation file).program
        = later.tree.resolveFrom machine.workingDir (linter.invocation file).program :=
    h.resolveFrom_eq later.tree later.workingDir
  have hslash : '/' ∈ (linter.invocation file).program.toList := h.slash_mem
  unfold Machine.runs at hlint
  -- What is said of the launch directory is said of the directory of the lookup by `hsame`.
  rcases Machine.launched_of_slash hslash later with
    ⟨respond, ⟨htexts, hdir, hprogram⟩, hlaunched⟩ | ⟨fault, hrefused, hlaunched⟩
  · rw [hlaunched] at hlint
    rw [hsame] at hprogram
    exact .inl ⟨respond, ⟨htexts, hdir, hprogram⟩, hlint⟩
  · rw [hlaunched] at hlint
    refine .inr ⟨fault, ?_, hlint⟩
    cases hrefused with
    | text hmem hnul => exact .text hmem hnul
    | dir hdir => exact .dir hdir
    | dirIsFile hdir => exact .dirIsFile hdir
    | program hprogram =>
      rw [FileTree.executable, hsame] at hprogram
      exact .program hprogram

/-- A result that is not a fault is not touched by rewording faults. -/
theorem mapError_eq_ok_iff {result : Except ε α} {reword : ε → ε'} {a : α} :
    result.mapError reword = .ok a ↔ result = .ok a := by
  cases result with
  | error fault =>
    constructor
    · intro h
      cases h
    · intro h
      cases h
  | ok found =>
    show Except.ok found = .ok a ↔ _
    rw [Except.ok.injEq, Except.ok.injEq]

/-- **Setting up a linter fixes the program that it runs.**  It succeeds exactly if the command
line has a first word and a program of that name is located, and that is the path that the linter
has; otherwise it fails with a fault of the user, and in no case does it run a program or change
the machine.  What is found from steady directories is settled.  With a settled program, every
later launch, on whatever machine, runs the file to which the path leads then from where it was
found, with the arguments of the linter and the file that is linted, or it fails with a fault of
the linter and runs nothing. -/
theorem lint_runs_located (machine : Machine) (command : String) (options : Option String)
    (dir : String) :
    ∃ answer, (resolve command options dir).Gives machine answer machine [] ∧
      (∀ linter, answer = .ok linter ↔
        ∃ program words, Text.ShellWords.split? command = some (program :: words) ∧
          Locates machine dir program linter.binary ∧
          linter.args = words ++ (Text.words (options.getD "").toList).map String.ofList ∧
          linter.dir = dir) ∧
      ((∀ linter, answer ≠ .ok linter) → ∃ text, answer = .error (.user text)) ∧
      (Steady machine dir → ∀ linter, answer = .ok linter → linter.Settled machine) ∧
      ∀ linter, answer = .ok linter → linter.Settled machine →
        ∀ (later : Machine) (file : String),
          (∃ respond, later.Runnable machine.workingDir (linter.invocation file) respond ∧
            (linter.lint file).Gives later
              (linter.judge file (.ok (respond (linter.args ++ [file])))) later
              [⟨linter.binary, linter.args ++ [file], dir⟩]) ∨
          ∃ fault, later.Refused machine.workingDir (linter.invocation file) fault ∧
            (linter.lint file).Gives later
              (.error (.linter ("failed to execute " ++ linter.binary ++ ": " ++ fault.message)))
              later [] := by
  have hfound : ∀ linter : Linter,
      ((find machine command options dir).mapError fun fault => Error.user fault.message)
          = .ok linter ↔
        ∃ program words, Text.ShellWords.split? command = some (program :: words) ∧
          Locates machine dir program linter.binary ∧
          linter.args = words ++ (Text.words (options.getD "").toList).map String.ofList ∧
          linter.dir = dir := by
    intro linter
    rw [← find_eq_ok_iff]
    exact mapError_eq_ok_iff
  -- Five parts: the run, the success, the fault, what is settled, and the later launches.
  refine ⟨_, gives_resolve machine command options dir, hfound, ?_, ?_, ?_⟩
  · intro hfails
    cases hfind : find machine command options dir with
    | error fault => exact ⟨fault.message, rfl⟩
    | ok found =>
      rw [hfind] at hfails
      exact absurd rfl (hfails found)
  · intro hsteady linter hanswer
    obtain ⟨program, words, _, hlocates, _, hdir⟩ := (hfound linter).mp hanswer
    exact hlocates.settled hdir hsteady
  · intro linter hanswer hsettled later file
    obtain ⟨_, _, _, _, _, hdir⟩ := (hfound linter).mp hanswer
    have hlint := hsettled.gives_lint later file
    rw [invocation, hdir] at hlint
    rw [invocation, hdir]
    exact hlint

/-! Five directories are searched: one that does not exist, one with a directory of the name, one
with a file that may not be executed, one that is given relative to that of the run, and one more
with the program.  Later the program is gone from the first of these two, and stands in a directory
that was passed over. -/

namespace Crowded

def machine : Machine where
  tree := ⟨[(["w"], .directory), (["a"], .directory), (["a", "lint"], .directory),
    (["b"], .directory), (["b", "lint"], .file [] .refused), (["w", "c"], .directory),
    (["w", "c", "lint"], .file [] (.runs fun _ => ⟨[], [], .exited 0⟩)), (["d"], .directory),
    (["d", "lint"], .file [] (.runs fun _ => ⟨[], [], .exited 1⟩))]⟩
  workingDir := "/w"
  searchPath := ["/gone", "/a", "/b", "c", "/d"]
  workingDir_absolute := Host.isAbsolute_sample

def later : Machine :=
  { machine with
    tree := (machine.tree.erase ["w", "c", "lint"]).insert ["b", "lint"]
      (.file [] (.runs fun _ => ⟨[], [], .exited 0⟩)) }

def linter : Linter := ⟨"c/lint", ["-x", "--all"], "/w"⟩

end Crowded

theorem lint_runs_located_crowded :
    (resolve "lint -x" (some " --all") "/w").Gives Crowded.machine (.ok Crowded.linter)
        Crowded.machine [] ∧
      Steady Crowded.machine "/w" ∧
      ∃ complaint, (Crowded.linter.lint "f.py").Gives Crowded.later (.error (.linter complaint))
        Crowded.later [] := by
  have hlocates : Locates Crowded.machine "/w" "lint" "c/lint" :=
    locate_eq_some_iff.mp (by decide +kernel)
  have hsteady : Steady Crowded.machine "/w" := .here rfl (by decide)
  obtain ⟨answer, hresolve, hanswer, _, hsettled, hlater⟩ :=
    lint_runs_located Crowded.machine "lint -x" (some " --all") "/w"
  have hok : answer = .ok Crowded.linter :=
    (hanswer Crowded.linter).mpr
      ⟨"lint", ["-x"], by decide +kernel, hlocates, by decide +kernel, rfl⟩
  refine ⟨hok ▸ hresolve, hsteady, ?_⟩
  -- The later launch runs a file that is gone, or is refused.
  rcases hlater Crowded.linter hok (hsettled hsteady Crowded.linter hok) Crowded.later "f.py" with
    ⟨_, hrunnable, _⟩ | ⟨_, _, hlint⟩
  · -- The path leads nowhere any more.
    obtain ⟨content, hfile⟩ := hrunnable.program
    have hgone : Crowded.later.tree.leadsToFrom "/w" Node.isFile "c/lint" = false := by
      decide +kernel
    rw [Host.FileTree.leadsToFrom] at hgone
    rw [show (Crowded.linter.invocation "f.py").program = "c/lint" from rfl,
      show Crowded.machine.workingDir = "/w" from rfl] at hfile
    rw [hfile] at hgone
    cases hgone
  · exact ⟨_, hlint⟩

/-! The search path has an empty entry, and the program is found there, in the directory of the
run.  Later it is gone, and another program of the name stands in a directory behind. -/

namespace Emptied

def machine : Machine where
  tree := ⟨[(["w"], .directory),
    (["w", "flake8"], .file [] (.runs fun _ => ⟨Text.Utf8.bytes "here", [], .exited 0⟩)),
    (["usr"], .directory), (["usr", "bin"], .directory),
    (["usr", "bin", "flake8"],
      .file [] (.runs fun _ => ⟨Text.Utf8.bytes "there", [], .exited 0⟩))]⟩
  workingDir := "/w"
  searchPath := ["", "/usr/bin"]
  workingDir_absolute := Host.isAbsolute_sample

def later : Machine := { machine with tree := machine.tree.erase ["w", "flake8"] }

def linter : Linter := ⟨"flake8", [], "/w"⟩

end Emptied

/-- What is found in an empty entry is the name itself, and each launch searches it again.  So the
linter falls back to another program: the path that was found leads to a program at first and to
none later, and then the linter reports what the program in the other directory says.  And it can
fail while its program can be run: a file name with a null character cannot be handed over. -/
theorem lint_falls_back_emptied :
    Locates Emptied.machine "/w" "flake8" "flake8" ∧
      (resolve "flake8" none "/w").Gives Emptied.machine (.ok Emptied.linter) Emptied.machine [] ∧
      (Emptied.linter.lint "f.py").Gives Emptied.machine (.ok "here") Emptied.machine
        [⟨"flake8", ["f.py"], "/w"⟩] ∧
      Lacks Emptied.later "flake8" ∧
      (Emptied.linter.lint "f.py").Gives Emptied.later (.ok "there") Emptied.later
        [⟨"flake8", ["f.py"], "/w"⟩] ∧
      (Emptied.linter.lint "f\x00").Gives Emptied.machine
        (.error (.linter "failed to execute flake8: nul byte found in provided data"))
        Emptied.machine [] := by
  have hlocates : Locates Emptied.machine "/w" "flake8" "flake8" :=
    locate_eq_some_iff.mp (by decide +kernel)
  have hfound : find Emptied.machine "flake8" none "/w" = .ok Emptied.linter :=
    find_eq_ok_iff.mpr ⟨"flake8", [], by decide +kernel, hlocates, by decide +kernel, rfl⟩
  have hresolve := gives_resolve Emptied.machine "flake8" none "/w"
  rw [hfound] at hresolve
  have hlint : ∀ (machine : Machine) (report : String),
      machine.printed? [0, 1] (Emptied.linter.invocation "f.py") = some report →
      (Emptied.linter.lint "f.py").Gives machine (.ok report) machine
        [⟨"flake8", ["f.py"], "/w"⟩] :=
    fun _ _ hprinted => gives_lint_of_printed (Machine.printed?_eq_some_iff.mp hprinted)
  refine ⟨hlocates, hresolve, hlint _ _ (by decide +kernel),
    leadsTo_isExecutable_eq_false_iff.mp (by decide +kernel), hlint _ _ (by decide +kernel), ?_⟩
  -- The program could be run still, but its argument cannot be handed over.
  have hnul := Host.gives_judged (Emptied.linter.invocation "f\x00") Emptied.machine
    (Emptied.linter.judge "f\x00")
  have hprepare : Emptied.machine.prepare (Emptied.linter.invocation "f\x00")
      = .error .nulInArgument :=
    Machine.prepare_of_nul (List.mem_of_getLast? rfl) (by decide) Emptied.machine
  have hlaunched : Emptied.machine.launched (Emptied.linter.invocation "f\x00")
      = .error .nulInArgument := by
    rw [Machine.launched, hprepare]
    rfl
  rw [Machine.runs, hlaunched] at hnul
  exact hnul

end Linter

end ChangeLint
