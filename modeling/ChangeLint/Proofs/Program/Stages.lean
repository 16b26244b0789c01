import ChangeLint.Program
import ChangeLint.Proofs.Config.Emitting
import ChangeLint.Proofs.Engine.Visits
import ChangeLint.Proofs.Vcs.Answers

/-! # The stages of a run

Before a program of version control is run, four stages must succeed: the directory of the run
exists, a configuration is found, it can be used with the options laid over it, and the linter
is found.  None of them runs a program or writes to the report.

* `Ready` says that the four stages succeed, and `Unready` that one of them is the first to fail.
* `Made` says of a visit that its diff and its lint succeed. -/

namespace ChangeLint

open Host (Machine Printed Failed)

theorem Attempt.Gives.onWorld {attempt : Attempt W α} {world after : W}
    {answer : Except Error α} {programs : List Invocation}
    (h : attempt.Gives world answer after programs) (sink : Report.Sink) :
    (Session.onWorld attempt).Gives ⟨world, sink⟩ answer ⟨after, sink⟩ programs := by
  obtain ⟨events, hrun, hprograms⟩ := h
  refine ⟨events, ?_, hprograms⟩
  rw [Session.run_onWorld, hrun]

/-! ## Section 1: The linter -/

namespace Linter

/-- How a linter is launched on a file. -/
def invocation (linter : Linter) (file : String) : Invocation :=
  ⟨linter.binary, linter.args ++ [file], linter.dir⟩

variable (linter : Linter) (file : String)

theorem judge_of_printed {launched : Except Host.Fault Host.Outcome} {text : String}
    (h : Printed [0, 1] launched text) : linter.judge file launched = .ok text := by
  cases h with
  | exited ending status =>
    have hcompleted : completed.contains _ = true := List.contains_iff_mem.mpr status
    simp only [judge, ending, hcompleted, if_true]

theorem judge_of_failed {launched : Except Host.Fault Host.Outcome} (h : Failed [0, 1] launched) :
    ∃ text, linter.judge file launched = .error (.linter text) := by
  -- A linter may end with 0 or 1; anything else is a fault of it.
  cases h with
  | unspawned fault => exact ⟨_, rfl⟩
  | signalled ending =>
    simp only [judge, ending]
    exact ⟨_, rfl⟩
  | @exited _ code ending status =>
    have hcompleted : completed.contains code = false := by
      rw [← Bool.not_eq_true, List.contains_iff_mem]
      exact status
    simp only [judge, ending, hcompleted]
    exact ⟨_, rfl⟩

variable {linter file}

theorem gives_lint_of_printed {machine : Machine} {text : String}
    (h : Printed [0, 1] (machine.launched (linter.invocation file)) text) :
    (linter.lint file).Gives machine (.ok text) machine [linter.invocation file] := by
  have hlint := Host.gives_judged (linter.invocation file) machine (linter.judge file)
  rw [judge_of_printed linter file h, h.runs] at hlint
  exact hlint

theorem gives_lint_of_failed {machine : Machine}
    (h : Failed [0, 1] (machine.launched (linter.invocation file))) :
    ∃ complaint, (linter.lint file).Gives machine (.error (.linter complaint)) machine
      (machine.runs (linter.invocation file)) := by
  obtain ⟨complaint, hjudge⟩ := judge_of_failed linter file h
  have hlint := Host.gives_judged (linter.invocation file) machine (linter.judge file)
  rw [hjudge] at hlint
  exact ⟨complaint, hlint⟩

/-- A linter that is found has the words of its command line behind the program, then the words
of the options, and it runs where it is set up. -/
theorem words_of_find {linter : Linter} {machine : Machine} {command dir : String}
    {options : Option String} (h : find machine command options dir = .ok linter) :
    ∃ program words, Text.ShellWords.split? command = some (program :: words) ∧
      locate machine dir program = some linter.binary ∧
      linter.args = words ++ (Text.words (options.getD "").toList).map String.ofList ∧
      linter.dir = dir := by
  unfold find at h
  -- No words, an unclosed quote, or a first word that is looked up.
  split at h
  · cases h
  · cases h
  · next program words hsplit =>
    split at h
    · cases h
    · next binary hlocate =>
      cases h
      exact ⟨program, words, hsplit, hlocate, rfl, rfl⟩

/-- Setting up a linter runs no program. -/
theorem gives_resolve (machine : Machine) (command : String) (options : Option String)
    (dir : String) :
    (resolve command options dir).Gives machine
      ((find machine command options dir).mapError fun fault => .user fault.message) machine
      [] := by
  -- The machine is looked at once, and what is found there decides.
  cases h : find machine command options dir with
  | error fault =>
    have hnext : (resolve command options dir).Gives machine
        (.error (.user fault.message)) machine ([] ++ []) := by
      refine (Attempt.gives_look machine).bind ?_
      rw [h]
      exact Attempt.gives_throw _ machine
    exact hnext
  | ok linter =>
    have hnext : (resolve command options dir).Gives machine (.ok linter) machine
        ([] ++ ([] ++ [])) := by
      refine (Attempt.gives_look machine).bind ?_
      rw [h]
      exact (Attempt.gives_log ..).bind (Attempt.gives_pure linter machine)
    exact hnext

end Linter

/-! ## Section 2: The configuration -/

namespace Config

/-- What is found on a machine: the file that is named, or else the one in the directory of the
run, or else the default. -/
def found (machine : Machine) (named : Option String) : Except Error Config :=
  match named with
  | some path => load machine path
  | none =>
    if machine.tree.leadsTo Host.Node.isFile (defaultPath machine.workingDir) then
      load machine (defaultPath machine.workingDir)
    else .ok {}

/-- Finding the configuration runs no program. -/
theorem gives_discover (machine : Machine) (named : Option String) :
    (discover named machine.workingDir).Gives machine (found machine named) machine [] := by
  refine (Attempt.gives_look machine).bind (p := []) (q := []) ?_
  -- Only the file in the directory of the run may be missing.
  cases named with
  | some path => exact Attempt.gives_ofExcept _ machine
  | none =>
    unfold found
    by_cases h : machine.tree.leadsTo Host.Node.isFile (defaultPath machine.workingDir) = true
    · simp only [if_pos h]
      exact (Attempt.gives_log ..).bind (Attempt.gives_ofExcept _ machine)
    · simp only [if_neg h]
      exact Attempt.gives_pure _ machine

theorem validate_of_none {config : Config} (h : config.invalid? = none) :
    config.validate = .ok () := by
  rw [validate, h]

theorem validate_of_some {config : Config} {reason : Invalid} (h : config.invalid? = some reason) :
    config.validate = .error (.user reason.message) := by
  rw [validate, h]

/-- A configuration that can be used has patterns that can be read. -/
theorem filter_of_valid {config : Config} (h : config.invalid? = none) :
    ∃ filter, Vcs.Include.ofPatterns config.patterns = .ok filter := by
  -- Reading the patterns is the last thing that validation tries.
  unfold invalid? at h
  cases hfilter : Vcs.Include.ofPatterns config.patterns with
  | ok filter => exact ⟨filter, rfl⟩
  | error error =>
    rw [hfilter] at h
    split at h
    · cases h
    · split at h <;> cases h

/-! Whatever is wrong with a configuration is a fault of the user. -/

theorem exitStatus_of_validate_error {config : Config} {error : Error}
    (h : config.validate = .error error) : error.exitStatus = ExitStatus.userError := by
  unfold validate at h
  -- Only something that is wrong with the configuration is an error here.
  split at h
  · cases h
    rfl
  · cases h

theorem exitStatus_of_load_error {machine : Machine} {path : String} {error : Error}
    (h : load machine path = .error error) : error.exitStatus = ExitStatus.userError := by
  unfold load at h
  -- A file that cannot be read, that is no configuration, or that cannot be used.
  split at h
  · cases h
    rfl
  · next yaml _ =>
    unfold ofYaml at h
    split at h
    · cases h
      rfl
    · next config _ =>
      cases hvalid : config.validate with
      | error reason =>
        rw [hvalid] at h
        cases h
        exact exitStatus_of_validate_error hvalid
      | ok _ =>
        rw [hvalid] at h
        cases h

theorem exitStatus_of_found_error {machine : Machine} {named : Option String} {error : Error}
    (h : found machine named = .error error) : error.exitStatus = ExitStatus.userError := by
  unfold found at h
  split at h
  · exact exitStatus_of_load_error h
  · split at h
    · exact exitStatus_of_load_error h
    · cases h

end Config

/-! ## Section 3: Before version control -/

/-- What a run works with once the first stages have succeeded. -/
structure Setup where
  config : Config
  linter : Linter
  ctx : Vcs.Context

namespace Setup

/-- The engine of the run. -/
def engine (setup : Setup) : Engine Machine := setup.config.engine setup.linter setup.ctx.dir

/-- The bytes that the report of some visits has. -/
def report (setup : Setup) (visits : List Visit) : List UInt8 :=
  Report.Style.report ⟨setup.config.theme, .ofFlag setup.config.standardOutput⟩ visits

end Setup

/-- The first stages succeed and leave this setup. -/
structure Ready (options : Cli.Options) (machine : Machine) (setup : Setup) : Prop where
  here : ∃ node, machine.tree.resolve machine.workingDir = .ok node
  found : ∃ file, Config.found machine options.configPath = .ok file ∧
    setup.config = options.applyTo file
  valid : setup.config.invalid? = none
  linter : Linter.find machine setup.config.linter setup.config.linterOptions machine.workingDir
    = .ok setup.linter
  filter : ∃ filter, Vcs.Include.ofPatterns setup.config.patterns = .ok filter ∧
    setup.ctx = setup.config.context filter machine.workingDir

/-- One of the first stages fails, and all before it succeed. -/
inductive Unready (options : Cli.Options) (machine : Machine) : Prop where
  | nowhere {fault : Host.Fault} (here : machine.tree.resolve machine.workingDir = .error fault)
  | unconfigured {node : Host.Node} {error : Error}
      (here : machine.tree.resolve machine.workingDir = .ok node)
      (found : Config.found machine options.configPath = .error error)
  | invalid {node : Host.Node} {file : Config} {reason : Config.Invalid}
      (here : machine.tree.resolve machine.workingDir = .ok node)
      (found : Config.found machine options.configPath = .ok file)
      (invalid : (options.applyTo file).invalid? = some reason)
  | noLinter {node : Host.Node} {file : Config} {fault : Linter.Fault}
      (here : machine.tree.resolve machine.workingDir = .ok node)
      (found : Config.found machine options.configPath = .ok file)
      (valid : (options.applyTo file).invalid? = none)
      (linter : Linter.find machine (options.applyTo file).linter
        (options.applyTo file).linterOptions machine.workingDir = .error fault)

/-- On every machine the first stages succeed or one of them fails. -/
theorem ready_or_unready (options : Cli.Options) (machine : Machine) :
    (∃ setup, Ready options machine setup) ∨ Unready options machine := by
  -- The stages are taken in their order; each one that fails is a case of `Unready`.
  cases hhere : machine.tree.resolve machine.workingDir with
  | error fault => exact .inr (.nowhere hhere)
  | ok node =>
    cases hfound : Config.found machine options.configPath with
    | error error => exact .inr (.unconfigured hhere hfound)
    | ok found =>
      cases hvalid : (options.applyTo found).invalid? with
      | some reason => exact .inr (.invalid hhere hfound hvalid)
      | none =>
        -- What can be used has patterns that can be read, so the filter is no stage of its own.
        obtain ⟨filter, hfilter⟩ := Config.filter_of_valid hvalid
        cases hlinter : Linter.find machine (options.applyTo found).linter
            (options.applyTo found).linterOptions machine.workingDir with
        | error fault => exact .inr (.noLinter hhere hfound hvalid hlinter)
        | ok linter =>
          refine .inl ⟨⟨options.applyTo found, linter,
            (options.applyTo found).context filter machine.workingDir⟩, ?_⟩
          exact ⟨⟨node, hhere⟩, ⟨found, hfound, rfl⟩, hvalid, hlinter, ⟨filter, hfilter, rfl⟩⟩

namespace Program

variable {options : Cli.Options} {machine : Machine}

theorem gives_currentDir {node : Host.Node}
    (h : machine.tree.resolve machine.workingDir = .ok node) :
    currentDir.Gives machine (.ok machine.workingDir) machine [] := by
  refine (Attempt.gives_look machine).bind (p := []) (q := []) ?_
  rw [h]
  exact Attempt.gives_pure _ machine

theorem gives_currentDir_of_error {fault : Host.Fault}
    (h : machine.tree.resolve machine.workingDir = .error fault) :
    currentDir.Gives machine
      (.error (.user ("failed to read current directory: " ++ fault.message))) machine [] := by
  refine (Attempt.gives_look machine).bind (p := []) (q := []) ?_
  rw [h]
  exact Attempt.gives_throw _ machine

/-- What is logged about the configuration that holds in the end: its text, if that is shown. -/
def effectiveLog (verbosity : Verbosity) (config : Config) : List Event :=
  if verbosity.shows .debug then
    [.logged ⟨.debug, .program, "effective config:\n" ++ config.toYaml⟩]
  else []

/-- However much is shown, the run goes on behind the configuration: its text can be written. -/
theorem run_showConfig (verbosity : Verbosity) (config : Config) :
    (showConfig verbosity config).run machine
      = ⟨.ok (), machine, effectiveLog verbosity config⟩ := by
  unfold showConfig effectiveLog
  -- Where the text is shown it has to be written first, and that cannot fail.
  split
  · rw [config.toYaml?_eq]
    rfl
  · rfl

theorem gives_showConfig (verbosity : Verbosity) (config : Config) :
    (showConfig verbosity config).Gives machine (.ok ()) machine [] := by
  refine ⟨_, run_showConfig verbosity config, ?_⟩
  unfold effectiveLog
  split
  · rfl
  · rfl

theorem gives_configure {file : Config}
    (hfound : Config.found machine options.configPath = .ok file)
    (hvalid : (options.applyTo file).invalid? = none) :
    (configure options machine.workingDir).Gives machine (.ok (options.applyTo file)) machine
      [] := by
  have hdiscover := Config.gives_discover machine options.configPath
  rw [hfound] at hdiscover
  have hvalidate : (Attempt.ofExcept (options.applyTo file).validate).Gives machine (.ok ())
      machine [] := by
    rw [Config.validate_of_none hvalid]
    exact Attempt.gives_ofExcept _ machine
  -- Three parts: finding, validating and showing, none of which runs a program.
  refine hdiscover.bind (p := []) (q := []) ?_
  refine hvalidate.bind (p := []) (q := []) ?_
  exact (gives_showConfig ..).bind (Attempt.gives_pure _ machine)

theorem gives_configure_of_found_error {error : Error}
    (hfound : Config.found machine options.configPath = .error error) :
    (configure options machine.workingDir).Gives machine (.error error) machine [] := by
  have hdiscover := Config.gives_discover machine options.configPath
  rw [hfound] at hdiscover
  exact hdiscover.bind_error

theorem gives_configure_of_invalid {file : Config} {reason : Config.Invalid}
    (hfound : Config.found machine options.configPath = .ok file)
    (hinvalid : (options.applyTo file).invalid? = some reason) :
    (configure options machine.workingDir).Gives machine (.error (.user reason.message)) machine
      [] := by
  have hdiscover := Config.gives_discover machine options.configPath
  rw [hfound] at hdiscover
  -- The check fails behind the file that was found, so nothing of the configuration is shown.
  have hvalidate : (Attempt.ofExcept (options.applyTo file).validate).Gives machine
      (.error (.user reason.message)) machine [] := by
    rw [Config.validate_of_some hinvalid]
    exact Attempt.gives_ofExcept _ machine
  refine hdiscover.bind (p := []) (q := []) ?_
  exact hvalidate.bind_error

/-- If one of the first stages fails, the run ends there as a fault of the user, and it has run
nothing and written nothing. -/
theorem gives_check_of_unready (h : Unready options machine) (sink : Report.Sink) :
    ∃ error : Error, error.exitStatus = ExitStatus.userError ∧
      (check options).Gives ⟨machine, sink⟩ (.error error) ⟨machine, sink⟩ [] := by
  -- The stages in front of the failing one leave the session as it is.
  cases h with
  | nowhere here =>
    exact ⟨_, rfl, ((gives_currentDir_of_error here).onWorld sink).bind_error⟩
  | unconfigured here found =>
    refine ⟨_, Config.exitStatus_of_found_error found, ?_⟩
    refine ((gives_currentDir here).onWorld sink).bind (p := []) (q := []) ?_
    exact ((gives_configure_of_found_error found).onWorld sink).bind_error
  | @invalid _ _ reason here found invalid =>
    refine ⟨.user reason.message, rfl, ?_⟩
    refine ((gives_currentDir here).onWorld sink).bind (p := []) (q := []) ?_
    exact ((gives_configure_of_invalid found invalid).onWorld sink).bind_error
  | @noLinter _ file fault here found valid linter =>
    have hresolve := Linter.gives_resolve machine (options.applyTo file).linter
      (options.applyTo file).linterOptions machine.workingDir
    rw [linter] at hresolve
    refine ⟨.user fault.message, rfl, ?_⟩
    refine ((gives_currentDir here).onWorld sink).bind (p := []) (q := []) ?_
    refine ((gives_configure found valid).onWorld sink).bind (p := []) (q := []) ?_
    exact (hresolve.onWorld sink).bind_error

/-- A configuration that can be used is processed by the engine of the run. -/
theorem process_of_ready {setup : Setup} (h : Ready options machine setup) :
    setup.config.process setup.linter setup.ctx.dir
      = setup.engine.runWith setup.ctx.providers := by
  obtain ⟨config, linter, ctx⟩ := setup
  obtain ⟨filter, hfilter, hctx⟩ := h.filter
  dsimp only at hfilter hctx
  -- The patterns were read before, so reading them again cannot fail.
  subst hctx
  unfold Config.process
  rw [hfilter]
  rfl

/-- Once the first stages succeed, the run is one of the engine. -/
theorem gives_check_of_ready {setup : Setup} (h : Ready options machine setup)
    {sink : Report.Sink} {answer : Except Error Bool} {after : Session Machine}
    {programs : List Invocation}
    (hrun : (setup.engine.runWith setup.ctx.providers).Gives ⟨machine, sink⟩ answer after
      programs) :
    (check options).Gives ⟨machine, sink⟩ answer after programs := by
  -- Every stage leaves the session as it is, so each one starts where the run does.
  rw [← process_of_ready h] at hrun
  obtain ⟨config, linter, ctx⟩ := setup
  obtain ⟨⟨node, here⟩, ⟨file, found, hconfig⟩, valid, hlinter, ⟨filter, _, hctx⟩⟩ := h
  dsimp only at hconfig valid hlinter hctx
  subst hconfig hctx
  have hresolve := Linter.gives_resolve machine (options.applyTo file).linter
    (options.applyTo file).linterOptions machine.workingDir
  rw [hlinter] at hresolve
  refine ((gives_currentDir here).onWorld sink).bind (p := []) (q := programs) ?_
  refine ((gives_configure found valid).onWorld sink).bind (p := []) (q := programs) ?_
  exact (hresolve.onWorld sink).bind (p := []) (q := programs) hrun

end Program

end ChangeLint
