import ChangeLint.Proofs.Config.Files
import ChangeLint.Proofs.Program.Stages

/-! # The layers of a configuration

The options of a command line are laid over a configuration file, and the file over the defaults.
Each field is decided on its own: nothing that is said about one field has a part in another.

* `File.vcs?` and its like are what a file gives for each field.
* `Layered` says of each field which layer decides it.
* `run_of_file` follows a run with a configuration file.  What the engine works with is the layered
  configuration, and the run goes on to it just if that configuration can be used. -/

namespace ChangeLint

open Host (Machine)

namespace Config

/-! ## Section 1: What a file gives -/

/-- Of several settings for different fields, at most one decides a part of the configuration. -/
theorem get_foldl_set {get : Config → β} {pick : Setting → Option β} {field : Field}
    (hset : ∀ config given, get (config.set given) = (pick given).getD (get config))
    (hfield : ∀ given value, pick given = some value → given.field = field)
    {settings : List Setting} (hdistinct : (settings.map Setting.field).Nodup) (config : Config) :
    get (settings.foldl set config) = (settings.findSome? pick).getD (get config) := by
  -- By induction on the settings, for whatever configuration they are taken into.
  induction settings generalizing config with
  | nil => rfl
  | cons given settings ih =>
    obtain ⟨hgiven, hdistinct⟩ := List.nodup_cons.mp hdistinct
    rw [List.foldl_cons, ih hdistinct, hset]
    -- The first setting is for another field and passed over, or it is the one that decides.
    cases hpick : pick given with
    | none => rw [List.findSome?_cons_of_isNone (by rw [hpick]; rfl), Option.getD_none]
    | some value =>
      -- Nothing else is given for the field.
      have hothers : settings.findSome? pick = none := by
        rw [List.findSome?_eq_none_iff]
        intro other hother
        cases hvalue : pick other with
        | none => rfl
        | some _ =>
          have hsame := (hfield other _ hvalue).trans (hfield given _ hpick).symm
          exact absurd (hsame ▸ List.mem_map_of_mem hother) hgiven
      rw [hothers, List.findSome?_cons_of_isSome (by rw [hpick]; rfl), hpick]
      rfl

namespace File

variable (file : File)

/-- The version control system that a file names. -/
def vcs? : Option String := file.settings.findSome? fun | .vcs name => some name | _ => none

def linterOptions? : Option String :=
  file.settings.findSome? fun | .linterOptions options => some options | _ => none

def standardOutput? : Option Bool :=
  file.settings.findSome? fun | .standardOutput flag => some flag | _ => none

def theme? : Option Report.Theme :=
  file.settings.findSome? fun | .theme chosen => some chosen | _ => none

def linter? : Option String :=
  file.settings.findSome? fun | .linter command => some command | _ => none

def patterns? : Option (List String) :=
  file.settings.findSome? fun | .patterns globs => some globs | _ => none

def commits? : Option (List String) :=
  file.settings.findSome? fun | .commits names => some names | _ => none

/-- A part of the configuration is what the file gives for its field, or else the default. -/
theorem get_config (field : Field) {get : Config → β} {pick : Setting → Option β}
    (hset : ∀ config given, get (config.set given) = (pick given).getD (get config))
    (hfield : ∀ given value, pick given = some value → given.field = field) :
    get file.config = (file.settings.findSome? pick).getD (get {}) :=
  get_foldl_set hset hfield file.distinct {}

/-- What need not be given at all is what the file gives for it. -/
theorem get_config_of_none (field : Field) {get : Config → Option α} {pick : Setting → Option α}
    (hset : ∀ config given, get (config.set given) = (pick given).or (get config))
    (hfield : ∀ given value, pick given = some value → given.field = field)
    (hnone : get {} = none) : get file.config = file.settings.findSome? pick := by
  -- What need not be given is given as something, so the general lemma applies to its option.
  have hsome : ∀ config given,
      get (config.set given) = ((pick given).map some).getD (get config) := by
    intro config given
    rw [hset]
    cases pick given <;> rfl
  have hconfig := file.get_config field hsome fun given value h => by
    obtain ⟨value, hvalue, _⟩ := Option.map_eq_some_iff.mp h
    exact hfield given value hvalue
  rw [hconfig, hnone]
  show (file.settings.findSome? (Option.map some ∘ pick)).getD none = _
  rw [← List.map_findSome?]
  cases file.settings.findSome? pick <;> rfl

end File

/-! ## Section 2: Layers -/

/-- What the command line gives goes before what the file gives, and that before the default. -/
def layered (given inFile : Option α) (default : α) : α := (given.or inFile).getD default

/-- A flag counts as given if it is set. -/
def givenFlag (flag : Bool) : Option Bool := if flag then some true else none

/-- A list counts as given if it is not empty. -/
def givenList (list : List α) : Option (List α) := if list.isEmpty then none else some list

/-- Each field of the configuration is decided by the first layer that gives it. -/
structure Layered (options : Cli.Options) (file : File) (config : Config) : Prop where
  vcs : config.vcs = options.vcs.or file.vcs?
  linterOptions : config.linterOptions = options.linterOptions.or file.linterOptions?
  standardOutput : config.standardOutput
    = layered (givenFlag options.standardOutput) file.standardOutput? false
  theme : config.theme = layered options.theme file.theme? .dark
  linter : config.linter = layered options.linter file.linter? "flake8"
  patterns : config.patterns = layered (givenList options.patterns) file.patterns? ["*.py"]
  commits : config.commits = layered (givenList options.commits) file.commits? ["master"]

theorem layered_eq (given inFile : Option α) (default : α) :
    layered given inFile default = given.getD (inFile.getD default) := by
  cases given <;> rfl

theorem given_eq_getD (list without : List α) :
    Cli.Options.given list without = (givenList list).getD without := by
  unfold Cli.Options.given givenList
  split <;> rfl

/-- Options laid over a file are the layers. -/
theorem layered_applyTo (options : Cli.Options) (file : File) :
    Layered options file (options.applyTo file.config) where
  vcs := by
    -- For each field: what is picked is of that field, and the options are laid over it.
    have hfile : file.config.vcs = file.vcs? := by
      refine file.get_config_of_none .vcs (fun _ given => ?_) (fun given _ h => ?_) rfl
      · cases given <;> rfl
      · cases given <;> first | rfl | cases h
    rw [← hfile]
    cases h : options.vcs <;> simp [Cli.Options.applyTo, h]
  linterOptions := by
    have hfile : file.config.linterOptions = file.linterOptions? := by
      refine file.get_config_of_none .linterOptions (fun _ given => ?_) (fun given _ h => ?_) rfl
      · cases given <;> rfl
      · cases given <;> first | rfl | cases h
    rw [← hfile]
    cases h : options.linterOptions <;> simp [Cli.Options.applyTo, h]
  standardOutput := by
    have hfile : file.config.standardOutput = file.standardOutput?.getD false := by
      refine file.get_config .standardOutput (fun _ given => ?_) (fun given _ h => ?_)
      · cases given <;> rfl
      · cases given <;> first | rfl | cases h
    rw [layered_eq, ← hfile]
    cases h : options.standardOutput <;> simp [Cli.Options.applyTo, givenFlag, h]
  theme := by
    have hfile : file.config.theme = file.theme?.getD .dark := by
      refine file.get_config .theme (fun _ given => ?_) (fun given _ h => ?_)
      · cases given <;> rfl
      · cases given <;> first | rfl | cases h
    rw [layered_eq, ← hfile]
    rfl
  linter := by
    have hfile : file.config.linter = file.linter?.getD "flake8" := by
      refine file.get_config .linter (fun _ given => ?_) (fun given _ h => ?_)
      · cases given <;> rfl
      · cases given <;> first | rfl | cases h
    rw [layered_eq, ← hfile]
    rfl
  patterns := by
    have hfile : file.config.patterns = file.patterns?.getD ["*.py"] := by
      refine file.get_config .patterns (fun _ given => ?_) (fun given _ h => ?_)
      · cases given <;> rfl
      · cases given <;> first | rfl | cases h
    rw [layered_eq, ← hfile, ← given_eq_getD]
    rfl
  commits := by
    have hfile : file.config.commits = file.commits?.getD ["master"] := by
      refine file.get_config .commits (fun _ given => ?_) (fun given _ h => ?_)
      · cases given <;> rfl
      · cases given <;> first | rfl | cases h
    rw [layered_eq, ← hfile, ← given_eq_getD]
    rfl

/-! ## Section 3: The configuration of a run -/

variable {machine : Machine} {file : File} {named : Option String}

/-- The configuration file of a run holds a text: the file that is named, or else the one in the
directory of the run. -/
def Holds (machine : Machine) (text : String) : Option String → Prop
  | some path => machine.tree.readText (Host.join machine.workingDir path) = .ok text
  | none => machine.tree.leadsTo Host.Node.isFile (defaultPath machine.workingDir) = true ∧
      machine.tree.readText (Host.join machine.workingDir (defaultPath machine.workingDir))
        = .ok text

/-- What is logged when a configuration file is found. -/
def lookupLog (dir : String) : Option String → List Event
  | some _ => []
  | none => [.logged ⟨.debug, .config, "loading config from " ++ defaultPath dir⟩]

/-- A file that can be used by itself is loaded. -/
theorem load_file {path : String}
    (hread : machine.tree.readText (Host.join machine.workingDir path) = .ok file.text)
    (hvalid : file.config.validate = .ok ()) : load machine path = .ok file.config := by
  have hyaml : ofYaml file.text = .ok file.config := by
    unfold ofYaml
    rw [file.parse_text]
    dsimp only
    rw [hvalid]
  unfold load
  rw [hread]
  exact hyaml

/-- The file of a run is found. -/
theorem run_discover (hholds : Holds machine file.text named)
    (hvalid : file.config.validate = .ok ()) :
    (discover named machine.workingDir).run machine
      = ⟨.ok file.config, machine, lookupLog machine.workingDir named⟩ := by
  have hlook : (Attempt.ofAct Act.look).run machine = ⟨.ok machine, machine, []⟩ := rfl
  unfold discover
  rw [Attempt.run_bind_of_ok hlook, Reply.behind_nil]
  -- A file that is named is read at once; the other one is looked for and announced.
  cases named with
  | some path => simp only [load_file hholds hvalid, Attempt.run_ofExcept, lookupLog]
  | none =>
    obtain ⟨hthere, hread⟩ := hholds
    have hlog : (Attempt.ofAct (Act.log .debug .config
        ("loading config from " ++ defaultPath machine.workingDir))).run machine
          = ⟨.ok (), machine, lookupLog machine.workingDir none⟩ := rfl
    simp only [if_pos hthere]
    rw [Attempt.run_bind_of_ok hlog, load_file hread hvalid, Attempt.run_ofExcept,
      Reply.behind_mk, List.append_nil]

end Config

namespace Program

variable {machine : Machine} {file : Config.File} {options : Cli.Options}

/-- With the options laid over the file, the configuration is used just if it can be. -/
theorem run_configure (hholds : Config.Holds machine file.text options.configPath)
    (hfile : file.config.validate = .ok ()) :
    (configure options machine.workingDir).run machine =
      let config := options.applyTo file.config
      let log := Config.lookupLog machine.workingDir options.configPath
      match config.validate with
      | .ok () => ⟨.ok config, machine, log ++ effectiveLog options.verbosity config⟩
      | .error error => ⟨.error error, machine, log⟩ := by
  have hfound := Config.run_discover hholds hfile
  -- The file was checked by itself; with the options laid over it, it is checked once more.
  have hvalidate := Attempt.run_ofExcept (options.applyTo file.config).validate machine
  unfold configure
  rw [Attempt.run_bind_of_ok hfound]
  -- What cannot be used ends here, before anything is shown of it.
  cases hvalid : (options.applyTo file.config).validate with
  | error error =>
    rw [hvalid] at hvalidate
    simp only [hvalid]
    rw [Attempt.run_bind_of_error hvalidate, Reply.behind_mk, List.append_nil]
  | ok _ =>
    rw [hvalid] at hvalidate
    simp only [hvalid]
    rw [Attempt.run_bind_of_ok hvalidate, Attempt.run_bind_of_ok (run_showConfig ..)]
    simp

theorem run_currentDir {node : Host.Node}
    (hhere : machine.tree.resolve machine.workingDir = .ok node) :
    currentDir.run machine = ⟨.ok machine.workingDir, machine, []⟩ := by
  have hlook : (Attempt.ofAct Act.look).run machine = ⟨.ok machine, machine, []⟩ := rfl
  unfold currentDir
  rw [Attempt.run_bind_of_ok hlook, Reply.behind_nil]
  simp only [hhere, Attempt.run_pure]

/-- What the program does with a configuration: it finds the linter and lets the engine work. -/
def workWith (config : Config) (dir : String) : Attempt (Session Machine) Bool := do
  let linter ← Session.onWorld (Linter.resolve config.linter config.linterOptions dir)
  config.process linter dir

/-- A run comes to its work with the configuration, or ends because it cannot be used. -/
theorem run_check {node : Host.Node} (hhere : machine.tree.resolve machine.workingDir = .ok node)
    (hholds : Config.Holds machine file.text options.configPath)
    (hfile : file.config.validate = .ok ()) (sink : Report.Sink) :
    (check options).run ⟨machine, sink⟩ =
      let config := options.applyTo file.config
      let log := Config.lookupLog machine.workingDir options.configPath
      match config.validate with
      | .ok () =>
        ((workWith config machine.workingDir).run ⟨machine, sink⟩).behind
          (log ++ effectiveLog options.verbosity config)
      | .error error => ⟨.error error, ⟨machine, sink⟩, log⟩ := by
  have hdir : (Session.onWorld currentDir).run ⟨machine, sink⟩
      = ⟨.ok machine.workingDir, ⟨machine, sink⟩, []⟩ := by
    rw [Session.run_onWorld, run_currentDir hhere]
  -- The configuration is read in the world alone; the sink is not touched by it.
  have hconfigure := Session.run_onWorld (configure options machine.workingDir) ⟨machine, sink⟩
  rw [run_configure hholds hfile] at hconfigure
  unfold check
  rw [Attempt.run_bind_of_ok hdir, Reply.behind_nil]
  -- The directory and the configuration leave the session as it is, so the rest starts afresh.
  cases hvalid : (options.applyTo file.config).validate with
  | error error =>
    simp only [hvalid] at hconfigure ⊢
    rw [Attempt.run_bind_of_error hconfigure]
  | ok _ =>
    simp only [hvalid] at hconfigure ⊢
    rw [Attempt.run_bind_of_ok hconfigure]
    rfl

/-- **With a configuration file that can be used by itself, each field of the configuration is what
the command line gives, or else what the file gives, or else the default.**  The program gets
past its configuration just if this one can be used.  Then it is what the linter is found and the
engine works with, and otherwise the run ends there. -/
theorem run_of_file {args : List String} (hargs : Cli.Options.ofArgs args = .ok options)
    (hholds : Config.Holds machine file.text options.configPath)
    (hfile : file.config.validate = .ok ()) :
    ∃ config, Config.Layered options file config ∧
      (∀ passed, ((configure options machine.workingDir).run machine).answer = .ok passed ↔
        config.validate = .ok () ∧ passed = config) ∧
      ∀ node, machine.tree.resolve machine.workingDir = .ok node →
        let log := Config.lookupLog machine.workingDir options.configPath
        (config.validate = .ok () → run args machine = outcomeOf options.verbosity
          (((workWith config machine.workingDir).run ⟨machine, .unlimited⟩).behind
            (log ++ effectiveLog options.verbosity config))) ∧
        ∀ error, config.validate = .error error → run args machine = outcomeOf options.verbosity
          ⟨.error error, ⟨machine, .unlimited⟩, log⟩ := by
  have hconfigure := run_configure hholds hfile
  refine ⟨options.applyTo file.config, Config.layered_applyTo options file, ?_, ?_⟩
  · intro passed
    rw [hconfigure]
    cases hvalid : (options.applyTo file.config).validate with
    | error error => simp [hvalid]
    | ok _ => simp [hvalid, eq_comm]
  · intro node hhere
    have hcheck := run_check hhere hholds hfile .unlimited
    -- With an accepted command line the program is the check and its outcome.
    have hrun : run args machine
        = outcomeOf options.verbosity ((check options).run ⟨machine, .unlimited⟩) := by
      simp only [run, hargs]
    refine ⟨fun hvalid => ?_, fun error hinvalid => ?_⟩
    · rw [hrun, hcheck]
      simp only [hvalid]
    · rw [hrun, hcheck]
      simp only [hinvalid]

/-! A run where the file and the command line both name revisions. -/

namespace Twice

/-- The last two entries of the file are a key behind a question mark and a setting. -/
def written : Config.File where
  entries :=
    [.other ⟨"version".toList, .plain, false, .scalar .plain "2".toList⟩,
      .setting .doubleQuoted (.commits ["main", "dev"]),
      .other ⟨"a: b".toList, .doubleQuoted, true, .value (.flag true)⟩,
      .setting .plain (.theme .light)]
  valid := by
    have hversion : Yaml.Scanner.IsKey .plain "version".toList :=
      ⟨.plain (by decide) (by decide), by decide⟩
    have htwo : Yaml.Scanner.FitsLine .plain "2".toList := .plain (by decide) (by decide)
    rw [List.forall_mem_cons, List.forall_mem_cons, List.forall_mem_cons,
      List.forall_mem_singleton]
    exact ⟨.other (.inline hversion htwo) trivial (by decide), .setting (.double _),
      .other (.explicit _ trivial trivial) trivial (by decide),
      .setting (.plain (by decide) (by decide))⟩
  distinct := by decide

def host : Machine where
  tree := ⟨[(["w"], .directory), (["w", ".flake8-diff.yaml"], .file (Text.Utf8.bytes
    "version: 2\n\"commits\":\n- main\n- dev\n? \"a: b\"\n: true\ncolor_theme: light\n")
      .refused)]⟩
  workingDir := "/w"
  searchPath := []
  workingDir_absolute := Host.isAbsolute_sample

end Twice

theorem run_of_file_twice :
    ∃ config, config = { vcs := some "git", theme := .light, commits := ["HEAD~1"] } ∧
      Config.Layered { vcs := some "git", commits := ["HEAD~1"] } Twice.written config ∧
      run ["--vcs", "git", "HEAD~1"] Twice.host = outcomeOf .quiet
        (((workWith config "/w").run ⟨Twice.host, .unlimited⟩).behind
          (Config.lookupLog "/w" none ++ effectiveLog .quiet config)) := by
  have hargs : Cli.Options.ofArgs ["--vcs", "git", "HEAD~1"]
      = .ok { vcs := some "git", commits := ["HEAD~1"] } := rfl
  have hholds : Config.Holds Twice.host Twice.written.text none := by
    exact ⟨by decide +kernel, by rfl⟩
  have hfile : Twice.written.config.validate = .ok () := by rfl
  have hhere : Twice.host.tree.resolve Twice.host.workingDir = .ok .directory := by rfl
  obtain ⟨config, hlayered, _, hrun⟩ := run_of_file hargs hholds hfile
  -- The layers decide every field, so they say what the configuration is.
  have hconfig : config = { vcs := some "git", theme := .light, commits := ["HEAD~1"] } := by
    obtain ⟨_, _, _, _, _, _, _⟩ := config
    obtain ⟨rfl, rfl, rfl, rfl, rfl, rfl, rfl⟩ := hlayered
    rfl
  have hvalid : config.validate = .ok () := by
    rw [hconfig]
    rfl
  exact ⟨config, hconfig, hlayered, (hrun .directory hhere).1 hvalid⟩

end Program

end ChangeLint
