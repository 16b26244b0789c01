import ChangeLint.Proofs.Host.Launches
import ChangeLint.Vcs.Context

/-! # What version control answers on a machine

Each question is settled by one launch.  A command that fails in whatever way makes the listing
or the diff fail, but to a probe it only says that the system is not in effect.

* `Selected` and `Unselected` say which system is picked, and which probes are run for that.
* `gives_choose_of_selected` and `gives_choose_of_unselected` say that the choice follows them. -/

namespace ChangeLint.Vcs

open Host (Machine Printed Failed)

/-! ## Section 1: Commands -/

namespace Command

theorem judge_of_printed (command : Command) {launched : Except Host.Fault Host.Outcome}
    {text : String} (h : Printed [0] launched text) :
    ∃ output, judge command launched = .ok output ∧ output.stdout = text := by
  cases h with
  | @exited outcome code ending status =>
    rw [List.mem_singleton.mp status] at ending
    exact ⟨Output.ofOutcome outcome, if_pos ending, rfl⟩

theorem judge_of_failed (command : Command) {launched : Except Host.Fault Host.Outcome}
    (h : Failed [0] launched) :
    ∃ text, judge command launched = .error (.vcs text) := by
  -- Three ways to fail, each with its own text.
  cases h with
  | unspawned fault => exact ⟨_, rfl⟩
  | signalled ending =>
    refine ⟨_, if_neg ?_⟩
    rw [ending]
    exact nofun
  | exited ending status =>
    refine ⟨_, if_neg ?_⟩
    rw [ending]
    intro hzero
    exact status (List.mem_singleton.mpr (Host.Ending.exited.inj hzero))

/-- A command is launched once and judged by what comes of that. -/
theorem gives_run (command : Command) (machine : Machine) :
    (run command).Gives machine (judge command (machine.launched command)) machine
      (machine.runs command) := by
  -- The message comes first; then the launch is judged.
  have hsteps : run command = (do
      Attempt.ofAct (Act.log .debug .vcs ("running " ++ line command))
      .mk do let launched ← Host.launch command; pure (judge command launched)) := rfl
  rw [hsteps]
  exact (Attempt.gives_log ..).bind (Host.gives_judged command machine (judge command))

theorem gives_run_of_printed {command : Command} {machine : Machine} {text : String}
    (h : Printed [0] (machine.launched command) text) :
    ∃ output, (run command).Gives machine (.ok output) machine [command] ∧
      output.stdout = text := by
  obtain ⟨output, hjudge, hstdout⟩ := judge_of_printed command h
  have hrun := gives_run command machine
  rw [hjudge, h.runs] at hrun
  exact ⟨output, hrun, hstdout⟩

theorem gives_run_of_failed {command : Command} {machine : Machine}
    (h : Failed [0] (machine.launched command)) :
    ∃ complaint, (run command).Gives machine (.error (.vcs complaint)) machine
      (machine.runs command) := by
  obtain ⟨complaint, hjudge⟩ := judge_of_failed command h
  have hrun := gives_run command machine
  rw [hjudge] at hrun
  exact ⟨complaint, hrun⟩

/-- A probe logs why a command failed, and goes on. -/
theorem gives_probe (command : Command) (machine : Machine) :
    (Attempt.ofAct (probe command)).Gives machine
      (.ok (judge command (machine.launched command)).isOk) machine (machine.runs command) := by
  obtain ⟨events, hrun, hprograms⟩ := gives_run command machine
  have hact : Act.run (ExceptT.run (run command)) machine
      = ⟨judge command (machine.launched command), machine, events⟩ := hrun
  -- A failure is turned into an answer, and only logged.
  cases hjudge : judge command (machine.launched command) with
  | ok output =>
    refine ⟨events, ?_, hprograms⟩
    rw [Attempt.run_ofAct, probe, Act.run_bind, hact, hjudge]
    simp [Except.isOk, Except.toBool]
  | error error =>
    refine ⟨events ++ [.logged ⟨.debug, .vcs,
      command.program ++ " probe failed: " ++ error.message⟩], ?_, ?_⟩
    · rw [Attempt.run_ofAct, probe, Act.run_bind, hact, hjudge]
      rfl
    · rw [Event.programs_append, hprograms]
      exact List.append_nil _

theorem gives_probe_of_printed {command : Command} {machine : Machine} {text : String}
    (h : Printed [0] (machine.launched command) text) :
    (Attempt.ofAct (probe command)).Gives machine (.ok true) machine [command] := by
  obtain ⟨output, hjudge, _⟩ := judge_of_printed command h
  have hprobe := gives_probe command machine
  rw [hjudge, h.runs] at hprobe
  exact hprobe

theorem gives_probe_of_failed {command : Command} {machine : Machine}
    (h : Failed [0] (machine.launched command)) :
    (Attempt.ofAct (probe command)).Gives machine (.ok false) machine
      (machine.runs command) := by
  obtain ⟨complaint, hjudge⟩ := judge_of_failed command h
  have hprobe := gives_probe command machine
  rw [hjudge] at hprobe
  exact hprobe

end Command

/-! ## Section 2: Listings and diffs -/

namespace Kind

/-- The command that asks whether a system is in effect. -/
def probeCommand (kind : Kind) (ctx : Context) : Command := kind.command ctx kind.used

/-- The command that lists the changed files. -/
def listCommand (kind : Kind) (ctx : Context) : Command :=
  kind.command ctx (kind.listing ctx.commits)

/-- The command that prints the diff of a file. -/
def diffCommand (kind : Kind) (ctx : Context) (file : String) : Command :=
  kind.command ctx (kind.diff ctx.commits file)

end Kind

/-- The files of a listing that are to be linted, in its order. -/
def Context.accepted (ctx : Context) (tree : Host.FileTree) (listing : String) : List String :=
  ((Text.lines listing).map Text.trimEnd).filter fun path =>
    ctx.filter.accepts tree ctx.dir path && !path.isEmpty

/-- The changed lines that a diff names. -/
def changedIn (diff : String) : Patch.LineSet := (Patch.Changes.ofDiff diff).merged

namespace Kind

variable {kind : Kind} {ctx : Context} {machine : Machine} {text file : String}

theorem gives_changedFiles_of_printed
    (h : Printed [0] (machine.launched (kind.listCommand ctx)) text) :
    (kind.changedFiles ctx).Gives machine (.ok (ctx.accepted machine.tree text)) machine
      [kind.listCommand ctx] := by
  obtain ⟨output, hrun, rfl⟩ := Command.gives_run_of_printed h
  -- Empty lines are dropped first and the rest is filtered, which is one filter.
  have haccepted : output.lines.filter (ctx.filter.accepts machine.tree ctx.dir)
      = ctx.accepted machine.tree output.stdout := List.filter_filter
  rw [← haccepted]
  exact hrun.bind ((Attempt.gives_look machine).bind (Attempt.gives_pure _ machine))

theorem gives_changedFiles_of_failed
    (h : Failed [0] (machine.launched (kind.listCommand ctx))) :
    ∃ complaint, (kind.changedFiles ctx).Gives machine (.error (.vcs complaint)) machine
      (machine.runs (kind.listCommand ctx)) := by
  obtain ⟨complaint, hrun⟩ := Command.gives_run_of_failed h
  exact ⟨complaint, hrun.bind_error⟩

theorem gives_changedLines_of_printed
    (h : Printed [0] (machine.launched (kind.diffCommand ctx file)) text) :
    (kind.changedLines ctx file).Gives machine (.ok (changedIn text)) machine
      [kind.diffCommand ctx file] := by
  obtain ⟨output, hrun, rfl⟩ := Command.gives_run_of_printed h
  exact hrun.bind (Attempt.gives_pure _ machine)

theorem gives_changedLines_of_failed
    (h : Failed [0] (machine.launched (kind.diffCommand ctx file))) :
    ∃ complaint, (kind.changedLines ctx file).Gives machine (.error (.vcs complaint)) machine
      (machine.runs (kind.diffCommand ctx file)) := by
  obtain ⟨complaint, hrun⟩ := Command.gives_run_of_failed h
  exact ⟨complaint, hrun.bind_error⟩

end Kind

/-! ## Section 3: The choice of a system -/

/-- The programs that are run to probe some systems. -/
def probes (machine : Machine) (ctx : Context) (kinds : List Kind) : List Invocation :=
  kinds.flatMap fun kind => machine.runs (kind.probeCommand ctx)

/-- The system that is picked, and the probes that are run for it: none if it is named. -/
inductive Selected (machine : Machine) (ctx : Context) :
    Option String → Kind → List Invocation → Prop where
  | named (kind : Kind) : Selected machine ctx (some kind.name) kind []
  | probed {passed rest : List Kind} {kind : Kind} {text : String}
      (order : Kind.all = passed ++ kind :: rest)
      (failed : ∀ other ∈ passed, Failed [0] (machine.launched (other.probeCommand ctx)))
      (succeeded : Printed [0] (machine.launched (kind.probeCommand ctx)) text) :
      Selected machine ctx none kind (probes machine ctx (passed ++ [kind]))

/-- No system is picked: the one that is named does not exist, or no probe succeeds. -/
inductive Unselected (machine : Machine) (ctx : Context) :
    Option String → List Invocation → Prop where
  | unsupported {name : String} (unknown : ∀ kind ∈ Kind.all, kind.name ≠ name) :
      Unselected machine ctx (some name) []
  | unlocated
      (failed : ∀ kind ∈ Kind.all, Failed [0] (machine.launched (kind.probeCommand ctx))) :
      Unselected machine ctx none (probes machine ctx Kind.all)

section

variable {machine : Machine} {ctx : Context}

/-- Systems whose probes fail are passed over. -/
theorem gives_firstUsed_append {passed : List Kind} (kinds : List Kind)
    {programs : List Invocation}
    {answer : Except Error (Provider Machine)}
    (hpassed : ∀ other ∈ passed, Failed [0] (machine.launched (other.probeCommand ctx)))
    (hkinds : (Provider.firstUsed (kinds.map (Kind.provider ctx))).Gives machine answer machine
      programs) :
    (Provider.firstUsed ((passed ++ kinds).map (Kind.provider ctx))).Gives machine answer machine
      (probes machine ctx passed ++ programs) := by
  -- By induction on the systems that are passed over, each with one failing probe.
  induction passed with
  | nil => exact hkinds
  | cons kind passed ih =>
    have hfirst := Command.gives_probe_of_failed (hpassed kind (by simp))
    have hrest := ih fun other hother => hpassed other (by simp [hother])
    have hasked := Attempt.gives_asked (.isUsed kind.name) machine
    rw [probes, List.flatMap_cons, List.append_assoc]
    -- What follows the question depends on its answer, so both steps are taken by hand.
    refine hasked.bind (p := []) ?_
    exact hfirst.bind hrest

/-- The first system whose probe succeeds is picked. -/
theorem gives_firstUsed_cons {kind : Kind} {text : String} (rest : List Kind)
    (h : Printed [0] (machine.launched (kind.probeCommand ctx)) text) :
    (Provider.firstUsed ((kind :: rest).map (Kind.provider ctx))).Gives machine
      (.ok (kind.provider ctx)) machine [kind.probeCommand ctx] := by
  have hasked := Attempt.gives_asked (.isUsed kind.name) machine
  refine hasked.bind (p := []) ?_
  exact (Command.gives_probe_of_printed h).bind (Attempt.gives_pure _ machine)

/-- The system that is picked is the one to choose. -/
theorem gives_choose_of_selected {requested : Option String} {kind : Kind}
    {probed : List Invocation} (h : Selected machine ctx requested kind probed) :
    (Provider.choose requested ctx.providers).Gives machine (.ok (kind.provider ctx)) machine
      probed := by
  -- A system that is named is taken without a probe.
  cases h with
  | named =>
    have hfound : ctx.providers.find? (·.name == kind.name) = some (kind.provider ctx) := by
      cases kind <;> rfl
    show (Provider.named kind.name ctx.providers).Gives machine _ machine []
    rw [Provider.named, hfound]
    exact Attempt.gives_pure _ machine
  | @probed passed rest _ text order failed succeeded =>
    -- The probes that fail are passed over, and the one behind them decides.
    have hlast := gives_firstUsed_append (kind :: rest) failed
      (gives_firstUsed_cons rest succeeded)
    have hprobes : probes machine ctx (passed ++ [kind])
        = probes machine ctx passed ++ [kind.probeCommand ctx] := by
      rw [probes, List.flatMap_append, List.flatMap_singleton, succeeded.runs]
      rfl
    rw [hprobes]
    unfold Provider.choose Context.providers
    rw [order]
    exact hlast

/-- If no system is picked, the choice fails as a fault of the user. -/
theorem gives_choose_of_unselected {requested : Option String} {probed : List Invocation}
    (h : Unselected machine ctx requested probed) :
    ∃ error : Error, error.exitStatus = ExitStatus.userError ∧
      (Provider.choose requested ctx.providers).Gives machine (.error error) machine probed := by
  cases h with
  | @unsupported name unknown =>
    have hfound : ctx.providers.find? (·.name == name) = none := by
      rw [Context.providers, List.find?_map, Option.map_eq_none_iff, List.find?_eq_none]
      intro kind hkind hname
      exact unknown kind hkind (beq_iff_eq.mp hname)
    refine ⟨.unsupportedVcs name, rfl, ?_⟩
    show (Provider.named name ctx.providers).Gives machine _ machine []
    rw [Provider.named, hfound]
    exact Attempt.gives_throw _ machine
  | unlocated failed =>
    refine ⟨.noVcs, rfl, ?_⟩
    have hnone := gives_firstUsed_append [] failed (Attempt.gives_throw .noVcs machine)
    rw [List.append_nil, List.append_nil] at hnone
    exact hnone

/-- Of some systems either all probes fail, or there is a first one whose probe succeeds. -/
theorem probed_or_failed (machine : Machine) (ctx : Context) (kinds : List Kind) :
    (∃ passed kind rest text, kinds = passed ++ kind :: rest ∧
      (∀ other ∈ passed, Failed [0] (machine.launched (other.probeCommand ctx))) ∧
      Printed [0] (machine.launched (kind.probeCommand ctx)) text) ∨
    ∀ kind ∈ kinds, Failed [0] (machine.launched (kind.probeCommand ctx)) := by
  -- By induction on the systems, in the order in which they are probed.
  induction kinds with
  | nil => exact .inr nofun
  | cons first kinds ih =>
    -- Systems behind one whose probe succeeds are not asked.
    rcases Host.printed_or_failed [0] (machine.launched (first.probeCommand ctx)) with
      ⟨text, hfirst⟩ | hfirst
    · exact .inl ⟨[], first, kinds, text, rfl, nofun, hfirst⟩
    · rcases ih with ⟨passed, kind, rest, text, rfl, hpassed, hkind⟩ | hall
      · refine .inl ⟨first :: passed, kind, rest, text, rfl, ?_, hkind⟩
        exact List.forall_mem_cons.mpr ⟨hfirst, hpassed⟩
      · exact .inr (List.forall_mem_cons.mpr ⟨hfirst, hall⟩)

/-- On every machine a system is picked or none is. -/
theorem selected_or_unselected (machine : Machine) (ctx : Context) (requested : Option String) :
    (∃ kind probed, Selected machine ctx requested kind probed) ∨
      ∃ probed, Unselected machine ctx requested probed := by
  cases requested with
  | some name =>
    by_cases h : ∃ kind : Kind, kind.name = name
    · obtain ⟨kind, rfl⟩ := h
      exact .inl ⟨kind, [], .named kind⟩
    · exact .inr ⟨[], .unsupported fun kind _ hname => h ⟨kind, hname⟩⟩
  | none =>
    rcases probed_or_failed machine ctx Kind.all with
      ⟨passed, kind, rest, text, horder, hpassed, hkind⟩ | hall
    · exact .inl ⟨kind, _, .probed horder hpassed hkind⟩
    · exact .inr ⟨_, .unlocated hall⟩

end

end ChangeLint.Vcs
