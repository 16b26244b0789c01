import ChangeLint.Proofs.Program.Steps

/-! # The plan of a run

Which steps a run takes is decided by the machine.

* `Setup.plan` are these steps: the probes up to the first system in effect, the listing, and the
  diff and the lint of each accepted file, up to the first one that fails.
* `process_takes_plan` says that a run takes them all, or the first ones if its sink refuses
  something, and that nothing else is run. -/

namespace ChangeLint

open Host (Machine Printed Failed)
open Report (Sink)
open Vcs (Kind)

/-! ## Section 1: Plans -/

/-- The elements up to the first one at which to stop, and this one. -/
def upTo (stop : α → Bool) : List α → List α
  | [] => []
  | a :: rest => if stop a then [a] else a :: upTo stop rest

theorem upTo_cons_of_stop {stop : α → Bool} {a : α} (h : stop a = true) (rest : List α) :
    upTo stop (a :: rest) = [a] := if_pos h

theorem upTo_cons {stop : α → Bool} {a : α} (h : stop a = false) (rest : List α) :
    upTo stop (a :: rest) = a :: upTo stop rest := if_neg (Bool.eq_false_iff.mp h)

theorem mem_of_mem_upTo {stop : α → Bool} {list : List α} {a : α} (h : a ∈ upTo stop list) :
    a ∈ list := by
  induction list with
  | nil => cases h
  | cons first rest ih =>
    unfold upTo at h
    split at h
    · rw [List.mem_singleton.mp h]
      exact List.mem_cons_self
    · rcases List.mem_cons.mp h with rfl | h
      · exact List.mem_cons_self
      · exact List.mem_cons_of_mem first (ih h)

namespace Step

/-- The steps that check files: the diff and the lint of each one. -/
def checks (kind : Kind) (files : List String) : List Step :=
  files.flatMap fun file => [.diff kind file, .lint file]

/-- The file that a step is about, if it is about one. -/
def file? : Step → Option String
  | diff _ file => some file
  | lint file => some file
  | _ => none

theorem mem_of_mem_checks {kind : Kind} {files : List String} {step : Step} {file : String}
    (h : step ∈ checks kind files) (hfile : step.file? = some file) : file ∈ files := by
  obtain ⟨other, hother, hstep⟩ := List.mem_flatMap.mp h
  -- Both steps that check a file are about that file.
  have hsame : step.file? = some other := by
    rcases List.mem_cons.mp hstep with rfl | hlint
    · rfl
    · rw [List.mem_singleton.mp hlint]
      rfl
  rw [hfile] at hsame
  exact Option.some.inj hsame ▸ hother

end Step

namespace Setup

/-- Does the program of the step fail? -/
def fails (setup : Setup) (machine : Machine) (step : Step) : Bool :=
  (setup.output? machine step).isNone

/-- Is the system in effect? -/
def finds (setup : Setup) (machine : Machine) (kind : Kind) : Bool :=
  !setup.fails machine (.probe kind)

/-- The systems that are probed: none if one is named, and else all up to the first in effect. -/
def probed (setup : Setup) (machine : Machine) : List Kind :=
  match setup.config.vcs with
  | some _ => []
  | none => upTo (setup.finds machine) Kind.all

/-- The system that is asked: the one that is named, or else the first in effect. -/
def chosen (setup : Setup) (machine : Machine) : Option Kind :=
  match setup.config.vcs with
  | some name => Kind.all.find? (·.name == name)
  | none => Kind.all.find? (setup.finds machine)

/-- The files that a system lists and the filter accepts, each one as often as it is listed. -/
def files (setup : Setup) (machine : Machine) (kind : Kind) : List String :=
  match setup.output? machine (.list kind) with
  | some listing => setup.ctx.accepted machine.tree listing
  | none => []

/-- The steps of a run over a system. -/
def work (setup : Setup) (machine : Machine) (kind : Kind) : List Step :=
  upTo (setup.fails machine) (.list kind :: Step.checks kind (setup.files machine kind))

/-- The steps of a run. -/
def plan (setup : Setup) (machine : Machine) : List Step :=
  (setup.probed machine).map Step.probe ++
    match setup.chosen machine with
    | some kind => setup.work machine kind
    | none => []

variable {setup : Setup} {machine : Machine} {kind : Kind} {file : String}

theorem fails_of_none {step : Step} (h : setup.output? machine step = none) :
    setup.fails machine step = true := Option.isNone_iff_eq_none.mpr h

theorem fails_of_some {step : Step} {text : String} (h : setup.output? machine step = some text) :
    setup.fails machine step = false := by
  unfold fails
  rw [h]
  rfl

/-- A planned step about a file is about one that the filter accepts. -/
theorem accepts_of_mem_plan {step : Step} (h : step ∈ setup.plan machine)
    (hfile : step.file? = some file) :
    setup.ctx.filter.accepts machine.tree setup.ctx.dir file = true := by
  -- The probes and the listing are about no file, so the step is one of the checks.
  have hchecks : ∃ kind, step ∈ Step.checks kind (setup.files machine kind) := by
    rcases List.mem_append.mp h with hprobe | hwork
    · obtain ⟨kind, _, rfl⟩ := List.mem_map.mp hprobe
      cases hfile
    · cases hchosen : setup.chosen machine with
      | none =>
        rw [hchosen] at hwork
        cases hwork
      | some kind =>
        rw [hchosen] at hwork
        rcases List.mem_cons.mp (mem_of_mem_upTo hwork) with rfl | hmem
        · cases hfile
        · exact ⟨kind, hmem⟩
  obtain ⟨kind, hmem⟩ := hchecks
  have haccepted := Step.mem_of_mem_checks hmem hfile
  -- Files of a listing went through the filter; without a listing there are none.
  unfold files at haccepted
  split at haccepted
  · unfold Vcs.Context.accepted at haccepted
    exact (Bool.and_eq_true_iff.mp (List.mem_filter.mp haccepted).2).1
  · cases haccepted

/-! ## Section 2: Questions -/

/-- The program of a step answers the question that it belongs to: what it prints decides the
answer, and if it fails there is none. -/
structure Answers (setup : Setup) (machine : Machine) (step : Step) (attempt : Attempt Machine α)
    (answer : String → α) : Prop where
  quiet : attempt.Quiet
  printed : ∀ text, Printed step.statuses (machine.launched (setup.invocation step)) text →
    attempt.Gives machine (.ok (answer text)) machine [setup.invocation step]
  failed : Failed step.statuses (machine.launched (setup.invocation step)) →
    ∃ error, attempt.Gives machine (.error error) machine (machine.runs (setup.invocation step))

namespace Answers

variable {step : Step} {attempt : Attempt Machine α} {answer : String → α}

theorem takes (h : setup.Answers machine step attempt answer) {text : String}
    (houtput : setup.output? machine step = some text) :
    setup.Takes machine (Session.ask step.query attempt) (.ok (answer text)) [step] := by
  have hprinted := Machine.printed?_eq_some_iff.mp houtput
  have hgives := h.printed text hprinted
  -- A program that printed something was run, so the step is the whole trace.
  rw [← hprinted.runs] at hgives
  exact .ask hgives h.quiet

theorem takes_of_none (h : setup.Answers machine step attempt answer)
    (houtput : setup.output? machine step = none) :
    ∃ error, setup.Takes machine (Session.ask step.query attempt) (.error error) [step] := by
  obtain ⟨error, hgives⟩ := h.failed (Machine.printed?_eq_none_iff.mp houtput)
  exact ⟨error, .ask hgives h.quiet⟩

end Answers

theorem answers_list (setup : Setup) (machine : Machine) (kind : Kind) :
    setup.Answers machine (.list kind) (kind.changedFiles setup.ctx)
      (setup.ctx.accepted machine.tree) where
  quiet := (kind.background_changedFiles setup.ctx).quiet
  printed text h := by
    rw [invocation_list] at h ⊢
    exact Kind.gives_changedFiles_of_printed h
  failed h := by
    rw [invocation_list] at h ⊢
    obtain ⟨complaint, hgives⟩ := Kind.gives_changedFiles_of_failed h
    exact ⟨_, hgives⟩

theorem answers_diff (setup : Setup) (machine : Machine) (kind : Kind) (file : String) :
    setup.Answers machine (.diff kind file) (kind.changedLines setup.ctx file)
      Vcs.changedIn where
  quiet := (kind.background_changedLines setup.ctx file).quiet
  printed text h := by
    rw [invocation_diff] at h ⊢
    exact Kind.gives_changedLines_of_printed h
  failed h := by
    rw [invocation_diff] at h ⊢
    obtain ⟨complaint, hgives⟩ := Kind.gives_changedLines_of_failed h
    exact ⟨_, hgives⟩

theorem answers_lint (hdir : setup.linter.dir = setup.ctx.dir) (machine : Machine)
    (file : String) :
    setup.Answers machine (.lint file) (setup.linter.lint file) id where
  quiet := (setup.linter.background_lint file).quiet
  printed text h := by
    rw [invocation_lint hdir] at h ⊢
    exact Linter.gives_lint_of_printed h
  failed h := by
    rw [invocation_lint hdir] at h ⊢
    obtain ⟨complaint, hgives⟩ := Linter.gives_lint_of_failed h
    exact ⟨_, hgives⟩

/-- A probe says whether its program succeeds. -/
theorem exists_run_isUsed (setup : Setup) (machine : Machine) (kind : Kind) :
    ∃ within, (kind.isUsed setup.ctx).run machine = ⟨setup.finds machine kind, machine, within⟩ ∧
      Event.deeds (.asked (.isUsed kind.name) :: within)
        = setup.trace machine (.probe kind) := by
  have hgives : (Attempt.ofAct (kind.isUsed setup.ctx)).Gives machine
      (.ok (setup.finds machine kind)) machine
      (machine.runs (setup.invocation (.probe kind))) := by
    unfold finds fails output?
    rw [invocation_probe]
    -- A system is in effect exactly if its probe prints something that counts.
    rcases Host.printed_or_failed [0] (machine.launched (kind.probeCommand setup.ctx)) with
      ⟨text, hprinted⟩ | hfailed
    · have houtput : machine.printed? (Step.probe kind).statuses (kind.probeCommand setup.ctx)
          = some text := Machine.printed?_of_printed hprinted
      rw [houtput, hprinted.runs]
      exact Vcs.Command.gives_probe_of_printed hprinted
    · have hnone : machine.printed? (Step.probe kind).statuses (kind.probeCommand setup.ctx)
          = none := Machine.printed?_of_failed hfailed
      rw [hnone]
      exact Vcs.Command.gives_probe_of_failed hfailed
  obtain ⟨within, hrun, hdeeds⟩ :=
    hgives.exists_deeds (Vcs.Command.background_probe (kind.probeCommand setup.ctx)).quiet
  refine ⟨within, Attempt.run_of_run_ofAct hrun, ?_⟩
  rw [Event.deeds_cons_asked, hdeeds]
  rfl

/-! ## Section 3: The choice of a system -/

/-- Systems are probed up to the first one in effect. -/
theorem exists_probes_upTo (setup : Setup) (machine : Machine) (kinds : List Kind) :
    ∃ calls, Vcs.Provider.Probes machine (kinds.map (Kind.provider setup.ctx)) calls
        ((kinds.find? (setup.finds machine)).map (Kind.provider setup.ctx)) machine ∧
      Event.deeds (calls.flatMap Call.events)
        = ((upTo (setup.finds machine) kinds).map Step.probe).flatMap (setup.trace machine) := by
  -- By induction on the systems, in the order in which they are probed.
  induction kinds with
  | nil => exact ⟨[], .exhausted machine, rfl⟩
  | cons kind kinds ih =>
    obtain ⟨within, hrun, hdeeds⟩ := exists_run_isUsed setup machine kind
    cases hfinds : setup.finds machine kind with
    | true =>
      rw [hfinds] at hrun
      -- The systems behind the first one in effect are not probed.
      have hprobes : Vcs.Provider.Probes machine ((kind :: kinds).map (Kind.provider setup.ctx))
          [⟨.isUsed kind.name, within⟩] (some (kind.provider setup.ctx)) machine :=
        .inEffect hrun _
      refine ⟨[⟨.isUsed kind.name, within⟩], ?_, ?_⟩
      · rw [List.find?_cons_of_pos hfinds]
        exact hprobes
      · rw [upTo_cons_of_stop hfinds, List.flatMap_singleton, List.map_singleton,
          List.flatMap_singleton]
        exact hdeeds
    | false =>
      rw [hfinds] at hrun
      obtain ⟨calls, hrest, hdeedsRest⟩ := ih
      have hprobes : Vcs.Provider.Probes machine ((kind :: kinds).map (Kind.provider setup.ctx))
          (⟨.isUsed kind.name, within⟩ :: calls)
          ((kinds.find? (setup.finds machine)).map (Kind.provider setup.ctx)) machine :=
        .passedOver hrun hrest
      refine ⟨⟨.isUsed kind.name, within⟩ :: calls, ?_, ?_⟩
      · rw [List.find?_cons_of_neg (Bool.eq_false_iff.mp hfinds)]
        exact hprobes
      · rw [upTo_cons hfinds, List.flatMap_cons, Event.deeds_append, List.map_cons,
          List.flatMap_cons, hdeedsRest]
        exact congrArg (· ++ _) hdeeds

/-- What the choice comes to. -/
def choice (setup : Setup) (machine : Machine) : Except Error (Vcs.Provider Machine) :=
  match setup.chosen machine with
  | some kind => .ok (kind.provider setup.ctx)
  | none => .error (match setup.config.vcs with
    | some name => .unsupportedVcs name
    | none => .noVcs)

/-- The choice makes the probes, and comes to the system that is asked, if there is one. -/
theorem exists_run_choose (setup : Setup) (machine : Machine) :
    ∃ events, (Vcs.Provider.choose setup.config.vcs setup.ctx.providers).run machine
        = ⟨setup.choice machine, machine, events⟩ ∧
      Event.deeds events
        = ((setup.probed machine).map Step.probe).flatMap (setup.trace machine) := by
  unfold choice chosen probed
  cases setup.config.vcs with
  -- A system that is named is looked up and not probed.
  | some name =>
    refine ⟨[], ?_, rfl⟩
    have hfind : setup.ctx.providers.find? (·.name == name)
        = (Kind.all.find? (·.name == name)).map (Kind.provider setup.ctx) := List.find?_map
    show (Vcs.Provider.named name setup.ctx.providers).run machine = _
    unfold Vcs.Provider.named
    rw [hfind]
    dsimp only
    cases Kind.all.find? (·.name == name) with
    | some kind => rfl
    | none => rfl
  -- Otherwise the first in effect is taken, and the probes are the steps.
  | none =>
    obtain ⟨calls, hprobes, hdeeds⟩ := setup.exists_probes_upTo machine Kind.all
    refine ⟨_, ?_, hdeeds⟩
    show (Vcs.Provider.firstUsed (Kind.all.map (Kind.provider setup.ctx))).run machine = _
    rw [Vcs.Provider.run_firstUsed_of_probes hprobes]
    dsimp only
    cases Kind.all.find? (setup.finds machine) with
    | some kind => rfl
    | none => rfl

/-- The steps of the choice are the probes. -/
theorem takes_choose (setup : Setup) (machine : Machine) :
    setup.Takes machine
      (Session.onWorld (Vcs.Provider.choose setup.config.vcs setup.ctx.providers))
      (setup.choice machine) ((setup.probed machine).map Step.probe) := by
  obtain ⟨events, hchoose, hdeeds⟩ := setup.exists_run_choose machine
  refine .of_run (fun sink => ?_) hdeeds
  rw [Session.run_onWorld, hchoose]

/-! ## Section 4: Files -/

/-- If the diff of a file fails, its check is one step. -/
theorem takes_check_of_undiffed (hdiff : setup.output? machine (.diff kind file) = none) :
    ∃ error, setup.Takes machine (setup.engine.check (kind.provider setup.ctx) file)
      (.error error) [.diff kind file] := by
  obtain ⟨error, htakes⟩ := (setup.answers_diff machine kind file).takes_of_none hdiff
  exact ⟨error, htakes.bind_error⟩

section

variable {diff : String}

/-- If the lint of a file fails, its check ends with that. -/
theorem takes_check_of_unlinted (hdir : setup.linter.dir = setup.ctx.dir)
    (hdiff : setup.output? machine (.diff kind file) = some diff)
    (hlint : setup.output? machine (.lint file) = none) :
    ∃ error, setup.Takes machine (setup.engine.check (kind.provider setup.ctx) file)
      (.error error) [.diff kind file, .lint file] := by
  have hlooked := (setup.answers_diff machine kind file).takes hdiff
  obtain ⟨error, hlinted⟩ := (answers_lint hdir machine file).takes_of_none hlint
  -- The message that a file is checked stands between the two steps and takes none.
  refine ⟨error, hlooked.bind ?_⟩
  exact (Takes.log .info (Engine.checkingText file (Vcs.changedIn diff))).bind hlinted.bind_error

/-- If both succeed, the check of a file is these two steps; what it writes takes none. -/
theorem takes_check_of_visit (hdir : setup.linter.dir = setup.ctx.dir) {report : String}
    (hdiff : setup.output? machine (.diff kind file) = some diff)
    (hlint : setup.output? machine (.lint file) = some report) :
    ∃ count, setup.Takes machine (setup.engine.check (kind.provider setup.ctx) file)
      (.ok count) [.diff kind file, .lint file] := by
  have hlooked := (setup.answers_diff machine kind file).takes hdiff
  have hlinted := (answers_lint hdir machine file).takes hlint
  -- Of the five parts of a check only the diff and the lint run a program.
  have hcheck : setup.Takes machine (setup.engine.check (kind.provider setup.ctx) file)
      (.ok (Finding.kept (Vcs.changedIn diff) report).length)
      ([.diff kind file] ++ ([] ++ ([.lint file] ++ ([] ++ ([] ++ []))))) := by
    refine hlooked.bind ?_
    refine (Takes.log .info (Engine.checkingText file (Vcs.changedIn diff))).bind ?_
    refine hlinted.bind ?_
    refine (Takes.reportKept setup.engine.style _).bind ?_
    exact (Takes.fileFinished setup.engine.style file _).bind (Takes.pure _)
  exact ⟨_, hcheck⟩

end

/-- Files are checked up to the first step that fails. -/
theorem takes_checkAll (hdir : setup.linter.dir = setup.ctx.dir) (machine : Machine)
    (kind : Kind) (files : List String) :
    ∃ answer, setup.Takes machine (setup.engine.checkAll (kind.provider setup.ctx) files) answer
      (upTo (setup.fails machine) (Step.checks kind files)) := by
  -- By induction on the files: a failing step ends the plan and the run alike.
  induction files with
  | nil => exact ⟨_, Takes.pure 0⟩
  | cons file files ih =>
    have hchecks : Step.checks kind (file :: files)
        = .diff kind file :: .lint file :: Step.checks kind files := rfl
    rw [hchecks]
    cases hdiff : setup.output? machine (.diff kind file) with
    | none =>
      obtain ⟨error, hcheck⟩ := takes_check_of_undiffed hdiff
      rw [upTo_cons_of_stop (fails_of_none hdiff)]
      exact ⟨_, hcheck.bind_error⟩
    | some diff =>
      rw [upTo_cons (fails_of_some hdiff)]
      cases hlint : setup.output? machine (.lint file) with
      | none =>
        obtain ⟨error, hcheck⟩ := takes_check_of_unlinted hdir hdiff hlint
        rw [upTo_cons_of_stop (fails_of_none hlint)]
        exact ⟨_, hcheck.bind_error⟩
      | some report =>
        obtain ⟨count, hcheck⟩ := takes_check_of_visit hdir hdiff hlint
        obtain ⟨answer, hrest⟩ := ih
        rw [upTo_cons (fails_of_some hlint)]
        -- The other files decide whether there is a sum to answer.
        cases answer with
        | error error => exact ⟨_, hcheck.bind hrest.bind_error⟩
        | ok total => exact ⟨_, hcheck.bind (hrest.bind_pure (count + ·))⟩

/-- A run over a system lists the files and checks them, up to the first step that fails. -/
theorem takes_runOver (hdir : setup.linter.dir = setup.ctx.dir) (machine : Machine)
    (kind : Kind) :
    ∃ answer, setup.Takes machine (setup.engine.runOver (kind.provider setup.ctx)) answer
      (setup.work machine kind) := by
  -- Messages take no step, so they do not show in the plan.
  have hlog : setup.Takes machine
      (Engine.log .debug ("using " ++ kind.name ++ " in " ++ setup.ctx.dir)) (.ok ()) [] :=
    Takes.log _ _
  unfold work files
  -- If the listing fails, there is nothing to check.
  cases hlist : setup.output? machine (.list kind) with
  | none =>
    obtain ⟨error, hlisted⟩ := (setup.answers_list machine kind).takes_of_none hlist
    rw [upTo_cons_of_stop (fails_of_none hlist)]
    exact ⟨_, hlog.bind hlisted.bind_error⟩
  | some listing =>
    have hlisted := (setup.answers_list machine kind).takes hlist
    obtain ⟨answer, hall⟩ :=
      takes_checkAll hdir machine kind (setup.ctx.accepted machine.tree listing)
    rw [upTo_cons (fails_of_some hlist)]
    cases answer with
    | error error => exact ⟨_, hlog.bind (hlisted.bind hall.bind_error)⟩
    | ok total =>
      have hclosing : setup.Takes machine (do
            Engine.log .debug (Text.Decimal.text total ++ " violation(s) on changed lines")
            pure (total == 0)) (.ok (total == 0)) [] :=
        Takes.bind_pure (Takes.log _ _) fun _ => total == 0
      have hwork : setup.Takes machine (do
            let total ← setup.engine.checkAll (kind.provider setup.ctx)
              (setup.ctx.accepted machine.tree listing)
            Engine.log .debug (Text.Decimal.text total ++ " violation(s) on changed lines")
            pure (total == 0)) (.ok (total == 0)) (_ ++ []) := hall.bind hclosing
      rw [List.append_nil] at hwork
      exact ⟨_, hlog.bind (hlisted.bind hwork)⟩

/-- A run of the engine takes the steps of the plan. -/
theorem takes_runWith (hdir : setup.linter.dir = setup.ctx.dir) (machine : Machine) :
    ∃ answer, setup.Takes machine (setup.engine.runWith setup.ctx.providers) answer
      (setup.plan machine) := by
  have hchoose := setup.takes_choose machine
  unfold choice at hchoose
  unfold plan
  -- Without a system the run ends with the probes.
  cases hchosen : setup.chosen machine with
  | none =>
    rw [hchosen] at hchoose
    rw [List.append_nil]
    exact ⟨_, hchoose.bind_error⟩
  | some kind =>
    rw [hchosen] at hchoose
    obtain ⟨answer, hover⟩ := takes_runOver hdir machine kind
    exact ⟨answer, hchoose.bind hover⟩

end Setup

/-! ## Section 5: Runs -/

namespace Config

/-- A run with a linter that was found.  If the patterns can be read, every question of the engine
is followed by the one program run that answers it, or by none if this program cannot be run.
These are the steps of the plan, in order; if the sink refuses what is written, the first ones of
them.  No step is about a file that the filter does not accept. -/
theorem process_takes_plan {config : Config} {machine : Machine} {linter : Linter} {dir : String}
    (sink : Sink)
    (hlinter : Linter.find machine config.linter config.linterOptions dir = .ok linter) :
    let reply := (config.process linter dir).run ⟨machine, sink⟩
    (∃ program words, Text.ShellWords.split? config.linter = some (program :: words) ∧
      Linter.locate machine dir program = some linter.binary ∧
      linter.args
        = words ++ (Text.words (config.linterOptions.getD "").toList).map String.ofList) ∧
    match Vcs.Include.ofPatterns config.patterns with
    | .error error => reply.answer = .error error ∧ reply.events = []
    | .ok filter =>
      let setup : Setup := ⟨config, linter, config.context filter dir⟩
      ∃ steps, steps <+: setup.plan machine ∧
        Event.deeds reply.events = steps.flatMap (setup.trace machine) ∧
        (steps = setup.plan machine ∨ ∃ fault, reply.answer = .error (.io fault)) ∧
        ∀ step ∈ steps, ∀ file, step.file? = some file →
          filter.accepts machine.tree dir file = true := by
  intro reply
  obtain ⟨program, words, hsplit, hlocate, hargs, hdir⟩ := Linter.words_of_find hlinter
  refine ⟨⟨program, words, hsplit, hlocate, hargs⟩, ?_⟩
  cases hfilter : Vcs.Include.ofPatterns config.patterns with
  | error error =>
    have hprocess : config.process linter dir = throw error := by
      unfold process
      rw [hfilter]
    have hreply : reply = ⟨.error error, ⟨machine, sink⟩, []⟩ := by
      show (config.process linter dir).run ⟨machine, sink⟩ = _
      rw [hprocess, Attempt.run_throw]
    rw [hreply]
    exact ⟨rfl, rfl⟩
  | ok filter =>
    let setup : Setup := ⟨config, linter, config.context filter dir⟩
    have hprocess : config.process linter dir = setup.engine.runWith setup.ctx.providers := by
      unfold process
      rw [hfilter]
      rfl
    have hsame : setup.linter.dir = setup.ctx.dir := hdir
    obtain ⟨answer, htakes⟩ := Setup.takes_runWith hsame machine
    have htook : setup.Took machine answer (setup.plan machine) reply := by
      show setup.Took machine answer _ ((config.process linter dir).run ⟨machine, sink⟩)
      rw [hprocess]
      exact htakes sink
    -- A sink that refuses cuts the run short, and so only the first steps are taken.
    obtain ⟨steps, horder, hdeeds, hall⟩ := htook.exists_steps
    refine ⟨steps, horder, hdeeds, hall, ?_⟩
    intro step hstep file hfile
    exact setup.accepts_of_mem_plan (horder.mem hstep) hfile

/-! A run over a file that is listed twice, and one that does not exist, with a linter of some
words. -/

namespace Rehearsed

def git (args : List String) : Host.Outcome :=
  if "rev-parse" ∈ args then ⟨Text.Utf8.bytes "false\n", [], .exited 1⟩ else ⟨[], [], .signalled⟩

def hg (args : List String) : Host.Outcome :=
  if "status" ∈ args then ⟨Text.Utf8.bytes "b.py \ngone.py\n\nb.py\n", [], .exited 0⟩
  else ⟨[], [], .exited 0⟩

def machine : Machine where
  tree := ⟨[(["w"], .directory), (["w", "b.py"], .file [] .refused), (["bin"], .directory),
    (["bin", "git"], .file [] (.runs git)), (["bin", "hg"], .file [] (.runs hg)),
    (["bin", "py"], .file [] (.runs fun _ => ⟨[], [], .exited 1⟩))]⟩
  workingDir := "/w"
  searchPath := ["/bin"]
  workingDir_absolute := Host.isAbsolute_sample

def config : Config where
  linter := "py -m 'fl 8'"
  linterOptions := some " --max  9"
  commits := ["one", "two words"]
  patterns := []

def linter : Linter := ⟨"/bin/py", ["-m", "fl 8", "--max", "9"], "/w"⟩

def diffOf (file : String) : List String :=
  ["diff", "--unified", "0", "--rev", "one", "--rev", "two words", file]

def lintOf (file : String) : List String := ["-m", "fl 8", "--max", "9", file]

/-- What is asked and run. -/
def deeds : List Event :=
  [.asked (.isUsed "git"), .ran ⟨"git", ["rev-parse", "--is-inside-work-tree"], "/w"⟩,
    .asked (.isUsed "hg"), .ran ⟨"hg", ["root"], "/w"⟩,
    .asked (.changedFiles "hg"),
    .ran ⟨"hg", ["status", "--modified", "--added", "--no-status", "--rev", "one", "--rev",
      "two words", "."], "/w"⟩,
    .asked (.changedLines "b.py"), .ran ⟨"hg", diffOf "b.py", "/w"⟩,
    .asked (.lint "b.py"), .ran ⟨"/bin/py", lintOf "b.py", "/w"⟩,
    .asked (.changedLines "b.py"), .ran ⟨"hg", diffOf "b.py", "/w"⟩,
    .asked (.lint "b.py"), .ran ⟨"/bin/py", lintOf "b.py", "/w"⟩]

end Rehearsed

theorem process_takes_plan_rehearsed :
    Linter.find Rehearsed.machine Rehearsed.config.linter Rehearsed.config.linterOptions "/w"
        = .ok Rehearsed.linter ∧
      Event.deeds ((Rehearsed.config.process Rehearsed.linter "/w").run
        ⟨Rehearsed.machine, .unlimited⟩).events = Rehearsed.deeds := by
  have hlinter : Linter.find Rehearsed.machine Rehearsed.config.linter
      Rehearsed.config.linterOptions "/w" = .ok Rehearsed.linter := by
    have hsplit : Text.ShellWords.split? Rehearsed.config.linter = some ["py", "-m", "fl 8"] := by
      decide +kernel
    have hlocate : Linter.locate Rehearsed.machine "/w" "py" = some "/bin/py" := by
      decide +kernel
    have hoptions : (Text.words (Rehearsed.config.linterOptions.getD "").toList).map
        String.ofList = ["--max", "9"] := by decide +kernel
    simp only [Linter.find, hsplit, hlocate, hoptions]
    rfl
  refine ⟨hlinter, ?_⟩
  obtain ⟨_, steps, _, hdeeds, hall, _⟩ := process_takes_plan .unlimited hlinter
  -- The sink takes everything, so the run is not cut short.
  rcases hall with rfl | ⟨fault, hfault⟩
  · rw [hdeeds]
    decide +kernel
  · have hanswer : (((Rehearsed.config.process Rehearsed.linter "/w").run
        ⟨Rehearsed.machine, .unlimited⟩).answer).isOk = true := by decide +kernel
    rw [hfault] at hanswer
    cases hanswer

end Config

end ChangeLint
