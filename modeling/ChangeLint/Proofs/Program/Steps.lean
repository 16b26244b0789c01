import ChangeLint.Proofs.Program.Background

/-! # The steps of a run

A run is a sequence of steps.  In each one the engine puts a question, and to answer it one
program is run.

* `Event.deeds` is the trace of a run without its messages.
* `Setup.invocation` says which program a step runs, with which arguments, and where.
* `Setup.Takes` says which steps an attempt takes, whatever the sink does. -/

namespace ChangeLint

open Host (Machine Printed Failed)
open Report (Sink Style)
open Vcs (Kind)

/-! ## Section 1: Traces without messages -/

namespace Event

/-- Is it more than a message? -/
def isDeed : Event → Bool
  | logged _ => false
  | _ => true

/-- The questions and the programs run, in order. -/
def deeds (events : List Event) : List Event := events.filter isDeed

@[simp] theorem deeds_nil : deeds [] = [] := rfl

@[simp] theorem deeds_append (a b : List Event) : deeds (a ++ b) = deeds a ++ deeds b :=
  List.filter_append a b

@[simp] theorem deeds_cons_asked (query : Query) (events : List Event) :
    deeds (.asked query :: events) = .asked query :: deeds events := rfl

@[simp] theorem deeds_cons_ran (invocation : Invocation) (events : List Event) :
    deeds (.ran invocation :: events) = .ran invocation :: deeds events := rfl

@[simp] theorem deeds_cons_logged (entry : LogEntry) (events : List Event) :
    deeds (.logged entry :: events) = deeds events := rfl

/-- Without a question there are only the programs. -/
theorem deeds_of_queries_eq_nil {events : List Event} (h : queries events = []) :
    deeds events = (programs events).map .ran := by
  induction events with
  | nil => rfl
  | cons event events ih =>
    cases event with
    -- A question among the events contradicts the hypothesis.
    | asked query => cases h
    | ran invocation =>
      rw [deeds_cons_ran, programs_cons_ran, List.map_cons, ih h]
    | logged entry =>
      rw [deeds_cons_logged, programs_cons_logged, ih h]

end Event

namespace Attempt

/-- The attempt puts no question of the engine. -/
def Quiet (attempt : Attempt W α) : Prop :=
  ∀ world, Event.queries (attempt.run world).events = []

/-- What happens in the background puts no question. -/
theorem Background.quiet {attempt : Attempt W α} (h : attempt.Background) : attempt.Quiet :=
  fun world => (h world).queries_eq

/-- If it puts no question, all that is left behind but messages are the programs run. -/
theorem Gives.exists_deeds {attempt : Attempt W α} {world after : W} {answer : Except Error α}
    {programs : List Invocation} (h : attempt.Gives world answer after programs)
    (hquiet : attempt.Quiet) :
    ∃ events, attempt.run world = ⟨answer, after, events⟩ ∧
      Event.deeds events = programs.map .ran := by
  obtain ⟨events, hrun, hprograms⟩ := h
  have hevents : Event.queries events = [] := by
    have hworld := hquiet world
    rwa [hrun] at hworld
  refine ⟨events, hrun, ?_⟩
  rw [Event.deeds_of_queries_eq_nil hevents, hprograms]

end Attempt

/-! ## Section 2: Steps -/

/-- What a run can do next: ask whether a system is in effect, list the changed files, print the
diff of a file, or lint it. -/
inductive Step where
  | probe (kind : Kind)
  | list (kind : Kind)
  | diff (kind : Kind) (file : String)
  | lint (file : String)
  deriving DecidableEq, Repr

namespace Step

/-- The question that the step answers. -/
def query : Step → Query
  | probe kind => .isUsed kind.name
  | list kind => .changedFiles kind.name
  | diff _ file => .changedLines file
  | lint file => .lint file

/-- The exit statuses with which its program succeeds. -/
def statuses : Step → List Nat
  | lint _ => [0, 1]
  | _ => [0]

/-- Its program, with the linter at this path. -/
def program (binary : String) : Step → String
  | probe kind => kind.name
  | list kind => kind.name
  | diff kind _ => kind.name
  | lint _ => binary

/-- What every diff of git begins with, so that settings of the user do not count. -/
def pinned : List String :=
  ["-c", "core.quotePath=false", "diff", "--no-color", "--no-ext-diff", "--relative",
    "--src-prefix=a/", "--dst-prefix=b/"]

/-- Its arguments, with these revisions, and these words in front of the file that is linted. -/
def args (commits words : List String) : Step → List String
  | probe .git => ["rev-parse", "--is-inside-work-tree"]
  | probe .mercurial => ["root"]
  | list .git => pinned ++ ["--name-only", "--diff-filter=ACMRT"] ++ commits
  | list .mercurial =>
    ["status", "--modified", "--added", "--no-status"]
      ++ commits.flatMap (fun commit => ["--rev", commit]) ++ ["."]
  | diff .git file => pinned ++ ["-U0"] ++ commits ++ ["--", file]
  | diff .mercurial file =>
    ["diff", "--unified", "0"] ++ commits.flatMap (fun commit => ["--rev", commit]) ++ [file]
  | lint file => words ++ [file]

end Step

namespace Setup

/-- How the program of a step is run. -/
def invocation (setup : Setup) (step : Step) : Invocation where
  program := step.program setup.linter.binary
  args := step.args setup.ctx.commits setup.linter.args
  dir := setup.ctx.dir

/-- What a step leaves behind: the question, and the program run, if it could be run at all. -/
def trace (setup : Setup) (machine : Machine) (step : Step) : List Event :=
  .asked step.query :: (machine.runs (setup.invocation step)).map .ran

/-- What the program of a step prints, if it succeeds. -/
def output? (setup : Setup) (machine : Machine) (step : Step) : Option String :=
  machine.printed? step.statuses (setup.invocation step)

theorem invocation_probe (setup : Setup) (kind : Kind) :
    setup.invocation (.probe kind) = kind.probeCommand setup.ctx := by cases kind <;> rfl

theorem invocation_list (setup : Setup) (kind : Kind) :
    setup.invocation (.list kind) = kind.listCommand setup.ctx := by cases kind <;> rfl

theorem invocation_diff (setup : Setup) (kind : Kind) (file : String) :
    setup.invocation (.diff kind file) = kind.diffCommand setup.ctx file := by
  cases kind <;> rfl

theorem invocation_lint {setup : Setup} (hdir : setup.linter.dir = setup.ctx.dir)
    (file : String) : setup.invocation (.lint file) = setup.linter.invocation file := by
  unfold invocation Linter.invocation
  rw [hdir]
  rfl

/-! ## Section 3: Taking steps -/

/-- An attempt came to the answer after all of the steps.  Or the sink refused what was written,
and its fault ended the attempt after some of them. -/
inductive Took (setup : Setup) (machine : Machine) (answer : Except Error α)
    (steps : List Step) : Reply (Session Machine) (Except Error α) → Prop where
  | all {sink : Sink} {events : List Event}
      (deeds : Event.deeds events = steps.flatMap (setup.trace machine)) :
      Took setup machine answer steps ⟨answer, ⟨machine, sink⟩, events⟩
  | some {front : List Step} {fault : String} {sink : Sink} {events : List Event}
      (order : front <+: steps)
      (deeds : Event.deeds events = front.flatMap (setup.trace machine)) :
      Took setup machine answer steps ⟨.error (.io fault), ⟨machine, sink⟩, events⟩

theorem Took.exists_steps {setup : Setup} {machine : Machine} {answer : Except Error α}
    {steps : List Step} {reply : Reply (Session Machine) (Except Error α)}
    (h : setup.Took machine answer steps reply) :
    ∃ taken, taken <+: steps ∧ Event.deeds reply.events = taken.flatMap (setup.trace machine) ∧
      (taken = steps ∨ ∃ fault, reply.answer = .error (.io fault)) := by
  cases h with
  | all deeds => exact ⟨steps, List.prefix_refl steps, deeds, .inl rfl⟩
  | some order deeds => exact ⟨_, order, deeds, .inr ⟨_, rfl⟩⟩

/-- On the machine the attempt takes the steps and comes to the answer, on every sink that lets
it. -/
def Takes (setup : Setup) (machine : Machine) (attempt : Attempt (Session Machine) α)
    (answer : Except Error α) (steps : List Step) : Prop :=
  ∀ sink, setup.Took machine answer steps (attempt.run ⟨machine, sink⟩)

namespace Takes

variable {setup : Setup} {machine : Machine} {attempt : Attempt (Session Machine) α}
  {next : α → Attempt (Session Machine) β} {steps more : List Step}

/-- An attempt that leaves the sink alone. -/
theorem of_run {answer : Except Error α} {events : List Event}
    (h : ∀ sink, attempt.run ⟨machine, sink⟩ = ⟨answer, ⟨machine, sink⟩, events⟩)
    (hdeeds : Event.deeds events = steps.flatMap (setup.trace machine)) :
    setup.Takes machine attempt answer steps := by
  intro sink
  rw [h]
  exact .all hdeeds

/-- Steps are taken one part after the other. -/
theorem bind {a : α} {answer : Except Error β} (h : setup.Takes machine attempt (.ok a) steps)
    (hnext : setup.Takes machine (next a) answer more) :
    setup.Takes machine (attempt >>= next) answer (steps ++ more) := by
  intro sink
  have hfirst := h sink
  generalize hrun : attempt.run ⟨machine, sink⟩ = reply at hfirst
  -- If the first part lost its sink, the second one is never begun, and the steps taken are still
  -- an initial part of all.
  cases hfirst with
  | @some front fault after events order deeds =>
    rw [Attempt.run_bind_of_error hrun]
    exact .some (order.trans (List.prefix_append steps more)) deeds
  | @all after events deeds =>
    have hsecond := hnext after
    rw [Attempt.run_bind_of_ok hrun]
    generalize (next a).run ⟨machine, after⟩ = reply at hsecond
    -- The second part takes all of its steps or only some; those of the first one are taken.
    cases hsecond with
    | @all last rest hrest =>
      refine .all ?_
      rw [Event.deeds_append, deeds, hrest, List.flatMap_append]
    | @some front fault last rest order hrest =>
      refine .some ((List.prefix_append_right_inj steps).mpr order) ?_
      rw [Event.deeds_append, deeds, hrest, List.flatMap_append]

/-- Behind a failure no step is taken. -/
theorem bind_error {error : Error} (h : setup.Takes machine attempt (.error error) steps) :
    setup.Takes machine (attempt >>= next) (.error error) steps := by
  intro sink
  have hfirst := h sink
  generalize hrun : attempt.run ⟨machine, sink⟩ = reply at hfirst
  cases hfirst with
  | all deeds =>
    rw [Attempt.run_bind_of_error hrun]
    exact .all deeds
  | some order deeds =>
    rw [Attempt.run_bind_of_error hrun]
    exact .some order deeds

theorem pure (a : α) : setup.Takes machine (Pure.pure a) (.ok a) [] :=
  of_run (fun _ => rfl) rfl

/-- What is only computed from an answer takes no further step. -/
theorem bind_pure {a : α} (h : setup.Takes machine attempt (.ok a) steps) (f : α → β) :
    setup.Takes machine (attempt >>= fun a => Pure.pure (f a)) (.ok (f a)) steps := by
  -- The computation is a second part without any steps.
  have hall : setup.Takes machine (attempt >>= fun a => Pure.pure (f a)) (.ok (f a))
      (steps ++ []) := h.bind (pure (f a))
  rwa [List.append_nil] at hall

theorem log (level : Level) (text : String) :
    setup.Takes machine (Engine.log level text) (.ok ()) [] :=
  of_run (fun _ => rfl) rfl

/-- A question that is answered by the program of a step is that step. -/
theorem ask {step : Step} {attempt : Attempt Machine α} {answer : Except Error α}
    (h : attempt.Gives machine answer machine (machine.runs (setup.invocation step)))
    (hquiet : attempt.Quiet) :
    setup.Takes machine (Session.ask step.query attempt) answer [step] := by
  obtain ⟨events, hrun, hdeeds⟩ := h.exists_deeds hquiet
  -- The question is put before anything else, whatever the sink is.
  have hask : ∀ sink, (Session.ask step.query attempt).run ⟨machine, sink⟩
      = ⟨answer, ⟨machine, sink⟩, .asked step.query :: events⟩ := by
    intro sink
    rw [Session.run_ask, hrun]
  apply of_run hask
  rw [Event.deeds_cons_asked, hdeeds, List.flatMap_singleton]
  rfl

/-- What is done on the sink takes no step, and fails only with a fault of the sink. -/
theorem onSink {attempt : Attempt Sink Unit}
    (h : ∀ sink, ∃ after, attempt.run sink = ⟨.ok (), after, []⟩ ∨
      ∃ fault, attempt.run sink = ⟨.error (.io fault), after, []⟩) :
    setup.Takes machine (Session.onSink attempt) (.ok ()) [] := by
  intro sink
  rw [Session.run_onSink]
  -- Without steps, all of them and none of them is the same: only the answers differ.
  obtain ⟨after, hrun | ⟨fault, hrun⟩⟩ := h sink
  · rw [hrun]
    exact .all rfl
  · rw [hrun]
    exact .some (List.prefix_refl []) rfl

theorem write (line : String) :
    setup.Takes machine (Session.onSink (Sink.write line)) (.ok ()) [] := by
  apply onSink
  intro sink
  -- The sink takes the line if it has no limit or room enough; else it takes what fits and fails.
  cases hlimit : sink.limit with
  | none => exact ⟨_, .inl (Sink.run_writeBytes_of_unlimited hlimit _)⟩
  | some limit =>
    by_cases hfits : (Text.Utf8.bytes line).length ≤ limit.room
    · refine ⟨_, .inl (Sink.run_writeBytes_of_hasRoom ?_)⟩
      intro other hother
      rw [hlimit] at hother
      cases hother
      exact hfits
    · let after : Sink :=
        { sink with
          written := sink.written ++ (Text.Utf8.bytes line).take limit.room
          limit := some { limit with room := limit.room - (Text.Utf8.bytes line).length } }
      refine ⟨after, .inr ⟨limit.fault, ?_⟩⟩
      simp [after, Sink.write, Sink.writeBytes, Attempt.run, Attempt.mk, Act.run, ExceptT.run,
        ExceptT.mk, hlimit, hfits]

theorem writeAll (lines : List String) :
    setup.Takes machine (Session.onSink (Style.writeAll lines)) (.ok ()) [] := by
  induction lines with
  | nil => exact pure ()
  | cons line lines ih =>
    rw [Style.writeAll, Session.onSink_bind]
    exact (write line).bind ih

theorem flush : setup.Takes machine (Session.onSink Sink.flush) (.ok ()) [] := by
  apply onSink
  intro sink
  cases hflush : sink.flushFault with
  | none => exact ⟨sink, .inl (Sink.run_flush_of_none hflush)⟩
  | some fault => exact ⟨sink, .inr ⟨fault, Sink.run_flush_of_some hflush⟩⟩

theorem reportKept (style : Style) (findings : List Finding) :
    setup.Takes machine (Session.onSink (Engine.reportKept style findings)) (.ok ()) [] := by
  rw [Style.reportKept_eq_writeAll]
  exact writeAll _

theorem fileFinished (style : Style) (file : String) (findings : List Finding) :
    setup.Takes machine (Session.onSink (style.fileFinished file findings)) (.ok ()) [] := by
  unfold Style.fileFinished
  rw [Session.onSink_bind]
  exact (writeAll _).bind flush

end Takes

end Setup

end ChangeLint
