import ChangeLint.Proofs.Engine.Writers
import ChangeLint.Proofs.Program.Stages

/-! # In the background

Only the engine puts questions, and only it logs a message that is not for debugging.  All else
happens in the background: programs are run, and what is logged is for debugging.

* `Event.AllBackground` says so of a trace.
* `Attempt.Background` says so of an attempt, in every world.  The commands, the linter, the
  configuration and the report are all attempts of this kind. -/

namespace ChangeLint

open Host (Machine)
open Report (Sink Style)
open Vcs (Kind Context)

/-! ## Section 1: Traces -/

namespace Event

/-- The messages, in order. -/
def entries (events : List Event) : List LogEntry := events.filterMap entry?

@[simp] theorem entries_append (a b : List Event) : entries (a ++ b) = entries a ++ entries b :=
  List.filterMap_append

@[simp] theorem entries_cons_asked (query : Query) (events : List Event) :
    entries (.asked query :: events) = entries events := rfl

/-- The messages for whoever watches the run. -/
def notices (events : List Event) : List LogEntry := (entries events).filter (·.level = .info)

@[simp] theorem notices_append (a b : List Event) : notices (a ++ b) = notices a ++ notices b := by
  simp [notices]

@[simp] theorem queries_append (a b : List Event) : queries (a ++ b) = queries a ++ queries b :=
  List.filterMap_append

/-- Is it neither a question nor a message for more than debugging? -/
def isBackground : Event → Bool
  | asked _ => false
  | ran _ => true
  | logged entry => entry.level = .debug

/-- A trace without questions and with messages for debugging only. -/
def AllBackground (events : List Event) : Prop := ∀ event ∈ events, event.isBackground = true

theorem allBackground_nil : AllBackground [] := nofun

theorem AllBackground.append {a b : List Event} (ha : AllBackground a) (hb : AllBackground b) :
    AllBackground (a ++ b) := by
  intro event hevent
  rcases List.mem_append.mp hevent with h | h
  · exact ha event h
  · exact hb event h

theorem AllBackground.level {events : List Event} (h : AllBackground events) :
    ∀ entry ∈ entries events, entry.level = .debug := by
  intro entry hentry
  obtain ⟨event, hevent, heq⟩ := List.mem_filterMap.mp hentry
  have hbackground := h event hevent
  cases event with
  -- Only the last kind of event is a message.
  | asked query => cases heq
  | ran invocation => cases heq
  | logged other =>
    cases heq
    exact of_decide_eq_true hbackground

theorem AllBackground.queries_eq {events : List Event} (h : AllBackground events) :
    queries events = [] := by
  apply List.filterMap_eq_nil_iff.mpr
  intro event hevent
  have hbackground := h event hevent
  cases event with
  | asked query => cases hbackground
  | ran invocation => rfl
  | logged entry => rfl

theorem AllBackground.notices_eq {events : List Event} (h : AllBackground events) :
    notices events = [] := by
  apply List.filter_eq_nil_iff.mpr
  intro entry hentry
  rw [h.level entry hentry]
  decide

end Event

/-! ## Section 2: Attempts -/

namespace Attempt

/-- The attempt puts no question and logs for debugging only. -/
def Background (attempt : Attempt W α) : Prop :=
  ∀ world, Event.AllBackground (attempt.run world).events

theorem Background.bind {attempt : Attempt W α} {next : α → Attempt W β} (h : attempt.Background)
    (hnext : ∀ a, (next a).Background) : (attempt >>= next).Background := by
  intro world
  cases hrun : attempt.run world with
  | mk answer between events =>
    have hevents : Event.AllBackground events := by
      have hworld := h world
      rwa [hrun] at hworld
    -- After a failure there are the events of the first part alone, else those of both parts.
    cases answer with
    | error error =>
      rw [run_bind_of_error hrun]
      exact hevents
    | ok a =>
      rw [run_bind_of_ok hrun]
      exact hevents.append (hnext a between)

theorem background_pure (a : α) : (pure a : Attempt W α).Background := fun _ => nofun

theorem background_throw (error : Error) : (throw error : Attempt W α).Background :=
  fun _ => nofun

theorem background_ofExcept (result : Except Error α) :
    (ofExcept result : Attempt W α).Background := fun _ => nofun

theorem background_look : (ofAct Act.look : Attempt W W).Background := fun _ => nofun

theorem background_log (speaker : Speaker) (text : String) :
    (ofAct (Act.log .debug speaker text) : Attempt W Unit).Background := by
  intro world event hevent
  rw [List.mem_singleton.mp hevent]
  rfl

/-- A launch logs nothing. -/
theorem background_judged (invocation : Invocation)
    (judge : Except Host.Fault Host.Outcome → Except Error α) :
    (Attempt.mk do
      let launched ← Host.launch invocation
      pure (judge launched)).Background := by
  intro machine event hevent
  -- What is left behind is the program run, if it could be run; the judgement adds nothing.
  have hruns : event ∈ (machine.runs invocation).map Event.ran := by
    have hrun : (Act.run (Host.launch invocation >>= fun launched => pure (judge launched))
        machine).events = (machine.runs invocation).map Event.ran := by
      rw [Act.run_bind, Host.run_launch]
      exact List.append_nil _
    rwa [← hrun]
  obtain ⟨_, _, rfl⟩ := List.mem_map.mp hruns
  rfl

end Attempt

namespace Vcs

theorem Command.background_run (command : Command) : (Command.run command).Background :=
  (Attempt.background_log .vcs _).bind fun _ => Attempt.background_judged command (judge command)

theorem Command.background_probe (command : Command) :
    (Attempt.ofAct (Command.probe command)).Background := by
  intro machine
  have hcommand := background_run command machine
  -- The command is followed by a message at most.
  have hrun : ∃ rest, ((Attempt.ofAct (probe command)).run machine).events
      = ((run command).run machine).events ++ rest ∧ Event.AllBackground rest := by
    rw [Attempt.run_ofAct, probe, Act.run_bind]
    show ∃ rest, ((run command).run machine).events ++ _ = _ ∧ _
    cases Act.run (ExceptT.run (run command)) machine with
    | mk answer between events =>
      cases answer with
      | ok output => exact ⟨_, rfl, Event.allBackground_nil⟩
      | error error =>
        exact ⟨_, rfl, Attempt.background_log .vcs
          (command.program ++ " probe failed: " ++ error.message) between⟩
  obtain ⟨rest, hevents, hrest⟩ := hrun
  rw [hevents]
  exact hcommand.append hrest

variable (kind : Kind) (ctx : Context)

theorem Kind.background_changedFiles : (kind.changedFiles ctx).Background :=
  (Command.background_run _).bind fun _ =>
    Attempt.background_look.bind fun _ => Attempt.background_pure _

theorem Kind.background_changedLines (file : String) : (kind.changedLines ctx file).Background :=
  (Command.background_run _).bind fun _ => Attempt.background_pure _

end Vcs

theorem Linter.background_lint (linter : Linter) (file : String) :
    (linter.lint file).Background :=
  Attempt.background_judged (linter.invocation file) (linter.judge file)

theorem Linter.background_resolve (command : String) (options : Option String) (dir : String) :
    (Linter.resolve command options dir).Background := by
  refine Attempt.background_look.bind fun machine => ?_
  -- Without a binary nothing is logged; else the path found is.
  split
  · exact Attempt.background_throw _
  · exact (Attempt.background_log .linter _).bind fun _ => Attempt.background_pure _

theorem Config.background_discover (named : Option String) (dir : String) :
    (Config.discover named dir).Background := by
  refine Attempt.background_look.bind fun machine => ?_
  cases named with
  | some path => exact Attempt.background_ofExcept _
  | none =>
    dsimp only
    split
    · exact (Attempt.background_log .config _).bind fun _ => Attempt.background_ofExcept _
    · exact Attempt.background_pure _

theorem Program.background_currentDir : Program.currentDir.Background := by
  refine Attempt.background_look.bind fun machine => ?_
  split
  · exact Attempt.background_pure _
  · exact Attempt.background_throw _

theorem Program.background_showConfig (verbosity : Verbosity) (config : Config) :
    (Program.showConfig verbosity config).Background := by
  unfold Program.showConfig
  split
  · exact (Attempt.background_ofExcept _).bind fun _ => Attempt.background_log .program _
  · exact Attempt.background_pure _

theorem Program.background_configure (options : Cli.Options) (dir : String) :
    (Program.configure options dir).Background :=
  (Config.background_discover _ _).bind fun _ => (Attempt.background_ofExcept _).bind fun _ =>
    (Program.background_showConfig _ _).bind fun _ => Attempt.background_pure _

/-! What is written to a report leaves no trace at all. -/

namespace Report

theorem Sink.background_write (line : String) : (Sink.write line).Background := by
  intro sink
  have hevents : ((Sink.write line).run sink).events = [] := by
    simp only [Sink.write, Sink.writeBytes, Attempt.run, Attempt.mk, Act.run, ExceptT.run,
      ExceptT.mk]
    -- No limit, or one that is kept, or one that is not: the trace is empty in all cases.
    split
    · rfl
    · split <;> rfl
  rw [hevents]
  exact Event.allBackground_nil

theorem Sink.background_flush : Sink.flush.Background := by
  intro sink
  have hevents : (Sink.flush.run sink).events = [] := by
    simp only [Sink.flush, Attempt.run, Attempt.mk, Act.run, ExceptT.run, ExceptT.mk]
    split <;> rfl
  rw [hevents]
  exact Event.allBackground_nil

theorem Style.background_writeAll (lines : List String) :
    (Style.writeAll lines).Background := by
  induction lines with
  | nil => exact Attempt.background_pure ()
  | cons line lines ih => exact (Sink.background_write line).bind fun _ => ih

theorem Style.background_fileFinished (style : Style) (file : String) (findings : List Finding) :
    (style.fileFinished file findings).Background :=
  (Style.background_writeAll _).bind fun _ => Sink.background_flush

theorem Style.background_reportKept (style : Style) (findings : List Finding) :
    (Engine.reportKept style findings).Background := by
  rw [Style.reportKept_eq_writeAll]
  exact Style.background_writeAll _

end Report

end ChangeLint
