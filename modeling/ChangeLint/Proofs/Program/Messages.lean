import ChangeLint.Proofs.Program.Plan

/-! # The messages of a run

Almost every message of a run is for debugging.  There is one other kind, for whoever watches the
run: that a file is checked.  It is logged when the changed lines of the file were obtained, and it
shows them.  No message reports an error, since an error ends the run.

* `Accounted` says of a trace that its messages which are not for debugging belong to the questions
  for changed lines that were answered.
* `aside_check_of_unready` and `accounted_check_of_ready` say which messages a run leaves, with a
  first stage that fails or with none. -/

namespace ChangeLint

open Host (Machine)
open Report (Sink Style)
open Vcs (Kind)

/-! ## Section 1: Accounted messages -/

namespace Event

/-- No message reports an error, and those that are not for debugging belong to the questions of
the trace, one for each question that has one. -/
structure Accounted (note : Query → Option LogEntry) (events : List Event) : Prop where
  level : ∀ entry ∈ entries events, entry.level ≠ .error
  notices : notices events = (queries events).filterMap note

namespace Accounted

variable {note : Query → Option LogEntry} {events : List Event} {query : Query}

theorem of_background (h : AllBackground events) : Accounted note events where
  level entry hentry := by
    rw [h.level entry hentry]
    decide
  notices := by
    rw [h.notices_eq, h.queries_eq]
    rfl

theorem append {a b : List Event} (ha : Accounted note a) (hb : Accounted note b) :
    Accounted note (a ++ b) where
  level entry hentry := by
    rw [entries_append] at hentry
    rcases List.mem_append.mp hentry with h | h
    · exact ha.level entry h
    · exact hb.level entry h
  notices := by
    rw [notices_append, queries_append, List.filterMap_append, ha.notices, hb.notices]

/-- A question that no message belongs to. -/
theorem unnoted (hnote : note query = none) (h : AllBackground events) :
    Accounted note (.asked query :: events) := by
  have hasked : Accounted note [.asked query] := by
    refine ⟨nofun, ?_⟩
    show [] = [query].filterMap note
    rw [List.filterMap_cons_none hnote, List.filterMap_nil]
  exact hasked.append (of_background h)

/-- A question with the message that belongs to it. -/
theorem noted {entry : LogEntry} (hnote : note query = some entry) (hinfo : entry.level = .info)
    (h : AllBackground events) : Accounted note (.asked query :: (events ++ [.logged entry])) where
  level other hother := by
    rw [entries_cons_asked, entries_append] at hother
    rcases List.mem_append.mp hother with hmem | hmem
    · rw [h.level other hmem]
      decide
    · rw [List.mem_singleton.mp hmem, hinfo]
      decide
  notices := by
    -- What is logged in between is for debugging, so it is neither a question nor a notice.
    have hquery : queries (.asked query :: (events ++ [.logged entry])) = [query] := by
      show query :: queries (events ++ [.logged entry]) = [query]
      rw [queries_append, h.queries_eq]
      rfl
    have hnotice : Event.notices (.asked query :: (events ++ [.logged entry])) = [entry] := by
      show Event.notices (events ++ [.logged entry]) = [entry]
      rw [notices_append, h.notices_eq]
      simp [Event.notices, entries, entry?, hinfo]
    rw [hnotice, hquery, List.filterMap_cons_some hnote, List.filterMap_nil]

end Accounted

end Event

/-! ## Section 2: The choice of a system -/

/-- What is accounted for one part after the other is accounted for. -/
theorem Event.accounted_bind {note : Query → Option LogEntry} {attempt : Attempt W α}
    {next : α → Attempt W β} (h : ∀ world, Accounted note (attempt.run world).events)
    (hnext : ∀ a world, Accounted note ((next a).run world).events) (world : W) :
    Accounted note ((attempt >>= next).run world).events := by
  have hfirst := h world
  cases hrun : attempt.run world with
  | mk answer between events =>
    rw [hrun] at hfirst
    -- A failing part ends the trace, and what it left is accounted for already.
    cases answer with
    | error error =>
      rw [Attempt.run_bind_of_error hrun]
      exact hfirst
    | ok a =>
      rw [Attempt.run_bind_of_ok hrun]
      exact hfirst.append (hnext a between)

/-- Asking whether systems are in effect leaves no message but for debugging. -/
theorem Vcs.Provider.accounted_firstUsed {note : Query → Option LogEntry}
    (hnote : ∀ name, note (.isUsed name) = none) {providers : List (Vcs.Provider W)}
    (h : ∀ provider ∈ providers, (Attempt.ofAct provider.isUsed).Background) (world : W) :
    Event.Accounted note ((firstUsed providers).run world).events := by
  -- By induction on the candidates, since the search asks them one by one.
  induction providers generalizing world with
  | nil => exact .of_background (Attempt.background_throw _ world)
  | cons provider providers ih =>
    refine Event.accounted_bind (fun world => ?_) (fun _ => ?_) world
    · exact .unnoted (hnote provider.name) Event.allBackground_nil
    · refine Event.accounted_bind (fun world => ?_) (fun used world => ?_)
      · exact .of_background (h provider (by simp) world)
      · cases used with
        | true => exact .of_background (Attempt.background_pure provider world)
        | false => exact ih (fun other hother => h other (by simp [hother])) world

theorem Vcs.Provider.accounted_choose {note : Query → Option LogEntry}
    (hnote : ∀ name, note (.isUsed name) = none) {providers : List (Vcs.Provider W)}
    (h : ∀ provider ∈ providers, (Attempt.ofAct provider.isUsed).Background)
    (requested : Option String) (world : W) :
    Event.Accounted note ((choose requested providers).run world).events := by
  cases requested with
  | none => exact accounted_firstUsed hnote h world
  | some name =>
    unfold choose named
    dsimp only
    split
    · exact .of_background (Attempt.background_pure _ world)
    · exact .of_background (Attempt.background_throw _ world)

/-! ## Section 3: The engine -/

namespace Setup

variable {setup : Setup} {machine : Machine} {note : Query → Option LogEntry}

/-- The message that belongs to a question: a file is checked if its changed lines are
obtained. -/
def checking? (setup : Setup) (machine : Machine) : Query → Option LogEntry
  | .changedLines file =>
    (setup.chosen machine).bind fun kind =>
      (setup.output? machine (.diff kind file)).map fun diff =>
        ⟨.info, .engine, Engine.checkingText file (Vcs.changedIn diff)⟩
  | _ => none

end Setup

/-- On the machine the attempt has an accounted trace, and leaves the machine as it is. -/
def Accounts (note : Query → Option LogEntry) (machine : Machine)
    (attempt : Attempt (Session Machine) α) : Prop :=
  ∀ sink, Event.Accounted note (attempt.run ⟨machine, sink⟩).events ∧
    (attempt.run ⟨machine, sink⟩).world.world = machine

namespace Accounts

variable {note : Query → Option LogEntry} {machine : Machine}
  {attempt : Attempt (Session Machine) α} {next : α → Attempt (Session Machine) β}

/-- What is accounted for one part after the other is accounted for. -/
theorem bind (h : Accounts note machine attempt)
    (hnext : ∀ a, (∃ sink, (attempt.run ⟨machine, sink⟩).answer = .ok a) →
      Accounts note machine (next a)) :
    Accounts note machine (attempt >>= next) := by
  intro sink
  have hfirst := h sink
  cases hrun : attempt.run ⟨machine, sink⟩ with
  | mk answer between events =>
    rw [hrun] at hfirst
    obtain ⟨hevents, hworld⟩ := hfirst
    cases answer with
    | error error =>
      rw [Attempt.run_bind_of_error hrun]
      exact ⟨hevents, hworld⟩
    | ok a =>
      -- The machine is the same, and only the sink has moved on.
      obtain ⟨world, after⟩ := between
      subst hworld
      obtain ⟨hrest, hlast⟩ := hnext a ⟨sink, by rw [hrun]⟩ after
      rw [Attempt.run_bind_of_ok hrun]
      exact ⟨hevents.append hrest, hlast⟩

theorem pure (a : α) : Accounts note machine (Pure.pure a) :=
  fun _ => ⟨.of_background nofun, rfl⟩

/-- What happens in the background on the sink. -/
theorem onSink {attempt : Attempt Sink α} (h : attempt.Background) :
    Accounts note machine (Session.onSink attempt) :=
  fun sink => ⟨.of_background (h sink), rfl⟩

/-- A message for debugging. -/
theorem log (text : String) : Accounts note machine (Engine.log .debug text) :=
  fun sink => ⟨.of_background (Attempt.background_log .engine text (Session.mk machine sink)), rfl⟩

/-- A question that no message belongs to. -/
theorem ask {query : Query} {attempt : Attempt Machine α} (hnote : note query = none)
    (hbackground : attempt.Background) (hworld : (attempt.run machine).world = machine) :
    Accounts note machine (Session.ask query attempt) := by
  intro sink
  rw [Session.run_ask]
  exact ⟨.unnoted hnote (hbackground machine), hworld⟩

end Accounts

namespace Setup

variable {setup : Setup} {machine : Machine} {kind : Kind}

/-- What answers a question leaves the machine as it is. -/
theorem Answers.world {step : Step} {attempt : Attempt Machine α} {answer : String → α}
    (h : setup.Answers machine step attempt answer) : (attempt.run machine).world = machine := by
  -- Whether the program prints something or fails, running it does not change the machine.
  rcases Host.printed_or_failed step.statuses (machine.launched (setup.invocation step)) with
    ⟨text, hprinted⟩ | hfailed
  · obtain ⟨events, hrun, _⟩ := h.printed text hprinted
    rw [hrun]
  · obtain ⟨error, events, hrun, _⟩ := h.failed hfailed
    rw [hrun]

/-- What a check does behind its message is accounted for by itself. -/
theorem accounts_linted (hdir : setup.linter.dir = setup.ctx.dir) (file : String)
    (lines : Patch.LineSet) :
    Accounts (setup.checking? machine) machine (do
      let report ← Session.ask (.lint file) (setup.linter.lint file)
      let findings := Finding.kept lines report
      Session.onSink (Engine.reportKept setup.engine.style findings)
      Session.onSink (setup.engine.style.fileFinished file findings)
      pure findings.length) := by
  have hlint := (answers_lint hdir machine file).world
  refine (Accounts.ask rfl (setup.linter.background_lint file) hlint).bind fun report _ => ?_
  refine (Accounts.onSink (Report.Style.background_reportKept _ _)).bind fun _ _ => ?_
  exact (Accounts.onSink (Report.Style.background_fileFinished _ _ _)).bind fun _ _ => .pure _

/-- The check of a file logs that once the changed lines are there. -/
theorem accounts_check (hdir : setup.linter.dir = setup.ctx.dir)
    (hkind : setup.chosen machine = some kind) (file : String) :
    Accounts (setup.checking? machine) machine
      (setup.engine.check (kind.provider setup.ctx) file) := by
  have hbackground := kind.background_changedLines setup.ctx file machine
  -- The chosen system is the one that is asked, so its diff decides whether there is a message.
  have hnote : setup.checking? machine (.changedLines file)
      = (setup.output? machine (.diff kind file)).map fun diff =>
          ⟨.info, .engine, Engine.checkingText file (Vcs.changedIn diff)⟩ := by
    rw [checking?, hkind]
    rfl
  intro sink
  cases hdiff : setup.output? machine (.diff kind file) with
  -- Without changed lines the check ends, and no message is due.
  | none =>
    obtain ⟨error, events, hrun, _⟩ := (setup.answers_diff machine kind file).failed
      (Machine.printed?_eq_none_iff.mp hdiff)
    rw [hrun] at hbackground
    have hask := Session.run_ask (.changedLines file) (kind.changedLines setup.ctx file)
      ⟨machine, sink⟩
    rw [hrun] at hask
    have hcheck : (setup.engine.check (kind.provider setup.ctx) file).run ⟨machine, sink⟩
        = ⟨.error error, ⟨machine, sink⟩, .asked (.changedLines file) :: events⟩ :=
      Attempt.run_bind_of_error hask
    rw [hcheck]
    rw [hdiff] at hnote
    exact ⟨.unnoted hnote hbackground, rfl⟩
  | some diff =>
    obtain ⟨events, hrun, _⟩ := (setup.answers_diff machine kind file).printed diff
      (Machine.printed?_eq_some_iff.mp hdiff)
    rw [hrun] at hbackground
    have hask := Session.run_ask (.changedLines file) (kind.changedLines setup.ctx file)
      ⟨machine, sink⟩
    rw [hrun] at hask
    -- With them the message comes before anything is linted.
    have hlog := Engine.run_log .info (Engine.checkingText file (Vcs.changedIn diff))
      (Session.mk machine sink)
    obtain ⟨hevents, hworld⟩ := accounts_linted hdir file (Vcs.changedIn diff) sink
    have hcheck : (setup.engine.check (kind.provider setup.ctx) file).run ⟨machine, sink⟩ = _ :=
      Attempt.run_bind_of_ok hask
    rw [hcheck, Attempt.run_bind_of_ok hlog, Reply.behind_behind]
    rw [hdiff] at hnote
    exact ⟨(Event.Accounted.noted hnote rfl hbackground).append hevents, hworld⟩

theorem accounts_checkAll (hdir : setup.linter.dir = setup.ctx.dir)
    (hkind : setup.chosen machine = some kind) (files : List String) :
    Accounts (setup.checking? machine) machine
      (setup.engine.checkAll (kind.provider setup.ctx) files) := by
  -- By induction on the files: a failing check ends them with what is accounted so far.
  induction files with
  | nil => exact .pure 0
  | cons file files ih =>
    exact (accounts_check hdir hkind file).bind fun _ _ => ih.bind fun _ _ => .pure _

theorem accounts_runOver (hdir : setup.linter.dir = setup.ctx.dir)
    (hkind : setup.chosen machine = some kind) :
    Accounts (setup.checking? machine) machine
      (setup.engine.runOver (kind.provider setup.ctx)) := by
  have hlist := (setup.answers_list machine kind).world
  refine (Accounts.log _).bind fun _ _ => ?_
  refine (Accounts.ask rfl (kind.background_changedFiles setup.ctx) hlist).bind fun files _ => ?_
  refine (accounts_checkAll hdir hkind files).bind fun total _ => ?_
  exact (Accounts.log _).bind fun _ _ => .pure _

theorem accounts_runWith (hdir : setup.linter.dir = setup.ctx.dir) (machine : Machine) :
    Accounts (setup.checking? machine) machine
      (setup.engine.runWith setup.ctx.providers) := by
  obtain ⟨events, hchoose, _⟩ := setup.exists_run_choose machine
  -- The probes have no message, since only questions for changed lines have one.
  have hevents : Event.Accounted (setup.checking? machine) events := by
    have hproviders : ∀ provider ∈ setup.ctx.providers,
        (Attempt.ofAct provider.isUsed).Background := by
      intro provider hprovider
      obtain ⟨kind, _, rfl⟩ := List.mem_map.mp hprovider
      exact Vcs.Command.background_probe (kind.probeCommand setup.ctx)
    have hnote : ∀ name, setup.checking? machine (.isUsed name) = none := fun _ => rfl
    have hall := Vcs.Provider.accounted_choose hnote hproviders setup.config.vcs machine
    rwa [hchoose] at hall
  have hchosen : Accounts (setup.checking? machine) machine
      (Session.onWorld (Vcs.Provider.choose setup.config.vcs setup.ctx.providers)) := by
    intro sink
    rw [Session.run_onWorld, hchoose]
    exact ⟨hevents, rfl⟩
  refine hchosen.bind fun provider hprovider => ?_
  obtain ⟨sink, hanswer⟩ := hprovider
  rw [Session.run_onWorld, hchoose] at hanswer
  -- The system that is asked is the one of the answer.
  have hchoice : setup.choice machine = .ok provider := hanswer
  unfold choice at hchoice
  cases hkind : setup.chosen machine with
  | none =>
    rw [hkind] at hchoice
    cases hchoice
  | some kind =>
    rw [hkind] at hchoice
    cases hchoice
    exact accounts_runOver hdir hkind

end Setup

/-! ## Section 4: The program -/

/-- The attempt comes to an answer in the background, and leaves the world as it is. -/
def Attempt.Aside (attempt : Attempt W α) (world : W) (answer : Except Error α) : Prop :=
  ∃ events, attempt.run world = ⟨answer, world, events⟩ ∧ Event.AllBackground events

namespace Attempt

variable {attempt : Attempt W α} {next : α → Attempt W β} {world : W}

theorem Gives.aside {answer : Except Error α} {programs : List Invocation}
    (h : attempt.Gives world answer world programs) (hbackground : attempt.Background) :
    attempt.Aside world answer := by
  obtain ⟨events, hrun, _⟩ := h
  have hevents := hbackground world
  rw [hrun] at hevents
  exact ⟨events, hrun, hevents⟩

theorem Aside.onWorld {answer : Except Error α} (h : attempt.Aside world answer) (sink : Sink) :
    (Session.onWorld attempt).Aside ⟨world, sink⟩ answer := by
  obtain ⟨events, hrun, hevents⟩ := h
  refine ⟨events, ?_, hevents⟩
  rw [Session.run_onWorld, hrun]

theorem Aside.bind_error {error : Error} (h : attempt.Aside world (.error error)) :
    (attempt >>= next).Aside world (.error error) := by
  obtain ⟨events, hrun, hevents⟩ := h
  exact ⟨events, run_bind_of_error hrun, hevents⟩

theorem Aside.bind {a : α} {answer : Except Error β} (h : attempt.Aside world (.ok a))
    (hnext : (next a).Aside world answer) : (attempt >>= next).Aside world answer := by
  obtain ⟨events, hrun, hevents⟩ := h
  obtain ⟨rest, hrest, hbackground⟩ := hnext
  refine ⟨events ++ rest, ?_, hevents.append hbackground⟩
  rw [run_bind_of_ok hrun, hrest, Reply.behind_mk]

/-- What is accounted for behind something in the background is so in all. -/
theorem Aside.accounted {note : Query → Option LogEntry} {a : α}
    (h : attempt.Aside world (.ok a))
    (hnext : Event.Accounted note ((next a).run world).events) :
    Event.Accounted note ((attempt >>= next).run world).events := by
  obtain ⟨events, hrun, hevents⟩ := h
  rw [run_bind_of_ok hrun]
  exact (Event.Accounted.of_background hevents).append hnext

end Attempt

theorem Ready.dir_eq {options : Cli.Options} {machine : Machine} {setup : Setup}
    (h : Ready options machine setup) : setup.linter.dir = setup.ctx.dir := by
  obtain ⟨_, _, _, _, _, hdir⟩ := Linter.words_of_find h.linter
  obtain ⟨filter, _, hctx⟩ := h.filter
  rw [hdir, hctx]
  rfl

namespace Program

variable {options : Cli.Options} {machine : Machine}

theorem aside_currentDir {node : Host.Node}
    (h : machine.tree.resolve machine.workingDir = .ok node) (sink : Sink) :
    (Session.onWorld currentDir).Aside ⟨machine, sink⟩ (.ok machine.workingDir) :=
  ((gives_currentDir h).aside background_currentDir).onWorld sink

theorem aside_configure {file : Config}
    (hfound : Config.found machine options.configPath = .ok file)
    (hvalid : (options.applyTo file).invalid? = none) (sink : Sink) :
    (Session.onWorld (configure options machine.workingDir)).Aside ⟨machine, sink⟩
      (.ok (options.applyTo file)) :=
  ((gives_configure hfound hvalid).aside (background_configure _ _)).onWorld sink

/-- If one of the first stages fails, everything happens in the background. -/
theorem aside_check_of_unready (h : Unready options machine) (sink : Sink) :
    ∃ error, (check options).Aside ⟨machine, sink⟩ (.error error) := by
  -- Whichever stage fails, those in front of it were in the background too.
  cases h with
  | nowhere here =>
    have hdir := (gives_currentDir_of_error here).aside background_currentDir
    exact ⟨_, (hdir.onWorld sink).bind_error⟩
  | unconfigured here found =>
    have hconfigure := (gives_configure_of_found_error found).aside (background_configure _ _)
    exact ⟨_, (aside_currentDir here sink).bind (hconfigure.onWorld sink).bind_error⟩
  | invalid here found invalid =>
    have hconfigure := (gives_configure_of_invalid found invalid).aside (background_configure _ _)
    exact ⟨_, (aside_currentDir here sink).bind (hconfigure.onWorld sink).bind_error⟩
  | @noLinter _ file fault here found valid linter =>
    have hresolve := Linter.gives_resolve machine (options.applyTo file).linter
      (options.applyTo file).linterOptions machine.workingDir
    rw [linter] at hresolve
    have hlinter := (hresolve.aside (Linter.background_resolve _ _ _)).onWorld sink
    exact ⟨_, (aside_currentDir here sink).bind
      ((aside_configure found valid sink).bind hlinter.bind_error)⟩

/-- Once the first stages succeed, all messages that are not for debugging are those of the
engine. -/
theorem accounted_check_of_ready {setup : Setup} (h : Ready options machine setup) (sink : Sink) :
    Event.Accounted (setup.checking? machine) ((check options).run ⟨machine, sink⟩).events := by
  obtain ⟨hengine, _⟩ := Setup.accounts_runWith h.dir_eq machine sink
  rw [← process_of_ready h] at hengine
  obtain ⟨config, linter, ctx⟩ := setup
  obtain ⟨⟨node, here⟩, ⟨file, found, hconfig⟩, valid, hlinter, ⟨filter, _, hctx⟩⟩ := h
  dsimp only at hconfig valid hlinter hctx
  subst hconfig hctx
  -- Three stages in the background, and the engine behind them.
  have hresolve := Linter.gives_resolve machine (options.applyTo file).linter
    (options.applyTo file).linterOptions machine.workingDir
  rw [hlinter] at hresolve
  have hfound := (hresolve.aside (Linter.background_resolve _ _ _)).onWorld sink
  exact (aside_currentDir here sink).accounted
    ((aside_configure found valid sink).accounted (hfound.accounted hengine))

end Program

end ChangeLint
