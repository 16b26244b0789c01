import ChangeLint.Proofs.Cli.LogFlags
import ChangeLint.Proofs.Config.RoundTrip
import ChangeLint.Proofs.Program.Course
import ChangeLint.Proofs.Program.Messages

/-! # Watching a run

How much of its log a run shows is only for whoever watches it.  The flags for it change nothing
else, and each verbosity shows a part of the same log.

One message is made only if it is shown: the effective configuration is written as a text for it,
and if that failed the run would end.  So a run that shows everything goes through a stage that
others do not have.

* `Verbosity.part` is what a verbosity shows of a log.
* `LooksLike` relates attempts that cannot be told apart by whoever sees this much of the log, and
  `check_looksLike` says so of the check and the one that shows everything.
* `Shown` is what is seen of a run, `Alike` relates two runs that are seen in parts, and `Noted`
  says which messages are for whoever watches.
* `run_shows_part` says all of this of runs with any standard output. -/

namespace ChangeLint

open Host (Machine)
open Report (Sink)

/-! ## Section 1: Parts of a log -/

namespace Verbosity

/-- What is shown of a log: nothing, the messages for whoever watches, or all. -/
def part : Verbosity → List LogEntry → List LogEntry
  | quiet, _ => []
  | verbose, log => log.filter (·.level = .info)
  | debug, log => log

/-- A log without errors is shown in these parts. -/
theorem log_eq_part (verbosity : Verbosity) {events : List Event}
    (h : ∀ entry ∈ Event.entries events, entry.level ≠ .error) :
    verbosity.log events = verbosity.part (Event.entries events) := by
  show (Event.entries events).filter (fun entry => verbosity.shows entry.level) = _
  -- Without errors the levels are two, and each verbosity shows none, one or both.
  cases verbosity with
  | quiet =>
    apply List.filter_eq_nil_iff.mpr
    intro entry hentry
    have hlevel := h entry hentry
    cases hcase : entry.level with
    | debug => decide
    | info => decide
    | error => exact absurd hcase hlevel
  | verbose =>
    apply List.filter_congr
    intro entry hentry
    have hlevel := h entry hentry
    cases hcase : entry.level with
    | debug => decide
    | info => decide
    | error => exact absurd hcase hlevel
  | debug =>
    apply List.filter_eq_self.mpr
    intro entry _
    cases entry.level <;> decide

end Verbosity

/-! ## Section 2: A message made to be shown -/

/-- The replies look alike to whoever sees this much of the log. -/
structure Reply.LooksLike (verbosity : Verbosity) (a b : Reply W α) : Prop where
  answer : a.answer = b.answer
  world : a.world = b.world
  programs : Event.programs a.events = Event.programs b.events
  log : verbosity.log a.events = verbosity.log b.events

/-- The attempts look alike in every world. -/
def Attempt.LooksLike (verbosity : Verbosity) (a b : Attempt W α) : Prop :=
  ∀ world, Reply.LooksLike verbosity (a.run world) (b.run world)

namespace Attempt.LooksLike

variable {verbosity : Verbosity} {a b : Attempt W α} {f g : α → Attempt W β}

theorem refl (verbosity : Verbosity) (a : Attempt W α) : LooksLike verbosity a a :=
  fun _ => ⟨rfl, rfl, rfl, rfl⟩

theorem bind (h : LooksLike verbosity a b) (hnext : ∀ x, LooksLike verbosity (f x) (g x)) :
    LooksLike verbosity (a >>= f) (b >>= g) := by
  intro world
  obtain ⟨hanswer, hworld, hprograms, hlog⟩ := h world
  cases ha : a.run world with
  | mk answer between events =>
    cases hb : b.run world with
    | mk other there rest =>
      rw [ha, hb] at hanswer hworld hprograms hlog
      dsimp only at hanswer hworld hprograms hlog
      subst hanswer hworld
      -- Both fail with the same error, or go on in the same world with the same value.
      cases answer with
      | error error =>
        rw [run_bind_of_error ha, run_bind_of_error hb]
        exact ⟨rfl, rfl, hprograms, hlog⟩
      | ok x =>
        obtain ⟨hanswer, hworld, hrest, hshown⟩ := hnext x between
        rw [run_bind_of_ok ha, run_bind_of_ok hb]
        refine ⟨hanswer, hworld, ?_, ?_⟩
        · show Event.programs (events ++ _) = Event.programs (rest ++ _)
          rw [Event.programs_append, Event.programs_append, hprograms, hrest]
        · show verbosity.log (events ++ _) = verbosity.log (rest ++ _)
          rw [Verbosity.log_append, Verbosity.log_append, hlog, hshown]

theorem onWorld {a b : Attempt W α} (h : LooksLike verbosity a b) :
    LooksLike verbosity (Session.onWorld a) (Session.onWorld b) := by
  intro session
  obtain ⟨hanswer, hworld, hprograms, hlog⟩ := h session.world
  rw [Session.run_onWorld, Session.run_onWorld]
  exact ⟨hanswer, congrArg (Session.mk · session.sink) hworld, hprograms, hlog⟩

end Attempt.LooksLike

namespace Program

/-- Whoever does not see the message about the configuration sees no difference if it is not
made, for making it does not fail. -/
theorem showConfig_looksLike {verbosity watched : Verbosity}
    (h : verbosity.shows .debug = true → watched.shows .debug = true) (config : Config) :
    Attempt.LooksLike verbosity (showConfig watched config) (showConfig .debug config) := by
  have hhidden : ∀ text, verbosity.shows .debug = false →
      verbosity.log [.logged ⟨.debug, .program, text⟩] = [] := by
    intro text hshows
    simp [Verbosity.log, Event.entry?, hshows]
  intro machine
  rw [run_showConfig, run_showConfig]
  -- The message is made in both runs, or in the second one only, where it is not seen.
  cases hwatched : watched.shows .debug with
  | true =>
    have hsame : effectiveLog watched config = effectiveLog .debug config := if_pos hwatched
    rw [hsame]
    exact ⟨rfl, rfl, rfl, rfl⟩
  | false =>
    have hnothing : effectiveLog watched config = [] := if_neg (by rw [hwatched]; decide)
    have hshows : verbosity.shows .debug = false := by
      rw [← Bool.not_eq_true]
      intro hshows
      rw [h hshows] at hwatched
      cases hwatched
    rw [hnothing]
    exact ⟨rfl, rfl, rfl, (hhidden _ hshows).symm⟩

/-- The options of a run that shows everything. -/
def debugged (options : Cli.Options) : Cli.Options := options.withLog false true

/-- Whoever sees no more than the run shows sees the run that shows everything. -/
theorem check_looksLike {verbosity : Verbosity} (options : Cli.Options)
    (h : verbosity.shows .debug = true → options.verbosity.shows .debug = true) :
    Attempt.LooksLike verbosity (check options) (check (debugged options)) := by
  -- All stages are the same in both, but for the one that shows the configuration.
  refine (Attempt.LooksLike.refl _ _).bind fun dir => ?_
  refine Attempt.LooksLike.bind (Attempt.LooksLike.onWorld ?_) fun config =>
    Attempt.LooksLike.refl _ _
  refine (Attempt.LooksLike.refl _ _).bind fun found => ?_
  refine (Attempt.LooksLike.refl _ _).bind fun _ => ?_
  exact (showConfig_looksLike h (options.applyTo found)).bind fun _ => Attempt.LooksLike.refl _ _

/-! ## Section 3: Runs with any standard output -/

/-- How much of the log a command line asks for.  One that is refused leaves none. -/
def verbosityOf (args : List String) : Verbosity :=
  match Cli.Options.ofArgs args with
  | .error _ => .quiet
  | .ok options => options.verbosity

/-- Runs the program on a machine and a standard output. -/
def runOn (args : List String) (session : Session Machine) : Outcome :=
  match Cli.Options.ofArgs args with
  | .error stop =>
    let shown := (Sink.writeBytes (stopped stop).stdout).run session.sink
    { stopped stop with stdout := shown.world.written }
  | .ok options => outcomeOf options.verbosity ((check options).run session)

/-- Runs on a standard output that takes everything are those of the program. -/
theorem run_eq_runOn (args : List String) (machine : Machine) :
    run args machine = runOn args ⟨machine, .unlimited⟩ := by
  unfold run runOn
  cases Cli.Options.ofArgs args with
  | error stop => simp [Sink.run_writeBytes_of_unlimited, Sink.unlimited]
  | ok options => rfl

/-- The whole log of a run: that of the run that shows everything.  A command line that is refused
leaves none. -/
def logOf (args : List String) (session : Session Machine) : List LogEntry :=
  match Cli.Options.ofArgs args with
  | .error _ => []
  | .ok options => Event.entries ((check (debugged options)).run session).events

/-- Two runs show parts of one log, and the same complaint at the end, and are otherwise alike.
The messages for whoever watches are in both the ones of this log. -/
structure Alike (low high : Verbosity) (log : List LogEntry) (here there : Outcome) : Prop where
  exitStatus : here.exitStatus = there.exitStatus
  stdout : here.stdout = there.stdout
  programs : here.programs = there.programs
  messages : ∃ complaint : List String, complaint.length ≤ 1 ∧
    here.messages = (low.part log).map LogEntry.shown ++ complaint ∧
    there.messages = (high.part log).map LogEntry.shown ++ complaint
  notices : Event.notices here.events = log.filter (·.level = .info) ∧
    Event.notices there.events = log.filter (·.level = .info)

/-- The messages of a run for whoever watches it: one for each file whose changed lines were
obtained, in the order in which they were asked for. -/
inductive Noted (args : List String) (machine : Machine) (events : List Event) : Prop where
  | refused {stop : Cli.Stop} (refused : Cli.Options.ofArgs args = .error stop)
      (nothing : events = [])
  | unready {options : Cli.Options} (accepted : Cli.Options.ofArgs args = .ok options)
      (unready : Unready options machine) (background : Event.AllBackground events)
  | ready {options : Cli.Options} {setup : Setup}
      (accepted : Cli.Options.ofArgs args = .ok options) (ready : Ready options machine setup)
      (notices : Event.notices events = (Event.queries events).filterMap (setup.checking? machine))

/-- What a check logs is background, or accounted for by the questions of the engine. -/
theorem logged_check (options : Cli.Options) (machine : Machine) (sink : Sink) :
    let events := ((check options).run ⟨machine, sink⟩).events
    (Unready options machine ∧ Event.AllBackground events) ∨
      ∃ setup, Ready options machine setup ∧
        Event.Accounted (setup.checking? machine) events := by
  intro events
  -- A stage fails and leaves messages for debugging only, or the engine accounts for the others.
  rcases ready_or_unready options machine with ⟨setup, ready⟩ | unready
  · exact .inr ⟨setup, ready, accounted_check_of_ready ready sink⟩
  · obtain ⟨error, logged, hrun, hlogged⟩ := aside_check_of_unready unready sink
    have hevents : events = logged := congrArg Reply.events hrun
    exact .inl ⟨unready, hevents ▸ hlogged⟩

/-- No check logs an error, for an error ends it. -/
theorem level_ne_error_of_check (options : Cli.Options) (session : Session Machine) :
    ∀ entry ∈ Event.entries ((check options).run session).events, entry.level ≠ .error := by
  rcases logged_check options session.world session.sink with
    ⟨_, hbackground⟩ | ⟨setup, _, haccounted⟩
  · intro entry hentry
    rw [hbackground.level entry hentry]
    decide
  · exact haccounted.level

theorem noted_runOn (args : List String) (session : Session Machine) :
    Noted args session.world (runOn args session).events := by
  unfold runOn
  cases hargs : Cli.Options.ofArgs args with
  | error stop =>
    refine .refused hargs ?_
    cases stop <;> rfl
  | ok options =>
    rcases logged_check options session.world session.sink with
      ⟨hunready, hbackground⟩ | ⟨setup, hready, haccounted⟩
    · exact .unready hargs hunready hbackground
    · exact .ready hargs hready haccounted.notices

/-! ## Section 4: What is seen -/

/-- What is seen of a run of which the whole is this reply. -/
structure Shown (verbosity : Verbosity) (whole : Reply (Session Machine) (Except Error Bool))
    (outcome : Outcome) : Prop where
  exitStatus : outcome.exitStatus = Program.exitStatus whole.answer
  stdout : outcome.stdout = whole.world.sink.written
  programs : outcome.programs = Event.programs whole.events
  messages : outcome.messages = (verbosity.part (Event.entries whole.events)).map LogEntry.shown
    ++ failureMessages whole.answer
  notices : Event.notices outcome.events = Event.notices whole.events

/-- Of every check there is seen a part of the one that shows everything. -/
theorem shown_check (options : Cli.Options) (session : Session Machine) :
    Shown options.verbosity ((check (debugged options)).run session)
      (outcomeOf options.verbosity ((check options).run session)) := by
  have hlevel := level_ne_error_of_check (debugged options) session
  obtain ⟨hanswer, hworld, hprograms, hlog⟩ := check_looksLike options id session
  -- The messages for whoever watches do not depend on the verbosity, so the middle one may be
  -- asked, which never sees the text of the configuration.
  have hunseen : Verbosity.verbose.shows .debug = true →
      options.verbosity.shows .debug = true := fun h => absurd h (by decide)
  have hnotices := (check_looksLike options hunseen session).log
  rw [Verbosity.verbose.log_eq_part hlevel,
    Verbosity.verbose.log_eq_part (level_ne_error_of_check options session)] at hnotices
  refine ⟨congrArg exitStatus hanswer, congrArg (·.sink.written) hworld, hprograms, ?_, hnotices⟩
  show (options.verbosity.log _).map LogEntry.shown ++ failureMessages _ = _
  rw [hlog, hanswer, options.verbosity.log_eq_part hlevel]

/-- Two parts of one run are alike. -/
theorem Shown.alike {low high : Verbosity} {whole : Reply (Session Machine) (Except Error Bool)}
    {here there : Outcome} (h : Shown low whole here) (hother : Shown high whole there) :
    Alike low high (Event.entries whole.events) here there where
  exitStatus := h.exitStatus.trans hother.exitStatus.symm
  stdout := h.stdout.trans hother.stdout.symm
  programs := h.programs.trans hother.programs.symm
  messages := by
    -- Both show the complaint of the one answer.
    refine ⟨failureMessages whole.answer, ?_, h.messages, hother.messages⟩
    cases whole.answer with
    | ok clean => exact Nat.zero_le 1
    | error error => exact Nat.le_refl 1
  notices := ⟨h.notices, hother.notices⟩

/-- A command line that is not followed by a check leaves no log. -/
theorem alike_stopped (stop : Cli.Stop) (stdout : List UInt8) :
    Alike .quiet .quiet [] { stopped stop with stdout } { stopped stop with stdout } where
  exitStatus := rfl
  stdout := rfl
  programs := rfl
  messages := by
    refine ⟨(stopped stop).messages, ?_⟩
    cases stop with
    | help full => exact ⟨Nat.zero_le 1, rfl, rfl⟩
    | version => exact ⟨Nat.zero_le 1, rfl, rfl⟩
    | fault fault => exact ⟨Nat.le_refl 1, rfl, rfl⟩
  notices := by cases stop <;> exact ⟨rfl, rfl⟩

theorem alike_of_saysSame {args others : List String} (h : Cli.SaysSame args others)
    (session : Session Machine) :
    Alike (verbosityOf args) (verbosityOf others) (logOf args session) (runOn args session)
      (runOn others session) := by
  unfold Cli.SaysSame at h
  unfold verbosityOf logOf runOn
  -- Either both command lines are refused with the same text, or both are followed by a check.
  cases hargs : Cli.Options.ofArgs args with
  | error stop =>
    rw [hargs] at h
    cases hothers : Cli.Options.ofArgs others with
    | ok options =>
      rw [hothers] at h
      cases h
    | error other =>
      rw [hothers] at h
      cases h
      exact alike_stopped stop _
  | ok options =>
    rw [hargs] at h
    cases hothers : Cli.Options.ofArgs others with
    | error stop =>
      rw [hothers] at h
      cases h
    | ok other =>
      rw [hothers] at h
      -- With everything shown, the two runs are one.
      have hunlogged : options.unlogged = other.unlogged := Except.ok.inj h
      have hsame : debugged options = debugged other := by
        show debugged options.unlogged = debugged other.unlogged
        rw [hunlogged]
      have hother := shown_check other session
      rw [← hsame] at hother
      exact (shown_check options session).alike hother

/-- **Runs whose command lines differ in the flags for the log only do the same and end the same,
and each shows its part of one log**: nothing of it, the messages for whoever watches, or all.
These messages are one for each file whose changed lines were obtained.  The text of the
configuration, which is written just to show it, can always be written, and it is read back.  The
flags may be given behind whatever is accepted by itself. -/
theorem run_shows_part :
    (∀ args machine, run args machine = runOn args ⟨machine, .unlimited⟩) ∧
    (∀ args others, Cli.SaysSame args others → ∀ session,
      Alike (verbosityOf args) (verbosityOf others) (logOf args session) (runOn args session)
        (runOn others session)) ∧
    (∀ args session, Noted args session.world (runOn args session).events) ∧
    (∀ config, config.toYaml? = .ok config.toYaml ∧ Config.parse config.toYaml = .ok config) ∧
    (∀ front back, Cli.Reader.start.FreeOfLog (front ++ back) → Cli.AdmitsOption front →
      ∀ flags ∈ Cli.logFlags, Cli.SaysSame (front ++ (flags ++ back)) (front ++ back)) := by
  refine ⟨run_eq_runOn, ?_, noted_runOn, ?_, ?_⟩
  · intro args others hsame session
    exact alike_of_saysSame hsame session
  · intro config
    exact ⟨config.toYaml?_eq, config.parse_toYaml⟩
  · intro front back hfree hfront flags hflags
    exact Cli.saysSame_flags hflags hfree hfront

/-- A run that fails on the second of two files, with one flag and with another. -/
theorem run_shows_part_signalled :
    let session := ⟨Signalled.machine, .unlimited⟩
    let verbose := ["--color", "off"] ++ (["-v"] ++ [])
    let debug := ["--color", "off"] ++ (["--debug"] ++ [])
    Cli.SaysSame verbose debug ∧
      Alike .verbose .debug (logOf verbose session) (runOn verbose session)
        (runOn debug session) ∧
      (runOn verbose session).messages =
        ["INFO flake8_diff::engine: checking a.py lines 1",
          "INFO flake8_diff::engine: checking b.py lines 1",
          "Error: Linter failed: /bin/flake8 b.py exited with a signal: "] ∧
      (runOn debug session).messages.length = 10 ∧
      (runOn debug session).messages.head? =
        some ("DEBUG flake8_diff: effective config:\nstandard_flake8_output: false\n"
          ++ "color_theme: off\nlinter: flake8\ninclude:\n- '*.py'\ncommits:\n- master\n") := by
  obtain ⟨_, halike, _, _, hflags⟩ := run_shows_part
  have hfree : Cli.Reader.start.FreeOfLog (["--color", "off"] ++ []) :=
    ⟨rfl, fun _ hnext => ⟨by cases hnext; rfl, fun _ _ => trivial⟩⟩
  have hadmits : Cli.AdmitsOption ["--color", "off"] := ⟨_, _, rfl, rfl, rfl⟩
  have hverbose := hflags _ _ hfree hadmits ["-v"] (by simp [Cli.logFlags])
  have hdebug := hflags _ _ hfree hadmits ["--debug"] (by simp [Cli.logFlags])
  -- Both flags say the same as no flag, and so the same as each other.
  have hsame : Cli.SaysSame (["--color", "off"] ++ (["-v"] ++ []))
      (["--color", "off"] ++ (["--debug"] ++ [])) := hverbose.trans hdebug.symm
  exact ⟨hsame, halike _ _ hsame _, by decide +kernel, by decide +kernel, by decide +kernel⟩

end Program

end ChangeLint
