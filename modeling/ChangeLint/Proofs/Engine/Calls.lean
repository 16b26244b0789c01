import ChangeLint.Proofs.Engine.Streaming

/-! # The calls of a run

A run of the engine is a sequence of calls: probes of the candidates, one for the changed
files, and two for each file, one for its changed lines and one to lint it.  The first call
that fails is the last one.

* `Selects`, `Checks` and `Conducts` say what the calls of a choice, of some files, and of a
  whole run are, and what comes of them.  They follow the answers of the world only; the sink
  does not occur in them.
* `exists_conducts` says that every run is conducted in some way, and `streams_of_conducts` that
  the engine then does what is said.
* `runWith_conducts` puts both together. -/

namespace ChangeLint

open Report (Sink Style)

/-! ## Section 1: Calls -/

/-- A call: the question, and what happened while it was answered. -/
structure Call where
  query : Query
  within : List Event

/-- The trace of a call. -/
def Call.events (call : Call) : List Event := .asked call.query :: call.within

namespace Event

/-- The questions, in order. -/
def queries (events : List Event) : List Query := events.filterMap query?

/-- Is it a message of the engine itself? -/
def isRemark : Event → Bool
  | logged entry => entry.speaker == .engine
  | _ => false

/-- The trace without the messages of the engine. -/
def withoutRemarks (events : List Event) : List Event := events.filter (!·.isRemark)

@[simp] theorem withoutRemarks_nil : withoutRemarks [] = [] := rfl

@[simp] theorem withoutRemarks_append (a b : List Event) :
    withoutRemarks (a ++ b) = withoutRemarks a ++ withoutRemarks b := List.filter_append a b

@[simp] theorem withoutRemarks_cons_asked (query : Query) (events : List Event) :
    withoutRemarks (.asked query :: events) = .asked query :: withoutRemarks events := rfl

@[simp] theorem withoutRemarks_cons_remark (level : Level) (text : String)
    (events : List Event) :
    withoutRemarks (.logged ⟨level, .engine, text⟩ :: events) = withoutRemarks events := rfl

/-- The messages of the engine are no questions. -/
theorem queries_withoutRemarks (events : List Event) :
    queries (withoutRemarks events) = queries events := by
  induction events with
  | nil => rfl
  | cons event events ih =>
    -- Only messages of the engine are left out, and these are no questions.
    cases event with
    | asked query =>
      have htail : queries (.asked query :: withoutRemarks events)
          = query :: queries (withoutRemarks events) := rfl
      rw [withoutRemarks_cons_asked, htail, ih]
      rfl
    | ran invocation => exact ih
    | logged entry =>
      have hskip : queries (.logged entry :: events) = queries events := rfl
      by_cases h : isRemark (.logged entry) = true
      · have hdrop : withoutRemarks (.logged entry :: events) = withoutRemarks events := by
          simp [withoutRemarks, h]
        rw [hdrop, hskip, ih]
      · have hkeep : withoutRemarks (.logged entry :: events)
            = .logged entry :: withoutRemarks events := by
          simp [withoutRemarks, h]
        rw [hkeep, hskip, ← ih]
        rfl

/-- The questions of some calls, if nothing that is asked puts a question itself. -/
theorem queries_flatMap_events {calls : List Call}
    (h : ∀ call ∈ calls, queries call.within = []) :
    queries (calls.flatMap Call.events) = calls.map Call.query := by
  -- By induction on the calls: each starts with its question and puts no other.
  induction calls with
  | nil => rfl
  | cons call calls ih =>
    obtain ⟨hcall, hcalls⟩ := List.forall_mem_cons.mp h
    have hsplit : queries (call.events ++ calls.flatMap Call.events)
        = call.query :: (queries call.within ++ queries (calls.flatMap Call.events)) := by
      simp [queries, Call.events, query?]
    rw [List.flatMap_cons, hsplit, hcall, ih hcalls]
    rfl

end Event

/-! ## Section 2: The choice of a provider -/

namespace Vcs.Provider

/-- Candidates are asked one after the other up to the first one that is in effect. -/
inductive Probes : W → List (Provider W) → List Call → Option (Provider W) → W → Prop where
  | exhausted (world : W) : Probes world [] [] none world
  | inEffect {world after : W} {provider : Provider W} {within : List Event}
      (answer : provider.isUsed.run world = ⟨true, after, within⟩)
      (providers : List (Provider W)) :
      Probes world (provider :: providers) [⟨.isUsed provider.name, within⟩] (some provider) after
  | passedOver {world between after : W} {provider : Provider W} {providers : List (Provider W)}
      {within : List Event} {calls : List Call} {found : Option (Provider W)}
      (answer : provider.isUsed.run world = ⟨false, between, within⟩)
      (rest : Probes between providers calls found after) :
      Probes world (provider :: providers) (⟨.isUsed provider.name, within⟩ :: calls) found after

/-- A provider is chosen: the first one of the name that is requested, without any call, and if
none is requested the first one in effect. -/
inductive Selects (world : W) (providers : List (Provider W)) :
    Option String → List Call → Except Error (Provider W) → W → Prop where
  | named {name : String} {provider : Provider W} {before after : List (Provider W)}
      (order : providers = before ++ provider :: after) (own : provider.name = name)
      (others : ∀ other ∈ before, other.name ≠ name) :
      Selects world providers (some name) [] (.ok provider) world
  | unsupported {name : String} (unknown : ∀ provider ∈ providers, provider.name ≠ name) :
      Selects world providers (some name) [] (.error (.unsupportedVcs name)) world
  | located {calls : List Call} {provider : Provider W} {after : W}
      (probes : Probes world providers calls (some provider) after) :
      Selects world providers none calls (.ok provider) after
  | unlocated {calls : List Call} {after : W} (probes : Probes world providers calls none after) :
      Selects world providers none calls (.error .noVcs) after

theorem exists_probes (world : W) (providers : List (Provider W)) :
    ∃ calls found after, Probes world providers calls found after := by
  -- By induction on the candidates, each in the world that the ones before it left.
  induction providers generalizing world with
  | nil => exact ⟨[], none, world, .exhausted world⟩
  | cons provider providers ih =>
    cases h : provider.isUsed.run world with
    | mk used between within =>
      cases used with
      | true => exact ⟨_, _, between, .inEffect h providers⟩
      | false =>
        obtain ⟨calls, found, after, hrest⟩ := ih between
        exact ⟨_, found, after, .passedOver h hrest⟩

theorem exists_selects (world : W) (providers : List (Provider W)) (requested : Option String) :
    ∃ calls answer after, Selects world providers requested calls answer after := by
  -- Only without a request are the candidates asked.
  cases requested with
  | none =>
    obtain ⟨calls, found, after, hprobes⟩ := exists_probes world providers
    cases found with
    | none => exact ⟨calls, _, after, .unlocated hprobes⟩
    | some provider => exact ⟨calls, _, after, .located hprobes⟩
  | some name =>
    -- The first candidate of the name is what a search finds.
    cases hfind : providers.find? (·.name == name) with
    | none =>
      have hunknown : ∀ provider ∈ providers, provider.name ≠ name := by
        intro provider hmem hname
        exact List.find?_eq_none.mp hfind provider hmem (beq_iff_eq.mpr hname)
      exact ⟨[], _, world, .unsupported hunknown⟩
    | some provider =>
      obtain ⟨hown, before, after, horder, hothers⟩ := List.find?_eq_some_iff_append.mp hfind
      refine ⟨[], _, world, .named horder (beq_iff_eq.mp hown) ?_⟩
      intro other hother hname
      have hno := hothers other hother
      rw [hname] at hno
      simp at hno

/-- Probing makes these calls and nothing else. -/
theorem run_firstUsed_of_probes {world after : W} {providers : List (Provider W)}
    {calls : List Call} {found : Option (Provider W)}
    (h : Probes world providers calls found after) :
    (firstUsed providers).run world
      = ⟨found.elim (.error .noVcs) .ok, after, calls.flatMap Call.events⟩ := by
  -- By induction on the probes, which are taken in the order of the search.
  induction h with
  | exhausted world => rfl
  | @inEffect world after provider within answer providers =>
    have hasked : (Attempt.ofAct (Act.emit (.asked (.isUsed provider.name)))).run world
        = ⟨.ok (), world, [.asked (.isUsed provider.name)]⟩ := rfl
    have hused : (Attempt.ofAct provider.isUsed).run world = ⟨.ok true, after, within⟩ := by
      rw [Attempt.run_ofAct, answer]
    rw [firstUsed, Attempt.run_bind_of_ok hasked, Attempt.run_bind_of_ok hused]
    simp [Call.events]
  | @passedOver world between after provider providers within calls found answer _ ih =>
    have hasked : (Attempt.ofAct (Act.emit (.asked (.isUsed provider.name)))).run world
        = ⟨.ok (), world, [.asked (.isUsed provider.name)]⟩ := rfl
    have hused : (Attempt.ofAct provider.isUsed).run world = ⟨.ok false, between, within⟩ := by
      rw [Attempt.run_ofAct, answer]
    rw [firstUsed, Attempt.run_bind_of_ok hasked, Attempt.run_bind_of_ok hused]
    simp [Call.events, ih]

/-- A choice makes these calls and nothing else. -/
theorem run_choose_of_selects {world after : W} {providers : List (Provider W)}
    {requested : Option String} {calls : List Call} {answer : Except Error (Provider W)}
    (h : Selects world providers requested calls answer after) :
    (choose requested providers).run world = ⟨answer, after, calls.flatMap Call.events⟩ := by
  -- A choice by name makes no call, and the other one makes the probes.
  cases h with
  | @named name provider before _ order own others =>
    have hfind : providers.find? (·.name == name) = some provider := by
      rw [List.find?_eq_some_iff_append]
      refine ⟨beq_iff_eq.mpr own, before, _, order, ?_⟩
      intro other hother
      simpa using others other hother
    rw [choose, named, hfind]
    rfl
  | @unsupported name unknown =>
    have hfind : providers.find? (·.name == name) = none := by
      rw [List.find?_eq_none]
      intro provider hmem hname
      exact unknown provider hmem (beq_iff_eq.mp hname)
    rw [choose, named, hfind]
    rfl
  | located probes => exact run_firstUsed_of_probes probes
  | unlocated probes => exact run_firstUsed_of_probes probes

end Vcs.Provider

namespace Engine

/-! ## Section 3: The files -/

/-- Files are checked one after the other.  Each one takes two calls, and then the file is
visited; the first call that fails ends it all, and its error is what is left. -/
inductive Checks (engine : Engine W) (provider : Vcs.Provider W) :
    W → List String → List Call → List Visit → Option Error → W → Prop where
  | done (world : W) : Checks engine provider world [] [] [] none world
  | undiffed {world after : W} {file : String} {error : Error} {looked : List Event}
      (diff : (provider.changedLines file).run world = ⟨.error error, after, looked⟩)
      (files : List String) :
      Checks engine provider world (file :: files) [⟨.changedLines file, looked⟩] [] (some error)
        after
  | unlinted {world between after : W} {file : String} {lines : Patch.LineSet} {error : Error}
      {looked linted : List Event}
      (diff : (provider.changedLines file).run world = ⟨.ok lines, between, looked⟩)
      (lint : (engine.lint file).run between = ⟨.error error, after, linted⟩)
      (files : List String) :
      Checks engine provider world (file :: files)
        [⟨.changedLines file, looked⟩, ⟨.lint file, linted⟩] [] (some error) after
  | visited {world between next after : W} {file report : String} {lines : Patch.LineSet}
      {files : List String} {looked linted : List Event} {calls : List Call}
      {visits : List Visit} {stopped : Option Error}
      (diff : (provider.changedLines file).run world = ⟨.ok lines, between, looked⟩)
      (lint : (engine.lint file).run between = ⟨.ok report, next, linted⟩)
      (rest : Checks engine provider next files calls visits stopped after) :
      Checks engine provider world (file :: files)
        (⟨.changedLines file, looked⟩ :: ⟨.lint file, linted⟩ :: calls)
        (⟨file, lines, report⟩ :: visits) stopped after

section

variable {engine : Engine W} {provider : Vcs.Provider W}

theorem exists_checks (engine : Engine W) (provider : Vcs.Provider W) (world : W)
    (files : List String) :
    ∃ calls visits stopped after,
      Checks engine provider world files calls visits stopped after := by
  -- By induction on the files: either call may fail, and else the others are checked.
  induction files generalizing world with
  | nil => exact ⟨[], [], none, world, .done world⟩
  | cons file files ih =>
    cases hdiff : (provider.changedLines file).run world with
    | mk answer between looked =>
      cases answer with
      | error error => exact ⟨_, _, _, between, .undiffed hdiff files⟩
      | ok lines =>
        cases hlint : (engine.lint file).run between with
        | mk answer next linted =>
          cases answer with
          | error error => exact ⟨_, _, _, next, .unlinted hdiff hlint files⟩
          | ok report =>
            obtain ⟨calls, visits, stopped, after, hrest⟩ := ih next
            exact ⟨_, _, stopped, after, .visited hdiff hlint hrest⟩

/-- The check of a file whose two calls succeed streams the block of the file. -/
theorem streams_check_of_visit (visit : Visit) {world between last : W}
    {looked linted : List Event}
    (hdiff : (provider.changedLines visit.file).run world = ⟨.ok visit.lines, between, looked⟩)
    (hlint : (engine.lint visit.file).run between = ⟨.ok visit.report, last, linted⟩) :
    Streams (engine.check provider visit.file) world (.ok visit.kept.length) last
      (Style.bytesOf (engine.style.block visit.file visit.kept))
      (Visit.trace visit.file visit.lines looked linted) := by
  have hreport := streams_report engine.style visit.file visit.kept last
  -- The two calls that report the file stream together what neither does alone.
  have hgroup : (do
      Session.onSink (reportKept engine.style visit.kept)
      Session.onSink (engine.style.fileFinished visit.file visit.kept)
      pure visit.kept.length : Attempt (Session W) Nat)
      = (do
        Session.onSink (do
          reportKept engine.style visit.kept
          engine.style.fileFinished visit.file visit.kept)
        pure visit.kept.length) := by
    rw [Session.onSink_bind, bind_assoc]
  have hwrite := hreport.bind_pure fun _ => visit.kept.length
  rw [← hgroup] at hwrite
  -- A file is asked for, announced, linted and then reported, and only the report is streamed.
  have hcheck : Streams (engine.check provider visit.file) world (.ok visit.kept.length) last
      ([] ++ ([] ++ ([] ++ Style.bytesOf (engine.style.block visit.file visit.kept))))
      ((.asked (.changedLines visit.file) :: looked)
        ++ ([.logged ⟨.info, .engine, checkingText visit.file visit.lines⟩]
          ++ ((.asked (.lint visit.file) :: linted) ++ []))) := by
    refine (Session.streams_ask hdiff).bind ?_
    refine (streams_log .info (checkingText visit.file visit.lines) between).bind ?_
    refine (Session.streams_ask hlint).bind ?_
    simp only [Visit.kept_eq]
    exact hwrite
  simpa [Visit.trace] using hcheck

/-- Checking files streams the blocks of those that are visited, and apart from the messages of
the engine its trace is that of the calls. -/
theorem streams_checkAll_of_checks {world after : W} {files : List String} {calls : List Call}
    {visits : List Visit} {stopped : Option Error}
    (h : Checks engine provider world files calls visits stopped after) :
    ∃ events,
      Streams (engine.checkAll provider files) world
        (stopped.elim (.ok (Visit.count visits)) .error) after (engine.style.report visits)
        events ∧
      Event.withoutRemarks events = Event.withoutRemarks (calls.flatMap Call.events) := by
  -- By induction on the checks: a visited file puts its block in front of the others.
  induction h with
  | done world => exact ⟨[], Streams.pure_ok 0 world, rfl⟩
  -- A call that fails ends the check of its file before anything is streamed.
  | @undiffed world after file error looked diff files =>
    have hcheck : Streams (engine.check provider file) world (.error error) after []
        (.asked (.changedLines file) :: looked) :=
      Streams.of_run fun sink => run_check_of_diff_error sink diff
    exact ⟨_, hcheck.bind_error, by simp [Call.events]⟩
  | @unlinted world between after file lines error looked linted diff lint files =>
    have hcheck : Streams (engine.check provider file) world (.error error) after []
        (Visit.trace file lines looked linted) :=
      Streams.of_run fun sink => run_check_of_lint_error sink diff lint
    exact ⟨_, hcheck.bind_error, by simp [Call.events, Visit.trace]⟩
  | @visited world between next after file report lines files looked linted calls visits
      stopped diff lint _ ih =>
    obtain ⟨events, hrest, htrace⟩ := ih
    have hcheck := streams_check_of_visit ⟨file, lines, report⟩ diff lint
    have hreport : engine.style.report (⟨file, lines, report⟩ :: visits)
        = Style.bytesOf (engine.style.block file (Visit.kept ⟨file, lines, report⟩))
          ++ engine.style.report visits := List.flatMap_cons
    have hcount : Visit.count (⟨file, lines, report⟩ :: visits)
        = (Visit.kept ⟨file, lines, report⟩).length + Visit.count visits := by
      simp [Visit.count]
    refine ⟨Visit.trace file lines looked linted ++ events, ?_, ?_⟩
    · rw [hreport, hcount]
      -- The other files decide whether there is a sum to answer.
      cases stopped with
      | some error => exact hcheck.bind hrest.bind_error
      | none =>
        exact hcheck.bind (hrest.bind_pure ((Visit.kept ⟨file, lines, report⟩).length + ·))
    · simp [Call.events, Visit.trace, htrace]

end

/-! ## Section 4: A whole run -/

/-- What the calls of a run are, which files it visits, and what comes of it.  A provider is
chosen, the changed files are listed, and these are checked; the first call that fails ends the
run, and its error is what the run answers. -/
inductive Conducts (engine : Engine W) (providers : List (Vcs.Provider W)) (world : W) :
    List Call → List Visit → Except Error Bool → W → Prop where
  | unselected {calls : List Call} {error : Error} {after : W}
      (selection : Vcs.Provider.Selects world providers engine.vcs calls (.error error) after) :
      Conducts engine providers world calls [] (.error error) after
  | unlisted {probes : List Call} {provider : Vcs.Provider W} {between after : W}
      {error : Error} {listed : List Event}
      (selection : Vcs.Provider.Selects world providers engine.vcs probes (.ok provider) between)
      (listing : provider.changedFiles.run between = ⟨.error error, after, listed⟩) :
      Conducts engine providers world (probes ++ [⟨.changedFiles provider.name, listed⟩]) []
        (.error error) after
  | stopped {probes calls : List Call} {provider : Vcs.Provider W} {between next after : W}
      {files : List String} {listed : List Event} {visits : List Visit} {error : Error}
      (selection : Vcs.Provider.Selects world providers engine.vcs probes (.ok provider) between)
      (listing : provider.changedFiles.run between = ⟨.ok files, next, listed⟩)
      (checks : Checks engine provider next files calls visits (some error) after) :
      Conducts engine providers world (probes ++ ⟨.changedFiles provider.name, listed⟩ :: calls)
        visits (.error error) after
  | finished {probes calls : List Call} {provider : Vcs.Provider W} {between next after : W}
      {files : List String} {listed : List Event} {visits : List Visit}
      (selection : Vcs.Provider.Selects world providers engine.vcs probes (.ok provider) between)
      (listing : provider.changedFiles.run between = ⟨.ok files, next, listed⟩)
      (checks : Checks engine provider next files calls visits none after) :
      Conducts engine providers world (probes ++ ⟨.changedFiles provider.name, listed⟩ :: calls)
        visits (.ok (decide (∀ visit ∈ visits, visit.kept = []))) after

/-- Every run is conducted in some way. -/
theorem exists_conducts (engine : Engine W) (providers : List (Vcs.Provider W)) (world : W) :
    ∃ calls visits answer after, Conducts engine providers world calls visits answer after := by
  obtain ⟨probes, choice, between, hselects⟩ :=
    Vcs.Provider.exists_selects world providers engine.vcs
  -- The stages one after the other, and at each of them a failure or the next stage.
  cases choice with
  | error error => exact ⟨_, _, _, between, .unselected hselects⟩
  | ok provider =>
    cases hlisting : provider.changedFiles.run between with
    | mk answer next listed =>
      cases answer with
      | error error => exact ⟨_, _, _, next, .unlisted hselects hlisting⟩
      | ok files =>
        obtain ⟨calls, visits, stopped, after, hchecks⟩ :=
          exists_checks engine provider next files
        cases stopped with
        | some error => exact ⟨_, visits, _, after, .stopped hselects hlisting hchecks⟩
        | none => exact ⟨_, visits, _, after, .finished hselects hlisting hchecks⟩

section

variable {engine : Engine W} {providers : List (Vcs.Provider W)} {provider : Vcs.Provider W}
  {world between after : W}

/-- A choice streams nothing. -/
theorem streams_choose {requested : Option String} {calls : List Call}
    {answer : Except Error (Vcs.Provider W)}
    (h : Vcs.Provider.Selects world providers requested calls answer after) :
    Streams (Session.onWorld (Vcs.Provider.choose requested providers)) world answer after []
      (calls.flatMap Call.events) := by
  apply Streams.of_run
  intro sink
  rw [Session.run_onWorld, Vcs.Provider.run_choose_of_selects h]

/-- Up to the files a run streams nothing, and the rest streams what it streams. -/
theorem streams_runOver_of_listing {files : List String} {answer : Except Error Bool}
    {bytes : List UInt8} {listed events : List Event}
    (h : provider.changedFiles.run world = ⟨.ok files, between, listed⟩)
    (hrest : Streams (do
        let total ← engine.checkAll provider files
        log .debug (Text.Decimal.text total ++ " violation(s) on changed lines")
        pure (total == 0)) between answer after bytes events) :
    Streams (engine.runOver provider) world answer after bytes
      (engine.opening provider listed ++ events) := by
  have hlog := streams_log .debug ("using " ++ provider.name ++ " in " ++ engine.dir) world
  have hask : Streams (Session.ask (.changedFiles provider.name) provider.changedFiles) world
      (.ok files) between [] (.asked (.changedFiles provider.name) :: listed) :=
    Session.streams_ask h
  exact hlog.bind (hask.bind hrest)

/-- A run streams the blocks of the files that it visits, and apart from the messages of the
engine its trace is that of its calls. -/
theorem streams_of_conducts {calls : List Call} {visits : List Visit}
    {answer : Except Error Bool}
    (h : Conducts engine providers world calls visits answer after) :
    ∃ events,
      Streams (engine.runWith providers) world answer after (engine.style.report visits) events ∧
      Event.withoutRemarks events = Event.withoutRemarks (calls.flatMap Call.events) := by
  cases h with
  | unselected selection => exact ⟨_, (streams_choose selection).bind_error, rfl⟩
  | @unlisted probes provider between _ error listed selection listing =>
    have hover : Streams (engine.runOver provider) between (.error error) after []
        (engine.opening provider listed) :=
      Streams.of_run fun sink => run_runOver_of_listing_error sink listing
    refine ⟨_, (streams_choose selection).bind hover, ?_⟩
    simp [opening, Call.events]
  -- The files visited before the failing call have streamed their blocks already.
  | stopped selection listing checks =>
    obtain ⟨events, hall, htrace⟩ := streams_checkAll_of_checks checks
    have hover := streams_runOver_of_listing listing hall.bind_error
    refine ⟨_, (streams_choose selection).bind hover, ?_⟩
    simp [opening, Call.events, htrace]
  | @finished probes calls provider between next _ files listed visits selection listing checks =>
    obtain ⟨events, hall, htrace⟩ := streams_checkAll_of_checks checks
    -- Nothing was counted exactly if nothing was found in any file.
    have hclean : (Visit.count visits == 0) = decide (∀ visit ∈ visits, visit.kept = []) := by
      rw [Bool.eq_iff_iff, decide_eq_true_iff, ← Visit.count_eq_zero_iff, beq_iff_eq]
    have hlog := streams_log .debug
      (Text.Decimal.text (Visit.count visits) ++ " violation(s) on changed lines") after
    have hend : Streams (do
          let total ← engine.checkAll provider files
          log .debug (Text.Decimal.text total ++ " violation(s) on changed lines")
          pure (total == 0)) next (.ok (Visit.count visits == 0)) after
        (engine.style.report visits ++ []) (events ++ _) :=
      hall.bind (hlog.bind_pure fun _ => Visit.count visits == 0)
    rw [hclean, List.append_nil] at hend
    have hover := streams_runOver_of_listing listing hend
    refine ⟨_, (streams_choose selection).bind hover, ?_⟩
    simp [opening, Call.events, htrace]

end

/-- The calls of a run are the probes of the choice, then the listing, and then the changed lines
and the report of each file in order, up to the first call that fails.  That call's error is the
answer, and the report has the blocks of the files visited before it and nothing else.  What is
left behind does not matter to a later run: it answers, calls and writes what it would from the
start. -/
theorem runWith_conducts (engine : Engine W) (providers : List (Vcs.Provider W)) (world : W)
    (written : List UInt8) :
    let reply := (engine.runWith providers).run ⟨world, ⟨written, none, none⟩⟩
    (∃ calls visits,
      Conducts engine providers world calls visits reply.answer reply.world.world ∧
      reply.world.sink = ⟨written ++ engine.style.report visits, none, none⟩ ∧
      Event.withoutRemarks reply.events = Event.withoutRemarks (calls.flatMap Call.events) ∧
      ((∀ call ∈ calls, Event.queries call.within = []) →
        Event.queries reply.events = calls.map Call.query)) ∧
    ∀ others : List (Vcs.Provider W),
      let later := (engine.runWith others).run reply.world
      let fresh := (engine.runWith others).run ⟨reply.world.world, .unlimited⟩
      later.answer = fresh.answer ∧ later.events = fresh.events ∧
        later.world.world = fresh.world.world ∧
        later.world.sink.written = reply.world.sink.written ++ fresh.world.sink.written := by
  intro reply
  -- The run is conducted in some way, and what it streams fits into a sink without limit.
  obtain ⟨calls, visits, answer, after, hconducts⟩ := exists_conducts engine providers world
  obtain ⟨events, hstreams, htrace⟩ := streams_of_conducts hconducts
  have hreply : reply
      = ⟨answer, ⟨after, ⟨written ++ engine.style.report visits, none, none⟩⟩, events⟩ :=
    hstreams.fits ⟨written, none, none⟩ (Sink.hasRoom_of_no_limit rfl _) rfl
  rw [hreply]
  constructor
  -- The messages of the engine stand between the calls, but they are no questions.
  · refine ⟨calls, visits, hconducts, rfl, htrace, ?_⟩
    intro hquiet
    rw [← Event.queries_withoutRemarks, htrace, Event.queries_withoutRemarks,
      Event.queries_flatMap_events hquiet]
  · intro others
    -- What a later run streams is decided without the sink, and so is the same on a fresh one.
    obtain ⟨_, seen, last, final, hlater⟩ := exists_conducts engine others after
    obtain ⟨trace, hstreams, _⟩ := streams_of_conducts hlater
    have hheld := hstreams.fits ⟨written ++ engine.style.report visits, none, none⟩
      (Sink.hasRoom_of_no_limit rfl _) rfl
    have hfresh := hstreams.fits .unlimited (Sink.hasRoom_of_no_limit rfl _) rfl
    rw [hheld, hfresh]
    exact ⟨rfl, rfl, rfl, rfl⟩

end Engine

end ChangeLint
