import ChangeLint.Host.Launch
import ChangeLint.Proofs.Attempts

/-! # Launched programs

A machine alone decides what comes of a launch, and launching leaves it as it is.  This module
says which programs an attempt runs, and when a launched program counts as one that did its
work.

* `Attempt.Gives` is what an attempt comes to, up to the messages that it logs.
* `Printed` and `Failed` are the two ways in which a launch ends, for a caller that accepts some
  exit statuses. -/

namespace ChangeLint

/-! ## Section 1: Programs run -/

namespace Event

/-- The programs run, in order. -/
def programs (events : List Event) : List Invocation := events.filterMap invocation?

@[simp] theorem programs_nil : programs [] = [] := rfl

@[simp] theorem programs_append (a b : List Event) :
    programs (a ++ b) = programs a ++ programs b := List.filterMap_append

@[simp] theorem programs_cons_asked (query : Query) (events : List Event) :
    programs (.asked query :: events) = programs events := rfl

@[simp] theorem programs_cons_logged (entry : LogEntry) (events : List Event) :
    programs (.logged entry :: events) = programs events := rfl

@[simp] theorem programs_cons_ran (invocation : Invocation) (events : List Event) :
    programs (.ran invocation :: events) = invocation :: programs events := rfl

end Event

namespace Attempt

/-- From a world on, the attempt comes to an answer, leaves a world behind, and runs some
programs. -/
def Gives (attempt : Attempt W α) (world : W) (answer : Except Error α) (after : W)
    (programs : List Invocation) : Prop :=
  ∃ events, attempt.run world = ⟨answer, after, events⟩ ∧ Event.programs events = programs

section

variable {attempt : Attempt W α} {next : α → Attempt W β} {world between after : W}
  {p q : List Invocation}

theorem gives_self (attempt : Attempt W α) (world : W) :
    attempt.Gives world (attempt.run world).answer (attempt.run world).world
      (Event.programs (attempt.run world).events) := ⟨_, rfl, rfl⟩

theorem gives_pure (a : α) (world : W) : (pure a : Attempt W α).Gives world (.ok a) world [] :=
  ⟨[], rfl, rfl⟩

theorem gives_throw (error : Error) (world : W) :
    (throw error : Attempt W α).Gives world (.error error) world [] := ⟨[], rfl, rfl⟩

theorem gives_ofExcept (result : Except Error α) (world : W) :
    (ofExcept result).Gives world result world [] := ⟨[], rfl, rfl⟩

theorem gives_look (world : W) : (ofAct Act.look).Gives world (.ok world) world [] :=
  ⟨[], rfl, rfl⟩

theorem gives_log (level : Level) (speaker : Speaker) (text : String) (world : W) :
    (ofAct (Act.log level speaker text)).Gives world (.ok ()) world [] :=
  ⟨[.logged ⟨level, speaker, text⟩], rfl, rfl⟩

theorem gives_asked (query : Query) (world : W) :
    (ofAct (Act.emit (.asked query))).Gives world (.ok ()) world [] :=
  ⟨[.asked query], rfl, rfl⟩

/-- Programs are run one part after the other. -/
theorem Gives.bind {a : α} {answer : Except Error β}
    (h : attempt.Gives world (.ok a) between p) (hnext : (next a).Gives between answer after q) :
    (attempt >>= next).Gives world answer after (p ++ q) := by
  obtain ⟨events, hrun, rfl⟩ := h
  -- Messages may stand between the programs; only the programs are compared.
  obtain ⟨rest, hrest, rfl⟩ := hnext
  refine ⟨events ++ rest, ?_, Event.programs_append events rest⟩
  rw [run_bind_of_ok hrun, hrest, Reply.behind_mk]

/-- Nothing is run behind a failure. -/
theorem Gives.bind_error {error : Error} (h : attempt.Gives world (.error error) after p) :
    (attempt >>= next).Gives world (.error error) after p := by
  obtain ⟨events, hrun, hprograms⟩ := h
  exact ⟨events, run_bind_of_error hrun, hprograms⟩

end

end Attempt

namespace Host

/-- The directory in which the runs of the samples take place. -/
theorem isAbsolute_sample : IsAbsolute "/w" := by decide

/-! ## Section 2: Launches -/

namespace Machine

/-- What a launch comes to. -/
def launched (machine : Machine) (invocation : Invocation) : Except Fault Outcome :=
  (machine.prepare invocation).map fun respond => respond invocation.args

/-- The program of a launch, if it could be run at all. -/
def runs (machine : Machine) (invocation : Invocation) : List Invocation :=
  match machine.launched invocation with
  | .ok _ => [invocation]
  | .error _ => []

end Machine

theorem run_launch (invocation : Invocation) (machine : Machine) :
    (launch invocation).run machine
      = ⟨machine.launched invocation, machine, (machine.runs invocation).map Event.ran⟩ := by
  -- A launch is noted only if the program could be run.
  cases h : machine.prepare invocation with
  | error fault => simp [launch, Act.run, Machine.runs, Machine.launched, Except.map, h]
  | ok respond => simp [launch, Act.run, Machine.runs, Machine.launched, Except.map, h]

theorem programs_map_ran (invocations : List Invocation) :
    Event.programs (invocations.map Event.ran) = invocations := by
  induction invocations with
  | nil => rfl
  | cons invocation invocations ih =>
    rw [List.map_cons, Event.programs_cons_ran, ih]

/-- An attempt that is a launch and a judgement on it. -/
theorem gives_judged (invocation : Invocation) (machine : Machine)
    (judge : Except Fault Outcome → Except Error α) :
    (Attempt.mk do let launched ← launch invocation; pure (judge launched)).Gives machine
      (judge (machine.launched invocation)) machine (machine.runs invocation) := by
  refine ⟨(machine.runs invocation).map Event.ran, ?_, programs_map_ran _⟩
  -- The judgement is pure, so all that happens is the launch.
  show Act.run (launch invocation >>= fun launched => pure (judge launched)) machine = _
  rw [Act.run_bind, run_launch]
  simp

/-- The program ended with one of the statuses, and this is what it printed. -/
inductive Printed (statuses : List Nat) : Except Fault Outcome → String → Prop where
  | exited {outcome : Outcome} {code : Nat} (ending : outcome.ending = .exited code)
      (status : code ∈ statuses) :
      Printed statuses (.ok outcome) (Text.Utf8.lossyText outcome.stdout)

/-- The program could not be run, was ended by a signal, or ended with another status. -/
inductive Failed (statuses : List Nat) : Except Fault Outcome → Prop where
  | unspawned (fault : Fault) : Failed statuses (.error fault)
  | signalled {outcome : Outcome} (ending : outcome.ending = .signalled) :
      Failed statuses (.ok outcome)
  | exited {outcome : Outcome} {code : Nat} (ending : outcome.ending = .exited code)
      (status : code ∉ statuses) : Failed statuses (.ok outcome)

/-- Every launch ends in one of the two ways. -/
theorem printed_or_failed (statuses : List Nat) (launched : Except Fault Outcome) :
    (∃ text, Printed statuses launched text) ∨ Failed statuses launched := by
  -- The cases are those of the two definitions: not run, a signal, a status.
  cases launched with
  | error fault => exact .inr (.unspawned fault)
  | ok outcome =>
    cases hending : outcome.ending with
    | signalled => exact .inr (.signalled hending)
    | exited code =>
      by_cases hstatus : code ∈ statuses
      · exact .inl ⟨_, .exited hending hstatus⟩
      · exact .inr (.exited hending hstatus)

namespace Machine

/-- What a launched program prints, if it ends with one of the statuses. -/
def printed? (machine : Machine) (statuses : List Nat) (invocation : Invocation) :
    Option String :=
  match machine.launched invocation with
  | .error _ => none
  | .ok outcome =>
    match outcome.ending with
    | .signalled => none
    | .exited code =>
      if code ∈ statuses then some (Text.Utf8.lossyText outcome.stdout) else none

theorem printed?_of_printed {machine : Machine} {statuses : List Nat} {invocation : Invocation}
    {text : String} (h : Printed statuses (machine.launched invocation) text) :
    machine.printed? statuses invocation = some text := by
  unfold printed?
  -- The cases are those of the launch, whatever was launched.
  generalize machine.launched invocation = launched at h
  cases h with
  | exited ending status => simp only [ending, if_pos status]

theorem printed?_of_failed {machine : Machine} {statuses : List Nat} {invocation : Invocation}
    (h : Failed statuses (machine.launched invocation)) :
    machine.printed? statuses invocation = none := by
  unfold printed?
  generalize machine.launched invocation = launched at h
  cases h with
  | unspawned fault => rfl
  | signalled ending => simp only [ending]
  | exited ending status => simp only [ending, if_neg status]

theorem printed?_eq_some_iff {machine : Machine} {statuses : List Nat} {invocation : Invocation}
    {text : String} :
    machine.printed? statuses invocation = some text
      ↔ Printed statuses (machine.launched invocation) text := by
  refine ⟨fun h => ?_, printed?_of_printed⟩
  -- A launch that failed prints nothing, so this one printed something.
  rcases printed_or_failed statuses (machine.launched invocation) with ⟨other, hother⟩ | hfailed
  · rw [printed?_of_printed hother] at h
    exact Option.some.inj h ▸ hother
  · rw [printed?_of_failed hfailed] at h
    cases h

theorem printed?_eq_none_iff {machine : Machine} {statuses : List Nat}
    {invocation : Invocation} :
    machine.printed? statuses invocation = none
      ↔ Failed statuses (machine.launched invocation) := by
  refine ⟨fun h => ?_, printed?_of_failed⟩
  -- The two ways exclude each other, so what is not printed has failed.
  rcases printed_or_failed statuses (machine.launched invocation) with ⟨text, hprinted⟩ | hfailed
  · rw [printed?_of_printed hprinted] at h
    cases h
  · exact hfailed

end Machine

/-- A program that printed something was run. -/
theorem Printed.runs {machine : Machine} {invocation : Invocation} {statuses : List Nat}
    {text : String} (h : Printed statuses (machine.launched invocation) text) :
    machine.runs invocation = [invocation] := by
  unfold Machine.runs
  generalize machine.launched invocation = launched at h
  cases h with
  | exited _ _ => rfl

end Host

end ChangeLint
