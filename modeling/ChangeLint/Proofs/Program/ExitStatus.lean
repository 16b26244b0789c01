import ChangeLint.Proofs.Program.Course

/-! # What the status for findings says

The status 2 is to say that a finding was kept on a changed line.  For a command line that is
accepted it does (`exitStatus_eq_two_iff_violated`), but a command line that cannot be used is
answered with the same number, so there it says something else
(`findings_status_iff_of_usable`). -/

namespace ChangeLint

open Host (Machine Printed)
open Vcs (Kind Selected)

namespace Program

/-! ## Section 1: The check -/

/-- No failure is reported with the status for findings. -/
theorem exitStatus_eq_findings_iff {answer : Except Error Bool} :
    exitStatus answer = 2 ↔ answer = .ok false := by
  constructor
  · intro h
    match answer with
    | .ok false => rfl
    | .ok true => cases h
    -- No error is answered with 2.
    | .error error => cases error <;> cases h
  · rintro rfl
    rfl

/-- The engine of a run that went through the first stages answers that something was kept. -/
def Violated (options : Cli.Options) (machine : Machine) : Prop :=
  ∃ setup, Ready options machine setup ∧
    ((setup.config.process setup.linter setup.ctx.dir).run ⟨machine, .unlimited⟩).answer
      = .ok false

/-- All files are visited, and a visit finds something on a changed line. -/
inductive Finds (options : Cli.Options) (machine : Machine) : Prop where
  | intro {setup : Setup} {kind : Kind} {probed : List Invocation} {listing : String}
      {visits : List Visit} {visit : Visit} (ready : Ready options machine setup)
      (selected : Selected machine setup.ctx setup.config.vcs kind probed)
      (listed : Printed [0] (machine.launched (kind.listCommand setup.ctx)) listing)
      (order : setup.ctx.accepted machine.tree listing = visits.map Visit.file)
      (made : ∀ visit ∈ visits, setup.Made machine kind visit)
      (mem : visit ∈ visits) (found : visit.kept ≠ [])

section

variable {options : Cli.Options} {machine : Machine}

theorem answer_check_of_ready {setup : Setup} (h : Ready options machine setup) :
    ((check options).run ⟨machine, .unlimited⟩).answer
      = ((setup.config.process setup.linter setup.ctx.dir).run ⟨machine, .unlimited⟩).answer := by
  have hrun := Attempt.gives_self (setup.engine.runWith setup.ctx.providers) ⟨machine, .unlimited⟩
  obtain ⟨events, hcheck, _⟩ := gives_check_of_ready h hrun
  rw [hcheck, process_of_ready h]

theorem answer_check_eq_false_iff_violated :
    ((check options).run ⟨machine, .unlimited⟩).answer = .ok false ↔ Violated options machine := by
  constructor
  · intro h
    rcases ready_or_unready options machine with ⟨setup, ready⟩ | unready
    · exact ⟨setup, ready, (answer_check_of_ready ready).symm.trans h⟩
    -- A check that is not ready fails, and a failure is no answer.
    · obtain ⟨error, _, events, hcheck, _⟩ := gives_check_of_unready unready .unlimited
      rw [hcheck] at h
      cases h
  · rintro ⟨setup, ready, hprocess⟩
    exact (answer_check_of_ready ready).trans hprocess

/-- A course with the status for findings is one in which something is found. -/
theorem finds_of_course {stdout : List UInt8} {programs : List Invocation}
    (h : Course options machine 2 stdout programs) : Finds options machine := by
  -- Only a run that visits all files can have the status 2.
  generalize hstatus : 2 = status at h
  cases h with
  | unready _ => cases hstatus
  | unselected _ _ => cases hstatus
  | unlisted _ _ _ => cases hstatus
  | undiffed _ _ _ _ _ _ => cases hstatus
  | unlinted _ _ _ _ _ _ _ => cases hstatus
  | @finished _ _ _ _ visits ready selected listed order made =>
    by_cases hclean : ∀ visit ∈ visits, visit.kept = []
    · rw [if_pos hclean] at hstatus
      cases hstatus
    · obtain ⟨visit, hvisit⟩ := Classical.not_forall.mp hclean
      obtain ⟨hmem, hkept⟩ := Classical.not_imp.mp hvisit
      exact ⟨ready, selected, listed, order, made, hmem, hkept⟩

theorem answer_check_eq_false_iff_finds :
    ((check options).run ⟨machine, .unlimited⟩).answer = .ok false ↔ Finds options machine := by
  constructor
  · intro h
    obtain ⟨status, stdout, programs, hcourse⟩ := exists_course options machine
    obtain ⟨answer, after, ⟨events, hcheck, _⟩, rfl, _⟩ := gives_check_of_course hcourse
    -- The answer fixes the status, and only the last case of a course has this one.
    rw [hcheck] at h
    rw [exitStatus_eq_findings_iff.mpr h] at hcourse
    exact finds_of_course hcourse
  · rintro ⟨ready, selected, listed, order, made, mem, found⟩
    obtain ⟨answer, after, ⟨events, hcheck, _⟩, hstatus, _⟩ :=
      gives_check_of_course (.finished ready selected listed order made)
    rw [if_neg fun hclean => found (hclean _ mem)] at hstatus
    rw [hcheck]
    exact exitStatus_eq_findings_iff.mp hstatus

end

/-! ## Section 2: The program -/

/-- For a command line that is accepted, the status for findings is the answer of the check. -/
theorem exitStatus_eq_two_iff_violated {args : List String} {options : Cli.Options}
    (machine : Machine) (hargs : Cli.Options.ofArgs args = .ok options) :
    (run args machine).exitStatus = 2 ↔ Violated options machine := by
  unfold run
  rw [hargs, ← answer_check_eq_false_iff_violated]
  exact exitStatus_eq_findings_iff

/-- A command line that cannot be used is answered with the status for findings. -/
theorem exitStatus_of_fault {args : List String} {fault : Cli.Fault} (machine : Machine)
    (hargs : Cli.Options.ofArgs args = .error (.fault fault)) :
    (run args machine).exitStatus = 2 := by
  unfold run
  rw [hargs]
  rfl

/-- The status for findings says that the command line was accepted and something was kept
exactly if the command line can be used: one that cannot is answered with that status, too,
and not with the one for a fault of the user.  That the check answers so means that a visit
found something on a changed line. -/
theorem findings_status_iff_of_usable (args : List String) (machine : Machine) :
    let status := (run args machine).exitStatus
    let violated := ∃ options, Cli.Options.ofArgs args = .ok options ∧ Violated options machine
    ((status = 2 ↔ violated) ↔ ¬ ∃ fault, Cli.Options.ofArgs args = .error (.fault fault)) ∧
      (∀ fault, Cli.Options.ofArgs args = .error (.fault fault) → status = 2) ∧
      (violated ↔ ∃ options, Cli.Options.ofArgs args = .ok options ∧ Finds options machine) := by
  intro status violated
  refine ⟨⟨?_, ?_⟩, fun fault hargs => exitStatus_of_fault machine hargs, ?_⟩
  · rintro hlaw ⟨fault, hfault⟩
    -- If the law held, an unusable command line would have been accepted.
    obtain ⟨options, hargs, _⟩ := hlaw.mp (exitStatus_of_fault machine hfault)
    rw [hfault] at hargs
    cases hargs
  · intro husable
    -- Help and the version stop the program, too, but with the status of success.
    cases hargs : Cli.Options.ofArgs args with
    | error stop =>
      have hviolated : ¬ violated := by
        rintro ⟨options, hok, _⟩
        rw [hargs] at hok
        cases hok
      have hstatus : status = (stopped stop).exitStatus := by
        show (run args machine).exitStatus = _
        rw [run, hargs]
      refine iff_of_false ?_ hviolated
      intro htwo
      have hstopped : (stopped stop).exitStatus = 2 := hstatus.symm.trans htwo
      cases stop with
      | help full => cases hstopped
      | version => cases hstopped
      | fault fault => exact husable ⟨fault, hargs⟩
    | ok options =>
      rw [exitStatus_eq_two_iff_violated machine hargs]
      constructor
      · exact fun h => ⟨options, hargs, h⟩
      · rintro ⟨other, hother, h⟩
        cases hargs.symm.trans hother
        exact h
  · simp only [violated, ← answer_check_eq_false_iff_violated, answer_check_eq_false_iff_finds]

/-- A theme that does not exist is answered with 2 in a directory in which there is nothing to
lint. -/
theorem findings_status_of_unknown_theme :
    let machine : Machine :=
      { tree := ⟨[(["w"], .directory)]⟩, workingDir := "/w", searchPath := []
        workingDir_absolute := Host.isAbsolute_sample }
    let status := (run ["--color", "neon"] machine).exitStatus
    Cli.Options.ofArgs ["--color", "neon"] = .error (.fault (.badValue "neon" .theme)) ∧
      status ≠ 1 ∧
      ¬ (status = 2 ↔ ∃ options, Cli.Options.ofArgs ["--color", "neon"] = .ok options ∧
        Violated options machine) := by
  intro machine status
  have hargs : Cli.Options.ofArgs ["--color", "neon"]
      = .error (.fault (.badValue "neon" .theme)) := rfl
  have htwo : status = 2 := exitStatus_of_fault machine hargs
  refine ⟨hargs, by rw [htwo]; decide, ?_⟩
  intro hlaw
  -- There are no options to go on with.
  obtain ⟨options, hok, _⟩ := hlaw.mp htwo
  rw [hargs] at hok
  cases hok

end Program

end ChangeLint
