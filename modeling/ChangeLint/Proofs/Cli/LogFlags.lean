import ChangeLint.Cli.Arguments
import ChangeLint.Proofs.Text.Reading

/-! # The flags that show the log

Two flags of a command line only say how much of the log is shown.

* `SaysSame` relates command lines that say the same but for these flags.
* `run_withLog` says that no other argument depends on them.
* `saysSame_flags` puts them into any command line: behind whatever is accepted by itself, they
  change nothing else. -/

namespace ChangeLint.Cli

/-! ## Section 1: What the flags leave alone -/

namespace Options

/-- The options with these flags for the log in the place of theirs. -/
def withLog (verbose debug : Bool) (options : Options) : Options := { options with verbose, debug }

/-- The options without what they say about the log. -/
def unlogged (options : Options) : Options := options.withLog false false

end Options

/-- Two command lines say the same but for the flags for the log: both are accepted with the same
other options, or both are answered by the same text. -/
def SaysSame (args others : List String) : Prop :=
  (Options.ofArgs args).map Options.unlogged = (Options.ofArgs others).map Options.unlogged

namespace Reader

/-- The reader with these flags for the log in the place of those that it has read. -/
def withLog (verbose debug : Bool) (reader : Reader) : Reader :=
  { reader with options := reader.options.withLog verbose debug }

/-- Does an argument name one of the flags, perhaps joined with others? -/
def namesLogFlag : List Char → Bool
  | '-' :: '-' :: name => String.ofList name == "verbose" || String.ofList name == "debug"
  | '-' :: shorts => shorts.contains 'v'
  | _ => false

/-- Is the argument taken as one of the flags? -/
def takesLogFlag (reader : Reader) (arg : String) : Bool :=
  !reader.onlyCommits && reader.waiting != some .linterOptions && namesLogFlag arg.toList

/-- None of the arguments is taken as one of the flags. -/
def FreeOfLog (reader : Reader) : List String → Prop
  | [] => True
  | arg :: args => reader.takesLogFlag arg = false ∧
      ∀ next, reader.step arg = .ok next → next.FreeOfLog args

/-! ## Section 2: Steps of the reader -/

variable {reader : Reader} {verbose debug : Bool}

theorem setValue_withLog (options : Options) (option : Valued) (value : String) :
    setValue (options.withLog verbose debug) option value
      = (setValue options option value).map (Options.withLog verbose debug) := by
  obtain ⟨_, vcs, linterOptions, _, theme, linter, _, configPath, _, _⟩ := options
  -- No value is one of the flags, and whether one is given twice is asked of its own field.
  cases option with
  | vcs => cases vcs <;> rfl
  | linterOptions => cases linterOptions <;> rfl
  | linter => cases linter <;> rfl
  | pattern => rfl
  | configPath =>
    cases configPath with
    | some path => rfl
    | none =>
      simp only [setValue, Options.withLog, once]
      cases value.isEmpty <;> rfl
  | theme =>
    cases theme with
    | some chosen => rfl
    | none =>
      simp only [setValue, Options.withLog, once]
      cases Report.Theme.ofName? value <;> rfl

theorem settle_withLog :
    (reader.withLog verbose debug).settle = reader.settle.map (withLog verbose debug) := by
  obtain ⟨options, begun, onlyCommits⟩ := reader
  cases begun with
  | none => rfl
  | some begun =>
    obtain ⟨option, value⟩ := begun
    cases value with
    | none => rfl
    | some value =>
      -- Only here a value is judged, and that does not look at the flags.
      simp only [settle, withLog]
      rw [setValue_withLog]
      cases setValue options option value <;> rfl

theorem setFlag_withLog {flag : Flag} (hverbose : flag ≠ .verbose) (hdebug : flag ≠ .debug)
    (full : Bool) :
    (reader.withLog verbose debug).setFlag flag full
      = (reader.setFlag flag full).map (withLog verbose debug) := by
  unfold setFlag
  rw [settle_withLog]
  cases reader.settle with
  | error stop => rfl
  | ok settled =>
    -- The two flags for the log are the only ones that would find theirs given already.
    cases flag with
    | verbose => exact absurd rfl hverbose
    | debug => exact absurd rfl hdebug
    | help => rfl
    | version => rfl
    | standardOutput =>
      obtain ⟨⟨_, _, _, standardOutput, _, _, _, _, _, _⟩, _, _⟩ := settled
      cases standardOutput <;> rfl

/-- A flag that is found by a name has that name. -/
theorem name_of_ofName? {name : String} {flag : Flag} (h : Opt.ofName? name = some (.flag flag)) :
    flag.name = name := by
  unfold Opt.ofName? at h
  -- An option with a value is looked for first.
  cases hvalued : Valued.all.find? (·.name == name) with
  | some option =>
    rw [hvalued] at h
    cases h
  | none =>
    rw [hvalued] at h
    obtain ⟨found, hfound, heq⟩ := Option.map_eq_some_iff.mp h
    cases heq
    have hname := List.find?_some hfound
    simpa using hname

theorem long_withLog {name : String} {value : Option String}
    (h : value = none → name ≠ "verbose" ∧ name ≠ "debug") :
    (reader.withLog verbose debug).long name value
      = (reader.long name value).map (withLog verbose debug) := by
  unfold long
  cases hopt : Opt.ofName? name with
  | none => rfl
  | some opt =>
    -- A flag has no value, and only then its name must be another one.
    cases opt with
    | flag flag =>
      cases value with
      | some value => rfl
      | none =>
        have hname := name_of_ofName? hopt
        obtain ⟨hverbose, hdebug⟩ := h rfl
        apply setFlag_withLog
        · rintro rfl
          exact hverbose hname.symm
        · rintro rfl
          exact hdebug hname.symm
    | valued option =>
      cases value with
      | none =>
        simp only [settle_withLog]
        cases reader.settle <;> rfl
      | some value =>
        simp only [settle_withLog]
        cases reader.settle with
        | error stop => rfl
        | ok settled =>
          have hset : setValue (settled.options.withLog verbose debug) option value = _ :=
            setValue_withLog settled.options option value
          show (setValue (settled.options.withLog verbose debug) option value).bind _
            = ((setValue settled.options option value).bind _).map _
          rw [hset]
          cases setValue settled.options option value <;> rfl

theorem shorts_withLog {cs : List Char} (h : cs.contains 'v' = false) :
    (reader.withLog verbose debug).shorts cs
      = (reader.shorts cs).map (withLog verbose debug) := by
  -- By induction on the letters, each of which is a flag of its own.
  induction cs generalizing reader with
  | nil => rfl
  | cons c cs ih =>
    simp only [List.contains_cons, Bool.or_eq_false_iff] at h
    unfold shorts
    cases hflag : Flag.ofShort? c with
    | none => rfl
    | some flag =>
      have hshort : flag.short = some c := by
        have hfound := List.find?_some hflag
        simpa using hfound
      have hset : (reader.withLog verbose debug).setFlag flag false
          = (reader.setFlag flag false).map (withLog verbose debug) := by
        apply setFlag_withLog
        · rintro rfl
          cases hshort
          exact absurd h.1 (by decide)
        · rintro rfl
          cases hshort
      show ((reader.withLog verbose debug).setFlag flag false).bind _
        = ((reader.setFlag flag false).bind _).map _
      rw [hset]
      cases reader.setFlag flag false with
      | error stop => rfl
      | ok next => exact ih h.2

theorem commit_withLog (arg : String) :
    (reader.withLog verbose debug).commit arg
      = (reader.commit arg).map (withLog verbose debug) := by
  unfold commit
  rw [settle_withLog]
  cases reader.settle <;> rfl

theorem plain_withLog (arg : String) :
    (reader.withLog verbose debug).plain arg
      = (reader.plain arg).map (withLog verbose debug) := by
  have hwaiting : (reader.withLog verbose debug).waiting = reader.waiting := rfl
  unfold plain
  rw [hwaiting]
  cases reader.waiting with
  | some option => rfl
  | none => exact commit_withLog arg

theorem option_withLog {arg : String} (h : namesLogFlag arg.toList = false) :
    (reader.withLog verbose debug).option arg
      = (reader.option arg).map (withLog verbose debug) := by
  unfold option
  -- A double dash, a long name, short flags, and what is no option.
  split
  · rfl
  · next rest _ harg =>
    rw [harg] at h
    simp only [namesLogFlag, Bool.or_eq_false_iff, beq_eq_false_iff_ne] at h
    split
    · exact long_withLog nofun
    · exact long_withLog fun _ => h
  · next c cs _ hdash harg =>
    rw [harg] at h
    apply shorts_withLog
    unfold namesLogFlag at h
    split at h
    · next heq => exact (hdash (List.cons.inj (List.cons.inj heq).2).1).elim
    · next heq =>
      cases heq
      exact h
    · next hno => exact absurd rfl (hno _)
  · exact plain_withLog arg

/-- No argument but the flags themselves depends on what is said about the log. -/
theorem step_withLog {arg : String} (h : reader.takesLogFlag arg = false) :
    (reader.withLog verbose debug).step arg
      = (reader.step arg).map (withLog verbose debug) := by
  have honly : (reader.withLog verbose debug).onlyCommits = reader.onlyCommits := rfl
  have hwaiting : (reader.withLog verbose debug).waiting = reader.waiting := rfl
  unfold step
  rw [honly, hwaiting]
  -- Behind a double dash, and where a value is waited for, an argument is not taken as a flag.
  by_cases hcommits : reader.onlyCommits = true
  · rw [if_pos hcommits, if_pos hcommits]
    exact commit_withLog arg
  · rw [if_neg hcommits, if_neg hcommits]
    by_cases hvalue : reader.waiting = some .linterOptions
    · rw [if_pos hvalue, if_pos hvalue]
      exact plain_withLog arg
    · rw [if_neg hvalue, if_neg hvalue]
      have hnames : namesLogFlag arg.toList = false := by
        simpa [takesLogFlag, hcommits, hvalue] using h
      exact option_withLog hnames

/-- What is said about the log stays what it is when other arguments are read. -/
theorem run_withLog {args : List String} (h : reader.FreeOfLog args) :
    (reader.withLog verbose debug).run args
      = (reader.run args).map (withLog verbose debug) := by
  -- By induction on the arguments; `FreeOfLog` goes along with the reader.
  induction args generalizing reader with
  | nil => rfl
  | cons arg args ih =>
    obtain ⟨harg, hargs⟩ := h
    show ((reader.withLog verbose debug).step arg).bind _ = ((reader.step arg).bind _).map _
    rw [step_withLog harg]
    cases hstep : reader.step arg with
    | error stop => rfl
    | ok next => exact ih (hargs next hstep)

/-! ## Section 3: Values that are judged later -/

/-- Reads all arguments and judges the last value. -/
def finish (reader : Reader) (args : List String) : Except Stop Reader := do
  let last ← reader.run args
  last.settle

theorem finish_append (front back : List String) :
    reader.finish (front ++ back) = (reader.run front).bind fun next => next.finish back := by
  unfold finish run
  rw [List.foldlM_append]
  show ((front.foldlM step reader).bind _).bind _ = _
  cases front.foldlM step reader <;> rfl

/-- A reader that has judged everything waits for nothing. -/
theorem settle_settled {settled : Reader} (h : reader.settle = .ok settled) :
    settled.begun = none ∧ reader.waiting = none ∧ settled.onlyCommits = reader.onlyCommits := by
  obtain ⟨options, begun, onlyCommits⟩ := reader
  -- Nothing was begun, a value is missing, or it is judged now.
  cases begun with
  | none =>
    cases h
    exact ⟨rfl, rfl, rfl⟩
  | some begun =>
    obtain ⟨option, value⟩ := begun
    cases value with
    | none => cases h
    | some value =>
      simp only [settle] at h
      cases hset : setValue options option value with
      | error stop =>
        rw [hset] at h
        cases h
      | ok next =>
        rw [hset] at h
        cases h
        exact ⟨rfl, rfl, rfl⟩

theorem settle_of_begun (h : reader.begun = none) : reader.settle = .ok reader := by
  unfold settle
  rw [h]

/-- Judging does not depend on whether only revisions follow. -/
theorem settle_onlyCommits {settled : Reader} (h : reader.settle = .ok settled) (only : Bool) :
    ({ reader with onlyCommits := only } : Reader).settle
      = .ok { settled with onlyCommits := only } := by
  obtain ⟨options, begun, onlyCommits⟩ := reader
  cases begun with
  | none =>
    cases h
    rfl
  | some begun =>
    obtain ⟨option, value⟩ := begun
    cases value with
    | none => cases h
    | some value =>
      simp only [settle] at h ⊢
      cases hset : setValue options option value with
      | error stop =>
        rw [hset] at h
        cases h
      | ok next =>
        rw [hset] at h
        cases h
        rfl

section

variable {settled : Reader}

theorem commit_of_settle (h : reader.settle = .ok settled) (arg : String) :
    settled.commit arg = reader.commit arg := by
  unfold commit
  rw [h, settle_of_begun (settle_settled h).1]

theorem setFlag_of_settle (h : reader.settle = .ok settled) (flag : Flag) (full : Bool) :
    settled.setFlag flag full = reader.setFlag flag full := by
  unfold setFlag
  rw [h, settle_of_begun (settle_settled h).1]

theorem long_of_settle (h : reader.settle = .ok settled) (name : String)
    (value : Option String) : settled.long name value = reader.long name value := by
  unfold long
  simp only [h, settle_of_begun (settle_settled h).1, setFlag_of_settle h]

theorem shorts_of_settle (h : reader.settle = .ok settled) (c : Char) (cs : List Char) :
    settled.shorts (c :: cs) = reader.shorts (c :: cs) := by
  unfold shorts
  simp only [setFlag_of_settle h]

/-- Every argument has a good value judged, except for the one behind which only revisions
follow. -/
theorem step_of_settle (h : reader.settle = .ok settled) (arg : String) :
    settled.step arg = reader.step arg ∨
      ∃ next after, reader.step arg = .ok next ∧ settled.step arg = .ok after ∧
        next.settle = .ok after := by
  obtain ⟨hbegun, hnone, honly⟩ := settle_settled h
  have hwaiting : settled.waiting = none := by
    unfold waiting
    rw [hbegun]
  have hplain : settled.plain arg = reader.plain arg := by
    unfold plain
    rw [hwaiting, hnone]
    exact commit_of_settle h arg
  -- Both readers take the same way, since what is waited for is nothing in either.
  unfold step
  rw [hwaiting, hnone, honly]
  by_cases hcommits : reader.onlyCommits = true
  · rw [if_pos hcommits, if_pos hcommits]
    exact .inl (commit_of_settle h arg)
  · rw [if_neg hcommits, if_neg hcommits, if_neg (by simp), if_neg (by simp)]
    unfold option
    split
    -- A double dash judges nothing, so the value is left to what follows.
    · exact .inr ⟨_, _, rfl, rfl, settle_onlyCommits h true⟩
    · split
      · exact .inl (long_of_settle h ..)
      · exact .inl (long_of_settle h ..)
    · exact .inl (shorts_of_settle h ..)
    · exact .inl hplain

/-- It makes no difference for what follows that a good value is judged at once. -/
theorem finish_of_settle (h : reader.settle = .ok settled) (args : List String) :
    settled.finish args = reader.finish args := by
  -- By induction on the arguments: the two readers are one, or differ still by a judgement.
  induction args generalizing reader settled with
  | nil =>
    show settled.settle = reader.settle
    rw [h, settle_of_begun (settle_settled h).1]
  | cons arg args ih =>
    show ((settled.step arg).bind _).bind _ = ((reader.step arg).bind _).bind _
    rcases step_of_settle h arg with hstep | ⟨next, after, hnext, hafter, hsettle⟩
    · rw [hstep]
    · rw [hnext, hafter]
      exact ih hsettle

end

/-! ## Section 4: Flags on a command line -/

theorem finish_withLog {args : List String} (h : reader.FreeOfLog args) :
    (reader.withLog verbose debug).finish args
      = (reader.finish args).map (withLog verbose debug) := by
  unfold finish
  rw [run_withLog h]
  cases reader.run args with
  | error stop => rfl
  | ok last => exact settle_withLog

theorem FreeOfLog.of_append {front back : List String} (h : reader.FreeOfLog (front ++ back)) :
    reader.FreeOfLog front ∧ ∀ next, reader.run front = .ok next → next.FreeOfLog back := by
  -- By induction on the front: if it is refused, nothing is said of what is behind it.
  induction front generalizing reader with
  | nil =>
    refine ⟨trivial, ?_⟩
    intro next hrun
    cases hrun
    exact h
  | cons arg front ih =>
    obtain ⟨harg, hfront⟩ := h
    refine ⟨⟨harg, fun next hstep => (ih (hfront next hstep)).1⟩, ?_⟩
    intro last hrun
    cases hstep : reader.step arg with
    | error stop =>
      have herror : reader.run (arg :: front) = .error stop := by
        show (reader.step arg).bind _ = _
        rw [hstep]
        rfl
      rw [herror] at hrun
      cases hrun
    | ok next =>
      have hrest : reader.run (arg :: front) = next.run front := by
        show (reader.step arg).bind _ = _
        rw [hstep]
        rfl
      rw [hrest] at hrun
      exact (ih (hfront next hstep)).2 last hrun

end Reader

/-- All ways to give some of the flags. -/
def logFlags : List (List String) :=
  [[], ["-v"], ["--verbose"], ["--debug"], ["-v", "--debug"], ["--verbose", "--debug"],
    ["--debug", "-v"], ["--debug", "--verbose"]]

/-- Flags that are read where nothing is waited for. -/
theorem run_flags {reader : Reader} {flags : List String} (hflags : flags ∈ logFlags)
    (hbegun : reader.begun = none) (honly : reader.onlyCommits = false)
    (hlog : reader.withLog false false = reader) :
    ∃ verbose debug, reader.run flags = .ok (reader.withLog verbose debug) := by
  obtain ⟨options, begun, onlyCommits⟩ := reader
  subst hbegun honly
  rw [← hlog]
  simp only [logFlags, List.mem_cons, List.not_mem_nil, or_false] at hflags
  -- The ways are few, and each is read from options that are variables.
  rcases hflags with rfl | rfl | rfl | rfl | rfl | rfl | rfl | rfl
  · exact ⟨false, false, rfl⟩
  · exact ⟨true, false, rfl⟩
  · exact ⟨true, false, rfl⟩
  · exact ⟨false, true, rfl⟩
  · exact ⟨true, true, rfl⟩
  · exact ⟨true, true, rfl⟩
  · exact ⟨true, true, rfl⟩
  · exact ⟨true, true, rfl⟩

/-- A command line is accepted as it stands, and options may still follow it. -/
def AdmitsOption (args : List String) : Prop :=
  ∃ reader settled, Reader.start.run args = .ok reader ∧ reader.settle = .ok settled ∧
    reader.onlyCommits = false

theorem ofArgs_eq (args : List String) :
    Options.ofArgs args = (Reader.start.finish args).map Reader.options := by
  show (Reader.start.run args).bind _ = ((Reader.start.run args).bind _).map _
  cases Reader.start.run args with
  | error stop => rfl
  | ok last =>
    show last.settle.bind _ = last.settle.map _
    cases last.settle <;> rfl

/-- Behind whatever is accepted by itself, flags for the log change nothing but what is shown of
it. -/
theorem saysSame_flags {front flags back : List String} (hflags : flags ∈ logFlags)
    (hfree : Reader.start.FreeOfLog (front ++ back)) (hfront : AdmitsOption front) :
    SaysSame (front ++ (flags ++ back)) (front ++ back) := by
  obtain ⟨reader, settled, hrun, hsettle, honly⟩ := hfront
  obtain ⟨hfreeFront, hfreeBack⟩ := hfree.of_append
  obtain ⟨hbegun, _, hsame⟩ := Reader.settle_settled hsettle
  -- No flag was read in front, so that each of them can still be given.
  have hlog : reader.withLog false false = reader := by
    have hstart : (Reader.start.withLog false false).run front = _ :=
      Reader.run_withLog hfreeFront
    rw [hrun] at hstart
    exact (Except.ok.inj (hrun.symm.trans hstart)).symm
  have hlogSettled : settled.withLog false false = settled := by
    have hboth : (reader.withLog false false).settle = _ := Reader.settle_withLog
    rw [hlog, hsettle] at hboth
    exact (Except.ok.inj hboth).symm
  obtain ⟨verbose, debug, hflagged⟩ := run_flags hflags hbegun (hsame.trans honly) hlogSettled
  -- The flags do not bear on the value that is judged behind them.
  have hsettleLog : (reader.withLog verbose debug).settle
      = .ok (settled.withLog verbose debug) := by
    rw [Reader.settle_withLog, hsettle]
    rfl
  have hfinish : reader.finish (flags ++ back)
      = (reader.finish back).map (Reader.withLog verbose debug) := by
    -- The value in front is judged, the flags are read, and the judgement is taken back.
    calc reader.finish (flags ++ back)
        = settled.finish (flags ++ back) := (Reader.finish_of_settle hsettle _).symm
      _ = (settled.withLog verbose debug).finish back := by
          rw [Reader.finish_append, hflagged]
          rfl
      _ = (reader.withLog verbose debug).finish back := Reader.finish_of_settle hsettleLog back
      _ = (reader.finish back).map (Reader.withLog verbose debug) :=
          Reader.finish_withLog (hfreeBack reader hrun)
  unfold SaysSame
  rw [ofArgs_eq, ofArgs_eq, Reader.finish_append, Reader.finish_append, hrun]
  show ((reader.finish (flags ++ back)).map _).map _ = ((reader.finish back).map _).map _
  rw [hfinish]
  cases reader.finish back <;> rfl

end ChangeLint.Cli
