import ChangeLint.Proofs.Engine.Abreast
import ChangeLint.Proofs.Patch.Joining
import ChangeLint.Proofs.Patch.OneFile
import ChangeLint.Proofs.Program.Steps

/-! # The order of the files in a diff

The changed lines of a file are put together from all entries of its diff, and no order of these
entries is better than another.  Here the order is left open: before a run it is settled for each
diff, by a `Walk`, in which order its entries will be gone through.

* `Changes.merged` has the same members in all orders.
* `Config.processWalked` is a run in which the orders are given, one for each diff.
* `processWalked_same_in_all_orders` says that the orders can be seen in one kind of message
  only. -/

namespace ChangeLint

open Host (Machine)
open Patch (Changes LineSet)
open Report (Sink)

/-! ## Section 1: Sets put together in some order -/

namespace Patch

/-- For all changes an order of their entries. -/
structure Walk where
  arrange : Changes → Changes
  perm : ∀ changes, (arrange changes).entries.Perm changes.entries

namespace Walk

/-- The order in which the entries were made. -/
def asFound : Walk := ⟨id, fun changes => .refl changes.entries⟩

/-- The last entry first. -/
def backwards : Walk := ⟨fun changes => ⟨changes.entries.reverse⟩, fun changes =>
  List.reverse_perm changes.entries⟩

variable (walk : Walk) (changes : Changes)

/-- A line is a member if it is one of some entry. -/
theorem mem_toList_merged {line : String} :
    line ∈ (walk.arrange changes).merged.toList ↔
      ∃ entry ∈ changes.entries, line ∈ entry.2.toList := by
  rw [Changes.mem_toList_merged]
  unfold Changes.Holds
  simp only [(walk.perm changes).mem_iff]

/-- In two orders the same members are found, each once. -/
theorem perm_toList_merged (other : Walk) :
    (walk.arrange changes).merged.toList.Perm (other.arrange changes).merged.toList := by
  -- No set has a member twice, so the same members are a permutation.
  rw [List.perm_ext_iff_of_nodup (LineSet.nodup _) (LineSet.nodup _)]
  intro line
  rw [walk.mem_toList_merged, other.mem_toList_merged]

/-- Of one entry there is one order only. -/
theorem toList_merged_of_single {entry : String × LineSet} (h : changes.entries = [entry]) :
    (walk.arrange changes).merged.toList = entry.2.toList := by
  -- A permutation of one entry is that entry.
  have hentries : (walk.arrange changes).entries = [entry] :=
    List.perm_singleton.mp (h ▸ walk.perm changes)
  have hmerged : (walk.arrange changes).merged = (∅ : LineSet).union entry.2 := by
    rw [Changes.merged, hentries]
    rfl
  rw [hmerged, LineSet.toList_union]
  simp

end Walk

end Patch

open Patch (Walk)

/-! ## Section 2: Runs with given orders -/

/-- A machine, and the orders for the diffs that will be read on it, the next one first. -/
structure Walker where
  machine : Machine
  walks : Nat → Walk

namespace Walker

/-- Carries out an attempt on the machine. -/
def onMachine (attempt : Attempt Machine α) : Attempt Walker α :=
  attempt.within machine fun machine walker => { walker with machine }

/-- The order for the next diff. -/
def nextWalk : Attempt Walker Walk := .mk fun walker =>
  ⟨.ok (walker.walks 0), { walker with walks := fun n => walker.walks (n + 1) }, []⟩

end Walker

/-- The changed lines of a file, put together in the next order. -/
def Vcs.Kind.changedLinesWalked (kind : Kind) (ctx : Context) (file : String) :
    Attempt Walker LineSet := do
  let output ← Walker.onMachine (kind.command ctx (kind.diff ctx.commits file)).run
  let walk ← Walker.nextWalk
  pure (walk.arrange (Changes.ofDiff output.stdout)).merged

/-- The provider that asks a system and goes through the entries of each diff in the next
order. -/
def Vcs.Kind.providerWalked (ctx : Context) (kind : Kind) : Provider Walker where
  name := kind.name
  isUsed := Act.within Walker.machine (fun machine walker => { walker with machine })
    (kind.isUsed ctx)
  changedFiles := Walker.onMachine (kind.changedFiles ctx)
  changedLines := kind.changedLinesWalked ctx

namespace Config

/-- The engine that works as the configuration says, where the orders are given. -/
def engineWalked (config : Config) (linter : Linter) (dir : String) : Engine Walker where
  vcs := config.vcs
  dir := dir
  style := ⟨config.theme, .ofFlag config.standardOutput⟩
  lint file := Walker.onMachine (linter.lint file)

/-- Checks all changed files, where the orders are given. -/
def processWalked (config : Config) (linter : Linter) (dir : String) :
    Attempt (Session Walker) Bool :=
  match Vcs.Include.ofPatterns config.patterns with
  | .error error => throw error
  | .ok filter =>
    (config.engineWalked linter dir).runWith
      (Vcs.Kind.all.map (Vcs.Kind.providerWalked (config.context filter dir)))

end Config

/-! ## Section 3: What orders change -/

/-- The same event, or the message that a file is checked with its lines in another order. -/
inductive Event.Reordered : Event → Event → Prop where
  | same (event : Event) : Reordered event event
  | checking (file : String) {lines others : LineSet}
      (perm : lines.toList.Perm others.toList) :
      Reordered (.logged ⟨.info, .engine, Engine.checkingText file lines⟩)
        (.logged ⟨.info, .engine, Engine.checkingText file others⟩)

/-- Sets may differ in the order of their members. -/
theorem tolerance_reordered :
    Tolerance Event.Reordered fun lines others => lines.toList.Perm others.toList where
  refl := .same
  members _ _ h _ := h.mem_iff
  checking file _ _ h := .checking file h

/-- Nothing may differ. -/
theorem tolerance_eq : Tolerance Eq Eq where
  refl _ := rfl
  members := by
    rintro lines _ rfl line
    exact Iff.rfl
  checking := by
    rintro file lines _ rfl
    rfl

/-- Only messages differ. -/
theorem Event.deeds_eq_of_reordered {events others : List Event}
    (h : List.Forall₂ Event.Reordered events others) : deeds events = deeds others := by
  -- By induction on the traces, which differ in messages only, and no message is a deed.
  induction h with
  | nil => rfl
  | @cons event other events others hfirst _ ih =>
    cases hfirst with
    | same event => cases event <;> simp [ih]
    | checking file perm => simp [ih]

/-- Attempts on the machine go side by side, if the machines are the same and the orders stay
related. -/
theorem Walker.onMachine_abreast {E : Event → Event → Prop} (hE : ∀ event, E event event)
    (attempt : Attempt Machine α) :
    Abreast E (fun walker other : Walker => walker.machine = other.machine) Eq
      (onMachine attempt) (onMachine attempt) := by
  unfold onMachine
  exact (Abreast.refl hE attempt).within (fun _ _ hsame => hsame) fun _ _ _ _ hafter _ => hafter

namespace Vcs.Kind

/-- In two orders the same lines are found. -/
theorem changedLinesWalked_abreast (kind : Kind) (ctx : Context) (file : String) :
    Abreast Event.Reordered (fun walker other : Walker => walker.machine = other.machine)
      (fun lines others => lines.toList.Perm others.toList)
      (kind.changedLinesWalked ctx file) (kind.changedLinesWalked ctx file) := by
  unfold changedLinesWalked
  -- The diff is the same in both runs; from here on the orders part.
  refine (Walker.onMachine_abreast .same _).bind ?_
  rintro output _ rfl
  -- The two orders have nothing to do with each other.
  have hwalk : Abreast Event.Reordered
      (fun walker other : Walker => walker.machine = other.machine) (fun _ _ => True)
      Walker.nextWalk Walker.nextWalk := fun _ _ hsame => ⟨.ok trivial, hsame, .nil⟩
  exact hwalk.bind fun walk other _ => .pure (walk.perm_toList_merged _ other)

theorem providerWalked_abreast (ctx : Context) (kind : Kind) :
    Provider.Abreast Event.Reordered (fun lines others => lines.toList.Perm others.toList)
      (fun walker other : Walker => walker.machine = other.machine)
      (kind.providerWalked ctx) (kind.providerWalked ctx) where
  name := rfl
  isUsed := Walker.onMachine_abreast .same (Attempt.ofAct (kind.isUsed ctx))
  changedFiles := Walker.onMachine_abreast .same _
  changedLines := kind.changedLinesWalked_abreast ctx

end Vcs.Kind

/-! ## Section 4: Entries in the order in which they were made -/

/-- The machine of a walker that goes through all entries in the order in which they were
made. -/
def Walker.GoesAsFound (walker : Walker) (machine : Machine) : Prop :=
  walker.machine = machine ∧ ∀ n, walker.walks n = .asFound

theorem Walker.onMachine_asFound (attempt : Attempt Machine α) :
    Abreast Eq Walker.GoesAsFound Eq (onMachine attempt) attempt := by
  intro walker machine h
  obtain ⟨rfl, hwalks⟩ := h
  obtain ⟨hanswer, _, hevents⟩ :=
    Abreast.refl (fun _ => rfl) attempt walker.machine walker.machine rfl
  exact ⟨hanswer, ⟨rfl, hwalks⟩, hevents⟩

/-- Then a provider answers as it does where no order is given. -/
theorem Vcs.Kind.providerWalked_asFound (ctx : Context) (kind : Kind) :
    Provider.Abreast Eq Eq Walker.GoesAsFound (kind.providerWalked ctx) (kind.provider ctx) where
  name := rfl
  isUsed := Walker.onMachine_asFound (Attempt.ofAct (kind.isUsed ctx))
  changedFiles := Walker.onMachine_asFound _
  changedLines := by
    intro file
    refine (Walker.onMachine_asFound _).bind (a := Walker.onMachine _) ?_
    rintro output _ rfl
    intro walker machine h
    -- The next order is the one in which the entries were made, and so are all behind it.
    have hfirst : (walker.walks 0).arrange = id := by
      rw [h.2 0]
      rfl
    refine ⟨.ok ?_, ⟨h.1, fun n => h.2 (n + 1)⟩, .nil⟩
    show ((walker.walks 0).arrange _).merged = _
    rw [hfirst]
    rfl

namespace Config

section

variable (config : Config) (linter : Linter) (dir : String)

theorem processWalked_asFound :
    Abreast Eq (Session.Both Walker.GoesAsFound) Eq (config.processWalked linter dir)
      (config.process linter dir) := by
  unfold processWalked process
  cases Vcs.Include.ofPatterns config.patterns with
  | error error => exact .throw error
  | ok filter =>
    have hengine : Engine.Abreast Eq Walker.GoesAsFound (config.engineWalked linter dir)
        (config.engine linter dir) :=
      ⟨rfl, rfl, rfl, fun file => Walker.onMachine_asFound (linter.lint file)⟩
    -- Both engines are asked by the same providers, of which one keeps the orders besides.
    refine Engine.runWith_abreast tolerance_eq hengine ?_
    exact List.forall₂_map_left_iff.mpr (List.forall₂_map_right_iff.mpr
      (List.forall₂_same.mpr fun kind _ => kind.providerWalked_asFound _))

theorem processWalked_abreast :
    Abreast Event.Reordered
      (Session.Both fun walker other : Walker => walker.machine = other.machine) Eq
      (config.processWalked linter dir) (config.processWalked linter dir) := by
  unfold processWalked
  -- The patterns are read before any diff is.
  cases Vcs.Include.ofPatterns config.patterns with
  | error error => exact .throw error
  | ok filter =>
    have hengine : Engine.Abreast Event.Reordered
        (fun walker other : Walker => walker.machine = other.machine)
        (config.engineWalked linter dir) (config.engineWalked linter dir) :=
      ⟨rfl, rfl, rfl, fun file => Walker.onMachine_abreast .same (linter.lint file)⟩
    refine Engine.runWith_abreast tolerance_reordered hengine ?_
    exact List.forall₂_map_left_iff.mpr (List.forall₂_map_right_iff.mpr
      (List.forall₂_same.mpr fun kind _ => kind.providerWalked_abreast _))

/-- In whatever orders the entries of a diff are gone through, the same lines are found, each of
them once, and in the order of the entry if there is only one.  Two runs that differ in these
orders give the same answer, leave the same on the sink, ask the same questions and run the same
programs, and their traces differ in the lists of lines in the messages that files are checked.
If all entries are gone through in the order in which they were made, the run is the one for which
no order is given. -/
theorem processWalked_same_in_all_orders (machine : Machine) (sink : Sink) :
    (∀ (diff : String) (walk other : Walk),
      let changes := Changes.ofDiff diff
      let lines := (walk.arrange changes).merged
      let others := (other.arrange changes).merged
      (∀ line, line ∈ lines.toList ↔ ∃ entry ∈ changes.entries, line ∈ entry.2.toList) ∧
        (∀ line, line ∈ lines.toList ↔ line ∈ others.toList) ∧
        lines.toList.Nodup ∧ others.toList.Nodup ∧ lines.size = others.size ∧
        (changes.entries.length ≤ 1 → ∀ entry ∈ changes.entries,
          lines.toList = entry.2.toList)) ∧
    let run := fun walks => (config.processWalked linter dir).run ⟨⟨machine, walks⟩, sink⟩
    let reply := (config.process linter dir).run ⟨machine, sink⟩
    (∀ walks others : Nat → Walk,
      (run walks).answer = (run others).answer ∧
        (run walks).world.sink = (run others).world.sink ∧
        Event.deeds (run walks).events = Event.deeds (run others).events ∧
        List.Forall₂ Event.Reordered (run walks).events (run others).events) ∧
    (run fun _ => .asFound).answer = reply.answer ∧
      (run fun _ => .asFound).world.sink = reply.world.sink ∧
      (run fun _ => .asFound).events = reply.events := by
  refine ⟨?_, ?_⟩
  · intro diff walk other changes lines others
    have hperm : lines.toList.Perm others.toList := walk.perm_toList_merged changes other
    refine ⟨fun _ => walk.mem_toList_merged changes, fun _ => hperm.mem_iff, lines.nodup,
      others.nodup, hperm.length_eq, ?_⟩
    intro hshort entry hentry
    -- There is an entry, and no more than one.
    have hone : changes.entries.length = 1 := by
      have hsome := List.length_pos_of_mem hentry
      omega
    obtain ⟨single, hsingle⟩ := List.length_eq_one_iff.mp hone
    rw [hsingle, List.mem_singleton] at hentry
    exact hentry ▸ walk.toList_merged_of_single changes hsingle
  · intro run reply
    refine ⟨?_, ?_⟩
    · intro walks others
      -- The two runs go side by side from machines that are the same.
      obtain ⟨hanswer, ⟨_, hsink⟩, hevents⟩ := config.processWalked_abreast linter dir
        ⟨⟨machine, walks⟩, sink⟩ ⟨⟨machine, others⟩, sink⟩ ⟨rfl, rfl⟩
      exact ⟨hanswer.eq, hsink, Event.deeds_eq_of_reordered hevents, hevents⟩
    · obtain ⟨hanswer, ⟨_, hsink⟩, hevents⟩ := config.processWalked_asFound linter dir
        ⟨⟨machine, fun _ => .asFound⟩, sink⟩ ⟨machine, sink⟩ ⟨⟨rfl, fun _ => rfl⟩, rfl⟩
      exact ⟨hanswer.eq, hsink, List.forall₂_eq_eq_eq ▸ hevents⟩

end

/-! A diff that shows two files for one, with a line number in common. -/

namespace TwoFiles

def diff : String :=
  "--- a/x.py\n+++ b/x.py\n@@ -1,0 +2,2 @@\n+y\n+z\n"
    ++ "--- a/sub/x.py\n+++ b/sub/x.py\n@@ -1,0 +3,2 @@\n+z\n+u\n"

def single : String := "--- a/x.py\n+++ b/x.py\n@@ -1,0 +2,2 @@\n+y\n+z\n"

def git (args : List String) : Host.Outcome :=
  if "--name-only" ∈ args then ⟨Text.Utf8.bytes "x.py\n", [], .exited 0⟩
  else ⟨Text.Utf8.bytes diff, [], .exited 0⟩

def report : String := "x.py:4:1: E1 a\nx.py:2:1: E2 b\nx.py:5:1: E3 c\n"

def machine : Machine where
  tree := ⟨[(["w"], .directory), (["w", "x.py"], .file [] .refused), (["bin"], .directory),
    (["bin", "git"], .file [] (.runs git)),
    (["bin", "flake8"], .file [] (.runs fun _ => ⟨Text.Utf8.bytes report, [], .exited 1⟩))]⟩
  workingDir := "/w"
  searchPath := ["/bin"]
  workingDir_absolute := Host.isAbsolute_sample

def config : Config := { theme := .off, patterns := [] }

def linter : Linter := ⟨"/bin/flake8", [], "/w"⟩

/-- The run in which all entries are gone through in one order. -/
def run (walk : Walk) : Reply (Session Walker) (Except Error Bool) :=
  (config.processWalked linter "/w").run ⟨⟨machine, fun _ => walk⟩, .unlimited⟩

/-- What was listed to be checked. -/
def checked (walk : Walk) : List String :=
  (Verbosity.verbose.log (run walk).events).map LogEntry.text

end TwoFiles

theorem processWalked_same_in_all_orders_twofold :
    (Walk.asFound.arrange (Changes.ofDiff TwoFiles.diff)).merged.toList = ["2", "3", "4"] ∧
      (Walk.backwards.arrange (Changes.ofDiff TwoFiles.diff)).merged.toList = ["3", "4", "2"] ∧
      (Walk.backwards.arrange (Changes.ofDiff TwoFiles.single)).merged.toList = ["2", "3"] ∧
      TwoFiles.checked .asFound ≠ TwoFiles.checked .backwards ∧
      (TwoFiles.run .asFound).answer = .ok false ∧
      (TwoFiles.run .backwards).answer = .ok false ∧
      (TwoFiles.run .backwards).world.sink = (TwoFiles.run .asFound).world.sink := by
  obtain ⟨hlines, hruns, _⟩ := processWalked_same_in_all_orders TwoFiles.config TwoFiles.linter "/w"
    TwoFiles.machine .unlimited
  obtain ⟨_, _, _, _, _, hsingle⟩ := hlines TwoFiles.single .backwards .asFound
  obtain ⟨hanswer, hsink, _⟩ := hruns (fun _ => .backwards) fun _ => .asFound
  have hfirst : (TwoFiles.run .asFound).answer = .ok false := by decide +kernel
  refine ⟨by decide +kernel, by decide +kernel, ?_, by decide +kernel, hfirst, ?_, hsink⟩
  -- Of one entry there is only one order, which the general statement gives.
  · have hentries : (Changes.ofDiff TwoFiles.single).entries
        = [("x.py", .ofList ["2", "3"])] := by decide +kernel
    rw [hentries] at hsingle
    exact (hsingle (Nat.le_refl 1) _ (List.mem_singleton.mpr rfl)).trans (by decide +kernel)
  · exact hanswer.trans hfirst

end Config

end ChangeLint
