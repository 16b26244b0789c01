import Mathlib.Data.List.Forall2
import ChangeLint.Proofs.Engine.Visits

/-! # Runs side by side

Two runs over worlds of different types are compared step by step: the worlds stay related, the
events are related one by one, and the answers are related or the same failure.

* `Abreast` is the comparison of two attempts, and `Abreast.bind` the rule for a sequence.
* `Tolerance` says what the engine does not see of a set of changed lines: anything but its
  members, up to the message that a file is checked.
* `runWith_abreast` compares two runs whose providers and linters go side by side. -/

namespace ChangeLint

open Report (Sink Style)

/-! ## Section 1: Attempts side by side -/

/-- Both answers are related values, or both are the same failure. -/
inductive AnswersLike (Q : α → β → Prop) : Except Error α → Except Error β → Prop where
  | ok {a : α} {b : β} (related : Q a b) : AnswersLike Q (.ok a) (.ok b)
  | error (error : Error) : AnswersLike Q (.error error) (.error error)

/-- Answers that are related by equality are the same. -/
theorem AnswersLike.eq {a b : Except Error α} (h : AnswersLike Eq a b) : a = b := by
  cases h with
  | ok related => rw [related]
  | error error => rfl

/-- From related worlds on, two attempts give related answers and leave related worlds, and what
they leave behind is related event by event. -/
def Abreast (E : Event → Event → Prop) (R : W → V → Prop) (Q : α → β → Prop)
    (a : Attempt W α) (b : Attempt V β) : Prop :=
  ∀ world other, R world other →
    AnswersLike Q (a.run world).answer (b.run other).answer ∧
      R (a.run world).world (b.run other).world ∧
      List.Forall₂ E (a.run world).events (b.run other).events

namespace Abreast

variable {E : Event → Event → Prop} {R : W → V → Prop} {Q : α → β → Prop}

theorem pure {a : α} {b : β} (h : Q a b) :
    Abreast E R Q (Pure.pure a : Attempt W α) (Pure.pure b : Attempt V β) :=
  fun _ _ hworld => ⟨.ok h, hworld, .nil⟩

theorem throw (error : Error) :
    Abreast E R Q (throw error : Attempt W α) (throw error : Attempt V β) :=
  fun _ _ hworld => ⟨.error error, hworld, .nil⟩

/-- An event that both leave behind. -/
theorem emit {event other : Event} (h : E event other) :
    Abreast E R Eq (.ofAct (Act.emit event) : Attempt W Unit)
      (.ofAct (Act.emit other) : Attempt V Unit) :=
  fun _ _ hworld => ⟨.ok rfl, hworld, .cons h .nil⟩

/-- Attempts that go on side by side after parts that go side by side. -/
theorem bind {a : Attempt W α} {b : Attempt V β} {next : α → Attempt W γ}
    {more : β → Attempt V δ} {Q' : γ → δ → Prop} (h : Abreast E R Q a b)
    (hnext : ∀ x y, Q x y → Abreast E R Q' (next x) (more y)) :
    Abreast E R Q' (a >>= next) (b >>= more) := by
  intro world other hworld
  obtain ⟨hanswer, hbetween, hevents⟩ := h world other hworld
  cases ha : a.run world with
  | mk answer between events =>
    cases hb : b.run other with
    | mk answer' between' events' =>
      rw [ha, hb] at hanswer hbetween hevents
      -- Related answers are of one kind: either both attempts end here or both go on.
      cases hanswer with
      | error error =>
        rw [Attempt.run_bind_of_error ha, Attempt.run_bind_of_error hb]
        exact ⟨.error error, hbetween, hevents⟩
      | ok related =>
        obtain ⟨hlast, hafter, hrest⟩ := hnext _ _ related between between' hbetween
        rw [Attempt.run_bind_of_ok ha, Attempt.run_bind_of_ok hb]
        exact ⟨hlast, hafter, List.rel_append hevents hrest⟩

/-- Attempts in parts of two worlds, if changes to related parts keep the worlds related. -/
theorem within {W' V' : Type} {R' : W' → V' → Prop} {part : W' → W} {put : W → W' → W'}
    {part' : V' → V} {put' : V → V' → V'} {a : Attempt W α} {b : Attempt V β}
    (h : Abreast E R Q a b)
    (hpart : ∀ whole whole', R' whole whole' → R (part whole) (part' whole'))
    (hput : ∀ world world' whole whole', R world world' → R' whole whole' →
      R' (put world whole) (put' world' whole')) :
    Abreast E R' Q (a.within part put) (b.within part' put') := by
  intro whole whole' hwhole
  obtain ⟨hanswer, hworld, hevents⟩ := h _ _ (hpart whole whole' hwhole)
  rw [Attempt.run_within, Attempt.run_within]
  exact ⟨hanswer, hput _ _ _ _ hworld hwhole, hevents⟩

/-- In the same world the same is done. -/
theorem refl (hE : ∀ event, E event event) (attempt : Attempt W α) :
    Abreast E (Eq : W → W → Prop) Eq attempt attempt := by
  intro world other hworld
  subst hworld
  refine ⟨?_, rfl, List.forall₂_same.mpr fun event _ => hE event⟩
  -- The relation of answers has no reflexivity of its own; it is checked for each kind.
  cases (attempt.run world).answer with
  | ok a => exact .ok rfl
  | error error => exact .error error

end Abreast

/-! ## Section 2: Sessions -/

/-- Two sessions in related worlds with the same sink. -/
def Session.Both (R : W → V → Prop) (session : Session W) (other : Session V) : Prop :=
  R session.world other.world ∧ session.sink = other.sink

namespace Abreast

variable {E : Event → Event → Prop} {R : W → V → Prop} {Q : α → β → Prop}

theorem onWorld {a : Attempt W α} {b : Attempt V β} (h : Abreast E R Q a b) :
    Abreast E (Session.Both R) Q (Session.onWorld a) (Session.onWorld b) := by
  unfold Session.onWorld
  exact h.within (fun _ _ hboth => hboth.1) fun _ _ _ _ hworld hboth => ⟨hworld, hboth.2⟩

theorem onSink (hE : ∀ event, E event event) (attempt : Attempt Sink α) :
    Abreast E (Session.Both R) Eq (Session.onSink attempt : Attempt (Session W) α)
      (Session.onSink attempt : Attempt (Session V) α) := by
  unfold Session.onSink
  exact (Abreast.refl hE attempt).within (fun _ _ hboth => hboth.2)
    fun _ _ _ _ hsink hboth => ⟨hboth.1, hsink⟩

theorem ask (hE : ∀ event, E event event) (query : Query) {a : Attempt W α} {b : Attempt V β}
    (h : Abreast E R Q a b) :
    Abreast E (Session.Both R) Q (Session.ask query a) (Session.ask query b) :=
  (Abreast.emit (hE _)).bind fun _ _ _ => h.onWorld

end Abreast

/-! ## Section 3: Providers -/

/-- What may differ between two runs: events, and sets of changed lines with the same members. -/
structure Tolerance (E : Event → Event → Prop) (L : Patch.LineSet → Patch.LineSet → Prop) :
    Prop where
  refl : ∀ event, E event event
  members : ∀ lines others, L lines others → ∀ line, line ∈ lines.toList ↔ line ∈ others.toList
  checking : ∀ file lines others, L lines others →
    E (.logged ⟨.info, .engine, Engine.checkingText file lines⟩)
      (.logged ⟨.info, .engine, Engine.checkingText file others⟩)

/-- Two providers that answer side by side, up to sets of changed lines that are related. -/
structure Vcs.Provider.Abreast (E : Event → Event → Prop)
    (L : Patch.LineSet → Patch.LineSet → Prop) (R : W → V → Prop) (provider : Provider W)
    (other : Provider V) : Prop where
  name : provider.name = other.name
  isUsed : ChangeLint.Abreast E R Eq (.ofAct provider.isUsed) (.ofAct other.isUsed)
  changedFiles : ChangeLint.Abreast E R Eq provider.changedFiles other.changedFiles
  changedLines : ∀ file,
    ChangeLint.Abreast E R L (provider.changedLines file) (other.changedLines file)

section

variable {E : Event → Event → Prop} {L : Patch.LineSet → Patch.LineSet → Prop}
  {R : W → V → Prop} {providers : List (Vcs.Provider W)} {others : List (Vcs.Provider V)}

namespace Vcs.Provider

theorem firstUsed_abreast (hE : ∀ event, E event event)
    (h : List.Forall₂ (Provider.Abreast E L R) providers others) :
    ChangeLint.Abreast E R (Provider.Abreast E L R) (firstUsed providers) (firstUsed others) := by
  induction h with
  | nil => exact .throw .noVcs
  | @cons provider other providers others hfirst _ ih =>
    unfold firstUsed
    rw [hfirst.name]
    refine (Abreast.emit (hE _)).bind fun _ _ _ => hfirst.isUsed.bind ?_
    -- Both answers to the question are the same, so that both runs take the same branch.
    rintro used _ rfl
    cases used with
    | true => exact .pure hfirst
    | false => exact ih

/-- A name is found in both lists at the same place, or in none. -/
theorem find?_abreast (name : String)
    (h : List.Forall₂ (Provider.Abreast E L R) providers others) :
    Option.Rel (Provider.Abreast E L R) (providers.find? (·.name == name))
      (others.find? (·.name == name)) := by
  induction h with
  | nil => exact .none
  | @cons provider other providers others hfirst _ ih =>
    -- Names are the same in both lists, so that both tests agree.
    rw [List.find?_cons, List.find?_cons, hfirst.name]
    split
    · exact .some hfirst
    · exact ih

theorem choose_abreast (hE : ∀ event, E event event) (requested : Option String)
    (h : List.Forall₂ (Provider.Abreast E L R) providers others) :
    ChangeLint.Abreast E R (Provider.Abreast E L R) (choose requested providers)
      (choose requested others) := by
  cases requested with
  | none => exact firstUsed_abreast hE h
  | some name =>
    show ChangeLint.Abreast E R _ (named name providers) (named name others)
    -- Either the name is in both lists or in none; the mixed cases are excluded by the relation.
    have hfound := find?_abreast name h
    unfold named
    cases hp : providers.find? (·.name == name) <;> cases ho : others.find? (·.name == name) <;>
      rw [hp, ho] at hfound <;> cases hfound
    · exact .throw (.unsupportedVcs name)
    case some.some.some hboth => exact .pure hboth

end Vcs.Provider

/-! ## Section 4: The engine -/

namespace Engine

/-- Two engines that differ in the world of their linter only, and lint side by side. -/
structure Abreast (E : Event → Event → Prop) (R : W → V → Prop) (engine : Engine W)
    (other : Engine V) : Prop where
  vcs : engine.vcs = other.vcs
  dir : engine.dir = other.dir
  style : engine.style = other.style
  lint : ∀ file, ChangeLint.Abreast E R Eq (engine.lint file) (other.lint file)

/-- Only the members of a set decide what is kept. -/
theorem kept_of_members {lines others : Patch.LineSet}
    (h : ∀ line, line ∈ lines.toList ↔ line ∈ others.toList) (report : String) :
    Finding.kept lines report = Finding.kept others report := by
  have hcontains : ∀ line, lines.contains line = others.contains line := by
    intro line
    rw [Bool.eq_iff_iff, Patch.LineSet.contains_iff, Patch.LineSet.contains_iff]
    exact h line
  simp only [Finding.kept, hcontains]

variable {engine : Engine W} {other : Engine V} {provider : Vcs.Provider W}
  {another : Vcs.Provider V}

/-- A file is checked side by side. -/
theorem check_abreast (tolerance : Tolerance E L) (hengine : engine.Abreast E R other)
    (hprovider : provider.Abreast E L R another) (file : String) :
    ChangeLint.Abreast E (Session.Both R) Eq (engine.check provider file)
      (other.check another file) := by
  unfold check
  refine ((hprovider.changedLines file).ask tolerance.refl _).bind fun lines others hlines => ?_
  refine (Abreast.emit (tolerance.checking file lines others hlines)).bind fun _ _ _ => ?_
  refine ((hengine.lint file).ask tolerance.refl _).bind ?_
  rintro report _ rfl
  -- From here on the sets are only looked up in, and both runs write the same.
  rw [kept_of_members (tolerance.members lines others hlines) report, hengine.style]
  refine (Abreast.onSink tolerance.refl _).bind fun _ _ _ => ?_
  exact (Abreast.onSink tolerance.refl _).bind fun _ _ _ => .pure rfl

/-- Files are checked side by side, one after the other. -/
theorem checkAll_abreast (tolerance : Tolerance E L) (hengine : engine.Abreast E R other)
    (hprovider : provider.Abreast E L R another) (files : List String) :
    ChangeLint.Abreast E (Session.Both R) Eq (engine.checkAll provider files)
      (other.checkAll another files) := by
  -- By induction on the files; the sessions change, and stay related by the invariant of the
  -- comparison itself.
  induction files with
  | nil => exact .pure rfl
  | cons file files ih =>
    unfold checkAll
    refine (check_abreast tolerance hengine hprovider file).bind ?_
    rintro here _ rfl
    refine ih.bind ?_
    rintro there _ rfl
    exact .pure rfl

theorem runOver_abreast (tolerance : Tolerance E L) (hengine : engine.Abreast E R other)
    (hprovider : provider.Abreast E L R another) :
    ChangeLint.Abreast E (Session.Both R) Eq (engine.runOver provider) (other.runOver another) := by
  unfold runOver
  rw [hprovider.name, hengine.dir]
  refine (Abreast.emit (tolerance.refl _)).bind fun _ _ _ => ?_
  refine (hprovider.changedFiles.ask tolerance.refl _).bind ?_
  -- Both are given the same files.
  rintro files _ rfl
  refine (checkAll_abreast tolerance hengine hprovider files).bind ?_
  rintro total _ rfl
  exact (Abreast.emit (tolerance.refl _)).bind fun _ _ _ => .pure rfl

/-- Whole runs go side by side. -/
theorem runWith_abreast (tolerance : Tolerance E L) (hengine : engine.Abreast E R other)
    (hproviders : List.Forall₂ (Vcs.Provider.Abreast E L R) providers others) :
    ChangeLint.Abreast E (Session.Both R) Eq (engine.runWith providers)
      (other.runWith others) := by
  unfold runWith
  rw [hengine.vcs]
  refine (Vcs.Provider.choose_abreast tolerance.refl other.vcs hproviders).onWorld.bind ?_
  exact fun _ _ hprovider => runOver_abreast tolerance hengine hprovider

end Engine

end

end ChangeLint
