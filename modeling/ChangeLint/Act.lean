import ChangeLint.Error
import ChangeLint.Event

/-! # Acts in a world

An *act* is carried out in a world of some type `W`.  It gives an answer, leaves the world
in some state, and leaves events behind.  An act cannot take back an event: its type lets it
only add some, and acts in sequence add theirs one after the other.

An *attempt* is an act that may fail; what it did before failing stays done. -/

namespace ChangeLint

/-- What comes of an act. -/
structure Reply (W α : Type) where
  answer : α
  world : W
  events : List Event

/-- An act in a world of type `W`. -/
def Act (W α : Type) : Type := W → Reply W α

namespace Act

/-- Carries out an act. -/
def run (act : Act W α) (world : W) : Reply W α := act world

instance : Monad (Act W) where
  map f act := fun world =>
    let reply := act world
    ⟨f reply.answer, reply.world, reply.events⟩
  pure a := fun world => ⟨a, world, []⟩
  bind act next := fun world =>
    let reply := act world
    let rest := next reply.answer reply.world
    ⟨rest.answer, rest.world, reply.events ++ rest.events⟩

@[simp] theorem run_pure (a : α) (world : W) :
    (pure a : Act W α).run world = ⟨a, world, []⟩ := rfl

@[simp] theorem run_bind (act : Act W α) (next : α → Act W β) (world : W) :
    (act >>= next).run world =
      let reply := act.run world
      let rest := (next reply.answer).run reply.world
      ⟨rest.answer, rest.world, reply.events ++ rest.events⟩ := rfl

@[simp] theorem run_map (f : α → β) (act : Act W α) (world : W) :
    (f <$> act).run world =
      let reply := act.run world
      ⟨f reply.answer, reply.world, reply.events⟩ := rfl

@[ext] theorem ext {a b : Act W α} (h : ∀ world, a.run world = b.run world) : a = b :=
  funext h

/-- Doing nothing before or after an act changes nothing, and grouping does not count. -/
instance : LawfulMonad (Act W) := by
  refine LawfulMonad.mk' (Act W) (fun _ => rfl) (fun _ _ => rfl) (fun act next last => ?_)
    (fun _ _ => rfl) ?_ ?_ (fun f act => ?_) (fun _ _ => rfl)
  · apply Act.ext; intro world; simp
  · intros; rfl
  · intros; rfl
  · apply Act.ext; intro world; simp

/-- Leaves an event behind. -/
def emit (event : Event) : Act W Unit := fun world => ⟨(), world, [event]⟩

/-- Logs a message. -/
def log (level : Level) (speaker : Speaker) (text : String) : Act W Unit :=
  emit (.logged ⟨level, speaker, text⟩)

/-- The world as it is. -/
def look : Act W W := fun world => ⟨world, world, []⟩

/-- Carries out an act in a part of the world. -/
def within (part : S → W) (put : W → S → S) (act : Act W α) : Act S α := fun whole =>
  let reply := act (part whole)
  ⟨reply.answer, put reply.world whole, reply.events⟩

end Act

/-- An act that may fail. -/
abbrev Attempt (W : Type) : Type → Type := ExceptT Error (Act W)

namespace Attempt

/-- Carries out an attempt. -/
def run (attempt : Attempt W α) (world : W) : Reply W (Except Error α) :=
  Act.run (ExceptT.run attempt) world

/-- The attempt that is this act. -/
def mk (act : Act W (Except Error α)) : Attempt W α := ExceptT.mk act

/-- The attempt that carries out an act, which cannot fail. -/
def ofAct (act : Act W α) : Attempt W α := ExceptT.lift act

/-- The attempt that comes to what is known already. -/
def ofExcept (result : Except Error α) : Attempt W α := mk (pure result)

/-- Carries out an attempt in a part of the world. -/
def within (part : S → W) (put : W → S → S) (attempt : Attempt W α) : Attempt S α :=
  mk (Act.within part put (ExceptT.run attempt))

@[simp] theorem run_pure (a : α) (world : W) :
    Attempt.run (pure a) world = ⟨.ok a, world, []⟩ := rfl

@[simp] theorem run_ofExcept (result : Except Error α) (world : W) :
    Attempt.run (ofExcept result) world = ⟨result, world, []⟩ := rfl

@[simp] theorem run_throw (error : Error) (world : W) :
    Attempt.run (throw error : Attempt W α) world = ⟨.error error, world, []⟩ := rfl

/-- An attempt followed by another stops at the failure of the first. -/
theorem run_bind (attempt : Attempt W α) (next : α → Attempt W β) (world : W) :
    Attempt.run (attempt >>= next) world =
      let reply := attempt.run world
      match reply.answer with
      | .error error => ⟨.error error, reply.world, reply.events⟩
      | .ok a =>
        let rest := (next a).run reply.world
        ⟨rest.answer, rest.world, reply.events ++ rest.events⟩ := by
  simp only [Attempt.run, ExceptT.run_bind, Act.run_bind]
  split <;> rename_i h <;> simp [h]

/-- An act by itself does not fail. -/
theorem run_ofAct (act : Act W α) (world : W) :
    Attempt.run (ofAct act) world =
      let reply := act.run world
      ⟨.ok reply.answer, reply.world, reply.events⟩ := by
  rfl

end Attempt

end ChangeLint
