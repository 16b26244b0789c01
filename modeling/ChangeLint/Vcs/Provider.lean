import ChangeLint.Act
import ChangeLint.Patch.LineSet

/-! # Providers of changes

A provider answers the three questions that a run has about version control: is it in effect,
which files changed, and which lines of a file changed.  `choose` picks one of several, by
name or by asking each in turn. -/

namespace ChangeLint.Vcs

/-- Answers questions about changes in a world of type `W`. -/
structure Provider (W : Type) where
  name : String
  /-- Is it in effect?  Asking cannot fail. -/
  isUsed : Act W Bool
  /-- The changed files, in the order in which they are listed. -/
  changedFiles : Attempt W (List String)
  /-- The changed lines of a file. -/
  changedLines : String → Attempt W Patch.LineSet

namespace Provider

/-- The first provider that says it is in effect. -/
def firstUsed : List (Provider W) → Attempt W (Provider W)
  | [] => throw .noVcs
  | provider :: providers => do
    Attempt.ofAct (Act.emit (.asked (.isUsed provider.name)))
    let used ← Attempt.ofAct provider.isUsed
    if used then pure provider else firstUsed providers

/-- The provider with a name, which is not asked anything. -/
def named (name : String) (providers : List (Provider W)) : Attempt W (Provider W) :=
  match providers.find? (·.name == name) with
  | some provider => pure provider
  | none => throw (.unsupportedVcs name)

/-- The provider of the requested name, or else the first one in effect. -/
def choose (requested : Option String) (providers : List (Provider W)) :
    Attempt W (Provider W) :=
  match requested with
  | some name => named name providers
  | none => firstUsed providers

end Provider

end ChangeLint.Vcs
