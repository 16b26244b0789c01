import ChangeLint.Yaml.Token

/-! # Events

The events of a YAML text say what its documents are made of: scalars, the starts and ends of
collections, and references to nodes that were given a name. -/

namespace ChangeLint.Yaml

/-- What stands before a node: a name for it, and its tag. -/
structure Properties where
  anchor : Option (List Char)
  tag : Option (List UInt8)
  deriving DecidableEq, Repr

/-- No name and no tag. -/
def Properties.none : Properties := ⟨Option.none, Option.none⟩

/-- What an event says. -/
inductive EventKind where
  | documentStart
  | documentEnd
  | streamEnd
  | alias (name : List Char)
  | scalar (properties : Properties) (text : List Char) (style : ScalarStyle)
  | sequenceStart (properties : Properties)
  | sequenceEnd
  | mappingStart (properties : Properties)
  | mappingEnd
  deriving DecidableEq, Repr

/-- An event and where it starts. -/
structure Event where
  kind : EventKind
  mark : Mark
  deriving DecidableEq, Repr

/-- A scalar that is not written at all. -/
def Event.emptyScalar (mark : Mark) : Event := ⟨.scalar .none [] .plain, mark⟩

end ChangeLint.Yaml
