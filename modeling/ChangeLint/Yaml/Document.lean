import ChangeLint.Yaml.Grammar

/-! # Documents

The first document of a text as a list of items, in which every reference to a named node has
been given a number.  The number of a name is the number of different names before it, so
that a name that is given again may share its number with another one; a number leads to the
last node that got it.

A fault ends a document early, and what was read before it stays. -/

namespace ChangeLint.Yaml

/-- What an item of a document is. -/
inductive Node where
  /-- A text without any document. -/
  | void
  /-- The node that a number leads to. -/
  | reference (number : Nat)
  | scalar (tag : Option (List UInt8)) (text : List Char) (style : ScalarStyle)
  | sequenceStart (tag : Option (List UInt8))
  | sequenceEnd
  | mappingStart (tag : Option (List UInt8))
  | mappingEnd
  deriving DecidableEq, Repr

/-- An item of a document and where it starts. -/
structure Item where
  node : Node
  mark : Mark
  deriving DecidableEq, Repr

/-- Why a document is not whole. -/
inductive DocumentFault where
  | text (fault : Fault)
  /-- A reference to a name that was not given. -/
  | unknownAnchor (mark : Mark)
  deriving DecidableEq, Repr

/-- The text shown for a document that is not whole. -/
def DocumentFault.message : DocumentFault → String
  | text fault => fault.text
  | unknownAnchor mark => "unknown anchor" ++ mark.suffix

/-- A document. -/
structure Document where
  items : List Item
  /-- The places of the named nodes among the items, the last one first, by number. -/
  targets : List (Nat × Nat)
  fault : Option DocumentFault
  /-- Does the text go on after it? -/
  hasMore : Bool
  deriving Repr

namespace Document

/-- A document of which some items have been read, the last one first. -/
structure Reader where
  items : List Item
  /-- The numbers of the names. -/
  names : List (List Char × Nat)
  targets : List (Nat × Nat)
  deriving Repr

namespace Reader

/-- Before the first item. -/
def start : Reader := ⟨[], [], []⟩

/-- Names the node that is read next. -/
def name (reader : Reader) (anchor : Option (List Char)) : Reader :=
  match anchor with
  | none => reader
  | some name =>
    let number := reader.names.length
    { reader with
      names := (name, number) :: reader.names.filter (·.1 != name)
      targets := (number, reader.items.length) :: reader.targets }

/-- Adds an item. -/
def push (reader : Reader) (node : Node) (mark : Mark) : Reader :=
  { reader with items := ⟨node, mark⟩ :: reader.items }

/-- The document that was read. -/
def document (reader : Reader) (fault : Option DocumentFault) (hasMore : Bool) : Document where
  items := reader.items.reverse
  targets := reader.targets
  fault := fault
  hasMore := hasMore

end Reader

/-- Does a document or a fault follow? -/
def goesOn (events : List Event) (fault : Option Fault) : Bool :=
  fault.isSome || events.any fun event => event.kind == .documentStart

/-- Reads items up to the end of the document. -/
def readFrom (fault : Option Fault) : List Event → Reader → Document
  | [], reader => reader.document (fault.map .text) false
  | ⟨kind, mark⟩ :: events, reader =>
    match kind with
    | .documentStart => readFrom fault events reader
    | .documentEnd => reader.document none (goesOn events fault)
    | .streamEnd =>
      (if reader.items.isEmpty then reader.push .void mark else reader).document none false
    | .alias name =>
      match reader.names.lookup name with
      | some number => readFrom fault events (reader.push (.reference number) mark)
      | none => reader.document (some (.unknownAnchor mark)) false
    | .scalar properties text style =>
      readFrom fault events
        ((reader.name properties.anchor).push (.scalar properties.tag text style) mark)
    | .sequenceStart properties =>
      readFrom fault events
        ((reader.name properties.anchor).push (.sequenceStart properties.tag) mark)
    | .sequenceEnd => readFrom fault events (reader.push .sequenceEnd mark)
    | .mappingStart properties =>
      readFrom fault events
        ((reader.name properties.anchor).push (.mappingStart properties.tag) mark)
    | .mappingEnd => readFrom fault events (reader.push .mappingEnd mark)

/-- The first document of a text. -/
def ofText (cs : List Char) : Document :=
  let stream := EventStream.ofText cs
  readFrom stream.fault stream.events .start

/-- The items from the node on that a number leads to. -/
def follow (document : Document) (number : Nat) : List Item :=
  match document.targets.lookup number with
  | some place => document.items.drop place
  | none => []

end Document

end ChangeLint.Yaml
