import ChangeLint.Yaml.Event
import ChangeLint.Yaml.Scanner

/-! # From tokens to events

The grammar of YAML as a machine with a stack.  A *state* says what is expected next, and the
stack holds the states to return to after the current node.  Every step gives one event.

Nodes, keys and values may be empty; then the event of an empty scalar is given.  In a flow
sequence an entry `key: value` is a mapping of its own. -/

namespace ChangeLint.Yaml

/-! ## Section 1: The machine -/

/-- What is expected next. -/
inductive State where
  /-- The first document, which may begin without a line of its own. -/
  | firstDocument
  /-- A further document, or the end of the text. -/
  | nextDocument
  /-- The content of a document after the line that begins it. -/
  | documentContent
  | documentEnd
  | node
  | blockSequenceStart
  | blockSequenceEntry
  /-- An entry of a block sequence that is indented like the mapping around it. -/
  | flatSequenceEntry
  | blockMappingStart
  | blockMappingKey
  | blockMappingValue
  | flowSequenceStart
  | flowSequenceEntry
  | flowPairKey
  | flowPairValue
  | flowPairEnd
  | flowMappingStart
  | flowMappingKey
  | flowMappingValue
  /-- The value of a key in a flow mapping that stands alone. -/
  | flowMappingNoValue
  | done
  deriving DecidableEq, Repr

/-- The machine between two events. -/
structure Machine where
  tokens : List Token
  /-- The fault that ends the tokens. -/
  fault : Option Fault
  state : State
  stack : List State
  /-- Where the open collections start, the innermost first. -/
  starts : List Mark
  /-- What the handles of tags stand for. -/
  handles : List (List UInt8 × List UInt8)
  deriving Repr

namespace Machine

/-- The machine before the first event. -/
def start (stream : TokenStream) : Machine where
  tokens := stream.tokens
  fault := stream.fault
  state := .firstDocument
  stack := []
  starts := []
  handles := []

/-- An event, and the machine after it. -/
abbrev Step : Type := Except Fault (Event × Machine)

/-- The next token, or the fault that stands in its place. -/
def peek (m : Machine) : Except Fault Token :=
  match m.tokens with
  | token :: _ => .ok token
  | [] => .error (m.fault.getD default)

/-- The machine after the next token. -/
def skip (m : Machine) : Machine := { m with tokens := m.tokens.tail }

/-- The machine in another state. -/
def goto (m : Machine) (state : State) : Machine := { m with state }

/-- The machine that will return to a state. -/
def returningTo (m : Machine) (state : State) : Machine := { m with stack := state :: m.stack }

/-- The machine back in the state it is to return to. -/
def back (m : Machine) : Machine :=
  match m.stack with
  | state :: stack => { m with state, stack }
  | [] => { m with state := .done }

/-- The machine with a collection more. -/
def enter (m : Machine) (mark : Mark) : Machine := { m with starts := mark :: m.starts }

/-- The machine with a collection less. -/
def leave (m : Machine) : Machine := { m with starts := m.starts.tail }

/-- Gives an event. -/
def emit (m : Machine) (kind : EventKind) (mark : Mark) : Step := .ok (⟨kind, mark⟩, m)

/-- Gives an empty scalar and goes to a state. -/
def emitEmpty (m : Machine) (mark : Mark) (state : State) : Step :=
  .ok (.emptyScalar mark, m.goto state)

/-- A fault in the innermost collection. -/
def faultInside (m : Machine) (construct problem : String) (mark : Mark) : Fault :=
  ⟨problem, mark, some (construct, m.starts.headD .start), 0⟩

/-! ## Section 2: Directives -/

/-- The handles that every document has. -/
def standardHandles : List (List UInt8 × List UInt8) :=
  [(Property.bang, Property.bang),
    (Text.Utf8.encode ['!', '!'],
      Text.Utf8.encode ['t', 'a', 'g', ':', 'y', 'a', 'm', 'l', '.', 'o', 'r', 'g', ',', '2',
        '0', '0', '2', ':'])]

/-- The machine with the standard handles, unless they stand for something else. -/
def withStandardHandles (m : Machine) : Machine :=
  { m with
    handles := m.handles
      ++ standardHandles.filter fun handle => !(m.handles.any (·.1 == handle.1)) }

/-- Takes in the directives before a document, whose tokens are given. -/
def directives (versionSeen : Bool) : List Token → Machine → Except Fault Machine
  | ⟨.versionDirective major minor, mark, _⟩ :: tokens, m =>
    if versionSeen then .error ⟨"found duplicate %YAML directive", mark, none, 0⟩
    else if major = 1 ∧ (minor = 1 ∨ minor = 2) then directives true tokens m.skip
    else .error ⟨"found incompatible YAML document", mark, none, 0⟩
  | ⟨.tagDirective handle start, mark, _⟩ :: tokens, m =>
    if m.handles.any (·.1 == handle) then
      .error ⟨"found duplicate %TAG directive", mark, none, 0⟩
    else
      directives versionSeen tokens
        { m.skip with handles := m.handles ++ [(handle, Property.untilZero start)] }
  | _, m => .ok m.withStandardHandles

/-! ## Section 3: Documents -/

/-- The machine after the tokens that end documents. -/
def skipDocumentEnds (m : Machine) : Machine :=
  { m with tokens := m.tokens.dropWhile (·.kind == .documentEnd) }

/-- Does a token begin a document with directives or a line of its own? -/
def beginsExplicitly : TokenKind → Bool
  | .versionDirective _ _ | .tagDirective _ _ | .documentStart => true
  | _ => false

/-- A document that begins with directives or a line of its own. -/
def explicitDocument (m : Machine) : Step := do
  let mark := (← m.peek).start
  let m ← directives false m.tokens m
  let token ← m.peek
  if token.kind = .documentStart then
    ((m.skip.returningTo .documentEnd).goto .documentContent).emit .documentStart mark
  else throw ⟨"did not find expected <document start>", token.start, none, 0⟩

/-- The end of the text. -/
def streamEnd (m : Machine) (token : Token) : Step :=
  (m.skip.goto .done).emit .streamEnd token.start

/-- The first document, which may begin with its content. -/
def firstDocument (m : Machine) : Step := do
  let token ← m.peek
  if token.kind = .streamEnd then m.streamEnd token
  else if beginsExplicitly token.kind then m.explicitDocument
  else
    ((m.withStandardHandles.returningTo .documentEnd).goto .node).emit .documentStart token.start

/-- A further document, which must begin explicitly. -/
def nextDocument (m : Machine) : Step := do
  let m := m.skipDocumentEnds
  let token ← m.peek
  if token.kind = .streamEnd then m.streamEnd token else m.explicitDocument

/-- The end of a document. -/
def documentEnd (m : Machine) : Step := do
  let token ← m.peek
  let m := if token.kind = .documentEnd then m.skip else m
  -- Handles are those of one document.
  ({ m with handles := [] }.goto .nextDocument).emit .documentEnd token.start

/-! ## Section 4: Nodes -/

/-- A tag as it is written, with its place. -/
abbrev WrittenTag : Type := List UInt8 × List UInt8 × Mark

/-- Takes the next token if it is an anchor. -/
def takeAnchor (m : Machine) : Except Fault (Option (List Char) × Machine) := do
  match (← m.peek).kind with
  | .anchor name => pure (some name, m.skip)
  | _ => pure (none, m)

/-- Takes the next token if it is a tag. -/
def takeTag (m : Machine) : Except Fault (Option WrittenTag × Machine) := do
  let token ← m.peek
  match token.kind with
  | .tag handle rest => pure (some (handle, rest, token.start), m.skip)
  | _ => pure (none, m)

/-- Takes an anchor and a tag, in either order. -/
def takeProperties (m : Machine) :
    Except Fault (Option (List Char) × Option WrittenTag × Machine) := do
  let (anchor, m) ← m.takeAnchor
  let (tag, m) ← m.takeTag
  if anchor.isSome then pure (anchor, tag, m)
  else
    if tag.isSome then
      let (anchor, m) ← m.takeAnchor
      pure (anchor, tag, m)
    else pure (none, none, m)

/-- The tag that a written one stands for. -/
def resolveTag (m : Machine) (start : Mark) (written : WrittenTag) :
    Except Fault (List UInt8) :=
  let (handle, rest, mark) := written
  let rest := Property.untilZero rest
  if handle.isEmpty then .ok rest
  else
    match m.handles.find? (·.1 == handle) with
    | some (_, whole) => .ok (whole ++ rest)
    | none =>
      .error ⟨"found undefined tag handle", mark, some ("while parsing a node", start), 0⟩

/-- Where a node may stand: in a block, in a block where an entry of a flat sequence may follow,
or in a flow collection. -/
inductive Surroundings where
  | block
  | blockOrFlat
  | flow
  deriving DecidableEq, Repr

/-- The content of a node after its properties. -/
def nodeContent (m : Machine) (around : Surroundings) (start : Mark)
    (properties : Properties) : Step := do
  let token ← m.peek
  let inBlock := around != .flow
  match token.kind with
  | .blockEntry =>
    if around = .blockOrFlat then
      return ← (m.goto .flatSequenceEntry).emit (.sequenceStart properties) start
  | .scalar text style =>
    return ← m.back.skip.emit (.scalar properties text style) start
  | .flowSequenceStart =>
    return ← (m.goto .flowSequenceStart).emit (.sequenceStart properties) start
  | .flowMappingStart =>
    return ← (m.goto .flowMappingStart).emit (.mappingStart properties) start
  | .blockSequenceStart =>
    if inBlock then
      return ← (m.goto .blockSequenceStart).emit (.sequenceStart properties) start
  | .blockMappingStart =>
    if inBlock then
      return ← (m.goto .blockMappingStart).emit (.mappingStart properties) start
  | _ => pure ()
  -- A name or a tag alone stands for an empty scalar.
  if properties.anchor.isSome || properties.tag.isSome then
    m.back.emit (.scalar properties [] .plain) start
  else
    let construct := if inBlock then "while parsing a block node" else "while parsing a flow node"
    throw ⟨"did not find expected node content", token.start, some (construct, start), 0⟩

/-- A node.  A fault in the token after its properties is noticed before an unknown handle in
them. -/
def node (m : Machine) (around : Surroundings) : Step := do
  let token ← m.peek
  match token.kind with
  | .alias name => m.back.skip.emit (.alias name) token.start
  | _ =>
    let (anchor, written, m) ← m.takeProperties
    -- This only looks whether there is a token.
    let _ ← m.peek
    let tag ← written.mapM (m.resolveTag token.start)
    m.nodeContent around token.start ⟨anchor, tag⟩

/-- The content of a document, which may be empty. -/
def documentContent (m : Machine) : Step := do
  let token ← m.peek
  match token.kind with
  | .versionDirective _ _ | .tagDirective _ _ | .documentStart | .documentEnd | .streamEnd =>
    .ok (.emptyScalar token.start, m.back)
  | _ => m.node .block

/-! ## Section 5: Block collections -/

/-- The node after an indicator, or an empty scalar where a token ends it. -/
def nodeOrEmpty (m : Machine) (ends : TokenKind → Bool) (mark : Mark) (around : Surroundings)
    (next : State) : Step := do
  let token ← m.peek
  if ends token.kind then m.emitEmpty mark next else (m.returningTo next).node around

/-- Does a token end an entry of a block sequence? -/
def endsBlockEntry : TokenKind → Bool
  | .blockEntry | .blockEnd => true
  | _ => false

/-- Does a token end an entry of a flat sequence? -/
def endsFlatEntry : TokenKind → Bool
  | .blockEntry | .blockEnd | .key | .value => true
  | _ => false

/-- Does a token end a key or value of a block mapping? -/
def endsBlockPart : TokenKind → Bool
  | .key | .value | .blockEnd => true
  | _ => false

/-- An entry or the end of a block sequence. -/
def blockSequenceEntry (m : Machine) : Step := do
  let token ← m.peek
  match token.kind with
  | .blockEntry => m.skip.nodeOrEmpty endsBlockEntry token.stop .block .blockSequenceEntry
  | .blockEnd => m.back.leave.skip.emit .sequenceEnd token.start
  | _ =>
    throw (m.faultInside "while parsing a block collection"
      "did not find expected '-' indicator" token.start)

/-- An entry or the end of a flat sequence. -/
def flatSequenceEntry (m : Machine) : Step := do
  let token ← m.peek
  match token.kind with
  | .blockEntry => m.skip.nodeOrEmpty endsFlatEntry token.stop .block .flatSequenceEntry
  | _ => m.back.emit .sequenceEnd token.start

/-- A key or the end of a block mapping. -/
def blockMappingKey (m : Machine) : Step := do
  let token ← m.peek
  match token.kind with
  | .key => m.skip.nodeOrEmpty endsBlockPart token.stop .blockOrFlat .blockMappingValue
  | .blockEnd => m.back.leave.skip.emit .mappingEnd token.start
  | _ =>
    throw (m.faultInside "while parsing a block mapping" "did not find expected key"
      token.start)

/-- A value of a block mapping, which may be missing. -/
def blockMappingValue (m : Machine) : Step := do
  let token ← m.peek
  match token.kind with
  | .value => m.skip.nodeOrEmpty endsBlockPart token.stop .blockOrFlat .blockMappingKey
  | _ => m.emitEmpty token.start .blockMappingKey

/-! ## Section 6: Flow collections -/

/-- The machine after the comma before an entry that is not the first one. -/
def afterComma (m : Machine) (first : Bool) (construct problem : String) :
    Except Fault Machine := do
  let token ← m.peek
  if first then pure m
  else if token.kind = .flowEntry then pure m.skip
  else throw (m.faultInside construct problem token.start)

/-- The end of a flow sequence. -/
def flowSequenceEnd (m : Machine) (token : Token) : Step :=
  m.back.leave.skip.emit .sequenceEnd token.start

/-- An entry or the end of a flow sequence. -/
def flowSequenceEntry (m : Machine) (first : Bool) : Step := do
  let token ← m.peek
  if token.kind = .flowSequenceEnd then m.flowSequenceEnd token
  else
    let m ← m.afterComma first "while parsing a flow sequence"
      "did not find expected ',' or ']'"
    let token ← m.peek
    match token.kind with
    | .key => (m.skip.goto .flowPairKey).emit (.mappingStart .none) token.start
    | .flowSequenceEnd => m.flowSequenceEnd token
    | _ => (m.returningTo .flowSequenceEntry).node .flow

/-- The key of a pair in a flow sequence.  The token that follows an empty key is passed over,
whatever it is. -/
def flowPairKey (m : Machine) : Step := do
  let token ← m.peek
  match token.kind with
  | .value | .flowEntry | .flowSequenceEnd => m.skip.emitEmpty token.stop .flowPairValue
  | _ => (m.returningTo .flowPairValue).node .flow

/-- The value of a pair in a flow sequence, which may be missing. -/
def flowPairValue (m : Machine) : Step := do
  let token ← m.peek
  match token.kind with
  | .value =>
    let m := m.skip
    let token ← m.peek
    match token.kind with
    | .flowEntry | .flowSequenceEnd => m.emitEmpty token.start .flowPairEnd
    | _ => (m.returningTo .flowPairEnd).node .flow
  | _ => m.emitEmpty token.start .flowPairEnd

/-- The end of a pair in a flow sequence. -/
def flowPairEnd (m : Machine) : Step := do
  let token ← m.peek
  (m.goto .flowSequenceEntry).emit .mappingEnd token.start

/-- The end of a flow mapping. -/
def flowMappingEnd (m : Machine) (token : Token) : Step :=
  m.back.leave.skip.emit .mappingEnd token.start

/-- A key or the end of a flow mapping. -/
def flowMappingKey (m : Machine) (first : Bool) : Step := do
  let token ← m.peek
  if token.kind = .flowMappingEnd then m.flowMappingEnd token
  else
    let m ← m.afterComma first "while parsing a flow mapping"
      "did not find expected ',' or '\x7d'"
    let token ← m.peek
    match token.kind with
    | .key =>
      let m := m.skip
      let token ← m.peek
      match token.kind with
      | .value | .flowEntry | .flowMappingEnd => m.emitEmpty token.start .flowMappingValue
      | _ => (m.returningTo .flowMappingValue).node .flow
    | .flowMappingEnd => m.flowMappingEnd token
    | _ => (m.returningTo .flowMappingNoValue).node .flow

/-- A value of a flow mapping, which may be missing. -/
def flowMappingValue (m : Machine) : Step := do
  let token ← m.peek
  match token.kind with
  | .value =>
    let m := m.skip
    let token ← m.peek
    match token.kind with
    | .flowEntry | .flowMappingEnd => m.emitEmpty token.start .flowMappingKey
    | _ => (m.returningTo .flowMappingKey).node .flow
  | _ => m.emitEmpty token.start .flowMappingKey

/-- The value of a key that stands alone in a flow mapping. -/
def flowMappingNoValue (m : Machine) : Step := do
  let token ← m.peek
  m.emitEmpty token.start .flowMappingKey

/-! ## Section 7: Running -/

/-- The machine after the mark that opens a collection. -/
def opened (m : Machine) : Except Fault Machine := do
  let token ← m.peek
  pure (m.skip.enter token.start)

/-- Gives the next event. -/
def step (m : Machine) : Step :=
  match m.state with
  | .firstDocument => m.firstDocument
  | .nextDocument => m.nextDocument
  | .documentContent => m.documentContent
  | .documentEnd => m.documentEnd
  | .node => m.node .block
  | .blockSequenceStart => do (← m.opened).blockSequenceEntry
  | .blockSequenceEntry => m.blockSequenceEntry
  | .flatSequenceEntry => m.flatSequenceEntry
  | .blockMappingStart => do (← m.opened).blockMappingKey
  | .blockMappingKey => m.blockMappingKey
  | .blockMappingValue => m.blockMappingValue
  | .flowSequenceStart => do (← m.opened).flowSequenceEntry true
  | .flowSequenceEntry => m.flowSequenceEntry false
  | .flowPairKey => m.flowPairKey
  | .flowPairValue => m.flowPairValue
  | .flowPairEnd => m.flowPairEnd
  | .flowMappingStart => do (← m.opened).flowMappingKey true
  | .flowMappingKey => m.flowMappingKey false
  | .flowMappingValue => m.flowMappingValue
  | .flowMappingNoValue => m.flowMappingNoValue
  | .done => .error default

/-- The events from here on, and the fault that ends them if there is one. -/
def run : Nat → Machine → List Event × Option Fault
  | 0, _ => ([], none)
  | fuel + 1, m =>
    if m.state = .done then ([], none)
    else
      match m.step with
      | .error fault => ([], some fault)
      | .ok (event, next) =>
        let (events, fault) := run fuel next
        (event :: events, fault)

end Machine

/-- The events of a text, and the fault that ends them if there is one. -/
structure EventStream where
  events : List Event
  fault : Option Fault
  deriving Repr

/-- The events of a text.  A token gives rise to at most four events. -/
def EventStream.ofText (cs : List Char) : EventStream :=
  let stream := TokenStream.ofText cs
  let machine := Machine.start { stream with tokens := stream.tokens.tail }
  let (events, fault) := machine.run (4 * stream.tokens.length + 8)
  ⟨events, fault⟩

end ChangeLint.Yaml
