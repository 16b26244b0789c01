import ChangeLint.Text.Utf8
import ChangeLint.Yaml.Event
import ChangeLint.Yaml.Written

/-! # Emitting documents

A document is written event by event.  The emitter knows what it waits for, and it refuses an
event that cannot come there.

It writes one document with a mapping whose values are scalars and lists of scalars, as long as
each key fits on the line of its colon.  Other collections, names and tags are refused as well. -/

namespace ChangeLint.Yaml

/-! ## Section 1: The events of a mapping -/

/-- The event for a text. -/
def scalarEvent (text : List Char) : EventKind := .scalar .none text (formOf text)

/-- The events for a value. -/
def Value.events : Value → List EventKind
  | .text chars => [scalarEvent chars]
  | .flag value => [.scalar .none (flagWord value) .plain]
  | .texts elements => .sequenceStart .none :: (elements.map scalarEvent ++ [.sequenceEnd])

/-- The events for the entries of a mapping. -/
def entryEvents (entries : List (List Char × Value)) : List EventKind :=
  entries.flatMap fun entry => scalarEvent entry.1 :: entry.2.events

/-- The events for a document with a mapping. -/
def documentEvents (entries : List (List Char × Value)) : List EventKind :=
  .documentStart :: .mappingStart .none :: (entryEvents entries ++ [.mappingEnd, .documentEnd])

/-! ## Section 2: The emitter -/

/-- What an emitter waits for. -/
inductive Awaited where
  | document
  | root
  | firstKey
  | key
  | value
  | firstElement
  | element
  | documentEnd
  /-- The document was written, and it is the only one. -/
  | nothing
  deriving DecidableEq, Repr

/-- What is said when something else comes. -/
def Awaited.message : Awaited → String
  | document | nothing => "expected DOCUMENT-START or STREAM-END"
  | documentEnd => "expected DOCUMENT-END"
  | root | firstKey | key | value | firstElement | element =>
    "expected SCALAR, SEQUENCE-START, MAPPING-START, or ALIAS"

/-- The longest key on the line of its colon, in bytes. -/
def maxKey : Nat := 128

/-- Does a key fit on the line of its colon? -/
def fitsKey (text : List Char) : Bool :=
  !text.any isBreak && decide ((Text.Utf8.encode text).length ≤ maxKey)

/-- What was written, and what comes next. -/
structure Emitter where
  written : List Char
  awaited : Awaited
  deriving DecidableEq, Repr

namespace Emitter

/-- Nothing is written yet. -/
def start : Emitter := ⟨[], .document⟩

/-- Writes some characters and waits for something else. -/
def put (emitter : Emitter) (text : List Char) (awaited : Awaited) : Emitter :=
  ⟨emitter.written ++ text, awaited⟩

/-- Writes a key and its colon. -/
def putKey (emitter : Emitter) (text : List Char) (form : ScalarStyle) : Except Awaited Emitter :=
  if fitsKey text then .ok (emitter.put (scalarIn form text ++ [':']) .value)
  else .error emitter.awaited

/-- Takes an event, or refuses it and says what was awaited. -/
def emit (emitter : Emitter) (event : EventKind) : Except Awaited Emitter :=
  match emitter.awaited, event with
  | .document, .documentStart => .ok (emitter.put [] .root)
  | .root, .mappingStart ⟨none, none⟩ => .ok (emitter.put [] .firstKey)
  | .firstKey, .scalar ⟨none, none⟩ text form => emitter.putKey text form
  -- Collections without entries are written in braces or brackets.
  | .firstKey, .mappingEnd => .ok (emitter.put ['{', '}', '\n'] .documentEnd)
  | .key, .scalar ⟨none, none⟩ text form => emitter.putKey text form
  | .key, .mappingEnd => .ok (emitter.put [] .documentEnd)
  -- A scalar stands on the line of its key, a list on the lines below.
  | .value, .scalar ⟨none, none⟩ text form => .ok (emitter.put (' ' :: lineIn form text) .key)
  | .value, .sequenceStart ⟨none, none⟩ => .ok (emitter.put [] .firstElement)
  | .firstElement, .scalar ⟨none, none⟩ text form =>
    .ok (emitter.put ('\n' :: '-' :: ' ' :: lineIn form text) .element)
  | .firstElement, .sequenceEnd => .ok (emitter.put [' ', '[', ']', '\n'] .key)
  | .element, .scalar ⟨none, none⟩ text form =>
    .ok (emitter.put ('-' :: ' ' :: lineIn form text) .element)
  | .element, .sequenceEnd => .ok (emitter.put [] .key)
  | .documentEnd, .documentEnd => .ok (emitter.put [] .nothing)
  | awaited, _ => .error awaited

/-- Takes events until one is refused. -/
def run (emitter : Emitter) (events : List EventKind) : Except Awaited Emitter :=
  events.foldlM emit emitter

end Emitter

end ChangeLint.Yaml
