import ChangeLint.Yaml.Document
import ChangeLint.Yaml.PlainValue

/-! # Reading values from documents

Strings, booleans, choices and lists of strings, read from the items of a document.  Every
scalar can be read as a string.  A reference is read as the node that it leads to.

A value of the wrong kind is reported with its path and position.  Some problems are noticed
without a position of their own; these are reported where the whole mapping starts, or, for a
choice that is given by a reference, at the reference. -/

namespace ChangeLint.Yaml

/-! ## Section 1: Paths and faults -/

/-- Where in a document a value stands. -/
inductive Path where
  | root
  | key (name : String)
  /-- Below a key that is not written as a scalar. -/
  | unknownKey
  | element (parent : Path) (index : Nat)
  deriving DecidableEq, Repr

/-- The path as it is shown. -/
def Path.text : Path → String
  | root => "."
  | key name => name
  | unknownKey => "?"
  | element parent index => parent.text ++ "[" ++ Text.Decimal.text index ++ "]"

/-- Why no value can be read. -/
inductive DecodeFault where
  /-- The document ends too early. -/
  | document (fault : DocumentFault)
  /-- Another document follows. -/
  | moreDocuments
  /-- A value is wrong, at a place. -/
  | value (message : String) (path : Path) (mark : Mark)
  /-- A value is wrong, and its place is not known yet. -/
  | unplaced (message : String)
  deriving DecidableEq, Repr

namespace DecodeFault

/-- The text shown for a fault. -/
def message : DecodeFault → String
  | document fault => fault.message
  | moreDocuments =>
    "deserializing from YAML containing more than one document is not supported"
  | value message path mark =>
    (if path.text = "." then "" else path.text ++ ": ") ++ message ++ mark.suffix
  | unplaced message => message

/-- The fault at a place, unless it has one already. -/
def placed (path : Path) (mark : Mark) : DecodeFault → DecodeFault
  | unplaced message => value message path mark
  | other => other

end DecodeFault

/-- What reading gives. -/
abbrev Decoded (α : Type) : Type := Except DecodeFault α

/-! ## Section 2: Tags -/

/-- The tag of a kind of value that YAML knows. -/
def coreTag (name : String) : List UInt8 := Text.Utf8.bytes ("tag:yaml.org,2002:" ++ name)

/-- Is it a tag of an application? -/
def isLocalTag (tag : List UInt8) : Bool := tag.head? == some 0x21

/-- The name in the tag of an application, if it is text.  A lone exclamation mark is its own
name. -/
def localName? : Option (List UInt8) → Option String
  | some [0x21] => some "!"
  | some (0x21 :: rest) => (Text.Utf8.strict? rest).map String.ofList
  | _ => none

/-! ## Section 3: Values of the wrong kind -/

/-- The text shown for a text. -/
def quotedText (text : List Char) : String :=
  "string " ++ String.ofList (Text.Quoted.quote text)

/-- The text shown for what a plain scalar looks like. -/
def plainShown (text : List Char) : PlainValue → String
  | .null => "unit value"
  | .bool true => "boolean `true`"
  | .bool false => "boolean `false`"
  | .int value => PlainValue.intText value
  | .float shown => "floating point `" ++ String.ofList shown ++ "`"
  | .text => quotedText text

/-- The message that something is of the wrong kind. -/
def invalidType (shown expected : String) : String :=
  "invalid type: " ++ shown ++ ", expected " ++ expected

/-- The message that a text does not have the form that its tag demands. -/
def invalidText (text : List Char) (expected : String) : String :=
  "invalid value: " ++ quotedText text ++ ", expected " ++ expected

/-- The message that a scalar is not what was expected. -/
def scalarMismatch (tag : Option (List UInt8)) (text : List Char) (style : ScalarStyle)
    (expected : String) : String :=
  let plain := invalidType (plainShown text (.ofText text)) expected
  let written := invalidType (quotedText text) expected
  let tagged (value? : Option PlainValue) (demanded : String) :=
    match value? with
    | some value => invalidType (plainShown text value) expected
    | none => invalidText text demanded
  match tag with
  | none => if style = .plain then plain else written
  | some tag =>
    if tag = coreTag "bool" then tagged ((PlainValue.bool? text).map .bool) "a boolean"
    else if tag = coreTag "int" then tagged ((PlainValue.int? text).map .int) "an integer"
    else if tag = coreTag "float" then tagged ((PlainValue.float? text).map .float) "a float"
    else if tag = coreTag "null" then
      tagged (if PlainValue.isNull text then some .null else none) "null"
    else if isLocalTag tag && style = .plain then plain
    else written

/-- The message that a node is not what was expected. -/
def Node.mismatch (node : Node) (expected : String) : String :=
  match node with
  | .scalar tag text style => scalarMismatch tag text style expected
  | .sequenceStart _ | .sequenceEnd => invalidType "sequence" expected
  | .mappingStart _ | .mappingEnd => invalidType "map" expected
  | .void | .reference _ => "EOF while parsing a value"

/-- The fault that an item is not what was expected. -/
def Item.wrong (item : Item) (path : Path) (expected : String) : DecodeFault :=
  .value (item.node.mismatch expected) path item.mark

/-! ## Section 4: Single items -/

/-- Reads an item as a string. -/
def Item.string (item : Item) (path : Path) (expected : String) : Decoded String :=
  match item.node with
  | .scalar _ text _ => .ok (String.ofList text)
  | _ => .error (item.wrong path expected)

/-- Reads an item as a boolean, which must not be quoted. -/
def Item.bool (item : Item) (path : Path) : Decoded Bool :=
  match item.node with
  | .scalar tag text style =>
    if style = .plain ∨ (style = .literal ∧ tag = some (coreTag "bool")) then
      match PlainValue.bool? text with
      | some value => .ok value
      | none => .error (item.wrong path "a boolean")
    else .error (item.wrong path "a boolean")
  | _ => .error (item.wrong path "a boolean")

/-- Reads an item as a string that may be missing.  Only a plain scalar may say that it is. -/
def Item.optionalString (item : Item) (path : Path) : Decoded (Option String) :=
  match item.node with
  | .scalar tag text .plain =>
    let given := .ok (some (String.ofList text))
    match tag with
    | none => if text.isEmpty || PlainValue.isNull text then .ok none else given
    | some tag =>
      if tag = coreTag "null" then
        if PlainValue.isNull text then .ok none
        else .error (.unplaced (invalidText text "null"))
      else given
  | .void => .ok none
  | _ => (item.string path "a string").map some

/-- Refuses an item that says more than the name in its tag. -/
def Item.unit (item : Item) (path : Path) : Decoded Unit :=
  match item.node with
  | .scalar _ text style =>
    if style = .plain ∧ (text.isEmpty || PlainValue.isNull text) then .ok ()
    else .error (.value (invalidText text "null") path item.mark)
  | .void => .ok ()
  | _ => .error (item.wrong path "unit")

/-- The message that a choice does not exist. -/
def unknownChoice (name : String) (choices : List String) : String :=
  "unknown variant `" ++ name ++ "`, expected one of "
    ++ ", ".intercalate (choices.map fun choice => "`" ++ choice ++ "`")

/-- Reads an item as one of several names: the name in its tag, or else its text. -/
def Item.choice (item : Item) (path : Path) (choices : List String) : Decoded String :=
  let named (tag : Option (List UInt8)) (otherwise : Decoded String) : Decoded String :=
    match localName? tag with
    | some name => do
      if !choices.contains name then throw (.unplaced (unknownChoice name choices))
      item.unit path
      pure name
    | none => otherwise
  let tagWanted (shown : String) : Decoded String :=
    .error (.value (invalidType shown "a YAML tag starting with '!'") path item.mark)
  match item.node with
  | .scalar tag text _ =>
    named tag
      (if choices.contains (String.ofList text) then .ok (String.ofList text)
       else .error (.value (unknownChoice (String.ofList text) choices) path item.mark))
  | .sequenceStart tag => named tag (tagWanted "sequence")
  | .mappingStart tag => named tag (tagWanted "map")
  | _ => .error (item.wrong path "a YAML tag starting with '!'")

/-! ## Section 5: Items of a document -/

namespace Document

/-- The fault that items are missing. -/
def missing (document : Document) : DecodeFault :=
  match document.fault with
  | some fault => .document fault
  | none => .unplaced "EOF while parsing a value"

/-- The item that stands for an item: the node that a reference leads to, or the item itself. -/
def deref (document : Document) (item : Item) : Item :=
  match item.node with
  | .reference number => (document.follow number).headD item
  | _ => item

/-- The next item, which is the whole of a node if it is a scalar, and the items after it. -/
def one (document : Document) : List Item → Decoded (Item × List Item)
  | [] => .error document.missing
  | item :: rest => .ok (document.deref item, rest)

/-- Reads an item as one of several names.  A name in a tag that a reference leads to is
reported where the reference stands. -/
def choice (document : Document) (path : Path) (choices : List String) (item : Item) :
    Decoded String :=
  match item.node with
  | .reference _ => ((document.deref item).choice path choices).mapError (·.placed path item.mark)
  | _ => item.choice path choices

/-- The items after the next node, inside of some collections. -/
def skipNode (document : Document) (depth : Nat) : List Item → Decoded (List Item)
  | [] => .error document.missing
  | item :: rest =>
    match item.node with
    | .sequenceStart _ | .mappingStart _ => document.skipNode (depth + 1) rest
    | .sequenceEnd | .mappingEnd =>
      if depth ≤ 1 then .ok rest else document.skipNode (depth - 1) rest
    | _ => if depth = 0 then .ok rest else document.skipNode depth rest

/-- Reads strings up to the end of a sequence. -/
def elements (document : Document) (path : Path) (index : Nat) :
    List Item → Decoded (List String × List Item)
  | [] => .error document.missing
  | item :: rest =>
    if item.node = .sequenceEnd then .ok ([], rest)
    else do
      let text ← (document.deref item).string (.element path index) "a string"
      let (texts, rest) ← document.elements path (index + 1) rest
      pure (text :: texts, rest)

/-- Reads a list of strings at an item, with the items after that. -/
def stringsAt (document : Document) (path : Path) (item : Item) (rest : List Item) :
    Decoded (List String × List Item) :=
  match item.node with
  | .sequenceStart _ => document.elements path 0 rest
  | .void => .ok ([], rest)
  | .scalar _ [] .plain => .ok ([], rest)
  | _ => .error (item.wrong path "a sequence")

/-- Reads a list of strings. -/
def strings (document : Document) (path : Path) :
    List Item → Decoded (List String × List Item)
  | [] => .error document.missing
  | item :: rest =>
    match item.node with
    | .reference number =>
      match document.follow number with
      | [] => .error document.missing
      | target :: after => do
        let (texts, _) ← document.stringsAt path target after
        pure (texts, rest)
    | _ => document.stringsAt path item rest

end Document

end ChangeLint.Yaml
