import ChangeLint.Config.Basic
import ChangeLint.Yaml.Decode

/-! # Reading configurations

A configuration is a mapping with a key for each field.  Fields may be left out, keys that are
not known are passed over, and no field may be given twice. -/

namespace ChangeLint

open Yaml (Decoded Document Item Path)

namespace Config

/-- A field of a configuration. -/
inductive Field where
  | vcs
  | linterOptions
  | standardOutput
  | theme
  | linter
  | patterns
  | commits
  deriving DecidableEq, Repr

namespace Field

/-- All fields in the order in which they are written. -/
def all : List Field :=
  [vcs, linterOptions, standardOutput, theme, linter, patterns, commits]

/-- The key of a field. -/
def key : Field → String
  | vcs => "vcs"
  | linterOptions => "flake8_options"
  | standardOutput => "standard_flake8_output"
  | theme => "color_theme"
  | linter => "linter"
  | patterns => "include"
  | commits => "commits"

/-- The field with a key. -/
def ofKey? (key : String) : Option Field := all.find? (·.key == key)

/-- A field is found by its key. -/
@[simp] theorem ofKey?_key (field : Field) : ofKey? field.key = some field := by
  cases field <;> decide

end Field

/-- The configuration with what the next item says, and the items after that.  A reference is
followed first. -/
def readItem (document : Document) (items : List Item) (read : Item → Decoded Config) :
    Decoded (Config × List Item) := do
  let (item, rest) ← document.one items
  let config ← read item
  pure (config, rest)

/-- The configuration with what the next list says, and the items after that. -/
def readList (document : Document) (path : Path) (items : List Item)
    (set : List String → Config) : Decoded (Config × List Item) := do
  let (texts, rest) ← document.strings path items
  pure (set texts, rest)

/-- The next theme, which is one of those that exist, and the items after that. -/
def readTheme (document : Document) (path : Path) :
    List Item → Decoded (Report.Theme × List Item)
  | [] => .error document.missing
  | item :: rest => do
    let name ← document.choice path (Report.Theme.all.map Report.Theme.name) item
    pure ((Report.Theme.ofName? name).getD default, rest)

/-- The configuration with what is said about a field, and the items after that. -/
def readField (document : Document) (path : Path) (config : Config) (field : Field)
    (items : List Item) : Decoded (Config × List Item) :=
  match field with
  | .vcs =>
    readItem document items fun item =>
      (item.optionalString path).map fun vcs => { config with vcs }
  | .linterOptions =>
    readItem document items fun item =>
      (item.optionalString path).map fun linterOptions => { config with linterOptions }
  | .standardOutput =>
    readItem document items fun item =>
      (item.bool path).map fun standardOutput => { config with standardOutput }
  | .theme =>
    (readTheme document path items).map fun (theme, rest) => ({ config with theme }, rest)
  | .linter =>
    readItem document items fun item =>
      (item.string path "a string").map fun linter => { config with linter }
  | .patterns => readList document path items fun patterns => { config with patterns }
  | .commits => readList document path items fun commits => { config with commits }

/-- The path of the value of a key. -/
def valuePath (key : Item) : Path :=
  match key.node with
  | .scalar _ text _ => .key (String.ofList text)
  | _ => .unknownKey

/-- Reads entries up to the end of the mapping, at most `fuel` of them, when some fields have
been read already. -/
def readEntries (document : Document) :
    Nat → List Field → Config → List Item → Decoded Config
  | 0, _, config, _ => .ok config
  | _ + 1, _, _, [] => .error document.missing
  | fuel + 1, seen, config, key :: rest =>
    if key.node = .mappingEnd then .ok config
    else do
      let name ← (document.deref key).string .root "field identifier"
      match Field.ofKey? name with
      | none =>
        let rest ← document.skipNode 0 rest
        readEntries document fuel seen config rest
      | some field =>
        if seen.contains field then throw (.unplaced ("duplicate field `" ++ field.key ++ "`"))
        let (config, rest) ← readField document (valuePath key) config field rest
        readEntries document fuel (field :: seen) config rest

/-- Reads the configuration that a document says. -/
def ofDocument (document : Document) : Decoded Config :=
  match document.items with
  | [] => .error document.missing
  | item :: rest =>
    match item.node with
    | .void => .ok {}
    | .scalar _ [] .plain => .ok {}
    | .mappingStart _ =>
      (readEntries document (rest.length + 1) [] {} rest).mapError (·.placed .root item.mark)
    | _ => .error (item.wrong .root "struct Config")

/-- Reads the configuration in a YAML text, without judging it. -/
def parse (yaml : String) : Decoded Config := do
  let document := Document.ofText yaml.toList
  let config ← ofDocument document
  match document.fault with
  | some fault => throw (.document fault)
  | none => if document.hasMore then throw .moreDocuments else pure config

/-- Reads the configuration in a YAML text and refuses one that cannot be used. -/
def ofYaml (yaml : String) : Except Error Config :=
  match parse yaml with
  | .error fault => .error (.user ("failed to parse config YAML: " ++ fault.message))
  | .ok config =>
    match config.validate with
    | .error error => .error error
    | .ok () => .ok config

end Config

end ChangeLint
