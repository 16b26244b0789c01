import ChangeLint.Config.Writing
import ChangeLint.Proofs.Yaml.Events

/-! # Configuration files are read

A configuration file gives some of the fields, in any order, and may have other keys between
them.  Reading it takes the fields in one by one.

* A `Setting` is a field with what is given for it, and `Config.set` takes it in.
* A `File` is a list of settings and of entries for other keys, in the order in which they stand.
* `readField_nodes` reads one setting, and `readEntries_nodes` all that stands in a file.
* `parse_text` says that what is read of a file is the default with its settings taken in. -/

namespace ChangeLint

open Yaml (Document Item Node Path Value scalarEvent)

namespace Yaml

/-! ## Section 1: Scalars -/

variable {document : Document} {item : Item} {path : Path}

theorem Item.string_of_node {tag : Option (List UInt8)} {text : List Char} {style : ScalarStyle}
    (h : item.node = .scalar tag text style) (expected : String) :
    item.string path expected = .ok (String.ofList text) := by
  rw [Item.string, h]

/-- A text is never written in a way that means that nothing is given. -/
theorem Item.optionalString_of_node {text : List Char}
    (h : item.node = .scalar none text (formOf text)) :
    item.optionalString path = .ok (some (String.ofList text)) := by
  have hgiven : (item.string path "a string").map some = .ok (some (String.ofList text)) := by
    rw [Item.string_of_node h]
    rfl
  rw [Item.optionalString, h]
  -- Only a plain scalar could mean that nothing is given.
  rcases formOf_cases text with ⟨hform, _⟩ | ⟨hform, _, htext⟩ | ⟨hform, _⟩ | hform
  · rw [hform]
    exact hgiven
  · -- Written plainly, a text is not empty and not the word for nothing.
    have hsome : (text.isEmpty || PlainValue.isNull text) = false := by
      rw [← Bool.not_eq_true]
      intro hnull
      rw [PlainValue.ofText, if_pos hnull] at htext
      cases htext
    rw [hform]
    simp only [hsome, Bool.false_eq_true, if_false]
  · rw [hform]
    exact hgiven
  · rw [hform]
    exact hgiven

theorem Item.bool_of_node {value : Bool} (h : item.node = .scalar none (flagWord value) .plain) :
    item.bool path = .ok value := by
  rw [Item.bool, h]
  cases value <;> rfl

theorem Document.deref_of_node {tag : Option (List UInt8)} {text : List Char} {style : ScalarStyle}
    (h : item.node = .scalar tag text style) : document.deref item = item := by
  rw [Document.deref, h]

/-- A name that exists is chosen. -/
theorem Document.choice_of_node (document : Document) (path : Path) {text : List Char}
    {style : ScalarStyle} {choices : List String}
    (h : item.node = .scalar none text style) (hmem : String.ofList text ∈ choices) :
    document.choice path choices item = .ok (String.ofList text) := by
  have hlocal : localName? none = none := rfl
  rw [Document.choice, h]
  simp only [Item.choice, h, hlocal, List.contains_iff_mem, hmem, if_true]

/-! ## Section 2: Lists -/

/-- An item of some kind in front of others. -/
theorem exists_item {items : List Item} {node : Node} {nodes : List Node}
    (h : items.map Item.node = node :: nodes) :
    ∃ mark more, items = ⟨node, mark⟩ :: more ∧ more.map Item.node = nodes := by
  obtain ⟨⟨_, mark⟩, more, hitems, hnode, hmore⟩ := List.map_eq_cons_iff.mp h
  cases hnode
  exact ⟨mark, more, hitems, hmore⟩

theorem Document.elements_of_nodes (document : Document) (path : Path) (rest : List Item)
    (texts : List (List Char)) :
    ∀ {items : List Item} (index : Nat),
      items.map Item.node
        = (texts.map fun text => .scalar none text (formOf text)) ++ [.sequenceEnd] →
      document.elements path index (items ++ rest) = .ok (texts.map String.ofList, rest) := by
  -- By induction on the elements; the index only tells where a fault would be.
  induction texts with
  | nil =>
    intro items index hitems
    obtain ⟨mark, nothing, rfl, hnothing⟩ := exists_item hitems
    rw [List.map_eq_nil_iff.mp hnothing]
    rfl
  | cons text texts ih =>
    intro items index hitems
    obtain ⟨mark, others, rfl, hothers⟩ := exists_item hitems
    have hstring : Item.string ⟨.scalar none text (formOf text), mark⟩ (.element path index)
        "a string" = .ok (String.ofList text) := rfl
    rw [List.cons_append, Document.elements, if_neg nofun, Document.deref_of_node rfl, hstring,
      ih (index + 1) hothers]
    rfl

theorem Value.nodes_texts (elements : List (List Char)) :
    (Value.texts elements).nodes = .sequenceStart none
      :: ((elements.map fun text => .scalar none text (formOf text)) ++ [.sequenceEnd]) := by
  have hscalar : Node.ofEvent? ∘ scalarEvent
      = some ∘ fun text => .scalar none text (formOf text) := rfl
  have hstart : Node.ofEvent? (.sequenceStart .none) = some (.sequenceStart none) := rfl
  have hend : Node.ofEvent? .sequenceEnd = some .sequenceEnd := rfl
  -- Nothing in a list has a name, so every event is a node.
  rw [Value.nodes, Value.events, List.filterMap_cons_some hstart, List.filterMap_append,
    List.filterMap_map, hscalar, List.filterMap_eq_map, List.filterMap_cons_some hend,
    List.filterMap_nil]

/-- A list that is written is read. -/
theorem Document.strings_of_nodes (document : Document) (path : Path) (rest : List Item)
    {elements : List (List Char)} {items : List Item}
    (hitems : items.map Item.node = (Value.texts elements).nodes) :
    document.strings path (items ++ rest) = .ok (elements.map String.ofList, rest) := by
  rw [Value.nodes_texts] at hitems
  obtain ⟨mark, others, rfl, hothers⟩ := exists_item hitems
  have hstart : document.strings path (⟨.sequenceStart none, mark⟩ :: others ++ rest)
      = document.elements path 0 (others ++ rest) := rfl
  rw [hstart, document.elements_of_nodes path rest elements 0 hothers]

/-! ## Section 3: Settings -/

end Yaml

namespace Config

/-- A field with what is given for it. -/
inductive Setting where
  | vcs (name : String)
  | linterOptions (options : String)
  | standardOutput (flag : Bool)
  | theme (chosen : Report.Theme)
  | linter (command : String)
  | patterns (globs : List String)
  | commits (names : List String)
  deriving DecidableEq, Repr

namespace Setting

/-- The field that is given. -/
def field : Setting → Field
  | .vcs _ => .vcs
  | .linterOptions _ => .linterOptions
  | .standardOutput _ => .standardOutput
  | .theme _ => .theme
  | .linter _ => .linter
  | .patterns _ => .patterns
  | .commits _ => .commits

/-- What is written for it. -/
def value : Setting → Value
  | .vcs name => .text name.toList
  | .linterOptions options => .text options.toList
  | .standardOutput flag => .flag flag
  | .theme chosen => .text chosen.name.toList
  | .linter command => .text command.toList
  | .patterns globs => .texts (globs.map String.toList)
  | .commits names => .texts (names.map String.toList)

end Setting

/-- The configuration with a setting taken in. -/
def set (config : Config) : Setting → Config
  | .vcs name => { config with vcs := some name }
  | .linterOptions options => { config with linterOptions := some options }
  | .standardOutput flag => { config with standardOutput := flag }
  | .theme chosen => { config with theme := chosen }
  | .linter command => { config with linter := command }
  | .patterns globs => { config with patterns := globs }
  | .commits names => { config with commits := names }

section
variable {document : Document} {path : Path} {config : Config} {rest : List Item}

theorem readItem_of_node {item : Item} {tag : Option (List UInt8)} {text : List Char}
    {style : Yaml.ScalarStyle} {read : Item → Yaml.Decoded Config}
    (hnode : item.node = .scalar tag text style) (hread : read item = .ok config) :
    readItem document (item :: rest) read = .ok (config, rest) := by
  -- A scalar is no reference to another item.
  have hone : document.one (item :: rest) = .ok (item, rest) := by
    rw [Document.one, Document.deref_of_node hnode]
  simp only [readItem, hone, hread, bind, Except.bind, pure, Except.pure]

theorem readList_of_nodes {elements : List String} {items : List Item}
    {set : List String → Config}
    (hitems : items.map Item.node = (Value.texts (elements.map String.toList)).nodes) :
    readList document path (items ++ rest) set = .ok (set elements, rest) := by
  have hsame : (elements.map String.toList).map String.ofList = elements := by
    simp [Function.comp_def]
  simp only [readList, document.strings_of_nodes path rest hitems, hsame, bind, Except.bind, pure,
    Except.pure]

theorem exists_scalar {text : List Char} {items : List Item}
    (hitems : items.map Item.node = (Value.text text).nodes) :
    ∃ item, items = [item] ∧ item.node = .scalar none text (Yaml.formOf text) := by
  obtain ⟨mark, others, rfl, hothers⟩ := Yaml.exists_item hitems
  rw [List.map_eq_nil_iff.mp hothers]
  exact ⟨_, rfl, rfl⟩

/-- What is written for a field is read. -/
theorem readField_nodes {given : Setting} {items : List Item}
    (hitems : items.map Item.node = given.value.nodes) :
    readField document path config given.field (items ++ rest) = .ok (config.set given, rest) := by
  -- A field with a text, with a flag, with a choice, or with a list.
  cases given with
  | vcs name | linterOptions name =>
    obtain ⟨item, rfl, hnode⟩ := exists_scalar hitems
    rw [Setting.field, readField, List.singleton_append]
    refine readItem_of_node hnode ?_
    rw [Item.optionalString_of_node hnode, String.ofList_toList]
    rfl
  | standardOutput flag =>
    obtain ⟨mark, others, rfl, hothers⟩ := Yaml.exists_item hitems
    rw [List.map_eq_nil_iff.mp hothers, Setting.field, readField, List.singleton_append]
    have hnode : (Item.mk (.scalar none (Yaml.flagWord flag) .plain) mark).node
        = .scalar none (Yaml.flagWord flag) .plain := rfl
    refine readItem_of_node hnode ?_
    rw [Item.bool_of_node hnode]
    rfl
  | theme chosen =>
    obtain ⟨item, rfl, hnode⟩ := exists_scalar hitems
    -- The name of a theme is one of those that may be chosen.
    have hmem : String.ofList chosen.name.toList ∈ Report.Theme.all.map Report.Theme.name := by
      rw [String.ofList_toList]
      exact List.mem_map_of_mem (by cases chosen <;> decide)
    have hchoice := document.choice_of_node path hnode hmem
    rw [String.ofList_toList] at hchoice
    simp only [Setting.field, readField, List.singleton_append, readTheme, hchoice, bind,
      Except.bind, pure, Except.pure, Report.Theme.ofName?_name, Except.map, Option.getD_some, set]
  | linter command =>
    obtain ⟨item, rfl, hnode⟩ := exists_scalar hitems
    rw [Setting.field, readField, List.singleton_append]
    refine readItem_of_node hnode ?_
    rw [Item.string_of_node hnode, String.ofList_toList]
    rfl
  | patterns elements | commits elements =>
    rw [Setting.field, readField]
    exact readList_of_nodes hitems

end

/-! ## Section 4: Files -/

/-- An entry of a configuration file: a setting, the key of which is in some form, or anything
else. -/
inductive FileEntry where
  | setting (style : Yaml.ScalarStyle) (given : Setting)
  | other (entry : Yaml.Entry)
  deriving DecidableEq, Repr

namespace FileEntry

/-- The setting of an entry, if it is one. -/
def setting? : FileEntry → Option Setting
  | .setting _ given => some given
  | .other _ => none

/-- The entry of the mapping. -/
def entry : FileEntry → Yaml.Entry
  | .setting style given => ⟨given.field.key.toList, style, false, .value given.value⟩
  | .other entry => entry

/-- The key of a setting fits on a line in any form, and another key is not that of a field and
stands in front of a scalar. -/
inductive Valid : FileEntry → Prop where
  | setting {style : Yaml.ScalarStyle} {given : Setting}
      (fits : Yaml.Scanner.FitsLine style given.field.key.toList) : Valid (.setting style given)
  | other {entry : Yaml.Entry} (writable : entry.Writable) (isScalar : entry.content.IsScalar)
      (unknown : Field.ofKey? (String.ofList entry.key) = none) : Valid (.other entry)

end FileEntry

/-- A configuration file, in which no field is given twice. -/
structure File where
  entries : List FileEntry
  valid : ∀ entry ∈ entries, entry.Valid
  distinct : ((entries.filterMap FileEntry.setting?).map Setting.field).Nodup

namespace File

/-- The text of a file. -/
def text (file : File) : String :=
  String.ofList (file.entries.flatMap fun entry => entry.entry.written)

/-- The settings of a file, in order. -/
def settings (file : File) : List Setting := file.entries.filterMap FileEntry.setting?

/-- The configuration that a file says: the default with the settings taken in. -/
def config (file : File) : Config := file.settings.foldl set {}

end File

/-- The key of every field is short. -/
theorem isKey_of_fits {style : Yaml.ScalarStyle} {field : Field}
    (h : Yaml.Scanner.FitsLine style field.key.toList) :
    Yaml.Scanner.IsKey style field.key.toList := by
  refine ⟨h, ?_⟩
  -- The keys are few and short, in every form.
  cases h <;> cases field <;> decide

theorem FileEntry.Valid.writable {entry : FileEntry} (h : entry.Valid) : entry.entry.Writable := by
  cases h with
  | setting fits => exact .inline (isKey_of_fits fits) trivial
  | other writable _ _ => exact writable

section
variable {document : Document} {config : Config} {rest : List Item}

/-- A scalar at a key that is not known is passed over. -/
theorem skipNode_nodes {content : Yaml.Content} {items : List Item} (h : content.IsScalar)
    (hitems : items.map Item.node = content.nodes) :
    document.skipNode 0 (items ++ rest) = .ok rest := by
  -- A scalar is one node, whatever is written in it.
  match content, h, hitems with
  | .value (.text _), _, hitems | .value (.flag _), _, hitems | .scalar _ _, _, hitems =>
    obtain ⟨mark, others, rfl, hothers⟩ := Yaml.exists_item hitems
    rw [List.map_eq_nil_iff.mp hothers]
    rfl

/-- A field that was not seen before is read as that field. -/
theorem readEntries_setting {style : Yaml.ScalarStyle} {given : Setting} {seen : List Field}
    {items : List Item} (fuel : Nat) (hseen : given.field ∉ seen)
    (hitems : items.map Item.node = (FileEntry.setting style given).entry.nodes) :
    readEntries document (fuel + 1) seen config (items ++ rest)
      = readEntries document fuel (given.field :: seen) (config.set given) rest := by
  obtain ⟨mark, others, rfl, hothers⟩ := Yaml.exists_item hitems
  have hname : Item.string ⟨.scalar none given.field.key.toList style, mark⟩ .root
      "field identifier" = .ok given.field.key := by
    rw [Item.string_of_node rfl, String.ofList_toList]
  -- A field that was seen before would be refused as a duplicate.
  have hnew : seen.contains given.field = false := by simpa using hseen
  have hread : ∀ path, readField document path config given.field (others ++ rest)
      = .ok (config.set given, rest) := fun _ => readField_nodes hothers
  rw [List.cons_append, readEntries, if_neg nofun, Document.deref_of_node rfl]
  simp only [FileEntry.entry, hname, bind, Except.bind, Field.ofKey?_key, hnew,
    Bool.false_eq_true, if_false, hread]

/-- Another key is passed over. -/
theorem readEntries_other {entry : Yaml.Entry} {seen : List Field} {items : List Item}
    (fuel : Nat) (hscalar : entry.content.IsScalar)
    (hunknown : Field.ofKey? (String.ofList entry.key) = none)
    (hitems : items.map Item.node = entry.nodes) :
    readEntries document (fuel + 1) seen config (items ++ rest)
      = readEntries document fuel seen config rest := by
  obtain ⟨mark, others, rfl, hothers⟩ := Yaml.exists_item hitems
  have hname : Item.string ⟨.scalar none entry.key entry.style, mark⟩ .root "field identifier"
      = .ok (String.ofList entry.key) := Item.string_of_node rfl _
  rw [List.cons_append, readEntries, if_neg nofun, Document.deref_of_node rfl]
  -- The key is no field, so what stands at it is skipped.
  simp only [hname, bind, Except.bind, hunknown, skipNode_nodes hscalar hothers]

end

/-- What stands in a file is read entry by entry. -/
theorem readEntries_nodes (document : Document) {entries : List FileEntry} :
    ∀ {items : List Item} {fuel : Nat} {seen : List Field} {config : Config},
      (∀ entry ∈ entries, entry.Valid) →
      ((entries.filterMap FileEntry.setting?).map Setting.field).Nodup →
      (∀ given ∈ entries.filterMap FileEntry.setting?, given.field ∉ seen) →
      items.map Item.node = (entries.flatMap fun entry => entry.entry.nodes) ++ [.mappingEnd] →
      items.length ≤ fuel →
      readEntries document fuel seen config items
        = .ok ((entries.filterMap FileEntry.setting?).foldl set config) := by
  -- By induction on the entries: the seen fields grow, and the configuration takes in what is
  -- read.
  induction entries with
  | nil =>
    intro items fuel seen config _ _ _ hitems hfuel
    obtain ⟨mark, nothing, rfl, hnothing⟩ := Yaml.exists_item hitems
    rw [List.length_cons] at hfuel
    obtain ⟨fuel, rfl⟩ : ∃ n, fuel = n + 1 := ⟨fuel - 1, by omega⟩
    rw [readEntries, if_pos rfl]
    rfl
  | cons entry entries ih =>
    intro items fuel seen config hvalid hdistinct hseen hitems hfuel
    have hothersValid : ∀ entry ∈ entries, entry.Valid := fun other h => hvalid other (by simp [h])
    rw [List.flatMap_cons, List.append_assoc] at hitems
    obtain ⟨first, others, rfl, hfirst, hothers⟩ := List.map_eq_append_iff.mp hitems
    -- Every entry has at least its key, so one round of fuel is spent on one entry.
    have hsome : 0 < first.length := by
      rw [← List.length_map (f := Item.node), hfirst]
      exact Nat.succ_pos _
    rw [List.length_append] at hfuel
    obtain ⟨fuel, rfl⟩ : ∃ n, fuel = n + 1 := ⟨fuel - 1, by omega⟩
    cases hvalid entry (by simp) with
    | @setting style given _ =>
      have hcons : (FileEntry.setting style given :: entries).filterMap FileEntry.setting?
          = given :: entries.filterMap FileEntry.setting? := List.filterMap_cons_some rfl
      rw [hcons] at hdistinct hseen ⊢
      obtain ⟨hgiven, hdistinct⟩ := List.nodup_cons.mp hdistinct
      -- The other fields are different from this one, so that they are still not seen.
      have hnew : ∀ other ∈ entries.filterMap FileEntry.setting?,
          other.field ∉ given.field :: seen := by
        intro other hother
        rw [List.mem_cons, not_or]
        refine ⟨fun hsame => hgiven ?_, hseen other (by simp [hother])⟩
        rw [← hsame]
        exact List.mem_map_of_mem hother
      rw [readEntries_setting fuel (hseen given (by simp)) hfirst]
      exact ih hothersValid hdistinct hnew hothers (by omega)
    | @other entry _ isScalar unknown =>
      have hcons : (FileEntry.other entry :: entries).filterMap FileEntry.setting?
          = entries.filterMap FileEntry.setting? := List.filterMap_cons_none rfl
      rw [hcons] at hdistinct hseen ⊢
      rw [readEntries_other fuel isScalar unknown hfirst]
      exact ih hothersValid hdistinct hseen hothers (by omega)

namespace File

/-- The document in a file says what the configuration of the file is. -/
theorem ofDocument_nodes (file : File) {items : List Item}
    (hitems : items.map Item.node = .mappingStart none
      :: ((file.entries.flatMap fun entry => entry.entry.nodes) ++ [.mappingEnd])) :
    ofDocument ⟨items, [], none, false⟩ = .ok file.config := by
  obtain ⟨mark, others, rfl, hothers⟩ := Yaml.exists_item hitems
  have hread : readEntries ⟨⟨.mappingStart none, mark⟩ :: others, [], none, false⟩
      (others.length + 1) [] {} others = .ok file.config :=
    readEntries_nodes _ file.valid file.distinct (fun _ _ => List.not_mem_nil) hothers
      (Nat.le_succ _)
  simp only [ofDocument, hread]
  rfl

/-- A file is read as the default with its settings taken in. -/
theorem parse_text (file : File) : parse file.text = .ok file.config := by
  -- An empty file has no document, and is the default.
  by_cases hempty : file.entries = []
  · simp only [text, config, settings, hempty]
    rfl
  · have hne : file.entries.map FileEntry.entry ≠ [] := by simpa using hempty
    have hwritable : ∀ entry ∈ file.entries.map FileEntry.entry, entry.Writable := by
      intro entry hentry
      obtain ⟨other, hother, rfl⟩ := List.mem_map.mp hentry
      exact (file.valid other hother).writable
    obtain ⟨items, hdocument, hitems⟩ := Document.ofText_nodes hne hwritable
    rw [List.flatMap_map] at hdocument hitems
    have hread := file.ofDocument_nodes hitems
    simp only [parse, text, String.toList_ofList, hdocument, hread, bind, Except.bind]
    rfl

end File

end Config

end ChangeLint
