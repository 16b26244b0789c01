import ChangeLint.Config.Writing

/-! # What is emitted for a configuration

The emitter refuses no event of a mapping with simple keys, and what it writes for the events is
the text of the mapping.  The fields of a configuration have such keys, so that writing one never
fails.

* `Takes` says what is written for one event, and `Emits` what is written for several, whatever
  was written before.
* `emits_value`, `emits_entry` and `emits_entries` follow the layers of a mapping.
* `run_documentEvents` is the whole document.
* `Config.toYaml?_eq` says that every configuration is written, and what comes out. -/

namespace ChangeLint

namespace Yaml.Emitter

/-! ## Section 1: Runs -/

/-- Where it waits for one thing, the emitter takes the event, appends the text for it, and waits
for another thing. -/
def Takes (event : EventKind) (text : List Char) (first last : Awaited) : Prop :=
  ∀ before, emit ⟨before, first⟩ event = .ok ⟨before ++ text, last⟩

/-- The emitter takes the events one after the other. -/
def Emits (events : List EventKind) (text : List Char) (first last : Awaited) : Prop :=
  ∀ before, run ⟨before, first⟩ events = .ok ⟨before ++ text, last⟩

namespace Emits

variable {first between last : Awaited} {event : EventKind} {events more : List EventKind}
  {text rest : List Char}

theorem nil (awaited : Awaited) : Emits [] [] awaited awaited := by
  intro before
  rw [List.append_nil]
  rfl

theorem cons (h : Takes event text first between) (hrest : Emits events rest between last) :
    Emits (event :: events) (text ++ rest) first last := by
  intro before
  rw [run, List.foldlM_cons, h before, ← List.append_assoc]
  -- The rest is emitted behind what was written so far, whatever that is.
  exact hrest (before ++ text)

theorem append (h : Emits events text first between) (hmore : Emits more rest between last) :
    Emits (events ++ more) (text ++ rest) first last := by
  intro before
  have hfirst := h before
  unfold run at hfirst
  rw [run, List.foldlM_append, hfirst, ← List.append_assoc]
  exact hmore (before ++ text)

theorem single (h : Takes event text first last) : Emits [event] text first last := by
  have hone := cons h (nil last)
  rwa [List.append_nil] at hone

end Emits

/-! ## Section 2: The layers of a mapping -/

/-- The elements of a list behind the first one, and its end. -/
theorem emits_elements (elements : List (List Char)) :
    Emits (elements.map scalarEvent ++ [.sequenceEnd])
      (elements.flatMap fun chars => '-' :: ' ' :: scalarLine chars) .element .key := by
  -- By induction on the elements: behind each one the emitter waits for another.
  induction elements with
  | nil =>
    have hend : Takes .sequenceEnd [] .element .key := fun _ => rfl
    exact .single hend
  | cons chars elements ih =>
    have helement : Takes (scalarEvent chars) ('-' :: ' ' :: scalarLine chars) .element .element :=
      fun _ => rfl
    exact .cons helement ih

theorem emits_value (value : Value) : Emits value.events value.written .value .key := by
  have hlist : Takes (.sequenceStart .none) [] .value .firstElement := fun _ => rfl
  cases value with
  | text chars =>
    have htext : Takes (scalarEvent chars) (Value.text chars).written .value .key := fun _ => rfl
    exact .single htext
  | flag value =>
    have hflag : Takes (.scalar .none (flagWord value) .plain) (Value.flag value).written .value
        .key := fun _ => rfl
    exact .single hflag
  | texts elements =>
    -- The first element opens a line for the list, and a list without one is a pair of brackets.
    cases elements with
    | nil =>
      have hend : Takes .sequenceEnd [' ', '[', ']', '\n'] .firstElement .key := fun _ => rfl
      exact .cons hlist (.single hend)
    | cons chars elements =>
      have hfirst : Takes (scalarEvent chars) ('\n' :: '-' :: ' ' :: scalarLine chars)
          .firstElement .element := fun _ => rfl
      exact .cons hlist (.cons hfirst (emits_elements elements))

/-- A key is written as it is: it is not mistaken for anything but a text, and it fits on the line
of its colon. -/
structure IsSimpleKey (key : List Char) : Prop where
  plain : formOf key = .plain
  fits : fitsKey key = true

/-- The place of a key may be the first one of its mapping or a later one. -/
theorem takes_key {key : List Char} (h : IsSimpleKey key) {awaited : Awaited}
    (hawaited : awaited = .firstKey ∨ awaited = .key) :
    Takes (scalarEvent key) (key ++ [':']) awaited .value := by
  intro before
  -- Both places of a key put it in the same way, for it fits on its line.
  have hput : ∀ emitter : Emitter, emitter.putKey key .plain
      = .ok (emitter.put (key ++ [':']) .value) := fun emitter => if_pos h.fits
  rw [scalarEvent, h.plain]
  rcases hawaited with rfl | rfl
  · exact hput ⟨before, .firstKey⟩
  · exact hput ⟨before, .key⟩

theorem emits_entry {key : List Char} (h : IsSimpleKey key) (value : Value) {awaited : Awaited}
    (hawaited : awaited = .firstKey ∨ awaited = .key) :
    Emits (scalarEvent key :: value.events) (writeEntry key value) awaited .key := by
  have hentry : writeEntry key value = (key ++ [':']) ++ value.written := by
    rw [List.append_assoc]
    rfl
  rw [hentry]
  exact .cons (takes_key h hawaited) (emits_value value)

theorem emits_entries {entries : List (List Char × Value)}
    (h : ∀ entry ∈ entries, IsSimpleKey entry.1) :
    Emits (entryEvents entries) (writeMapping entries) .key .key := by
  -- Behind an entry the emitter waits for a key, as it did before it.
  induction entries with
  | nil => exact .nil .key
  | cons entry entries ih =>
    obtain ⟨hfirst, hrest⟩ := List.forall_mem_cons.mp h
    exact (emits_entry hfirst entry.2 (.inr rfl)).append (ih hrest)

/-- A mapping with entries is emitted to its end, and its text is what comes out. -/
theorem run_documentEvents {entries : List (List Char × Value)} (hne : entries ≠ [])
    (h : ∀ entry ∈ entries, IsSimpleKey entry.1) :
    start.run (documentEvents entries) = .ok ⟨writeMapping entries, .nothing⟩ := by
  -- The first entry is set apart, for its key stands at another place of the emitter.
  obtain ⟨entry, entries, rfl⟩ := List.exists_cons_of_ne_nil hne
  obtain ⟨hfirst, hrest⟩ := List.forall_mem_cons.mp h
  have hopening : Takes .documentStart [] .document .root := fun _ => rfl
  have hmapping : Takes (.mappingStart .none) [] .root .firstKey := fun _ => rfl
  have hentries : Emits (entryEvents (entry :: entries)) (writeMapping (entry :: entries))
      .firstKey .key :=
    (emits_entry hfirst entry.2 (.inl rfl)).append (emits_entries hrest)
  have hend : Takes .mappingEnd [] .key .documentEnd := fun _ => rfl
  have hclosing : Takes .documentEnd [] .documentEnd .nothing := fun _ => rfl
  have hdocument := Emits.cons hopening
    (.cons hmapping (hentries.append (.cons hend (.single hclosing)))) []
  rwa [List.nil_append, List.nil_append, List.nil_append, List.append_nil, List.append_nil]
    at hdocument

end Yaml.Emitter

/-! ## Section 3: Configurations -/

namespace Config

theorem isSimpleKey_key (field : Field) : Yaml.Emitter.IsSimpleKey field.key.toList := by
  cases field <;> exact ⟨by decide, by decide⟩

/-- An entry is written for a field. -/
theorem exists_field_of_mem_entries {config : Config} {entry : List Char × Yaml.Value}
    (h : entry ∈ config.entries) : ∃ field : Field, entry.1 = field.key.toList := by
  obtain ⟨field, _, hentry⟩ := List.mem_filterMap.mp h
  obtain ⟨value, _, rfl⟩ := Option.map_eq_some_iff.mp hentry
  exact ⟨field, rfl⟩

/-- Some fields are always given. -/
theorem entries_ne_nil (config : Config) : config.entries ≠ [] := by
  have hlinter : (Field.linter.key.toList, Yaml.Value.text config.linter.toList)
      ∈ config.entries := List.mem_filterMap.mpr ⟨.linter, by decide, rfl⟩
  exact List.ne_nil_of_mem hlinter

/-- Writing a configuration never fails. -/
theorem toYaml?_eq (config : Config) : config.toYaml? = .ok config.toYaml := by
  -- Keys are the names of fields, and each of these is simple.
  have hkeys : ∀ entry ∈ config.entries, Yaml.Emitter.IsSimpleKey entry.1 := by
    intro entry hentry
    obtain ⟨field, hfield⟩ := exists_field_of_mem_entries hentry
    rw [hfield]
    exact isSimpleKey_key field
  unfold toYaml?
  rw [Yaml.Emitter.run_documentEvents config.entries_ne_nil hkeys]
  rfl

end Config

end ChangeLint
