import ChangeLint.Proofs.Yaml.Tokens
import ChangeLint.Yaml.Document
import ChangeLint.Yaml.Emitter

/-! # The events and the items of a written mapping

The grammar is followed through the tokens of a mapping.  Where the tokens stand in the text
does not matter to it, and so only their kinds are compared.

* `Says` is a run of the grammar, each step of which gives an event.
* `Content.events` and `Entry.events` say which events stand for what is written.
* `says_entry` is the run through an entry, and `says_entries` the one through all of them.
* `ofText_events` gives the events of the whole text, and `ofText_nodes` the items of its
  document. -/

namespace ChangeLint.Yaml

/-! ## Section 1: Runs -/

namespace Machine

/-- The machine gives events one after the other. -/
inductive Says : Machine → List EventKind → Machine → Prop where
  | nil (m : Machine) : Says m [] m
  | cons {m n o : Machine} {kinds : List EventKind} (event : Event) (running : m.state ≠ .done)
      (step : m.step = .ok (event, n)) (rest : Says n kinds o) : Says m (event.kind :: kinds) o

namespace Says

theorem append {m n o : Machine} {first second : List EventKind} (hfirst : Says m first n)
    (hsecond : Says n second o) : Says m (first ++ second) o := by
  -- By induction on the first run; the second goes on where it ends.
  induction hfirst with
  | nil _ => exact hsecond
  | cons event running step _ ih => exact .cons event running step (ih hsecond)

theorem single {m n : Machine} (event : Event) (running : m.state ≠ .done)
    (step : m.step = .ok (event, n)) : Says m [event.kind] n :=
  .cons event running step (.nil n)

/-- What the first step gives decides about a run. -/
theorem of_step_eq {m n o : Machine} {kinds : List EventKind} (h : Says m kinds o)
    (hne : kinds ≠ []) (step : n.step = m.step) (running : n.state ≠ .done) : Says n kinds o := by
  -- Only the first step looks at where the run starts.
  cases h with
  | nil => exact absurd rfl hne
  | cons event _ next rest => exact .cons event running (step.trans next) rest

/-- With enough fuel a run to the end gives its events, and no fault. -/
theorem run_eq {m n : Machine} {kinds : List EventKind} (h : Says m kinds n)
    (hdone : n.state = .done) :
    ∀ fuel, kinds.length ≤ fuel →
      ∃ events, m.run fuel = (events, none) ∧ events.map Event.kind = kinds := by
  -- By induction on the run: each event takes one of the fuel, and the last state takes none.
  induction h with
  | nil m =>
    intro fuel _
    refine ⟨[], ?_, rfl⟩
    cases fuel with
    | zero => rfl
    | succ fuel => rw [run, if_pos hdone]
  | @cons m n o kinds event running step _ ih =>
    intro fuel hfuel
    rw [List.length_cons] at hfuel
    obtain ⟨fuel, rfl⟩ : ∃ k, fuel = k + 1 := ⟨fuel - 1, by omega⟩
    obtain ⟨events, hrun, hkinds⟩ := ih hdone fuel (by omega)
    refine ⟨event :: events, ?_, by rw [List.map_cons, hkinds]⟩
    rw [run, if_neg running, step]
    simp only [hrun]

end Says

end Machine

/-! ## Section 2: Entries -/

/-- The events for what stands at a key. -/
def Content.events : Content → List EventKind
  | .value given => given.events
  | .scalar style text => [.scalar .none text style]

/-- The events for an entry. -/
def Entry.events (entry : Entry) : List EventKind :=
  .scalar .none entry.key entry.style :: entry.content.events

namespace Machine

/-- The machine in the mapping of a document, in front of some tokens. -/
def inMapping (state : State) (starts : List Mark) (handles : List (List UInt8 × List UInt8))
    (tokens : List Token) : Machine :=
  ⟨tokens, none, state, [.documentEnd], starts, handles⟩

variable {starts : List Mark} {handles : List (List UInt8 × List UInt8)} {rest : List Token}

/-- A token of some kind in front of others. -/
theorem exists_token {tokens : List Token} {kind : TokenKind} {kinds : List TokenKind}
    (h : tokens.map Token.kind = kind :: kinds) :
    ∃ start stop more, tokens = ⟨kind, start, stop⟩ :: more ∧ more.map Token.kind = kinds := by
  obtain ⟨⟨_, start, stop⟩, more, htokens, hkind, hmore⟩ := List.map_eq_cons_iff.mp h
  cases hkind
  exact ⟨start, stop, more, htokens, hmore⟩

/-- Where no dash stands, a list ends. -/
theorem says_listEnd {next : Token} (hnext : next.kind ≠ .blockEntry) (more : List Token) :
    Says ⟨next :: more, none, .flatSequenceEntry, [.blockMappingKey, .documentEnd], starts, handles⟩
      [.sequenceEnd] (inMapping .blockMappingKey starts handles (next :: more)) := by
  obtain ⟨kind, start, stop⟩ := next
  have hstep : step ⟨⟨kind, start, stop⟩ :: more, none, .flatSequenceEntry,
      [.blockMappingKey, .documentEnd], starts, handles⟩
        = .ok (⟨.sequenceEnd, start⟩,
            inMapping .blockMappingKey starts handles (⟨kind, start, stop⟩ :: more)) := by
    -- The list ends in front of any other token in the same way.
    cases kind with
    | blockEntry => exact absurd rfl hnext
    | _ => rfl
  exact .single ⟨.sequenceEnd, start⟩ nofun hstep

/-- The elements of a list and their dashes, up to a token that is not a dash. -/
theorem says_elements (starts : List Mark) (handles : List (List UInt8 × List UInt8))
    {next : Token} (hnext : next.kind ≠ .blockEntry) (more : List Token)
    (elements : List (List Char)) :
    ∀ {tokens : List Token},
      tokens.map Token.kind = elements.flatMap (fun chars => [.blockEntry, scalarToken chars]) →
      Says ⟨tokens ++ next :: more, none, .flatSequenceEntry, [.blockMappingKey, .documentEnd],
          starts, handles⟩
        (elements.map scalarEvent ++ [.sequenceEnd])
        (inMapping .blockMappingKey starts handles (next :: more)) := by
  -- By induction on the elements: a dash and a scalar give one event.
  induction elements with
  | nil =>
    intro tokens htokens
    rw [List.map_eq_nil_iff.mp htokens]
    exact says_listEnd hnext more
  | cons chars elements ih =>
    intro tokens htokens
    obtain ⟨_, _, behind, rfl, hbehind⟩ := exists_token htokens
    obtain ⟨start, stop, others, rfl, hothers⟩ := exists_token hbehind
    have hstep : ∀ a b tokens, step ⟨⟨.blockEntry, a, b⟩ :: ⟨scalarToken chars, start, stop⟩
        :: tokens, none, .flatSequenceEntry, [.blockMappingKey, .documentEnd], starts, handles⟩
          = .ok (⟨scalarEvent chars, start⟩, ⟨tokens, none, .flatSequenceEntry,
              [.blockMappingKey, .documentEnd], starts, handles⟩) := fun _ _ _ => rfl
    exact .cons ⟨scalarEvent chars, start⟩ nofun (hstep _ _ _) (ih hothers)

/-- A scalar at a key. -/
theorem says_scalar {text : List Char} {style : ScalarStyle} {tokens : List Token}
    (htokens : tokens.map Token.kind = [.value, .scalar text style]) :
    Says (inMapping .blockMappingValue starts handles (tokens ++ rest))
      [.scalar .none text style] (inMapping .blockMappingKey starts handles rest) := by
  obtain ⟨_, _, behind, rfl, hbehind⟩ := exists_token htokens
  obtain ⟨start, _, others, rfl, hothers⟩ := exists_token hbehind
  rw [List.map_eq_nil_iff.mp hothers]
  exact .single ⟨.scalar .none text style, start⟩ nofun rfl

/-- What stands at a key, up to the next key or the end of the mapping. -/
theorem says_content (content : Content) {tokens : List Token} {next : Token} {more : List Token}
    (htokens : tokens.map Token.kind = .value :: content.tokens)
    (hnext : next.kind ≠ .blockEntry) :
    Says (inMapping .blockMappingValue starts handles (tokens ++ next :: more)) content.events
      (inMapping .blockMappingKey starts handles (next :: more)) := by
  -- What is not a list is one scalar, in whatever form.
  match content, htokens with
  | .value (.text chars), htokens => exact says_scalar htokens
  | .value (.flag value), htokens => exact says_scalar htokens
  | .scalar style text, htokens => exact says_scalar htokens
  | .value (.texts []), htokens =>
    obtain ⟨_, _, behind, rfl, hbehind⟩ := exists_token htokens
    obtain ⟨first, _, others, rfl, hothers⟩ := exists_token hbehind
    obtain ⟨second, _, none, rfl, hnone⟩ := exists_token hothers
    rw [List.map_eq_nil_iff.mp hnone]
    exact .cons ⟨.sequenceStart .none, first⟩ nofun rfl
      (.single ⟨.sequenceEnd, second⟩ nofun rfl)
  | .value (.texts (chars :: elements)), htokens =>
    obtain ⟨_, _, behind, rfl, hbehind⟩ := exists_token htokens
    -- A list needs no token for its start: the first dash is seen and left for the element.
    have helements := says_elements starts handles hnext more
      (chars :: elements) hbehind
    obtain ⟨first, _, others, rfl, _⟩ := exists_token hbehind
    exact .cons ⟨.sequenceStart .none, first⟩ nofun rfl helements

/-- An entry, up to the next key or the end of the mapping. -/
theorem says_entry {entry : Entry} {tokens : List Token} {next : Token}
    {more : List Token} (htokens : tokens.map Token.kind = entry.tokens)
    (hnext : next.kind ≠ .blockEntry) :
    Says (inMapping .blockMappingKey starts handles (tokens ++ next :: more)) entry.events
      (inMapping .blockMappingKey starts handles (next :: more)) := by
  obtain ⟨_, _, behind, rfl, hbehind⟩ := exists_token htokens
  obtain ⟨start, _, others, rfl, hothers⟩ := exists_token hbehind
  exact .cons ⟨.scalar .none entry.key entry.style, start⟩ nofun rfl
    (says_content entry.content hothers hnext)

/-- All entries of a mapping, up to its end. -/
theorem says_entries (starts : List Mark) (handles : List (List UInt8 × List UInt8))
    {next : Token} (more : List Token) (entries : List Entry)
    (hnext : next.kind = .blockEnd) :
    ∀ {tokens : List Token}, tokens.map Token.kind = entries.flatMap Entry.tokens →
      Says (inMapping .blockMappingKey starts handles (tokens ++ next :: more))
        (entries.flatMap Entry.events)
        (inMapping .blockMappingKey starts handles (next :: more)) := by
  -- By induction on the entries, for whatever tokens they have.
  induction entries with
  | nil =>
    intro tokens htokens
    rw [List.map_eq_nil_iff.mp htokens]
    exact .nil _
  | cons entry entries ih =>
    intro tokens htokens
    obtain ⟨first, others, rfl, hfirst, hothers⟩ := List.map_eq_append_iff.mp htokens
    have hrest := ih hothers
    -- Behind the entry stands the key of the next one, or the end of the mapping.
    obtain ⟨token, behind, hsplit, htoken⟩ : ∃ token behind, others ++ next :: more
        = token :: behind ∧ token.kind ≠ .blockEntry := by
      cases entries with
      | nil =>
        refine ⟨next, more, by rw [List.map_eq_nil_iff.mp hothers]; rfl, ?_⟩
        rw [hnext]
        nofun
      | cons entry entries =>
        obtain ⟨_, _, behind, rfl, _⟩ := exists_token hothers
        exact ⟨_, behind ++ next :: more, rfl, nofun⟩
    rw [List.append_assoc, List.flatMap_cons]
    rw [hsplit] at hrest ⊢
    exact (says_entry hfirst htoken).append hrest

/-! ## Section 3: Whole texts -/

end Machine

/-- The events of a mapping that is written. -/
def mappingEvents (entries : List Entry) : List EventKind :=
  .documentStart :: .mappingStart .none
    :: (entries.flatMap Entry.events ++ [.mappingEnd, .documentEnd, .streamEnd])

namespace Machine

variable {starts : List Mark} {handles : List (List UInt8 × List UInt8)}

/-- The start of a mapping is passed over together with the first key. -/
theorem step_mappingStart (mark a b c d e : Mark) (key : List Char) (style : ScalarStyle)
    (tokens : List Token) :
    step ⟨⟨.blockMappingStart, mark, a⟩ :: ⟨.key, b, c⟩ :: ⟨.scalar key style, d, e⟩ :: tokens,
        none, .blockMappingStart, [.documentEnd], [], handles⟩
      = step (inMapping .blockMappingKey [mark] handles
          (⟨.key, b, c⟩ :: ⟨.scalar key style, d, e⟩ :: tokens)) := rfl

/-- The mapping, the document and the text end one after the other. -/
theorem says_end (starts : List Mark) (handles : List (List UInt8 × List UInt8))
    (a b c d : Mark) :
    ∃ n : Machine, n.state = .done ∧
      Says (inMapping .blockMappingKey starts handles [⟨.blockEnd, a, b⟩, ⟨.streamEnd, c, d⟩])
        [.mappingEnd, .documentEnd, .streamEnd] n := by
  have hmapping : step (inMapping .blockMappingKey starts handles
      [⟨.blockEnd, a, b⟩, ⟨.streamEnd, c, d⟩])
        = .ok (⟨.mappingEnd, a⟩,
            ⟨[⟨.streamEnd, c, d⟩], none, .documentEnd, [], starts.tail, handles⟩) := rfl
  have hdocument : step ⟨[⟨.streamEnd, c, d⟩], none, .documentEnd, [], starts.tail, handles⟩
      = .ok (⟨.documentEnd, c⟩,
          ⟨[⟨.streamEnd, c, d⟩], none, .nextDocument, [], starts.tail, []⟩) := rfl
  have htext : step ⟨[⟨.streamEnd, c, d⟩], none, .nextDocument, [], starts.tail, []⟩
      = .ok (⟨.streamEnd, c⟩, ⟨[], none, .done, [], starts.tail, []⟩) := rfl
  exact ⟨_, rfl, .cons ⟨.mappingEnd, a⟩ nofun hmapping
    (.cons ⟨.documentEnd, c⟩ nofun hdocument
      (.single ⟨.streamEnd, c⟩ nofun htext))⟩

/-- A document with one mapping, from the start of the text to its end. -/
theorem says_mapping {entries : List Entry} (hne : entries ≠ [])
    {tokens : List Token} (htokens : tokens.map Token.kind = mappingTokens entries) :
    ∃ n : Machine, n.state = .done ∧
      Says (start ⟨tokens.tail, none⟩) (mappingEvents entries) n := by
  obtain ⟨_, _, behind, rfl, hbehind⟩ := exists_token htokens
  obtain ⟨mark, stop, others, rfl, hothers⟩ := exists_token hbehind
  obtain ⟨inside, last, rfl, hinside, hlast⟩ := List.map_eq_append_iff.mp hothers
  obtain ⟨blockEnd, afterBlock, after, rfl, hafter⟩ := exists_token hlast
  obtain ⟨streamEnd, afterStream, nothing, rfl, hnothing⟩ := exists_token hafter
  rw [List.map_eq_nil_iff.mp hnothing, List.tail_cons]
  have hends : (Token.mk .blockEnd blockEnd afterBlock).kind = .blockEnd := rfl
  -- The tokens are those of the entries between fixed ones, which are taken off at both ends.
  have hentries := says_entries [mark] (start ⟨[], none⟩).withStandardHandles.handles
    [⟨.streamEnd, streamEnd, afterStream⟩] entries hends hinside
  obtain ⟨n, hdone, hend⟩ := says_end [mark] (start ⟨[], none⟩).withStandardHandles.handles
    blockEnd afterBlock streamEnd afterStream
  obtain ⟨entry, entries, rfl⟩ := List.exists_cons_of_ne_nil hne
  obtain ⟨_, _, first, rfl, hfirst⟩ := exists_token hinside
  obtain ⟨_, _, second, rfl, _⟩ := exists_token hfirst
  -- The first entry is read together with the start of the mapping.
  have hinner := (hentries.of_step_eq (List.cons_ne_nil _ _)
    (step_mappingStart mark stop _ _ _ _ _ _ _) nofun).append hend
  exact ⟨n, hdone, .cons ⟨.documentStart, mark⟩ nofun rfl
    (.cons ⟨.mappingStart .none, mark⟩ nofun rfl hinner)⟩

end Machine

theorem Value.length_events_le (value : Value) : value.events.length ≤ value.tokens.length + 1 := by
  match value with
  | .text _ | .flag _ => exact Nat.le_succ 1
  | .texts [] => exact Nat.le_succ 2
  | .texts (chars :: elements) =>
    -- An element has two tokens and one event.
    have hlength : ∀ elements : List (List Char),
        (elements.flatMap fun chars => [TokenKind.blockEntry, scalarToken chars]).length
          = 2 * elements.length := by
      intro elements
      induction elements with
      | nil => rfl
      | cons chars elements ih =>
        rw [List.flatMap_cons, List.length_append, ih, List.length_cons]
        simp only [List.length_cons, List.length_nil]
        omega
    rw [Value.tokens, hlength]
    · simp only [Value.events, List.length_cons, List.length_append, List.length_map,
        List.length_nil]
      omega
    · nofun

theorem Content.length_events_le (content : Content) :
    content.events.length ≤ content.tokens.length + 1 := by
  cases content with
  | value given => exact given.length_events_le
  | scalar style text => exact Nat.le_succ 1

/-- There are no more events than tokens, but for the two ends of the document. -/
theorem length_mappingEvents_le (entries : List Entry) :
    (mappingEvents entries).length ≤ (mappingTokens entries).length + 1 := by
  -- An entry has three tokens where its content has one event more at most.
  have hentries : (entries.flatMap Entry.events).length
      ≤ (entries.flatMap Entry.tokens).length := by
    induction entries with
    | nil => exact Nat.le_refl 0
    | cons entry entries ih =>
      have hcontent := entry.content.length_events_le
      simp only [List.flatMap_cons, List.length_append, Entry.events, Entry.tokens,
        List.length_cons]
      omega
  simp only [mappingEvents, mappingTokens, List.length_cons, List.length_append, List.length_nil]
  omega

/-- A mapping that is written has the events of its entries. -/
theorem ofText_events {entries : List Entry} (hne : entries ≠ [])
    (h : ∀ entry ∈ entries, entry.Writable) :
    ∃ events, EventStream.ofText (entries.flatMap Entry.written) = ⟨events, none⟩ ∧
      events.map Event.kind = mappingEvents entries := by
  obtain ⟨tokens, htokens, hkinds⟩ := ofText_entries hne h
  obtain ⟨n, hdone, hsays⟩ := Machine.says_mapping hne hkinds
  have hlength := length_mappingEvents_le entries
  rw [← hkinds, List.length_map] at hlength
  -- The fuel is a multiple of the tokens, so it is enough for the events.
  obtain ⟨events, hrun, hevents⟩ := hsays.run_eq hdone (4 * tokens.length + 8) (by omega)
  refine ⟨events, ?_, hevents⟩
  simp only [EventStream.ofText, htokens, hrun]

/-! ## Section 4: Documents -/

/-- The node for an event, if it has no name. -/
def Node.ofEvent? : EventKind → Option Node
  | .scalar ⟨none, tag⟩ text style => some (.scalar tag text style)
  | .sequenceStart ⟨none, tag⟩ => some (.sequenceStart tag)
  | .sequenceEnd => some .sequenceEnd
  | .mappingStart ⟨none, tag⟩ => some (.mappingStart tag)
  | .mappingEnd => some .mappingEnd
  | _ => none

/-- The nodes for a value. -/
def Value.nodes (value : Value) : List Node := value.events.filterMap Node.ofEvent?

/-- The nodes for what stands at a key. -/
def Content.nodes (content : Content) : List Node := content.events.filterMap Node.ofEvent?

/-- The nodes for an entry. -/
def Entry.nodes (entry : Entry) : List Node :=
  .scalar none entry.key entry.style :: entry.content.nodes

namespace Document

/-- An event without a name is read as an item. -/
theorem readFrom_cons (fault : Option Fault) {kind : EventKind} {node : Node}
    (h : Node.ofEvent? kind = some node) (mark : Mark) (events : List Event) (reader : Reader) :
    readFrom fault (⟨kind, mark⟩ :: events) reader
      = readFrom fault events (reader.push node mark) := by
  -- An item that has a name would be remembered for later; none has one here.
  cases kind with
  | scalar properties text style =>
    obtain ⟨anchor, tag⟩ := properties
    cases anchor with
    | none =>
      cases h
      rfl
    | some _ => cases h
  | sequenceStart properties | mappingStart properties =>
    obtain ⟨anchor, tag⟩ := properties
    cases anchor with
    | none =>
      cases h
      rfl
    | some _ => cases h
  | sequenceEnd | mappingEnd =>
    cases h
    rfl
  | _ => cases h

theorem readFrom_append (fault : Option Fault) (rest : List Event) {kinds : List EventKind}
    (hkinds : ∀ kind ∈ kinds, (Node.ofEvent? kind).isSome) :
    ∀ {events : List Event} (reader : Reader), events.map Event.kind = kinds →
      ∃ items : List Item, items.map Item.node = kinds.filterMap Node.ofEvent? ∧
        readFrom fault (events ++ rest) reader
          = readFrom fault rest { reader with items := items.reverse ++ reader.items } := by
  -- By induction on the kinds; the reader keeps its items in reverse.
  induction kinds with
  | nil =>
    intro events reader hevents
    rw [List.map_eq_nil_iff.mp hevents]
    exact ⟨[], rfl, rfl⟩
  | cons kind kinds ih =>
    intro events reader hevents
    obtain ⟨⟨first, mark⟩, others, rfl, hfirst, hothers⟩ := List.map_eq_cons_iff.mp hevents
    cases hfirst
    obtain ⟨node, hnode⟩ := Option.isSome_iff_exists.mp (hkinds first (by simp))
    obtain ⟨items, hitems, hread⟩ :=
      ih (fun kind hkind => hkinds kind (by simp [hkind])) (reader.push node mark) hothers
    refine ⟨⟨node, mark⟩ :: items, by simp [hitems, hnode], ?_⟩
    rw [List.cons_append, readFrom_cons fault hnode, hread]
    simp [Reader.push]

theorem isSome_ofEvent_value (value : Value) :
    ∀ kind ∈ value.events, (Node.ofEvent? kind).isSome := by
  intro kind hkind
  cases value with
  | text chars | flag value =>
    rw [List.mem_singleton.mp hkind]
    rfl
  | texts elements =>
    simp only [Value.events, List.mem_cons, List.mem_append, List.mem_map, List.not_mem_nil,
      or_false] at hkind
    rcases hkind with rfl | ⟨chars, _, rfl⟩ | rfl <;> rfl

theorem isSome_ofEvent_entry (entry : Entry) :
    ∀ kind ∈ entry.events, (Node.ofEvent? kind).isSome := by
  obtain ⟨key, style, explicit, content⟩ := entry
  intro kind hkind
  rcases List.mem_cons.mp hkind with rfl | hkind
  · rfl
  · cases content with
    | value value => exact isSome_ofEvent_value value kind hkind
    | scalar style text =>
      rw [List.mem_singleton.mp hkind]
      rfl

theorem isSome_ofEvent {entries : List Entry} :
    ∀ kind ∈ .mappingStart .none :: (entries.flatMap Entry.events ++ [.mappingEnd]),
      (Node.ofEvent? kind).isSome := by
  intro kind hkind
  simp only [List.mem_cons, List.mem_append, List.mem_flatMap, List.not_mem_nil,
    or_false] at hkind
  rcases hkind with rfl | ⟨entry, _, hentry⟩ | rfl
  · rfl
  · exact isSome_ofEvent_entry entry kind hentry
  · rfl

/-- A mapping that is written is a document with the nodes of its entries, and nothing else. -/
theorem ofText_nodes {entries : List Entry} (hne : entries ≠ [])
    (h : ∀ entry ∈ entries, entry.Writable) :
    ∃ items : List Item, ofText (entries.flatMap Entry.written) = ⟨items, [], none, false⟩ ∧
      items.map Item.node
        = .mappingStart none :: (entries.flatMap Entry.nodes ++ [.mappingEnd]) := by
  obtain ⟨events, hevents, hkinds⟩ := ofText_events hne h
  -- The events of the document stand around those of the mapping.
  obtain ⟨⟨_, first⟩, inside, rfl, hstart, hinside⟩ := List.map_eq_cons_iff.mp hkinds
  cases hstart
  have hsplit : inside.map Event.kind
      = (.mappingStart .none :: (entries.flatMap Entry.events ++ [.mappingEnd]))
        ++ [.documentEnd, .streamEnd] := by
    rw [hinside]
    simp
  obtain ⟨nodes, ends, rfl, hnodes, hends⟩ := List.map_eq_append_iff.mp hsplit
  obtain ⟨⟨_, last⟩, behind, rfl, hdocument, hbehind⟩ := List.map_eq_cons_iff.mp hends
  cases hdocument
  obtain ⟨⟨_, after⟩, nothing, rfl, hstream, hnothing⟩ := List.map_eq_cons_iff.mp hbehind
  cases hstream
  rw [List.map_eq_nil_iff.mp hnothing] at hevents
  obtain ⟨items, hitems, hread⟩ := readFrom_append none [⟨.documentEnd, last⟩, ⟨.streamEnd, after⟩]
    isSome_ofEvent Reader.start hnodes
  -- The end of the document is where reading stops, and no other document follows.
  refine ⟨items, ?_, ?_⟩
  · simp only [ofText, hevents]
    rw [readFrom, hread]
    simp [readFrom, Reader.document, Reader.start, goesOn]
  · have hentry : ∀ entry : Entry,
        entry.events.filterMap Node.ofEvent? = entry.nodes := fun _ => rfl
    have hstart : Node.ofEvent? (.mappingStart .none) = some (.mappingStart none) := rfl
    have hend : Node.ofEvent? .mappingEnd = some .mappingEnd := rfl
    rw [hitems, List.filterMap_cons_some hstart, List.filterMap_append, List.filterMap_flatMap]
    simp [hentry, hend]

end Document

end ChangeLint.Yaml
