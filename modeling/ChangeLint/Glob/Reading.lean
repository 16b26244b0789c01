import ChangeLint.Glob.Basic

/-! # Reading globs

A glob is read character by character.  The reader holds the sequence being read, the groups
that are open around it, and what is pending: stars whose meaning the next character decides,
or a class.

* `?` is any byte, `*` any bytes.
* `**` at the start of a sequence and before a slash or the end stands for leading
  directories; after a slash and before the end of the sequence for everything below; between
  slashes for inner directories; everywhere else for any bytes.
* `[…]` is a class.  `!` or `^` at its start negates it; `]` or `-` as its first character and
  `-` as its last one stand for themselves.
* `{…,…}` is a group.  Outside of groups a comma stands for itself. -/

namespace ChangeLint.Glob

/-! ## Section 1: Classes -/

/-- A class being read: the ranges so far, the last one first, whether a character was read,
and whether the last character was a dash that may make a range. -/
structure ClassReader where
  negated : Bool
  ranges : List (Char × Char)
  started : Bool
  dash : Bool
  deriving Repr

namespace ClassReader

/-- A class of which nothing has been read. -/
def start : ClassReader := ⟨false, [], false, false⟩

/-- Adds a character: the end of the last range after a dash, and else a range of its own.
A range must not end before it starts. -/
def add (reader : ClassReader) (c : Char) : Except Fault ClassReader :=
  match reader.dash, reader.ranges with
  | true, (low, _) :: ranges =>
    if c < low then .error (.invalidRange low c)
    else .ok { reader with ranges := (low, c) :: ranges, started := true, dash := false }
  | _, ranges =>
    .ok { reader with ranges := (c, c) :: ranges, started := true, dash := false }

/-- The token of a class at whose end we are. -/
def token (reader : ClassReader) : Token :=
  let ranges := if reader.dash then ('-', '-') :: reader.ranges else reader.ranges
  .oneOf reader.negated ranges.reverse

end ClassReader

/-! ## Section 2: The reader -/

/-- An open group: its finished branches, the last one first, and the sequence before it, also
back to front. -/
structure OpenGroup where
  branches : List (List Token)
  before : List Token
  deriving Repr

/-- What the next character decides. -/
inductive Pending where
  | nothing
  /-- One star, and the character before it. -/
  | star (before : Option Char)
  /-- Two stars, and the character before them. -/
  | twoStars (before : Option Char)
  /-- A class of which nothing was read. -/
  | classStart
  /-- A class being read. -/
  | inClass (reader : ClassReader)
  deriving Repr

/-- What was read so far. -/
structure Reader where
  /-- The open groups, the innermost first. -/
  groups : List OpenGroup
  /-- The tokens of the current sequence, back to front. -/
  tokens : List Token
  /-- The last character that was read. -/
  last : Option Char
  pending : Pending
  deriving Repr

namespace Reader

/-- Before the first character. -/
def start : Reader := ⟨[], [], none, .nothing⟩

/-- The reader with a token more. -/
def push (reader : Reader) (token : Token) : Reader :=
  { reader with tokens := token :: reader.tokens }

/-- The reader with nothing pending. -/
def settled (reader : Reader) : Reader := { reader with pending := .nothing }

/-- Opens a group. -/
def openGroup (reader : Reader) : Reader :=
  { reader with groups := ⟨[], reader.tokens⟩ :: reader.groups, tokens := [] }

/-- Ends a branch of the innermost group; outside of groups a comma stands for itself. -/
def comma (reader : Reader) : Reader :=
  match reader.groups with
  | [] => reader.push (.literal ',')
  | group :: groups =>
    { reader with
      groups := { group with branches := reader.tokens.reverse :: group.branches } :: groups
      tokens := [] }

/-- Closes the innermost group. -/
def closeGroup (reader : Reader) : Except Fault Reader :=
  match reader.groups with
  | [] => .error .unopenedGroup
  | group :: groups =>
    let branches := (reader.tokens.reverse :: group.branches).reverse
    .ok { reader with groups, tokens := .alternatives branches :: group.before }

/-- Reads a character while nothing is pending. -/
def plain (reader : Reader) (c : Char) : Except Fault Reader :=
  let reader := { reader with last := some c }
  if c = '?' then .ok (reader.push .anyByte)
  else if c = '[' then .ok { reader with pending := .classStart }
  else if c = '{' then .ok reader.openGroup
  else if c = '}' then reader.closeGroup
  else if c = ',' then .ok reader.comma
  else .ok (reader.push (.literal c))

/-- What two stars stand for. -/
inductive Stars where
  /-- Any bytes. -/
  | loose
  | leading
  | below
  | inner
  deriving DecidableEq, Repr

/-- What two stars stand for between the characters before and after them. -/
def starsBetween (reader : Reader) (before after : Option Char) : Stars :=
  if reader.tokens.isEmpty then
    if after = none ∨ after = some '/' then .leading else .loose
  else if before = some '/' then
    if after = some '/' then .inner
    else if after = none then .below
    else if !reader.groups.isEmpty && (after = some ',' || after = some '}') then .below
    else .loose
  else .loose

/-- Replaces the last token, unless it already takes in what the new one would. -/
def absorb (reader : Reader) (token : Token) : Reader :=
  match reader.tokens with
  | .leadingDirs :: _ => reader
  | .everythingBelow :: _ => reader
  | _ :: tokens => { reader with tokens := token :: tokens }
  | [] => { reader with tokens := [token] }

/-- Adds what two stars stand for. -/
def pushStars (reader : Reader) : Stars → Reader
  -- These are the two stars as they stand.
  | .loose => (reader.push .anyBytes).push .anyBytes
  | .leading => reader.push .leadingDirs
  | .below => reader.absorb .everythingBelow
  | .inner => reader.absorb .innerDirs

/-- Do two stars of this kind take the slash after them with them? -/
def Stars.takesSlash : Stars → Bool
  | leading | inner => true
  | loose | below => false

/-- Reads a character that is not part of a class, with no star pending. -/
def fresh (reader : Reader) (c : Char) : Except Fault Reader :=
  if c = '*' then .ok { reader with pending := .star reader.last, last := some c }
  else reader.plain c

/-- Reads a character of a class. -/
def classStep (reader : Reader) (cls : ClassReader) (c : Char) : Except Fault Reader :=
  let reader := { reader with last := some c }
  -- A bracket ends the class only behind its first character.
  if c = ']' ∧ cls.started then .ok (reader.push cls.token).settled
  else if c = '-' ∧ cls.started ∧ !cls.dash then
    .ok { reader with pending := .inClass { cls with dash := true } }
  else (cls.add c).map fun cls => { reader with pending := .inClass cls }

/-- Reads a character. -/
def step (reader : Reader) (c : Char) : Except Fault Reader :=
  match reader.pending with
  | .nothing => reader.fresh c
  | .star before =>
    if c = '*' then .ok { reader with pending := .twoStars before, last := some c }
    -- The star stands alone, and the character is no star.
    else (reader.settled.push .anyBytes).plain c
  | .twoStars before =>
    -- A third star is a character like any other here.
    let stars := reader.starsBetween before (some c)
    let next := reader.settled.pushStars stars
    if stars.takesSlash then .ok { next with last := some c } else next.fresh c
  | .classStart =>
    if c = '!' ∨ c = '^' then
      .ok { reader with
        pending := .inClass { ClassReader.start with negated := true }
        last := some c }
    else reader.classStep .start c
  | .inClass cls => reader.classStep cls c

/-- Settles what is pending at the end of the text. -/
def finish (reader : Reader) : Except Fault Reader :=
  match reader.pending with
  | .nothing => .ok reader
  | .star _ => .ok (reader.settled.push .anyBytes)
  | .twoStars before => .ok (reader.settled.pushStars (reader.starsBetween before none))
  | .classStart | .inClass _ => .error .unclosedClass

/-- The glob that was read, if no group is open. -/
def result (reader : Reader) : Except Fault Glob :=
  if reader.groups.isEmpty then .ok ⟨reader.tokens.reverse⟩ else .error .unclosedGroup

end Reader

/-- Reads a glob. -/
def read (pattern : List Char) : Except Fault Glob := do
  let reader ← pattern.foldlM Reader.step .start
  let reader ← reader.finish
  reader.result

end ChangeLint.Glob
