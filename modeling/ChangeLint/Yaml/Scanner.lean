import ChangeLint.Yaml.BlockScalar
import ChangeLint.Yaml.PlainScalar
import ChangeLint.Yaml.Property
import ChangeLint.Yaml.QuotedScalar

/-! # From a text to tokens

The scanner reads one token after the other.  In blocks it turns indentation into tokens: a
collection starts where an entry is indented further than before and ends where one is
indented less.

A key is known to be one only when the colon after it is reached.  So every scalar or
collection that may be a *simple key* is remembered until then; it must be on one line, and
not be longer than 1024 bytes.  When the colon comes, the token for the key is put in
front of it.

`TokenStream.ofText` gives the tokens of a text up to the first fault.  Tokens from the first
simple key that is still undecided at a fault on are not given, because it is not known
whether a key starts there. -/

namespace ChangeLint.Yaml

/-! ## Section 1: State -/

/-- What may turn out to be a key. -/
structure SimpleKey where
  /-- Must it be a key, because of where it stands? -/
  required : Bool
  /-- How many tokens are before it. -/
  number : Nat
  mark : Mark
  deriving DecidableEq, Repr

/-- A scanner between two tokens. -/
structure Scanner where
  cursor : Cursor
  /-- The tokens so far, the last one first. -/
  tokens : List Token
  /-- How many flow collections are open. -/
  flow : Nat
  /-- The column of the current block; `-1` outside of all blocks. -/
  indent : Int
  /-- The columns of the blocks around it, the innermost first. -/
  indents : List Int
  /-- May a simple key start here? -/
  keyAllowed : Bool
  /-- The undecided key in the current flow collection, and those around it. -/
  keys : List (Option SimpleKey)
  deriving Repr

namespace Scanner

/-- The scanner after the token that starts every text. -/
def start (cs : List Char) : Scanner where
  cursor := .ofText cs
  tokens := [⟨.streamStart, .start, .start⟩]
  flow := 0
  indent := -1
  indents := []
  keyAllowed := true
  keys := [none]

/-- Where the scanner is. -/
def mark (s : Scanner) : Mark := s.cursor.mark

/-- The number of tokens so far. -/
def count (s : Scanner) : Nat := s.tokens.length

/-- Is the scanner in a flow collection? -/
def inFlow (s : Scanner) : Bool := s.flow != 0

/-- The scanner with a token more. -/
def push (s : Scanner) (kind : TokenKind) (start stop : Mark) : Scanner :=
  { s with tokens := ⟨kind, start, stop⟩ :: s.tokens }

/-- The scanner with a token that stands before all but the first `number` tokens. -/
def pushAt (s : Scanner) (number : Nat) (kind : TokenKind) (mark : Mark) : Scanner :=
  { s with tokens := s.tokens.insertIdx (s.count - number) ⟨kind, mark, mark⟩ }

/-- The scanner with an indicator of some characters as its token. -/
def pushIndicator (s : Scanner) (kind : TokenKind) (length : Nat) : Scanner :=
  let next := s.cursor.skip length
  { s.push kind s.mark next.mark with cursor := next }

/-- A fault here that belongs to no construct. -/
def fault (s : Scanner) (problem : String) : Fault := s.cursor.fault problem

/-! ## Section 2: Simple keys -/

/-- The fault that a required key has no colon. -/
def missingColon (s : Scanner) (key : SimpleKey) : Fault :=
  s.cursor.faultIn "while scanning a simple key" key.mark "could not find expected ':'"

/-- The longest simple key, in bytes. -/
def maxKey : Nat := 1024

/-- Is it too late for the key? -/
def isStale (s : Scanner) (key : SimpleKey) : Bool :=
  key.mark.line < s.mark.line || key.mark.index + maxKey < s.mark.index

/-- The undecided keys without those for which it is too late; a required one must not be among
these. -/
def freshKeys (s : Scanner) : List (Option SimpleKey) → Except Fault (List (Option SimpleKey))
  | [] => .ok []
  | none :: keys => do
    let keys ← s.freshKeys keys
    pure (none :: keys)
  | some key :: keys => do
    let keys ← s.freshKeys keys
    if s.isStale key then
      if key.required then throw (s.missingColon key)
      pure (none :: keys)
    else pure (some key :: keys)

/-- Gives up the keys for which it is too late. -/
def dropStale (s : Scanner) : Except Fault Scanner := do
  let keys ← s.freshKeys s.keys
  pure { s with keys }

/-- Gives up the undecided key of the current flow collection. -/
def dropKey (s : Scanner) : Except Fault Scanner :=
  match s.keys with
  | some key :: keys =>
    if key.required then .error (s.missingColon key) else .ok { s with keys := none :: keys }
  | _ => .ok s

/-- Remembers that the next token may be a key, if one may start here. -/
def saveKey (s : Scanner) : Except Fault Scanner :=
  if s.keyAllowed then do
    -- At the indentation of its block nothing but a key can stand.
    let required := !s.inFlow && decide (s.indent = s.mark.column)
    let s ← s.dropKey
    pure { s with keys := some ⟨required, s.count, s.mark⟩ :: s.keys.tail }
  else .ok s

/-- The scanner with or without leave for a simple key to start. -/
def allowKey (s : Scanner) (allowed : Bool) : Scanner := { s with keyAllowed := allowed }

/-! ## Section 3: Indentation -/

/-- Starts a block collection at a column, unless it is not indented further.  The token goes
before all but the first `number` tokens. -/
def openBlock (s : Scanner) (column : Nat) (number : Nat) (kind : TokenKind) (mark : Mark) :
    Scanner :=
  if !s.inFlow && decide (s.indent < column) then
    { s.pushAt number kind mark with indent := column, indents := s.indent :: s.indents }
  else s

/-- Ends the block collections that are indented further than a column. -/
def closeBlocksFrom (column : Int) : List Int → Scanner → Scanner
  | [], s => s
  | outer :: indents, s =>
    if column < s.indent then
      closeBlocksFrom column indents
        { s.push .blockEnd s.mark s.mark with indent := outer, indents }
    else s

/-- Ends the block collections that are indented further than a column. -/
def closeBlocks (s : Scanner) (column : Int) : Scanner :=
  if s.inFlow then s else closeBlocksFrom column s.indents s

/-! ## Section 4: Between tokens -/

/-- Does a space or tab count as a gap here?  In blocks a tab does not where a key may start. -/
def isGapHere (s : Scanner) (c : Char) : Bool :=
  c == ' ' || ((s.inFlow || !s.keyAllowed) && c == '\t')

/-- After gaps, comments and line ends; in blocks a key may start on a new line. -/
def skipToToken : Nat → Scanner → Scanner
  | 0, s => s
  | fuel + 1, s =>
    let c := (s.cursor.skipByteOrderMark.skipWhile s.isGapHere).skipComment
    if isBreak c.peek then
      skipToToken fuel { s with cursor := c.skipBreak, keyAllowed := s.keyAllowed || !s.inFlow }
    else { s with cursor := c }

/-! ## Section 5: Tokens -/

/-- The end of the text, which counts as the start of a line. -/
def scanEnd (s : Scanner) : Except Fault Scanner := do
  let mark := s.mark
  let mark := if mark.column = 0 then mark else { mark with column := 0, line := mark.line + 1 }
  let s := { s with cursor := { s.cursor with mark } }
  let s ← (s.closeBlocks (-1)).dropKey
  pure ((s.allowKey false).push .streamEnd mark mark)

/-- A directive. -/
def scanDirective (s : Scanner) : Except Fault Scanner := do
  let s ← (s.closeBlocks (-1)).dropKey
  let (kind, stop, next) ← Property.readDirective s.cursor
  pure { (s.allowKey false).push kind s.mark stop with cursor := next }

/-- A line that begins or ends a document. -/
def scanDocumentMarker (s : Scanner) (kind : TokenKind) : Except Fault Scanner := do
  let s ← (s.closeBlocks (-1)).dropKey
  pure ((s.allowKey false).pushIndicator kind 3)

/-- The start of a flow collection, which may be a key itself. -/
def scanFlowStart (s : Scanner) (kind : TokenKind) : Except Fault Scanner := do
  let s ← s.saveKey
  let s := { s with flow := s.flow + 1, keys := none :: s.keys }
  pure ((s.allowKey true).pushIndicator kind 1)

/-- The end of a flow collection. -/
def scanFlowEnd (s : Scanner) (kind : TokenKind) : Except Fault Scanner := do
  let s ← s.dropKey
  let s := if s.inFlow then { s with flow := s.flow - 1, keys := s.keys.tail } else s
  pure ((s.allowKey false).pushIndicator kind 1)

/-- The comma between entries of a flow collection. -/
def scanFlowEntry (s : Scanner) : Except Fault Scanner := do
  let s ← s.dropKey
  pure ((s.allowKey true).pushIndicator .flowEntry 1)

/-- In blocks, refuses an indicator where no key may start, and starts a collection. -/
def blockIndicator (s : Scanner) (kind : TokenKind) (problem : String) : Except Fault Scanner :=
  if s.inFlow then .ok s
  else if s.keyAllowed then .ok (s.openBlock s.mark.column s.count kind s.mark)
  else .error (s.fault problem)

/-- The dash before an entry of a block sequence. -/
def scanBlockEntry (s : Scanner) : Except Fault Scanner := do
  let s ← s.blockIndicator .blockSequenceStart
    "block sequence entries are not allowed in this context"
  let s ← s.dropKey
  pure ((s.allowKey true).pushIndicator .blockEntry 1)

/-- The question mark before a key. -/
def scanKey (s : Scanner) : Except Fault Scanner := do
  let s ← s.blockIndicator .blockMappingStart "mapping keys are not allowed in this context"
  let s ← s.dropKey
  pure ((s.allowKey (!s.inFlow)).pushIndicator .key 1)

/-- The colon before a value. -/
def scanValue (s : Scanner) : Except Fault Scanner :=
  match s.keys with
  | some key :: keys =>
    let s := { s with keys := none :: keys }
    -- The key is known only now, so its tokens go in front of it.
    let s := s.pushAt key.number .key key.mark
    let s := s.openBlock key.mark.column key.number .blockMappingStart key.mark
    .ok ((s.allowKey false).pushIndicator .value 1)
  -- The key stands behind a question mark, or it is empty.
  | _ => do
    let s ← s.blockIndicator .blockMappingStart
      "mapping values are not allowed in this context"
    pure ((s.allowKey (!s.inFlow)).pushIndicator .value 1)

/-- An anchor. -/
def scanAnchor (s : Scanner) : Except Fault Scanner := do
  let s ← s.saveKey
  let (name, next) ← Property.readName "while scanning an anchor" s.cursor
  pure { (s.allowKey false).push (.anchor name) s.mark next.mark with cursor := next }

/-- An alias. -/
def scanAlias (s : Scanner) : Except Fault Scanner := do
  let s ← s.saveKey
  let (name, next) ← Property.readName "while scanning an alias" s.cursor
  pure { (s.allowKey false).push (.alias name) s.mark next.mark with cursor := next }

/-- A tag. -/
def scanTag (s : Scanner) : Except Fault Scanner := do
  let s ← s.saveKey
  let (kind, next) ← Property.readTag s.inFlow s.cursor
  pure { (s.allowKey false).push kind s.mark next.mark with cursor := next }

/-- A block scalar, after which a key may start. -/
def scanBlockScalar (s : Scanner) (literal : Bool) : Except Fault Scanner := do
  let s ← s.dropKey
  let (text, next) ← Block.read literal s.indent s.cursor
  let style := if literal then .literal else .folded
  pure { (s.allowKey true).push (.scalar text style) s.mark next.mark with cursor := next }

/-- A quoted scalar. -/
def scanQuoted (s : Scanner) (single : Bool) : Except Fault Scanner := do
  let s ← s.saveKey
  let (text, next) ← Quoted.read single s.cursor
  let style := if single then .singleQuoted else .doubleQuoted
  pure { (s.allowKey false).push (.scalar text style) s.mark next.mark with cursor := next }

/-- A plain scalar; if a line has ended after it, a key may start. -/
def scanPlain (s : Scanner) : Except Fault Scanner := do
  let s ← s.saveKey
  let result ← Plain.read s.inFlow s.indent s.cursor
  pure { (s.allowKey result.broken).push (.scalar result.text .plain) s.mark result.stop with
    cursor := result.after }

/-- May a plain scalar not start with this character, whatever follows? -/
def isIndicator (c : Char) : Bool :=
  isGapOrEnd c || isFlowIndicator c || c == '-' || c == '?' || c == ':' || c == '#'
    || c == '&' || c == '*' || c == '!' || c == '|' || c == '>' || c == '\'' || c == '"'
    || c == '%' || c == '@' || c == '\x60'

/-- May a plain scalar start here? -/
def startsPlain (s : Scanner) : Bool :=
  let c := s.cursor.peek
  let next := s.cursor.peekAt 1
  !isIndicator c || (c == '-' && !isGap next)
    || (!s.inFlow && (c == '?' || c == ':') && !isGapOrEnd next)

/-- The token that starts here. -/
def scanToken (s : Scanner) : Except Fault Scanner :=
  let c := s.cursor.peek
  let gapNext := isGapOrEnd (s.cursor.peekAt 1)
  if s.cursor.atEnd then s.scanEnd
  else if s.mark.column == 0 && c == '%' then s.scanDirective
  else if s.cursor.isMarker '-' then s.scanDocumentMarker .documentStart
  else if s.cursor.isMarker '.' then s.scanDocumentMarker .documentEnd
  else if c == '[' then s.scanFlowStart .flowSequenceStart
  else if c == '{' then s.scanFlowStart .flowMappingStart
  else if c == ']' then s.scanFlowEnd .flowSequenceEnd
  else if c == '}' then s.scanFlowEnd .flowMappingEnd
  else if c == ',' then s.scanFlowEntry
  else if c == '-' && gapNext then s.scanBlockEntry
  else if c == '?' && (s.inFlow || gapNext) then s.scanKey
  else if c == ':' && (s.inFlow || gapNext) then s.scanValue
  else if c == '*' then s.scanAlias
  else if c == '&' then s.scanAnchor
  else if c == '!' then s.scanTag
  else if c == '|' && !s.inFlow then s.scanBlockScalar true
  else if c == '>' && !s.inFlow then s.scanBlockScalar false
  else if c == '\'' then s.scanQuoted true
  else if c == '"' then s.scanQuoted false
  else if s.startsPlain then s.scanPlain
  else
    .error (s.cursor.faultIn "while scanning for the next token" s.mark
      "found character that cannot start any token")

/-- Reads the next token. -/
def next (s : Scanner) : Except Fault Scanner := do
  let s := skipToToken (s.cursor.rest.length + 1) s
  -- Before and behind the token, for either may have moved on to another line.
  let s ← s.dropStale
  let s ← (s.closeBlocks s.mark.column).scanToken
  s.dropStale

/-! ## Section 6: Whole texts -/

/-- Is the text at its end? -/
def isDone (s : Scanner) : Bool :=
  match s.tokens with
  | ⟨.streamEnd, _, _⟩ :: _ => true
  | _ => false

/-- The least number of an undecided key, or the number of all tokens. -/
def decided (s : Scanner) : Nat :=
  (s.keys.filterMap id).foldl (fun least key => min least key.number) s.count

/-- The tokens that can be given when a fault follows. -/
def decidedTokens (s : Scanner) : List Token := s.tokens.reverse.take s.decided

end Scanner

/-- The tokens of a text, and the fault that ends them if there is one. -/
structure TokenStream where
  tokens : List Token
  fault : Option Fault
  deriving Repr

namespace TokenStream

/-- Reads tokens up to the end of the text or a fault. -/
def scan : Nat → Scanner → TokenStream
  | 0, s => ⟨s.tokens.reverse, none⟩
  | fuel + 1, s =>
    match s.next with
    | .error fault => ⟨s.decidedTokens, some fault⟩
    | .ok s => if s.isDone then ⟨s.tokens.reverse, none⟩ else scan fuel s

/-- The first character that no text may hold, by the number of bytes before it. -/
def forbiddenFrom (offset : Nat) : List Char → Option Nat
  | [] => none
  | c :: cs =>
    if isAllowed c then forbiddenFrom (offset + Text.Utf8.width c) cs else some offset

/-- The tokens of a text. -/
def ofText (cs : List Char) : TokenStream :=
  match forbiddenFrom 0 cs with
  -- The whole text is looked through before the first token.
  | some offset => ⟨[], some ⟨"control characters are not allowed", .start, none, offset⟩⟩
  | none => scan (cs.length + 1) (.start cs)

end TokenStream

end ChangeLint.Yaml
