/-! # What a terminal shows of a text

Escape sequences steer a terminal and show nothing.  `visible` leaves them out, together with
control characters other than blanks, so that a text from elsewhere can be shown among the
program's own words.

* An escape character begins a sequence anywhere, also inside of another one.
* A blank that is a control character ends a sequence and is shown, unless the sequence holds a
  string of its own.
* A character beyond ASCII inside of a sequence belongs to it and is not shown.  Sequences are
  made of bytes, so such a character may end a string: by the byte `0x9C`. -/

namespace ChangeLint.Text.Terminal

/-- What the characters before belong to. -/
inductive Context where
  /-- Nothing special. -/
  | plain
  /-- A sequence that has just begun. -/
  | escape
  /-- A sequence with an intermediate character. -/
  | intermediate
  /-- A control sequence, which a letter or sign ends. -/
  | control
  /-- A command of the operating system, which a bell ends. -/
  | command
  /-- A device control string that has just begun. -/
  | device
  /-- The parameters of a device control string. -/
  | deviceParameters
  /-- A device control string with an intermediate character. -/
  | deviceIntermediate
  /-- A string, which only a byte of its own, a further sequence or a cancellation ends. -/
  | string
  deriving DecidableEq, Repr

/-- Is the code point below the printable ones? -/
def isControl (n : Nat) : Bool := n < 0x20

/-- Does a control character leave space? -/
def isShownControl (n : Nat) : Bool := n == 0x09 || n == 0x0A || n == 0x0C || n == 0x0D

/-- What a sequence becomes with its first character. -/
def opened (n : Nat) : Context :=
  if n ≤ 0x2F then .intermediate
  else if n = 0x5B then .control
  else if n = 0x5D then .command
  else if n = 0x50 then .device
  else if n = 0x58 ∨ n = 0x5E ∨ n = 0x5F then .string
  else .plain

/-- What a device control string becomes with a printable character; it goes on with parameters
below one code point only. -/
def deviceStep (stop n : Nat) : Context :=
  if n ≤ 0x2F then .deviceIntermediate else if n < stop then .deviceParameters else .string

/-- What a context becomes with a printable character of ASCII. -/
def afterPrintable (context : Context) (n : Nat) : Context :=
  match context with
  | .plain => .plain
  | .escape => opened n
  | .intermediate => if 0x30 ≤ n then .plain else .intermediate
  | .control => if 0x40 ≤ n then .plain else .control
  | .command => .command
  | .device => deviceStep 0x40 n
  | .deviceParameters => deviceStep 0x3C n
  | .deviceIntermediate => deviceStep 0x30 n
  | .string => .string

/-- Are blanks inside of a sequence taken as part of it? -/
def takesBlanks : Context → Bool
  | .plain | .escape | .intermediate | .control => false
  | _ => true

/-- Does the character hold the byte that ends a string? -/
def endsString (c : Char) : Bool := (String.utf8EncodeChar c).contains 0x9C

/-- What the next characters belong to after a character, and whether it is shown. -/
def step (context : Context) (c : Char) : Context × Bool :=
  let n := c.toNat
  if n = 0x1B then (.escape, false)
  else if n = 0x18 ∨ n = 0x1A then (.plain, false)
  else if 0x80 ≤ n then
    (if context = .string ∧ endsString c then .plain else context, context = .plain)
  else if context = .command ∧ n = 0x07 then (.plain, false)
  else if isShownControl n ∧ !takesBlanks context then (.plain, true)
  else if isControl n ∨ n = 0x7F then (context, false)
  else (afterPrintable context n, context = .plain)

/-- The characters shown of a text that stands in a context. -/
def visibleFrom (context : Context) : List Char → List Char
  | [] => []
  | c :: rest =>
    let (next, shown) := step context c
    if shown then c :: visibleFrom next rest else visibleFrom next rest

/-- The characters shown of a text. -/
def visible (text : List Char) : List Char := visibleFrom .plain text

/-- The text that is shown of a text. -/
def visibleText (text : String) : String := String.ofList (visible text.toList)

end ChangeLint.Text.Terminal
