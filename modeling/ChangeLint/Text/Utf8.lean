/-! # Text as bytes

Encoding of characters as UTF-8, and reading of arbitrary bytes.  Reading never fails: it
yields *units*, where a unit is a character or a *gap*.  A gap stands for one maximal run of
bytes that starts like the encoding of a character and does not go on like one.  A lossy
reader shows each gap as U+FFFD; a strict reader refuses a text with a gap. -/

namespace ChangeLint.Text.Utf8

/-! ## Section 1: Encoding -/

/-- The bytes of a text. -/
def encode (cs : List Char) : List UInt8 := cs.flatMap String.utf8EncodeChar

@[simp] theorem encode_nil : encode [] = [] := rfl

@[simp] theorem encode_append (a b : List Char) : encode (a ++ b) = encode a ++ encode b := by
  simp [encode]

/-- The bytes of a string. -/
def bytes (s : String) : List UInt8 := encode s.toList

@[simp] theorem bytes_append (a b : String) : bytes (a ++ b) = bytes a ++ bytes b := by
  simp [bytes]

/-- How many bytes a character takes. -/
def width (c : Char) : Nat := (String.utf8EncodeChar c).length

/-! ## Section 2: Decoding -/

/-- A character of which some bytes have been read: their value, the bounds of the next byte,
and how many bytes are still to come after it. -/
structure Begun where
  value : Nat
  low : UInt8
  high : UInt8
  after : Nat
  deriving DecidableEq, Repr

/-- The bounds of the second byte.  Some first bytes restrict it, which excludes overlong
forms, surrogates and code points past U+10FFFF. -/
def secondBounds (first : UInt8) : UInt8 × UInt8 :=
  if first = 0xE0 then (0xA0, 0xBF)
  else if first = 0xED then (0x80, 0x9F)
  else if first = 0xF0 then (0x90, 0xBF)
  else if first = 0xF4 then (0x80, 0x8F)
  else (0x80, 0xBF)

/-- A character begun by `first`, whose payload is `value`, of `after + 2` bytes in all. -/
def Begun.ofFirst (first : UInt8) (value after : Nat) : Begun :=
  ⟨value, (secondBounds first).1, (secondBounds first).2, after⟩

/-- What a byte at the start of a character gives: units at once, or a character begun. -/
def first (b : UInt8) : List (Option Char) × Option Begun :=
  if b < 0x80 then ([some (Char.ofNat b.toNat)], none)
  else if 0xC2 ≤ b ∧ b ≤ 0xDF then ([], some (.ofFirst b (b.toNat % 32) 0))
  else if 0xE0 ≤ b ∧ b ≤ 0xEF then ([], some (.ofFirst b (b.toNat % 16) 1))
  else if 0xF0 ≤ b ∧ b ≤ 0xF4 then ([], some (.ofFirst b (b.toNat % 8) 2))
  else ([none], none)

/-- One byte: it ends or continues the character begun, or leaves a gap there and starts
anew. -/
def step : Option Begun → UInt8 → List (Option Char) × Option Begun
  | none, b => first b
  | some p, b =>
    if p.low ≤ b ∧ b ≤ p.high then
      let value := p.value * 64 + b.toNat % 64
      match p.after with
      | 0 => ([some (Char.ofNat value)], none)
      | after + 1 => ([], some ⟨value, 0x80, 0xBF, after⟩)
    else (none :: (first b).1, (first b).2)

/-- The units of the bytes that follow a character begun; a character not ended is a gap. -/
def unitsFrom : Option Begun → List UInt8 → List (Option Char)
  | none, [] => []
  | some _, [] => [none]
  | state, b :: bs => (step state b).1 ++ unitsFrom (step state b).2 bs

/-- The units of a byte sequence; `none` is a gap. -/
def units (bs : List UInt8) : List (Option Char) := unitsFrom none bs

/-- The text with each gap shown as U+FFFD. -/
def lossy (bs : List UInt8) : List Char := (units bs).map (·.getD '\uFFFD')

/-- The text, if there is no gap. -/
def strict? (bs : List UInt8) : Option (List Char) := (units bs).mapM id

/-- The string with each gap shown as U+FFFD. -/
def lossyText (bs : List UInt8) : String := String.ofList (lossy bs)

end ChangeLint.Text.Utf8
