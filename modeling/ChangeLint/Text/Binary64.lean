import ChangeLint.Text.Decimal

/-! # Binary floating point with 64 bits

A nonnegative number of this format is `mantissa · 2 ^ exponent`, where the mantissa has at
most 53 bits and the exponent is at least `-1074`.  `ofDecimal?` finds the number nearest to
a decimal one, with ties to the even mantissa, and `shortest` the decimal number with the
fewest digits that is nearer to a number of the format than to any other, which is the form
in which the number is shown. -/

namespace ChangeLint.Text

/-- A nonnegative number `mantissa · 2 ^ exponent`. -/
structure Binary64 where
  mantissa : Nat
  exponent : Int
  deriving DecidableEq, Repr

namespace Binary64

/-- A decimal number `digits · 10 ^ exponent`. -/
structure Decimal where
  digits : Nat
  exponent : Int
  deriving DecidableEq, Repr

/-- The least exponent. -/
def minExponent : Int := -1074

/-- The greatest exponent. -/
def maxExponent : Int := 971

/-- `n · b ^ e` as a fraction. -/
def scaled (n b : Nat) (e : Int) : Nat × Nat :=
  match e with
  | .ofNat k => (n * b.pow k, 1)
  | .negSucc k => (n, b.pow (k + 1))

/-! ## Section 1: Rounding -/

/-- The integer nearest to a fraction; of two as near, the even one. -/
def roundHalfEven (num den : Nat) : Nat :=
  let q := num / den
  let r := num % den
  if 2 * r < den then q
  else if den < 2 * r then q + 1
  else if q % 2 = 0 then q
  else q + 1

/-- The fraction divided by `2 ^ e`. -/
def overPowTwo (num den : Nat) (e : Int) : Nat × Nat :=
  match e with
  | .ofNat k => (num, den * Nat.pow 2 k)
  | .negSucc k => (num * Nat.pow 2 (k + 1), den)

/-- The exponent at which a positive fraction has a mantissa of 53 bits, if there is such a
mantissa, and else the least exponent. -/
def exponentOf (num den : Nat) : Int :=
  let guess := (Nat.log2 num : Int) - Nat.log2 den - 53
  let (n, d) := overPowTwo num den guess
  let exact := if Nat.pow 2 53 ≤ n / d then guess + 1 else guess
  max exact minExponent

/-- The number nearest to a positive fraction; none if the fraction is too large. -/
def ofFraction? (num den : Nat) : Option Binary64 :=
  let e := exponentOf num den
  let (n, d) := overPowTwo num den e
  let m := roundHalfEven n d
  let rounded : Binary64 := if m = Nat.pow 2 53 then ⟨Nat.pow 2 52, e + 1⟩ else ⟨m, e⟩
  if maxExponent < rounded.exponent then none else some rounded

/-- How many decimal digits a number has; zero has none. -/
def digitCount (n : Nat) : Nat := if n = 0 then 0 else (Decimal.written n).length

/-- The number nearest to a decimal one; none if that is too large.  Decimal numbers far out of
range are decided without computing them. -/
def ofDecimal? (decimal : Decimal) : Option Binary64 :=
  let magnitude : Int := digitCount decimal.digits + decimal.exponent
  if decimal.digits = 0 then some ⟨0, minExponent⟩
  else if 310 < magnitude then none
  else if magnitude < -330 then some ⟨0, minExponent⟩
  else
    let (num, den) := scaled decimal.digits 10 decimal.exponent
    ofFraction? num den

/-! ## Section 2: The shortest decimal form -/

/-- The fraction `n · 2 ^ (x.exponent - 2)`: quarters of a unit in the last place. -/
def quarters (x : Binary64) (n : Nat) : Nat × Nat := scaled n 2 (x.exponent - 2)

/-- The end of the interval below a number, in quarters; right above a power of two the numbers
below are closer together. -/
def lowQuarters (x : Binary64) : Nat :=
  if x.mantissa = Nat.pow 2 52 ∧ minExponent < x.exponent then 4 * x.mantissa - 1
  else 4 * x.mantissa - 2

/-- Is one fraction at most the other, or less if `strict`? -/
def below (strict : Bool) (a b : Nat × Nat) : Bool :=
  if strict then a.1 * b.2 < b.1 * a.2 else a.1 * b.2 ≤ b.1 * a.2

/-- Does a decimal number round to `x`?  The ends of the interval do if the mantissa is even. -/
def isRoundedBy (x : Binary64) (decimal : Decimal) : Bool :=
  let strict := x.mantissa % 2 = 1
  let value := scaled decimal.digits 10 decimal.exponent
  below strict (x.quarters x.lowQuarters) value
    && below strict value (x.quarters (4 * x.mantissa + 2))

/-- The exponent `k` with `10 ^ (k - 1) ≤ x < 10 ^ k`, for a positive `x`. -/
def magnitude (x : Binary64) : Int :=
  let (num, den) := x.quarters (4 * x.mantissa)
  (digitCount (num * Nat.pow 10 330 / den) : Int) - 330

/-- The multiples of `10 ^ e` next to `x`, the nearer one first, and the higher one first if
both are as near. -/
def neighbours (x : Binary64) (e : Int) : List Decimal :=
  let (num, den) := x.quarters (4 * x.mantissa)
  let (n, d) := match e with
    | .ofNat k => (num, den * Nat.pow 10 k)
    | .negSucc k => (num * Nat.pow 10 (k + 1), den)
  let low : Decimal := ⟨n / d, e⟩
  let high : Decimal := ⟨n / d + 1, e⟩
  if 2 * (n % d) < d then [low, high] else [high, low]

/-- The first decimal number that rounds to `x`, with `count` digits or more, among `fuel`
counts. -/
def shortestFrom (x : Binary64) (count : Nat) : Nat → Decimal
  | 0 => ⟨0, 0⟩
  | fuel + 1 =>
    match (x.neighbours (x.magnitude - count)).find? x.isRoundedBy with
    | some decimal => decimal
    | none => x.shortestFrom (count + 1) fuel

/-- The shortest decimal number that rounds to `x`; 17 digits always suffice.  The search starts
without digits, which finds the power of ten right above `x`. -/
def shortest (x : Binary64) : Decimal :=
  if x.mantissa = 0 then ⟨0, 0⟩ else x.shortestFrom 0 18

/-- Digits with a point before the last `places` of them, and as many zeros in front as that
takes. -/
def withPoint (digits : List Char) (places : Nat) : List Char :=
  let filled := List.replicate (places + 1 - digits.length) '0' ++ digits
  filled.take (filled.length - places) ++ ['.'] ++ filled.drop (filled.length - places)

/-- The positional form, always with a point. -/
def text (x : Binary64) : List Char :=
  let decimal := x.shortest
  let digits := Text.Decimal.written decimal.digits
  match decimal.exponent with
  | .ofNat k => digits ++ (if decimal.digits = 0 then [] else List.replicate k '0') ++ ['.', '0']
  | .negSucc k => withPoint digits (k + 1)

end Binary64

end ChangeLint.Text
