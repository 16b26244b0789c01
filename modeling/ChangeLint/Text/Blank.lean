/-! # Blanks, words and trimming

Blank characters are those with the Unicode property White_Space.  On them rest the
three ways in which this library cuts text: trimming at either end, splitting into
maximal runs of other characters (`words`), and splitting at every character of a
class (`splitWhere`).

All work is on `List Char`; `String` versions are thin wrappers at the end. -/

namespace ChangeLint.Text

/-! ## Section 1: The class -/

/-- Is this a character with the Unicode property White_Space? -/
def isBlank (c : Char) : Bool :=
  let n := c.toNat
  (9 ≤ n && n ≤ 13) || n == 0x20 || n == 0x85 || n == 0xA0 || n == 0x1680
    || (0x2000 ≤ n && n ≤ 0x200A) || n == 0x2028 || n == 0x2029 || n == 0x202F
    || n == 0x205F || n == 0x3000

/-! ## Section 2: Trimming -/

/-- Drops the blanks at the start. -/
def dropBlanks (cs : List Char) : List Char := cs.dropWhile isBlank

/-- Drops the blanks at the end. -/
def dropBlanksEnd (cs : List Char) : List Char := (cs.reverse.dropWhile isBlank).reverse

/-- Drops the blanks at both ends. -/
def trimmed (cs : List Char) : List Char := dropBlanksEnd (dropBlanks cs)

/-! ## Section 3: Splitting -/

/-- The pieces between the characters of class `p`: one more piece than there are such
characters, and a piece may be empty. -/
def splitWhere (p : Char → Bool) : List Char → List (List Char)
  | [] => [[]]
  | c :: cs =>
    if p c then [] :: splitWhere p cs
    else
      match splitWhere p cs with
      | [] => [[c]]
      | piece :: pieces => (c :: piece) :: pieces

/-- There is always a first piece. -/
theorem splitWhere_ne_nil (p : Char → Bool) (cs : List Char) : splitWhere p cs ≠ [] := by
  induction cs with
  | nil => simp [splitWhere]
  | cons c cs _ =>
    unfold splitWhere
    split
    · simp
    · split <;> simp

/-- No piece holds a separator. -/
theorem not_sep_of_mem_splitWhere {p : Char → Bool} {cs : List Char} :
    ∀ piece ∈ splitWhere p cs, ∀ c ∈ piece, p c = false := by
  induction cs with
  | nil => simp [splitWhere]
  | cons d cs ih =>
    unfold splitWhere
    split
    · simpa using ih
    · next hd =>
      split
      · next h => exact absurd h (splitWhere_ne_nil p cs)
      · next piece pieces h =>
        rw [h] at ih
        intro q hq c hc
        rcases List.mem_cons.mp hq with rfl | hq
        · rcases List.mem_cons.mp hc with rfl | hc
          · simpa using hd
          · exact ih piece (by simp) c hc
        · exact ih q (by simp [hq]) c hc

/-- The maximal runs of characters that are not blank. -/
def words (cs : List Char) : List (List Char) := (splitWhere isBlank cs).filter (!·.isEmpty)

/-- Everything before the first character of class `p`, and everything after it; `none` if
there is no such character. -/
def splitAtFirst? (p : Char → Bool) : List Char → Option (List Char × List Char)
  | [] => none
  | c :: cs => if p c then some ([], cs) else (splitAtFirst? p cs).map fun r => (c :: r.1, r.2)

/-! ## Section 4: Fixed pieces of text -/

/-- What follows `head` at the start of the text, if the text starts so. -/
def stripHead? : List Char → List Char → Option (List Char)
  | [], cs => some cs
  | _ :: _, [] => none
  | h :: head, c :: cs => if h = c then stripHead? head cs else none

/-- Only what was stripped and the rest make the text. -/
theorem stripHead?_eq_some_iff {head cs rest : List Char} :
    stripHead? head cs = some rest ↔ cs = head ++ rest := by
  induction head generalizing cs with
  | nil => simp [stripHead?, eq_comm]
  | cons h head ih =>
    cases cs with
    | nil => simp [stripHead?]
    | cons c cs =>
      by_cases hc : h = c
      · simp [stripHead?, hc, ih]
      · simp [stripHead?, hc, Ne.symm hc]

/-- Cuts the text at the first place where `mark` stands, into what is before and after it. -/
def splitAtText? (mark : List Char) : List Char → Option (List Char × List Char)
  | [] => (stripHead? mark []).map fun rest => ([], rest)
  | c :: cs =>
    match stripHead? mark (c :: cs) with
    | some rest => some ([], rest)
    | none => (splitAtText? mark cs).map fun r => (c :: r.1, r.2)

/-- What follows the last place where `mark` stands. -/
def afterLast? (mark : List Char) : List Char → Option (List Char)
  | [] => stripHead? mark []
  | c :: cs =>
    match afterLast? mark cs with
    | some rest => some rest
    | none => stripHead? mark (c :: cs)

/-- Replaces each backslash by a slash. -/
def forwardSlashes (cs : List Char) : List Char := cs.map fun c => if c = '\\' then '/' else c

/-! ## Section 5: The same on strings -/

/-- The text without blanks at either end. -/
def trim (s : String) : String := String.ofList (trimmed s.toList)

/-- The text without blanks at its end. -/
def trimEnd (s : String) : String := String.ofList (dropBlanksEnd s.toList)

/-- Does the text hold nothing but blanks? -/
def isBlankText (s : String) : Bool := s.toList.all isBlank

end ChangeLint.Text
