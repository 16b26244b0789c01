import ChangeLint.Glob.Basic
import ChangeLint.Text.Utf8

/-! # Matching globs

A glob is matched from its end.  For each rest of the path, from the whole path down to the
empty rest, we keep whether what follows in the glob matches that rest: one truth value more
than the path has bytes.  Each token turns the values for what follows it into the values
for itself and what follows it, so that the work is at most the length of the glob times the
square of the length of the path. -/

namespace ChangeLint.Glob

/-- For each rest of a path, from the longest to the empty one: does it match? -/
abbrev Accepts : Type := List Bool

namespace Accepts

/-- Only the empty rest matches. -/
def atEnd (path : List UInt8) : Accepts := path.map (fun _ => false) ++ [true]

/-- No rest matches. -/
def never (path : List UInt8) : Accepts := path.map (fun _ => false) ++ [false]

/-- A rest matches if its first byte is in the class and the rest after it matched before. -/
def afterByte (p : UInt8 → Bool) (path : List UInt8) (rest : Accepts) : Accepts :=
  List.zipWith (fun b ok => p b && ok) path rest.tail ++ [false]

/-- A rest matches if some end of it, or the whole of it, matched before. -/
def afterAnyBytes : Accepts → Accepts
  | [] => []
  | ok :: rest => (ok || rest.any id) :: afterAnyBytes rest

/-- A rest matches if it matches in one of two ways. -/
def or (a b : Accepts) : Accepts := List.zipWith (fun x y => x || y) a b

end Accepts

/-- The slash as a byte. -/
def isSlash (b : UInt8) : Bool := b == 0x2F

/-- Does a range of a class hold a byte?  A class knows bytes only: of a range the last byte of
its first character and the first byte of its last character are the bounds, and all other
bytes of the two characters are members on their own. -/
def rangeHolds (range : Char × Char) (b : UInt8) : Bool :=
  let low := String.utf8EncodeChar range.1
  let high := String.utf8EncodeChar range.2
  if range.1 = range.2 then low.contains b
  else
    low.dropLast.contains b || high.tail.contains b
      || (low.getLastD 0 ≤ b && b ≤ high.headD 0)

mutual

/-- Does a token contribute nothing?  Only groups may, all of whose branches do so. -/
def Token.isVoid : Token → Bool
  | .alternatives branches => branchesAreVoid branches
  | _ => false

/-- Do all tokens contribute nothing? -/
def tokensAreVoid : List Token → Bool
  | [] => true
  | token :: tokens => token.isVoid && tokensAreVoid tokens

/-- Do all branches contribute nothing? -/
def branchesAreVoid : List (List Token) → Bool
  | [] => true
  | branch :: branches => tokensAreVoid branch && branchesAreVoid branches

end

mutual

/-- The rests that match a token and then what follows it.  Void branches of a group do not
count, and a group without other branches matches nothing but the empty text. -/
def Token.accepts (path : List UInt8) (rest : Accepts) : Token → Accepts
  | .literal c =>
    (String.utf8EncodeChar c).foldr (fun b rest => rest.afterByte (· == b) path) rest
  | .anyByte => rest.afterByte (fun _ => true) path
  | .anyBytes => rest.afterAnyBytes
  | .leadingDirs =>
    let slash := rest.afterByte isSlash path
    rest.or (slash.or slash.afterAnyBytes)
  | .everythingBelow => rest.afterAnyBytes.afterByte isSlash path
  | .innerDirs =>
    let slash := rest.afterByte isSlash path
    slash.or (slash.afterAnyBytes.afterByte isSlash path)
  | .oneOf negated ranges =>
    rest.afterByte (fun b => (ranges.any (rangeHolds · b)) != negated) path
  | .alternatives branches =>
    if branchesAreVoid branches then rest else branchesAccept path rest branches

/-- The rests that match a sequence of tokens and then what follows it. -/
def tokensAccept (path : List UInt8) (rest : Accepts) : List Token → Accepts
  | [] => rest
  | token :: tokens => token.accepts path (tokensAccept path rest tokens)

/-- The rests that match one of several sequences that are not void, and then what follows. -/
def branchesAccept (path : List UInt8) (rest : Accepts) : List (List Token) → Accepts
  | [] => .never path
  | branch :: branches =>
    if tokensAreVoid branch then branchesAccept path rest branches
    else (tokensAccept path rest branch).or (branchesAccept path rest branches)

end

/-- Does the glob match the whole of a path?  A glob that is nothing but leading directories
matches every path. -/
def isMatch (glob : Glob) (path : String) : Bool :=
  match glob.tokens with
  | [.leadingDirs] => true
  | tokens =>
    let bytes := Text.Utf8.bytes path
    (tokensAccept bytes (.atEnd bytes) tokens).headD false

end ChangeLint.Glob
