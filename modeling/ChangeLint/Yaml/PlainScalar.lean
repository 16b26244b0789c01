import ChangeLint.Yaml.Folding

/-! # Plain scalars

A plain scalar goes on over words and folded gaps.  It ends before a colon that a gap follows,
before a comment, before a line that begins or ends a document, and before a line that is
indented too little; in flow collections also before their delimiters. -/

namespace ChangeLint.Yaml.Plain

/-- The start of a text that is one word of a plain scalar, and whether the word ended at a
colon that must not stand there. -/
def word (flow : Bool) : List Char → List Char × Bool
  | [] => ([], false)
  | c :: cs =>
    let next := cs.headD terminator
    if isGapOrEnd c then ([], false)
    else if flow && c == ':' && (isFlowIndicator next || next == '?') then ([], true)
    else if (c == ':' && isGapOrEnd next) || (flow && isFlowIndicator c) then ([], false)
    else
      let rest := word flow cs
      (c :: rest.1, rest.2)

/-- A plain scalar that was read: its text, where it ends, where reading goes on, and whether a
line end is between the two. -/
structure Result where
  text : List Char
  stop : Mark
  after : Cursor
  broken : Bool
  deriving DecidableEq, Repr

/-- Reads words and gaps on top of what was read, whose last gap is still open. -/
def readFrom (flow : Bool) (indent : Int) (start : Mark) :
    Nat → List Char → Mark → Gap → Cursor → Except Fault Result
  | 0, text, stop, gap, c => .ok ⟨text, stop, c, gap.broken⟩
  | fuel + 1, text, stop, gap, c =>
    let construct := "while scanning a plain scalar"
    if c.isDocumentMarker || c.peek == '#' then .ok ⟨text, stop, c, gap.broken⟩
    else
      let (chars, badColon) := word flow c.rest
      let after := c.skip chars.length
      if badColon then .error (after.faultIn construct start "found unexpected ':'")
      else if chars.isEmpty then .ok ⟨text, stop, c, gap.broken⟩
      else
        let text := text ++ gap.folded ++ chars
        let limit := indent.toNat
        match Gap.none.read limit after with
        | .error tab =>
          .error (tab.faultIn construct start
            "found a tab character that violates indentation")
        | .ok (next, onward) =>
          if !flow && decide ((onward.mark.column : Int) < indent) then
            .ok ⟨text, after.mark, onward, next.broken⟩
          else readFrom flow indent start fuel text after.mark next onward

/-- Reads a plain scalar in a block that is indented by `outer` columns; `-1` is the top of a
document. -/
def read (flow : Bool) (outer : Int) (c : Cursor) : Except Fault Result :=
  readFrom flow (outer + 1) c.mark (c.rest.length + 1) [] c.mark .none c

end ChangeLint.Yaml.Plain
