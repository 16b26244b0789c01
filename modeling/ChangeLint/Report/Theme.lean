/-! # Themes

A theme says how each part of a report is emphasised on a terminal.  An emphasis is a list
of effects, and an effect wraps a text in two escape sequences, the one that turns it on and
the one that turns it off.  The theme `off` has no effects at all. -/

namespace ChangeLint.Report

/-- An emphasis that a terminal can show. -/
inductive Effect where
  | bold
  | underline
  | reverse
  | red
  | yellow
  | blue
  | magenta
  deriving DecidableEq, Repr

namespace Effect

/-- The parameter of the sequence that turns an effect on. -/
def onCode : Effect → String
  | bold => "1"
  | underline => "4"
  | reverse => "7"
  | red => "31"
  | yellow => "33"
  | blue => "34"
  | magenta => "35"

/-- The parameter of the sequence that turns an effect off: a colour goes back to the default
colour, and every other effect resets all. -/
def offCode : Effect → String
  | bold | underline | reverse => "0"
  | red | yellow | blue | magenta => "39"

/-- The escape sequence with a parameter. -/
def sequence (code : String) : String := "\x1b[" ++ code ++ "m"

/-- The text with the effect around it. -/
def wrap (effect : Effect) (text : String) : String :=
  sequence effect.onCode ++ text ++ sequence effect.offCode

end Effect

/-- A part of a report. -/
inductive Part where
  | header
  | file
  | code
  | line
  | column
  | description
  deriving DecidableEq, Repr

namespace Part

/-- The part with a name. -/
def ofName? (name : String) : Option Part :=
  match name with
  | "header" => some header
  | "filename" => some file
  | "code" => some code
  | "line" => some line
  | "char" => some column
  | "description" => some description
  | _ => none

end Part

/-- A way to emphasise the parts of a report. -/
inductive Theme where
  /-- No emphasis. -/
  | off
  /-- Emphasis without colours. -/
  | nocolor
  /-- For dark backgrounds. -/
  | dark
  /-- For light backgrounds. -/
  | light
  deriving DecidableEq, Repr

namespace Theme

instance : Inhabited Theme := ⟨dark⟩

/-- All themes, in the order in which they are offered. -/
def all : List Theme := [off, nocolor, dark, light]

/-- The name of a theme. -/
def name : Theme → String
  | off => "off"
  | nocolor => "nocolor"
  | dark => "dark"
  | light => "light"

/-- The theme with a name. -/
def ofName? (name : String) : Option Theme := all.find? (·.name == name)

/-- A theme is found by its name. -/
@[simp] theorem ofName?_name (theme : Theme) : ofName? theme.name = some theme := by
  cases theme <;> decide

/-- The effects on a part, the innermost first. -/
def effects : Theme → Part → List Effect
  | off, _ => []
  | nocolor, .header => [.bold, .underline]
  | nocolor, .file => [.reverse]
  | nocolor, .code => [.bold]
  | nocolor, _ => []
  | dark, .header | light, .header => [.bold]
  | dark, .file | light, .file => []
  | dark, .code | light, .code => [.red, .bold]
  | dark, .line | light, .line | dark, .column | light, .column => [.magenta]
  | dark, .description => [.yellow]
  | light, .description => [.blue]

/-- The text of a part with its effects around it. -/
def paint (theme : Theme) (part : Part) (text : String) : String :=
  (theme.effects part).foldl (fun text effect => effect.wrap text) text

/-- The text of the part with a name; a name that no part has leaves the text as it is. -/
def paintNamed (theme : Theme) (name text : String) : String :=
  match Part.ofName? name with
  | some part => theme.paint part text
  | none => text

/-- Without a theme every text stays as it is. -/
@[simp] theorem paint_off (part : Part) (text : String) : off.paint part text = text := rfl

end Theme

end ChangeLint.Report
