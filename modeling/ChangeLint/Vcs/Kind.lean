/-! # Supported version control systems -/

namespace ChangeLint.Vcs

/-- The version control systems that can be asked for changes. -/
inductive Kind where
  | git
  | mercurial
  deriving DecidableEq, Repr

namespace Kind

/-- The name by which a system is chosen; it is also the name of its program. -/
def name : Kind → String
  | git => "git"
  | mercurial => "hg"

/-- All systems, in the order in which they are tried. -/
def all : List Kind := [git, mercurial]

end Kind

end ChangeLint.Vcs
