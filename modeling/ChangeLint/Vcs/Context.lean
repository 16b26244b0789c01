import ChangeLint.Patch.Reader
import ChangeLint.Vcs.Command
import ChangeLint.Vcs.Include
import ChangeLint.Vcs.Kind
import ChangeLint.Vcs.Provider

/-! # Git and Mercurial

Both systems answer by the output of three commands: one that succeeds where the system is in
effect, one that lists the changed files, and one that prints the diff of a file.  `Kind.used`,
`Kind.listing` and `Kind.diff` are the arguments of these commands, and `Kind.provider` puts
them to work.  The settings that change the form of the output are fixed in the arguments, so
that the configuration of a user cannot change it. -/

namespace ChangeLint.Vcs

open Host (Machine)

/-- What the commands are to be run for. -/
structure Context where
  /-- The directory in which commands are run. -/
  dir : String
  /-- The revisions to compare with. -/
  commits : List String
  /-- Which changed files are linted. -/
  filter : Include

namespace Kind

/-! ## Section 1: Arguments -/

/-- The arguments that ask whether a system is in effect. -/
def used : Kind → List String
  | git => ["rev-parse", "--is-inside-work-tree"]
  | mercurial => ["root"]

/-- The arguments of every diff of git.  Paths are relative to the directory and printed as they
are. -/
def gitDiff (commits options : List String) : List String :=
  ["-c", "core.quotePath=false", "diff", "--no-color", "--no-ext-diff", "--relative",
    "--src-prefix=a/", "--dst-prefix=b/"] ++ options ++ commits

/-- Each revision after an option of its own. -/
def revisions (commits : List String) : List String :=
  commits.flatMap fun commit => ["--rev", commit]

/-- The arguments that list the changed files.  Deleted files are left out. -/
def listing (commits : List String) : Kind → List String
  | git => gitDiff commits ["--name-only", "--diff-filter=ACMRT"]
  | mercurial => ["status", "--modified", "--added", "--no-status"] ++ revisions commits ++ ["."]

/-- The arguments that print the diff of a file. -/
def diff (commits : List String) (file : String) : Kind → List String
  | git => gitDiff commits ["-U0"] ++ ["--", file]
  | mercurial => ["diff", "--unified", "0"] ++ revisions commits ++ [file]

/-! ## Section 2: Answers -/

/-- The command of a system with some arguments. -/
def command (kind : Kind) (ctx : Context) (args : List String) : Command :=
  ⟨kind.name, args, ctx.dir⟩

/-- Is the system in effect? -/
def isUsed (kind : Kind) (ctx : Context) : Act Machine Bool :=
  (kind.command ctx kind.used).probe

/-- The changed files that are to be linted. -/
def changedFiles (kind : Kind) (ctx : Context) : Attempt Machine (List String) := do
  let output ← (kind.command ctx (kind.listing ctx.commits)).run
  let machine ← Attempt.ofAct Act.look
  pure (output.lines.filter (ctx.filter.accepts machine.tree ctx.dir))

/-- The changed lines of a file.  The diff of one file may name it by any path, so all entries
count. -/
def changedLines (kind : Kind) (ctx : Context) (file : String) :
    Attempt Machine Patch.LineSet := do
  let output ← (kind.command ctx (kind.diff ctx.commits file)).run
  pure (Patch.Changes.ofDiff output.stdout).merged

/-- The provider that asks a system. -/
def provider (ctx : Context) (kind : Kind) : Provider Machine where
  name := kind.name
  isUsed := kind.isUsed ctx
  changedFiles := kind.changedFiles ctx
  changedLines := kind.changedLines ctx

end Kind

/-- The providers of all systems, in the order in which they are tried. -/
def Context.providers (ctx : Context) : List (Provider Machine) := Kind.all.map (Kind.provider ctx)

end ChangeLint.Vcs
