import ChangeLint.Main
import ChangeLint.Proofs.Report.Blocks
import ChangeLint.Proofs.Engine.Visits
import ChangeLint.Proofs.Patch.RoundTrip
import ChangeLint.Proofs.Vcs.Answers
import ChangeLint.Proofs.Program.Stages
import ChangeLint.Proofs.Program.Course
import ChangeLint.Proofs.Program.ExitStatus
import ChangeLint.Proofs.Engine.Calls
import ChangeLint.Proofs.Engine.Writers
import ChangeLint.Proofs.Patch.OneFile
import ChangeLint.Proofs.Program.Backends
import ChangeLint.Proofs.Yaml.Cursors
import ChangeLint.Proofs.Yaml.PlainTexts
import ChangeLint.Proofs.Yaml.QuotedTexts
import ChangeLint.Proofs.Yaml.LiteralTexts
import ChangeLint.Proofs.Yaml.Scanning
import ChangeLint.Proofs.Yaml.Tokens
import ChangeLint.Proofs.Yaml.Events
import ChangeLint.Proofs.Config.Emitting
import ChangeLint.Proofs.Config.RoundTrip
import ChangeLint.Proofs.Patch.Joining
import ChangeLint.Proofs.Report.Verbatim
import ChangeLint.Proofs.Engine.Themes
import ChangeLint.Proofs.Report.Sections
import ChangeLint.Proofs.Report.Grammar
import ChangeLint.Proofs.Program.Background
import ChangeLint.Proofs.Program.Steps
import ChangeLint.Proofs.Report.Names
import ChangeLint.Proofs.Program.Plan
import ChangeLint.Proofs.Patch.Provenance
import ChangeLint.Proofs.Engine.Abreast
import ChangeLint.Proofs.Program.MapOrder
import ChangeLint.Proofs.Glob.Language
import ChangeLint.Proofs.Glob.Texts
import ChangeLint.Proofs.Vcs.Patterns
import ChangeLint.Proofs.Vcs.Listings
import ChangeLint.Proofs.Vcs.Suffixes
import ChangeLint.Proofs.Program.Layers
import ChangeLint.Proofs.Patch.LineTables
import ChangeLint.Proofs.Patch.HunkGrammar
import ChangeLint.Proofs.Program.Linters
import ChangeLint.Proofs.Cli.LogFlags
import ChangeLint.Proofs.Program.Messages
import ChangeLint.Proofs.Program.Verbosity
