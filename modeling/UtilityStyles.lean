import UtilityStyles.Batch.Apply
import UtilityStyles.Batch.Discover
import UtilityStyles.Breakpoint
import UtilityStyles.Class.Grammar
import UtilityStyles.Class.Parse
import UtilityStyles.Class.Token
import UtilityStyles.Cli.Command
import UtilityStyles.Cli.Flag
import UtilityStyles.Cli.Help
import UtilityStyles.Cli.Parse
import UtilityStyles.Cli.Run
import UtilityStyles.Color
import UtilityStyles.Config.Text
import UtilityStyles.Config.Value
import UtilityStyles.Css.Declaration
import UtilityStyles.Css.InlineStyle
import UtilityStyles.Css.Lexer
import UtilityStyles.Css.Selector
import UtilityStyles.Css.Token
import UtilityStyles.Decimal.Places
import UtilityStyles.Decimal.Read
import UtilityStyles.Decimal.Shortest
import UtilityStyles.Files.Glob
import UtilityStyles.Files.Ignore
import UtilityStyles.Files.Path
import UtilityStyles.Files.Tree
import UtilityStyles.Json
import UtilityStyles.Lint.Basic
import UtilityStyles.Lint.Reference
import UtilityStyles.Log
import UtilityStyles.Main
import UtilityStyles.Markup.Lexer
import UtilityStyles.Markup.Name
import UtilityStyles.Markup.Node
import UtilityStyles.Markup.Reader
import UtilityStyles.Page.Basic
import UtilityStyles.Page.Listeners
import UtilityStyles.Registry.Basic
import UtilityStyles.Registry.Defaults
import UtilityStyles.Registry.Resolve
import UtilityStyles.Registry.Target
import UtilityStyles.Report.Apply
import UtilityStyles.Report.Category
import UtilityStyles.Report.Explain
import UtilityStyles.Report.Format
import UtilityStyles.Report.Lint
import UtilityStyles.Report.Time
import UtilityStyles.Resolver.Declare
import UtilityStyles.Resolver.Explain
import UtilityStyles.Resolver.Mode
import UtilityStyles.Resolver.Session
import UtilityStyles.Settings.Build
import UtilityStyles.Settings.Store
import UtilityStyles.Text.Blank
import UtilityStyles.Text.Case
import UtilityStyles.Text.Csv
import UtilityStyles.Text.Printable
import UtilityStyles.Text.Quote
import UtilityStyles.Text.Regex
import UtilityStyles.Yaml.Decode
import UtilityStyles.Yaml.Parser
import UtilityStyles.Yaml.Resolve
import UtilityStyles.Yaml.Scanner
import UtilityStyles.Yaml.Token
import UtilityStyles.Proofs.StyleMap
import UtilityStyles.Proofs.Reactions
import UtilityStyles.Proofs.Tables
import UtilityStyles.Proofs.Calls
import UtilityStyles.Proofs.Wiring
import UtilityStyles.Proofs.Responsive
import UtilityStyles.Proofs.Hover
import UtilityStyles.Proofs.Undo
import UtilityStyles.Proofs.Bindings
import UtilityStyles.Proofs.Lifecycle
import UtilityStyles.Proofs.Explain
import UtilityStyles.Proofs.LintCounts
import UtilityStyles.Proofs.RegistryInvariant
import UtilityStyles.Proofs.WordTokens
import UtilityStyles.Proofs.StyleText
import UtilityStyles.Proofs.ClassReading
import UtilityStyles.Proofs.ClassMatch
import UtilityStyles.Proofs.SettingsPrecedence
import UtilityStyles.Proofs.ApplyCounts
import UtilityStyles.Proofs.LiveWrites
import UtilityStyles.Proofs.Reapply
import UtilityStyles.Proofs.RegistryBuild
import UtilityStyles.Proofs.SelectorGrammar
import UtilityStyles.Proofs.SelectorParse
import UtilityStyles.Proofs.ReferencePositions
import UtilityStyles.Proofs.PrefixSuggestion
import UtilityStyles.Proofs.SelectorMatch
import UtilityStyles.Proofs.NestedDeclarations
import UtilityStyles.Proofs.WordSelectors
import UtilityStyles.Proofs.OrderedStyle
import UtilityStyles.Proofs.ColorSearch
import UtilityStyles.Proofs.ExplainRange
import UtilityStyles.Proofs.LintCategories
import UtilityStyles.Proofs.EditDistance
import UtilityStyles.Proofs.EventTables
