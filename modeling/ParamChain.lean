import ParamChain.Analysis
import ParamChain.Chain.ArgMultiset
import ParamChain.Chain.Explore
import ParamChain.Chain.Index
import ParamChain.Chain.Key
import ParamChain.Chain.Reduce
import ParamChain.Check
import ParamChain.CommandLine.Arguments
import ParamChain.CommandLine.Request
import ParamChain.CommandLine.Run
import ParamChain.Config
import ParamChain.ConfigFile
import ParamChain.Digest.Sha256
import ParamChain.Fault
import ParamChain.Files.FileTree
import ParamChain.Files.Glob
import ParamChain.Files.IgnoreRules
import ParamChain.Files.Path
import ParamChain.Files.Walk
import ParamChain.Frontend.GoExpressions
import ParamChain.Frontend.GoGrammar
import ParamChain.Frontend.GoModel
import ParamChain.Frontend.GoRules
import ParamChain.Frontend.GoStatements
import ParamChain.Frontend.GoSyntax
import ParamChain.Frontend.GoTokens
import ParamChain.Frontend.GoTypes
import ParamChain.Frontend.RustExpressions
import ParamChain.Frontend.RustGrammar
import ParamChain.Frontend.RustItems
import ParamChain.Frontend.RustModel
import ParamChain.Frontend.RustPatterns
import ParamChain.Frontend.RustRules
import ParamChain.Frontend.RustSyntax
import ParamChain.Frontend.RustTokens
import ParamChain.Frontend.RustTypes
import ParamChain.Json.Reader
import ParamChain.Json.Record
import ParamChain.Json.Value
import ParamChain.Json.Writer
import ParamChain.Main
import ParamChain.Number.Binary64
import ParamChain.ParseTree.Node
import ParamChain.ParseTree.Parser
import ParamChain.ParseTree.Scanner
import ParamChain.ParseTree.Scopes
import ParamChain.ParseTree.Token
import ParamChain.Pattern.Basic
import ParamChain.Pattern.Reader
import ParamChain.Proofs.ArgumentCounts
import ParamChain.Proofs.ArgumentLists
import ParamChain.Proofs.Arrangement
import ParamChain.Proofs.AssociatedFunctions
import ParamChain.Proofs.BareTrees
import ParamChain.Proofs.ByteOrder
import ParamChain.Proofs.CheckOutcomes
import ParamChain.Proofs.CommentPlaces
import ParamChain.Proofs.Continuations
import ParamChain.Proofs.CountTables
import ParamChain.Proofs.Decimals
import ParamChain.Proofs.Descents
import ParamChain.Proofs.Findings
import ParamChain.Proofs.Fingerprints
import ParamChain.Proofs.GoComments
import ParamChain.Proofs.Grouping
import ParamChain.Proofs.IndexLookup
import ParamChain.Proofs.Invariance
import ParamChain.Proofs.JsonForms
import ParamChain.Proofs.JsonText
import ParamChain.Proofs.KeptChains
import ParamChain.Proofs.LiveBindings
import ParamChain.Proofs.MaximalChains
import ParamChain.Proofs.RecordedCalls
import ParamChain.Proofs.Reduction
import ParamChain.Proofs.ReductionLaws
import ParamChain.Proofs.RustComments
import ParamChain.Proofs.RustShadowing
import ParamChain.Proofs.RustSteps
import ParamChain.Proofs.SavedConfig
import ParamChain.Proofs.ScopeDiscipline
import ParamChain.Proofs.ScopeSteps
import ParamChain.Proofs.SearchGuards
import ParamChain.Proofs.SettingsLayers
import ParamChain.Proofs.Shadowing
import ParamChain.Proofs.Simulation
import ParamChain.Proofs.SlotTable
import ParamChain.Proofs.StoredFiles
import ParamChain.Proofs.StraightChains
import ParamChain.Proofs.SubChains
import ParamChain.Proofs.TomlDocument
import ParamChain.Proofs.TomlQuoting
import ParamChain.Proofs.TypeWords
import ParamChain.Proofs.WalkRoutes
import ParamChain.Report.Diagnostic
import ParamChain.Report.Format
import ParamChain.Settings
import ParamChain.Source.JsonForm
import ParamChain.Source.Model
import ParamChain.SourceReader
import ParamChain.SourceUnit
import ParamChain.Text.Blank
import ParamChain.Text.CaseFold
import ParamChain.Text.Digits
import ParamChain.Text.Identifier
import ParamChain.Text.Quoted
import ParamChain.Text.Ranges
import ParamChain.Text.Uppercase
import ParamChain.Text.WordChar
import ParamChain.Toml.Draft
import ParamChain.Toml.Quoting
import ParamChain.Toml.Reader
import ParamChain.Toml.Scalar
import ParamChain.Toml.Writer
