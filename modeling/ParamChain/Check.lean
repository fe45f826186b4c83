import ParamChain.Analysis
import ParamChain.ConfigFile
import ParamChain.Report.Format
import ParamChain.SourceReader

/-
This file holds the check of a project: read the sources under each root, form the units, analyze
each unit and report. The units may be analyzed in any order, so each result carries the number of
its unit and the results are put into the order of the units before they are joined.
-/

namespace ParamChain

open Files Report

/-- What to check and how, as far as it is not left to the configuration. -/
structure CheckOptions where
  /-- The roots; where there are none, those of the configuration. -/
  paths : List String
  format : Option Format
  /-- Settings as a JSON value, which come after those of the configuration. -/
  settings : Option Json
  /-- The two settings that come last. -/
  minRequiredParams : Option Int
  maxRecursionDepth : Option Int
  deriving Inhabited

/-- What a check came to. -/
structure CheckOutcome where
  diagnostics : List Diagnostic
  summary : Summary
  /-- The report in the format that was asked for. -/
  rendered : String
  deriving Inhabited

namespace Check

/-! ### The steps of a check -/

/-- The roots of a check. -/
def roots (config : Config) (options : CheckOptions) : List String :=
  if options.paths.isEmpty then config.project.sourceDirs else options.paths

/-- The settings of a check: those of the configuration, over them those of the JSON value, over
them the two single ones. -/
def settings (config : Config) (options : CheckOptions) : Except Fault Settings := do
  let layered ←
    match options.settings with
    | none => pure config.analyzer
    | some v => do
      let given ← Settings.ofJson v
      pure (config.analyzer.overlay given.minRequiredParams given.maxRecursionDepth)
  return layered.overlay options.minRequiredParams options.maxRecursionDepth

/-- The units under one root. -/
def unitsUnder (reader : SourceReader) (tree : FileTree) (root : String) :
    Except Fault (List SourceUnit) := do
  let files ← reader.parseDirectory tree root
  return SourceUnit.group root files

/-- The units under all roots, root by root. -/
def unitsOf (reader : SourceReader) (tree : FileTree) (roots : List String) :
    Except Fault (List SourceUnit) := do
  let units ← roots.mapM (unitsUnder reader tree)
  return units.flatten

/-- The diagnostics of each unit with the number of the unit. -/
def results (analyzer : Analyzer) (units : List SourceUnit) : List (Nat × List Diagnostic) :=
  (List.range units.length).zip (units.map analyzer.run)

/-- The diagnostics of all units in the order of the units, whatever the order of the results. -/
def gather (results : List (Nat × List Diagnostic)) : List Diagnostic :=
  (results.mergeSort fun a b => decide (a.1 ≤ b.1)).flatMap Prod.snd

/-- The counts of a report. -/
def summarize (units : List SourceUnit) (diagnostics : List Diagnostic) : Summary where
  units := units.length
  files := units.foldr (fun u n => u.files.length + n) 0
  diagnostics := diagnostics.length

/-- The format of a check. -/
def format (config : Config) (options : CheckOptions) : Except Fault Format :=
  match options.format with
  | some format => .ok format
  | none => Format.ofName config.output.format

/-- The outcome for the given units, from their results in whatever order they came in. -/
def outcomeOf (units : List SourceUnit) (results : List (Nat × List Diagnostic))
    (format : Format) : CheckOutcome :=
  let diagnostics := gather results
  let summary := summarize units diagnostics
  ⟨diagnostics, summary, render diagnostics summary format⟩

/-- The outcome for the given units, analyzed one after another. -/
def outcome (analyzer : Analyzer) (units : List SourceUnit) (format : Format) : CheckOutcome :=
  outcomeOf units (results analyzer units) format

end Check

/-- Check the sources in a file tree, with patterns understood as a matcher has them. -/
def check (tree : FileTree) (config : Config) (options : CheckOptions)
    (matcher : Pattern.Matcher := Pattern.matcher) : Except Fault CheckOutcome := do
  let settings ← Check.settings config options
  let reader ← SourceReader.ofConfig config.parsing config.project matcher
  let units ← Check.unitsOf reader tree (Check.roots config options)
  let format ← Check.format config options
  return Check.outcome (Analyzer.ofSettings settings) units format

end ParamChain
