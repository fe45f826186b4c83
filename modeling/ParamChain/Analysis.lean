import ParamChain.Chain.Reduce
import ParamChain.Report.Diagnostic
import ParamChain.Settings
import ParamChain.SourceUnit

/-
This file holds the analysis of a unit: index its declarations, search the chains from each of
them, reduce the chains to the maximal ones and report a diagnostic for each.
-/

namespace ParamChain

/-- The two bounds of an analysis. -/
structure Analyzer where
  minimum : Nat
  ceiling : Nat
  deriving DecidableEq, Repr, Inhabited

namespace Analyzer

/-- The bounds that the settings stand for. -/
def ofSettings (s : Settings) : Analyzer :=
  ⟨s.minimum, s.ceiling⟩

/-- The maximal chains among the declarations. -/
def chains (a : Analyzer) (decls : List FunctionDecl) : List Chain.CallChain :=
  Chain.reduceChains (Chain.exploreAll (Chain.Index.build decls a.minimum) a.ceiling)

/-- Report the diagnostics of a unit to a sink, after what it already holds, and count them. A
unit without an eligible declaration is not searched. -/
def report (a : Analyzer) (unit : SourceUnit) (sink : List Report.Diagnostic) :
    List Report.Diagnostic × Nat :=
  if (Chain.Index.build unit.declarations a.minimum).isEmpty then (sink, 0)
  else
    let kept := a.chains unit.declarations
    (kept.foldl (fun held c => held ++ [Report.Diagnostic.ofChain c]) sink, kept.length)

/-- The diagnostics of a unit. -/
def run (a : Analyzer) (unit : SourceUnit) : List Report.Diagnostic :=
  (a.report unit []).1

end Analyzer

end ParamChain
