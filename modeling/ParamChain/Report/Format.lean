import ParamChain.Fault
import ParamChain.Json.Writer
import ParamChain.Report.Diagnostic

/-
This file holds the two formats of a report: a line of text for each diagnostic, or one JSON
document with the diagnostics and the summary.
-/

namespace ParamChain.Report

/-- How a report is written. -/
inductive Format where
  | text
  | json
  deriving DecidableEq, Repr, Inhabited

/-- The name in lower case, which changes ASCII letters only. -/
def lowerName (name : String) : String :=
  String.ofList (name.toList.map Char.toLower)

/-- The format with the given name in any letter case. -/
def Format.ofName (name : String) : Except Fault Format :=
  match lowerName name with
  | "text" => .ok .text
  | "json" => .ok .json
  | other => .error (.config ("unknown output format: " ++ other))

/-- The name that stands at the end of each line of text. -/
def linterName : String := "usestruct"

/-- The line of a diagnostic in a report in text. -/
def Diagnostic.line (d : Diagnostic) : String :=
  d.position.render ++ ": " ++ d.message ++ " (" ++ linterName ++ ")\n"

/-- A report as a JSON value. -/
def toJson (diagnostics : List Diagnostic) (summary : Summary) : Json :=
  .obj [("diagnostics", .arr (diagnostics.map Diagnostic.toJson)), ("summary", summary.toJson)]

/-- A report in the given format. -/
def render (diagnostics : List Diagnostic) (summary : Summary) : Format → String
  | .text => String.join (diagnostics.map Diagnostic.line)
  | .json => (toJson diagnostics summary).pretty ++ "\n"

end ParamChain.Report
