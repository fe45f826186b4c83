import ParamChain.CommandLine.Request
import ParamChain.Json.Reader

/-
This file holds what a command line does: what it prints, how it changes the file tree, and why it
fails if it does.
-/

namespace ParamChain.CommandLine

open Files

/-- Why a request failed. -/
inductive Failure where
  | fault (f : Fault)
  /-- A failure that is told in its own words. -/
  | told (text : String)
  deriving DecidableEq, Repr, Inhabited

/-- The message of a failure. -/
def Failure.message : Failure → String
  | .fault f => f.message
  | .told text => text

/-- What a request came to. -/
structure Outcome where
  /-- What was printed, also before a failure. -/
  output : String
  tree : FileTree
  failure : Option Failure
  deriving Inhabited

/-- A request that failed before it printed anything. -/
def Outcome.failed (tree : FileTree) (f : Failure) : Outcome :=
  ⟨"", tree, some f⟩

/-- The failure of a check that was asked to fail on findings. -/
def findingsText (outcome : CheckOutcome) : String :=
  toString outcome.diagnostics.length ++ " parameter struct recommendation(s) found in " ++
    toString outcome.summary.units ++ " unit(s)"

/-- Check sources. -/
def runCheck (tree : FileTree) (config : Config) (options : CheckOptions)
    (failOnFindings : Bool) : Outcome :=
  match check tree config options with
  | .error f => .failed tree (.fault f)
  | .ok outcome =>
    let failure :=
      if failOnFindings && !outcome.diagnostics.isEmpty then
        some (Failure.told (findingsText outcome))
      else none
    ⟨outcome.rendered, tree, failure⟩

/-- Write the standard configuration into a directory, which is made where it is missing. A file
that is there is replaced only by force. -/
def runInit (tree : FileTree) (path : Option String) (force : Bool) : Outcome :=
  let directory := path.getD "."
  let file := join directory Config.fileName
  if tree.pathExists file && !force then
    .failed tree (.fault (.config (file ++ " already exists (use --force to overwrite)")))
  else
    match tree.createDirectories directory with
    | .error e => .failed tree (.told e.message)
    | .ok made =>
      match Config.standard.write made file with
      | (.error f, left) => .failed left (.fault f)
      | (.ok _, written) => ⟨"", written, none⟩

/-- The settings in JSON text. -/
def settingsOf : Option String → Except Failure (Option Json)
  | none => .ok none
  | some text =>
    match Json.parse text with
    | some v => .ok (some v)
    | none => .error (.told "--settings is not valid JSON")

/-- Do what is asked for under a configuration. -/
def runRequest (tree : FileTree) (config : Config) : Request → Outcome
  | .check paths format settings minRequiredParams maxRecursionDepth failOnFindings =>
    match settingsOf settings with
    | .error f => .failed tree f
    | .ok settings =>
      runCheck tree config ⟨paths, format, settings, minRequiredParams, maxRecursionDepth⟩
        failOnFindings
  | .init path force => runInit tree path force

/-- Do what a command line asks for. The configuration is read first, also where it is not
needed. -/
def run (tree : FileTree) (invocation : Invocation) : Outcome :=
  match Config.loadOrStandard tree invocation.config with
  | .error f => .failed tree (.fault f)
  | .ok config => runRequest tree config invocation.request

end ParamChain.CommandLine
