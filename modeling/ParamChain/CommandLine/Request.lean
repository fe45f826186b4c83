import ParamChain.Check
import ParamChain.CommandLine.Arguments

/-
This file holds the requests that a command line makes: check sources, or write a configuration
file. Options about the configuration stand before the name of the command.
-/

namespace ParamChain.CommandLine

/-- What is to be done. -/
inductive Request where
  /-- Check sources. The settings are JSON text. -/
  | check (paths : List String) (format : Option Report.Format) (settings : Option String)
      (minRequiredParams maxRecursionDepth : Option Int) (failOnFindings : Bool)
  /-- Write the standard configuration into a directory. -/
  | init (path : Option String) (force : Bool)
  deriving Inhabited

/-- A command line. -/
structure Invocation where
  config : Option String
  verbose : Bool
  request : Request
  deriving Inhabited

/-! ### Values -/

/-- A path may not be empty. -/
def pathFault (value : String) : Option UsageError :=
  if value.isEmpty then some .missingValue else none

/-- A whole number with an optional sign, in sixty-four bits. -/
def number? (value : String) : Option Int :=
  let (negative, digits) :=
    match value.toList with
    | '-' :: rest => (true, rest)
    | '+' :: rest => (false, rest)
    | rest => (false, rest)
  if digits.isEmpty || !digits.all Char.isDigit then none
  else
    let n : Int := Text.natOfDigits digits
    let n := if negative then -n else n
    if Settings.fits n then some n else none

/-- A number has to be one. -/
def numberFault (value : String) : Option UsageError :=
  if (number? value).isSome then none else some .badValue

/-- The format with a name. -/
def format? (value : String) : Option Report.Format :=
  (Report.Format.ofName value).toOption

/-- A format has to be known. -/
def formatFault (value : String) : Option UsageError :=
  if (format? value).isSome then none else some .badValue

/-! ### Commands -/

/-- The option that asks for help. -/
def helpOption : OptionSpec := ⟨"help", some 'h', .ask .helpAsked⟩

/-- What stands before the name of a command. -/
def mainSpec : CommandSpec where
  options := [
    ⟨"config", some 'c', .value pathFault⟩,
    ⟨"verbose", some 'v', .flag⟩,
    helpOption,
    ⟨"version", some 'V', .ask .versionAsked⟩]
  paths := none
  commands := ["check", "init", "help"]

/-- What the check takes. -/
def checkSpec : CommandSpec where
  options := [
    ⟨"format", none, .value formatFault⟩,
    ⟨"settings", none, .value fun _ => none⟩,
    ⟨"min-required-params", none, .value numberFault⟩,
    ⟨"max-recursion-depth", none, .value numberFault⟩,
    ⟨"fail-on-findings", none, .flag⟩,
    helpOption]
  paths := some pathFault
  commands := []

/-- What the writing of a configuration takes. -/
def initSpec : CommandSpec where
  options := [⟨"path", some 'p', .value pathFault⟩, ⟨"force", none, .flag⟩, helpOption]
  paths := none
  commands := []

/-- All arguments of a command that has no commands of its own. -/
def takeAll (spec : CommandSpec) (args : List String) : Except UsageError Matched := do
  let (progress, _) ← Progress.take spec false .start args
  progress.finish

/-- The check that was asked for. -/
def checkRequest (m : Matched) : Request :=
  .check m.paths ((m.value? "format").bind format?) (m.value? "settings")
    ((m.value? "min-required-params").bind number?)
    ((m.value? "max-recursion-depth").bind number?) (m.isSet "fail-on-findings")

/-- The writing of a configuration that was asked for. -/
def initRequest (m : Matched) : Request :=
  .init (m.value? "path") (m.isSet "force")

/-- What `help` answers: help about a command, where there is one of the name. -/
def helpAnswer : List String → UsageError
  | [] => .helpAsked
  | [name] => if mainSpec.commands.contains name then .helpAsked else .unknownCommand
  | _ => .unknownCommand

/-- The request of a command with its arguments. -/
def requestOf (name : String) (args : List String) : Except UsageError Request :=
  if name = "check" then (takeAll checkSpec args).map checkRequest
  else if name = "init" then (takeAll initSpec args).map initRequest
  else .error (helpAnswer args)

/-- The command line that arguments make. -/
def Invocation.ofArguments (args : List String) : Except UsageError Invocation := do
  match ← Progress.take mainSpec false .start args with
  | (progress, some (name, rest)) =>
    let request ← requestOf name rest
    let matched ← progress.finish
    return ⟨matched.value? "config", matched.isSet "verbose", request⟩
  | (progress, none) =>
    let matched ← progress.finish
    .error (if matched.options.isEmpty then .nothingGiven else .missingCommand)

end ParamChain.CommandLine
