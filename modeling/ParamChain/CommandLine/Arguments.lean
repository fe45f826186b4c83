/-
This file holds the reading of arguments. A command takes options, which are flags or have a
value, and may take any number of paths or a command of its own. A value is looked at only when
the next argument shows that it is complete, so of several faults the one is told that is met
first in this order.
-/

namespace ParamChain.CommandLine

/-- Why arguments do not make a request. Help and version are asked for instead of one. -/
inductive UsageError where
  | unknownArgument
  | unknownCommand
  | missingCommand
  | nothingGiven
  | missingValue
  | badValue
  | repeatedOption
  | valueForFlag
  | helpAsked
  | versionAsked
  deriving DecidableEq, Repr, Inhabited

/-- What an option does. -/
inductive OptionKind where
  /-- It stands for itself. -/
  | flag
  /-- It has a value, about which something may be wrong. -/
  | value (fault : String → Option UsageError)
  /-- It asks for something else than a request. -/
  | ask (question : UsageError)

/-- An option of a command. -/
structure OptionSpec where
  name : String
  short : Option Char
  kind : OptionKind

/-- What a command takes. -/
structure CommandSpec where
  options : List OptionSpec
  /-- What may be wrong about one of its paths, if it takes paths. -/
  paths : Option (String → Option UsageError)
  commands : List String

/-- What an argument belongs to. -/
inductive Slot where
  | option (spec : OptionSpec)
  | path (fault : String → Option UsageError)

/-- An argument that is not complete, or complete but not looked at yet. -/
structure Pending where
  slot : Slot
  value : Option String

/-- What was read: the options with their values, where a flag has an empty one, and the paths. -/
structure Matched where
  options : List (String × String)
  paths : List String
  deriving DecidableEq, Repr, Inhabited

namespace Matched

/-- Nothing was read. -/
def empty : Matched := ⟨[], []⟩

/-- The value of an option. -/
def value? (m : Matched) (name : String) : Option String :=
  (m.options.find? fun o => o.1 == name).map Prod.snd

/-- Whether a flag is set. -/
def isSet (m : Matched) (name : String) : Bool :=
  (m.value? name).isSome

/-- Add an option, which may not be there yet, and its value. -/
def addOption (m : Matched) (spec : OptionSpec) (value : String) : Except UsageError Matched :=
  if m.isSet spec.name then .error .repeatedOption
  else
    let added := { m with options := m.options ++ [(spec.name, value)] }
    match spec.kind with
    | .value fault =>
      match fault value with
      | some e => .error e
      | none => .ok added
    | .flag => .ok added
    | .ask question => .error question

/-- Look at an argument that is complete. -/
def resolve (m : Matched) : Option Pending → Except UsageError Matched
  | none => .ok m
  | some ⟨_, none⟩ => .error .missingValue
  | some ⟨.option spec, some value⟩ => m.addOption spec value
  | some ⟨.path fault, some value⟩ =>
    match fault value with
    | some e => .error e
    | none => .ok { m with paths := m.paths ++ [value] }

end Matched

/-! ### The loop over the arguments -/

/-- How far the reading has come. -/
structure Progress where
  matched : Matched
  pending : Option Pending

namespace Progress

/-- Nothing was read. -/
def start : Progress := ⟨.empty, none⟩

/-- Whether the next argument is a value. -/
def awaitsValue (p : Progress) : Bool :=
  match p.pending with
  | some ⟨_, none⟩ => true
  | _ => false

/-- All that was read, when nothing more follows. -/
def finish (p : Progress) : Except UsageError Matched :=
  p.matched.resolve p.pending

/-- Read an option, with the value that is attached to it. -/
def takeOption (p : Progress) (spec : OptionSpec) (attached : Option String) :
    Except UsageError Progress :=
  match spec.kind, attached with
  | .value _, none => do
    let matched ← p.finish
    return ⟨matched, some ⟨.option spec, none⟩⟩
  | .value _, some value => do
    let matched ← (← p.finish).addOption spec value
    return ⟨matched, none⟩
  | _, some _ => .error .valueForFlag
  | _, none => do
    let matched ← (← p.finish).addOption spec ""
    return ⟨matched, none⟩

/-- Read an option by its long name, after the two dashes. -/
def takeLong (spec : CommandSpec) (p : Progress) (text : List Char) :
    Except UsageError Progress :=
  let name := String.ofList (text.takeWhile (· != '='))
  let attached :=
    match text.dropWhile (· != '=') with
    | _ :: value => some (String.ofList value)
    | [] => none
  match spec.options.find? fun o => o.name == name with
  | some option => p.takeOption option attached
  | none => .error .unknownArgument

/-- Read options by their letters, after one dash. The rest after the letter of an option with a
value is its value. -/
def takeShort (spec : CommandSpec) : Progress → List Char → Except UsageError Progress
  | p, [] => .ok p
  | p, c :: rest =>
    match spec.options.find? fun o => o.short == some c with
    | none => .error .unknownArgument
    | some option =>
      match option.kind with
      | .value _ =>
        match rest with
        | [] => p.takeOption option none
        | '=' :: value => p.takeOption option (some (String.ofList value))
        | value => p.takeOption option (some (String.ofList value))
      | _ => do
        let p ← p.takeOption option none
        takeShort spec p rest

/-- Read an argument that is no option. -/
def takePlain (spec : CommandSpec) (optionsOver : Bool) (p : Progress) (arg : String) :
    Except UsageError Progress :=
  match spec.paths with
  | some fault => do
    let matched ← p.finish
    return ⟨matched, some ⟨.path fault, some arg⟩⟩
  | none =>
    if spec.commands.isEmpty then .error .unknownArgument
    else if optionsOver && spec.commands.contains arg then .error .unknownArgument
    else .error .unknownCommand

/-- Read an argument that is neither a command nor the end of the options. -/
def takeArgument (spec : CommandSpec) (p : Progress) (arg : String) :
    Except UsageError Progress :=
  match arg.toList with
  | '-' :: '-' :: name => takeLong spec p name
  | '-' :: c :: rest => takeShort spec p (c :: rest)
  | _ =>
    match p.pending with
    | some ⟨slot, none⟩ => .ok { p with pending := some ⟨slot, some arg⟩ }
    | _ => takePlain spec false p arg

/-- Read arguments up to the name of a command. Gives what was read, and the command with the
arguments after it. All that comes after `--` is no option. -/
def take (spec : CommandSpec) :
    Bool → Progress → List String → Except UsageError (Progress × Option (String × List String))
  | _, p, [] => .ok (p, none)
  | true, p, arg :: rest => do take spec true (← takePlain spec true p arg) rest
  | false, p, arg :: rest =>
    if !p.awaitsValue && spec.commands.contains arg then .ok (p, some (arg, rest))
    else if arg = "--" then take spec true p rest
    else do take spec false (← takeArgument spec p arg) rest

end Progress

end ParamChain.CommandLine
