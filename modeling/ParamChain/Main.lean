import ParamChain.CommandLine.Run

/-
This file holds the program: it reads the files of the working directory and of the places that it
is asked about, does what the command line asks for, and writes back the files that have changed.
-/

namespace ParamChain

open Files

/-! ### The file tree -/

/-- The entry of a directory with all below it. -/
partial def loadEntry (found : IO.FS.DirEntry) : IO (String × Entry) := do
  if ← found.path.isDir then
    let inner ← found.path.readDir
    return (found.fileName, .directory (← inner.toList.mapM loadEntry))
  else return (found.fileName, .file (← IO.FS.readBinFile found.path))

/-- The entries of a directory on the way to a place that names lead to: the place with all below
it, and beside the way what holds rules about the files below. The directory is given by its path
with a slash at the end. -/
def loadWay (directory : String) : List String → IO (List (String × Entry))
  | [] => return []
  | [name] => return [← loadEntry ⟨directory, name⟩]
  | name :: rest => do
    let beside : List IO.FS.DirEntry := ([".ignore", ".gitignore", ".git"].erase name).map
      fun rules => ⟨directory, rules⟩
    let rules ← (← beside.filterM fun entry => entry.path.pathExists).mapM loadEntry
    return (name, .directory (← loadWay (directory ++ name ++ "/") rest)) :: rules

/-- The file tree as far as the working directory. -/
def loadTree : IO FileTree := do
  let names := FileTree.empty.nameSteps (← IO.currentDir).toString
  return ⟨← loadWay "/" names, names⟩

/-- A tree with all that is at a place, if there is anything and the tree does not hold it yet. -/
def withPlace (tree : FileTree) (path : String) : IO FileTree := do
  let names := tree.nameSteps path
  match names.getLast? with
  | none => return tree
  | some name =>
    let place : IO.FS.DirEntry := ⟨"/" ++ joinNames names.dropLast, name⟩
    if tree.working.isPrefixOf names || !(← place.path.pathExists) then return tree
    let (_, entry) ← loadEntry place
    let loaded := makeDirectories names.dropLast tree.entries >>= setAt entry names
    return { tree with entries := loaded.toOption.getD tree.entries }

/-- The places that a command line names. -/
def CommandLine.Invocation.places (invocation : CommandLine.Invocation) : List String :=
  invocation.config.toList ++
    match invocation.request with
    | .check paths .. => paths
    | .init path _ => path.toList

/-- The file tree that a command line is about, with the places that its configuration names. -/
def loadTreeFor (invocation : CommandLine.Invocation) : IO FileTree := do
  let tree ← invocation.places.foldlM withPlace (← loadTree)
  match Config.loadOrStandard tree invocation.config with
  | .error _ => return tree
  | .ok config => config.project.sourceDirs.foldlM withPlace tree

/-- Write the entries that are not as they were in a directory, which is given by its path with a
slash at the end. -/
partial def storeEntries (directory : String) (old new : List (String × Entry)) : IO Unit := do
  for (name, entry) in new do
    let path := directory ++ name
    match entry, child? old name with
    | .file content, some (.file before) =>
      if content.data != before.data then IO.FS.writeBinFile path content
    | .file content, _ => IO.FS.writeBinFile path content
    | .directory inner, some (.directory before) => storeEntries (path ++ "/") before inner
    | .directory inner, _ =>
      IO.FS.createDirAll path
      storeEntries (path ++ "/") [] inner

/-! ### The command line -/

/-- What is told about arguments that make no request. -/
def CommandLine.UsageError.message : CommandLine.UsageError → String
  | .unknownArgument => "unexpected argument"
  | .unknownCommand => "unrecognized subcommand"
  | .missingCommand => "a subcommand is required"
  | .missingValue => "a value is required"
  | .badValue => "invalid value"
  | .repeatedOption => "an option cannot be used multiple times"
  | .valueForFlag => "unexpected value for a flag"
  | .versionAsked => "usestruct 0.1.0"
  | .helpAsked | .nothingGiven =>
    "Usage: usestruct [--config PATH] [--verbose] check [PATHS]... [--format text|json] " ++
      "[--settings JSON] [--min-required-params N] [--max-recursion-depth N] " ++
      "[--fail-on-findings]\n       usestruct init [--path PATH] [--force]"

/-- Tell why there is no request, as an answer if it was asked for. -/
def tellUsage (e : CommandLine.UsageError) : IO UInt32 := do
  if e = .helpAsked || e = .versionAsked then
    IO.println e.message
    return 0
  else
    IO.eprintln ("error: " ++ e.message)
    return 2

/-- Do what the arguments ask for. -/
def runProgram (args : List String) : IO UInt32 := do
  match CommandLine.Invocation.ofArguments args with
  | .error e => tellUsage e
  | .ok invocation =>
    let tree ← loadTreeFor invocation
    let outcome := CommandLine.run tree invocation
    storeEntries "/" tree.entries outcome.tree.entries
    IO.print outcome.output
    match outcome.failure with
    | none => return 0
    | some failure =>
      IO.eprintln ("Error: " ++ failure.message)
      return 1

end ParamChain

/-- The program. -/
def main (args : List String) : IO UInt32 :=
  ParamChain.runProgram args
