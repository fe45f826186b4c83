import ParamChain.Config
import ParamChain.Files.FileTree
import ParamChain.Toml.Reader
import ParamChain.Toml.Writer

/-
This file holds the configuration file: the document that a configuration is written as, how a
document is read back, and where a configuration is looked for when no file is named.
-/

namespace ParamChain

open Files

namespace Config

/-! ### The document of a configuration -/

/-- The field for a number that is set. -/
def numberField (name : String) : Option Int → List (String × Toml.Field)
  | some n => [(name, .number n)]
  | none => []

/-- The sections of a configuration. A setting that is not set has no field. -/
def sections (c : Config) : List Toml.Section := [
  ⟨"project", [("name", .text c.project.name), ("source_dirs", .texts c.project.sourceDirs),
    ("ignore_patterns", .texts c.project.ignorePatterns),
    ("exclude_paths", .texts c.project.excludePaths)]⟩,
  ⟨"analyzer", numberField "min_required_params" c.analyzer.minRequiredParams ++
    numberField "max_recursion_depth" c.analyzer.maxRecursionDepth⟩,
  ⟨"parsing", [("languages", .texts c.parsing.languages),
    ("max_file_size", .number c.parsing.maxFileSize)]⟩,
  ⟨"output", [("format", .text c.output.format)]⟩]

/-- The text of a configuration file. A document holds no number of `2 ^ 63` or more. -/
def render (c : Config) : Except Fault String :=
  if c.parsing.maxFileSize < 0x8000000000000000 then .ok (Toml.render c.sections)
  else .error (.config "out-of-range value for u64 type")

/-- A section that is given as a list of its fields, without what stands after the last. -/
def cutSection (member : String × Json) : String × Json :=
  match member with
  | ("project", .arr items) => ("project", .arr (items.take 4))
  | ("analyzer", .arr items) => ("analyzer", .arr (items.take 2))
  | ("parsing", .arr items) => ("parsing", .arr (items.take 2))
  | ("output", .arr items) => ("output", .arr (items.take 1))
  | other => other

/-- The configuration in the value that a document describes. -/
def ofDocument? : Json → Option Config
  | .obj members => ofJson? (.obj (members.map cutSection))
  | _ => none

/-- The configuration in the text of a configuration file. -/
def parse (text : String) : Except Fault Config :=
  match (Toml.parse text).bind ofDocument? with
  | some config => .ok config
  | none => .error (.config "TOML parse error")

/-! ### Files -/

/-- The configuration in a file. -/
def load (tree : FileTree) (path : String) : Except Fault Config :=
  match tree.readText path with
  | .ok text => parse text
  | .error e => .error (.io e.message)

/-- Write a configuration to a file: what came of it, and the file tree after it. The text is
made before the file is touched. -/
def write (c : Config) (tree : FileTree) (path : String) : Except Fault Unit × FileTree :=
  match c.render with
  | .error f => (.error f, tree)
  | .ok text =>
    match tree.writeText path text with
    | .error e => (.error (.io e.message), tree)
    | .ok written => (.ok (), written)

/-- The file tree with a configuration written to a file. -/
def save (c : Config) (tree : FileTree) (path : String) : Except Fault FileTree :=
  match c.write tree path with
  | (.error f, _) => .error f
  | (.ok _, saved) => .ok saved

/-- The name of a configuration file. -/
def fileName : String := "usestruct.toml"

/-- The files that are looked for when no file is named. -/
def candidates : List String := [fileName, ".usestruct.toml"]

/-- The configuration in the named file, or else in the first of the usual files. Where there is
no such file it is the standard one. -/
def loadOrStandard (tree : FileTree) (path : Option String) : Except Fault Config :=
  let paths :=
    match path with
    | some path => [path]
    | none => candidates
  match paths.find? tree.pathExists with
  | some path => load tree path
  | none => .ok standard

end Config

end ParamChain
