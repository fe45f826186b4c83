import ParamChain.Files.Path
import ParamChain.Source.Model

/-
This file holds the units of analysis. Go files in one directory with one package name form a
unit, so the tests of a package in a package of their own are apart from it; files of any other
language form one unit for the root they were found under. Units are in ascending order of
language, directory and package, and files in ascending order of their paths, whatever the order
in which the files were found.
-/

namespace ParamChain

/-- Files that are analyzed together. -/
structure SourceUnit where
  language : String
  root : String
  package : Option String
  files : List ParsedFile
  deriving DecidableEq, Repr, Inhabited

namespace SourceUnit

/-- What the files of a unit have in common. -/
structure Group where
  language : String
  root : String
  package : Option String
  deriving DecidableEq, Repr, Inhabited

/-- The order of texts. -/
def compareTexts (a b : String) : Ordering :=
  if a < b then .lt else if a = b then .eq else .gt

/-- No package comes before every package. -/
def comparePackages : Option String → Option String → Ordering
  | none, none => .eq
  | none, some _ => .lt
  | some _, none => .gt
  | some a, some b => compareTexts a b

/-- Groups by language, then directory, then package. -/
def Group.compare (a b : Group) : Ordering :=
  ((compareTexts a.language b.language).then (Files.comparePaths a.root b.root)).then
    (comparePackages a.package b.package)

/-- The group of a file found under `root`. -/
def groupOf (root : String) (file : ParsedFile) : Group where
  language := file.language
  root := if file.language = "go" then (Files.parent? file.path).getD root else root
  package := file.package

/-- Put a file into the unit of its group, units being in ascending order. -/
def place (group : Group) (file : ParsedFile) : List SourceUnit → List SourceUnit
  | [] => [⟨group.language, group.root, group.package, [file]⟩]
  | unit :: rest =>
    match group.compare ⟨unit.language, unit.root, unit.package⟩ with
    | .lt => ⟨group.language, group.root, group.package, [file]⟩ :: unit :: rest
    | .eq => { unit with files := unit.files ++ [file] } :: rest
    | .gt => unit :: place group file rest

/-- Files by path, files with equal paths as they were. -/
def sortFiles (files : List ParsedFile) : List ParsedFile :=
  files.mergeSort fun a b => (Files.comparePaths a.path b.path).isLE

/-- The units of the files found under `root`. -/
def group (root : String) (files : List ParsedFile) : List SourceUnit :=
  (files.foldl (fun units file => place (groupOf root file) file units) []).map fun unit =>
    { unit with files := sortFiles unit.files }

/-- The name of a unit. -/
def name (unit : SourceUnit) : String :=
  match unit.package with
  | some package => unit.language ++ " " ++ unit.root ++ " (" ++ package ++ ")"
  | none => unit.language ++ " " ++ unit.root

/-- The declarations of a unit, file by file. -/
def declarations (unit : SourceUnit) : List FunctionDecl :=
  unit.files.flatMap ParsedFile.functions

end SourceUnit

end ParamChain
