import ParamChain.Settings

/-
This file holds the configuration of a project: where its sources are, which of them to leave
out, the settings of the analysis, which languages to read, and how to report.
-/

namespace ParamChain

open Json

/-- Where the sources of a project are and which of them are left out. -/
structure ProjectConfig where
  name : String
  sourceDirs : List String
  ignorePatterns : List String
  excludePaths : List String
  deriving DecidableEq, Repr, Inhabited

/-- Which files are read. -/
structure ParsingConfig where
  languages : List String
  maxFileSize : Nat
  deriving DecidableEq, Repr, Inhabited

/-- How findings are reported. -/
structure OutputConfig where
  format : String
  deriving DecidableEq, Repr, Inhabited

/-- The configuration of a project. -/
structure Config where
  project : ProjectConfig
  analyzer : Settings
  parsing : ParsingConfig
  output : OutputConfig
  deriving DecidableEq, Repr, Inhabited

/-- The configuration of a project that has no configuration file. -/
def Config.standard : Config where
  project := {
    name := "Unnamed Project"
    sourceDirs := ["."]
    ignorePatterns := ["target/", "vendor/", "node_modules/", ".git/"]
    excludePaths := [] }
  analyzer := ⟨some 2, some 10⟩
  parsing := { languages := ["go", "rust"], maxFileSize := 1048576 }
  output := { format := "text" }

/-! ### JSON form -/

def ProjectConfig.toJson (p : ProjectConfig) : Json :=
  .obj [("name", .str p.name), ("source_dirs", ofTexts p.sourceDirs),
    ("ignore_patterns", ofTexts p.ignorePatterns), ("exclude_paths", ofTexts p.excludePaths)]

def ProjectConfig.ofJson? : Json → Option ProjectConfig :=
  record? 3 ["name", "source_dirs", "ignore_patterns", "exclude_paths"] do
    return {
      name := ← field (required? text?)
      sourceDirs := ← field (required? (list? text?))
      ignorePatterns := ← field (required? (list? text?))
      excludePaths := ← field (defaulted? [] (list? text?)) }

def ParsingConfig.toJson (p : ParsingConfig) : Json :=
  .obj [("languages", ofTexts p.languages), ("max_file_size", .int p.maxFileSize)]

def ParsingConfig.ofJson? : Json → Option ParsingConfig :=
  record? 2 ["languages", "max_file_size"] do
    return ⟨← field (required? (list? text?)), ← field (required? size?)⟩

def OutputConfig.toJson (o : OutputConfig) : Json :=
  .obj [("format", .str o.format)]

def OutputConfig.ofJson? : Json → Option OutputConfig :=
  record? 1 ["format"] do
    return ⟨← field (required? text?)⟩

def Config.toJson (c : Config) : Json :=
  .obj [("project", c.project.toJson), ("analyzer", c.analyzer.toJson),
    ("parsing", c.parsing.toJson), ("output", c.output.toJson)]

def Config.ofJson? : Json → Option Config :=
  record? 4 ["project", "analyzer", "parsing", "output"] do
    return {
      project := ← field (required? ProjectConfig.ofJson?)
      analyzer := ← field (defaulted? Settings.unset Settings.ofJson?)
      parsing := ← field (required? ParsingConfig.ofJson?)
      output := ← field (required? OutputConfig.ofJson?) }

end ParamChain
