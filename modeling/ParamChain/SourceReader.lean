import ParamChain.Config
import ParamChain.Files.Walk
import ParamChain.Frontend.GoModel
import ParamChain.Frontend.RustModel
import ParamChain.Pattern.Reader

/-
This file holds the choice of source files and their reading. A file is a source file when its
extension belongs to a language that the configuration names; of those found in a directory, the
ones whose path matches an excluded pattern and the ones above the greatest size are passed over.
-/

namespace ParamChain

open Files

/-- The languages that can be read. -/
inductive Language where
  | go
  | rust
  deriving DecidableEq, Repr, Inhabited

namespace Language

/-- The name of a language in a configuration. -/
def name : Language → String
  | .go => "go"
  | .rust => "rust"

/-- The extension of the files of a language. -/
def extension : Language → String
  | .go => "go"
  | .rust => "rs"

/-- The language with a name. -/
def ofName? (name : String) : Option Language :=
  [go, rust].find? fun l => l.name == name

/-- The model of a source text. -/
def readModel : Language → String → String → Except Fault FileModel
  | .go => Frontend.GoModel.read
  | .rust => Frontend.RustModel.read

end Language

/-- How source files are chosen and read. -/
structure SourceReader where
  languages : List Language
  ignorePatterns : List String
  /-- Which paths each of the excluded patterns matches. -/
  excluded : List (String → Bool)
  maxFileSize : Nat

namespace SourceReader

/-- What the patterns of paths to exclude match, if each of them is well formed. -/
def excludedOf (matcher : Pattern.Matcher) :
    List String → Except Fault (List (String → Bool))
  | [] => .ok []
  | text :: rest =>
    match matcher text with
    | none => .error (.invalidPattern text "malformed regular expression")
    | some isMatch => do
      let more ← excludedOf matcher rest
      .ok (isMatch :: more)

/-- The reader that a configuration asks for, with its patterns understood as a matcher has them. A
language that cannot be read is passed over. -/
def ofConfig (parsing : ParsingConfig) (project : ProjectConfig)
    (matcher : Pattern.Matcher := Pattern.matcher) : Except Fault SourceReader := do
  let excluded ← excludedOf matcher project.excludePaths
  return {
    languages := parsing.languages.filterMap Language.ofName?
    ignorePatterns := project.ignorePatterns
    excluded := excluded
    maxFileSize := parsing.maxFileSize }

/-- The language of a file by its extension. -/
def language? (r : SourceReader) (path : String) : Option Language :=
  (extension? path).bind fun extension =>
    r.languages.find? fun l => l.extension == extension

/-- Whether a file that was found is read. -/
def admits (r : SourceReader) (file : FoundFile) : Bool :=
  !(r.excluded.any fun isMatch => isMatch file.path) && (r.language? file.path).isSome &&
    file.content.size ≤ r.maxFileSize

/-- Read the source text of a file in a language. -/
def parseText (language : Language) (path text : String) : Except Fault ParsedFile := do
  let model ← language.readModel path text
  return ⟨path, language.name, model.package, model.functions⟩

/-- Read a source file. -/
def parseFile (r : SourceReader) (tree : FileTree) (path : String) : Except Fault ParsedFile :=
  match r.language? path with
  | none => .error (.parser ("Could not detect language for file: " ++ path))
  | some language =>
    match tree.readText path with
    | .error e => .error (.io e.message)
    | .ok text => parseText language path text

/-- Read the source files at or below a path. -/
def parseDirectory (r : SourceReader) (tree : FileTree) (root : String) :
    Except Fault (List ParsedFile) := do
  let found ← walk tree r.ignorePatterns root
  (found.filter r.admits).mapM fun file => r.parseFile tree file.path

end SourceReader

end ParamChain
