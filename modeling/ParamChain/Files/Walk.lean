import ParamChain.Fault
import ParamChain.Files.FileTree
import ParamChain.Files.IgnoreRules

/-
This file holds the walk through a directory: all files below it that no rule leaves out. Rules
come from the caller, from `.ignore` files, and from `.gitignore` files inside a repository. Those
of the caller count first, then those of `.ignore` files, then those of `.gitignore` files and of
the repository's own list; among files of one kind the one nearest to the entry that says
anything about it counts. A directory that is left out is not entered. What is walked itself is
never left out.
-/

namespace ParamChain.Files

/-- A file that was found, with the path that leads to it. -/
structure FoundFile where
  path : String
  content : ByteArray
  deriving Inhabited

/-- What a directory says about the entries below it. -/
structure Level where
  /-- The names that lead from the directory to the one that is walked. -/
  below : List String
  plainRules : List IgnoreRule
  repositoryRules : List IgnoreRule
  excludeRules : List IgnoreRule
  isRepository : Bool
  deriving Inhabited

/-- Names with slashes between them. -/
def joinNames (names : List String) : String :=
  Text.join "/" names

/-- The rules in the file that a path leads to, if it is there. -/
def rulesAt (entries : List (String × Entry)) (path : String) : List IgnoreRule :=
  match (FileTree.mk entries []).readBytes path with
  | .ok content => IgnoreRule.ofBytes content
  | .error _ => []

/-- What a directory with the given entries says. -/
def Level.ofEntries (below : List String) (entries : List (String × Entry)) : Level where
  below := below
  plainRules := rulesAt entries ".ignore"
  repositoryRules := rulesAt entries ".gitignore"
  excludeRules := rulesAt entries ".git/info/exclude"
  isRepository := (child? entries ".git").isSome

/-- The level seen from a directory one further down. -/
def Level.enter (level : Level) (name : String) : Level :=
  { level with below := level.below ++ [name] }

/-- The levels, from the inside out, up to the first that is a repository. -/
def repositoryLevels : List Level → List Level
  | [] => []
  | level :: rest => if level.isRepository then [level] else level :: repositoryLevels rest

/-- The verdict of the first level that has one. -/
def levelVerdict? (rules : Level → List IgnoreRule) (levels : List Level) (name : String)
    (directory : Bool) : Option Verdict :=
  levels.findSome? fun level =>
    IgnoreRule.verdict? (rules level) (joinNames (level.below ++ [name])) directory

/-- The verdict of the files of rules about an entry of the innermost level. -/
def fileVerdict? (levels : List Level) (name : String) (directory : Bool) : Option Verdict :=
  let inRepository := if levels.any Level.isRepository then repositoryLevels levels else []
  ((levelVerdict? Level.plainRules levels name directory).or
    (levelVerdict? Level.repositoryRules inRepository name directory)).or
    (levelVerdict? Level.excludeRules inRepository name directory)

/-- Whether an entry is left out. The names lead to its directory from what is walked. -/
def isLeftOut (overrides : List IgnoreRule) (levels : List Level) (names : List String)
    (name : String) (directory : Bool) : Bool :=
  let own := IgnoreRule.verdict? overrides (joinNames (names ++ [name])) directory
  (own.or (fileVerdict? levels name directory)) == some .ignored

mutual

/-- The files at or below an entry that is not left out. -/
def filesOf (overrides : List IgnoreRule) (levels : List Level) (names : List String)
    (path : String) : Entry → List FoundFile
  | .file content => [⟨path, content⟩]
  | .directory entries =>
    filesAmong overrides (Level.ofEntries [] entries :: levels) names path entries

/-- The files at or below the entries of a directory. -/
def filesAmong (overrides : List IgnoreRule) (levels : List Level) (names : List String)
    (path : String) : List (String × Entry) → List FoundFile
  | [] => []
  | (name, entry) :: rest =>
    let directory :=
      match entry with
      | .directory _ => true
      | .file _ => false
    let here :=
      if isLeftOut overrides levels names name directory then []
      else
        filesOf overrides (levels.map fun l => l.enter name) (names ++ [name]) (join path name)
          entry
    here ++ filesAmong overrides levels names path rest

end

/-- What the directories above an entry say, from the inside out, seen from the entry. -/
def levelsAbove : List Level → List (String × Entry) → List String → List Level
  | levels, _, [] => levels
  | levels, entries, name :: rest =>
    let next := (Level.ofEntries [] entries :: levels).map fun l => l.enter name
    match child? entries name with
    | some (.directory inner) => levelsAbove next inner rest
    | _ => next

/-- The rules of the caller: what its patterns match is left out. -/
def overridesOf (patterns : List String) : Except Fault (List IgnoreRule) :=
  match patterns with
  | [] => .ok []
  | pattern :: rest =>
    match IgnoreRule.ofLine? false ("!" ++ pattern) with
    | none => .error (.invalidPattern pattern "malformed glob")
    | some rule => do
      let more ← overridesOf rest
      .ok ((rule.map fun r => { r with verdict := r.verdict.inverse }).toList ++ more)

/-- What is told of a place that cannot be walked. -/
def walkFault (root : String) (e : AccessError) : Fault :=
  .fileSystem (root ++ ": IO error for operation on " ++ root ++ ": " ++ e.message)

/-- The files at or below a path. A dash stands for the standard input, which holds no files. -/
def walk (tree : FileTree) (patterns : List String) (root : String) :
    Except Fault (List FoundFile) := do
  let overrides ← overridesOf patterns
  if root = "-" then .ok []
  else
    match tree.resolve root with
    | .ok entry =>
      let levels := levelsAbove [] tree.entries (tree.nameSteps root)
      .ok (filesOf overrides levels [] root entry)
    | .error e => .error (walkFault root e)

end ParamChain.Files
