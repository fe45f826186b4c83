import ParamChain.Files.Path

/-
This file holds a tree of files with a working directory in it. It says which entry a path leads
to, what reading and writing there gives, and in which words the operating system tells why
something could not be done. A path that begins at the root leads there from the top of the tree,
any other from the working directory; a `..` at the top stays there.
-/

namespace ParamChain.Files

/-- A file or a directory. -/
inductive Entry where
  | file (content : ByteArray)
  | directory (entries : List (String × Entry))
  deriving Inhabited

/-- The entries at the top, and the names that lead from there to the working directory. -/
structure FileTree where
  entries : List (String × Entry)
  working : List String
  deriving Inhabited

/-- Why an access failed. -/
inductive AccessError where
  | notFound
  | notDirectory
  | isDirectory
  | alreadyExists
  | notText
  deriving DecidableEq, Repr, Inhabited

/-- The words of the operating system. -/
def AccessError.message : AccessError → String
  | .notFound => "No such file or directory (os error 2)"
  | .notDirectory => "Not a directory (os error 20)"
  | .isDirectory => "Is a directory (os error 21)"
  | .alreadyExists => "File exists (os error 17)"
  | .notText => "stream did not contain valid UTF-8"

/-- The entry with a name. -/
def child? (entries : List (String × Entry)) (name : String) : Option Entry :=
  (entries.find? fun e => e.1 == name).map Prod.snd

/-- Put an entry in, replacing one of the same name. -/
def setEntry (name : String) (entry : Entry) : List (String × Entry) → List (String × Entry)
  | [] => [(name, entry)]
  | (other, old) :: rest =>
    if other = name then (name, entry) :: rest else (other, old) :: setEntry name entry rest

/-! ### Finding entries -/

/-- The entry that components lead to. The directories on the way so far are on a stack, without
the one at the top of the tree. -/
def follow (top : List (String × Entry)) :
    List (List (String × Entry)) → List Component → Except AccessError Entry
  | stack, [] => .ok (.directory (stack.headD top))
  | stack, .name text :: rest =>
    match child? (stack.headD top) text with
    | none => .error .notFound
    | some (.directory inner) => follow top (inner :: stack) rest
    | some (.file content) => if rest.isEmpty then .ok (.file content) else .error .notDirectory
  | stack, .current :: rest => follow top stack rest
  | stack, .parent :: rest => follow top stack.tail rest
  | _, .root :: rest => follow top [] rest

/-- Whether a path can only lead to a directory. -/
def endsAsDirectory (path : String) : Bool :=
  match path.toList.reverse with
  | '/' :: _ | '.' :: '/' :: _ => true
  | _ => false

namespace FileTree

/-- The components that lead from the top to where the given ones lead: those that do not begin at
the root come after the names of the working directory. -/
def fromTop (tree : FileTree) : List Component → List Component
  | .root :: rest => .root :: rest
  | relative => tree.working.map .name ++ relative

/-- The entry that components lead to. -/
def lookUp (tree : FileTree) (path : List Component) : Except AccessError Entry :=
  follow tree.entries [] (tree.fromTop path)

/-- The entry that a path leads to. -/
def resolve (tree : FileTree) (path : String) : Except AccessError Entry :=
  if path.isEmpty then .error .notFound
  else
    match tree.lookUp (components path) with
    | .ok (.file content) =>
      if endsAsDirectory path then .error .notDirectory else .ok (.file content)
    | other => other

/-- Whether a path leads anywhere. -/
def pathExists (tree : FileTree) (path : String) : Bool :=
  (tree.resolve path).toOption.isSome

/-- Whether a path leads to a directory. -/
def isDirectory (tree : FileTree) (path : String) : Bool :=
  match tree.resolve path with
  | .ok (.directory _) => true
  | _ => false

/-- The bytes of a file. -/
def readBytes (tree : FileTree) (path : String) : Except AccessError ByteArray :=
  match tree.resolve path with
  | .ok (.file content) => .ok content
  | .ok (.directory _) => .error .isDirectory
  | .error e => .error e

/-- The text of a file. -/
def readText (tree : FileTree) (path : String) : Except AccessError String :=
  match tree.readBytes path with
  | .ok content =>
    match String.fromUTF8? content with
    | some text => .ok text
    | none => .error .notText
  | .error e => .error e

end FileTree

/-! ### Changing entries -/

/-- The names to a place after one more component, the last of them in front. A `..` takes one name
back. -/
def Component.onto (back : List String) : Component → List String
  | .name text => text :: back
  | .current => back
  | .parent => back.tail
  | .root => []

/-- The names that lead to a path from the top. -/
def FileTree.nameSteps (tree : FileTree) (path : String) : List String :=
  ((tree.fromTop (components path)).foldl Component.onto []).reverse

/-- Put an entry where names lead to, through directories that are there already. -/
def setAt (entry : Entry) :
    List String → List (String × Entry) → Except AccessError (List (String × Entry))
  | [], _ => .error .isDirectory
  | [name], entries => .ok (setEntry name entry entries)
  | name :: rest, entries =>
    match child? entries name with
    | none => .error .notFound
    | some (.file _) => .error .notDirectory
    | some (.directory inner) =>
      match setAt entry rest inner with
      | .ok changed => .ok (setEntry name (.directory changed) entries)
      | .error e => .error e

/-- Make the directories that names lead through, as far as they are missing. -/
def makeDirectories :
    List String → List (String × Entry) → Except AccessError (List (String × Entry))
  | [], entries => .ok entries
  | name :: rest, entries =>
    match child? entries name with
    | some (.file _) => .error (if rest.isEmpty then .alreadyExists else .notDirectory)
    | other =>
      let inner :=
        match other with
        | some (.directory inner) => inner
        | _ => []
      match makeDirectories rest inner with
      | .ok changed => .ok (setEntry name (.directory changed) entries)
      | .error e => .error e

/-- Take away the entry that names lead to. -/
def removeAt : List String → List (String × Entry) → List (String × Entry)
  | [], entries => entries
  | [name], entries => entries.filter fun e => e.1 != name
  | name :: rest, entries =>
    match child? entries name with
    | some (.directory inner) => setEntry name (.directory (removeAt rest inner)) entries
    | _ => entries

namespace FileTree

/-- A tree without entries. -/
def empty : FileTree := ⟨[], []⟩

/-- Write the bytes of a file whose directory is there. -/
def writeBytes (tree : FileTree) (path : String) (content : ByteArray) :
    Except AccessError FileTree :=
  match tree.resolve path with
  | .ok (.directory _) => .error .isDirectory
  | .error .notDirectory => .error .notDirectory
  | .ok (.file _) | .error _ =>
    match tree.lookUp (components path).dropLast with
    | .error e => .error e
    | .ok _ =>
      if path.isEmpty then .error .notFound
      else
        match setAt (.file content) (tree.nameSteps path) tree.entries with
        | .ok entries =>
          if endsAsDirectory path then .error .isDirectory else .ok { tree with entries }
        | .error e => .error e

/-- Write the text of a file whose directory is there. -/
def writeText (tree : FileTree) (path text : String) : Except AccessError FileTree :=
  tree.writeBytes path text.toUTF8

/-- Make a directory with all those above it. -/
def createDirectories (tree : FileTree) (path : String) : Except AccessError FileTree :=
  (makeDirectories (tree.nameSteps path) tree.entries).map fun entries => { tree with entries }

/-- Take away a file, or a directory with all in it. -/
def remove (tree : FileTree) (path : String) : FileTree :=
  { tree with entries := removeAt (tree.nameSteps path) tree.entries }

end FileTree

end ParamChain.Files
