/-
This file holds file paths. A path is kept as the text it was given as, because that text is
what reports show; it is compared by its components. Repeated slashes, a slash at the end and a
`.` inside a path add no component, a `.` at the front does.
-/

namespace ParamChain.Files

/-- A component of a path. -/
inductive Component where
  | root
  | current
  | parent
  | name (text : String)
  deriving DecidableEq, Repr, Inhabited

/-- The rank of a component: the root comes first, names last. -/
def Component.rank : Component → Nat
  | .root => 0
  | .current => 1
  | .parent => 2
  | .name _ => 3

/-- Components in ascending order, names by their text. -/
def Component.compare (a b : Component) : Ordering :=
  match a, b with
  | .name s, .name t => if s < t then .lt else if s = t then .eq else .gt
  | a, b => Ord.compare a.rank b.rank

/-- A piece of a path between slashes, and how many characters of the path end with it. -/
structure Piece where
  component : Component
  stop : Nat
  deriving DecidableEq, Repr, Inhabited

/-- The component that a text between slashes stands for. A `.` counts only at the front. -/
def componentOf? (first : Bool) (text : List Char) : Option Component :=
  if text.isEmpty then none
  else if text = ['.'] then (if first then some .current else none)
  else if text = ['.', '.'] then some .parent
  else some (.name (String.ofList text))

/-- The pieces of the rest of a path. `text` is the piece under way in reverse, and `position`
the number of characters before the rest. -/
def piecesFrom (first : Bool) (text : List Char) (position : Nat) : List Char → List Piece
  | [] =>
    match componentOf? first text.reverse with
    | some component => [⟨component, position⟩]
    | none => []
  | c :: rest =>
    if c = '/' then
      match componentOf? first text.reverse with
      | some component => ⟨component, position⟩ :: piecesFrom false [] (position + 1) rest
      | none => piecesFrom false [] (position + 1) rest
    else piecesFrom first (c :: text) (position + 1) rest

/-- The pieces of a path. -/
def pieces (path : String) : List Piece :=
  match path.toList with
  | '/' :: rest => ⟨.root, 1⟩ :: piecesFrom false [] 1 rest
  | chars => piecesFrom true [] 0 chars

/-- The components of a path. -/
def components (path : String) : List Component :=
  (pieces path).map Piece.component

/-- Lists of components in lexicographic order. -/
def compareComponents : List Component → List Component → Ordering
  | [], [] => .eq
  | [], _ :: _ => .lt
  | _ :: _, [] => .gt
  | a :: as, b :: bs => (a.compare b).then (compareComponents as bs)

/-- Paths are ordered by their components. -/
def comparePaths (a b : String) : Ordering :=
  compareComponents (components a) (components b)

/-- The path without its last component, `none` for the root and the empty path. -/
def parent? (path : String) : Option String :=
  match (pieces path).reverse with
  | [] => none
  | ⟨.root, _⟩ :: _ => none
  | [_] => some ""
  | _ :: previous :: _ => some (String.ofList (path.toList.take previous.stop))

/-- The last component, where it is a name. -/
def fileName? (path : String) : Option String :=
  match (components path).getLast? with
  | some (.name text) => some text
  | _ => none

/-- What follows the last dot of a file name that does not begin with that dot. -/
def extension? (path : String) : Option String :=
  (fileName? path).bind fun name =>
    let chars := name.toList
    let tail := (chars.reverse.takeWhile (· != '.')).reverse
    if tail.length + 1 < chars.length then some (String.ofList tail) else none

/-- A path with a name below it. -/
def join (path name : String) : String :=
  if path.isEmpty then name
  else if path.toList.getLast? = some '/' then path ++ name
  else path ++ "/" ++ name

end ParamChain.Files
