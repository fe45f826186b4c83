import ParamChain.Source.Model

/-
This file holds the lexical scopes of a function body. A frame holds the names of one scope; a
name may be bound to a type or to nothing known, and the latter still hides an outer binding of
the name. A body has a frame of its own from the start, which no closing of a scope removes, so
there always is an innermost frame.
-/

namespace ParamChain.ParseTree

/-- The bindings of one scope, the latest first. -/
abbrev Frame := List (String × Option TypeExpr)

/-- A group of parameters as it is declared, and the type of its names. -/
structure Parameter where
  decl : ParamDecl
  type : TypeExpr
  deriving DecidableEq, Repr, Inhabited

/-- A frame with names of one type added. -/
def bindAll (frame : Frame) (names : List String) (type : TypeExpr) : Frame :=
  names.foldl (fun frame name => (name, some type) :: frame) frame

/-- A frame with the names of parameters added. -/
def bindParameters (frame : Frame) (groups : List Parameter) : Frame :=
  groups.foldl (fun frame p => bindAll frame p.decl.names p.type) frame

/-- The scopes around a place: the innermost, and those around it from the inside out. -/
structure Scopes where
  inner : Frame
  outer : List Frame
  deriving DecidableEq, Repr, Inhabited

namespace Scopes

/-- The scopes of a body whose root frame is given. -/
def ofRoot (root : Frame) : Scopes := ⟨root, []⟩

/-- All frames from the inside out. -/
def frames (s : Scopes) : List Frame := s.inner :: s.outer

/-- Open a scope. -/
def push (s : Scopes) (frame : Frame) : Scopes := ⟨frame, s.frames⟩

/-- Close the innermost scope. The root frame stays. -/
def pop (s : Scopes) : Scopes :=
  match s.outer with
  | [] => s
  | frame :: rest => ⟨frame, rest⟩

/-- Bind a name in the innermost scope. -/
def bind (s : Scopes) (name : String) (type : Option TypeExpr) : Scopes :=
  { s with inner := (name, type) :: s.inner }

/-- Bind names to nothing known. -/
def hide (s : Scopes) (names : List String) : Scopes :=
  names.foldl (fun s name => s.bind name none) s

/-- The binding of a name in a frame. -/
def binding? (frame : Frame) (name : String) : Option (Option TypeExpr) :=
  (frame.find? fun b => b.1 == name).map Prod.snd

/-- Whether the innermost scope binds a name. -/
def isBoundHere (s : Scopes) (name : String) : Bool :=
  (binding? s.inner name).isSome

/-- The type of the innermost binding of a name, if there is one and its type is known. -/
def lookup (s : Scopes) (name : String) : Option TypeExpr :=
  (s.frames.findSome? fun frame => binding? frame name).join

end Scopes

end ParamChain.ParseTree
