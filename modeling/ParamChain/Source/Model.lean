/-
This file holds the source model, the part of a program that the analysis looks at. A file
declares functions; a function has parameter groups and call sites; a call site names its callee
as far as the program text alone tells. Types appear twice: as normalized text, which decides
whether two parameters have the same type, and as a type expression, which decides to which type
a method belongs.
-/

namespace ParamChain

/-- A place in a source file. Lines and columns count from one, columns in bytes. -/
structure SourcePosition where
  file : String
  line : Nat
  column : Nat
  deriving DecidableEq, Repr, Inhabited

/-- The position as `file:line:column`. -/
def SourcePosition.render (p : SourcePosition) : String :=
  p.file ++ ":" ++ toString p.line ++ ":" ++ toString p.column

/-- A type as far as method lookup needs it: a name with an optional qualifier, a pointer-like
wrapper, or any other type by its text. -/
inductive TypeExpr where
  | named (name : String) (qualifier : Option String)
  | pointer (target : TypeExpr)
  | other (text : String)
  deriving DecidableEq, Repr, Inhabited

/-- A parameter group: the names it declares and the text of their common type. -/
structure ParamDecl where
  names : List String
  typeText : String
  deriving DecidableEq, Repr, Inhabited

/-- The parameters a group stands for. A group without names is one unnamed parameter. -/
def ParamDecl.units (p : ParamDecl) : Nat :=
  max p.names.length 1

/-- What a call site calls. -/
inductive Callee where
  | function (name : String)
  | method (receiver : Option TypeExpr) (name : String)
  | unresolved
  deriving DecidableEq, Repr, Inhabited

/-- A call and where it starts. -/
structure CallSite where
  callee : Callee
  position : SourcePosition
  deriving DecidableEq, Repr, Inhabited

/-- A function or method declaration with the calls of its body in source order. -/
structure FunctionDecl where
  name : String
  receiver : Option TypeExpr
  params : List ParamDecl
  calls : List CallSite
  position : SourcePosition
  deriving DecidableEq, Repr, Inhabited

/-- The number of parameters of a declaration. -/
def FunctionDecl.paramUnits (d : FunctionDecl) : Nat :=
  d.params.foldr (fun p n => p.units + n) 0

/-- What a front end finds in one file. -/
structure FileModel where
  package : Option String
  functions : List FunctionDecl
  deriving DecidableEq, Repr, Inhabited

/-- A file model together with where it came from. -/
structure ParsedFile where
  path : String
  language : String
  package : Option String
  functions : List FunctionDecl
  deriving DecidableEq, Repr, Inhabited

end ParamChain
