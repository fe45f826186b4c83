import ParamChain.Source.Model

/-
This file holds the identity of declarations and calls. A declaration is known by its name,
qualified by the type it belongs to; a call leads to the declaration with the same key. One
pointer level and every qualifier are dropped, so that a method reached through a pointer, a
value or a qualified name has one key.
-/

namespace ParamChain.Chain

/-- The type name behind at most one pointer, if there is one. -/
def receiverTypeName : TypeExpr → Option String
  | .named name _ => some name
  | .pointer (.named name _) => some name
  | .pointer _ => none
  | .other _ => none

/-- `T.name` for a method of the named type `T`, the bare name otherwise. -/
def declKey (d : FunctionDecl) : String :=
  match d.receiver.bind receiverTypeName with
  | some owner => owner ++ "." ++ d.name
  | none => d.name

/-- The key of the declaration that a callee leads to. A method of an unknown type and an
unresolved callee lead nowhere. -/
def calleeKey : Callee → Option String
  | .function name => some name
  | .method receiver name =>
    (receiver.bind receiverTypeName).map fun owner => owner ++ "." ++ name
  | .unresolved => none

/-- The key of the declaration that a call leads to. -/
def callKey (call : CallSite) : Option String :=
  calleeKey call.callee

end ParamChain.Chain
