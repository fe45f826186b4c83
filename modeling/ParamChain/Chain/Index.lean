import ParamChain.Chain.Key

/-
This file holds the index of a unit: its declarations with enough parameters to take part in a
chain. Every such declaration can start a chain, also one whose key is taken again further down;
a call leads to the last declaration with its key.
-/

namespace ParamChain.Chain

/-- A declaration with its key. -/
structure Signature where
  key : String
  decl : FunctionDecl
  deriving DecidableEq, Repr, Inhabited

/-- The declarations that can take part in a chain, in source order. -/
structure Index where
  roots : List Signature
  deriving DecidableEq, Repr, Inhabited

namespace Index

/-- The index of the declarations with at least `minimum` parameters. -/
def build (decls : List FunctionDecl) (minimum : Nat) : Index :=
  ⟨(decls.filter fun d => minimum ≤ d.paramUnits).map fun d => ⟨declKey d, d⟩⟩

/-- The last declaration with the given key. -/
def get? (index : Index) (key : String) : Option Signature :=
  index.roots.reverse.find? fun s => s.key == key

/-- The number of different keys. -/
def size (index : Index) : Nat :=
  (index.roots.map Signature.key).eraseDups.length

/-- Whether there is no declaration. -/
def isEmpty (index : Index) : Bool :=
  index.roots.isEmpty

/-- The declarations that the calls of `decl` lead to, one for each call that leads anywhere. -/
def edges (index : Index) (decl : FunctionDecl) : List Signature :=
  decl.calls.filterMap fun call => (callKey call).bind index.get?

end Index

end ParamChain.Chain
