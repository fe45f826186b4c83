import ParamChain.ParseTree.Node

/-
This file holds the kinds of nodes in the syntax tree of a Rust file. A kind is kept apart where
declarations, types, patterns, scopes or calls depend on it; every other node is `other`.
-/

namespace ParamChain.Frontend

/-- The kinds of nodes of a Rust file. -/
inductive RustKind where
  | functionItem
  | implItem
  | traitItem
  | modItem
  | parameter
  | identifier
  | shorthandField
  | mutPattern
  | refPattern
  | referencePattern
  | typeIdentifier
  | primitiveType
  | scopedTypeIdentifier
  | genericType
  | turbofishType
  | referenceType
  | pointerType
  | lifetime
  | letDeclaration
  | letCondition
  | forExpression
  | closureExpression
  | callExpression
  | structExpression
  | referenceExpression
  | parenthesizedExpression
  | scopedIdentifier
  | fieldExpression
  | genericFunction
  | macroInvocation
  | block
  | ifExpression
  | whileExpression
  | matchArm
  | comment
  | other
  deriving DecidableEq, Repr, Inhabited

/-- Whether what is bound in a node of this kind is invisible outside it. -/
def RustKind.opensScope : RustKind → Bool
  | .block | .ifExpression | .whileExpression | .matchArm => true
  | _ => false

/-- A node of the syntax tree of a Rust file. -/
abbrev RustNode := ParseTree.Node RustKind

end ParamChain.Frontend
