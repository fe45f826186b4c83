import ParamChain.ParseTree.Node

/-
This file holds the kinds of nodes in the syntax tree of a Go file. A kind is kept apart where
declarations, types, scopes or calls depend on it; every other node is `other`.
-/

namespace ParamChain.Frontend

/-- The kinds of nodes of a Go file. -/
inductive GoKind where
  | packageClause
  | functionDeclaration
  | methodDeclaration
  | parameterDeclaration
  | variadicParameterDeclaration
  | typeIdentifier
  | qualifiedType
  | genericType
  | pointerType
  | parenthesizedType
  | identifier
  | selectorExpression
  | callExpression
  | compositeLiteral
  | unaryExpression
  | parenthesizedExpression
  | functionLiteral
  | shortVarDeclaration
  | varSpec
  | rangeClause
  | receiveStatement
  | block
  | ifStatement
  | forStatement
  | expressionSwitch
  | typeSwitch
  | selectStatement
  | expressionCase
  | typeCase
  | defaultCase
  | communicationCase
  | comment
  | other
  deriving DecidableEq, Repr, Inhabited

/-- Whether what is declared in a node of this kind is invisible outside it. -/
def GoKind.opensScope : GoKind → Bool
  | .block | .ifStatement | .forStatement | .expressionSwitch | .typeSwitch | .selectStatement
  | .expressionCase | .typeCase | .defaultCase | .communicationCase => true
  | _ => false

/-- A node of the syntax tree of a Go file. -/
abbrev GoNode := ParseTree.Node GoKind

end ParamChain.Frontend
