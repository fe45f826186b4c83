import ParamChain.Fault
import ParamChain.Frontend.GoGrammar
import ParamChain.Text.Blank
import ParamChain.ParseTree.Scopes

/-
This file holds the source model of a Go file: its package, its functions and methods, and the
calls of each with what the text tells about their receivers. A body is walked in source order,
and a name is bound only after what initializes it has been walked, so each call sees the
bindings in force where it stands.
-/

namespace ParamChain.Frontend.GoModel

open ParseTree

/-! ### Types -/

/-- A type known only by its text. -/
def otherType (text : String) : TypeExpr :=
  .other (Text.normalize text)

/-- The type expression of a qualified name, from its parts. -/
def qualified (package name : Option GoNode) (text : String) : TypeExpr :=
  match package, name with
  | some package, some name => .named name.text (some package.text)
  | _, _ => otherType text

mutual

/-- The type expression of a node. Type arguments and parentheses do not matter. -/
def typeExpr : GoNode → TypeExpr
  | .mk kind role named span text children =>
    match kind with
    | .typeIdentifier => .named text none
    | .qualifiedType =>
      let node : GoNode := .mk kind role named span text children
      qualified (node.child? .package) (node.child? .name) text
    | .genericType => (firstTypeExpr (fun n => n.plays .type) children).getD (otherType text)
    | .pointerType =>
      ((firstTypeExpr Node.named children).map .pointer).getD (otherType text)
    | .parenthesizedType => (firstTypeExpr Node.named children).getD (otherType text)
    | _ => otherType text

/-- The type expression of the first node that satisfies a condition. -/
def firstTypeExpr (p : GoNode → Bool) : List GoNode → Option TypeExpr
  | [] => none
  | node :: rest => if p node then some (typeExpr node) else firstTypeExpr p rest

end

/-! ### Parameters -/

/-- The names that a node declares. -/
def declaredNames (node : GoNode) : List String :=
  (node.childrenAs .name).map Node.text

/-- The parameter group of a node, if it is one. -/
def parameter? (node : GoNode) : Option Parameter :=
  (node.child? .type).bind fun type =>
    let text := Text.normalize type.text
    let group (text : String) : Parameter := ⟨⟨declaredNames node, text⟩, typeExpr type⟩
    match node.kind with
    | .parameterDeclaration => some (group text)
    | .variadicParameterDeclaration => some (group ("..." ++ text))
    | _ => none

/-- The parameter groups of a list. -/
def parameters (list : GoNode) : List Parameter :=
  list.namedChildren.filterMap parameter?

/-- The first group of a receiver list, if it has a type. -/
def receiver? (list : GoNode) : Option (List String × TypeExpr) :=
  (list.namedChildren.find? fun n => n.kind == .parameterDeclaration).bind fun decl =>
    (decl.child? .type).map fun type => (declaredNames decl, typeExpr type)

/-! ### The types of values -/

/-- The type of the first argument of an allocation. -/
def allocatedType (target : GoNode) : Option TypeExpr :=
  match target.kind with
  | .identifier => some (.named target.text none)
  | .selectorExpression => do
    let selector ← target.child? .selector
    let operand ← target.child? .operand
    some (.named selector.text (some operand.text))
  | _ => some (typeExpr target)

/-- The type of a call, which is known for `new` alone. -/
def callType (call : GoNode) : Option TypeExpr := do
  let function ← call.child? .function
  if function.text = "new" then
    let arguments ← call.child? .arguments
    let target ← arguments.firstNamed?
    (allocatedType target).map .pointer
  else none

mutual

/-- The type of a value, where the text tells it: a literal, the address of one, an allocation,
or one of these in parentheses. -/
def valueType : GoNode → Option TypeExpr
  | .mk kind role named span text children =>
    let node : GoNode := .mk kind role named span text children
    match kind with
    | .compositeLiteral => (node.child? .type).map typeExpr
    | .unaryExpression =>
      if (node.child? .operator).map Node.text = some "&" then
        (firstValueType (fun n => n.plays .operand) children).map .pointer
      else none
    | .callExpression => callType node
    | .parenthesizedExpression => firstValueType Node.named children
    | _ => none

/-- The type of the first node that satisfies a condition. -/
def firstValueType (p : GoNode → Bool) : List GoNode → Option TypeExpr
  | [] => none
  | node :: rest => if p node then valueType node else firstValueType p rest

end

/-! ### Bindings -/

/-- The types of the values in a list, if there is one. -/
def valueTypes (list : Option GoNode) : List (Option TypeExpr) :=
  ((list.map Node.namedChildren).getD []).map valueType

/-- Bind the targets of a short declaration, from the one with number `i` on. A name that the
innermost scope has already keeps its binding. -/
def bindTargets (types : List (Option TypeExpr)) : Nat → List GoNode → Scopes → Scopes
  | _, [], scopes => scopes
  | i, target :: rest, scopes =>
    let next :=
      if target.kind == .identifier && !scopes.isBoundHere target.text then
        scopes.bind target.text (types[i]?.join)
      else scopes
    bindTargets types (i + 1) rest next

/-- The scopes after a short declaration. -/
def bindShortVar (node : GoNode) (scopes : Scopes) : Scopes :=
  match node.child? .left with
  | none => scopes
  | some left => bindTargets (valueTypes (node.child? .right)) 0 left.namedChildren scopes

/-- Bind names to the types with the same numbers, from number `i` on. -/
def bindNames (types : List (Option TypeExpr)) : Nat → List String → Scopes → Scopes
  | _, [], scopes => scopes
  | i, name :: rest, scopes => bindNames types (i + 1) rest (scopes.bind name (types[i]?.join))

/-- The scopes after a declaration of variables. A type that is given counts for all of them. -/
def bindVarSpec (node : GoNode) (scopes : Scopes) : Scopes :=
  match node.child? .type with
  | some type =>
    let t := typeExpr type
    (declaredNames node).foldl (fun s name => s.bind name (some t)) scopes
  | none => bindNames (valueTypes (node.child? .value)) 0 (declaredNames node) scopes

/-! ### Calls -/

/-- What is called. Only a variable of known type qualifies a method; the name of a package
does not. -/
def callee (function : GoNode) (scopes : Scopes) : Callee :=
  match function.kind with
  | .identifier => .function function.text
  | .selectorExpression =>
    match function.child? .selector with
    | none => .unresolved
    | some selector =>
      let receiver := (function.child? .operand).bind fun operand =>
        if operand.kind == .identifier then scopes.lookup operand.text else none
      .method receiver selector.text
  | _ => .unresolved

/-- The call that a node stands for, if it is one. -/
def callHere (file : String) (node : GoNode) (scopes : Scopes) : List CallSite :=
  match node.kind with
  | .callExpression =>
    let target := ((node.child? .function).map fun f => callee f scopes).getD .unresolved
    [⟨target, node.span.position file⟩]
  | _ => []

mutual

/-- Walk a node: the scopes after it and the calls in it, an outer call before the calls inside
it. -/
def walk (file : String) (scopes : Scopes) : GoNode → Scopes × List CallSite
  | .mk kind role named span text children =>
    let node : GoNode := .mk kind role named span text children
    match kind with
    | .shortVarDeclaration =>
      let (scopes, calls) := walkRole file scopes .right children
      (bindShortVar node scopes, calls)
    | .varSpec =>
      let (scopes, calls) := walkRole file scopes .value children
      (bindVarSpec node scopes, calls)
    | .functionLiteral =>
      let frame := ((node.child? .parameters).map fun l => bindParameters [] (parameters l)).getD []
      let (inside, calls) := walkRole file (scopes.push frame) .body children
      (inside.pop, calls)
    | _ =>
      let here := callHere file node scopes
      if kind.opensScope then
        let (inside, calls) := walkNamed file (scopes.push []) children
        (inside.pop, here ++ calls)
      else
        let (after, calls) := walkNamed file scopes children
        (after, here ++ calls)

/-- Walk the named nodes of a list. -/
def walkNamed (file : String) (scopes : Scopes) : List GoNode → Scopes × List CallSite
  | [] => (scopes, [])
  | node :: rest =>
    if node.named then
      let (scopes, calls) := walk file scopes node
      let (scopes, more) := walkNamed file scopes rest
      (scopes, calls ++ more)
    else walkNamed file scopes rest

/-- Walk the first node in a role. -/
def walkRole (file : String) (scopes : Scopes) (role : Role) :
    List GoNode → Scopes × List CallSite
  | [] => (scopes, [])
  | node :: rest =>
    if node.plays role then walk file scopes node else walkRole file scopes role rest

end

/-! ### Files -/

/-- The declaration of a function or method. -/
def functionDecl? (file : String) (node : GoNode) : Option FunctionDecl :=
  (node.child? .name).map fun name =>
    let receiver := (node.child? .receiver).bind receiver?
    let root : Frame := (receiver.map fun r => bindAll [] r.1 r.2).getD []
    let groups := ((node.child? .parameters).map parameters).getD []
    let scopes := Scopes.ofRoot (bindParameters root groups)
    { name := name.text
      receiver := receiver.map Prod.snd
      params := groups.map Parameter.decl
      calls := ((node.child? .body).map fun body => (walk file scopes body).2).getD []
      position := node.span.position file }

/-- The functions and methods at the top of a file. -/
def functions (file : String) (nodes : List GoNode) : List FunctionDecl :=
  (nodes.filter fun n => n.kind == .functionDeclaration || n.kind == .methodDeclaration).filterMap
    (functionDecl? file)

/-- The package that the last package clause names. -/
def package? (nodes : List GoNode) : Option String :=
  ((nodes.filter fun n => n.kind == .packageClause).getLast?.bind Node.firstNamed?).map Node.text

/-- The source model of a syntax tree. -/
def ofTree (file : String) (root : GoNode) : FileModel :=
  ⟨package? root.namedChildren, functions file root.namedChildren⟩

/-- The source model of a Go file. -/
def read (file source : String) : Except Fault FileModel :=
  match GoGrammar.parse? source with
  | some root => .ok (ofTree file root)
  | none => .error (.sourceModel file "syntax error")

end ParamChain.Frontend.GoModel
