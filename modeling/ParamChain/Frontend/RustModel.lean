import ParamChain.Fault
import ParamChain.Frontend.RustGrammar
import ParamChain.Text.Blank
import ParamChain.Text.Uppercase
import ParamChain.ParseTree.Scopes

/-
This file holds the source model of a Rust file: its functions, the types they belong to, and the
calls of each with what the text tells about their receivers. A body is walked in source order,
and a pattern binds only after what it is matched with has been walked, so each call sees the
bindings in force where it stands. Functions inside a body are not walked.
-/

namespace ParamChain.Frontend.RustModel

open ParseTree

/-! ### Types -/

/-- The types that method calls see through to their first argument. -/
def seeThrough : List String := ["Box", "Rc", "Arc"]

/-- The functions of a type that are taken to make a value of it. -/
def constructors : List String := ["new", "default"]

/-- A type known only by its text. -/
def otherType (text : String) : TypeExpr :=
  .other (Text.normalize text)

/-- The type that a name stands for, inside an item of the given type. -/
def namedIn (owner : Option TypeExpr) (name : String) : TypeExpr :=
  if name = "Self" then owner.getD (.named name none) else .named name none

/-- A type with arguments: what a see-through type points to, and the type itself otherwise. -/
def applied (base : TypeExpr) (argument : Option TypeExpr) : TypeExpr :=
  match base, argument with
  | .named name _, some inner => if seeThrough.contains name then .pointer inner else base
  | _, _ => base

mutual

/-- The type expression of a node, inside an item of the given type. -/
def typeExpr (owner : Option TypeExpr) : RustNode → TypeExpr
  | .mk kind role named span text children =>
    match kind with
    | .typeIdentifier => namedIn owner text
    | .primitiveType => .named text none
    | .scopedTypeIdentifier =>
      let node : RustNode := .mk kind role named span text children
      match node.child? .name with
      | some name => .named name.text ((node.child? .path).map Node.text)
      | none => otherType text
    | .genericType =>
      match typeExprAs owner .type children with
      | some base => applied base (firstArgument owner children)
      | none => otherType text
    | .referenceType | .pointerType =>
      ((typeExprAs owner .type children).map .pointer).getD (otherType text)
    | _ => otherType text

/-- The type expression of the first node in a role. -/
def typeExprAs (owner : Option TypeExpr) (role : Role) : List RustNode → Option TypeExpr
  | [] => none
  | node :: rest =>
    if node.plays role then some (typeExpr owner node) else typeExprAs owner role rest

/-- The type expression of the first type argument, from the children of a type. -/
def firstArgument (owner : Option TypeExpr) : List RustNode → Option TypeExpr
  | [] => none
  | .mk _ role _ _ _ children :: rest =>
    if role == some .typeArguments then firstType owner children else firstArgument owner rest

/-- The type expression of the first named node that is no lifetime. -/
def firstType (owner : Option TypeExpr) : List RustNode → Option TypeExpr
  | [] => none
  | node :: rest =>
    if node.named && node.kind != .lifetime then some (typeExpr owner node)
    else firstType owner rest

end

/-! ### Patterns -/

mutual

/-- The one name that a pattern binds, if it is a name behind any number of `mut`, `ref` and
`&`. -/
def bindingName : RustNode → Option String
  | .mk kind _ _ _ text children =>
    match kind with
    | .identifier => some text
    | .mutPattern | .refPattern | .referencePattern => lastBindingName children
    | _ => none

/-- The one name that the last named node binds. -/
def lastBindingName : List RustNode → Option String
  | [] => none
  | node :: rest =>
    if rest.any Node.named then lastBindingName rest
    else if node.named then bindingName node
    else none

end

mutual

/-- Every name in a pattern, also those of paths and constructors. -/
def patternNames : RustNode → List String
  | .mk kind _ _ _ text children =>
    match kind with
    | .identifier | .shorthandField => [text]
    | _ => allPatternNames children

/-- Every name in the named patterns of a list. -/
def allPatternNames : List RustNode → List String
  | [] => []
  | node :: rest =>
    if node.named then patternNames node ++ allPatternNames rest else allPatternNames rest

end

/-! ### Parameters -/

/-- The parameter of a node, if it is one with a type. The receiver is none. -/
def parameter? (owner : Option TypeExpr) (node : RustNode) : Option Parameter :=
  if node.kind = .parameter then
    (node.child? .type).map fun type =>
      let names := ((node.child? .pattern).bind bindingName).toList
      ⟨⟨names, Text.normalize type.text⟩, typeExpr owner type⟩
  else none

/-- The parameters of a list. -/
def parameters (owner : Option TypeExpr) (list : RustNode) : List Parameter :=
  list.namedChildren.filterMap (parameter? owner)

/-- The bindings that a parameter of a closure adds to a frame. One with a type and a pattern that
is more than a name adds none. -/
def bindClosureParameter (owner : Option TypeExpr) (frame : Frame) (node : RustNode) : Frame :=
  if node.kind = .parameter then
    match (node.child? .pattern).bind bindingName with
    | some name => (name, (node.child? .type).map (typeExpr owner)) :: frame
    | none => frame
  else (patternNames node).foldl (fun f name => (name, none) :: f) frame

/-- The frame of a closure with the given parameters. -/
def closureFrame (owner : Option TypeExpr) (list : RustNode) : Frame :=
  list.namedChildren.foldl (bindClosureParameter owner) []

/-! ### The types of values -/

/-- The last name of a path. -/
def lastSegment (path : RustNode) : Option String :=
  match path.kind with
  | .scopedIdentifier => (path.child? .name).map Node.text
  | _ => some path.text

/-- The type that a path names, if its last name looks like a type. -/
def pathType (owner : Option TypeExpr) (path : RustNode) : Option TypeExpr :=
  (lastSegment path).bind fun segment =>
    if segment = "Self" then owner
    else if (segment.toList.head?.map Text.isUppercase).getD false then some (.named segment none)
    else none

/-- The type of a call, which is known for constructors alone. -/
def callType (owner : Option TypeExpr) (call : RustNode) : Option TypeExpr := do
  let function ← call.child? .function
  if function.kind = .scopedIdentifier then
    let name ← function.child? .name
    if constructors.contains name.text then
      let path ← function.child? .path
      pathType owner path
    else none
  else none

/-- The type of a struct literal, from its name. -/
def literalType (owner : Option TypeExpr) (name : RustNode) : Option TypeExpr :=
  match name.kind with
  | .turbofishType => (name.child? .type).map (typeExpr owner)
  | _ => some (typeExpr owner name)

mutual

/-- The type of a value, where the text tells it: a struct literal, a reference to a value of
known type, a constructor, or one of these in parentheses. -/
def valueType (owner : Option TypeExpr) : RustNode → Option TypeExpr
  | .mk kind role named span text children =>
    let node : RustNode := .mk kind role named span text children
    match kind with
    | .structExpression => (node.child? .name).bind (literalType owner)
    | .referenceExpression =>
      (firstValueType owner (fun n => n.plays .value) children).map .pointer
    | .callExpression => callType owner node
    | .parenthesizedExpression => firstValueType owner Node.named children
    | _ => none

/-- The type of the first node that satisfies a condition. -/
def firstValueType (owner : Option TypeExpr) (p : RustNode → Bool) :
    List RustNode → Option TypeExpr
  | [] => none
  | node :: rest => if p node then valueType owner node else firstValueType owner p rest

end

/-! ### Bindings -/

/-- The scopes after every name of a pattern has been bound to nothing known. -/
def hidePattern (pattern : Option RustNode) (scopes : Scopes) : Scopes :=
  match pattern with
  | some p => scopes.hide (patternNames p)
  | none => scopes

/-- The scopes after a `let`. A type that is given counts before the type of the value. -/
def bindLet (owner : Option TypeExpr) (node : RustNode) (scopes : Scopes) : Scopes :=
  match node.child? .pattern with
  | none => scopes
  | some pattern =>
    match bindingName pattern with
    | some name =>
      let type :=
        match node.child? .type with
        | some type => some (typeExpr owner type)
        | none => (node.child? .value).bind (valueType owner)
      scopes.bind name type
    | none => hidePattern (some pattern) scopes

/-- The scopes after the pattern of a match arm. Where the pattern itself has no name, its
condition is taken for it. -/
def bindArm (node : RustNode) (scopes : Scopes) : Scopes :=
  hidePattern ((node.child? .pattern).bind Node.firstNamed?) scopes

/-! ### Calls -/

/-- The type of the receiver in front of a method. -/
def receiverType (owner : Option TypeExpr) (scopes : Scopes) (value : RustNode) :
    Option TypeExpr :=
  if value.text = "self" then owner
  else if value.kind = .identifier then scopes.lookup value.text
  else none

/-- What a path calls. A path that does not name a type is a module, and only the last name
counts. -/
def pathCallee (owner : Option TypeExpr) (function : RustNode) : Callee :=
  match function.child? .name with
  | none => .unresolved
  | some name =>
    match (function.child? .path).bind (pathType owner) with
    | some receiver => .method (some receiver) name.text
    | none => .function name.text

mutual

/-- What is called. -/
def callee (owner : Option TypeExpr) (scopes : Scopes) : RustNode → Callee
  | .mk kind role named span text children =>
    let function : RustNode := .mk kind role named span text children
    match kind with
    | .identifier => .function text
    | .scopedIdentifier => pathCallee owner function
    | .fieldExpression =>
      match function.child? .selector with
      | none => .unresolved
      | some selector =>
        .method ((function.child? .value).bind (receiverType owner scopes)) selector.text
    | .genericFunction => calleeAs owner scopes children
    | _ => .unresolved

/-- What the first node in the role of a function stands for. -/
def calleeAs (owner : Option TypeExpr) (scopes : Scopes) : List RustNode → Callee
  | [] => .unresolved
  | node :: rest =>
    if node.plays .function then callee owner scopes node else calleeAs owner scopes rest

end

/-- The call that a node stands for, if it is one. -/
def callHere (file : String) (owner : Option TypeExpr) (node : RustNode) (scopes : Scopes) :
    List CallSite :=
  match node.kind with
  | .callExpression => [⟨calleeAs owner scopes node.children, node.span.position file⟩]
  | _ => []

mutual

/-- Walk a node: the scopes after it and the calls in it, an outer call before the calls inside
it. -/
def walk (file : String) (owner : Option TypeExpr) (scopes : Scopes) :
    RustNode → Scopes × List CallSite
  | .mk kind role named span text children =>
    let node : RustNode := .mk kind role named span text children
    match kind with
    | .functionItem => (scopes, [])
    | .letDeclaration =>
      let (scopes, calls) := walkRole file owner scopes .value children
      let (scopes, more) := walkRole file owner scopes .alternative children
      (bindLet owner node scopes, calls ++ more)
    | .letCondition =>
      let (scopes, calls) := walkRole file owner scopes .value children
      (hidePattern (node.child? .pattern) scopes, calls)
    | .forExpression =>
      let (scopes, calls) := walkRole file owner scopes .value children
      let inside := hidePattern (node.child? .pattern) (scopes.push [])
      let (inside, more) := walkRole file owner inside .body children
      (inside.pop, calls ++ more)
    | .closureExpression =>
      let frame := ((node.child? .parameters).map (closureFrame owner)).getD []
      let (inside, calls) := walkRole file owner (scopes.push frame) .body children
      (inside.pop, calls)
    | .matchArm =>
      let (inside, calls) := walkNamed file owner (bindArm node (scopes.push [])) children
      (inside.pop, calls)
    | _ =>
      let here := callHere file owner node scopes
      if kind.opensScope then
        let (inside, calls) := walkNamed file owner (scopes.push []) children
        (inside.pop, here ++ calls)
      else
        let (after, calls) := walkNamed file owner scopes children
        (after, here ++ calls)

/-- Walk the named nodes of a list. -/
def walkNamed (file : String) (owner : Option TypeExpr) (scopes : Scopes) :
    List RustNode → Scopes × List CallSite
  | [] => (scopes, [])
  | node :: rest =>
    if node.named then
      let (scopes, calls) := walk file owner scopes node
      let (scopes, more) := walkNamed file owner scopes rest
      (scopes, calls ++ more)
    else walkNamed file owner scopes rest

/-- Walk the first node in a role. -/
def walkRole (file : String) (owner : Option TypeExpr) (scopes : Scopes) (role : Role) :
    List RustNode → Scopes × List CallSite
  | [] => (scopes, [])
  | node :: rest =>
    if node.plays role then walk file owner scopes node
    else walkRole file owner scopes role rest

end

/-! ### Files -/

/-- The declaration of a function of the given type. -/
def functionDecl? (file : String) (owner : Option TypeExpr) (node : RustNode) :
    Option FunctionDecl :=
  (node.child? .name).map fun name =>
    let groups := ((node.child? .parameters).map (parameters owner)).getD []
    let scopes := Scopes.ofRoot (bindParameters [] groups)
    { name := name.text
      receiver := owner
      params := groups.map Parameter.decl
      calls := ((node.child? .body).map fun body => (walk file owner scopes body).2).getD []
      position := node.span.position file }

/-- The type that the functions inside an item belong to. -/
def itemOwner (node : RustNode) : Option TypeExpr :=
  match node.kind with
  | .implItem => (node.child? .type).map (typeExpr none)
  | .traitItem => (node.child? .name).map fun name => .named name.text none
  | _ => none

/-- Whether functions are looked for inside a node. -/
def holdsFunctions (kind : RustKind) : Bool :=
  kind == .implItem || kind == .traitItem || kind == .modItem

mutual

/-- The functions of a node, where it stands inside an item of the given type. -/
def functionsOf (file : String) (owner : Option TypeExpr) : RustNode → List FunctionDecl
  | .mk kind role named span text children =>
    let node : RustNode := .mk kind role named span text children
    if kind = .functionItem then (functionDecl? file owner node).toList
    else if holdsFunctions kind then functionsOfBody file (itemOwner node) children
    else []

/-- The functions of the first body among the children of an item. -/
def functionsOfBody (file : String) (owner : Option TypeExpr) :
    List RustNode → List FunctionDecl
  | [] => []
  | .mk _ role _ _ _ children :: rest =>
    if role == some .body then functionsOfAll file owner children
    else functionsOfBody file owner rest

/-- The functions of the named nodes of a list. -/
def functionsOfAll (file : String) (owner : Option TypeExpr) : List RustNode → List FunctionDecl
  | [] => []
  | node :: rest =>
    (if node.named then functionsOf file owner node else []) ++ functionsOfAll file owner rest

end

/-- The source model of a syntax tree. -/
def ofTree (file : String) (root : RustNode) : FileModel :=
  ⟨none, functionsOfAll file none root.children⟩

/-- The source model of a Rust file. -/
def read (file source : String) : Except Fault FileModel :=
  match RustGrammar.parse? source with
  | some root => .ok (ofTree file root)
  | none => .error (.sourceModel file "syntax error")

end ParamChain.Frontend.RustModel
