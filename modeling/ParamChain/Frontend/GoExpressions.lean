import ParamChain.Frontend.GoTypes

/-
This file holds the expressions of Go. A brace after a name opens a literal, except in the head of
an `if`, `for` or `switch`, where it opens the block. A name with type arguments and one argument,
as in `F[int](x)`, reads as the conversion of `x` to an instantiated type; with any other number
of arguments it is a call of `F`.
-/

namespace ParamChain.Frontend.GoGrammar

open ParseTree ParseTree.Parser

/-! ### Operators -/

/-- The operators between two operands. -/
def binaryOperators : List String :=
  ["<<", ">>", "&^", "&&", "||", "==", "!=", "<=", ">=", "+", "-", "*", "/", "%", "&", "|", "^",
    "<", ">"]

/-- The operators of assignments that compute. -/
def assignmentOperators : List String :=
  ["<<=", ">>=", "&^=", "+=", "-=", "*=", "/=", "%=", "&=", "|=", "^="]

/-- The operators of statements that do not compute an assignment. -/
def statementOperators : List String := [":=", "++", "--", "<-"]

/-- The operators that can follow an expression, longer ones first. -/
def operators (statement : Bool) : List String :=
  if statement then assignmentOperators ++ statementOperators ++ binaryOperators ++ ["="]
  else binaryOperators

/-- The operators before an operand. -/
def unaryOperators : List String := ["<-", "+", "-", "!", "^", "*", "&"]

/-! ### Expressions -/

/-- Expressions with commas between them. -/
def expressionList (g : Grammar) (m : Mode) : Parser GoNode :=
  node .other (sepBy1 (g (.expression m)) (do sameLine m.ends; comma))

/-- An argument, and whether it stands for several. -/
def argument (g : Grammar) : Parser (Bool × GoNode) := do
  let start ← here
  let e ← g (.expression .nested)
  match ← maybe (signs "...") with
  | some _ =>
    let spread ← nodeFrom start .other [e]
    pure (true, spread)
  | none => pure (false, e)

/-- The arguments of a call, and whether they are exactly one. -/
def argumentList (g : Grammar) : Parser (Bool × GoNode) := do
  let start ← here
  let _ ← sign '('
  let items ← sepBy (argument g) comma
  let _ ← sign ')'
  let list ← nodeFrom start .other (items.map Prod.snd)
  pure (items.map Prod.fst == [false], list)

/-- The arguments of an allocation, of which the first is a type. -/
def allocationList (g : Grammar) : Parser GoNode :=
  node .other do
    let _ ← sign '('
    let items ← maybe (do
      let t ← g (.type false)
      let more ← many (do let _ ← comma; g (.expression .nested))
      let _ ← maybe comma
      pure (t :: more))
    let _ ← sign ')'
    pure (items.getD [])

/-- What is converted to a type: one expression in parentheses. -/
def converted (g : Grammar) : Parser GoNode := do
  let _ ← sign '('
  let e ← g (.expression .nested)
  let _ ← maybe comma
  let _ ← sign ')'
  pure e

/-- A name or a qualified name, read as a type. -/
def asType? (e : GoNode) : Option GoNode :=
  match e.kind with
  | .identifier => some (e.withKind .typeIdentifier)
  | .selectorExpression =>
    match e.children with
    | [operand, selector] =>
      if operand.kind = .identifier then
        some (.mk .qualifiedType none true e.span e.text
          [(operand.withKind .other).as .package, (selector.withKind .typeIdentifier).as .name])
      else none
    | _ => none
  | _ => none

mutual

/-- Whether a type has type arguments somewhere in it. -/
def hasTypeArguments : GoNode → Bool
  | .mk kind _ _ _ _ children => kind == .genericType || anyHasTypeArguments children

/-- Whether one of the types has type arguments somewhere in it. -/
def anyHasTypeArguments : List GoNode → Bool
  | [] => false
  | n :: rest => hasTypeArguments n || anyHasTypeArguments rest

end

/-- A literal of the given type. -/
def compositeOf (g : Grammar) (type : GoNode) : Parser GoNode := do
  let body ← g .literalValue
  nodeFrom type.span .compositeLiteral [type.as .type, body.as .body]

/-- An operand with type arguments, followed by a literal or by arguments. -/
def instantiated (g : Grammar) (m : Mode) (e : GoNode) : Parser GoNode := do
  let types ← typeArguments g
  sameLine m.ends
  let generic ←
    match asType? e with
    | some base => do
      let n ← nodeFrom e.span .genericType [base.as .type, types.as .typeArguments]
      pure (some n)
    | none => pure none
  match ← nextSign '\x7b', generic with
  | true, some type =>
    check (!m.header)
    compositeOf g type
  | _, generic =>
    let (one, list) ← argumentList g
    match one, generic with
    | true, some type => nodeFrom e.span .other (type :: list.children)
    | _, _ =>
      nodeFrom e.span .callExpression
        [e.as .function, types.as .typeArguments, list.as .arguments]

/-- An operand with an index or a slice of it. -/
def indexed (g : Grammar) (e : GoNode) : Parser GoNode := do
  let _ ← sign '['
  let first ← maybe (g (.expression .nested))
  if ← nextSign ':' then
    let _ ← sign ':'
    let second ← maybe (g (.expression .nested))
    let third ←
      if second.isSome then maybe (do let _ ← sign ':'; g (.expression .nested)) else pure none
    let _ ← sign ']'
    nodeFrom e.span .other (e :: (first.toList ++ second.toList ++ third.toList))
  else
    check first.isSome
    let _ ← sign ']'
    nodeFrom e.span .other (e :: first.toList)

/-- A type name with type arguments that stands for itself. -/
def instantiation (g : Grammar) (e : GoNode) : Parser GoNode := do
  check (asType? e).isSome
  let types ← typeArguments g
  nodeFrom e.span .other [e, types]

/-- Whether the guard of a type switch comes next. -/
def atTypeGuard : Parser Bool := fun r =>
  match r.tokens with
  | a :: b :: c :: d :: _ =>
    some (a.isSign '.' && b.isSign '(' && c.isWord "type" && d.isSign ')', r)
  | _ => some (false, r)

/-- A selector or an asserted type. -/
def selected (g : Grammar) (m : Mode) (e : GoNode) : Parser GoNode := do
  check (!(m.guarded && (← atTypeGuard)))
  let _ ← sign '.'
  if ← nextSign '(' then
    let _ ← sign '('
    let t ← g (.type false)
    let _ ← sign ')'
    nodeFrom e.span .other [e, t]
  else
    let t ← name []
    nodeFrom e.span .selectorExpression [e.as .operand, (leaf .other t).as .selector]

/-- One more step of what follows an operand. -/
def extended (g : Grammar) (m : Mode) (e : GoNode) : Parser GoNode := do
  sameLine m.ends
  match ← peek? with
  | none => failure
  | some t =>
    if t.isSign '.' then selected g m e
    else if t.isSign '(' then
      let (_, list) ← argumentList g
      nodeFrom e.span .callExpression [e.as .function, list.as .arguments]
    else if t.isSign '[' then instantiated g m e <|> indexed g e <|> instantiation g e
    else if t.isSign '\x7b' then
      check (!m.header)
      match asType? e with
      | some type => compositeOf g type
      | none => failure
    else failure

/-- An expression in parentheses, or a type in parentheses that something is converted to. -/
def parenthesized (g : Grammar) : Parser GoNode := do
  let start ← here
  let type : Parser GoNode := do
    let _ ← sign '('
    let t ← g (.type false)
    let _ ← sign ')'
    pure t
  let conversion (generic : Bool) : Parser GoNode := do
    let t ← type
    check (!generic || hasTypeArguments t)
    let e ← converted g
    nodeFrom start .other [t, e]
  let plain : Parser GoNode := do
    let _ ← sign '('
    let e ← g (.expression .nested)
    let _ ← sign ')'
    nodeFrom start .parenthesizedExpression [e]
  conversion true <|> plain <|> conversion false

/-- A function with its body, or the type of a function that something is converted to. -/
def functionLiteral (g : Grammar) : Parser GoNode := do
  let start ← here
  let literal : Parser GoNode := do
    let _ ← word "func"
    let parameters ← parameterList g
    let r ← maybe (result g false)
    let body ← g .block
    nodeFrom start .functionLiteral (parameters.as .parameters :: r.toList ++ [body.as .body])
  let conversion : Parser GoNode := do
    let t ← functionType g false
    let e ← converted g
    nodeFrom start .other [t, e]
  literal <|> conversion

/-- An array whose length its literal tells. -/
def countedArray (g : Grammar) : Parser GoNode :=
  node .other do
    let _ ← sign '['
    signs "..."
    let _ ← sign ']'
    let element ← g (.type false)
    pure [element]

/-- A literal of an unnamed type, or an unnamed type that something is converted to. -/
def typeLiteral (g : Grammar) (literal : Bool) : Parser GoNode := do
  let type ← countedArray g <|> g (.type false)
  if literal && (← nextSign '\x7b') then compositeOf g type
  else
    let e ← converted g
    nodeFrom type.span .other [type, e]

/-- A call of an allocator, or its name. -/
def allocation (g : Grammar) (m : Mode) : Parser GoNode := do
  let t ← name []
  let f : GoNode := leaf .identifier t
  if !(← broken m.ends) && (← nextSign '(') then
    let list ← allocationList g
    nodeFrom t.span .callExpression [f.as .function, list.as .arguments]
  else pure f

/-- An operand before anything that follows it. -/
def atom (g : Grammar) (m : Mode) : Parser GoNode := do
  match ← peek? with
  | none => failure
  | some t =>
    match t.kind with
    | .word =>
      if t.text = "func" then functionLiteral g
      else if t.text = "map" || t.text = "struct" then typeLiteral g true
      else if t.text = "chan" || t.text = "interface" then typeLiteral g false
      else if allocators.contains t.text then allocation g m
      else if valueWords.contains t.text then nameNode .other []
      else nameNode .identifier []
    | .number | .quoted => do
      let t ← takeIf fun _ => true
      pure (leaf .other t)
    | .sign =>
      if t.isSign '(' then parenthesized g
      else if t.isSign '[' then typeLiteral g true
      else failure
    | .lifetime => failure

/-- The node of the operator that comes next. -/
def operatorNode (o : String) : Parser GoNode := do
  let start ← here
  drop o.length
  let stop ← lastStop
  pure (.mk .other (some .operator) false { start with stop := stop } o [])

/-- An operand with the operators before it and all that follows it. -/
def operandRule (g : Grammar) (m : Mode) : Parser GoNode := do
  match ← operator? unaryOperators with
  | some o =>
    let sign ← operatorNode o
    let e ← g (.operand m)
    nodeFrom sign.span .unaryExpression [sign, e.as .operand]
  | none =>
    let e ← atom g m
    grow (extended g m) e

/-- An operator between operands, and the operand after it. -/
def furtherOperand (g : Grammar) (m : Mode) : Parser GoNode := do
  sameLine m.ends
  match ← operator? (operators m.statement) with
  | some o =>
    check (binaryOperators.contains o)
    drop o.length
    g (.operand m)
  | none => failure

/-- An expression. -/
def expressionRule (g : Grammar) (m : Mode) : Parser GoNode := do
  let first ← g (.operand m)
  let more ← many (furtherOperand g m)
  if more.isEmpty then pure first else nodeFrom first.span .other (first :: more)

/-- A value inside a literal. -/
def literalElement (g : Grammar) : Parser GoNode := do
  if ← nextSign '\x7b' then g .literalValue else g (.expression .nested)

/-- A value inside a literal with its key, if it has one. -/
def keyedElement (g : Grammar) : Parser GoNode := do
  let first ← literalElement g
  match ← maybe (do let _ ← sign ':'; literalElement g) with
  | some second => nodeFrom first.span .other [first, second]
  | none => pure first

/-- The values of a literal. -/
def literalValueRule (g : Grammar) : Parser GoNode :=
  node .other do
    let _ ← sign '\x7b'
    let items ← sepBy (keyedElement g) comma
    let _ ← sign '\x7d'
    pure items

end ParamChain.Frontend.GoGrammar
