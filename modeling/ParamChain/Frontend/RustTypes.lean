import ParamChain.Frontend.RustRules

/-
This file holds the types of Rust, with their bounds and their generic arguments, and the paths
that lead to them.
-/

namespace ParamChain.Frontend.RustGrammar

open ParseTree ParseTree.Parser

/-! ### Types -/

/-- What a type is bounded by. -/
def bounds (g : Grammar) : Parser RustNode :=
  node .other do
    check (!(← nextSigns "::"))
    let _ ← sign ':'
    sepBy1 (lifetime <|> g .simpleType) (sign '+')

/-- An associated type with its value. -/
def typeBinding (g : Grammar) : Parser RustNode :=
  node .other do
    let label ← nameNode .typeIdentifier []
    let list ← maybe (g .typeArguments)
    let _ ← sign '='
    let t ← g .type
    pure (label :: list.toList ++ [t])

/-- A literal. -/
def literal : Parser RustNode := do
  let t ← takeIf fun t =>
    t.kind == .number || t.kind == .quoted || t.isWord "true" || t.isWord "false"
  pure (leaf .other t)

/-- A literal that may have a sign. -/
def signedLiteral : Parser RustNode :=
  literal <|> node .other do
    let _ ← sign '-'
    let t ← takeIf fun t => t.kind == .number
    pure [leaf .other t]

/-- The type arguments in angle brackets. -/
def typeArgumentsRule (g : Grammar) : Parser RustNode :=
  node .other do
    let _ ← sign '<'
    let item : Parser (List RustNode) := do
      let a ←
        lifetime <|> typeBinding g <|> signedLiteral <|>
          (do if ← nextSign '\x7b' then g .block else g .type)
      let b ← maybe (bounds g)
      pure (a :: b.toList)
    let items ← sepBy1 item comma
    let _ ← maybe comma
    let _ ← sign '>'
    pure items.flatten

/-- An attribute of any kind. -/
def itemAttribute (g : Grammar) : Parser RustNode :=
  node .other do
    let _ ← sign '#'
    let _ ← maybe (sign '!')
    let _ ← sign '['
    let _ ← maybe (signs "::")
    let _ ← name []
    let _ ← many (do signs "::"; name [])
    let content ← maybe (do
      if ← nextSign '=' then
        let _ ← sign '='
        g (.expression .free)
      else g .tokenTree)
    let _ ← sign ']'
    pure content.toList

/-- The type parameters of a declaration. -/
def typeParameters (g : Grammar) : Parser RustNode :=
  node .other do
    let _ ← sign '<'
    let lifetimeItem : Parser (List RustNode) := do
      let l ← lifetime
      let b ← maybe (bounds g)
      pure (l :: b.toList)
    let constItem : Parser (List RustNode) := do
      let _ ← word "const"
      let label ← nameNode .identifier []
      let _ ← sign ':'
      let t ← g .type
      let value ← maybe (do
        let _ ← sign '='
        if ← nextSign '\x7b' then g .block else signedLiteral <|> nameNode .identifier [])
      pure (label :: t :: value.toList)
    let typeItem : Parser (List RustNode) := do
      let t ← takeIf fun t => t.kind == .word
      let b ← maybe (bounds g)
      let fallback ← maybe (do let _ ← sign '='; g .type)
      pure (leaf .typeIdentifier t :: b.toList ++ fallback.toList)
    let item : Parser (List RustNode) := do
      let attributes ← many (itemAttribute g)
      let rest ← lifetimeItem <|> constItem <|> typeItem
      pure (attributes ++ rest)
    let items ← sepBy1 item comma
    let _ ← maybe comma
    let _ ← sign '>'
    pure items.flatten

/-- A type in angle brackets, perhaps as a trait, at the start of a path. -/
def bracketedType (g : Grammar) : Parser RustNode :=
  node .other do
    let _ ← sign '<'
    let t ← g .type
    let trait ← maybe (do let _ ← word "as"; g .type)
    let _ ← sign '>'
    pure (t :: trait.toList)

/-- A name of a path. -/
def segment (kind : RustKind) : Parser RustNode := do
  let t ← name []
  pure (leaf (if pathWords.contains t.text then .other else kind) t)

/-- The first step of a path. -/
def pathStart (g : Grammar) : Parser RustNode := do
  if ← nextSign '<' then
    let b ← bracketedType g
    check (← nextSigns "::")
    pure b
  else if ← nextSigns "::" then
    let start ← here
    signs "::"
    let s ← segment .identifier
    nodeFrom start .scopedIdentifier [s.as .name]
  else segment .identifier

/-- One more step of a path: a name, or type arguments before a name. -/
def pathStep (g : Grammar) (path : RustNode) : Parser RustNode := do
  if ← atSegment then
    signs "::"
    let s ← segment .identifier
    nodeFrom path.span .scopedIdentifier [path.as .path, s.as .name]
  else
    check (← atTurbofish)
    signs "::"
    let list ← g .typeArguments
    check (← atSegment)
    nodeFrom path.span .genericType [path.as .type, list.as .typeArguments]

/-- A path of names. -/
def path (g : Grammar) : Parser RustNode := do
  let first ← pathStart g
  grow (pathStep g) first

/-- A path read as the name of a type. -/
def asTypeName (p : RustNode) : RustNode :=
  match p with
  | .mk .identifier role named span text children =>
    .mk .typeIdentifier role named span text children
  | .mk .scopedIdentifier role named span text children =>
    .mk .scopedTypeIdentifier role named span text
      (children.map fun c => if c.plays .name then c.withKind .typeIdentifier else c)
  | p => p

/-- One more step of the path of a type. Type arguments may stand without colons. -/
def typePathStep (g : Grammar) (path : RustNode) : Parser RustNode :=
  pathStep g path <|> do
    check (← nextSign '<')
    check (path.kind != .genericType)
    let base := asTypeName path
    let list ← g .typeArguments
    nodeFrom path.span .genericType [base.as .type, list.as .typeArguments]

/-- The parameters of a function and its result. -/
def signature (g : Grammar) (parameters : Parser RustNode) : Parser (List RustNode) := do
  let list ← parameters
  let result ← maybe (do signs "->"; g .simpleType)
  pure (list.as .parameters :: result.toList)

/-- The invocation of a macro after its path. -/
def invocation (g : Grammar) (path : RustNode) : Parser RustNode := do
  let _ ← sign '!'
  let tree ← g .tokenTree
  nodeFrom path.span .macroInvocation [path, tree]

/-- A type that is named by a path, the type of functions that a trait names, or a macro. -/
def namedType (g : Grammar) (parameters : Parser RustNode) : Parser RustNode := do
  let first ← pathStart g
  let p ← grow (typePathStep g) first
  if ← atInvocation then invocation g p
  else
    let t := asTypeName p
    let isName := t.kind == .typeIdentifier || t.kind == .scopedTypeIdentifier
    if isName && (← nextSign '(') then
      let rest ← signature g parameters
      nodeFrom t.span .other (t :: rest)
    else
      check (isName || t.kind == .genericType)
      pure t

/-- The language that a foreign function speaks. -/
def externModifier : Parser RustNode :=
  node .other do
    let _ ← word "extern"
    let _ ← maybe (takeIf fun t => t.kind == .quoted)
    pure []

/-- The words before `fn`. -/
def functionModifiers : Parser (List RustNode) :=
  many (externModifier <|> do
    let t ← takeIf fun t =>
      t.isWord "async" || t.isWord "default" || t.isWord "const" || t.isWord "unsafe"
    pure (leaf .other t))

/-- The lifetimes that a type holds for all of. -/
def forLifetimes (g : Grammar) : Parser RustNode :=
  node .other do
    let _ ← word "for"
    let list ← typeParameters g
    pure [list]

/-- The parameter that stands for the receiver. -/
def selfParameter : Parser RustNode :=
  node .other do
    let _ ← maybe (sign '&')
    let l ← maybe lifetime
    let m ← maybe (keywordNode "mut")
    let s ← keywordNode "self"
    pure (l.toList ++ m.toList ++ [s])

/-- A parameter with a pattern and a type. -/
def parameter (g : Grammar) (bars : Bool) : Parser RustNode :=
  node .parameter do
    let m ← maybe (keywordNode "mut")
    let p ← (do
      let s ← keywordNode "self"
      check (!(← nextSigns "::"))
      pure s) <|> g (.pattern bars)
    check (!(← nextSigns "::"))
    let _ ← sign ':'
    let t ← g .type
    pure (m.toList ++ [p.as .pattern, t.as .type])

/-- A parameter that takes all further arguments. -/
def variadicParameter (g : Grammar) : Parser RustNode :=
  node .other do
    let m ← maybe (keywordNode "mut")
    let p ← maybe (do
      let p ← g (.pattern true)
      let _ ← sign ':'
      pure p)
    signs "..."
    pure (m.toList ++ p.toList)

/-- A list of parameters. A parameter may be only a type. -/
def parameterList (g : Grammar) : Parser RustNode :=
  node .other do
    let _ ← sign '('
    let anonymous : Parser RustNode := do
      let t ← word "_"
      check ((← nextSign ',') || (← nextSign ')'))
      pure (unnamed .other t)
    let item : Parser (List RustNode) := do
      let a ← maybe (itemAttribute g)
      let p ← parameter g true <|> selfParameter <|> variadicParameter g <|> anonymous <|> g .type
      pure (a.toList ++ [p])
    let items ← sepBy item comma
    let _ ← sign ')'
    pure items.flatten

/-- The type of functions. -/
def functionType (g : Grammar) : Parser RustNode :=
  node .other do
    let modifiers ← functionModifiers
    let _ ← word "fn"
    let rest ← signature g (parameterList g)
    pure (modifiers ++ rest)

/-- A reference. -/
def referenceType (g : Grammar) : Parser RustNode :=
  node .referenceType do
    let _ ← sign '&'
    let l ← maybe lifetime
    let m ← maybe (keywordNode "mut")
    let t ← g .simpleType
    pure (l.toList ++ m.toList ++ [t.as .type])

/-- A raw pointer. -/
def pointerType (g : Grammar) : Parser RustNode :=
  node .pointerType do
    let _ ← sign '*'
    let m ← (do let m ← keywordNode "mut"; pure [m]) <|> (do let _ ← word "const"; pure [])
    let t ← g .simpleType
    pure (m ++ [t.as .type])

/-- A tuple of types. -/
def tupleType (g : Grammar) : Parser RustNode :=
  node .other do
    let _ ← sign '('
    let empty ← nextSign ')'
    let items ← if empty then pure [] else sepBy1 (g .type) comma
    if !empty then
      let _ ← maybe comma
    let _ ← sign ')'
    pure items

/-- A slice or an array. -/
def arrayType (g : Grammar) : Parser RustNode :=
  node .other do
    let _ ← sign '['
    let t ← g .type
    let length ← maybe (do let _ ← sign ';'; g (.expression .free))
    let _ ← sign ']'
    pure (t :: length.toList)

/-- A type behind a keyword or a sign. -/
def markedType (g : Grammar) (mark : Parser Token) : Parser RustNode :=
  node .other do
    let _ ← mark
    let l ← maybe (forLifetimes g)
    let t ← g .simpleType
    pure (l.toList ++ [t])

/-- A type without a sum of bounds. -/
def simpleTypeRule (g : Grammar) : Parser RustNode := do
  match ← peek? with
  | none => failure
  | some t =>
    if t.isSign '&' then referenceType g
    else if t.isSign '*' then pointerType g
    else if t.isSign '(' then tupleType g
    else if t.isSign '[' then arrayType g
    else if t.isSign '!' then do
      let t ← sign '!'
      pure (leaf .other t)
    else if t.isSign '?' then markedType g (sign '?')
    else if t.isWord "impl" then markedType g (word "impl")
    else if t.isWord "dyn" then markedType g (word "dyn")
    else if t.isWord "for" then
      node .other do
        let l ← forLifetimes g
        let t ← g .simpleType
        pure [l, t]
    else if ["fn", "unsafe", "extern", "async", "const"].contains t.text && t.kind == .word then
      functionType g
    else if t.kind == .word && t.text.toList.head? = some '$' then do
      let t ← takeIf fun _ => true
      pure (leaf .other t)
    else if t.kind == .word && primitiveTypes.contains t.text then
      (do
        let t ← takeIf fun _ => true
        check (!(← nextSigns "::"))
        pure (leaf .primitiveType t)) <|> namedType g (parameterList g)
    else namedType g (parameterList g)

/-- A type, perhaps a sum of bounds. -/
def typeRule (g : Grammar) : Parser RustNode := do
  let start ← here
  let first ←
    if ← next fun t => t.kind == .lifetime then do
      let l ← lifetime
      check (← nextSign '+')
      pure l
    else g .simpleType
  let more ← many (do
    check (!(← nextSigns "+="))
    let _ ← sign '+'
    lifetime <|> g .simpleType)
  if more.isEmpty then pure first else nodeFrom start .other (first :: more)

end ParamChain.Frontend.RustGrammar
