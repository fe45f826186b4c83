import ParamChain.Frontend.RustExpressions

/-
This file holds the declarations of Rust. Any of them may stand in any body.
-/

namespace ParamChain.Frontend.RustGrammar

open ParseTree ParseTree.Parser

/-! ### Declarations -/

/-- Who can see a declaration. -/
def visibility (g : Grammar) : Parser RustNode :=
  node .other do
    (do
      let _ ← word "pub"
      let _ ← maybe (do
        let _ ← sign '('
        (do let _ ← takeIf fun t => pathWords.any t.isWord; pure ()) <|>
          (do let _ ← word "in"; let _ ← path g; pure ())
        let _ ← sign ')')) <|> (do
      let _ ← word "crate"
      check (!(← nextSigns "::")))
    pure []

/-- What holds of the type parameters of a declaration. -/
def whereClause (g : Grammar) : Parser RustNode :=
  node .other do
    let _ ← word "where"
    let predicate : Parser (List RustNode) := do
      let t ← lifetime <|> g .simpleType
      let b ← bounds g
      pure [t, b]
    let items ← sepBy1 predicate comma
    let _ ← maybe comma
    pure items.flatten

/-- The members of an item in braces. -/
def memberList (g : Grammar) : Parser RustNode :=
  node .other do
    let _ ← sign '\x7b'
    let items ← many (g .member)
    let _ ← sign '\x7d'
    pure items

/-- The fields of a struct in braces. -/
def fieldList (g : Grammar) : Parser RustNode :=
  node .other do
    let _ ← sign '\x7b'
    let item : Parser (List RustNode) := do
      let attributes ← many (itemAttribute g)
      let v ← maybe (visibility g)
      let _ ← name []
      let _ ← sign ':'
      let t ← g .type
      pure (attributes ++ v.toList ++ [t])
    let items ← sepBy item comma
    let _ ← sign '\x7d'
    pure items.flatten

/-- The fields of a struct in parentheses. -/
def orderedFieldList (g : Grammar) : Parser RustNode :=
  node .other do
    let _ ← sign '('
    let item : Parser (List RustNode) := do
      let attributes ← many (itemAttribute g)
      let rest ← (do
        let v ← visibility g
        let t ← g .type
        pure [v, t]) <|> (do
        let _ ← maybe (word "pub")
        let t ← g .type
        pure [t])
      pure (attributes ++ rest)
    let items ← sepBy item comma
    let _ ← sign ')'
    pure items.flatten

/-- The end of an item without a body. -/
def semicolon : Parser Unit := do
  let _ ← sign ';'

/-- A function with or without a body. -/
def functionItem (g : Grammar) (start : Span) (before : List RustNode) : Parser RustNode := do
  let modifiers ← functionModifiers
  let _ ← word "fn"
  let label ← takeIf fun t => t.kind == .word
  let types ← maybe (typeParameters g)
  let parameters ← parameterList g
  let result ← maybe (do signs "->"; g .type)
  let clause ← maybe (whereClause g)
  let head := before ++ modifiers ++ (leaf .identifier label).as .name :: types.toList ++
    parameters.as .parameters :: result.toList ++ clause.toList
  if ← nextSign ';' then
    semicolon
    nodeFrom start .other head
  else
    let body ← g .block
    nodeFrom start .functionItem (head ++ [body.as .body])

/-- A struct. -/
def structItem (g : Grammar) : Parser (List RustNode) := do
  let _ ← word "struct"
  let label ← nameNode .typeIdentifier []
  let types ← maybe (typeParameters g)
  let head := label :: types.toList
  if ← nextSign ';' then
    semicolon
    pure head
  else if ← nextSign '(' then
    let fields ← orderedFieldList g
    let clause ← maybe (whereClause g)
    semicolon
    pure (head ++ fields :: clause.toList)
  else
    let clause ← maybe (whereClause g)
    let fields ← fieldList g
    pure (head ++ clause.toList ++ [fields])

/-- A union. -/
def unionItem (g : Grammar) : Parser (List RustNode) := do
  let _ ← word "union"
  let label ← nameNode .typeIdentifier []
  let types ← maybe (typeParameters g)
  let clause ← maybe (whereClause g)
  let fields ← fieldList g
  pure (label :: types.toList ++ clause.toList ++ [fields])

/-- An enumeration. -/
def enumItem (g : Grammar) : Parser (List RustNode) := do
  let _ ← word "enum"
  let label ← nameNode .typeIdentifier []
  let types ← maybe (typeParameters g)
  let clause ← maybe (whereClause g)
  let _ ← sign '\x7b'
  let item : Parser (List RustNode) := do
    let attributes ← many (itemAttribute g)
    let v ← maybe (visibility g)
    let variant ← nameNode .identifier []
    let fields ← maybe (fieldList g <|> orderedFieldList g)
    let value ← maybe (do let _ ← sign '='; g (.expression .free))
    pure (attributes ++ v.toList ++ variant :: fields.toList ++ value.toList)
  let items ← sepBy item comma
  let _ ← sign '\x7d'
  pure (label :: types.toList ++ clause.toList ++ items.flatten)

/-- The type and the value of a constant. -/
def typedValue (g : Grammar) : Parser (List RustNode) := do
  let label ← nameNode .identifier []
  let _ ← sign ':'
  let t ← g .type
  let value ← maybe (do let _ ← sign '='; g (.expression .free))
  semicolon
  pure (label :: t :: value.toList)

/-- A constant. -/
def constItem (g : Grammar) : Parser (List RustNode) := do
  let _ ← word "const"
  typedValue g

/-- A static variable. -/
def staticItem (g : Grammar) : Parser (List RustNode) := do
  let _ ← word "static"
  let _ ← maybe (do
    let r ← word "ref"
    check (!(← nextSign ':'))
    pure r)
  let _ ← maybe (word "mut")
  typedValue g

/-- A type with another name, or an associated type. -/
def typeItem (g : Grammar) : Parser (List RustNode) := do
  let _ ← word "type"
  let label ← nameNode .typeIdentifier []
  let types ← maybe (typeParameters g)
  if ← nextSign '=' then
    let _ ← sign '='
    let t ← g .type
    let clause ← maybe (whereClause g)
    semicolon
    pure (label :: types.toList ++ t :: clause.toList)
  else
    let b ← maybe (bounds g)
    let clause ← maybe (whereClause g)
    semicolon
    pure (label :: types.toList ++ b.toList ++ clause.toList)

/-- A module. -/
def modItem (g : Grammar) : Parser (List RustNode) := do
  let _ ← word "mod"
  let label ← nameNode .identifier []
  if ← nextSign ';' then
    semicolon
    pure [label.as .name]
  else
    let body ← memberList g
    pure [label.as .name, body.as .body]

/-- A foreign module or crate. -/
def externItem (g : Grammar) : Parser (List RustNode) :=
  (do
    let _ ← word "extern"
    let _ ← word "crate"
    let _ ← name []
    let _ ← maybe (do let _ ← word "as"; name [])
    semicolon
    pure []) <|> (do
    let e ← externModifier
    if ← nextSign ';' then
      semicolon
      pure [e]
    else
      let body ← memberList g
      pure [e, body.as .body])

/-- An implementation. -/
def implItem (g : Grammar) : Parser (List RustNode) := do
  let _ ← maybe (word "unsafe")
  let _ ← word "impl"
  let types ← maybe (typeParameters g)
  let negative ← maybe (sign '!')
  let first ← g .type
  let ofTrait ← nextWord "for"
  check (ofTrait || negative.isNone)
  let head : List RustNode ←
    if ofTrait then do
      check ([RustKind.typeIdentifier, .scopedTypeIdentifier, .genericType].contains first.kind)
      let _ ← word "for"
      let second ← g .type
      pure [first, second.as .type]
    else pure [first.as .type]
  let clause ← maybe (whereClause g)
  let rest : List RustNode ←
    if ← nextSign ';' then do
      semicolon
      pure []
    else do
      let body ← memberList g
      pure [body.as .body]
  pure (types.toList ++ head ++ clause.toList ++ rest)

/-- A trait. -/
def traitItem (g : Grammar) : Parser (List RustNode) := do
  let _ ← maybe (word "unsafe")
  let _ ← word "trait"
  let label ← nameNode .typeIdentifier []
  let types ← maybe (typeParameters g)
  let b ← maybe (bounds g)
  let clause ← maybe (whereClause g)
  let body ← memberList g
  pure (label.as .name :: types.toList ++ b.toList ++ clause.toList ++ [body.as .body])

/-- What is made visible. -/
def useTreeRule (g : Grammar) : Parser RustNode :=
  node .other do
    let list : Parser Unit := do
      let _ ← sign '\x7b'
      let _ ← sepBy (g .useTree) comma
      let _ ← sign '\x7d'
    let star : Parser Unit := do
      let _ ← sign '*'
    let step : Parser Bool := do
      signs "::"
      (do list; pure false) <|> (do star; pure false) <|> (do let _ ← name []; pure true)
    (do
      let _ ← maybe (signs "::")
      list <|> star) <|> (do
      let _ ← maybe (signs "::")
      let _ ← name []
      let steps ← many step
      check ((steps.dropLast).all id)
      if steps.all id then
        let _ ← maybe (do let _ ← word "as"; name []))
    pure []

/-- Names that are made visible. -/
def useItem (g : Grammar) : Parser (List RustNode) := do
  let _ ← word "use"
  let tree ← g .useTree
  semicolon
  pure [tree]

/-- The definition of a macro. -/
def macroItem (g : Grammar) : Parser (List RustNode) := do
  let _ ← word "macro_rules"
  let _ ← sign '!'
  let label ← nameNode .identifier []
  let clause : Parser (List RustNode) := do
    let left ← g .tokenTree
    signs "=>"
    let right ← g .tokenTree
    pure [left, right]
  let clauses : Parser (List RustNode) := do
    let items ← sepBy clause (sign ';')
    pure items.flatten
  let inside (opening closing : Char) : Parser (List RustNode) := do
    let _ ← sign opening
    let items ← clauses
    let _ ← sign closing
    pure items
  let items ← inside '\x7b' '\x7d' <|> (do
    let items ← inside '(' ')' <|> inside '[' ']'
    semicolon
    pure items)
  pure (label :: items)

/-- A variable. -/
def letDeclaration (g : Grammar) : Parser RustNode :=
  node .letDeclaration do
    let _ ← word "let"
    let m ← maybe (keywordNode "mut")
    let p ← g (.pattern true)
    let t ← maybe (do let _ ← sign ':'; g .type)
    let e ← maybe (do let _ ← sign '='; g (.expression .free))
    let b ← maybe (do let _ ← word "else"; g .block)
    semicolon
    pure (m.toList ++ p.as .pattern :: (t.map (·.as .type)).toList ++
      (e.map (·.as .value)).toList ++ (b.map (·.as .alternative)).toList)

/-- An item of any kind. -/
def item (g : Grammar) : Parser RustNode := do
  let start ← here
  let v ← maybe (visibility g)
  let plain (kind : RustKind) (p : Parser (List RustNode)) : Parser RustNode := do
    let children ← p
    nodeFrom start kind (v.toList ++ children)
  match ← peek? with
  | none => failure
  | some t =>
    match t.text with
    | "mod" => plain .modItem (modItem g)
    | "struct" => plain .other (structItem g)
    | "union" => plain .other (unionItem g)
    | "enum" => plain .other (enumItem g)
    | "static" => plain .other (staticItem g)
    | "type" => plain .other (typeItem g)
    | "use" => plain .other (useItem g)
    | "trait" => plain .traitItem (traitItem g)
    | "impl" => plain .implItem (implItem g)
    | "macro_rules" => plain .other (macroItem g)
    | "const" => functionItem g start v.toList <|> plain .other (constItem g)
    | "extern" => functionItem g start v.toList <|> plain .other (externItem g)
    | "unsafe" =>
      functionItem g start v.toList <|> plain .implItem (implItem g) <|>
        plain .traitItem (traitItem g)
    | _ => functionItem g start v.toList

/-- The words that begin an item and nothing else. -/
def itemWords : List String :=
  ["fn", "mod", "struct", "enum", "type", "use", "trait", "impl", "pub"]

/-- The words that begin an item or something else. -/
def sharedWords : List String :=
  ["union", "static", "const", "extern", "unsafe", "async", "default", "macro_rules", "crate"]

/-- A macro as a statement or an item. -/
def macroStatement (g : Grammar) : Parser RustNode := do
  let p ← path g
  check (p.kind == .identifier || p.kind == .scopedIdentifier)
  check (← atInvocation)
  invocation g p

/-- A sign that stands alone. -/
def emptyStatement : Parser RustNode := do
  let t ← sign ';'
  pure (leaf .other t)

/-- A member of an item. -/
def memberRule (g : Grammar) : Parser RustNode := do
  match ← peek? with
  | none => failure
  | some t =>
    if t.isSign '#' then itemAttribute g
    else if t.isSign ';' then emptyStatement
    else if t.isWord "let" then letDeclaration g
    else if itemWords.any t.isWord then item g
    else if sharedWords.any t.isWord then item g <|> macroStatement g
    else macroStatement g

end ParamChain.Frontend.RustGrammar
