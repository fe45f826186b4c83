import ParamChain.Frontend.GoRules

/-
This file holds the types of Go, and the lists of parameters, which are made of types. Names in
such a list that are followed by a type share it; where none follows, a name is itself the type of
a parameter without a name.
-/

namespace ParamChain.Frontend.GoGrammar

open ParseTree ParseTree.Parser

/-! ### Types -/

/-- Types with bars between them. -/
def typeElement (g : Grammar) (ends : Bool) : Parser GoNode :=
  node .other (sepBy1 (g (.type ends)) (do sameLine ends; sign '|'))

/-- The type arguments in brackets. -/
def typeArguments (g : Grammar) : Parser GoNode :=
  node .other do
    let _ ← sign '['
    let items ← sepBy1 (typeElement g false) comma
    let _ ← maybe comma
    let _ ← sign ']'
    pure items

/-- A type with its type arguments, if it has any. -/
def withTypeArguments (g : Grammar) (ends : Bool) (base : GoNode) : Parser GoNode := do
  let arguments ← maybe (do sameLine ends; typeArguments g)
  match arguments with
  | some list => nodeFrom base.span .genericType [base.as .type, list.as .typeArguments]
  | none => pure base

/-- A type name, perhaps qualified by a package. -/
def typeName (ends : Bool) : Parser GoNode := do
  let first ← name typeWords
  let selected ← maybe (do sameLine ends; let _ ← sign '.'; name [])
  match selected with
  | some second =>
    nodeFrom first.span .qualifiedType
      [(leaf .other first).as .package, (leaf .typeIdentifier second).as .name]
  | none => pure (leaf .typeIdentifier first)

/-- A type name with its type arguments, if it has any. -/
def namedType (g : Grammar) (ends : Bool) : Parser GoNode := do
  let base ← typeName ends
  withTypeArguments g ends base

/-- A parameter that takes all further arguments. -/
def variadicParameter (g : Grammar) : Parser GoNode :=
  node .variadicParameterDeclaration do
    let label ← maybe (nameNode .identifier typeWords)
    signs "..."
    let t ← g (.type false)
    pure ((label.map (·.as .name)).toList ++ [t.as .type])

/-- Parameters with one type. -/
def groupedParameters (g : Grammar) : Parser GoNode :=
  node .parameterDeclaration do
    let names ← sepBy1 (nameNode .identifier typeWords) comma
    let t ← g (.type false)
    pure (names.map (·.as .name) ++ [t.as .type])

/-- A parameter without a name. -/
def unnamedParameter (g : Grammar) : Parser GoNode :=
  node .parameterDeclaration do
    let t ← g (.type false)
    pure [t.as .type]

/-- A list of parameters. Names that are followed by a type share it; a name that is not is the
type of a parameter without a name. -/
def parameterList (g : Grammar) : Parser GoNode :=
  node .other do
    let _ ← sign '('
    let items ←
      sepBy (variadicParameter g <|> groupedParameters g <|> unnamedParameter g) comma
    let _ ← sign ')'
    pure items

/-- The result of a function: parameters or a type. -/
def result (g : Grammar) (ends : Bool) : Parser GoNode := do
  sameLine ends
  if ← nextSign '(' then parameterList g else g (.type ends)

/-- The type of functions. -/
def functionType (g : Grammar) (ends : Bool) : Parser GoNode :=
  node .other do
    let _ ← word "func"
    let parameters ← parameterList g
    let r ← maybe (result g ends)
    pure (parameters.as .parameters :: r.toList)

/-- A slice or an array. -/
def arrayType (g : Grammar) (ends : Bool) : Parser GoNode :=
  node .other do
    let _ ← sign '['
    let length ← maybe (g (.expression .nested))
    let _ ← sign ']'
    sameLine ends
    let element ← g (.type ends)
    pure (length.toList ++ [element])

/-- A map. -/
def mapType (g : Grammar) (ends : Bool) : Parser GoNode :=
  node .other do
    let _ ← word "map"
    let _ ← sign '['
    let key ← g (.type false)
    let _ ← sign ']'
    let value ← g (.type ends)
    pure [key, value]

/-- A channel. -/
def channelType (g : Grammar) (ends : Bool) : Parser GoNode :=
  node .other do
    if ← nextSign '<' then
      signs "<-"
      let _ ← word "chan"
    else
      let _ ← word "chan"
      let _ ← maybe (signs "<-")
    let value ← g (.type ends)
    pure [value]

/-- The tag of a field. -/
def fieldTag : Parser GoNode := do
  sameLine true
  let t ← takeIf fun t => t.kind == .quoted
  pure (leaf .other t)

/-- The names and the type of a field. -/
def namedField (g : Grammar) : Parser (List GoNode) := do
  let first ← nameNode .other []
  let more ← many (do let _ ← comma; nameNode .other [])
  sameLine more.isEmpty
  let t ← g (.type true)
  pure (first :: more ++ [t])

/-- A field that is a type, perhaps behind a pointer. -/
def embeddedField (g : Grammar) : Parser (List GoNode) := do
  let _ ← maybe (sign '*')
  let t ← namedType g true
  pure [t]

/-- The fields of a structure on one line. -/
def fieldDeclaration (g : Grammar) : Parser GoNode :=
  node .other do
    let children ← namedField g <|> embeddedField g
    let tag ← maybe fieldTag
    pure (children ++ tag.toList)

/-- A structure. -/
def structType (g : Grammar) : Parser GoNode :=
  node .other do
    let _ ← word "struct"
    let _ ← sign '\x7b'
    let fields ← terminated (fieldDeclaration g)
    let _ ← sign '\x7d'
    pure fields

/-- A method of an interface. -/
def interfaceMethod (g : Grammar) : Parser GoNode :=
  node .other do
    let label ← nameNode .other []
    let parameters ← parameterList g
    let r ← maybe (result g true)
    pure (label :: parameters :: r.toList)

/-- An interface. -/
def interfaceType (g : Grammar) : Parser GoNode :=
  node .other do
    let _ ← word "interface"
    let _ ← sign '\x7b'
    let elements ← terminated (interfaceMethod g <|> typeElement g true)
    let _ ← sign '\x7d'
    pure elements

/-- A type. -/
def typeRule (g : Grammar) (ends : Bool) : Parser GoNode := do
  match ← peek? with
  | none => failure
  | some t =>
    if t.isWord "func" then functionType g ends
    else if t.isWord "map" then mapType g ends
    else if t.isWord "chan" || t.isSign '<' then channelType g ends
    else if t.isWord "struct" then structType g
    else if t.isWord "interface" then interfaceType g
    else if t.isSign '[' then arrayType g ends
    else if t.isSign '(' then
      node .parenthesizedType do
        let _ ← sign '('
        let inner ← g (.type false)
        let _ ← sign ')'
        pure [inner]
    else if t.isSign '*' then
      node .pointerType do
        let _ ← sign '*'
        let target ← g (.type ends)
        pure [target]
    else if t.isSign '~' then
      node .other do
        let _ ← sign '~'
        let base ← g (.type ends)
        pure [base]
    else namedType g ends

end ParamChain.Frontend.GoGrammar
