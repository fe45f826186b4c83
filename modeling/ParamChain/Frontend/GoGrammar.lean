import ParamChain.Frontend.GoStatements
import ParamChain.Frontend.GoTokens

/-
This file holds the grammar of Go files. It reads a file more freely than the language does:
statements may stand at the top of a file, a package clause may be missing, and a word is a
keyword only where that keyword could stand. The rules call one another through `Grammar`, and
`grammar` ties the knot with a bound on how deeply they nest.
-/

namespace ParamChain.Frontend.GoGrammar

open ParseTree ParseTree.Parser

/-! ### Files -/

/-- The result and the body of a declared function, each of which may be missing. -/
def functionRest (g : Grammar) : Parser (List GoNode) := do
  let parameters ← parameterList g
  let r ← maybe (result g true)
  let body ← maybe (do sameLine true; g .block)
  pure (parameters.as .parameters :: r.toList ++ (body.map (·.as .body)).toList)

/-- A function. -/
def functionDeclaration (g : Grammar) : Parser GoNode :=
  node .functionDeclaration do
    let _ ← word "func"
    let label ← nameNode .identifier []
    let types ← maybe (typeParameters g)
    let rest ← functionRest g
    pure (label.as .name :: types.toList ++ rest)

/-- A method. -/
def methodDeclaration (g : Grammar) : Parser GoNode :=
  node .methodDeclaration do
    let _ ← word "func"
    let receiver ← parameterList g
    let label ← nameNode .other []
    let rest ← functionRest g
    pure (receiver.as .receiver :: label.as .name :: rest)

/-- The package of a file. -/
def packageClause : Parser GoNode :=
  node .packageClause do
    let _ ← word "package"
    let label ← nameNode .other []
    pure [label]

/-- An imported package. -/
def importSpec : Parser GoNode :=
  node .other do
    let label ← maybe (takeIf fun t => t.kind == .word || t.isSign '.')
    let path ← takeIf fun t => t.kind == .quoted && t.text.toList.head? != some '\x27'
    pure ((label.map (leaf .other)).toList ++ [leaf .other path])

/-- Imported packages. -/
def importDeclaration : Parser GoNode :=
  node .other do
    let _ ← word "import"
    if ← nextSign '(' then
      let _ ← sign '('
      let items ← terminated importSpec
      let _ ← sign ')'
      pure items
    else
      let item ← importSpec
      pure [item]

/-- What stands at the top of a file. -/
def topLevel (g : Grammar) : Parser GoNode := do
  if ← nextWord "package" then packageClause
  else if ← nextWord "import" then importDeclaration
  else if ← nextWord "func" then
    functionDeclaration g <|> methodDeclaration g <|> g (.statement false)
  else g (.statement false)

/-- A file up to its end. -/
def file (g : Grammar) : Parser (List GoNode) := do
  let items ← many (do
    let item ← topLevel g
    terminator
    pure item)
  check (← atEnd)
  pure items

/-- One step of the grammar. -/
def step (g : Grammar) : Grammar
  | .expression m => expressionRule g m
  | .operand m => operandRule g m
  | .type ends => typeRule g ends
  | .literalValue => literalValueRule g
  | .block => blockRule g
  | .ifStatement => ifRule g
  | .statement inCase => statementRule g inCase

/-- The grammar, nested at most `n` deep. -/
def grammar : Nat → Grammar
  | 0, _ => failure
  | n + 1, rule => step (grammar n) rule

/-- The syntax tree of a file, `none` if the file is not well formed. Between two tokens rules
nest only a few deep, so the bound is never what makes a file fail. -/
def parse? (source : String) : Option GoNode :=
  let scanned := GoTokens.scan source
  let count := scanned.tokens.length
  let rest : Rest := ⟨source, scanned.tokens, 0, count + 1⟩
  match file (grammar (8 * (count + 1))) rest with
  | none => none
  | some (children, _) =>
    let root : GoNode := .mk .other none true ⟨0, source.utf8ByteSize, 1, 1⟩ source children
    some (root.attach .comment scanned.comments)

end ParamChain.Frontend.GoGrammar
