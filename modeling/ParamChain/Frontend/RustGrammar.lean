import ParamChain.Frontend.RustItems

/-
This file holds the grammar of Rust files. It reads a file more freely than the language does:
statements may stand at the top of a file, declarations of any kind may stand in any body, and a
word is a keyword only where that keyword could stand. An expression that ends with a block is a
statement by itself unless what follows can only go on with it. The rules call one another through
`Grammar`, and `grammar` ties the knot with a bound on how deeply they nest.
-/

namespace ParamChain.Frontend.RustGrammar

open ParseTree ParseTree.Parser

/-! ### Statements -/

/-- The end of a statement that is an expression: a semicolon, or the end of the block. -/
def expressionEnd (last : Bool) (e : RustNode) : Parser RustNode := do
  if ← nextSign ';' then
    semicolon
    nodeFrom e.span .other [e]
  else
    check (e.kind == .macroInvocation || (last && (← nextSign '\x7d')))
    pure e

/-- A statement that is an expression. One that ends with a block needs no semicolon. -/
def expressionStatement (g : Grammar) (last : Bool) : Parser RustNode := do
  if ← atBlockLike then
    let b ← g .blockLike
    if ← goesOn ambiguousOperators then
      let e ← grow (extended g) b
      let e ← expressionAfter g .free e
      expressionEnd last e
    else pure b
  else
    let e ← g (.expression .free)
    expressionEnd last e

/-- A statement. Where `last` is true, the last one may be an expression. -/
def statementRule (g : Grammar) (last : Bool) : Parser RustNode := do
  match ← peek? with
  | none => failure
  | some t =>
    if t.isSign '#' then itemAttribute g
    else if t.isSign ';' then emptyStatement
    else if t.isWord "let" then letDeclaration g
    else if itemWords.any t.isWord then item g
    else if sharedWords.any t.isWord then item g <|> expressionStatement g last
    else expressionStatement g last

/-- Statements in braces. -/
def blockRule (g : Grammar) : Parser RustNode :=
  node .block do
    let _ ← sign '\x7b'
    let items ← many (g (.statement true))
    let _ ← sign '\x7d'
    pure items

/-! ### Trees of tokens -/

/-- The words in a tree of tokens that are no names. -/
def treeWords : List String :=
  primitiveTypes ++ pathWords ++ ["_", "mut", "true", "false", "as", "async", "await", "break",
    "const", "continue", "default", "enum", "fn", "for", "if", "impl", "let", "loop", "match",
    "mod", "pub", "return", "static", "struct", "trait", "type", "union", "unsafe", "use", "where",
    "while"]

/-- The signs that can stand in a tree of tokens. -/
def treeSigns : List Char :=
  ['+', '-', '*', '/', '%', '^', '!', '&', '|', '=', '<', '>', '@', '.', ',', ';', ':', '#', '?',
    '\x27', '$']

/-- A token in a tree. -/
def treeToken : Parser RustNode := do
  let t ← takeIf fun t => t.kind != .sign || treeSigns.any t.isSign
  let isName := isPlainWord t && !treeWords.contains t.text
  pure (leaf (if isName then .identifier else .other) t)

/-- Tokens in brackets of one kind. -/
def treeIn (g : Grammar) (opening closing : Char) : Parser RustNode :=
  node .other do
    let _ ← sign opening
    let items ← many (do if ← next isOpening then g .tokenTree else treeToken)
    let _ ← sign closing
    pure items

/-- A tree of tokens. -/
def tokenTreeRule (g : Grammar) : Parser RustNode := do
  if ← nextSign '(' then treeIn g '(' ')'
  else if ← nextSign '[' then treeIn g '[' ']'
  else treeIn g '\x7b' '\x7d'

/-! ### Files -/

/-- One step of the grammar. -/
def step (g : Grammar) : Grammar
  | .expression m => expressionRule g m
  | .operand m => operandRule g m
  | .blockLike => blockLikeRule g
  | .type => typeRule g
  | .simpleType => simpleTypeRule g
  | .typeArguments => typeArgumentsRule g
  | .pattern bars => patternRule g bars
  | .block => blockRule g
  | .ifExpression => ifRule g
  | .statement last => statementRule g last
  | .member => memberRule g
  | .tokenTree => tokenTreeRule g
  | .useTree => useTreeRule g

/-- The grammar, nested at most `n` deep. -/
def grammar : Nat → Grammar
  | 0, _ => failure
  | n + 1, rule => step (grammar n) rule

/-- A file up to its end. -/
def file (g : Grammar) : Parser (List RustNode) := do
  let items ← many (g (.statement false))
  check (← atEnd)
  pure items

/-- The syntax tree of a file, `none` if the file is not well formed. Between two tokens rules
nest only a few deep, so the bound is never what makes a file fail. -/
def parse? (source : String) : Option RustNode :=
  let scanned := RustTokens.scan source
  let count := scanned.tokens.length
  let rest : Rest := ⟨source, scanned.tokens, 0, count + 1⟩
  match file (grammar (8 * (count + 1))) rest with
  | none => none
  | some (children, _) =>
    let root : RustNode := .mk .other none true ⟨0, source.utf8ByteSize, 1, 1⟩ source children
    some (root.attach .comment scanned.comments)

end ParamChain.Frontend.RustGrammar
