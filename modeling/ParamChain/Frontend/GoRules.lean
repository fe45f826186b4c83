import ParamChain.Frontend.GoSyntax
import ParamChain.ParseTree.Parser

/-
This file holds what all rules of the grammar of Go have in common: the places at which an
expression can stand, the rules that call one another, and the ends of lines. A line break ends a
statement, a declaration or a field exactly where one of these could end; everywhere else it is
white space.
-/

namespace ParamChain.Frontend.GoGrammar

open ParseTree ParseTree.Parser

/-! ### The rules and where they stand -/

/-- Where an expression stands. -/
structure Mode where
  /-- A line break ends the expression. -/
  ends : Bool
  /-- A brace after a name opens a block. -/
  header : Bool
  /-- The operators of statements can follow. -/
  statement : Bool
  /-- The guard of a type switch can follow. -/
  guarded : Bool
  deriving DecidableEq, Repr, Inhabited

namespace Mode

/-- Between brackets of any kind. -/
def nested : Mode := ⟨false, false, false, false⟩

/-- In a statement. -/
def statementLevel : Mode := ⟨true, false, true, false⟩

/-- In the head of an `if` or a `for`. -/
def headerLevel : Mode := ⟨false, true, true, false⟩

/-- In the head of a `switch`. -/
def switchLevel : Mode := ⟨false, true, true, true⟩

/-- In a case of a `select`. -/
def communication : Mode := ⟨false, false, true, false⟩

end Mode

/-- The rules that call one another. -/
inductive Rule where
  | expression (mode : Mode)
  | operand (mode : Mode)
  | type (ends : Bool)
  | literalValue
  | block
  | ifStatement
  | statement (inCase : Bool)
  deriving DecidableEq, Repr, Inhabited

/-- How each rule is read. -/
abbrev Grammar := Rule → Parser GoNode

/-! ### Words and ends -/

/-- The words that begin a type. -/
def typeWords : List String := ["func", "map", "chan", "struct", "interface"]

/-- The words that are something else than a variable in an expression. -/
def valueWords : List String := ["nil", "true", "false", "iota"]

/-- The functions whose first argument is a type. -/
def allocators : List String := ["new", "make"]

/-- A word, other than the given ones. -/
def name (reserved : List String) : Parser Token :=
  takeIf fun t => t.kind == .word && !reserved.contains t.text

/-- A word as a node. -/
def nameNode (kind : GoKind) (reserved : List String) : Parser GoNode := do
  let t ← name reserved
  pure (leaf kind t)

/-- Whether a line break ends what stands here. -/
def broken (ends : Bool) : Parser Bool := do
  if ends then atNewline else pure false

/-- Go on only on the same line, where a line break would end what stands here. -/
def sameLine (ends : Bool) : Parser Unit := do
  check (!(← broken ends))

/-- The end of a statement: a line break, a semicolon or the end of the file. -/
def terminator : Parser Unit := do
  if ← atNewline then pure ()
  else if ← atEnd then pure ()
  else
    let _ ← takeIf fun t => t.isSign ';' || t.isSign '\x00'
    pure ()

/-- Items with an end after each, which the last may lack. -/
def terminated (item : Parser GoNode) : Parser (List GoNode) := do
  let items ← maybe (sepBy1 item terminator)
  if items.isSome then
    let _ ← maybe terminator
  pure (items.getD [])

/-- An item, or a group of items in parentheses with an end after each. -/
def singleOrGroup (item : Parser GoNode) : Parser (List GoNode) := do
  if ← nextSign '(' then
    let _ ← sign '('
    let items ← many (do
      let i ← item
      terminator
      pure i)
    let _ ← sign ')'
    pure items
  else
    let i ← item
    pure [i]

/-- A comma. -/
def comma : Parser Token := sign ','

end ParamChain.Frontend.GoGrammar
