import ParamChain.Frontend.RustSyntax
import ParamChain.Frontend.RustTokens
import ParamChain.ParseTree.Parser

/-
This file holds what all rules of the grammar of Rust have in common: the places at which an
expression can stand, the rules that call one another, and the words that are no names.
-/

namespace ParamChain.Frontend.RustGrammar

open ParseTree ParseTree.Parser

/-! ### The rules and where they stand -/

/-- Where an expression stands. -/
structure Mode where
  /-- A brace after a path opens a block. -/
  header : Bool
  /-- A pattern may be matched among the conjuncts. -/
  condition : Bool
  /-- The expression ends before a conjunction. -/
  conjunct : Bool
  deriving DecidableEq, Repr, Inhabited

namespace Mode

/-- Anywhere but in the head of a compound expression. -/
def free : Mode := ⟨false, false, false⟩

/-- In the head of a `match` or `for`. -/
def headerLevel : Mode := ⟨true, false, false⟩

/-- The condition of an `if` or `while`. -/
def headerCondition : Mode := ⟨true, true, false⟩

/-- The condition of a match arm. -/
def guardCondition : Mode := ⟨false, true, false⟩

/-- What a pattern in a condition is matched with. -/
def matched (m : Mode) : Mode := ⟨m.header, false, true⟩

end Mode

/-- The rules that call one another. -/
inductive Rule where
  | expression (mode : Mode)
  | operand (mode : Mode)
  | blockLike
  | type
  | simpleType
  | typeArguments
  | pattern (bars : Bool)
  | block
  | ifExpression
  | statement (last : Bool)
  | member
  | tokenTree
  | useTree
  deriving DecidableEq, Repr, Inhabited

/-- How each rule is read. -/
abbrev Grammar := Rule → Parser RustNode

/-! ### Words -/

/-- The primitive types. -/
def primitiveTypes : List String :=
  RustTokens.numericTypes ++ ["bool", "str", "char"]

/-- The first words of a path that are no names. -/
def pathWords : List String := ["self", "super", "crate"]

/-- Whether a token is a word of a program, not of a macro. -/
def isPlainWord (t : Token) : Bool :=
  t.kind == .word && t.text.toList.head? != some '$'

/-- A word, other than the given ones. -/
def name (reserved : List String) : Parser Token :=
  takeIf fun t => isPlainWord t && !reserved.contains t.text

/-- A word as a node. -/
def nameNode (kind : RustKind) (reserved : List String) : Parser RustNode := do
  let t ← name reserved
  pure (leaf kind t)

/-- A word of the given ones, as a node that counts as one. -/
def keywordNode (text : String) : Parser RustNode := do
  let t ← word text
  pure (leaf .other t)

/-- A lifetime or a label. -/
def lifetime : Parser RustNode := do
  let t ← takeIf fun t => t.kind == .lifetime
  pure (leaf .lifetime t)

/-- A comma. -/
def comma : Parser Token := sign ','

/-- Whether a token opens a bracket. -/
def isOpening (t : Token) : Bool :=
  t.isSign '(' || t.isSign '[' || t.isSign '\x7b'

/-- Whether a macro is invoked here, after its path. -/
def atInvocation : Parser Bool :=
  next2 (fun t => t.isSign '!') isOpening

/-- Whether a path goes on with a name. -/
def atSegment : Parser Bool := fun r =>
  match r.tokens with
  | a :: b :: c :: _ =>
    some (a.isSign ':' && b.isSign ':' && a.span.stop == b.span.start && isPlainWord c, r)
  | _ => some (false, r)

/-- Whether type arguments with their colons come next. -/
def atTurbofish : Parser Bool := fun r =>
  match r.tokens with
  | a :: b :: c :: _ =>
    some (a.isSign ':' && b.isSign ':' && a.span.stop == b.span.start && c.isSign '<', r)
  | _ => some (false, r)

end ParamChain.Frontend.RustGrammar
