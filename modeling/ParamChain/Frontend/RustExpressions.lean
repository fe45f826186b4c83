import ParamChain.Frontend.RustPatterns

/-
This file holds the expressions of Rust. A brace after a path opens a struct literal, except in
the head of an `if`, `while`, `match` or `for`, where it opens the block. What stands in the
brackets of a macro is a tree of tokens and is not looked into any further.
-/

namespace ParamChain.Frontend.RustGrammar

open ParseTree ParseTree.Parser

/-! ### Operators -/

/-- The signs that can follow an operand, longer ones first. -/
def operators : List String :=
  ["<<=", ">>=", "..=", "...", "=>", "&&", "||", "==", "!=", "<=", ">=", "<<", ">>", "+=", "-=",
    "*=", "/=", "%=", "&=", "|=", "^=", "..", "&", "|", "^", "<", ">", "+", "-", "*", "/", "%",
    "="]

/-- The operators that can also begin an operand. -/
def ambiguousOperators : List String := ["-", "*", "&", "|", "<", ".."]

/-- The operators that can also begin the pattern of a match arm. -/
def armOperators : List String := ["-", "&", "|", "<", ".."]

/-- Whether an expression that ends with a block goes on with what comes next, where the given
operators begin something new. -/
def goesOn (fresh : List String) : Parser Bool := do
  if ← nextSign '?' then pure true
  else if ← nextWord "as" then pure true
  else
    match ← operator? operators with
    | some o => pure (!fresh.contains o && o != "=>")
    | none => nextSign '.'

/-! ### Parts of expressions -/

/-- Arguments in parentheses. -/
def argumentList (g : Grammar) : Parser RustNode :=
  node .other do
    let _ ← sign '('
    let item : Parser (List RustNode) := do
      let attributes ← many (itemAttribute g)
      let e ← g (.expression .free)
      pure (attributes ++ [e])
    let items ← sepBy item comma
    let _ ← sign ')'
    pure items.flatten

/-- A field with its value inside a struct literal. -/
def fieldValue (g : Grammar) : Parser RustNode :=
  node .other do
    if ← nextSigns ".." then
      signs ".."
      let e ← g (.expression .free)
      pure [e]
    else
      let attributes ← many (itemAttribute g)
      let t ← takeIf fun t => isPlainWord t || t.kind == .number
      if ← nextSign ':' then
        let _ ← sign ':'
        let e ← g (.expression .free)
        pure (attributes ++ [leaf .other t, e])
      else
        check (t.kind == .word)
        pure (attributes ++ [leaf .identifier t])

/-- A struct literal after its name. -/
def structLiteral (g : Grammar) (label : RustNode) : Parser RustNode := do
  let start ← here
  let _ ← sign '\x7b'
  let items ← sepBy (fieldValue g) comma
  let _ ← sign '\x7d'
  let body ← nodeFrom start .other items
  nodeFrom label.span .structExpression [label.as .name, body.as .body]

/-- An expression that begins with a path. -/
def pathExpression (g : Grammar) (m : Mode) : Parser RustNode := do
  let p ← path g
  let isName := p.kind == .identifier || p.kind == .scopedIdentifier
  if ← atTurbofish then
    check isName
    signs "::"
    let list ← g .typeArguments
    if !m.header && (← nextSign '\x7b') then
      let base := if p.kind == .identifier then asTypeName p else p
      let label ← nodeFrom p.span .turbofishType [base.as .type, list.as .typeArguments]
      structLiteral g label
    else nodeFrom p.span .genericFunction [p.as .function, list.as .typeArguments]
  else if isName && (← atInvocation) then invocation g p
  else if isName && !m.header && (← nextSign '\x7b') then structLiteral g (asTypeName p)
  else
    check (isName || p.text = "self")
    pure p

/-- A closure. -/
def closure (g : Grammar) (m : Mode) : Parser RustNode :=
  node .closureExpression do
    let _ ← maybe (word "static")
    let _ ← maybe (word "async")
    let _ ← maybe (word "move")
    let start ← here
    let _ ← sign '|'
    let items ←
      if ← nextSign '|' then pure []
      else sepBy1 (parameter g false <|> g (.pattern false)) comma
    let _ ← sign '|'
    let list ← nodeFrom start .other items
    if ← nextSigns "->" then
      signs "->"
      let t ← g .type
      let b ← g .block
      pure [list.as .parameters, t, b.as .body]
    else
      let e ← g (.expression m)
      pure [list.as .parameters, e.as .body]

/-- What stands in parentheses: nothing, an expression or a tuple. -/
def parenthesized (g : Grammar) : Parser RustNode := do
  let start ← here
  let _ ← sign '('
  if ← nextSign ')' then
    let _ ← sign ')'
    nodeFrom start .other []
  else
    let attributes ← many (itemAttribute g)
    let first ← g (.expression .free)
    if attributes.isEmpty && (← nextSign ')') then
      let _ ← sign ')'
      nodeFrom start .parenthesizedExpression [first]
    else
      let _ ← comma
      let more ← sepBy (g (.expression .free)) comma
      let _ ← sign ')'
      nodeFrom start .other (attributes ++ first :: more)

/-- An array. -/
def array (g : Grammar) : Parser RustNode :=
  node .other do
    let _ ← sign '['
    let attributes ← many (itemAttribute g)
    if ← nextSign ']' then
      let _ ← sign ']'
      pure attributes
    else
      let first ← g (.expression .free)
      if ← nextSign ';' then
        let _ ← sign ';'
        let length ← g (.expression .free)
        let _ ← sign ']'
        pure (attributes ++ [first, length])
      else
        let item : Parser (List RustNode) := do
          let attributes ← many (itemAttribute g)
          let e ← g (.expression .free)
          pure (attributes ++ [e])
        let more ← many (do let _ ← comma; item)
        let _ ← maybe comma
        let _ ← sign ']'
        pure (attributes ++ first :: more.flatten)

/-! ### Expressions with blocks -/

/-- A pattern that is matched in a condition. -/
def letCondition (g : Grammar) (m : Mode) : Parser RustNode :=
  node .letCondition do
    let _ ← word "let"
    let p ← g (.pattern true)
    let _ ← sign '='
    let e ← g (.expression m.matched)
    pure [p.as .pattern, e.as .value]

/-- A choice between two blocks. -/
def ifRule (g : Grammar) : Parser RustNode :=
  node .ifExpression do
    let _ ← word "if"
    let condition ← g (.expression .headerCondition)
    let body ← g .block
    let alternative ← maybe (node .other do
      let _ ← word "else"
      let n ← if ← nextWord "if" then g .ifExpression else g .block
      pure [n])
    pure (condition :: body :: alternative.toList)

/-- The pattern of a match arm with its condition. -/
def armPattern (g : Grammar) : Parser RustNode :=
  node .other do
    let p ← g (.pattern true)
    let condition ← maybe (do
      let _ ← word "if"
      g (.expression .guardCondition))
    pure (p :: condition.toList)

/-- A label before a loop or a block. -/
def label : Parser RustNode := do
  let l ← lifetime
  let _ ← sign ':'
  pure (l.withKind .other)

/-- A block after a keyword. -/
def keywordBlock (g : Grammar) (keyword : Parser Unit) : Parser RustNode :=
  node .other do
    keyword
    let b ← g .block
    pure [b]

/-- A loop or a block with its label, if it has one. -/
def labeled (g : Grammar) : Parser RustNode := do
  let start ← here
  let l ← maybe label
  match ← peek? with
  | none => failure
  | some t =>
    if t.isWord "loop" then
      let _ ← word "loop"
      let b ← g .block
      nodeFrom start .other (l.toList ++ [b.as .body])
    else if t.isWord "while" then
      let _ ← word "while"
      let condition ← g (.expression .headerCondition)
      let b ← g .block
      nodeFrom start .whileExpression (l.toList ++ [condition, b.as .body])
    else if t.isWord "for" then
      let _ ← word "for"
      let p ← g (.pattern true)
      let _ ← word "in"
      let e ← g (.expression .headerLevel)
      let b ← g .block
      nodeFrom start .forExpression (l.toList ++ [p.as .pattern, e.as .value, b.as .body])
    else
      let b ← g .block
      nodeFrom start .block (l.toList ++ b.children)

/-- What follows an operand: a question mark, a field, arguments, an index or type arguments. -/
def extended (g : Grammar) (e : RustNode) : Parser RustNode := do
  match ← peek? with
  | none => failure
  | some t =>
    if t.isSign '?' then
      let _ ← sign '?'
      nodeFrom e.span .other [e]
    else if t.isSign '.' then
      let _ ← sign '.'
      if ← nextWord "await" then
        let _ ← word "await"
        nodeFrom e.span .other [e]
      else
        let s ← takeIf fun t => isPlainWord t || t.kind == .number
        nodeFrom e.span .fieldExpression [e.as .value, (leaf .other s).as .selector]
    else if t.isSign '(' then
      let list ← argumentList g
      nodeFrom e.span .callExpression [e.as .function, list.as .arguments]
    else if t.isSign '[' then
      let _ ← sign '['
      let i ← g (.expression .free)
      let _ ← sign ']'
      nodeFrom e.span .other [e, i]
    else
      check (e.kind == .fieldExpression && (← atTurbofish))
      signs "::"
      let list ← g .typeArguments
      nodeFrom e.span .genericFunction [e.as .function, list.as .typeArguments]

/-- An operator with the operand after it, or a type that the operands before are cast to. -/
def furtherOperand (g : Grammar) (m : Mode) : Parser (List RustNode) := do
  if ← nextWord "as" then
    let _ ← word "as"
    let t ← g .simpleType
    pure [t]
  else
    match ← operator? operators with
    | none => failure
    | some o =>
      check (o != "=>" && !(m.conjunct && o = "&&"))
      drop o.length
      if o = ".." then
        if m.header && (← nextSign '\x7b') then pure []
        else
          let e ← maybe (g (.operand m))
          pure e.toList
      else if o = "&&" && m.condition && (← nextWord "let") then
        let c ← letCondition g m
        pure [c]
      else
        let e ← g (.operand m)
        pure [e]

/-- An expression after its first operand. -/
def expressionAfter (g : Grammar) (m : Mode) (first : RustNode) : Parser RustNode := do
  let start ← lastStop
  let more ← many (furtherOperand g m)
  let stop ← lastStop
  if more.isEmpty && start == stop then pure first
  else nodeFrom first.span .other (first :: more.flatten)

/-- Whether an expression that ends with a block begins here. -/
def atBlockLike : Parser Bool := fun r =>
  let brace (t : Token) : Bool := t.isSign '\x7b'
  match r.tokens with
  | t :: rest =>
    let second := rest.head?
    let third := rest.tail.head?
    let simple := t.isSign '\x7b' ||
      (t.kind == .lifetime && (second.map (·.isSign ':')).getD false) ||
      ["if", "match", "while", "loop", "for"].any t.isWord
    let kept := ["unsafe", "async", "const"].any t.isWord && (second.map brace).getD false
    let moved := t.isWord "async" && (second.map (·.isWord "move")).getD false &&
      (third.map brace).getD false
    some (simple || kept || moved, r)
  | [] => some (false, r)

/-- The value of a match arm with its comma. A value that ends with a block needs none. -/
def armValue (g : Grammar) : Parser RustNode := do
  let finish (e : RustNode) : Parser RustNode := do
    if ← nextSign '\x7d' then pure e
    else
      let _ ← comma
      pure e
  if ← atBlockLike then
    let b ← g .blockLike
    if ← nextSign ',' then
      let _ ← comma
      pure b
    else if ← goesOn armOperators then
      let e ← grow (extended g) b
      let e ← expressionAfter g .free e
      finish e
    else pure b
  else
    let e ← g (.expression .free)
    finish e

/-- A match arm. Its comma is not part of the arm's value. -/
def matchArm (g : Grammar) : Parser RustNode :=
  node .matchArm do
    let attributes ← many (itemAttribute g)
    let p ← armPattern g
    signs "=>"
    let e ← armValue g
    pure (attributes ++ [p.as .pattern, e.as .value])

/-- A choice by patterns. -/
def matchExpression (g : Grammar) : Parser RustNode :=
  node .other do
    let _ ← word "match"
    let e ← g (.expression .headerLevel)
    let start ← here
    let _ ← sign '\x7b'
    let arms ← many (matchArm g)
    let _ ← sign '\x7d'
    let body ← nodeFrom start .other arms
    pure [e.as .value, body.as .body]

/-- An expression that ends with a block. -/
def blockLikeRule (g : Grammar) : Parser RustNode := do
  match ← peek? with
  | none => failure
  | some t =>
    if t.isWord "if" then g .ifExpression
    else if t.isWord "match" then matchExpression g
    else if t.isWord "unsafe" then keywordBlock g (do let _ ← word "unsafe")
    else if t.isWord "const" then keywordBlock g (do let _ ← word "const")
    else if t.isWord "async" then
      keywordBlock g (do
        let _ ← word "async"
        let _ ← maybe (word "move"))
    else labeled g

/-- An expression with its operators. -/
def expressionRule (g : Grammar) (m : Mode) : Parser RustNode := do
  let first ← if m.condition && (← nextWord "let") then letCondition g m else g (.operand m)
  expressionAfter g m first

/-- A keyword with an expression after it, if there is one. -/
def jump (g : Grammar) (m : Mode) (keyword : String) : Parser RustNode :=
  node .other do
    let _ ← word keyword
    let l ← if keyword = "break" then maybe lifetime else pure none
    let e ← if m.header && (← nextSign '\x7b') then pure none else maybe (g (.expression m))
    pure (l.toList ++ e.toList)

/-- A range without a start. -/
def openRange (g : Grammar) (m : Mode) : Parser RustNode :=
  node .other do
    signs ".."
    let e ← if m.header && (← nextSign '\x7b') then pure none else maybe (g (.operand m))
    pure e.toList

/-- An operand that nothing can follow but an operator. -/
def closedAtom (g : Grammar) (m : Mode) : Parser RustNode := do
  match ← peek? with
  | none => failure
  | some t =>
    if t.isSign '|' then closure g m
    else if t.isSign '.' then openRange g m
    else if t.isWord "return" then jump g m "return"
    else if t.isWord "break" then jump g m "break"
    else if t.isWord "yield" then jump g m "yield"
    else if t.isWord "continue" then
      node .other do
        let _ ← word "continue"
        let l ← maybe lifetime
        pure l.toList
    else
      check (["move", "static", "async"].any t.isWord)
      closure g m

/-- An operand that a field, arguments or an index can follow. -/
def openAtom (g : Grammar) (m : Mode) : Parser RustNode := do
  match ← peek? with
  | none => failure
  | some t =>
    if t.isSign '(' then parenthesized g
    else if t.isSign '[' then array g
    else if t.kind == .number || t.kind == .quoted || t.isWord "true" || t.isWord "false" then
      literal
    else if ← atBlockLike then g .blockLike
    else if t.kind == .word && t.text.toList.head? = some '$' then do
      let t ← takeIf fun _ => true
      pure (leaf .other t)
    else
      check (!(["if", "match", "while", "loop", "for", "unsafe", "const"].any t.isWord))
      pathExpression g m

/-- An operand with the signs before it. -/
def operandRule (g : Grammar) (m : Mode) : Parser RustNode := do
  match ← peek? with
  | none => failure
  | some t =>
    if t.isSign '&' then
      node .referenceExpression do
        let _ ← sign '&'
        let mutable ← maybe (keywordNode "mut")
        let e ← g (.operand m)
        pure (mutable.toList ++ [e.as .value])
    else if t.isSign '-' || t.isSign '*' || t.isSign '!' then
      node .other do
        let _ ← takeIf fun _ => true
        let e ← g (.operand m)
        pure [e]
    else
      closedAtom g m <|> do
        let e ← openAtom g m
        grow (extended g) e

end ParamChain.Frontend.RustGrammar
