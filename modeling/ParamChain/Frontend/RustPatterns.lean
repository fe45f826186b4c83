import ParamChain.Frontend.RustTypes

/-
This file holds the patterns of Rust.
-/

namespace ParamChain.Frontend.RustGrammar

open ParseTree ParseTree.Parser

/-! ### Patterns -/

/-- The end of a range of values, if it is one. -/
def rangeEnd (g : Grammar) (first : RustNode) : Parser RustNode := do
  match ← operator? ["...", "..=", ".."] with
  | some o =>
    drop o.length
    let second ← maybe (signedLiteral <|> path g)
    check (second.isSome || o = "..")
    nodeFrom first.span .other (first :: second.toList)
  | none => pure first

/-- A field of a struct pattern. -/
def fieldPattern (g : Grammar) : Parser RustNode :=
  node .other do
    if ← nextSigns ".." then
      signs ".."
      pure []
    else
      let _ ← maybe (do
        let r ← word "ref"
        check (← next isPlainWord)
        pure r)
      let m ← maybe (keywordNode "mut")
      let t ← name []
      if ← nextSign ':' then
        let _ ← sign ':'
        let p ← g (.pattern true)
        pure (m.toList ++ [leaf .other t, p])
      else pure (m.toList ++ [leaf .shorthandField t])

/-- A pattern that begins with a path. -/
def pathPattern (g : Grammar) : Parser RustNode := do
  let p ← path g
  let p ← (do
    check (← atTurbofish)
    signs "::"
    let list ← g .typeArguments
    check (← nextSign '(')
    nodeFrom p.span .genericType [p.as .type, list.as .typeArguments]) <|> pure p
  let isName := p.kind == .identifier || p.kind == .scopedIdentifier
  if ← atInvocation then invocation g p
  else if (isName || p.kind == .genericType) && (← nextSign '(') then
    let _ ← sign '('
    let items ← sepBy (g (.pattern true)) comma
    let _ ← sign ')'
    nodeFrom p.span .other (p :: items)
  else if isName && (← nextSign '\x7b') then
    let _ ← sign '\x7b'
    let items ← sepBy (fieldPattern g) comma
    let _ ← sign '\x7d'
    nodeFrom p.span .other (asTypeName p :: items)
  else if p.kind == .identifier && (← nextSign '@') then
    let _ ← sign '@'
    let inner ← g (.pattern false)
    nodeFrom p.span .other [p, inner]
  else if p.kind == .other then
    check (← nextSigns "..")
    rangeEnd g p
  else
    check isName
    rangeEnd g p

/-- A pattern without bars. -/
def singlePattern (g : Grammar) : Parser RustNode := do
  match ← peek? with
  | none => failure
  | some t =>
    if t.isWord "_" then do
      let t ← word "_"
      pure (unnamed .other t)
    else if t.isWord "ref" then
      node .refPattern do
        let _ ← word "ref"
        let p ← g (.pattern false)
        pure [p]
    else if t.isWord "mut" then
      node .mutPattern do
        let m ← keywordNode "mut"
        let p ← g (.pattern false)
        pure [m, p]
    else if t.isSign '&' then
      node .referencePattern do
        let _ ← sign '&'
        let m ← maybe (keywordNode "mut")
        let p ← g (.pattern false)
        pure (m.toList ++ [p])
    else if t.isSign '(' then
      node .other do
        let _ ← sign '('
        let items ← sepBy (g (.pattern true)) comma
        let _ ← sign ')'
        pure items
    else if t.isSign '[' then
      node .other do
        let _ ← sign '['
        let items ← sepBy (g (.pattern true)) comma
        let _ ← sign ']'
        pure items
    else if t.isSign '.' then
      node .other do
        signs ".."
        pure []
    else if t.isWord "const" then
      node .other do
        let _ ← word "const"
        let b ← g .block
        pure [b]
    else if t.isSign '-' || t.kind == .number || t.kind == .quoted || t.isWord "true" ||
        t.isWord "false" then do
      let l ← signedLiteral
      rangeEnd g l
    else pathPattern g

/-- A pattern. With bars it may be a choice of patterns. -/
def patternRule (g : Grammar) (bars : Bool) : Parser RustNode := do
  if bars then
    let start ← here
    let leading ← maybe (sign '|')
    let first ← singlePattern g
    let more ← many (do let _ ← sign '|'; singlePattern g)
    if leading.isNone && more.isEmpty then pure first
    else nodeFrom start .other (first :: more)
  else singlePattern g

end ParamChain.Frontend.RustGrammar
