import ParamChain.ParseTree.Node

/-
This file holds parsers over tokens. A parser takes tokens from the front and yields a result, or
fails and takes nothing; the first of two alternatives that succeeds is taken. Repetition is
bounded by the number of tokens, which no repetition of a parser that takes a token exceeds.
-/

namespace ParamChain.ParseTree

/-- What a parser works on: the text, the tokens that are left, the offset at which the last
token taken ends, and the number of tokens of the whole text. -/
structure Rest where
  source : String
  tokens : List Token
  stop : Nat
  limit : Nat

/-- A parser of an `α`. -/
abbrev Parser (α : Type) := StateT Rest Option α

namespace Parser

variable {α β κ : Type}

/-! ### Looking ahead -/

/-- The next token. -/
def peek? : Parser (Option Token) :=
  fun r => some (r.tokens.head?, r)

/-- Whether the next token satisfies a condition. -/
def next (p : Token → Bool) : Parser Bool :=
  fun r => some ((r.tokens.head?.map p).getD false, r)

/-- Whether the next two tokens satisfy a condition each. -/
def next2 (p q : Token → Bool) : Parser Bool := fun r =>
  match r.tokens with
  | a :: b :: _ => some (p a && q b, r)
  | _ => some (false, r)

/-- Whether the next token is a given sign. -/
def nextSign (c : Char) : Parser Bool := next fun t => t.isSign c

/-- Whether the next token is a given word. -/
def nextWord (text : String) : Parser Bool := next fun t => t.isWord text

/-- Whether no token is left. -/
def atEnd : Parser Bool :=
  fun r => some (r.tokens.isEmpty, r)

/-- Whether a line break stands before the next token. -/
def atNewline : Parser Bool := next Token.newline

/-- The offset at which the last token taken ends. -/
def lastStop : Parser Nat :=
  fun r => some (r.stop, r)

/-- Go on only under a condition. -/
def check (condition : Bool) : Parser Unit :=
  if condition then pure () else failure

/-- Go on only if a parser would fail here. -/
def absent (p : Parser α) : Parser Unit := fun r =>
  match p r with
  | some _ => none
  | none => some ((), r)

/-! ### Taking tokens -/

/-- Take the next token if it satisfies a condition. -/
def takeIf (p : Token → Bool) : Parser Token := fun r =>
  match r.tokens with
  | t :: rest => if p t then some (t, { r with tokens := rest, stop := t.span.stop }) else none
  | [] => none

/-- Take a sign. -/
def sign (c : Char) : Parser Token := takeIf fun t => t.isSign c

/-- Take a word. -/
def word (text : String) : Parser Token := takeIf fun t => t.isWord text

/-- Whether the tokens begin with these signs, with nothing between them. -/
def startsWith : List Char → List Token → Bool
  | [], _ => true
  | [c], t :: _ => t.isSign c
  | c :: more, t :: u :: rest =>
    t.isSign c && t.span.stop == u.span.start && startsWith more (u :: rest)
  | _, _ => false

/-- Whether the next signs, with nothing between them, are these. -/
def nextSigns (text : String) : Parser Bool :=
  fun r => some (startsWith text.toList r.tokens, r)

/-- Take the next `n` tokens. -/
def drop : Nat → Parser Unit
  | 0 => pure ()
  | n + 1 => do
    let _ ← takeIf fun _ => true
    drop n

/-- Take signs that have nothing between them. -/
def signs (text : String) : Parser Unit := do
  check (← nextSigns text)
  drop text.length

/-- The first of the given operators that the next signs spell. Longer ones come first. -/
def operator? (operators : List String) : Parser (Option String) :=
  fun r => some (operators.find? fun o => startsWith o.toList r.tokens, r)

/-! ### Repetition -/

/-- A parser, or nothing. -/
def maybe (p : Parser α) : Parser (Option α) := fun r =>
  match p r with
  | some (a, r) => some (some a, r)
  | none => some (none, r)

/-- A parser as long as it succeeds, at most `n` times. -/
def upTo (p : Parser α) : Nat → Parser (List α)
  | 0 => pure []
  | n + 1 => do
    match ← maybe p with
    | none => pure []
    | some a =>
      let rest ← upTo p n
      pure (a :: rest)

/-- A parser as long as it succeeds. -/
def many (p : Parser α) : Parser (List α) := fun r =>
  upTo p r.limit r

/-- Extend a value as long as a parser finds an extension, at most `n` times. -/
def growUpTo (p : α → Parser α) : Nat → α → Parser α
  | 0, a => pure a
  | n + 1, a => do
    match ← maybe (p a) with
    | none => pure a
    | some b => growUpTo p n b

/-- Extend a value as long as a parser finds an extension. -/
def grow (p : α → Parser α) (a : α) : Parser α := fun r =>
  growUpTo p r.limit a r

/-- One or more, with something between neighbours. -/
def sepBy1 (p : Parser α) (separator : Parser β) : Parser (List α) := do
  let first ← p
  let rest ← many (do let _ ← separator; p)
  pure (first :: rest)

/-- Any number, with something between neighbours and perhaps at the end. -/
def sepBy (p : Parser α) (separator : Parser β) : Parser (List α) := do
  let items ← maybe (sepBy1 p separator)
  let _ ← maybe separator
  pure (items.getD [])

/-! ### Building nodes -/

/-- A stretch of the text. -/
def slice (source : String) (start stop : Nat) : String :=
  String.Pos.Raw.extract source ⟨start⟩ ⟨stop⟩

/-- The node of a token. -/
def leaf (kind : κ) (t : Token) : Node κ :=
  .mk kind none true t.span t.text []

/-- The node of a token that is only a sign or a keyword. -/
def unnamed (kind : κ) (t : Token) : Node κ :=
  .mk kind none false t.span t.text []

/-- A node from the given start to the last token taken. -/
def nodeFrom (start : Span) (kind : κ) (children : List (Node κ)) : Parser (Node κ) := fun r =>
  let span := { start with stop := r.stop }
  some (.mk kind none true span (slice r.source span.start span.stop) children, r)

/-- The span of the next token. -/
def here : Parser Span := fun r =>
  r.tokens.head?.map fun t => (t.span, r)

/-- A node over all that a parser takes. -/
def node (kind : κ) (p : Parser (List (Node κ))) : Parser (Node κ) := do
  let start ← here
  let children ← p
  nodeFrom start kind children

end Parser

end ParamChain.ParseTree
