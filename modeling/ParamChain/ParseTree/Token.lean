import ParamChain.Source.Model

/-
This file holds the tokens of a source text. A token knows the stretch of text it covers and
whether a line break stands before it, because some languages end a statement there. Signs are
kept one character to a token; which of them belong together depends on what the grammar expects
at that place, so the grammar puts them together. Comments are kept apart from the tokens.
-/

namespace ParamChain.ParseTree

/-- A stretch of source text: the offsets of its ends in bytes, and the line and the column of
its start, counted from one, the column in bytes. -/
structure Span where
  start : Nat
  stop : Nat
  line : Nat
  column : Nat
  deriving DecidableEq, Repr, Inhabited

/-- The start of a stretch as a position in a file. -/
def Span.position (s : Span) (file : String) : SourcePosition :=
  ⟨file, s.line, s.column⟩

/-- Whether one stretch lies inside another. -/
def Span.inside (inner outer : Span) : Bool :=
  outer.start ≤ inner.start && inner.stop ≤ outer.stop

/-- The classes of tokens. -/
inductive TokenKind where
  /-- A name or a keyword. -/
  | word
  /-- A number. -/
  | number
  /-- A string or a character. -/
  | quoted
  /-- A name after a single quote. -/
  | lifetime
  /-- One sign. -/
  | sign
  deriving DecidableEq, Repr, Inhabited

/-- A token. -/
structure Token where
  kind : TokenKind
  text : String
  span : Span
  newline : Bool
  deriving DecidableEq, Repr, Inhabited

/-- Whether a token is the given sign. -/
def Token.isSign (t : Token) (c : Char) : Bool :=
  t.kind == .sign && t.text == c.toString

/-- Whether a token is the given word. -/
def Token.isWord (t : Token) (text : String) : Bool :=
  t.kind == .word && t.text == text

/-- A comment. -/
structure Comment where
  text : String
  span : Span
  deriving DecidableEq, Repr, Inhabited

/-- A text cut into tokens and comments, each in source order. -/
structure Scanned where
  tokens : List Token
  comments : List Comment
  deriving Repr, Inhabited

end ParamChain.ParseTree
