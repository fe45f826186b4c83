import ParamChain.ParseTree.Token

/-
This file holds the cutting of a text into tokens and comments. What stands at the front of the
text is up to the language; how offsets, lines and columns go on, and when a line break counts,
is the same for all.
-/

namespace ParamChain.ParseTree

/-- What can stand at the front of a text. -/
inductive Piece where
  | blank
  | comment
  | token (kind : TokenKind)
  deriving DecidableEq, Repr, Inhabited

/-- How a language cuts a text: the class of what stands at the front and the number of its
characters, given the tokens before it from the last to the first. -/
abbrev Cut := List Token → List Char → Piece × Nat

/-- A place in a text. -/
structure Place where
  offset : Nat
  line : Nat
  column : Nat
  deriving DecidableEq, Repr, Inhabited

/-- The place after a character. -/
def Place.after (p : Place) (c : Char) : Place :=
  if c = '\n' then ⟨p.offset + 1, p.line + 1, 1⟩
  else ⟨p.offset + c.utf8Size, p.line, p.column + c.utf8Size⟩

/-- The stretch between two places. -/
def Place.to (start stop : Place) : Span :=
  ⟨start.offset, stop.offset, start.line, start.column⟩

/-- What has been found of a text so far, from the last to the first, and whether a line break
has come after the last token. -/
structure Found where
  tokens : List Token
  comments : List Comment
  newline : Bool

/-- Cut the rest of a text, in at most `fuel` pieces. -/
def scanFrom (cut : Cut) : Nat → Place → Found → List Char → Found
  | 0, _, found, _ => found
  | _ + 1, _, found, [] => found
  | fuel + 1, place, found, c :: rest =>
    let (piece, count) := cut found.tokens (c :: rest)
    let taken := (c :: rest).take (max count 1)
    let after := taken.foldl Place.after place
    let span := place.to after
    let found : Found :=
      match piece with
      | .blank => { found with newline := found.newline || taken.contains '\n' }
      | .comment => { found with comments := ⟨String.ofList taken, span⟩ :: found.comments }
      | .token kind =>
        { found with
          tokens := ⟨kind, String.ofList taken, span, found.newline⟩ :: found.tokens
          newline := false }
    scanFrom cut fuel after found (rest.drop (max count 1 - 1))

/-- Cut a text. A byte order mark at its very front is passed over. -/
def scan (cut : Cut) (source : String) : Scanned :=
  let start : Place := ⟨0, 1, 1⟩
  let (place, chars) :=
    match source.toList with
    | '\uFEFF' :: rest => (start.after '\uFEFF', rest)
    | chars => (start, chars)
  let found := scanFrom cut (chars.length + 1) place ⟨[], [], false⟩ chars
  ⟨found.tokens.reverse, found.comments.reverse⟩

/-! ### Lengths of what stands at the front -/

/-- The number of leading characters of a class. -/
def leading (p : Char → Bool) (chars : List Char) : Nat :=
  (chars.takeWhile p).length

/-- The white space between tokens. -/
def isGap (c : Char) : Bool :=
  c = ' ' || (9 ≤ c.toNat && c.toNat ≤ 13)

/-- Whether a character is a hexadecimal digit. -/
def isHexDigit (c : Char) : Bool :=
  c.isDigit || ('a' ≤ c && c ≤ 'f') || ('A' ≤ c && c ≤ 'F')

/-- Whether a character is an octal digit. -/
def isOctalDigit (c : Char) : Bool :=
  '0' ≤ c && c ≤ '7'

/-- Whether a character is a binary digit. -/
def isBinaryDigit (c : Char) : Bool :=
  c = '0' || c = '1'

end ParamChain.ParseTree
