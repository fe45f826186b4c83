import ParamChain.Text.Identifier
import ParamChain.ParseTree.Scanner

/-
This file holds the tokens of Go: words, numbers with digit separators, strings in two kinds of
quotes, runes, and comments. What begins like a string or a block comment and never ends is no
such thing, and its first sign stands alone.
-/

namespace ParamChain.Frontend.GoTokens

open ParseTree

/-! ### Numbers -/

/-- Further digits, each of which may have one separator before it. -/
def moreDigits (p : Char → Bool) : List Char → Nat
  | '_' :: c :: rest => if p c then 2 + moreDigits p rest else 0
  | c :: rest => if p c then 1 + moreDigits p rest else 0
  | [] => 0

/-- Digits with single separators between them. -/
def digits (p : Char → Bool) : List Char → Nat
  | c :: rest => if p c then 1 + moreDigits p rest else 0
  | [] => 0

/-- Digits of a number with a base sign, which may have a separator before them. -/
def baseDigits (p : Char → Bool) (skipped : Nat) : List Char → Nat
  | '_' :: rest => if 0 < digits p rest then skipped + 1 + digits p rest else 0
  | chars => if 0 < digits p chars then skipped + digits p chars else 0

/-- The length of a whole number. -/
def wholeNumber : List Char → Nat
  | '0' :: c :: rest =>
    if c = 'x' || c = 'X' then max 1 (baseDigits isHexDigit 2 rest)
    else if c = 'b' || c = 'B' then max 1 (baseDigits isBinaryDigit 2 rest)
    else if c = 'o' || c = 'O' then max 1 (baseDigits isOctalDigit 2 rest)
    else max 1 (baseDigits isOctalDigit 1 (c :: rest))
  | chars => digits Char.isDigit chars

/-- The length of an exponent with one of the given signs. -/
def exponent (marks : List Char) : List Char → Nat
  | c :: rest =>
    if marks.contains c then
      match rest with
      | '+' :: more | '-' :: more =>
        if 0 < digits Char.isDigit more then 2 + digits Char.isDigit more else 0
      | more => if 0 < digits Char.isDigit more then 1 + digits Char.isDigit more else 0
    else 0
  | [] => 0

/-- The length of a decimal fraction or a number with an exponent. -/
def decimalFraction (chars : List Char) : Nat :=
  let whole := digits Char.isDigit chars
  match chars.drop whole with
  | '.' :: rest =>
    let part := digits Char.isDigit rest
    if 0 < whole || 0 < part then
      whole + 1 + part + exponent ['e', 'E'] (rest.drop part)
    else 0
  | rest =>
    let power := exponent ['e', 'E'] rest
    if 0 < whole && 0 < power then whole + power else 0

/-- The length of a hexadecimal fraction. -/
def hexFraction : List Char → Nat
  | '0' :: c :: rest =>
    if c = 'x' || c = 'X' then
      let whole := baseDigits isHexDigit 0 rest
      let mantissa :=
        match rest.drop whole with
        | '.' :: more =>
          let part := digits isHexDigit more
          if 0 < whole || 0 < part then whole + 1 + part else 0
        | _ => whole
      let power := exponent ['p', 'P'] (rest.drop mantissa)
      if 0 < mantissa && 0 < power then 2 + mantissa + power else 0
    else 0
  | _ => 0

/-- The length of a number, the longest of all its readings. -/
def number (chars : List Char) : Nat :=
  let readings := [wholeNumber chars, decimalFraction chars, hexFraction chars]
  let imaginary := (digits Char.isDigit chars :: readings).map fun n =>
    if 0 < n && (chars.drop n).head? = some 'i' then n + 1 else 0
  (readings ++ imaginary).foldl max 0

/-! ### Strings, runes and comments -/

/-- The length of the hexadecimal digits that an escape of the given letter needs. -/
def escapeDigits (letter : Char) : Nat :=
  if letter = 'x' then 2 else if letter = 'u' then 4 else if letter = 'U' then 8 else 0

/-- The length of a string up to and with its closing quote, from the character after the opening
one, `none` if it is not closed on its line. The first `skip` characters belong to an escape. -/
def stringBody : Nat → List Char → Option Nat
  | _, [] => none
  | skip + 1, _ :: rest => (stringBody skip rest).map (· + 1)
  | 0, c :: rest =>
    if c = '\x22' then some 1
    else if c = '\n' then none
    else if c = '\x5c' then
      match rest with
      | [] => none
      | letter :: more =>
        let needed := escapeDigits letter
        if needed ≤ leading isHexDigit (more.take needed) then
          (stringBody (1 + needed) rest).map (· + 1)
        else none
    else (stringBody 0 rest).map (· + 1)

/-- The length of a rune up to and with its closing quote, from the character after the opening
one. -/
def runeBody : List Char → Option Nat
  | '\x5c' :: letter :: rest =>
    let needed := escapeDigits letter
    let simple := ['a', 'b', 'f', 'n', 'r', 't', 'v', '\x5c', '\x27', '\x22'].contains letter
    let body : Option Nat :=
      if 0 < needed then
        if needed ≤ leading isHexDigit (rest.take needed) then some needed else none
      else if isOctalDigit letter then
        if 2 ≤ leading isOctalDigit (rest.take 2) then some 2 else none
      else if simple then some 0
      else none
    body.bind fun n => if (rest.drop n).head? = some '\x27' then some (n + 3) else none
  | c :: '\x27' :: _ => if c = '\x27' || c = '\x5c' then none else some 2
  | _ => none

/-- The length of a raw string up to and with its closing quote. -/
def rawBody (chars : List Char) : Option Nat :=
  match chars.dropWhile (· != '\x60') with
  | [] => none
  | _ :: _ => some (leading (· != '\x60') chars + 1)

/-- The length of a block comment from the characters after its opening, `none` if it has no
end. -/
def blockBody : List Char → Option Nat
  | '*' :: '/' :: _ => some 2
  | _ :: rest => (blockBody rest).map (· + 1)
  | [] => none

/-! ### Words and the whole -/

/-- Whether a character can begin a word. -/
def beginsWord (c : Char) : Bool :=
  c = '_' || Text.isIdentStart c

/-- A token where a length is known, and a single sign otherwise. -/
def tokenOr (kind : TokenKind) : Option Nat → Piece × Nat
  | some n => (.token kind, n + 1)
  | none => (.token .sign, 1)

/-- What stands at the front of a text. -/
def cut : Cut := fun _ chars =>
  match chars with
  | [] => (.blank, 0)
  | c :: rest =>
    if isGap c then (.blank, leading isGap chars)
    else if beginsWord c then (.token .word, 1 + leading Text.isIdentContinue rest)
    else if c.isDigit || (c = '.' && (rest.head?.map Char.isDigit).getD false) then
      (.token .number, number chars)
    else if c = '\x22' then tokenOr .quoted (stringBody 0 rest)
    else if c = '\x60' then tokenOr .quoted (rawBody rest)
    else if c = '\x27' then tokenOr .quoted (runeBody rest)
    else if c = '/' && rest.head? = some '/' then (.comment, leading (· != '\n') chars)
    else if c = '/' && rest.head? = some '*' then
      match blockBody (rest.drop 1) with
      | some n => (.comment, n + 2)
      | none => (.token .sign, 1)
    else (.token .sign, 1)

/-- The tokens and comments of a text. -/
def scan (source : String) : Scanned :=
  ParseTree.scan cut source

end ParamChain.Frontend.GoTokens
