import ParamChain.Text.Identifier
import ParamChain.ParseTree.Scanner

/-
This file holds the tokens of Rust: words, also raw ones, numbers, strings, raw strings and
characters with their letters in front, lifetimes, and comments, of which those in blocks nest.
After the dot of a field only a whole number can stand, so `x.0.1` has no fraction in it.
-/

namespace ParamChain.Frontend.RustTokens

open ParseTree

/-! ### Numbers -/

/-- Whether a character can stand among the digits of a number. -/
def isNumeral (c : Char) : Bool :=
  c = '_' || c.isDigit

/-- The types that a number can name at its end. -/
def numericTypes : List String :=
  ["u8", "i8", "u16", "i16", "u32", "i32", "u64", "i64", "u128", "i128", "isize", "usize", "f32",
    "f64"]

/-- The length of the longest type name at the front. -/
def numericSuffix (chars : List Char) : Nat :=
  (numericTypes.filter fun t => t.toList.isPrefixOf chars).foldl (fun n t => max n t.length) 0

/-- The length of the digits of a whole number in any base. -/
def wholeDigits : List Char → Nat
  | '0' :: c :: rest =>
    let based (p : Char → Bool) : Nat :=
      let n := leading (fun c => c = '_' || p c) rest
      if 0 < n then n + 2 else 1
    if c = 'x' then based isHexDigit
    else if c = 'b' then based isBinaryDigit
    else if c = 'o' then based isOctalDigit
    else 1 + leading isNumeral (c :: rest)
  | chars => leading isNumeral chars

/-- The length of a whole number. -/
def wholeNumber (chars : List Char) : Nat :=
  let n := wholeDigits chars
  n + numericSuffix (chars.drop n)

/-- The length of an exponent. -/
def exponent : List Char → Nat
  | c :: rest =>
    if c = 'e' || c = 'E' then
      match rest with
      | '+' :: more | '-' :: more =>
        let n := leading isNumeral more
        if 0 < n then n + 2 else 0
      | more =>
        let n := leading isNumeral more
        if 0 < n then n + 1 else 0
    else 0
  | [] => 0

/-- The length of the type that a fraction names at its end. -/
def fractionSuffix : List Char → Nat
  | c :: rest =>
    let n := leading Char.isDigit rest
    if (c = 'u' || c = 'i' || c = 'f') && 0 < n then n + 1 else 0
  | [] => 0

/-- The length of a number with a point or an exponent, zero if there is none. A point that a
letter or another point follows belongs to something else. -/
def fraction (chars : List Char) : Nat :=
  let whole := leading isNumeral chars
  match chars.drop whole with
  | '.' :: rest =>
    match rest with
    | c :: _ =>
      if c = '.' || Text.isIdentStart c then 0
      else
        let part := leading isNumeral rest
        let power := exponent (rest.drop part)
        whole + 1 + part + power + fractionSuffix (rest.drop (part + power))
    | [] => whole + 1
  | rest =>
    let power := exponent rest
    if 0 < power then whole + power + fractionSuffix (rest.drop power) else 0

/-- Whether the tokens so far end with a dot that is not part of a range. -/
def afterDot : List Token → Bool
  | t :: u :: _ => t.isSign '.' && !(u.isSign '.' && u.span.stop == t.span.start)
  | [t] => t.isSign '.'
  | [] => false

/-- The length of a number after the given tokens. -/
def number (before : List Token) (chars : List Char) : Nat :=
  if afterDot before then wholeNumber chars
  else if 0 < fraction chars then fraction chars
  else wholeNumber chars

/-! ### Strings and characters -/

/-- The length of an escape after its backslash. -/
def escape : List Char → Option Nat
  | 'x' :: rest => if 2 ≤ leading isHexDigit (rest.take 2) then some 3 else none
  | 'u' :: '\x7b' :: rest =>
    let n := leading isHexDigit rest
    if 0 < n && (rest.drop n).head? = some '\x7d' then some (n + 3) else none
  | 'u' :: rest => if 4 ≤ leading isHexDigit (rest.take 4) then some 5 else none
  | _ :: _ => some 1
  | [] => none

/-- The length of a string up to and with its closing quote, from the character after the opening
one. The first `skip` characters belong to an escape. -/
def stringBody : Nat → List Char → Option Nat
  | _, [] => none
  | skip + 1, _ :: rest => (stringBody skip rest).map (· + 1)
  | 0, c :: rest =>
    if c = '\x22' then some 1
    else if c = '\x5c' then
      match escape rest with
      | some n => (stringBody n rest).map (· + 1)
      | none => none
    else (stringBody 0 rest).map (· + 1)

/-- The length of a raw string up to and with its end, a quote and the given number of hashes. -/
def rawBody (hashes : Nat) : List Char → Option Nat
  | [] => none
  | c :: rest =>
    if c = '\x22' && hashes ≤ leading (· = '#') (rest.take hashes) then some (1 + hashes)
    else (rawBody hashes rest).map (· + 1)

/-- The length of a raw string after its letters. -/
def rawString (chars : List Char) : Option Nat :=
  let hashes := leading (· = '#') chars
  match chars.drop hashes with
  | '\x22' :: rest => (rawBody hashes rest).map (· + hashes + 1)
  | _ => none

/-- The length of a character up to and with its closing quote, from the one after the opening
quote. -/
def charBody : List Char → Option Nat
  | '\x27' :: _ => some 1
  | '\x5c' :: rest =>
    (escape rest).bind fun n =>
      if (rest.drop n).head? = some '\x27' then some (n + 2) else none
  | _ :: '\x27' :: _ => some 2
  | _ => none

/-- The length of a string or character at the front, with its letters. -/
def quoted : List Char → Option Nat
  | '\x22' :: rest => (stringBody 0 rest).map (· + 1)
  | '\x27' :: rest => (charBody rest).map (· + 1)
  | 'r' :: rest => (rawString rest).map (· + 1)
  | 'b' :: '\x22' :: rest | 'c' :: '\x22' :: rest => (stringBody 0 rest).map (· + 2)
  | 'b' :: '\x27' :: rest => (charBody rest).map (· + 2)
  | 'b' :: 'r' :: rest | 'c' :: 'r' :: rest => (rawString rest).map (· + 2)
  | _ => none

/-! ### Words, comments and the whole -/

/-- Whether a character can begin a word. -/
def beginsWord (c : Char) : Bool :=
  c = '_' || Text.isIdentStart c

/-- The length of a word, zero if there is none. -/
def word : List Char → Nat
  | 'r' :: '#' :: c :: rest =>
    if beginsWord c then 3 + leading Text.isIdentContinue rest else 1
  | '$' :: c :: rest => if beginsWord c then 2 + leading Text.isIdentContinue rest else 0
  | c :: rest => if beginsWord c then 1 + leading Text.isIdentContinue rest else 0
  | [] => 0

/-- The length of a block comment after its opening, where `depth` further comments are open. -/
def blockBody : Nat → List Char → Option Nat
  | 0, '*' :: '/' :: _ => some 2
  | depth + 1, '*' :: '/' :: rest => (blockBody depth rest).map (· + 2)
  | depth, '/' :: '*' :: rest => (blockBody (depth + 1) rest).map (· + 2)
  | depth, _ :: rest => (blockBody depth rest).map (· + 1)
  | _, [] => none

/-- The length of the line at the top of a script that names its interpreter, zero if there is
none. What looks like an inner attribute is not such a line. -/
def interpreterLine : List Char → Nat
  | '#' :: '!' :: rest =>
    let gap := leading (fun c => isGap c && c != '\n') rest
    match rest.drop gap with
    | '[' :: _ | [] => 0
    | line =>
      let n := leading (· != '\n') line
      if n < line.length then 2 + gap + n + 1 else 0
  | _ => 0

/-- What stands at the front of a text. -/
def cut : Cut := fun before chars =>
  match chars with
  | [] => (.blank, 0)
  | c :: rest =>
    if isGap c then (.blank, leading isGap chars)
    else if c = '/' && rest.head? = some '/' then (.comment, leading (· != '\n') chars)
    else if c = '/' && rest.head? = some '*' then
      match blockBody 0 (rest.drop 1) with
      | some n => (.comment, n + 2)
      | none => (.token .sign, 1)
    else if before.isEmpty && c = '#' && 0 < interpreterLine chars then
      (.blank, interpreterLine chars)
    else
      match quoted chars with
      | some n => (.token .quoted, n)
      | none =>
        if 0 < word chars then (.token .word, word chars)
        else if c.isDigit then (.token .number, number before chars)
        else if c = '\x27' && 0 < word rest && (rest.head?.map beginsWord).getD false then
          (.token .lifetime, 1 + word rest)
        else (.token .sign, 1)

/-- The tokens and comments of a text. -/
def scan (source : String) : Scanned :=
  ParseTree.scan cut source

end ParamChain.Frontend.RustTokens
