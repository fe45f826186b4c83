import ParamChain.Json.Value
import ParamChain.Text.Digits

/-
This file holds the reader of JSON text. It is strict: no trailing commas, no comments, no bare
control characters in strings, no unpaired surrogates, no number beyond the largest double, and
at most 127 arrays and objects inside one another.
-/

namespace ParamChain.Json

open Text

/-- White space between the parts of a value. -/
def isSpace (c : Char) : Bool :=
  c == ' ' || c == '\n' || c == '\t' || c == '\r'

/-- The rest after white space. -/
def skipSpace (input : List Char) : List Char :=
  input.dropWhile isSpace

/-- The rest after an expected sequence of characters. -/
def expect : List Char → List Char → Option (List Char)
  | [], rest => some rest
  | c :: wanted, d :: rest => if c = d then expect wanted rest else none
  | _ :: _, [] => none

/-! ### Strings -/

/-- Four hexadecimal digits and the rest. -/
def hexQuad? : List Char → Option (Nat × List Char)
  | a :: b :: c :: d :: rest => do
    let a ← hexValue? a
    let b ← hexValue? b
    let c ← hexValue? c
    let d ← hexValue? d
    some (((a * 16 + b) * 16 + c) * 16 + d, rest)
  | _ => none

/-- The character of an escape after the backslash, and the rest. A character beyond the basic
plane takes two escapes, a high and a low surrogate. -/
def escape? : List Char → Option (Char × List Char)
  | '\x22' :: rest => some ('\x22', rest)
  | '\x5c' :: rest => some ('\x5c', rest)
  | '/' :: rest => some ('/', rest)
  | 'b' :: rest => some ('\x08', rest)
  | 'f' :: rest => some ('\x0c', rest)
  | 'n' :: rest => some ('\n', rest)
  | 'r' :: rest => some ('\r', rest)
  | 't' :: rest => some ('\t', rest)
  | 'u' :: rest => do
    let (unit, rest) ← hexQuad? rest
    if 0xDC00 ≤ unit && unit ≤ 0xDFFF then none
    else if 0xD800 ≤ unit && unit ≤ 0xDBFF then
      match rest with
      | '\x5c' :: 'u' :: rest =>
        let (low, rest) ← hexQuad? rest
        if 0xDC00 ≤ low && low ≤ 0xDFFF then
          some (Char.ofNat (0x10000 + (unit - 0xD800) * 0x400 + (low - 0xDC00)), rest)
        else none
      | _ => none
    else some (Char.ofNat unit, rest)
  | _ => none

/-- The characters of a string up to its closing quote, and the rest. The characters read so far
are held in reverse. -/
def stringChars : Nat → List Char → List Char → Option (List Char × List Char)
  | 0, _, _ => none
  | _ + 1, _, [] => none
  | fuel + 1, done, c :: rest =>
    if c = '\x22' then some (done.reverse, rest)
    else if c = '\x5c' then
      (escape? rest).bind fun (d, rest) => stringChars fuel (d :: done) rest
    else if c.toNat < 32 then none
    else stringChars fuel (c :: done) rest

/-- A string after its opening quote, and the rest. The input is no longer than `limit`. -/
def readString (limit : Nat) (input : List Char) : Option (String × List Char) :=
  (stringChars (limit + 1) [] input).map fun (cs, rest) => (String.ofList cs, rest)

/-! ### Numbers -/

/-- Take digits as long as the number they spell stays below `2 ^ 64`. Gives the number, the
count of digits taken, and the rest. -/
def takeDigits : Nat → Nat → List Char → Nat × Nat × List Char
  | value, count, c :: rest =>
    if c.isDigit then
      let next := value * 10 + (c.toNat - 48)
      if next < 0x10000000000000000 then takeDigits next (count + 1) rest
      else (value, count, c :: rest)
    else (value, count, c :: rest)
  | value, count, [] => (value, count, [])

/-- The number of leading digits, and the rest after them. -/
def skipDigits (input : List Char) : Nat × List Char :=
  ((input.takeWhile Char.isDigit).length, input.dropWhile Char.isDigit)

/-- A fraction with its exponent part, if there is one, as a double. -/
def readExponent (negative : Bool) (significand : Nat) (exponent : Int) (input : List Char) :
    Option (Json × List Char) := do
  let finish (exponent : Int) (rest : List Char) : Option (Json × List Char) :=
    (Number.Binary64.ofDecimal negative significand exponent).map fun x => (.float x, rest)
  match input with
  | c :: rest =>
    if c = 'e' || c = 'E' then
      let (sign, rest) := match rest with
        | '+' :: rest => ((1 : Int), rest)
        | '-' :: rest => ((-1 : Int), rest)
        | rest => ((1 : Int), rest)
      let digits := rest.takeWhile Char.isDigit
      if digits.isEmpty then none
      else finish (exponent + sign * (natOfDigits digits : Int)) (rest.drop digits.length)
    else finish exponent (c :: rest)
  | [] => finish exponent []

/-- What follows the whole part of a number. `dropped` digits of the whole part did not fit. -/
def readFraction (negative : Bool) (significand dropped : Nat) (input : List Char) :
    Option (Json × List Char) :=
  match input with
  | '.' :: rest =>
    let (significand', count, afterTaken) := takeDigits significand 0 rest
    let (more, after) := skipDigits afterTaken
    if count = 0 && more = 0 then none
    else readExponent negative significand' ((dropped : Int) - (count : Int)) after
  | c :: rest =>
    if c = 'e' || c = 'E' || 0 < dropped then
      readExponent negative significand dropped (c :: rest)
    else if !negative then some (.int significand, c :: rest)
    else if 0 < significand && significand ≤ 0x8000000000000000 then
      some (.int (-(significand : Int)), c :: rest)
    else readExponent negative significand 0 (c :: rest)
  | [] =>
    if 0 < dropped then readExponent negative significand dropped []
    else if !negative then some (.int significand, [])
    else if 0 < significand && significand ≤ 0x8000000000000000 then
      some (.int (-(significand : Int)), [])
    else readExponent negative significand 0 []

/-- A number after its sign. -/
def readNumber (negative : Bool) (input : List Char) : Option (Json × List Char) :=
  match input with
  | '0' :: rest =>
    match rest with
    | c :: _ => if c.isDigit then none else readFraction negative 0 0 rest
    | [] => readFraction negative 0 0 []
  | c :: _ =>
    if c.isDigit then
      let (significand, _, afterTaken) := takeDigits 0 0 input
      let (dropped, after) := skipDigits afterTaken
      readFraction negative significand dropped after
    else none
  | [] => none

/-! ### Values -/

/-- The items of an array after its opening bracket or a comma. -/
def readItems (value : List Char → Option (Json × List Char)) :
    Nat → List Json → List Char → Option (List Json × List Char)
  | 0, _, _ => none
  | fuel + 1, done, input => do
    let (item, rest) ← value (skipSpace input)
    match skipSpace rest with
    | ',' :: rest => readItems value fuel (item :: done) rest
    | ']' :: rest => some ((item :: done).reverse, rest)
    | _ => none

/-- The members of an object after its opening brace or a comma. -/
def readMembers (limit : Nat) (value : List Char → Option (Json × List Char)) :
    Nat → List (String × Json) → List Char → Option (List (String × Json) × List Char)
  | 0, _, _ => none
  | fuel + 1, done, input => do
    let rest ← expect ['\x22'] (skipSpace input)
    let (name, rest) ← readString limit rest
    let rest ← expect [':'] (skipSpace rest)
    let (item, rest) ← value (skipSpace rest)
    let done := insertMember name item done
    match skipSpace rest with
    | ',' :: rest => readMembers limit value fuel done rest
    | '\x7d' :: rest => some (done, rest)
    | _ => none

/-- A value at the start of the input, and the rest. Fewer than `depth` containers may be open
at any point, and the input is no longer than `limit`. -/
def readValue (limit : Nat) : Nat → List Char → Option (Json × List Char)
  | _, 'n' :: 'u' :: 'l' :: 'l' :: rest => some (.null, rest)
  | _, 't' :: 'r' :: 'u' :: 'e' :: rest => some (.bool true, rest)
  | _, 'f' :: 'a' :: 'l' :: 's' :: 'e' :: rest => some (.bool false, rest)
  | _, '\x22' :: rest => (readString limit rest).map fun (s, rest) => (.str s, rest)
  | _, '-' :: rest => readNumber true rest
  | depth + 1, '[' :: rest =>
    if depth = 0 then none
    else
      match skipSpace rest with
      | ']' :: rest => some (.arr [], rest)
      | rest =>
        (readItems (readValue limit depth) (limit + 1) [] rest).map fun (items, rest) =>
          (.arr items, rest)
  | depth + 1, '\x7b' :: rest =>
    if depth = 0 then none
    else
      match skipSpace rest with
      | '\x7d' :: rest => some (.obj [], rest)
      | rest =>
        (readMembers limit (readValue limit depth) (limit + 1) [] rest).map
          fun (members, rest) => (.obj members, rest)
  | _, input => readNumber false input

/-- The value that a whole text spells. -/
def parse (text : String) : Option Json :=
  let input := text.toList
  match readValue input.length 128 (skipSpace input) with
  | some (value, rest) => if (skipSpace rest).isEmpty then some value else none
  | none => none

end ParamChain.Json
