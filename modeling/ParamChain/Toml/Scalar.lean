import ParamChain.Json.Value
import ParamChain.Text.Digits

/-
This file holds the values of a TOML document that are no text and hold no other values: whole
numbers, numbers with a fraction, truth values, dates and times. No field of a configuration is a
fraction or a date, so of these it is only kept what kind of value they are: a date is an object,
as a value of its own kind, and a fraction is a number that is not whole.
-/

namespace ParamChain.Toml

/-- A reader of something at the start of the input, which gives the rest too. -/
abbrev Reader (α : Type) : Type := List Char → Option (α × List Char)

/-- The rest after one of two letters. -/
def letter (a b : Char) : Reader Unit
  | c :: rest => if c = a || c = b then some ((), rest) else none
  | [] => none

/-! ### Whole numbers -/

/-- Digits between which single underscores may stand, after a digit. -/
def moreDigits (isDigit : Char → Bool) : List Char → List Char × List Char
  | '_' :: c :: rest =>
    if isDigit c then
      let more := moreDigits isDigit rest
      (c :: more.1, more.2)
    else ([], '_' :: c :: rest)
  | c :: rest =>
    if isDigit c then
      let more := moreDigits isDigit rest
      (c :: more.1, more.2)
    else ([], c :: rest)
  | [] => ([], [])

/-- One or more digits between which single underscores may stand. -/
def digits (isDigit : Char → Bool) : Reader (List Char)
  | c :: rest =>
    if isDigit c then
      let more := moreDigits isDigit rest
      some (c :: more.1, more.2)
    else none
  | [] => none

/-- The digits of a whole number in decimal, which has no leading zero. -/
def wholeDigits : Reader (List Char)
  | '0' :: rest => some (['0'], rest)
  | input => digits Char.isDigit input

/-- A sign that may be missing: whether it is a minus, and the rest. -/
def sign : List Char → Bool × List Char
  | '+' :: rest => (false, rest)
  | '-' :: rest => (true, rest)
  | input => (false, input)

/-- A whole number in sixty-four bits with a sign. -/
def wholeOf (negative : Bool) (n : Nat) : Option Json :=
  if negative then if n ≤ 0x8000000000000000 then some (.int (-(n : Int))) else none
  else if n < 0x8000000000000000 then some (.int n) else none

/-- A whole number in a base that is a power of two. -/
def basedNumber (base : Nat) (input : List Char) : Option (Json × List Char) := do
  let isDigit c := ((Text.hexValue? c).map fun d => decide (d < base)).getD false
  let (ds, rest) ← digits isDigit input
  return (← wholeOf false (← Text.ofDigits? base ds), rest)

/-- A whole number. -/
def wholeNumber : Reader Json
  | '0' :: 'x' :: rest => basedNumber 16 rest
  | '0' :: 'o' :: rest => basedNumber 8 rest
  | '0' :: 'b' :: rest => basedNumber 2 rest
  | input => do
    let (negative, input) := sign input
    let (ds, rest) ← wholeDigits input
    return (← wholeOf negative (Text.natOfDigits ds), rest)

/-! ### Numbers with a fraction -/

/-- The value of a fraction, as far as it is kept. -/
def fractional : Json :=
  .float (.zero false)

/-- The point and the digits after it. -/
def fractionPart : Reader (List Char)
  | '.' :: rest => digits Char.isDigit rest
  | _ => none

/-- The exponent of a power of ten. -/
def exponentPart (input : List Char) : Option (Int × List Char) := do
  let (_, rest) ← letter 'e' 'E' input
  let (negative, rest) := sign rest
  let (ds, rest) ← digits Char.isDigit rest
  let n : Int := Text.natOfDigits ds
  return (if negative then -n else n, rest)

/-- Whether the number spelled by the digits, times the power of ten, rounds to no double. -/
def overflows (ds : List Char) (exponent : Int) : Bool :=
  let n := Text.natOfDigits ds
  let size : Int := (ds.dropWhile (· == '0')).length + exponent
  let limit := Nat.pow 2 1024 - Nat.pow 2 970
  if n = 0 || size ≤ 308 then false
  else if 310 < size then true
  else if 0 ≤ exponent then limit ≤ n * Nat.pow 10 exponent.toNat
  else limit * Nat.pow 10 exponent.natAbs ≤ n

/-- A number with a fraction, an exponent or both. One beyond the largest double is refused. -/
def decimalNumber (input : List Char) : Option (Json × List Char) := do
  let (negative, input) := sign input
  let (whole, rest) ← wholeDigits input
  let (part, rest) :=
    match fractionPart rest with
    | some (part, rest) => (some part, rest)
    | none => (none, rest)
  let (exponent, rest) :=
    match exponentPart rest with
    | some (e, rest) => (some e, rest)
    | none => (none, rest)
  if part.isNone && exponent.isNone then none
  else
    let part := part.getD []
    if !negative && overflows (whole ++ part) (exponent.getD 0 - part.length) then none
    else some (fractional, rest)

/-- Infinity, or the value that is no number. -/
def specialNumber (input : List Char) : Option (Json × List Char) :=
  match (sign input).2 with
  | 'i' :: 'n' :: 'f' :: rest => some (fractional, rest)
  | 'n' :: 'a' :: 'n' :: rest => some (fractional, rest)
  | _ => none

/-! ### Dates and times -/

/-- A number of exactly so many digits that lies within bounds. -/
def field (count low high : Nat) (input : List Char) : Option (Nat × List Char) :=
  let ds := input.take count
  let n := Text.natOfDigits ds
  if ds.length = count && ds.all Char.isDigit && low ≤ n && n ≤ high then
    some (n, input.drop count)
  else none

/-- The number of days of a month. -/
def daysOf (year month : Nat) : Nat :=
  if month = 2 then
    if year % 4 = 0 && (year % 100 != 0 || year % 400 = 0) then 29 else 28
  else if month = 4 || month = 6 || month = 9 || month = 11 then 30
  else 31

/-- A day of the calendar. -/
def date (input : List Char) : Option (Unit × List Char) := do
  let (year, rest) ← field 4 0 9999 input
  let (_, rest) ← letter '-' '-' rest
  let (month, rest) ← field 2 1 12 rest
  let (_, rest) ← letter '-' '-' rest
  let (_, rest) ← field 2 1 (daysOf year month) rest
  return ((), rest)

/-- A time of day, of which the seconds may have a fraction. -/
def time (input : List Char) : Option (Unit × List Char) := do
  let (_, rest) ← field 2 0 23 input
  let (_, rest) ← letter ':' ':' rest
  let (_, rest) ← field 2 0 59 rest
  let (_, rest) ← letter ':' ':' rest
  let (_, rest) ← field 2 0 60 rest
  match rest with
  | '.' :: c :: more =>
    if c.isDigit then return ((), more.dropWhile Char.isDigit) else return ((), rest)
  | _ => return ((), rest)

/-- The distance from universal time. -/
def offset (input : List Char) : Option (Unit × List Char) :=
  (letter 'Z' 'z' input).or do
    let (_, rest) ← letter '+' '-' input
    let (_, rest) ← field 2 0 23 rest
    let (_, rest) ← letter ':' ':' rest
    let (_, rest) ← field 2 0 59 rest
    return ((), rest)

/-- The time after a day, with or without its distance from universal time. -/
def timeOfDay (input : List Char) : Option (Unit × List Char) := do
  let (_, rest) ← (letter 'T' 't' input).or (letter ' ' ' ' input)
  let (_, rest) ← time rest
  return ((), ((offset rest).map Prod.snd).getD rest)

/-- A day, a time, or both. -/
def moment (input : List Char) : Option (Json × List Char) := do
  let (_, rest) ←
    match date input with
    | some (_, rest) => some ((), ((timeOfDay rest).map Prod.snd).getD rest)
    | none => time input
  return (.obj [("datetime", .null)], rest)

/-! ### Scalars -/

/-- A value that is no text and holds no other values. -/
def scalar : Reader Json
  | 't' :: 'r' :: 'u' :: 'e' :: rest => some (.bool true, rest)
  | 'f' :: 'a' :: 'l' :: 's' :: 'e' :: rest => some (.bool false, rest)
  | input =>
    (((moment input).or (decimalNumber input)).or (specialNumber input)).or (wholeNumber input)

end ParamChain.Toml
