import ParamChain.Text.Digits

/-
This file holds the four written forms of a string in a TOML document. A basic string stands
between double quotes and may hold escapes; a literal string stands between single quotes and
shows each character as it is; each has a long form between three quotes, which may go over
lines. A line break right after the opening quotes of a long form does not belong to the text.

Writing takes the plainest form that can show the text: basic without escapes, else literal, else
long basic without escapes, else long literal, and only then a basic form with escapes. Reading
takes any form, whichever writing would have chosen.
-/

namespace ParamChain.Toml

/-- The characters that a string or a comment can show as they are: all but the control
characters, of which only the tab is among them. -/
def isPlain (c : Char) : Bool :=
  c == '\t' || (32 ≤ c.toNat && c.toNat != 127)

/-- The forms of a string. -/
inductive Quoting where
  | basic
  | literal
  | longBasic
  | longLiteral
  deriving DecidableEq, Repr, Inhabited

/-! ### Choosing a form -/

/-- The length of the longest run of a character, after a run of `current` of them. -/
def longestRun (c : Char) : Nat → List Char → Nat
  | current, [] => current
  | current, d :: rest =>
    if d = c then longestRun c (current + 1) rest else max current (longestRun c 0 rest)

/-- Whether a text holds a control character that only an escape can show. -/
def needsCodes (text : List Char) : Bool :=
  text.any fun c => !isPlain c && c != '\n'

/-- The form in which a text is written. -/
def Quoting.choose (text : List Char) : Quoting :=
  let codes := needsCodes text
  let backslash := text.contains '\x5c'
  let newline := text.contains '\n'
  let doubles := longestRun '\x22' 0 text
  let singles := longestRun '\x27' 0 text
  if !codes && !backslash && doubles == 0 && !newline then .basic
  else if !codes && singles == 0 && !newline then .literal
  else if !codes && !backslash && doubles ≤ 2 then .longBasic
  else if !codes && singles ≤ 2 then .longLiteral
  else if newline then .longBasic
  else .basic

/-! ### Writing -/

/-- An upper-case hexadecimal digit. -/
def hexDigit (n : Nat) : Char :=
  (Nat.digitChar (n % 16)).toUpper

/-- A character inside a basic string, double quotes apart. A long form shows line breaks. -/
def escapeChar (long : Bool) (c : Char) : List Char :=
  if c = '\x08' then ['\x5c', 'b']
  else if c = '\t' then ['\x5c', 't']
  else if c = '\n' then if long then ['\n'] else ['\x5c', 'n']
  else if c = '\x0c' then ['\x5c', 'f']
  else if c = '\r' then ['\x5c', 'r']
  else if c = '\x5c' then ['\x5c', '\x5c']
  else if isPlain c then [c]
  else ['\x5c', 'u', '0', '0', hexDigit (c.toNat / 16), hexDigit c.toNat]

/-- The inside of a basic string. A double quote is escaped where more than `allowed` of them
would stand side by side; `run` of them stand before the text. -/
def escapeText (long : Bool) (allowed : Nat) : Nat → List Char → List Char
  | _, [] => []
  | run, c :: rest =>
    if c = '\x22' then
      if run < allowed then c :: escapeText long allowed (run + 1) rest
      else '\x5c' :: c :: escapeText long allowed 0 rest
    else escapeChar long c ++ escapeText long allowed 0 rest

/-- The line break after the opening quotes of a long form whose text has several lines. -/
def openingBreak (text : List Char) : List Char :=
  if text.contains '\n' then ['\n'] else []

/-- A text in the given form. -/
def Quoting.write (form : Quoting) (text : List Char) : List Char :=
  match form with
  | .basic => ['\x22'] ++ escapeText false 0 0 text ++ ['\x22']
  | .literal => ['\x27'] ++ text ++ ['\x27']
  | .longBasic =>
    ['\x22', '\x22', '\x22'] ++ openingBreak text ++ escapeText true 2 0 text ++
      ['\x22', '\x22', '\x22']
  | .longLiteral =>
    ['\x27', '\x27', '\x27'] ++ openingBreak text ++ text ++ ['\x27', '\x27', '\x27']

/-- A string as a document shows it. -/
def writeText (text : List Char) : List Char :=
  (Quoting.choose text).write text

/-! ### Reading -/

/-- Put a character before a text that was read. -/
def keep (c : Char) (read : Option (List Char × List Char)) : Option (List Char × List Char) :=
  read.map fun r => (c :: r.1, r.2)

/-- The character of a short escape. -/
def shortEscape? (c : Char) : Option Char :=
  if c = 'b' then some '\x08'
  else if c = 't' then some '\t'
  else if c = 'n' then some '\n'
  else if c = 'f' then some '\x0c'
  else if c = 'r' then some '\r'
  else if c = '\x22' then some '\x22'
  else if c = '\x5c' then some '\x5c'
  else none

/-- The character whose code is spelled by hexadecimal digits. -/
def coded? (digits : List Char) : Option Char :=
  (Text.ofDigits? 16 digits).bind Text.scalar?

/-- The inside of a basic string and the rest after its closing quote. -/
def basicText : List Char → Option (List Char × List Char)
  | [] => none
  | '\x5c' :: 'u' :: a :: b :: c :: d :: rest =>
    (coded? [a, b, c, d]).bind fun e => keep e (basicText rest)
  | '\x5c' :: 'U' :: a :: b :: c :: d :: e :: f :: g :: h :: rest =>
    (coded? [a, b, c, d, e, f, g, h]).bind fun i => keep i (basicText rest)
  | '\x5c' :: c :: rest => (shortEscape? c).bind fun d => keep d (basicText rest)
  | c :: rest =>
    if c = '\x22' then some ([], rest)
    else if c = '\x5c' || !isPlain c then none
    else keep c (basicText rest)

/-- The inside of a literal string and the rest after its closing quote. -/
def literalText : List Char → Option (List Char × List Char)
  | [] => none
  | c :: rest =>
    if c = '\x27' then some ([], rest)
    else if isPlain c then keep c (literalText rest)
    else none

/-- The end of a long form: three quotes, before which one or two more belong to the text. -/
def closing? (quote : Char) : List Char → Option (List Char × List Char)
  | a :: b :: c :: rest =>
    if a = quote && b = quote && c = quote then
      match rest with
      | d :: e :: more =>
        if d = quote then
          if e = quote then some ([quote, quote], more) else some ([quote], e :: more)
        else some ([], d :: e :: more)
      | [d] => if d = quote then some ([quote], []) else some ([], [d])
      | [] => some ([], [])
    else none
  | _ => none

/-- Whether a line ends here, after blanks. -/
def endsLine (input : List Char) : Bool :=
  match input.dropWhile fun c => c == ' ' || c == '\t' with
  | '\n' :: _ => true
  | '\r' :: '\n' :: _ => true
  | _ => false

/-- The inside of a long basic string and the rest after its closing quotes. A backslash at the
end of a line takes away all white space up to the next character; `gap` says that this is going
on. A line break of two characters is read as one. -/
def longBasicText : Bool → List Char → Option (List Char × List Char)
  | _, [] => none
  | gap, '\r' :: rest =>
    match rest with
    | '\n' :: more => if gap then longBasicText true more else keep '\n' (longBasicText false more)
    | _ => none
  | gap, '\n' :: rest =>
    if gap then longBasicText true rest else keep '\n' (longBasicText false rest)
  | _, '\x5c' :: 'u' :: a :: b :: c :: d :: rest =>
    (coded? [a, b, c, d]).bind fun e => keep e (longBasicText false rest)
  | _, '\x5c' :: 'U' :: a :: b :: c :: d :: e :: f :: g :: h :: rest =>
    (coded? [a, b, c, d, e, f, g, h]).bind fun i => keep i (longBasicText false rest)
  | _, '\x5c' :: c :: rest =>
    if endsLine (c :: rest) then longBasicText true (c :: rest)
    else (shortEscape? c).bind fun d => keep d (longBasicText false rest)
  | gap, c :: rest =>
    match closing? '\x22' (c :: rest) with
    | some done => some done
    | none =>
      if gap && (c == ' ' || c == '\t') then longBasicText true rest
      else if c = '\x5c' || !isPlain c then none
      else keep c (longBasicText false rest)

/-- The inside of a long literal string and the rest after its closing quotes. -/
def longLiteralText : List Char → Option (List Char × List Char)
  | [] => none
  | '\r' :: rest =>
    match rest with
    | '\n' :: more => keep '\n' (longLiteralText more)
    | _ => none
  | c :: rest =>
    match closing? '\x27' (c :: rest) with
    | some done => some done
    | none => if isPlain c || c = '\n' then keep c (longLiteralText rest) else none

/-- The rest after a line break, if there is one. -/
def skipBreak : List Char → List Char
  | '\n' :: rest => rest
  | '\r' :: '\n' :: rest => rest
  | input => input

/-- A string in any form, and the rest. -/
def readText : List Char → Option (List Char × List Char)
  | '\x22' :: '\x22' :: '\x22' :: rest => longBasicText false (skipBreak rest)
  | '\x27' :: '\x27' :: '\x27' :: rest => longLiteralText (skipBreak rest)
  | '\x22' :: rest => basicText rest
  | '\x27' :: rest => literalText rest
  | _ => none

end ParamChain.Toml
