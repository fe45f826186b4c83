import ParamChain.Pattern.Basic
import ParamChain.Text.Digits

/-
This file holds the written form of regular expressions. Groups, alternatives, repetition, sets
with ranges and set operations, classes, anchors and flags are read; references back to a group
and looking around are refused, and so is all that is malformed.
-/

namespace ParamChain.Pattern

/-- The flags in force. -/
structure Flags where
  anyCase : Bool
  multiline : Bool
  dotAll : Bool
  spaced : Bool
  deriving DecidableEq, Repr, Inhabited

/-- The flags at the start of a pattern. -/
def Flags.standard : Flags := ⟨false, false, false, false⟩

/-! ### Escapes -/

/-- What an escape stands for. -/
inductive Escape where
  | char (c : Char)
  | set (s : CharSet)
  | anchor (a : Anchor)

/-- The signs that have a meaning of their own. -/
def metaSigns : List Char :=
  ['\x5c', '.', '+', '*', '?', '(', ')', '|', '[', ']', '\x7b', '\x7d', '^', '$', '#', '&', '-',
    '~']

/-- The character with a code in hexadecimal digits. -/
def hexChar? (digits : List Char) : Option Char :=
  if digits.isEmpty then none else (Text.ofDigits? 16 digits).bind Text.scalar?

/-- A character by its code, of so many digits or in braces. -/
def readHex (digits : Nat) : List Char → Option (Char × List Char)
  | '\x7b' :: rest =>
    match rest.dropWhile (· != '\x7d') with
    | _ :: more => (hexChar? (rest.takeWhile (· != '\x7d'))).map fun c => (c, more)
    | [] => none
  | chars =>
    if chars.length < digits then none
    else (hexChar? (chars.take digits)).map fun c => (c, chars.drop digits)

/-- The characters that separate words, lines and paragraphs: the white space without the control
characters in it. -/
def separators : CharSet :=
  .diff .blank (.union (.range '\t' '\r') (.one '\u0085'))

/-- The class with a name. -/
def namedClass? (name : String) : Option CharSet :=
  if ["L", "Letter", "Alphabetic", "Alpha"].contains name then some .letter
  else if ["Lu", "Uppercase", "Upper", "Uppercase_Letter"].contains name then some .uppercase
  else if ["Nd", "Decimal_Number", "N"].contains name then some .digit
  else if ["White_Space", "space"].contains name then some .blank
  else if ["Z", "Separator"].contains name then some separators
  else if name = "Any" then some .all
  else none

/-- A class by its name, a letter or a name in braces. -/
def readClassName : List Char → Option (CharSet × List Char)
  | '\x7b' :: '^' :: rest => named true rest
  | '\x7b' :: rest => named false rest
  | c :: rest => (namedClass? c.toString).map fun s => (s, rest)
  | [] => none
where
  /-- A class by the name in front of a closing brace. -/
  named (negated : Bool) (rest : List Char) : Option (CharSet × List Char) :=
    match rest.dropWhile (· != '\x7d') with
    | _ :: more =>
      (namedClass? (String.ofList (rest.takeWhile (· != '\x7d')))).map fun s =>
        (if negated then .compl s else s, more)
    | [] => none

/-- The boundary with a name in braces after `b`, if there is one. -/
def readBoundary (rest : List Char) : Option (Anchor × List Char) :=
  match rest with
  | '\x7b' :: more =>
    let name := String.ofList (more.takeWhile (· != '\x7d'))
    let isName := name.toList.all fun c => c.isAlpha || c = '-'
    match more.dropWhile (· != '\x7d') with
    | _ :: after =>
      if name = "start" then some (.wordStart, after)
      else if name = "end" then some (.wordEnd, after)
      else if name = "start-half" then some (.wordStartHalf, after)
      else if name = "end-half" then some (.wordEndHalf, after)
      else if isName && !name.isEmpty then none
      else some (.wordBoundary, rest)
    | [] => some (.wordBoundary, rest)
  | _ => some (.wordBoundary, rest)

/-- An escape after its backslash. -/
def readEscape (spaced : Bool) : List Char → Option (Escape × List Char)
  | [] => none
  | c :: rest =>
    let set (s : CharSet) : Option (Escape × List Char) := some (.set s, rest)
    let char (d : Char) : Option (Escape × List Char) := some (.char d, rest)
    match c with
    | 'd' => set .digit
    | 'D' => set (.compl .digit)
    | 's' => set .blank
    | 'S' => set (.compl .blank)
    | 'w' => set .word
    | 'W' => set (.compl .word)
    | 'p' => (readClassName rest).map fun (s, rest) => (.set s, rest)
    | 'P' => (readClassName rest).map fun (s, rest) => (.set (.compl s), rest)
    | 'x' => (readHex 2 rest).map fun (d, rest) => (.char d, rest)
    | 'u' => (readHex 4 rest).map fun (d, rest) => (.char d, rest)
    | 'U' => (readHex 8 rest).map fun (d, rest) => (.char d, rest)
    | 'a' => char '\x07'
    | 'f' => char '\x0c'
    | 't' => char '\t'
    | 'n' => char '\n'
    | 'r' => char '\r'
    | 'v' => char '\x0b'
    | 'A' => some (.anchor .textStart, rest)
    | 'z' => some (.anchor .textEnd, rest)
    | 'b' => (readBoundary rest).map fun (a, rest) => (.anchor a, rest)
    | 'B' => some (.anchor .noWordBoundary, rest)
    | '<' => some (.anchor .wordStart, rest)
    | '>' => some (.anchor .wordEnd, rest)
    | _ =>
      if metaSigns.contains c then char c
      else if c = ' ' && !spaced then char c
      else if c.toNat < 128 && !c.isAlphanum then char c
      else none

/-! ### Sets -/

/-- The set with a name between colons. -/
def posixSet? (name : String) : Option CharSet :=
  let lower : CharSet := .range 'a' 'z'
  let upper : CharSet := .range 'A' 'Z'
  let alpha : CharSet := .union lower upper
  let digits : CharSet := .range '0' '9'
  match name with
  | "alnum" => some (.union alpha digits)
  | "alpha" => some alpha
  | "ascii" => some (.range '\x00' '\x7f')
  | "blank" => some (.union (.one ' ') (.one '\t'))
  | "cntrl" => some (.union (.range '\x00' '\x1f') (.one '\x7f'))
  | "digit" => some digits
  | "graph" => some (.range '!' '~')
  | "lower" => some lower
  | "print" => some (.range ' ' '~')
  | "punct" => some (.diff (.range '!' '~') (.union alpha digits))
  | "space" => some (.union (.range '\t' '\r') (.one ' '))
  | "upper" => some upper
  | "word" => some (.union (.union alpha digits) (.one '_'))
  | "xdigit" => some (.union digits (.union (.range 'a' 'f') (.range 'A' 'F')))
  | _ => none

/-- A set by its name after the opening bracket, if there is one. -/
def readPosix : List Char → Option (CharSet × List Char)
  | ':' :: rest =>
    let (negated, body) :=
      match rest with
      | '^' :: more => (true, more)
      | more => (false, more)
    let name := body.takeWhile Char.isAlpha
    match body.drop name.length with
    | ':' :: ']' :: after =>
      (posixSet? (String.ofList name)).map fun s => (if negated then .compl s else s, after)
    | _ => none
  | _ => none

/-- White space and comments, where they do not count. -/
def skipSpace : Bool → List Char → List Char
  | true, '#' :: rest => skipComment rest
  | true, c :: rest => if Text.isBlank c then skipSpace true rest else c :: rest
  | _, chars => chars
where
  /-- The rest after a comment. -/
  skipComment : List Char → List Char
    | '\n' :: rest => skipSpace true rest
    | _ :: rest => skipComment rest
    | [] => []

/-- An item of a set: a character or a class. -/
def readSetItem (spaced : Bool) : List Char → Option (Escape × List Char)
  | '\x5c' :: rest =>
    match readEscape spaced rest with
    | some (.anchor _, _) => none
    | other => other
  | c :: rest => some (.char c, rest)
  | [] => none

/-- The set that an item of a set stands for. -/
def itemSet : Escape → CharSet
  | .char c => .one c
  | .set s => s
  | .anchor _ => .none

/-- An item of a set, or a range of characters. -/
def readSetRange (spaced : Bool) (input : List Char) : Option (CharSet × List Char) := do
  let (first, rest) ← readSetItem spaced input
  match skipSpace spaced rest with
  | '-' :: more =>
    match skipSpace spaced more with
    | ']' :: _ | '-' :: _ | [] => some (itemSet first, skipSpace spaced rest)
    | after =>
      let (second, rest) ← readSetItem spaced after
      match first, second with
      | .char low, .char high => if low ≤ high then some (.range low high, rest) else none
      | _, _ => none
  | _ => some (itemSet first, rest)

/-- The operations between parts of a set. -/
def setOperation? : List Char → Option ((CharSet → CharSet → CharSet) × List Char)
  | '&' :: '&' :: rest => some (.inter, rest)
  | '-' :: '-' :: rest => some (CharSet.diff, rest)
  | '~' :: '~' :: rest => some (CharSet.symmDiff, rest)
  | _ => none

/-- The front of a set: whether it is negated, and the dashes or the bracket that stand for
themselves there. -/
def readSetFront (spaced : Bool) (input : List Char) : Bool × CharSet × List Char :=
  let (negated, body) :=
    match skipSpace spaced input with
    | '^' :: rest => (true, skipSpace spaced rest)
    | rest => (false, rest)
  let dashes := body.takeWhile (· = '-')
  let rest := body.drop dashes.length
  if dashes.isEmpty then
    match rest with
    | ']' :: more => (negated, .one ']', more)
    | _ => (negated, .none, rest)
  else (negated, .one '-', rest)

/-- The rest of a set up to its closing bracket. What stands before the last operation is held
with the operation, what comes after it is gathered. -/
def readSetBody (spaced : Bool) :
    Nat → Bool → Option (CharSet → CharSet) → CharSet → List Char → Option (CharSet × List Char)
  | 0, _, _, _, _ => none
  | fuel + 1, negated, held, gathered, input =>
    let close (s : CharSet) : CharSet :=
      let whole := (held.map fun f => f s).getD s
      if negated then .compl whole else whole
    match skipSpace spaced input with
    | [] => none
    | ']' :: rest => some (close gathered, rest)
    | '[' :: rest =>
      match readPosix rest with
      | some (s, rest) => readSetBody spaced fuel negated held (.union gathered s) rest
      | none => do
        let (inner, front, body) := readSetFront spaced rest
        let (s, rest) ← readSetBody spaced fuel inner none front body
        readSetBody spaced fuel negated held (.union gathered s) rest
    | chars =>
      match setOperation? chars with
      | some (operation, rest) =>
        let left := (held.map fun f => f gathered).getD gathered
        readSetBody spaced fuel negated (some (operation left)) .none rest
      | none => do
        let (s, rest) ← readSetRange spaced chars
        readSetBody spaced fuel negated held (.union gathered s) rest

/-- A set after its opening bracket. -/
def readSet (spaced : Bool) (input : List Char) : Option (CharSet × List Char) :=
  let (negated, front, body) := readSetFront spaced input
  readSetBody spaced (input.length + 1) negated none front body

/-! ### Repetition -/

/-- Decimal digits with white space around them, read as a number. -/
def readNumber (input : List Char) : Option (Nat × List Char) :=
  let input := input.dropWhile Text.isBlank
  let digits := input.takeWhile Char.isDigit
  let n := Text.natOfDigits digits
  if digits.isEmpty || 0x100000000 ≤ n then none
  else some (n, (input.drop digits.length).dropWhile Text.isBlank)

/-- Bounds in braces after the opening one. -/
def readBounds (spaced : Bool) (input : List Char) :
    Option ((Nat × Option Nat) × List Char) := do
  let (low, rest) ← readNumber (skipSpace spaced input)
  match skipSpace spaced rest with
  | '\x7d' :: rest => some ((low, some low), rest)
  | ',' :: rest =>
    match skipSpace spaced rest with
    | '\x7d' :: rest => some ((low, none), rest)
    | rest => do
      let (high, rest) ← readNumber rest
      match skipSpace spaced rest with
      | '\x7d' :: rest => if low ≤ high then some ((low, some high), rest) else none
      | _ => none
  | _ => none

/-- How often what stands before is repeated, if a sign for that comes next: no bounds where none
comes, and `none` where they are malformed. A question mark after the sign changes nothing. -/
def readRepetition (spaced : Bool) (input : List Char) :
    Option (Option (Nat × Option Nat) × List Char) :=
  let lazy (rest : List Char) : List Char :=
    match skipSpace spaced rest with
    | '?' :: more => more
    | _ => rest
  match skipSpace spaced input with
  | '*' :: rest => some (some (0, none), lazy rest)
  | '+' :: rest => some (some (1, none), lazy rest)
  | '?' :: rest => some (some (0, some 1), lazy rest)
  | '\x7b' :: rest => (readBounds spaced rest).map fun (bounds, rest) => (some bounds, lazy rest)
  | rest => some (none, rest)

/-- A pattern with all the repetitions after it. -/
def readRepetitions (spaced : Bool) : Nat → Pattern → List Char → Option (Pattern × List Char)
  | 0, _, _ => none
  | fuel + 1, p, input => do
    match ← readRepetition spaced input with
    | (some (low, high), rest) => readRepetitions spaced fuel (.repeated low high p) rest
    | (none, rest) => some (p, rest)

/-! ### Groups -/

/-- How a group begins. -/
inductive GroupStart where
  /-- A group with its own flags. -/
  | group (flags : Flags) (name : Option String)
  /-- Flags for the rest of the group around. -/
  | setFlags (flags : Flags)

/-- Flags up to a colon or a closing parenthesis. -/
def readFlags : Bool → Bool → Flags → List Char → Option (Bool × Flags × List Char)
  | _, _, _, [] => none
  | off, pending, flags, c :: rest =>
    match c with
    | ':' => if off && pending then none else some (true, flags, rest)
    | ')' => if off && pending then none else some (false, flags, rest)
    | '-' => if off then none else readFlags true true flags rest
    | 'i' => readFlags off false { flags with anyCase := !off } rest
    | 'm' => readFlags off false { flags with multiline := !off } rest
    | 's' => readFlags off false { flags with dotAll := !off } rest
    | 'x' => readFlags off false { flags with spaced := !off } rest
    | 'U' | 'u' | 'R' => readFlags off false flags rest
    | _ => none

/-- The name of a group up to a closing angle bracket. -/
def readGroupName (input : List Char) : Option (String × List Char) :=
  let name := input.takeWhile (· != '>')
  let starts := (name.head?.map fun c => c = '_' || c.isAlpha || Text.isIdentStart c).getD false
  let continues := name.all fun c =>
    c = '_' || c = '.' || c = '[' || c = ']' || c.isAlphanum || Text.isWordChar c
  match input.dropWhile (· != '>') with
  | _ :: rest => if starts && continues then some (String.ofList name, rest) else none
  | [] => none

/-- A group after its opening parenthesis. -/
def readGroupStart (flags : Flags) : List Char → Option (GroupStart × List Char)
  | '?' :: 'P' :: '<' :: rest =>
    (readGroupName rest).map fun (name, rest) => (.group flags (some name), rest)
  | '?' :: '<' :: '=' :: _ | '?' :: '<' :: '!' :: _ => none
  | '?' :: '<' :: rest =>
    (readGroupName rest).map fun (name, rest) => (.group flags (some name), rest)
  | '?' :: ')' :: _ => none
  | '?' :: rest =>
    (readFlags false false flags rest).map fun (group, flags, rest) =>
      (if group then .group flags none else .setFlags flags, rest)
  | rest => some (.group flags none, rest)

/-! ### Patterns -/

/-- The pattern of a character under flags. -/
def charPattern (flags : Flags) (c : Char) : Pattern :=
  .char flags.anyCase (.one c)

/-- The pattern of an escape under flags. -/
def escapePattern (flags : Flags) : Escape → Pattern
  | .char c => charPattern flags c
  | .set s => .char flags.anyCase s
  | .anchor a => .anchor a

/-- The pattern of a sign that stands for itself or for a class under flags. -/
def signPattern (flags : Flags) (c : Char) : Pattern :=
  match c with
  | '.' => .char false (if flags.dotAll then .all else .compl (.one '\n'))
  | '^' => .anchor (if flags.multiline then .lineStart else .textStart)
  | '$' => .anchor (if flags.multiline then .lineEnd else .textEnd)
  | c => charPattern flags c

/-- What has been read of a group: the alternatives so far and the sequence under way. -/
structure Group where
  alternatives : Option Pattern
  sequence : Pattern
  deriving Inhabited

/-- The group with an item added to its sequence. -/
def Group.push (group : Group) (p : Pattern) : Group :=
  match group.sequence with
  | .empty => { group with sequence := p }
  | s => { group with sequence := .concat s p }

/-- The group with its sequence closed. -/
def Group.close (group : Group) : Pattern :=
  match group.alternatives with
  | some a => .either a group.sequence
  | none => group.sequence

/-- The group with its sequence ended and another begun. -/
def Group.next (group : Group) : Group :=
  ⟨some group.close, .empty⟩

/-- The group with nothing in it. -/
def Group.start : Group := ⟨none, .empty⟩

/-- A pattern up to the end of the group around it, with the names of groups so far. Gives the
pattern, the names, and the rest with the closing parenthesis. -/
def readGroup : Nat → Flags → List String → Group → List Char →
    Option (Pattern × List String × List Char)
  | 0, _, _, _, _ => none
  | fuel + 1, flags, names, group, input =>
    let item (p : Pattern) (names : List String) (rest : List Char) :
        Option (Pattern × List String × List Char) := do
      let (p, rest) ← readRepetitions flags.spaced (rest.length + 1) p rest
      readGroup fuel flags names (group.push p) rest
    match skipSpace flags.spaced input with
    | [] => some (group.close, names, [])
    | ')' :: rest => some (group.close, names, ')' :: rest)
    | '|' :: rest => readGroup fuel flags names group.next rest
    | '*' :: _ | '+' :: _ | '?' :: _ | '\x7b' :: _ => none
    | '(' :: rest => do
      match ← readGroupStart flags (skipSpace flags.spaced rest) with
      | (.setFlags flags, rest) =>
        match ← readRepetition flags.spaced rest with
        | (some _, _) => none
        | (none, _) => readGroup fuel flags names group rest
      | (.group inner name, rest) =>
        if (name.map names.contains).getD false then none
        else
          match ← readGroup fuel inner (name.toList ++ names) .start rest with
          | (p, names, ')' :: rest) => item p names rest
          | _ => none
    | '[' :: rest => do
      let (s, rest) ← readSet flags.spaced rest
      item (.char flags.anyCase s) names rest
    | '\x5c' :: rest => do
      let (e, rest) ← readEscape flags.spaced rest
      item (escapePattern flags e) names rest
    | c :: rest => item (signPattern flags c) names rest

/-- Read a pattern, `none` where it is malformed. -/
def read? (text : String) : Option Pattern :=
  let chars := text.toList
  match readGroup (2 * chars.length + 2) .standard [] .start chars with
  | some (p, _, []) => some p
  | _ => none

/-- How the text of a pattern is understood: the texts that match it, or nothing where it is
malformed. -/
abbrev Matcher := String → Option (String → Bool)

/-- Patterns as they are read here. -/
def matcher : Matcher := fun text => (read? text).map isMatch

end ParamChain.Pattern
