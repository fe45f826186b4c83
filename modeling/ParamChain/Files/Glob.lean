/-
This file holds glob patterns for paths. A pattern is matched against the bytes of a whole path.
A star and a question mark match within one name, two stars that fill a name match any number of
names, brackets match one of a set of bytes and braces one of several patterns.
-/

namespace ParamChain.Files

/-- A piece of a glob pattern. -/
inductive GlobToken where
  | literal (c : Char)
  /-- Any byte but a slash. -/
  | any
  /-- Any run of bytes without a slash. -/
  | star
  /-- Two stars at the front. -/
  | leadingStars
  /-- Two stars at the end. -/
  | trailingStars
  /-- Two stars between slashes. -/
  | innerStars
  | set (negated : Bool) (ranges : List (Char × Char))
  | alternatives (branches : List (List GlobToken))
  deriving Repr, Inhabited

/-- A glob pattern. -/
abbrev Glob := List GlobToken

namespace Glob

/-! ### Reading patterns -/

/-- The state of reading: the branches of each open brace from the inside out, each with the
tokens read so far in reverse, and the character before. -/
structure Reading where
  /-- The tokens of the branch under way, in reverse. -/
  tokens : List GlobToken
  /-- For each open brace, the branches read before, in reverse, and the tokens around it. -/
  braces : List (List (List GlobToken) × List GlobToken)
  previous : Option Char
  deriving Inhabited

/-- Whether there is no character, or it is a slash. -/
def slashOrEnd : Option Char → Bool
  | none => true
  | some c => c = '/'

/-- Two stars, where `next` follows them. Gives the tokens after them and how many characters of
what follows are taken. -/
def doubleStar (r : Reading) (next : Option Char) : List GlobToken × Nat :=
  let plain := (.star :: .star :: r.tokens, 0)
  let inBraces := !r.braces.isEmpty
  if r.tokens.isEmpty then
    if slashOrEnd next then (.leadingStars :: r.tokens, if next.isSome then 1 else 0) else plain
  else if r.previous != some '/' &&
      !(inBraces && (r.previous == some ',' || r.previous == some '\x7b')) then plain
  else
    let isEnd := next.isNone || (inBraces && (next == some ',' || next == some '\x7d'))
    if !isEnd && next != some '/' then plain
    else
      let taken := if isEnd then 0 else 1
      match r.tokens with
      | .leadingStars :: rest => (.leadingStars :: rest, taken)
      | .trailingStars :: rest => (.trailingStars :: rest, taken)
      | _ :: rest => ((if isEnd then .trailingStars else .innerStars) :: rest, taken)
      | [] => plain

/-- The ranges of a set from its opening bracket on, in reverse, with the rest after it: `none`
where a range runs backwards, and no rest where the set is not closed. -/
def setRanges : Bool → Bool → List (Char × Char) → List Char →
    Option (List (Char × Char) × Option (List Char))
  | _, _, ranges, [] => some (ranges, none)
  | first, pending, ranges, c :: rest =>
    if c = ']' && !first then
      some (if pending then ('-', '-') :: ranges else ranges, some rest)
    else if c = '-' && !first && !pending then setRanges false true ranges rest
    else if pending then
      match ranges with
      | (low, _) :: more =>
        if c < low then none else setRanges false false ((low, c) :: more) rest
      | [] => setRanges false false [(c, c)] rest
    else setRanges false false ((c, c) :: ranges) rest

/-- A set after its opening bracket: its token with the rest after it, no token where it is not
closed, and `none` where a range runs backwards. -/
def readSet (input : List Char) : Option (Option (GlobToken × List Char)) :=
  let (negated, body) :=
    match input with
    | '!' :: rest | '^' :: rest => (true, rest)
    | rest => (false, rest)
  match setRanges true false [] body with
  | none => none
  | some (_, none) => some none
  | some (ranges, some rest) => some (some (.set negated ranges.reverse, rest))

/-- Read a pattern. Where `lenient` is true, a bracket that is not closed stands for itself and
so do the brackets after it. -/
def readFrom (lenient : Bool) : Nat → Bool → Reading → List Char → Option Glob
  | 0, _, _, _ => none
  | _ + 1, _, r, [] => if r.braces.isEmpty then some r.tokens.reverse else none
  | fuel + 1, brackets, r, c :: rest =>
    let push (t : GlobToken) : Reading := { r with tokens := t :: r.tokens, previous := some c }
    match c with
    | '?' => readFrom lenient fuel brackets (push .any) rest
    | '*' =>
      match rest with
      | '*' :: rest =>
        let (tokens, taken) := doubleStar r rest.head?
        let previous := if taken = 1 then some '/' else some '*'
        readFrom lenient fuel brackets { r with tokens := tokens, previous := previous }
          (rest.drop taken)
      | _ => readFrom lenient fuel brackets (push .star) rest
    | '[' =>
      if !brackets then readFrom lenient fuel brackets (push (.literal c)) rest
      else
        match readSet rest with
        | none => none
        | some none =>
          if lenient then readFrom lenient fuel false (push (.literal c)) rest else none
        | some (some (token, rest)) =>
          readFrom lenient fuel brackets
            { r with tokens := token :: r.tokens, previous := some ']' } rest
    | '\x7b' =>
      readFrom lenient fuel brackets ⟨[], ([], r.tokens) :: r.braces, some c⟩ rest
    | '\x7d' =>
      match r.braces with
      | [] => none
      | (branches, around) :: outer =>
        let all := (r.tokens.reverse :: branches).reverse
        readFrom lenient fuel brackets ⟨.alternatives all :: around, outer, some c⟩ rest
    | ',' =>
      match r.braces with
      | [] => readFrom lenient fuel brackets (push (.literal c)) rest
      | (branches, around) :: outer =>
        readFrom lenient fuel brackets
          ⟨[], (r.tokens.reverse :: branches, around) :: outer, some c⟩ rest
    | '\x5c' =>
      match rest with
      | [] => none
      | d :: rest =>
        readFrom lenient fuel brackets
          { r with tokens := .literal d :: r.tokens, previous := some d } rest
    | _ => readFrom lenient fuel brackets (push (.literal c)) rest

/-- Read a pattern, `none` where it is malformed. -/
def read? (lenient : Bool) (text : String) : Option Glob :=
  let chars := text.toList
  readFrom lenient (chars.length + 1) true ⟨[], [], none⟩ chars

/-! ### Matching -/

/-- The bytes of a character. -/
def bytesOf (c : Char) : List UInt8 :=
  c.toString.toUTF8.toList

/-- Whether a byte lies in a range of characters. A character of several bytes stands for the set
of them. -/
def inRange (b : UInt8) (range : Char × Char) : Bool :=
  let low := bytesOf range.1
  let high := bytesOf range.2
  if range.1 = range.2 then low.contains b
  else
    low.dropLast.contains b || high.tail.contains b ||
      (low.getLast?.getD 0 ≤ b && b ≤ high.head?.getD 0)

/-- The slash between two names. -/
def slash : UInt8 := 47

/-- What is left after a list of bytes at the front. -/
def dropBytes : List UInt8 → List UInt8 → Option (List UInt8)
  | [], rest => some rest
  | b :: more, c :: rest => if b = c then dropBytes more rest else none
  | _ :: _, [] => none

/-- The ends of a list that begin right after a slash. -/
def afterSlashes : List UInt8 → List (List UInt8)
  | [] => []
  | b :: rest => if b = slash then rest :: afterSlashes rest else afterSlashes rest

/-- The ends of a list that begin before the first slash or at it. -/
def withinName : List UInt8 → List (List UInt8)
  | [] => [[]]
  | b :: rest => if b = slash then [b :: rest] else (b :: rest) :: withinName rest

/-- The ends of a list. -/
def tails : List UInt8 → List (List UInt8)
  | [] => [[]]
  | b :: rest => (b :: rest) :: tails rest

/-- What can be left of the bytes after something at their front. -/
abbrev Remains := List (List UInt8)

/-- Remains without repetition, told apart by their lengths. -/
def distinct (remains : Remains) : Remains :=
  (remains.foldl
    (fun (kept : Remains) r => if kept.any fun k => k.length == r.length then kept else r :: kept)
    []).reverse

mutual

/-- What can be left after a token at the front. -/
def remainsAfter (bytes : List UInt8) : GlobToken → Remains
  | .literal c => (dropBytes (bytesOf c) bytes).toList
  | .any =>
    match bytes with
    | b :: rest => if b = slash then [] else [rest]
    | [] => []
  | .star => withinName bytes
  | .leadingStars => bytes :: afterSlashes bytes
  | .trailingStars =>
    match bytes with
    | b :: rest => if b = slash then tails rest else []
    | [] => []
  | .innerStars =>
    match bytes with
    | b :: rest => if b = slash then rest :: afterSlashes rest else []
    | [] => []
  | .set negated ranges =>
    match bytes with
    | b :: rest => if ranges.any (inRange b) != negated then [rest] else []
    | [] => []
  | .alternatives branches =>
    if branches.all List.isEmpty then [bytes] else remainsAfterBranches bytes branches

/-- What can be left after one of several patterns. A branch without tokens does not count. -/
def remainsAfterBranches (bytes : List UInt8) : List (List GlobToken) → Remains
  | [] => []
  | branch :: rest =>
    (if branch.isEmpty then [] else remainsAfterAll [bytes] branch) ++
      remainsAfterBranches bytes rest

/-- What can be left after tokens one after the other. -/
def remainsAfterAll (remains : Remains) : List GlobToken → Remains
  | [] => remains
  | token :: rest =>
    remainsAfterAll (distinct (remains.flatMap fun r => remainsAfter r token)) rest

end

/-- Whether a pattern matches a whole path. Two stars alone match everything. -/
def isMatch (glob : Glob) (path : String) : Bool :=
  match glob with
  | [.leadingStars] => true
  | tokens => (remainsAfterAll [path.toUTF8.toList] tokens).any List.isEmpty

end Glob

end ParamChain.Files
