import ParamChain.Files.Glob
import ParamChain.Text.Blank

/-
This file holds the rules by which files are left out. A rule is a line: a glob pattern for paths
below the place of the rule. A pattern with a slash in front or inside is for whole paths, any
other for names at any depth; a slash at the end confines a rule to directories, and an
exclamation mark in front turns it around. Of several rules that match, the last one counts.
-/

namespace ParamChain.Files

/-- What a rule says about a path that it matches. -/
inductive Verdict where
  | ignored
  | kept
  deriving DecidableEq, Repr, Inhabited

/-- The opposite verdict. -/
def Verdict.inverse : Verdict → Verdict
  | .ignored => .kept
  | .kept => .ignored

/-- A rule. -/
structure IgnoreRule where
  glob : Glob
  verdict : Verdict
  directoriesOnly : Bool
  deriving Repr, Inhabited

namespace IgnoreRule

/-- A line without the white space at its end. A space after a backslash stays, and then so does
all before it. -/
def trimEnd (line : List Char) : List Char :=
  match line.reverse with
  | ' ' :: '\x5c' :: _ => line
  | reversed => (reversed.dropWhile Text.isBlank).reverse

/-- The verdict of a line, whether it begins with a slash, and its pattern. -/
def splitFront : List Char → Verdict × Bool × List Char
  | '\x5c' :: '!' :: rest => (.ignored, false, '!' :: rest)
  | '\x5c' :: '#' :: rest => (.ignored, false, '#' :: rest)
  | '!' :: '/' :: rest => (.kept, true, rest)
  | '!' :: rest => (.kept, false, rest)
  | '/' :: rest => (.ignored, true, rest)
  | line => (.ignored, false, line)

/-- Whether a pattern ends with a slash, and the pattern without it and without a backslash that
stood before it. -/
def splitBack (pattern : List Char) : Bool × List Char :=
  match pattern.reverse with
  | '/' :: '\x5c' :: rest => (true, rest.reverse)
  | '/' :: rest => (true, rest.reverse)
  | _ => (false, pattern)

/-- The pattern that is matched: one for names alone stands at any depth, and one that ends with
two stars does not match the directory itself. -/
def complete (anchored : Bool) (pattern : List Char) : List Char :=
  let stars := ['*', '*']
  let deep :=
    if !anchored && !pattern.contains '/' && pattern != stars then stars ++ '/' :: pattern
    else pattern
  if ('/' :: stars).isSuffixOf deep then deep ++ ['/', '*'] else deep

/-- The rule of a line: `none` where its pattern is malformed, and no rule where the line is
empty or a comment. -/
def ofLine? (lenient : Bool) (line : String) : Option (Option IgnoreRule) :=
  let chars := line.toList
  if chars.head? = some '#' then some none
  else
    let trimmed := trimEnd chars
    if trimmed.isEmpty then some none
    else
      let (verdict, anchored, front) := splitFront trimmed
      let (directoriesOnly, pattern) := splitBack front
      (Glob.read? lenient (String.ofList (complete anchored pattern))).map fun glob =>
        some ⟨glob, verdict, directoriesOnly⟩

/-- The verdict of the last rule that matches a path. -/
def verdict? (rules : List IgnoreRule) (path : String) (directory : Bool) : Option Verdict :=
  (rules.reverse.find? fun r => (!r.directoriesOnly || directory) && r.glob.isMatch path).map
    IgnoreRule.verdict

/-! ### Rules in files -/

/-- The lines of a file, without a carriage return at their ends. The line under way is held in
reverse. -/
def linesOf : List UInt8 → List UInt8 → List (List UInt8)
  | line, [] => if line.isEmpty then [] else [line.reverse]
  | line, b :: rest =>
    if b = 10 then
      (match line with
        | 13 :: more => more.reverse
        | _ => line.reverse) :: linesOf [] rest
    else linesOf (b :: line) rest

/-- The lines up to the first that is no text. -/
def textLines : List (List UInt8) → List String
  | [] => []
  | line :: rest =>
    match String.fromUTF8? ⟨line.toArray⟩ with
    | some text => text :: textLines rest
    | none => []

/-- The rules of a file. Lines with a malformed pattern are passed over, and so are byte order
marks at the start. -/
def ofBytes (content : ByteArray) : List IgnoreRule :=
  let lines :=
    match textLines (linesOf [] content.toList) with
    | [] => []
    | line :: rest => String.ofList (line.toList.dropWhile (· == '\uFEFF')) :: rest
  lines.filterMap fun line => (ofLine? true line).join

end IgnoreRule

end ParamChain.Files
