import ParamChain.Text.Blank
import ParamChain.Text.CaseFold
import ParamChain.Text.Identifier
import ParamChain.Text.Uppercase
import ParamChain.Text.WordChar

/-
This file holds regular expressions and what they match. A pattern is matched against a stretch of
a text; the ends of all stretches that begin at one place and match are collected, so repetition
needs no backtracking and every pattern is decided on every text.
-/

namespace ParamChain.Pattern

/-- A set of characters. -/
inductive CharSet where
  | range (low high : Char)
  | word
  | digit
  | blank
  | letter
  | uppercase
  | all
  | none
  | union (a b : CharSet)
  | inter (a b : CharSet)
  | compl (a : CharSet)
  deriving Repr, Inhabited

namespace CharSet

/-- The set of one character. -/
def one (c : Char) : CharSet := .range c c

/-- The characters of one set that are not in another. -/
def diff (a b : CharSet) : CharSet := .inter a (.compl b)

/-- The characters of exactly one of two sets. -/
def symmDiff (a b : CharSet) : CharSet := .union (diff a b) (diff b a)

/-- Whether a character is in a set. In any case means that a range and a class hold a character
when they hold one that differs from it only in case. -/
def mem (anyCase : Bool) (c : Char) : CharSet → Bool
  | .range low high => variants.any fun d => low ≤ d && d ≤ high
  | .word => Text.isWordChar c
  | .digit => Text.isDecimalDigit c
  | .blank => Text.isBlank c
  | .letter => variants.any Text.isIdentStart
  | .uppercase => variants.any Text.isUppercase
  | .all => true
  | .none => false
  | .union a b => a.mem anyCase c || b.mem anyCase c
  | .inter a b => a.mem anyCase c && b.mem anyCase c
  | .compl a => !a.mem anyCase c
where
  /-- The character and those that count as it. -/
  variants : List Char := if anyCase then Text.caseVariants c else [c]

end CharSet

/-- A condition on a place in a text. -/
inductive Anchor where
  | textStart
  | textEnd
  | lineStart
  | lineEnd
  | wordBoundary
  | noWordBoundary
  | wordStart
  | wordEnd
  | wordStartHalf
  | wordEndHalf
  deriving DecidableEq, Repr, Inhabited

end Pattern

/-- A regular expression. -/
inductive Pattern where
  | empty
  /-- A character of a set, in any case if so asked. -/
  | char (anyCase : Bool) (set : Pattern.CharSet)
  | anchor (a : Pattern.Anchor)
  | concat (a b : Pattern)
  | either (a b : Pattern)
  /-- At least `low` times, and at most `high` times if that is given. -/
  | repeated (low : Nat) (high : Option Nat) (a : Pattern)
  deriving Repr, Inhabited

namespace Pattern

/-- Whether the character at a place, if there is one, can be part of a word. -/
def wordAt (text : Array Char) (place : Option Nat) : Bool :=
  ((place.bind fun i => text[i]?).map Text.isWordChar).getD false

/-- Whether a condition holds at a place. -/
def Anchor.holds (text : Array Char) (i : Nat) : Anchor → Bool
  | .textStart => i = 0
  | .textEnd => i = text.size
  | .lineStart => i = 0 || text[i - 1]? = some '\n'
  | .lineEnd => i = text.size || text[i]? = some '\n'
  | .wordBoundary => before text i != wordAt text (some i)
  | .noWordBoundary => before text i == wordAt text (some i)
  | .wordStart => !before text i && wordAt text (some i)
  | .wordEnd => before text i && !wordAt text (some i)
  | .wordStartHalf => !before text i
  | .wordEndHalf => !wordAt text (some i)
where
  /-- Whether the character before a place can be part of a word. -/
  before (text : Array Char) (i : Nat) : Bool :=
    i != 0 && wordAt text (some (i - 1))

/-- Places without repetition. -/
def distinct (places : List Nat) : List Nat :=
  places.eraseDups

/-- The places reached from some places by a step, exactly `n` times. -/
def stepTimes (step : Nat → List Nat) : Nat → List Nat → List Nat
  | 0, places => places
  | n + 1, places => stepTimes step n (distinct (places.flatMap step))

/-- The places reached from some places by a step, at most `n` times. -/
def stepUpTo (step : Nat → List Nat) : Nat → List Nat → List Nat
  | 0, places => places
  | n + 1, places =>
    let next := distinct (places ++ places.flatMap step)
    if next.length = places.length then places else stepUpTo step n next

/-- The ends of the stretches that begin at a place and match. -/
def ends (text : Array Char) : Pattern → Nat → List Nat
  | .empty, i => [i]
  | .char anyCase set, i =>
    match text[i]? with
    | some c => if set.mem anyCase c then [i + 1] else []
    | none => []
  | .anchor a, i => if a.holds text i then [i] else []
  | .concat a b, i => distinct ((ends text a i).flatMap (ends text b))
  | .either a b, i => distinct (ends text a i ++ ends text b i)
  | .repeated low high a, i =>
    let started := stepTimes (ends text a) low [i]
    match high with
    | some high => stepUpTo (ends text a) (high - low) started
    | none => stepUpTo (ends text a) (text.size + 1) started

/-- Whether a pattern matches some stretch of a text. -/
def isMatch (p : Pattern) (text : String) : Bool :=
  let chars := text.toList.toArray
  (List.range (chars.size + 1)).any fun i => !(ends chars p i).isEmpty

end Pattern

end ParamChain
