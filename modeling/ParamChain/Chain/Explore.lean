import ParamChain.Chain.ArgMultiset
import ParamChain.Chain.Index
import ParamChain.Text.Blank

/-
This file holds the search for chains. From a declaration and one of its calls the search goes
down the call graph, carrying the arguments shared so far. A path ends at a declaration whose
calls lead nowhere; of the paths below a call the longest is the chain of that call, and of
equally long ones the first.

Three guards prune the search: at most so many calls may lie between the first and the last
declaration, a path on which fewer than three arguments are shared is given up, and a declaration
whose key stands on the path twice is not entered again. The last guard alone makes every path
finite, which is why a cycle of calls does no harm.
-/

namespace ParamChain.Chain

/-- The fewest shared arguments that are worth a struct. -/
def minSharedArgs : Nat := 3

/-- How often one key may stand on a path. -/
def maxKeyRepeats : Nat := 2

/-- A path of calls from a first declaration to a leaf, with the arguments all of it shares. -/
structure CallChain where
  callStack : List String
  sharedArgs : ArgMultiset
  leaf : FunctionDecl
  deriving Inhabited

/-- The recommendation that a chain stands for. -/
def CallChain.message (c : CallChain) : String :=
  "make struct with arguments: " ++ Text.join ", " c.sharedArgs.expanded ++
    ", for call stack: " ++ Text.join " -> " c.callStack

/-- The first of the longest chains. -/
def firstLongest : List CallChain → Option CallChain
  | [] => none
  | c :: rest =>
    match firstLongest rest with
    | some best => if c.callStack.length < best.callStack.length then some best else some c
    | none => some c

/-- The chain of a call to `callee` at the end of the path `stack`, if there is one. At most
`remaining` declarations may still be entered, and `inherited` is shared so far. -/
def descend (index : Index) : Nat → Signature → ArgMultiset → List String → Option CallChain
  | 0, _, _, _ => none
  | remaining + 1, callee, inherited, stack =>
    let path := stack ++ [callee.key]
    let shared := inherited.intersect (ArgMultiset.ofParams callee.decl.params)
    if shared.total < minSharedArgs then none
    else
      match index.edges callee.decl with
      | [] => some ⟨path, shared, callee.decl⟩
      | next =>
        firstLongest <|
          (next.filter fun s => path.count s.key < maxKeyRepeats).filterMap fun s =>
            descend index remaining s shared path

/-- The chain of a call at a given depth under a depth ceiling. A call made by the first
declaration of a path has depth one. -/
def descendAt (index : Index) (ceiling depth : Nat) (callee : Signature)
    (inherited : ArgMultiset) (stack : List String) : Option CallChain :=
  descend index (ceiling + 1 - depth) callee inherited stack

/-- The chains that start at one declaration, one for each of its calls that has one. -/
def exploreRoot (index : Index) (ceiling : Nat) (root : Signature) : List CallChain :=
  (index.edges root.decl).filterMap fun callee =>
    descendAt index ceiling 1 callee (ArgMultiset.ofParams root.decl.params) [root.key]

/-- The chains of all declarations, in the order of the declarations and their calls. -/
def exploreAll (index : Index) (ceiling : Nat) : List CallChain :=
  index.roots.flatMap (exploreRoot index ceiling)

end ParamChain.Chain
