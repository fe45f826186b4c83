import ParamChain.Chain.Explore

/-
This file holds the reduction of chains to the maximal ones. A chain whose call stack is a run
inside a longer stack says nothing new, and neither does a second chain with the same stack.
Longer chains are looked at first, so what could swallow a chain has been kept before it.
-/

namespace ParamChain.Chain

/-- Whether `run` stands somewhere in the list, its elements one after the other. -/
def occursIn (run : List String) : List String → Bool
  | [] => run.isEmpty
  | key :: rest => run.isPrefixOf (key :: rest) || occursIn run rest

/-- Whether a stack is a run inside a strictly longer one. -/
def isSubChainOf (sub main : List String) : Bool :=
  decide (sub.length < main.length) && occursIn sub main

/-- Whether a kept chain makes this one superfluous. Stacks are compared as joined text. -/
def isCovered (kept : List CallChain) (c : CallChain) : Bool :=
  kept.any (fun k => isSubChainOf c.callStack k.callStack) ||
    kept.any (fun k => Text.join "->" k.callStack == Text.join "->" c.callStack)

/-- Keep, from the front, every chain that no chain kept before it covers. -/
def keepUncovered (kept : List CallChain) : List CallChain → List CallChain
  | [] => kept
  | c :: rest => keepUncovered (if isCovered kept c then kept else kept ++ [c]) rest

/-- The maximal chains, longest first, equally long ones in the order they were found. -/
def reduceChains (chains : List CallChain) : List CallChain :=
  keepUncovered [] (chains.mergeSort fun a b => b.callStack.length ≤ a.callStack.length)

end ParamChain.Chain
