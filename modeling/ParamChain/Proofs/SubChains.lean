import ParamChain.Proofs.Reduction

/-
This file proves that one stack being a run inside a longer one is a strict order, and that it can
be found out by looking at windows.

A window is as many neighbouring keys as the shorter stack has, and the scan compares one window
after the other with it. A stack that is not shorter has no window of that length other than itself,
and the empty stack asks for windows without keys, of which there are none to look at. Both are
answered before the scan begins, so that the windows always have a length to go by. Then every run
of that length begins somewhere and ends inside the stack, which makes it one of the windows.
-/

namespace ParamChain.Chain

/-! ### Windows -/

/-- The runs of `size` neighbouring keys in a stack, from the first to the last. Windows without
keys cannot be asked for. -/
def windows? (size : Nat) (stack : List String) : Option (List (List String)) :=
  if size = 0 then none
  else some ((List.range (stack.length + 1 - size)).map fun offset =>
    (stack.drop offset).take size)

/-- Whether one stack is a run inside another that is longer, found out by the windows of its
length. There is no answer if the windows cannot be asked for. -/
def scan? (sub main : List String) : Option Bool :=
  if main.length ≤ sub.length then some false
  else if sub.isEmpty then some true
  else (windows? sub.length main).map fun windows => windows.any (· == sub)

/-- A run begins at an offset that leaves room for it, and each such offset has its run. -/
theorem mem_windows_iff {windows : List (List String)} {size : Nat} {stack run : List String}
    (found : windows? size stack = some windows) :
    run ∈ windows ↔ run.length = size ∧ run <:+: stack := by
  have positive : size ≠ 0 := by
    rintro rfl
    cases found
  rw [windows?, if_neg positive, Option.some.injEq] at found
  rw [← found, List.mem_map]
  constructor
  · rintro ⟨offset, inside, rfl⟩
    rw [List.mem_range] at inside
    refine ⟨?_, (List.take_prefix _ _).isInfix.trans (List.drop_suffix _ _).isInfix⟩
    rw [List.length_take, List.length_drop]
    omega
  · rintro ⟨rfl, before, after, rfl⟩
    refine ⟨before.length, ?_, ?_⟩
    · rw [List.mem_range, List.length_append, List.length_append]
      omega
    · rw [List.append_assoc, List.drop_left, List.take_left]

/-- The scan always has an answer, and it is the right one. -/
theorem scan?_eq (sub main : List String) : scan? sub main = some (isSubChainOf sub main) := by
  unfold scan?
  split
  · next notShorter =>
    rw [isSubChainOf, decide_eq_false (Nat.not_lt_of_le notShorter), Bool.false_and]
  · next shorter =>
    rw [Nat.not_le] at shorter
    split
    · next empty =>
      obtain rfl := List.isEmpty_iff.1 empty
      exact congrArg some (isSubChainOf_iff.2 ⟨shorter, List.nil_infix⟩).symm
    · next nonempty =>
      have sized : sub.length ≠ 0 := fun none => nonempty (List.isEmpty_iff_length_eq_zero.2 none)
      obtain ⟨windows, found⟩ : ∃ windows, windows? sub.length main = some windows :=
        ⟨_, if_neg sized⟩
      rw [found, Option.map_some, Option.some.injEq, Bool.eq_iff_iff, isSubChainOf_iff,
        List.any_beq', List.contains_iff_mem, mem_windows_iff found]
      rw [and_iff_right rfl, and_iff_right shorter]

/-! ### A strict order -/

theorem not_isSubChainOf_self (stack : List String) : ¬ isSubChainOf stack stack := by
  intro inside
  exact Nat.lt_irrefl _ (isSubChainOf_iff.1 inside).1

theorem isSubChainOf_trans {first second third : List String} (inner : isSubChainOf first second)
    (outer : isSubChainOf second third) : isSubChainOf first third := by
  obtain ⟨shorter, run⟩ := isSubChainOf_iff.1 inner
  obtain ⟨shorter', run'⟩ := isSubChainOf_iff.1 outer
  exact isSubChainOf_iff.2 ⟨Nat.lt_trans shorter shorter', run.trans run'⟩

/-- One stack is a sub-chain of another when it is shorter and stands in it with something before
and after it, if only with nothing. No stack is a sub-chain of itself, and what is a sub-chain of a
sub-chain is one of the whole. The scan of windows gives this answer for all stacks, and so is never
left without windows to look at. -/
theorem subChains_strictly_ordered :
    (∀ sub main, isSubChainOf sub main ↔
        sub.length < main.length ∧ ∃ before after, main = before ++ sub ++ after) ∧
      (∀ stack, ¬ isSubChainOf stack stack) ∧
      (∀ first second third, isSubChainOf first second → isSubChainOf second third →
        isSubChainOf first third) ∧
      ∀ sub main, scan? sub main = some (isSubChainOf sub main) := by
  refine ⟨fun sub main => ?_, not_isSubChainOf_self, fun _ _ _ => isSubChainOf_trans, scan?_eq⟩
  rw [isSubChainOf_iff]
  refine and_congr_right fun _ => exists_congr fun before => exists_congr fun after => ?_
  exact eq_comm

/-- A stack of three holds the last two of its keys, and these hold nothing, which the whole then
holds as well. -/
theorem nothing_inside_all :
    isSubChainOf [] ["check", "log"] ∧ isSubChainOf ["check", "log"] ["read", "check", "log"] ∧
      isSubChainOf [] ["read", "check", "log"] ∧
      scan? ["check", "log"] ["read", "check", "log"] = some true := by
  have inner : isSubChainOf [] ["check", "log"] := by decide
  have outer : isSubChainOf ["check", "log"] ["read", "check", "log"] := by decide
  obtain ⟨-, -, trans, scanned⟩ := subChains_strictly_ordered
  exact ⟨inner, outer, trans _ _ _ inner outer, (scanned _ _).trans (congrArg some outer)⟩

end ParamChain.Chain
