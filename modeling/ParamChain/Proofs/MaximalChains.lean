import Mathlib.Data.List.Permutation
import ParamChain.Proofs.KeyedSort
import ParamChain.Proofs.ReductionLaws

/-
This file says which chains the reduction keeps, by their places among the chains that were found.
Where no key holds an arrow, the chain at a place is kept exactly if its stack is not a run inside a
longer one, found anywhere, and no chain at an earlier place has the same stack. The kept chains
stand in the order of their lengths, longest first, and equally long ones in the order of their
places. The loop compares a chain with those kept before it only, and compares joined texts where it
looks for equal stacks; that this comes to the same rests on the sort and on the missing arrows.

One case needs nothing of the keys: if the stack of one chain has all others as runs, one chain is
kept, and it has that stack.
-/

namespace ParamChain.Chain

/-! ### Places -/

section Places

variable {Item Key : Type} [DecidableEq Key] {key : Item → Key}

/-- The items whose key stands at no earlier place, with their places. -/
def firstPlaces (key : Item → Key) (items : List Item) : List (Item × Nat) :=
  items.zipIdx.filter fun p => key p.1 ∉ (items.take p.2).map key

theorem mem_firstPlaces {items : List Item} {item : Item} {place : Nat} :
    (item, place) ∈ firstPlaces key items ↔
      items[place]? = some item ∧
        ∀ earlier other, earlier < place → items[earlier]? = some other → key other ≠ key item := by
  rw [firstPlaces, List.mem_filter, List.mem_zipIdx_iff_getElem?, decide_eq_true_iff, List.mem_map,
    not_exists]
  refine and_congr_right fun _ => ?_
  constructor
  · intro fresh earlier other before found same
    refine fresh other ⟨?_, same⟩
    exact List.mem_of_getElem? ((List.getElem?_take_of_lt before).trans found)
  · rintro first other ⟨member, same⟩
    obtain ⟨earlier, bound, rfl⟩ := List.mem_take_iff_getElem.1 member
    exact first earlier _ (by omega) (List.getElem?_eq_getElem (by omega)) same

theorem firstPlaces_ascending (items : List Item) :
    (firstPlaces key items).Pairwise fun a b => a.2 < b.2 :=
  (zipIdx_ascending items).filter _

/-- The items at these places are the first of each key. -/
theorem map_fst_firstPlaces (items : List Item) :
    (firstPlaces key items).map Prod.fst = firstsBy key items := by
  induction items using List.reverseRecOn with
  | nil => rfl
  | append_singleton before last inductionHypothesis =>
    have earlier : before.zipIdx.filter (fun p => key p.1 ∉ ((before ++ [last]).take p.2).map key) =
        firstPlaces key before := by
      refine List.filter_congr fun p member => ?_
      rw [List.take_append_of_le_length (List.snd_lt_of_mem_zipIdx member).le]
    rw [firstPlaces, List.zipIdx_append, List.filter_append, earlier, List.map_append,
      inductionHypothesis, firstsBy_append, Nat.zero_add, List.zipIdx_singleton]
    refine congrArg _ ?_
    rw [firstsBy, firstsBy, List.filter_nil, List.filter_singleton, List.filter_singleton,
      List.take_left]
    cases decide (key last ∉ before.map key) <;> rfl

end Places

/-! ### The chains to keep -/

/-- The chain at a place is one to keep: its stack is not a run inside a longer one and stands at no
earlier place. -/
structure Survives (chains : List CallChain) (c : CallChain) (place : Nat) : Prop where
  found : chains[place]? = some c
  maximal : ∀ k ∈ chains,
    ¬ (c.callStack.length < k.callStack.length ∧ c.callStack <:+: k.callStack)
  first : ∀ earlier d, earlier < place → chains[earlier]? = some d → d.callStack ≠ c.callStack

/-- The chains to keep with their places, in the order they came in. -/
def survivors (chains : List CallChain) : List (CallChain × Nat) :=
  (firstPlaces CallChain.callStack chains).filter fun p => isMaximalIn chains p.1

theorem mem_survivors {chains : List CallChain} {c : CallChain} {place : Nat} :
    (c, place) ∈ survivors chains ↔ Survives chains c place := by
  rw [survivors, List.mem_filter, mem_firstPlaces, isMaximalIn_iff]
  constructor
  · rintro ⟨⟨found, first⟩, maximal⟩
    exact ⟨found, maximal, first⟩
  · intro survives
    exact ⟨⟨survives.found, survives.first⟩, survives.maximal⟩

/-- Chains with their places, longest first, equally long ones in the order they came in. -/
def longestPlacesFirst (places : List (CallChain × Nat)) : List (CallChain × Nat) :=
  places.mergeSort fun a b => b.1.callStack.length ≤ a.1.callStack.length

theorem reduceChains_eq_survivors {chains : List CallChain} (free : ∀ c ∈ chains, c.IsArrowFree) :
    reduceChains chains = (longestPlacesFirst (survivors chains)).map Prod.fst := by
  have onStack : ∀ a b : CallChain, a.callStack = b.callStack →
      isMaximalIn chains a = isMaximalIn chains b := by
    intro a b same
    rw [isMaximalIn, isMaximalIn, same]
  have forgotten : (survivors chains).map Prod.fst =
      firstsBy CallChain.callStack (chains.filter (isMaximalIn chains)) := by
    rw [← filter_firstsBy onStack, ← map_fst_firstPlaces, List.filter_map]
    rfl
  have sorted : (longestPlacesFirst (survivors chains)).map Prod.fst =
      longestFirst ((survivors chains).map Prod.fst) :=
    List.map_mergeSort fun _ _ _ _ => rfl
  rw [reduceChains_eq_maximal free, sorted, forgotten]

/-- Longer chains come first, and of equally long ones that at the earlier place. -/
theorem longestPlacesFirst_ordered (chains : List CallChain) :
    (longestPlacesFirst (survivors chains)).Pairwise fun a b =>
      b.1.callStack.length < a.1.callStack.length ∨
        b.1.callStack.length = a.1.callStack.length ∧ a.2 < b.2 := by
  have byLength : SortsBy (fun p : CallChain × Nat => OrderDual.toDual p.1.callStack.length)
      fun a b => b.1.callStack.length ≤ a.1.callStack.length := by
    intro a b
    rw [decide_eq_true_iff, OrderDual.toDual_le_toDual]
  have ascending : (survivors chains).Pairwise fun a b => a.2 < b.2 :=
    (firstPlaces_ascending chains).filter _
  refine (byLength.pairwise_mergeSort ascending).imp fun {a b} ordered => ?_
  rcases ordered with longer | ⟨equal, before⟩
  · exact Or.inl (OrderDual.toDual_lt_toDual.1 longer)
  · exact Or.inr ⟨(OrderDual.toDual_inj.1 equal).symm, before⟩

/-! ### What is dropped -/

/-- What is kept in the end stands for all that were looked at. -/
theorem Represents.keepUncovered {kept seen chains : List CallChain}
    (represents : Represents kept seen) (free : ∀ c ∈ seen ++ chains, c.IsArrowFree)
    (ordered : Descending (seen ++ chains)) :
    Represents (keepUncovered kept chains) (seen ++ chains) := by
  induction chains generalizing kept seen with
  | nil =>
    rw [List.append_nil]
    exact represents
  | cons c rest inductionHypothesis =>
    rw [List.append_cons] at free ordered ⊢
    have next := represents.keepNext (fun d member => free d (List.mem_append_left _ member))
      (ordered.sublist (List.sublist_append_left _ _))
    exact inductionHypothesis next free ordered

theorem exists_mem_reduceChains_infix {chains : List CallChain}
    (free : ∀ c ∈ chains, c.IsArrowFree) {c : CallChain} (member : c ∈ chains) :
    ∃ k ∈ reduceChains chains, c.callStack <:+: k.callStack := by
  have nothing : Represents [] [] := ⟨by simp, by simp⟩
  have represents := nothing.keepUncovered
    (fun d inside => free d (mem_longestFirst.1 inside)) (longestFirst_descending chains)
  exact represents.run c (mem_longestFirst.2 member)

/-- Where no key holds an arrow, the reduction keeps the chains whose stack is not a run inside a
longer one, of chains with one stack the first, longer chains before shorter ones and equally long
ones in the order they came in. A dropped chain has its stack in common with a kept one or as a run
inside it. -/
theorem reduceChains_keeps_maximal (chains : List CallChain)
    (free : ∀ c ∈ chains, ∀ key ∈ c.callStack, ArrowFree key) :
    (∃ kept : List (CallChain × Nat), reduceChains chains = kept.map Prod.fst ∧
        (∀ c place, (c, place) ∈ kept ↔ Survives chains c place) ∧
        kept.Pairwise fun a b => b.1.callStack.length < a.1.callStack.length ∨
          b.1.callStack.length = a.1.callStack.length ∧ a.2 < b.2) ∧
      ∀ c ∈ chains, ∃ k ∈ reduceChains chains, c.callStack = k.callStack ∨
        c.callStack.length < k.callStack.length ∧ c.callStack <:+: k.callStack := by
  refine ⟨⟨longestPlacesFirst (survivors chains), reduceChains_eq_survivors free, ?_,
    longestPlacesFirst_ordered chains⟩, ?_⟩
  · intro c place
    rw [← mem_survivors]
    exact List.mem_mergeSort
  · intro c member
    obtain ⟨k, isKept, run⟩ := exists_mem_reduceChains_infix free member
    refine ⟨k, isKept, ?_⟩
    rcases Nat.lt_or_eq_of_le run.length_le with shorter | equal
    · exact Or.inr ⟨shorter, run⟩
    · exact Or.inl (run.eq_of_length equal)

/-- Chains of which some have an empty stack, a stack that came before, or a run of another. -/
def nestedChains : List CallChain :=
  [[], ["b", "c"], ["c", "d"], ["a", "b", "c"], ["c", "d"], ["b"], ["c", "b"]].map fun stack =>
    ⟨stack, ArgMultiset.ofPairs [("int", 3)], ⟨"leaf", none, [], [], ⟨"r.go", stack.length, 1⟩⟩⟩

/-- Three of them are kept. -/
theorem nestedChains_reduced :
    (∀ c ∈ nestedChains, ∀ key ∈ c.callStack, ArrowFree key) ∧
      (reduceChains nestedChains).map CallChain.callStack =
        [["a", "b", "c"], ["c", "d"], ["c", "b"]] ∧
      ∃ kept : List (CallChain × Nat), reduceChains nestedChains = kept.map Prod.fst ∧
        (∀ c place, (c, place) ∈ kept ↔ Survives nestedChains c place) := by
  have free : ∀ c ∈ nestedChains, ∀ key ∈ c.callStack, ArrowFree key := by decide
  obtain ⟨⟨kept, reduced, survive, -⟩, -⟩ := reduceChains_keeps_maximal nestedChains free
  refine ⟨free, ?_, kept, reduced, survive⟩
  cbv

/-! ### One stack with all others in it -/

/-- If the stack of one chain has the stacks of all others as runs, one chain is kept. -/
theorem exists_reduceChains_eq_singleton {chains : List CallChain} {k : CallChain}
    (member : k ∈ chains) (runs : ∀ c ∈ chains, c.callStack <:+: k.callStack) :
    ∃ c ∈ chains, reduceChains chains = [c] ∧ c.callStack = k.callStack := by
  have inSorted := mem_longestFirst.2 member
  have ordered := longestFirst_descending chains
  have fromSorted : ∀ c ∈ longestFirst chains, c ∈ chains := fun c => mem_longestFirst.1
  rw [reduceChains_eq_keepUncovered]
  cases sorted : longestFirst chains with
  | nil =>
    rw [sorted] at inSorted
    cases inSorted
  | cons first rest =>
    rw [sorted] at inSorted ordered fromSorted
    have isFirst : first ∈ chains := fromSorted first List.mem_cons_self
    have stack : first.callStack = k.callStack :=
      (runs first isFirst).eq_of_length_le (ordered.le_head inSorted)
    have covered : ∀ c ∈ rest, isCovered [first] c = true := by
      intro c later
      have run := runs c (fromSorted c (List.mem_cons_of_mem _ later))
      rw [← stack] at run
      refine isCovered_iff.2 ⟨first, List.mem_singleton_self _, ?_⟩
      rcases Nat.lt_or_eq_of_le run.length_le with shorter | equal
      · exact Or.inl ⟨shorter, run⟩
      · exact Or.inr (congrArg _ (run.eq_of_length equal).symm)
    refine ⟨first, isFirst, ?_, stack⟩
    have alone : keepUncovered [first] rest = keepUncovered [first] (rest.filter fun _ => false) :=
      (keepUncovered_filter fun c later _ => covered c later).symm
    rw [List.filter_false] at alone
    exact alone

end ParamChain.Chain
