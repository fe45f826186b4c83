import Mathlib.Data.List.Forall2
import ParamChain.Proofs.Descents
import ParamChain.Proofs.ReductionLaws

/-
This file compares the search over two indexes. A simulation relates declarations of the one to
declarations of the other: related declarations have one key and offer the same arguments, and
their calls lead to related declarations, in the same order once repeated calls are left out. Then
the search from related declarations returns chains with the same stack and the same shared
arguments, ending at related declarations, and the reduced chains match one for one.

Leaving out repeated calls costs nothing. Below a branch the second of two equal calls can only
bring a chain that is as long as the first and later, so it is never chosen. At a first declaration
each call has a chain of its own, and the reduction drops the repeated one.
-/

namespace ParamChain.Chain

/-! ### Repeated calls -/

/-- Chains that are no longer than one in front of them do not change the choice. -/
theorem longerOf_firstLongest_filter {c : CallChain} {chains : List CallChain}
    {test : CallChain → Bool}
    (short : ∀ d ∈ chains, test d = false → d.callStack.length ≤ c.callStack.length) :
    longerOf (some c) (firstLongest (chains.filter test)) =
      longerOf (some c) (firstLongest chains) := by
  induction chains generalizing c with
  | nil => rfl
  | cons d rest inductionHypothesis =>
    have later : ∀ e ∈ rest, test e = false → e.callStack.length ≤ c.callStack.length :=
      fun e member => short e (List.mem_cons_of_mem _ member)
    rw [firstLongest_cons, ← longerOf_assoc]
    by_cases longer : c.callStack.length < d.callStack.length
    · have passes : test d = true := by
        by_contra fails
        exact absurd (short d List.mem_cons_self (Bool.eq_false_iff.2 fails)) (Nat.not_le.2 longer)
      have chosen : longerOf (some c) (some d) = some d := if_pos longer
      rw [List.filter_cons_of_pos passes, firstLongest_cons, ← longerOf_assoc, chosen]
      exact inductionHypothesis fun e member fails => (later e member fails).trans longer.le
    · have chosen : longerOf (some c) (some d) = some c := if_neg longer
      rw [chosen, ← inductionHypothesis later, List.filter_cons]
      split
      · rw [firstLongest_cons, ← longerOf_assoc, chosen]
      · rfl

/-- The first of the longest is the first with its stack. -/
theorem firstLongest_firstsBy (chains : List CallChain) :
    firstLongest (firstsBy CallChain.callStack chains) = firstLongest chains := by
  induction chains with
  | nil => rfl
  | cons c rest inductionHypothesis =>
    rw [firstsBy, firstLongest_cons, firstLongest_cons, longerOf_firstLongest_filter,
      inductionHypothesis]
    intro d _ same
    have sameStack : d.callStack = c.callStack := by simpa using same
    rw [sameStack]

/-- The declarations that the calls of `d` lead to, each once, in the order of the first calls. -/
def Index.distinctEdges (index : Index) (d : FunctionDecl) : List Signature :=
  firstsBy Signature.key (index.edges d)

theorem Index.distinctEdges_eq_nil_iff {index : Index} {d : FunctionDecl} :
    index.distinctEdges d = [] ↔ index.edges d = [] :=
  firstsBy_eq_nil_iff

theorem Index.mem_edges_of_mem_distinctEdges {index : Index} {d : FunctionDecl} {s : Signature}
    (edge : s ∈ index.distinctEdges d) : s ∈ index.edges d :=
  (firstsBy_sublist _).subset edge

/-- Edges with one key are the same edge. -/
theorem Index.eq_of_mem_edges {index : Index} {d : FunctionDecl} {s t : Signature}
    (edgeS : s ∈ index.edges d) (edgeT : t ∈ index.edges d) (same : s.key = t.key) : s = t := by
  have found := get?_of_mem_edges edgeS
  rw [same, get?_of_mem_edges edgeT] at found
  exact (Option.some.inj found).symm

/-- The search below a branch needs to follow each edge once. -/
theorem descend_branch_distinct {index : Index} {remaining : Nat} {callee : Signature}
    {inherited : ArgMultiset} {stack : List String}
    (enough : minSharedArgs ≤ (sharedAfter inherited callee).total)
    (branches : index.edges callee.decl ≠ []) :
    descend index (remaining + 1) callee inherited stack =
      firstLongest (((index.distinctEdges callee.decl).filter fun s =>
          (stack ++ [callee.key]).count s.key < maxKeyRepeats).filterMap fun s =>
        descend index remaining s (sharedAfter inherited callee) (stack ++ [callee.key])) := by
  rw [descend_branch enough branches, ← firstLongest_firstsBy, Index.distinctEdges,
    filter_firstsBy, ← firstLongest_firstsBy (List.filterMap _ (firstsBy _ _)),
    firstsBy_filterMap]
  · rfl
  · intro s memberS t memberT same
    rw [Index.eq_of_mem_edges (List.mem_filter.1 memberS).1 (List.mem_filter.1 memberT).1 same]
  · intro s t same
    rw [same]

/-- The chains of all declarations, one for each declaration that is called. -/
def exploreDistinct (index : Index) (ceiling : Nat) : List CallChain :=
  index.roots.flatMap fun root => (index.distinctEdges root.decl).filterMap fun callee =>
    descend index ceiling callee (rootArgs root) [root.key]

/-- A repeated call of a first declaration adds nothing to what is kept. -/
theorem reduceChains_exploreDistinct (index : Index) (ceiling : Nat) :
    reduceChains (exploreDistinct index ceiling) = reduceChains (exploreAll index ceiling) := by
  rw [← reduceChains_firstsBy, ← reduceChains_firstsBy (exploreAll index ceiling)]
  refine congrArg _ (firstsBy_flatMap_congr _ fun root _ => firstsBy_filterMap _ ?_)
  intro s edgeS t edgeT same
  rw [Index.eq_of_mem_edges edgeS edgeT same]

/-! ### Simulations -/

/-- Related declarations look the same to the search, and lead to related declarations. -/
structure Simulates (Related : Signature → Signature → Prop) (first second : Index) : Prop where
  key : ∀ {s t}, Related s t → s.key = t.key
  args : ∀ {s t}, Related s t →
    ArgMultiset.ofParams s.decl.params = ArgMultiset.ofParams t.decl.params
  edges : ∀ {s t}, Related s t →
    List.Forall₂ Related (first.distinctEdges s.decl) (second.distinctEdges t.decl)

/-- Chains that differ in the declaration at their end at most, and end at related ones. -/
structure CallChain.Matches (Related : Signature → Signature → Prop) (c d : CallChain) : Prop where
  callStack : c.callStack = d.callStack
  sharedArgs : c.sharedArgs = d.sharedArgs
  leaf : ∃ s t, Related s t ∧ s.decl = c.leaf ∧ t.decl = d.leaf

theorem firstLongest_rel {Related : Signature → Signature → Prop} {chains chains' : List CallChain}
    (matched : List.Forall₂ (CallChain.Matches Related) chains chains') :
    Option.Rel (CallChain.Matches Related) (firstLongest chains) (firstLongest chains') := by
  induction matched with
  | nil => exact .none
  | @cons c d rest rest' pair _ inductionHypothesis =>
    rw [firstLongest_cons, firstLongest_cons]
    generalize firstLongest rest = best at inductionHypothesis ⊢
    generalize firstLongest rest' = best' at inductionHypothesis ⊢
    cases inductionHypothesis with
    | none => exact .some pair
    | some later =>
      rw [longerOf, longerOf, pair.callStack, later.callStack]
      split
      · exact .some later
      · exact .some pair

namespace Simulates

variable {Related : Signature → Signature → Prop} {first second : Index}

theorem sharedAfter (simulates : Simulates Related first second) {s t : Signature}
    (related : Related s t) (inherited : ArgMultiset) :
    sharedAfter inherited s = sharedAfter inherited t := by
  rw [Chain.sharedAfter, Chain.sharedAfter, simulates.args related]

theorem edges_eq_nil_iff (simulates : Simulates Related first second) {s t : Signature}
    (related : Related s t) : first.edges s.decl = [] ↔ second.edges t.decl = [] := by
  have edges := simulates.edges related
  rw [← Index.distinctEdges_eq_nil_iff, ← Index.distinctEdges_eq_nil_iff]
  constructor
  · intro ends
    rw [ends] at edges
    exact List.forall₂_nil_left_iff.1 edges
  · intro ends
    rw [ends] at edges
    exact List.forall₂_nil_right_iff.1 edges

/-- The search from related declarations returns matching chains: both searches stop for the same
reason or branch over matching edges. -/
theorem descend (simulates : Simulates Related first second) (remaining : Nat) {s t : Signature}
    (related : Related s t) (inherited : ArgMultiset) (stack : List String) :
    Option.Rel (CallChain.Matches Related) (descend first remaining s inherited stack)
      (descend second remaining t inherited stack) := by
  induction remaining generalizing s t inherited stack with
  | zero => exact .none
  | succ remaining inductionHypothesis =>
    have sameShared := simulates.sharedAfter related inherited
    have sameEnd := simulates.edges_eq_nil_iff related
    by_cases scarce : (Chain.sharedAfter inherited s).total < minSharedArgs
    · rw [descend_scarce scarce, descend_scarce (sameShared ▸ scarce)]
      exact .none
    have enough := Nat.not_lt.1 scarce
    by_cases ends : first.edges s.decl = []
    · rw [descend_leaf enough ends, descend_leaf (sameShared ▸ enough) (sameEnd.1 ends), sameShared,
        simulates.key related]
      exact .some ⟨rfl, rfl, s, t, related, rfl, rfl⟩
    · rw [descend_branch_distinct enough ends,
        descend_branch_distinct (sameShared ▸ enough) (sameEnd.not.1 ends), sameShared,
        simulates.key related]
      refine firstLongest_rel (List.rel_filterMap ?_
        (List.rel_filter ?_ (simulates.edges related)))
      · intro next next' pair
        exact inductionHypothesis pair _ _
      · intro next next' pair
        simp only [simulates.key pair]

/-- The search over related declarations finds matching chains. -/
theorem exploreDistinct (simulates : Simulates Related first second)
    (roots : List.Forall₂ Related first.roots second.roots) (ceiling : Nat) :
    List.Forall₂ (CallChain.Matches Related) (exploreDistinct first ceiling)
      (exploreDistinct second ceiling) := by
  refine List.rel_flatMap roots fun root root' related => ?_
  refine List.rel_filterMap (fun _ _ next => ?_) (simulates.edges related)
  rw [rootArgs, rootArgs, simulates.args related, simulates.key related]
  exact simulates.descend ceiling next _ _

/-- What is kept of the chains over related declarations matches one for one. -/
theorem reduceChains (simulates : Simulates Related first second)
    (roots : List.Forall₂ Related first.roots second.roots) (ceiling : Nat) :
    List.Forall₂ (CallChain.Matches Related) (reduceChains (exploreAll first ceiling))
      (reduceChains (exploreAll second ceiling)) := by
  rw [← reduceChains_exploreDistinct, ← reduceChains_exploreDistinct]
  exact reduceChains_forall₂ (fun _ _ pair => pair.callStack)
    (simulates.exploreDistinct roots ceiling)

end Simulates

/-! ### Indexes that agree -/

section Agreement

variable {first second : Index} (Inside : Signature → Prop)

/-- Where two indexes give the same edges, and the edges lead nowhere else, the search is the
same. -/
theorem descend_eq_of_edges_eq
    (same : ∀ s, Inside s → first.edges s.decl = second.edges s.decl)
    (closed : ∀ s, Inside s → ∀ t ∈ first.edges s.decl, Inside t) (remaining : Nat)
    {s : Signature} (inside : Inside s) (inherited : ArgMultiset) (stack : List String) :
    descend first remaining s inherited stack = descend second remaining s inherited stack := by
  have simulates : Simulates (fun s t => s = t ∧ Inside s) first second := by
    refine ⟨?_, ?_, ?_⟩
    · rintro s _ ⟨rfl, -⟩
      rfl
    · rintro s _ ⟨rfl, -⟩
      rfl
    · rintro s _ ⟨rfl, inside⟩
      rw [Index.distinctEdges, Index.distinctEdges, ← same s inside, List.forall₂_same]
      exact fun t edge => ⟨rfl, closed s inside t (Index.mem_edges_of_mem_distinctEdges edge)⟩
  have related := simulates.descend remaining ⟨rfl, inside⟩ inherited stack
  generalize descend first remaining s inherited stack = result at related ⊢
  generalize descend second remaining s inherited stack = result' at related ⊢
  cases related with
  | none => rfl
  | @some c d pair =>
    obtain ⟨sameStacks, args, s, _, ⟨rfl, -⟩, leaf, leaf'⟩ := pair
    cases c
    cases d
    simp only at sameStacks args leaf leaf'
    rw [sameStacks, args, ← leaf, leaf']

theorem exploreRoot_eq_of_edges_eq
    (same : ∀ s, Inside s → first.edges s.decl = second.edges s.decl)
    (closed : ∀ s, Inside s → ∀ t ∈ first.edges s.decl, Inside t) (ceiling : Nat)
    {root : Signature} (inside : Inside root) :
    exploreRoot first ceiling root = exploreRoot second ceiling root := by
  rw [exploreRoot, exploreRoot, ← same root inside]
  refine List.filterMap_congr fun callee edge => ?_
  exact descend_eq_of_edges_eq Inside same closed _ (closed root inside callee edge) _ _

end Agreement

end ParamChain.Chain
