import ParamChain.Proofs.Findings
import ParamChain.Proofs.ReductionLaws

/-
This file looks at what the reduction of chains leaves. Whatever the keys are, also where different
stacks read the same as text, no kept stack is a run of another: the loop tests a chain against
those kept before it, these are no shorter, and a run of the same length is the whole stack. So the
loop has nothing to do when it is run again on what it kept.

What is dropped, on the other side, loses nothing that the kept chain recommends. Where no two
declarations have one key, a stack names the declarations of its chain, and the arguments of a chain
are what these have in common. A run of a stack names some of the declarations that the stack
names, and fewer declarations have no fewer arguments in common.
-/

namespace ParamChain

open Chain Report

namespace Chain

/-! ### Chains of which none covers another -/

theorem keepNext_pairwise {kept : List CallChain} (apart : kept.Pairwise fun k c => ¬ k.Covers c)
    (c : CallChain) : (keepNext kept c).Pairwise fun k c => ¬ k.Covers c := by
  unfold keepNext
  split
  · exact apart
  · next uncovered =>
    refine List.pairwise_append.2 ⟨apart, List.pairwise_singleton _ _, fun k isKept d new => ?_⟩
    rw [List.mem_singleton.1 new]
    exact fun covers => uncovered (isCovered_iff.2 ⟨k, isKept, covers⟩)

theorem keepUncovered_pairwise {kept : List CallChain} (chains : List CallChain)
    (apart : kept.Pairwise fun k c => ¬ k.Covers c) :
    (keepUncovered kept chains).Pairwise fun k c => ¬ k.Covers c := by
  induction chains generalizing kept with
  | nil => exact apart
  | cons c rest inductionHypothesis => exact inductionHypothesis (keepNext_pairwise apart c)

theorem keepNext_sublist (kept : List CallChain) (c : CallChain) :
    (keepNext kept c).Sublist (kept ++ [c]) := by
  unfold keepNext
  split
  · exact List.sublist_append_left kept [c]
  · exact List.Sublist.refl _

theorem keepUncovered_sublist (kept chains : List CallChain) :
    (keepUncovered kept chains).Sublist (kept ++ chains) := by
  induction chains generalizing kept with
  | nil => exact List.sublist_append_left kept []
  | cons c rest inductionHypothesis =>
    rw [keepUncovered_cons, List.append_cons]
    exact (inductionHypothesis _).trans ((keepNext_sublist kept c).append_right rest)

theorem reduceChains_pairwise (chains : List CallChain) :
    (reduceChains chains).Pairwise fun k c => ¬ k.Covers c :=
  keepUncovered_pairwise (longestFirst chains) List.Pairwise.nil

theorem reduceChains_sublist (chains : List CallChain) :
    (reduceChains chains).Sublist (longestFirst chains) :=
  keepUncovered_sublist [] (longestFirst chains)

theorem reduceChains_descending (chains : List CallChain) : Descending (reduceChains chains) :=
  (longestFirst_descending chains).sublist (reduceChains_sublist chains)

/-- Chains that are in order already are not moved. -/
theorem Descending.longestFirst_eq {chains : List CallChain} (ordered : Descending chains) :
    longestFirst chains = chains :=
  (longestFirst_descending chains).eq_of_ofLength ordered fun n => ofLength_longestFirst n chains

/-- Neither stack is a run of the other, where the second is no longer and is not covered. -/
theorem CallChain.not_infix_of_not_covers {k c : CallChain}
    (atMost : c.callStack.length ≤ k.callStack.length) (uncovered : ¬ k.Covers c) :
    ¬ k.callStack <:+: c.callStack ∧ ¬ c.callStack <:+: k.callStack := by
  have different : k.callStack ≠ c.callStack := fun same => uncovered (Or.inr (congrArg _ same))
  constructor
  · intro run
    exact different (run.eq_of_length_le atMost)
  · intro run
    rcases Nat.lt_or_eq_of_le atMost with shorter | equal
    · exact uncovered (Or.inl ⟨shorter, run⟩)
    · exact different (run.eq_of_length equal).symm

/-- What the reduction keeps, for any keys: no two stacks are the same and none is a run of another,
longer ones come first, the kept chains stand in the order of the stable sort, something is kept
unless there was nothing, every chain is covered by a kept one, and reducing again changes nothing.
The sort is told by what it does: the same chains, longer ones first, those of one length in the
order they came in. -/
theorem reduceChains_antichain (chains : List CallChain) :
    (reduceChains chains).Pairwise (fun k c => k.callStack ≠ c.callStack ∧
        ¬ k.callStack <:+: c.callStack ∧ ¬ c.callStack <:+: k.callStack) ∧
      (reduceChains chains).Pairwise (fun k c => c.callStack.length ≤ k.callStack.length) ∧
      (∃ sorted : List CallChain, sorted.Perm chains ∧
        sorted.Pairwise (fun a b => b.callStack.length ≤ a.callStack.length) ∧
        (∀ n, (sorted.filter fun c => c.callStack.length = n) =
          chains.filter fun c => c.callStack.length = n) ∧
        (reduceChains chains).Sublist sorted) ∧
      (reduceChains chains = [] ↔ chains = []) ∧
      (∀ c ∈ chains, ∃ k ∈ reduceChains chains, k.Covers c) ∧
      reduceChains (reduceChains chains) = reduceChains chains := by
  have ordered := reduceChains_descending chains
  have apart := reduceChains_pairwise chains
  refine ⟨?_, ordered, ?_, reduceChains_eq_nil_iff, fun c => exists_mem_reduceChains_covers, ?_⟩
  · refine (List.Pairwise.and ordered apart).imp fun {k c} ⟨atMost, uncovered⟩ => ?_
    have neither := CallChain.not_infix_of_not_covers atMost uncovered
    exact ⟨fun same => neither.1 (same ▸ List.infix_rfl), neither⟩
  · exact ⟨longestFirst chains, longestFirst_perm chains, longestFirst_descending chains,
      fun n => ofLength_longestFirst n chains, reduceChains_sublist chains⟩
  · rw [reduceChains_eq_keepUncovered, ordered.longestFirst_eq]
    exact keepUncovered_of_pairwise apart

end Chain

/-! ### Arguments in common -/

/-- What declarations have in common is the most that each of them has. -/
theorem le_commonTypes_iff {path : List FunctionDecl} (nonempty : path ≠ [])
    {types : Multiset String} :
    types ≤ commonTypes path ↔ ∀ d ∈ path, types ≤ paramTypes d.params := by
  induction path with
  | nil => exact absurd rfl nonempty
  | cons d rest inductionHypothesis =>
    cases rest with
    | nil => rw [commonTypes, List.forall_mem_singleton]
    | cons next path =>
      rw [commonTypes, Multiset.le_inter_iff, inductionHypothesis (List.cons_ne_nil _ _),
        List.forall_mem_cons (a := d)]

/-- Fewer declarations have no fewer arguments in common. -/
theorem commonTypes_anti {some all : List FunctionDecl} (nonempty : some ≠ [])
    (inside : some ⊆ all) : commonTypes all ≤ commonTypes some := by
  have allNonempty : all ≠ [] := by
    rintro rfl
    exact nonempty (List.eq_nil_of_subset_nil inside)
  rw [le_commonTypes_iff nonempty]
  intro d member
  exact (le_commonTypes_iff allNonempty).1 le_rfl d (inside member)

/-- Where no two declarations have one key, a path whose keys all stand on another path goes through
declarations of that path only. -/
theorem Qualifies.subset_of_keys {a : Analyzer} {decls path other : List FunctionDecl}
    (distinct : (eligibleKeys decls a.minimum).Nodup) (qualifies : Qualifies a decls path)
    (qualifies' : Qualifies a decls other) (keys : path.map declKey ⊆ other.map declKey) :
    path ⊆ other := by
  intro d member
  obtain ⟨e, member', same⟩ := List.mem_map.1 (keys (List.mem_map_of_mem member))
  have equal : e = d := List.inj_on_of_nodup_map distinct
    (mem_eligible.2 (qualifies'.declared e member')) (mem_eligible.2 (qualifies.declared d member))
    same
  exact equal ▸ member'

/-- Where no two declarations have one key, a chain has no argument that a chain lacks whose stack
is a run of its stack. -/
theorem sharedArgs_anti {decls : List FunctionDecl} {minimum ceiling : Nat} {s k : CallChain}
    (distinct : (eligibleKeys decls minimum).Nodup)
    (foundS : s ∈ exploreAll (Index.build decls minimum) ceiling)
    (foundK : k ∈ exploreAll (Index.build decls minimum) ceiling)
    (run : s.callStack <:+: k.callStack) : k.sharedArgs.toMultiset ≤ s.sharedArgs.toMultiset := by
  obtain ⟨path, qualifies, stack, shared, -⟩ :=
    exists_qualifies_of_mem_exploreAll (a := ⟨minimum, ceiling⟩) foundS
  obtain ⟨path', qualifies', stack', shared', -⟩ :=
    exists_qualifies_of_mem_exploreAll (a := ⟨minimum, ceiling⟩) foundK
  have nonempty : path ≠ [] := List.ne_nil_of_length_pos (by have := qualifies.calls; omega)
  have keys : path.map declKey ⊆ path'.map declKey := by
    rw [← stack, ← stack']
    exact run.subset
  rw [shared, shared']
  exact commonTypes_anti nonempty (qualifies.subset_of_keys distinct qualifies' keys)

/-- Where no two eligible declarations have one key, a chain whose stack is a run of another has of
every type no fewer arguments than that one, and chains with one stack are one chain. So a chain
that is dropped, where keys have no arrows in them, gives way to a longer one which has it as a run
and reports no argument that the dropped one does not share. -/
theorem suppressed_chains_share_more (decls : List FunctionDecl) (minimum ceiling : Nat)
    (distinct : (eligibleKeys decls minimum).Nodup) :
    (∀ s ∈ exploreAll (Index.build decls minimum) ceiling,
      ∀ k ∈ exploreAll (Index.build decls minimum) ceiling, s.callStack <:+: k.callStack →
        (∀ t, k.sharedArgs.count t ≤ s.sharedArgs.count t) ∧
          (s.callStack = k.callStack → s = k)) ∧
      ((∀ d ∈ eligible decls minimum, ArrowFree (declKey d)) →
        ∀ s ∈ exploreAll (Index.build decls minimum) ceiling,
          s ∉ reduceChains (exploreAll (Index.build decls minimum) ceiling) →
            ∃ k ∈ reduceChains (exploreAll (Index.build decls minimum) ceiling),
              s.callStack.length < k.callStack.length ∧ s.callStack <:+: k.callStack ∧
                (Diagnostic.ofChain k).arguments.Subperm s.sharedArgs.expanded) := by
  have determined {s k : CallChain} (foundS : s ∈ exploreAll (Index.build decls minimum) ceiling)
      (foundK : k ∈ exploreAll (Index.build decls minimum) ceiling)
      (same : s.callStack = k.callStack) : s = k :=
    eq_of_callStack_eq (by rwa [Index.keys_build]) foundS foundK same
  constructor
  · intro s foundS k foundK run
    refine ⟨fun t => ?_, determined foundS foundK⟩
    rw [← ArgMultiset.count_toMultiset, ← ArgMultiset.count_toMultiset]
    exact Multiset.count_le_of_le t (sharedArgs_anti distinct foundS foundK run)
  · intro free s foundS dropped
    obtain ⟨k, isKept, covers⟩ := exists_mem_reduceChains_covers foundS
    have foundK := mem_of_mem_reduceChains isKept
    have run := covers.run (callStack_ne_nil foundK) (callStack_ne_nil foundS)
      (arrowFree_of_mem_callStack free foundK) (arrowFree_of_mem_callStack free foundS)
    refine ⟨k, isKept, ?_, run, ?_⟩
    · refine lt_of_le_of_ne run.length_le fun equal => dropped ?_
      rwa [determined foundS foundK (run.eq_of_length equal)]
    · rw [← Multiset.coe_le, ArgMultiset.coe_expanded]
      exact (ArgMultiset.coe_expanded k.sharedArgs).trans_le
        (sharedArgs_anti distinct foundS foundK run)

/-- Three numbers are handed down all the way, a note from the second declaration on. -/
def notedCalls : List FunctionDecl :=
  let place : ParamDecl := ⟨["x", "y", "z"], "int"⟩
  let note : ParamDecl := ⟨["note"], "string"⟩
  [declOf "enter" [place] ["record"] 1, declOf "record" [place, note] ["write"] 2,
    declOf "write" [note, place] [] 3]

/-- The shorter chain shares the note as well, but the longer one is on report. -/
theorem notedCalls_suppressed :
    let found := exploreAll (Index.build notedCalls 2) 10
    (eligibleKeys notedCalls 2).Nodup ∧
      (∀ d ∈ eligible notedCalls 2, ArrowFree (declKey d)) ∧
      (found.map fun c => (c.callStack, c.sharedArgs.expanded)) =
        [(["enter", "record", "write"], ["int", "int", "int"]),
          (["record", "write"], ["int", "int", "int", "string"])] ∧
      (∀ s ∈ found, ∀ k ∈ found, s.callStack <:+: k.callStack →
        ∀ t, k.sharedArgs.count t ≤ s.sharedArgs.count t) ∧
      ∀ s ∈ found, s ∉ reduceChains found → ∃ k ∈ reduceChains found,
        (Diagnostic.ofChain k).arguments.Subperm s.sharedArgs.expanded := by
  intro found
  have distinct : (eligibleKeys notedCalls 2).Nodup := by decide +kernel
  have free : ∀ d ∈ eligible notedCalls 2, ArrowFree (declKey d) := by decide +kernel
  have general := suppressed_chains_share_more notedCalls 2 10 distinct
  refine ⟨distinct, free, by decide +kernel, fun s foundS k foundK run =>
    (general.1 s foundS k foundK run).1, fun s foundS dropped => ?_⟩
  obtain ⟨k, isKept, -, -, fewer⟩ := general.2 free s foundS dropped
  exact ⟨k, isKept, fewer⟩

end ParamChain
