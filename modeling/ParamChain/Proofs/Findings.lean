import ParamChain.Analysis
import ParamChain.Proofs.Descents
import ParamChain.Proofs.Reduction

/-
This file proves that the analysis of a unit is sound and complete. What is worth reporting is
said of paths of declarations, without the search: a path qualifies when each declaration calls
the next, the last calls nothing in the index, all of them share three arguments, and the path
keeps to the depth ceiling and the revisit guard. Every diagnostic stands for such a path. In the
other direction a single path may go unreported, since of the paths that begin with one call only
the longest counts and of these only those that are not part of another; but its first call is
always on report, in a stack at least as long, and a unit without diagnostics has no such path.

A path may begin with a declaration whose key is taken again further down. Only the declarations
after the first are what their keys look up.
-/

namespace ParamChain

open Chain Report

/-! ### Paths worth reporting -/

/-- The parameter types that all declarations of a path have in common: of every type as many as
the declaration with the fewest has. -/
def commonTypes : List FunctionDecl → Multiset String
  | [] => 0
  | [d] => paramTypes d.params
  | d :: next :: path => paramTypes d.params ∩ commonTypes (next :: path)

theorem min?_unitsOf {path : List FunctionDecl} (nonempty : path ≠ []) (t : String) :
    (path.map fun d => unitsOf d.params t).min? = some ((commonTypes path).count t) := by
  simp only [← count_paramTypes]
  induction path with
  | nil => exact absurd rfl nonempty
  | cons d rest inductionHypothesis =>
    cases rest with
    | nil => rfl
    | cons next path =>
      rw [List.map_cons, List.min?_cons, inductionHypothesis (List.cons_ne_nil _ _), commonTypes,
        Multiset.count_inter]
      rfl

/-- A path that the analysis has to take notice of: calls from an eligible declaration down to
one that calls nothing in the index, with enough arguments in common. -/
structure Qualifies (a : Analyzer) (decls path : List FunctionDecl) : Prop where
  calls : 2 ≤ path.length
  declared : ∀ d ∈ path, d ∈ decls ∧ a.minimum ≤ d.paramUnits
  linked : path.IsChain fun d next => ∃ call ∈ d.calls, ∃ key, callKey call = some key ∧
    (Index.build decls a.minimum).get? key = some (signatureOf next)
  within : path.length ≤ a.ceiling + 1
  /-- From the second call on, no declaration is called whose key stands on the path twice. -/
  fresh : ∀ i d, 2 ≤ i → path[i]? = some d → ((path.take i).map declKey).count (declKey d) < 2
  enough : 3 ≤ (commonTypes path).card
  ends : ∀ d ∈ path.getLast?, ∀ call ∈ d.calls, ∀ key, callKey call = some key →
    (Index.build decls a.minimum).get? key = none

/-! ### Paths as descents -/

/-- What survives along a path is what its declarations have in common with what was there. -/
theorem toMultiset_foldl_sharedAfter (inherited : ArgMultiset) (d : FunctionDecl)
    (path : List FunctionDecl) :
    (((d :: path).map signatureOf).foldl sharedAfter inherited).toMultiset =
      inherited.toMultiset ∩ commonTypes (d :: path) := by
  induction path generalizing inherited d with
  | nil =>
    rw [commonTypes, ← ArgMultiset.toMultiset_ofParams]
    exact ArgMultiset.toMultiset_intersect _ _
  | cons next path inductionHypothesis =>
    rw [List.map_cons, List.foldl_cons, inductionHypothesis, commonTypes, sharedAfter,
      ArgMultiset.toMultiset_intersect, ArgMultiset.toMultiset_ofParams]
    exact inf_assoc _ _ _

theorem toMultiset_rootArgs (root d : FunctionDecl) (path : List FunctionDecl) :
    (((d :: path).map signatureOf).foldl sharedAfter (rootArgs (signatureOf root))).toMultiset =
      commonTypes (root :: d :: path) := by
  rw [toMultiset_foldl_sharedAfter, rootArgs, ArgMultiset.toMultiset_ofParams]
  rfl

theorem getLastD_map_signatureOf (d : FunctionDecl) (path : List FunctionDecl) :
    ((path.map signatureOf).getLastD (signatureOf d)).decl = path.getLastD d := by
  induction path generalizing d with
  | nil => rfl
  | cons next path inductionHypothesis =>
    rw [List.map_cons, List.getLastD_cons, List.getLastD_cons, inductionHypothesis]

theorem fresh_iff (root d : FunctionDecl) (path : List FunctionDecl) :
    (∀ i e, 2 ≤ i → (root :: d :: path)[i]? = some e →
        (((root :: d :: path).take i).map declKey).count (declKey e) < 2) ↔
      Unrepeated [declKey root, declKey d] (path.map declKey) := by
  rw [unrepeated_iff]
  constructor
  · intro all i key found
    rw [List.getElem?_map, Option.map_eq_some_iff] at found
    obtain ⟨e, found, rfl⟩ := found
    rw [← List.map_take]
    exact all (i + 2) e (Nat.le_add_left _ _) found
  · intro all i e later found
    obtain ⟨j, rfl⟩ := Nat.exists_eq_add_of_le' later
    have bound := all j (declKey e) (by rw [List.getElem?_map, ← List.getElem?_cons_succ,
      ← List.getElem?_cons_succ, found, Option.map_some])
    rw [← List.map_take] at bound
    exact bound

theorem linked_iff {index : Index} {path : List FunctionDecl} :
    (path.IsChain fun d next => ∃ call ∈ d.calls, ∃ key, callKey call = some key ∧
        index.get? key = some (signatureOf next)) ↔
      (path.map signatureOf).IsChain fun s next => next ∈ index.edges s.decl := by
  rw [List.isChain_map]
  simp only [Index.mem_edges, signatureOf]

theorem getLast?_path (root d : FunctionDecl) (path : List FunctionDecl) :
    (root :: d :: path).getLast? = some (path.getLastD d) := by
  rw [List.getLast?_cons_cons, List.getLast?_cons, List.getLastD_eq_getLast?]

theorem ends_iff {index : Index} (root d : FunctionDecl) (path : List FunctionDecl) :
    (∀ e ∈ (root :: d :: path).getLast?, ∀ call ∈ e.calls, ∀ key, callKey call = some key →
        index.get? key = none) ↔
      index.edges ((path.map signatureOf).getLastD (signatureOf d)).decl = [] := by
  rw [getLastD_map_signatureOf, Index.edges_eq_nil_iff, getLast?_path]
  simp only [Option.mem_def, Option.some.injEq, forall_eq']

/-- A path qualifies when it begins with a call of an eligible declaration and goes on as a
descent. -/
theorem qualifies_iff {a : Analyzer} {decls : List FunctionDecl} {root d : FunctionDecl}
    {path : List FunctionDecl} :
    Qualifies a decls (root :: d :: path) ↔
      root ∈ eligible decls a.minimum ∧
        signatureOf d ∈ (Index.build decls a.minimum).edges root ∧
        Descent (Index.build decls a.minimum) a.ceiling (rootArgs (signatureOf root))
          [declKey root] (signatureOf d) (path.map signatureOf) := by
  constructor
  · intro qualifies
    have linked := linked_iff.1 qualifies.linked
    have within := qualifies.within
    refine ⟨mem_eligible.2 (qualifies.declared root List.mem_cons_self), linked.rel, ?_,
      linked.tail, (ends_iff root d path).1 qualifies.ends, ?_, ?_⟩
    · rw [List.length_cons, List.length_cons] at within
      rw [List.length_map]
      omega
    · rw [List.map_map]
      exact (fresh_iff root d path).1 qualifies.fresh
    · rw [← ArgMultiset.card_toMultiset, ← List.map_cons, toMultiset_rootArgs]
      exact qualifies.enough
  · rintro ⟨isRoot, edge, down⟩
    have enough := down.enough
    have within := down.within
    have fresh := down.fresh
    rw [← ArgMultiset.card_toMultiset, ← List.map_cons, toMultiset_rootArgs] at enough
    rw [List.map_map] at fresh
    rw [List.length_map] at within
    refine ⟨?_, ?_, linked_iff.2 (.cons_cons edge down.linked), ?_,
      (fresh_iff root d path).2 fresh, enough, (ends_iff root d path).2 down.ends⟩
    · exact Nat.le_add_left _ _
    · intro e member
      rw [← mem_eligible]
      rcases List.mem_cons.1 member with rfl | member
      · exact isRoot
      rcases List.mem_cons.1 member with rfl | member
      · exact (Index.mem_roots_build.1 (Index.mem_roots_of_mem_edges edge)).1
      · have found := down.resolved (signatureOf e) (List.mem_map_of_mem member)
        exact (Index.mem_roots_build.1 (Index.mem_roots_of_get? found)).1
    · rw [List.length_cons, List.length_cons]
      omega

instance (a : Analyzer) (decls : List FunctionDecl) : DecidablePred (Qualifies a decls)
  | [] | [_] => isFalse fun short => absurd short.calls (by simp)
  | _ :: _ :: _ => decidable_of_iff _ qualifies_iff.symm

/-! ### Chains and qualifying paths -/

theorem map_signatureOf_decl {decls : List FunctionDecl} {minimum : Nat} {path : List Signature}
    (indexed : ∀ s ∈ path, s ∈ (Index.build decls minimum).roots) :
    (path.map Signature.decl).map signatureOf = path := by
  calc (path.map Signature.decl).map signatureOf = path.map fun s => signatureOf s.decl :=
        List.map_map
    _ = path.map id :=
        List.map_congr_left fun s member => (Index.mem_roots_build.1 (indexed s member)).2.symm
    _ = path := List.map_id path

/-- A chain that is found is that of a qualifying path, as every signature on its way is that of its
declaration. -/
theorem exists_qualifies_of_mem_exploreAll {a : Analyzer} {decls : List FunctionDecl}
    {c : CallChain} (found : c ∈ exploreAll (Index.build decls a.minimum) a.ceiling) :
    ∃ path, Qualifies a decls path ∧ c.callStack = path.map declKey ∧
      c.sharedArgs.toMultiset = commonTypes path ∧ path.getLast? = some c.leaf := by
  obtain ⟨root, isRoot, callee, edge, rest, down, rfl⟩ := exists_descent_of_mem_exploreAll found
  obtain ⟨declared, rootEq⟩ := Index.mem_roots_build.1 isRoot
  obtain ⟨-, calleeEq⟩ := Index.mem_roots_build.1 (Index.mem_roots_of_mem_edges edge)
  have restEq := map_signatureOf_decl fun s member =>
    Index.mem_roots_of_get? (down.resolved s member)
  obtain ⟨first, rfl⟩ : ∃ first, root = signatureOf first := ⟨_, rootEq⟩
  obtain ⟨d, rfl⟩ : ∃ d, callee = signatureOf d := ⟨_, calleeEq⟩
  obtain ⟨path, rfl⟩ : ∃ path : List FunctionDecl, rest = path.map signatureOf :=
    ⟨_, restEq.symm⟩
  refine ⟨first :: d :: path, qualifies_iff.2 ⟨declared, edge, down⟩, ?_,
    toMultiset_rootArgs first d path, ?_⟩
  · rw [chainAlong, List.map_cons, List.map_map]
    rfl
  · rw [getLast?_path, chainAlong, getLastD_map_signatureOf]

/-- The first call of a qualifying path has a chain that is no shorter than the path. -/
theorem exists_mem_exploreAll_of_qualifies {a : Analyzer} {decls path : List FunctionDecl}
    (qualifies : Qualifies a decls path) :
    ∃ c ∈ exploreAll (Index.build decls a.minimum) a.ceiling,
      (path.take 2).map declKey <+: c.callStack ∧ path.length ≤ c.callStack.length := by
  match path, qualifies with
  | [], short | [_], short => exact absurd short.calls (by simp)
  | root :: d :: path, qualifies =>
    obtain ⟨declared, edge, down⟩ := qualifies_iff.1 qualifies
    obtain ⟨c, found, begins, atLeast⟩ := exists_mem_exploreAll_of_descent
      (Index.mem_roots_build.2 ⟨declared, rfl⟩) edge down
    rw [List.length_map] at atLeast
    exact ⟨c, found, begins, atLeast⟩

/-- The declarations of a qualifying path after the first are what their keys look up. -/
theorem Qualifies.resolved {a : Analyzer} {decls path : List FunctionDecl}
    (qualifies : Qualifies a decls path) :
    ∀ f ∈ path.tail, (Index.build decls a.minimum).get? (declKey f) = some (signatureOf f) := by
  match path, qualifies with
  | [], short | [_], short => exact absurd short.calls (by simp)
  | root :: d :: path, qualifies =>
    obtain ⟨-, edge, down⟩ := qualifies_iff.1 qualifies
    intro f member
    rcases List.mem_cons.1 member with rfl | later
    · exact Index.get?_of_mem_edges edge
    · exact down.resolved (signatureOf f) (List.mem_map_of_mem later)

/-- What holds of every eligible key holds of every key of a chain. -/
theorem of_mem_callStack {decls : List FunctionDecl} {minimum ceiling : Nat} {c : CallChain}
    {Holds : String → Prop} (all : ∀ d ∈ eligible decls minimum, Holds (declKey d))
    (found : c ∈ exploreAll (Index.build decls minimum) ceiling) :
    ∀ key ∈ c.callStack, Holds key := by
  intro key member
  obtain ⟨s, isRoot, rfl⟩ := List.mem_map.1 (mem_keys_of_mem_callStack found key member)
  obtain ⟨declared, same⟩ := Index.mem_roots_build.1 isRoot
  rw [same]
  exact all s.decl declared

/-- Where no eligible key has an arrow in it, no key of a chain has. -/
theorem arrowFree_of_mem_callStack {decls : List FunctionDecl} {minimum ceiling : Nat}
    {c : CallChain} (free : ∀ d ∈ eligible decls minimum, ArrowFree (declKey d))
    (found : c ∈ exploreAll (Index.build decls minimum) ceiling) :
    ∀ key ∈ c.callStack, ArrowFree key :=
  of_mem_callStack free found

/-! ### Reports -/

theorem foldl_ofChain (kept : List CallChain) (sink : List Diagnostic) :
    kept.foldl (fun held c => held ++ [Diagnostic.ofChain c]) sink =
      sink ++ kept.map Diagnostic.ofChain := by
  induction kept generalizing sink with
  | nil => rw [List.foldl_nil, List.map_nil, List.append_nil]
  | cons c rest inductionHypothesis =>
    rw [List.foldl_cons, inductionHypothesis, List.map_cons, List.append_assoc,
      List.singleton_append]

/-- A report adds the diagnostics of the kept chains to the sink and returns their number. The
shortcut for a unit without eligible declarations changes nothing, as it has no chains. -/
theorem Analyzer.report_eq (a : Analyzer) (unit : SourceUnit) (sink : List Diagnostic) :
    a.report unit sink =
      (sink ++ (a.chains unit.declarations).map Diagnostic.ofChain,
        (a.chains unit.declarations).length) := by
  rw [Analyzer.report]
  split
  · next empty =>
    have none : a.chains unit.declarations = [] := by
      rw [Analyzer.chains, reduceChains_eq_nil_iff, exploreAll, List.isEmpty_iff.1 empty]
      rfl
    rw [none]
    simp
  · exact Prod.ext (foldl_ofChain _ sink) rfl

theorem Analyzer.run_eq (a : Analyzer) (unit : SourceUnit) :
    a.run unit = (a.chains unit.declarations).map Diagnostic.ofChain := by
  rw [Analyzer.run, Analyzer.report_eq, List.nil_append]

/-- A path of declarations that a diagnostic stands for. -/
structure Witnesses (a : Analyzer) (decls path : List FunctionDecl) (d : Diagnostic) : Prop where
  calls : 2 ≤ path.length
  declared : ∀ f ∈ path, f ∈ decls ∧ a.minimum ≤ f.paramUnits
  callStack : d.callStack = path.map declKey
  /-- The index returns each declaration after the first for its key. -/
  resolved : ∀ f ∈ path.tail,
    (Index.build decls a.minimum).get? (declKey f) = some (signatureOf f)
  /-- No eligible declaration further down has the key of a declaration after the first. -/
  last : ∀ f ∈ path.tail, ∃ before after, eligible decls a.minimum = before ++ f :: after ∧
    ∀ other ∈ after, declKey other ≠ declKey f
  linked : path.IsChain fun f next => ∃ call ∈ f.calls, callKey call = some (declKey next)
  ends : ∀ f ∈ path.getLast?, ∀ call ∈ f.calls, ∀ key, callKey call = some key →
    (Index.build decls a.minimum).get? key = none
  within : path.length ≤ a.ceiling + 1
  repeats : ∀ key, d.callStack.count key ≤ 2
  sorted : d.arguments.Pairwise (· ≤ ·)
  enough : 3 ≤ d.arguments.length
  /-- Of every type there are as many arguments as the declaration with the fewest has. -/
  arguments : ∀ t, (path.map fun f => unitsOf f.params t).min? = some (d.arguments.count t)
  position : ∃ leaf, path.getLast? = some leaf ∧ d.position = leaf.position

/-- The diagnostic of a chain that is found has a path that it stands for. -/
theorem exists_witnesses {a : Analyzer} {decls : List FunctionDecl} {c : CallChain}
    (found : c ∈ exploreAll (Index.build decls a.minimum) a.ceiling) :
    ∃ path, Witnesses a decls path (Diagnostic.ofChain c) := by
  obtain ⟨path, qualifies, stack, shared, leaf⟩ := exists_qualifies_of_mem_exploreAll found
  have nonempty : path ≠ [] := List.ne_nil_of_length_pos (by have := qualifies.calls; omega)
  refine ⟨path, {
    calls := qualifies.calls
    declared := qualifies.declared
    callStack := stack
    resolved := qualifies.resolved
    last := fun f member => Index.last_of_get?_build (qualifies.resolved f member)
    linked := ?_
    ends := qualifies.ends
    within := qualifies.within
    repeats := count_callStack_le found
    sorted := c.sharedArgs.expanded_sorted
    enough := ?_
    arguments := fun t => ?_
    position := ⟨c.leaf, leaf, rfl⟩ }⟩
  · refine qualifies.linked.imp fun f next edge => ?_
    obtain ⟨call, member, key, named, lookup⟩ := edge
    exact ⟨call, member, named.trans (congrArg some (Index.key_of_get? lookup).symm)⟩
  · show 3 ≤ c.sharedArgs.expanded.length
    rw [ArgMultiset.length_expanded, ← ArgMultiset.card_toMultiset, shared]
    exact qualifies.enough
  · show _ = some (c.sharedArgs.expanded.count t)
    rw [ArgMultiset.count_expanded, shared]
    exact min?_unitsOf nonempty t

/-- Every diagnostic that a report adds to the sink stands for a path of calls, and the number
returned is the number of diagnostics added. -/
theorem report_sound (a : Analyzer) (unit : SourceUnit) (sink : List Diagnostic) :
    ∃ added, a.report unit sink = (sink ++ added, added.length) ∧
      ∀ d ∈ added, ∃ path, Witnesses a unit.declarations path d := by
  refine ⟨(a.chains unit.declarations).map Diagnostic.ofChain, ?_, ?_⟩
  · rw [Analyzer.report_eq, List.length_map]
  · intro d member
    obtain ⟨c, isKept, rfl⟩ := List.mem_map.1 member
    exact exists_witnesses (mem_of_mem_reduceChains isKept)

/-- Every qualifying path leaves its trace in a report, as long as keys have no arrows in them:
some stack has a run that begins with the first call of the path and is no shorter. Whatever the
keys, nothing is reported exactly when no path qualifies. -/
theorem report_complete (a : Analyzer) (unit : SourceUnit) :
    ((∀ d ∈ eligible unit.declarations a.minimum, ArrowFree (declKey d)) →
        ∀ path, Qualifies a unit.declarations path →
          ∃ d ∈ a.run unit, ∃ stack, stack <:+: d.callStack ∧ path.length ≤ stack.length ∧
            (path.take 2).map declKey <+: stack) ∧
      (a.run unit = [] ↔ ¬ ∃ path, Qualifies a unit.declarations path) := by
  constructor
  · intro free path qualifies
    obtain ⟨c, found, begins, atLeast⟩ := exists_mem_exploreAll_of_qualifies qualifies
    obtain ⟨k, isKept, covers⟩ := exists_mem_reduceChains_covers found
    have keptFound := mem_of_mem_reduceChains isKept
    have run := covers.run (callStack_ne_nil keptFound) (callStack_ne_nil found)
      (arrowFree_of_mem_callStack free keptFound) (arrowFree_of_mem_callStack free found)
    refine ⟨Diagnostic.ofChain k, ?_, c.callStack, run, atLeast, begins⟩
    rw [Analyzer.run_eq]
    exact List.mem_map_of_mem isKept
  · rw [Analyzer.run_eq, List.map_eq_nil_iff, Analyzer.chains, reduceChains_eq_nil_iff]
    constructor
    · rintro nothing ⟨path, qualifies⟩
      obtain ⟨c, found, -⟩ := exists_mem_exploreAll_of_qualifies qualifies
      rw [nothing] at found
      cases found
    · intro noPath
      refine List.eq_nil_iff_forall_not_mem.2 fun c found => noPath ?_
      obtain ⟨path, qualifies, -⟩ := exists_qualifies_of_mem_exploreAll found
      exact ⟨path, qualifies⟩

/-- A unit of one file. -/
def oneFile (decls : List FunctionDecl) : SourceUnit :=
  ⟨"go", ".", none, [⟨"unit.go", "go", none, decls⟩]⟩

/-- A check that validates and verifies, where validating checks again. -/
def mutualChecks : List FunctionDecl :=
  [threeInts "check" ["validate", "verify"] 1, threeInts "validate" ["check"] 2,
    threeInts "verify" [] 3]

/-- The path that goes round once before it leaves qualifies and is on report. -/
theorem mutualChecks_reported :
    let unit := oneFile mutualChecks
    let path := [1, 0, 1, 0, 2].filterMap fun i => mutualChecks[i]?
    path.map declKey = ["validate", "check", "validate", "check", "verify"] ∧
      Qualifies ⟨2, 10⟩ unit.declarations path ∧
      ∃ d ∈ Analyzer.run ⟨2, 10⟩ unit, ∃ stack, stack <:+: d.callStack ∧ 5 ≤ stack.length ∧
        ["validate", "check"] <+: stack := by
  intro unit path
  have qualifies : Qualifies ⟨2, 10⟩ unit.declarations path := by decide +kernel
  exact ⟨by decide +kernel, qualifies,
    (report_complete ⟨2, 10⟩ unit).1 (by decide +kernel) path qualifies⟩

end ParamChain
