import ParamChain.Proofs.Descents

/-
This file proves what the three guards of the search are worth.

The revisit guard alone bounds every path: no key stands on a path more than twice, so a path has
at most two entries for each key of the index. The first call of a path is not guarded, but with
one declaration before it a key cannot stand there more than twice either, also where the first
declaration has lost its key to a later one. To speak about the calls that are made, and not only
about the chains that are returned, the search is run once more with a record of its calls. The
record is the one of the search: it holds the first calls of all declarations, below every call in
it that goes on the calls of all its open edges, and nothing else. Past the bound a higher depth
ceiling changes nothing.

The threshold on shared arguments is checked at every call, though only a leaf needs it. Arguments
only get fewer on the way down, so a branch that is given up has no leaf that would pass.
-/

namespace ParamChain.Chain

/-! ### The search with a record of its calls -/

/-- A call that the search makes: where it leads, what is shared so far, how deep it is, and the
path it is made from. -/
structure Visit where
  callee : Signature
  inherited : ArgMultiset
  depth : Nat
  stack : List String

namespace Visit

/-- The path with the callee on it. -/
def path (v : Visit) : List String :=
  v.stack ++ [v.callee.key]

/-- The arguments still shared in the callee. -/
def shared (v : Visit) : ArgMultiset :=
  sharedAfter v.inherited v.callee

/-- The call of `next` from inside the callee. -/
def enter (v : Visit) (next : Signature) : Visit :=
  ⟨next, v.shared, v.depth + 1, v.path⟩

/-- The call of `callee` from a first declaration. -/
def ofRoot (root callee : Signature) : Visit :=
  ⟨callee, rootArgs root, 1, [root.key]⟩

end Visit

/-- The search below a call, with the calls it makes in order, itself first. -/
def tracedDescend (index : Index) (ceiling : Nat) (v : Visit) : List Visit × Option CallChain :=
  if ceiling < v.depth then ([v], none)
  else if v.shared.total < minSharedArgs then ([v], none)
  else if index.edges v.callee.decl = [] then ([v], some ⟨v.path, v.shared, v.callee.decl⟩)
  else
    let below := (openEdges index v.path v.callee.decl).map fun next =>
      tracedDescend index ceiling (v.enter next)
    (v :: below.flatMap Prod.fst, firstLongest (below.filterMap Prod.snd))
termination_by ceiling + 1 - v.depth
decreasing_by
  simp only [Visit.enter]
  omega

/-- The search from all declarations, with all the calls it makes. -/
def tracedExploreAll (index : Index) (ceiling : Nat) : List Visit × List CallChain :=
  let below := index.roots.flatMap fun root => (index.edges root.decl).map fun callee =>
    tracedDescend index ceiling (Visit.ofRoot root callee)
  (below.flatMap Prod.fst, below.filterMap Prod.snd)

/-- Keeping the record changes no result. -/
theorem tracedDescend_snd (index : Index) (ceiling : Nat) (v : Visit) :
    (tracedDescend index ceiling v).2 =
      descendAt index ceiling v.depth v.callee v.inherited v.stack := by
  fun_induction tracedDescend index ceiling v with
  | case1 v deep =>
    rw [descendAt, Nat.sub_eq_zero_of_le deep]
    rfl
  | case2 v shallow scarce =>
    rw [descendAt, descend_scarce scarce]
  | case3 v shallow enough ends =>
    have left : ceiling + 1 - v.depth = ceiling - v.depth + 1 := by omega
    rw [descendAt, left, descend_leaf (Nat.not_lt.1 enough) ends]
    rfl
  | case4 v shallow enough branches below inductionHypothesis =>
    have left : ceiling + 1 - v.depth = ceiling - v.depth + 1 := by omega
    have next : ceiling + 1 - (v.depth + 1) = ceiling - v.depth := by omega
    rw [descendAt, left, descend_branch (Nat.not_lt.1 enough) branches]
    simp only [below, List.filterMap_map, Function.comp_def, inductionHypothesis]
    simp only [descendAt, Visit.enter, next]
    rfl

theorem tracedExploreAll_snd (index : Index) (ceiling : Nat) :
    (tracedExploreAll index ceiling).2 = exploreAll index ceiling := by
  simp only [tracedExploreAll, exploreAll, List.filterMap_flatMap, List.filterMap_map,
    Function.comp_def, tracedDescend_snd]
  rfl

/-! ### The calls in the record -/

/-- A call that leads to further calls: it is not too deep, enough is shared in the callee, and the
callee is not a leaf. -/
structure Visit.GoesOn (index : Index) (ceiling : Nat) (v : Visit) : Prop where
  shallow : v.depth ≤ ceiling
  enough : minSharedArgs ≤ v.shared.total
  branches : index.edges v.callee.decl ≠ []

/-- The calls of a search, told by its guards: the first calls of all declarations, and from a call
that goes on the calls of all its open edges. -/
inductive Visit.Made (index : Index) (ceiling : Nat) : Visit → Prop
  | first {root callee : Signature} :
    root ∈ index.roots → callee ∈ index.edges root.decl → Made index ceiling (ofRoot root callee)
  | next {v : Visit} {callee : Signature} :
    Made index ceiling v → v.GoesOn index ceiling →
      callee ∈ openEdges index v.path v.callee.decl → Made index ceiling (v.enter callee)

theorem self_mem_tracedDescend (index : Index) (ceiling : Nat) (v : Visit) :
    v ∈ (tracedDescend index ceiling v).1 := by
  fun_cases tracedDescend index ceiling v with
  | case1 | case2 | case3 | case4 => exact List.mem_cons_self

/-- Below every recorded call that goes on, the calls of all its open edges are recorded. -/
theorem enter_mem_tracedDescend {index : Index} {ceiling : Nat} {v u : Visit} {callee : Signature}
    (recorded : u ∈ (tracedDescend index ceiling v).1) (goesOn : u.GoesOn index ceiling)
    (isOpen : callee ∈ openEdges index u.path u.callee.decl) :
    u.enter callee ∈ (tracedDescend index ceiling v).1 := by
  fun_induction tracedDescend index ceiling v with
  | case1 v deep =>
    obtain rfl := List.mem_singleton.1 recorded
    exact absurd goesOn.shallow (Nat.not_le.2 deep)
  | case2 v shallow scarce =>
    obtain rfl := List.mem_singleton.1 recorded
    exact absurd goesOn.enough (Nat.not_le.2 scarce)
  | case3 v shallow enough ends =>
    obtain rfl := List.mem_singleton.1 recorded
    exact absurd ends goesOn.branches
  | case4 v shallow enough branches below inductionHypothesis =>
    have inside {next : Signature} (isNext : next ∈ openEdges index v.path v.callee.decl)
        {w : Visit} (made : w ∈ (tracedDescend index ceiling (v.enter next)).1) :
        w ∈ v :: below.flatMap Prod.fst :=
      List.mem_cons_of_mem _
        (List.mem_flatMap.2 ⟨_, List.mem_map_of_mem isNext, made⟩)
    rcases List.mem_cons.1 recorded with rfl | later
    · exact inside isOpen (self_mem_tracedDescend index ceiling _)
    · obtain ⟨result, fromBelow, made⟩ := List.mem_flatMap.1 later
      obtain ⟨next, isNext, rfl⟩ := List.mem_map.1 fromBelow
      exact inside isNext (inductionHypothesis next made)

theorem made_of_mem_tracedDescend {index : Index} {ceiling : Nat} {v : Visit}
    (made : v.Made index ceiling) :
    ∀ u ∈ (tracedDescend index ceiling v).1, u.Made index ceiling := by
  fun_induction tracedDescend index ceiling v with
  | case1 v | case2 v | case3 v =>
    intro u member
    rw [List.mem_singleton.1 member]
    exact made
  | case4 v shallow enough branches below inductionHypothesis =>
    have goesOn : v.GoesOn index ceiling :=
      ⟨Nat.not_lt.1 shallow, Nat.not_lt.1 enough, branches⟩
    intro u member
    rcases List.mem_cons.1 member with rfl | later
    · exact made
    · obtain ⟨result, fromBelow, inside⟩ := List.mem_flatMap.1 later
      obtain ⟨next, isOpen, rfl⟩ := List.mem_map.1 fromBelow
      exact inductionHypothesis next (made.next goesOn isOpen) u inside

/-- The record of a search holds the calls of the search, and no others. -/
theorem mem_tracedExploreAll_iff {index : Index} {ceiling : Nat} {v : Visit} :
    v ∈ (tracedExploreAll index ceiling).1 ↔ v.Made index ceiling := by
  constructor
  · intro recorded
    obtain ⟨result, fromRoots, inside⟩ := List.mem_flatMap.1 recorded
    obtain ⟨root, isRoot, fromRoot⟩ := List.mem_flatMap.1 fromRoots
    obtain ⟨callee, edge, rfl⟩ := List.mem_map.1 fromRoot
    exact made_of_mem_tracedDescend (.first isRoot edge) v inside
  · intro made
    suffices below : ∃ root ∈ index.roots, ∃ callee ∈ index.edges root.decl,
        v ∈ (tracedDescend index ceiling (Visit.ofRoot root callee)).1 by
      obtain ⟨root, isRoot, callee, edge, inside⟩ := below
      exact List.mem_flatMap.2 ⟨_, List.mem_flatMap.2 ⟨root, isRoot, List.mem_map_of_mem edge⟩,
        inside⟩
    induction made with
    | first isRoot edge => exact ⟨_, isRoot, _, edge, self_mem_tracedDescend index ceiling _⟩
    | next _ goesOn isOpen inductionHypothesis =>
      obtain ⟨root, isRoot, callee, edge, inside⟩ := inductionHypothesis
      exact ⟨root, isRoot, callee, edge, enter_mem_tracedDescend inside goesOn isOpen⟩

/-! ### What holds of every call -/

/-- The depth of a call is the length of its path, and with the callee on it the path consists of
keys of the index, none more than twice. -/
structure Visit.Guarded (index : Index) (v : Visit) : Prop where
  depth : v.stack.length = v.depth
  indexed : ∀ key ∈ v.path, key ∈ index.keys
  repeats : ∀ key, v.path.count key ≤ maxKeyRepeats

/-- Nothing guards the first call, but its path has only two keys. -/
theorem Visit.guarded_ofRoot {index : Index} {root callee : Signature}
    (isRoot : root ∈ index.roots) (edge : callee ∈ index.edges root.decl) :
    (Visit.ofRoot root callee).Guarded index where
  depth := rfl
  indexed := by
    intro key member
    have both : key = root.key ∨ key = callee.key := by
      simpa [Visit.path, Visit.ofRoot] using member
    rcases both with rfl | rfl
    · exact Index.key_mem_keys isRoot
    · exact Index.key_mem_keys (Index.mem_roots_of_mem_edges edge)
  repeats := fun _ => List.count_le_length

theorem Visit.Guarded.enter {index : Index} {v : Visit} {next : Signature}
    (guarded : v.Guarded index) (isOpen : next ∈ openEdges index v.path v.callee.decl) :
    (v.enter next).Guarded index := by
  obtain ⟨edge, unrepeated⟩ := mem_openEdges.1 isOpen
  refine ⟨?_, ?_, count_append_le guarded.repeats unrepeated⟩
  · rw [Visit.enter, Visit.path, List.length_append, guarded.depth, List.length_singleton]
  · intro key member
    rcases List.mem_append.1 member with before | added
    · exact guarded.indexed key before
    · rw [List.mem_singleton.1 added]
      exact Index.key_mem_keys (Index.mem_roots_of_mem_edges edge)

theorem Visit.Made.guarded {index : Index} {ceiling : Nat} {v : Visit}
    (made : v.Made index ceiling) : v.Guarded index := by
  induction made with
  | first isRoot edge => exact Visit.guarded_ofRoot isRoot edge
  | next _ _ isOpen inductionHypothesis => exact inductionHypothesis.enter isOpen

/-- No call is deeper than the index has room for. -/
theorem Visit.Guarded.depth_lt {index : Index} {v : Visit} (guarded : v.Guarded index) :
    v.depth + 1 ≤ 2 * index.size := by
  have bound := Index.length_le_mul_size guarded.indexed guarded.repeats
  rw [Visit.path, List.length_append, guarded.depth, List.length_singleton] at bound
  exact bound

/-! ### Depth ceilings past the bound -/

/-- Two searches below a call that both have room for every path return the same. -/
theorem Visit.Guarded.descend_eq {index : Index} {v : Visit} (guarded : v.Guarded index)
    {first second : Nat} (roomFirst : 2 * index.size ≤ v.depth + first)
    (roomSecond : 2 * index.size ≤ v.depth + second) :
    descend index first v.callee v.inherited v.stack =
      descend index second v.callee v.inherited v.stack := by
  induction first generalizing v second with
  | zero => exact absurd guarded.depth_lt (by omega)
  | succ first inductionHypothesis =>
    cases second with
    | zero => exact absurd guarded.depth_lt (by omega)
    | succ second =>
      by_cases scarce : v.shared.total < minSharedArgs
      · rw [descend_scarce scarce, descend_scarce scarce]
      have enough := Nat.not_lt.1 scarce
      by_cases ends : index.edges v.callee.decl = []
      · rw [descend_leaf enough ends, descend_leaf enough ends]
      rw [descend_branch enough ends, descend_branch enough ends]
      refine congrArg firstLongest (List.filterMap_congr fun next isOpen => ?_)
      exact inductionHypothesis (guarded.enter isOpen)
        (by simp only [Visit.enter]; omega) (by simp only [Visit.enter]; omega)

theorem exploreAll_eq_of_le {index : Index} {first second : Nat}
    (roomFirst : 2 * index.size ≤ first) (roomSecond : 2 * index.size ≤ second) :
    exploreAll index first = exploreAll index second := by
  refine List.flatMap_congr fun root isRoot => List.filterMap_congr fun callee edge => ?_
  have guarded := Visit.guarded_ofRoot isRoot edge
  exact guarded.descend_eq (by simp only [Visit.ofRoot]; omega)
    (by simp only [Visit.ofRoot]; omega)

/-- The search is finite by the revisit guard alone. The record holds the calls of the search and no
others; in every call that is made the path is as long as the call is deep, no key stands on it more
than twice, and it is no longer than twice the number of keys, so that the depth of a call is far
from the end of its word. Hence chains are as short, and all ceilings past this bound give the same
chains. -/
theorem search_bounded (decls : List FunctionDecl) (minimum ceiling : Nat) :
    let index := Index.build decls minimum
    (tracedExploreAll index ceiling).2 = exploreAll index ceiling ∧
      (∀ v, v ∈ (tracedExploreAll index ceiling).1 ↔ v.Made index ceiling) ∧
      (∀ v ∈ (tracedExploreAll index ceiling).1,
        v.stack.length = v.depth ∧
          (∀ key, (v.stack ++ [v.callee.key]).count key ≤ 2) ∧
          v.depth + 1 ≤ 2 * index.size ∧
          (decls.length < 2 ^ 63 → v.depth + 1 < 2 ^ 64)) ∧
      (∀ c ∈ exploreAll index ceiling,
        c.callStack.length ≤ min (ceiling + 1) (2 * index.size)) ∧
      ∀ first second, 2 * index.size ≤ first → 2 * index.size ≤ second →
        exploreAll index first = exploreAll index second := by
  intro index
  refine ⟨tracedExploreAll_snd _ _, fun v => mem_tracedExploreAll_iff, ?_, ?_, ?_⟩
  · intro v recorded
    have guarded := (mem_tracedExploreAll_iff.1 recorded).guarded
    refine ⟨guarded.depth, guarded.repeats, guarded.depth_lt, fun inMemory => ?_⟩
    have deep := guarded.depth_lt
    have small : index.size ≤ decls.length := Index.size_build_le decls minimum
    omega
  · intro c found
    exact le_min (length_callStack_le found)
      (Index.length_le_mul_size (mem_keys_of_mem_callStack found) (count_callStack_le found))
  · intro first second roomFirst roomSecond
    exact exploreAll_eq_of_le roomFirst roomSecond

/-- A function that calls itself, declared twice: the first declaration has lost its key to the
second, which also calls a leaf. -/
def shadowedWalk : List FunctionDecl :=
  [threeInts "walk" ["walk"] 1, threeInts "walk" ["walk", "stop"] 2, threeInts "stop" [] 3]

/-- Two keys leave room for paths of four, so four is as good a ceiling as the highest. -/
theorem shadowedWalk_bounded :
    2 * (Index.build shadowedWalk 2).size = 4 ∧
      (exploreAll (Index.build shadowedWalk 2) (2 ^ 63 - 1)).map CallChain.callStack =
        [["walk", "walk", "stop"], ["walk", "walk", "stop"], ["walk", "stop"]] := by
  have room : 2 * (Index.build shadowedWalk 2).size = 4 := by decide +kernel
  refine ⟨room, ?_⟩
  rw [(search_bounded shadowedWalk 2 4).2.2.2.2 (2 ^ 63 - 1) 4 (by omega) (by omega)]
  decide +kernel

/-! ### Giving up a branch early -/

/-- The search without the threshold on the way down: only a leaf is asked for enough shared
arguments. -/
def descendUnpruned (index : Index) :
    Nat → Signature → ArgMultiset → List String → Option CallChain
  | 0, _, _, _ => none
  | remaining + 1, callee, inherited, stack =>
    let path := stack ++ [callee.key]
    let shared := sharedAfter inherited callee
    if index.edges callee.decl = [] then
      if shared.total < minSharedArgs then none else some ⟨path, shared, callee.decl⟩
    else
      firstLongest <| (openEdges index path callee.decl).filterMap fun s =>
        descendUnpruned index remaining s shared path

/-- The chains of all declarations, found without giving up a branch early. -/
def exploreAllUnpruned (index : Index) (ceiling : Nat) : List CallChain :=
  index.roots.flatMap fun root => (index.edges root.decl).filterMap fun callee =>
    descendUnpruned index ceiling callee (rootArgs root) [root.key]

/-- Below a call with too few shared arguments no leaf has enough. -/
theorem descendUnpruned_scarce {index : Index} {remaining : Nat} {callee : Signature}
    {inherited : ArgMultiset} {stack : List String}
    (scarce : (sharedAfter inherited callee).total < minSharedArgs) :
    descendUnpruned index remaining callee inherited stack = none := by
  induction remaining generalizing callee inherited stack with
  | zero => rfl
  | succ remaining inductionHypothesis =>
    rw [descendUnpruned]
    by_cases ends : index.edges callee.decl = []
    · rw [if_pos ends]
      exact if_pos scarce
    · rw [if_neg ends]
      have nothing : ((openEdges index (stack ++ [callee.key]) callee.decl).filterMap fun s =>
          descendUnpruned index remaining s (sharedAfter inherited callee)
            (stack ++ [callee.key])) = [] := by
        rw [List.filterMap_eq_nil_iff]
        intro s _
        exact inductionHypothesis (Nat.lt_of_le_of_lt (ArgMultiset.total_intersect_le _ _) scarce)
      rw [nothing]
      rfl

theorem descendUnpruned_eq (index : Index) (remaining : Nat) (callee : Signature)
    (inherited : ArgMultiset) (stack : List String) :
    descendUnpruned index remaining callee inherited stack =
      descend index remaining callee inherited stack := by
  induction remaining generalizing callee inherited stack with
  | zero => rfl
  | succ remaining inductionHypothesis =>
    by_cases scarce : (sharedAfter inherited callee).total < minSharedArgs
    · rw [descend_scarce scarce, descendUnpruned_scarce scarce]
    have enough := Nat.not_lt.1 scarce
    rw [descendUnpruned]
    by_cases ends : index.edges callee.decl = []
    · rw [descend_leaf enough ends, if_pos ends]
      exact if_neg scarce
    · rw [descend_branch enough ends, if_neg ends]
      simp only [inductionHypothesis]

/-- Giving up a branch as soon as too few arguments are shared loses no chain. -/
theorem exploreAll_eq_unpruned (index : Index) (ceiling : Nat) :
    exploreAll index ceiling = exploreAllUnpruned index ceiling := by
  unfold exploreAllUnpruned
  simp only [descendUnpruned_eq]
  rfl

end ParamChain.Chain
