import Mathlib.Data.List.Chain
import ParamChain.Chain.Explore
import ParamChain.Proofs.ArgumentCounts
import ParamChain.Proofs.IndexLookup

/-
This file says what the search looks for. A descent is a way down the call graph: each
declaration is called by the one before it, the last one calls nothing in the index, no key is
entered that stands on the path twice, and three arguments survive to the end. The search is a
recursion that prunes as it goes and keeps one chain at each branch. It is shown to return the
first of the longest among all descents, by way of the list of all of them.

Arguments only get fewer on the way down. So it makes no difference whether a descent is asked to
keep three arguments at every call or only at the last, and the second is how it is put here.
-/

namespace ParamChain.Chain

/-! ### The first of the longest -/

theorem mem_of_firstLongest {chains : List CallChain} {c : CallChain}
    (best : firstLongest chains = some c) : c ∈ chains := by
  induction chains generalizing c with
  | nil => cases best
  | cons first rest inductionHypothesis =>
    rw [firstLongest] at best
    split at best
    · next later found =>
      split at best
      · cases best
        exact List.mem_cons_of_mem _ (inductionHypothesis found)
      · cases best
        exact List.mem_cons_self
    · cases best
      exact List.mem_cons_self

/-- There is a longest chain as soon as there is a chain, and none is longer. -/
theorem exists_firstLongest {chains : List CallChain} {c : CallChain} (member : c ∈ chains) :
    ∃ best, firstLongest chains = some best ∧ c.callStack.length ≤ best.callStack.length := by
  induction chains with
  | nil => cases member
  | cons first rest inductionHypothesis =>
    rw [firstLongest]
    rcases List.mem_cons.1 member with rfl | later
    · split
      · next found =>
        split
        · next shorter => exact ⟨_, rfl, Nat.le_of_lt shorter⟩
        · exact ⟨_, rfl, Nat.le_refl _⟩
      · exact ⟨_, rfl, Nat.le_refl _⟩
    · obtain ⟨best, found, atLeast⟩ := inductionHypothesis later
      rw [found]
      dsimp only
      split
      · exact ⟨_, rfl, atLeast⟩
      · next longer => exact ⟨_, rfl, atLeast.trans (Nat.not_lt.1 longer)⟩

/-- Of two candidates the longer, and of equally long ones the first. -/
def longerOf : Option CallChain → Option CallChain → Option CallChain
  | some c, some best => if c.callStack.length < best.callStack.length then some best else some c
  | some c, none => some c
  | none, best => best

theorem firstLongest_cons (c : CallChain) (chains : List CallChain) :
    firstLongest (c :: chains) = longerOf (some c) (firstLongest chains) := by
  rw [firstLongest]
  cases firstLongest chains <;> rfl

theorem longerOf_none (first : Option CallChain) : longerOf first none = first := by
  cases first <;> rfl

/-- Taking the longer chain, and of two equally long the first, can be done in any grouping. -/
theorem longerOf_assoc (first second third : Option CallChain) :
    longerOf (longerOf first second) third = longerOf first (longerOf second third) := by
  cases first with
  | none => rfl
  | some a =>
    cases second with
    | none => rfl
    | some b =>
      cases third with
      | none => rw [longerOf_none, longerOf_none]
      | some c => grind [longerOf]

/-- The first longest of two lists is the longer of their first longest. -/
theorem firstLongest_append (before after : List CallChain) :
    firstLongest (before ++ after) = longerOf (firstLongest before) (firstLongest after) := by
  induction before with
  | nil => rfl
  | cons c rest inductionHypothesis =>
    rw [List.cons_append, firstLongest_cons, inductionHypothesis, firstLongest_cons,
      longerOf_assoc]

/-- Choosing in each branch and then among the branches is choosing among all. -/
theorem firstLongest_filterMap {Branch : Type} (branches : List Branch)
    (below : Branch → List CallChain) :
    firstLongest (branches.filterMap fun branch => firstLongest (below branch)) =
      firstLongest (branches.flatMap below) := by
  induction branches with
  | nil => rfl
  | cons branch rest inductionHypothesis =>
    rw [List.flatMap_cons, firstLongest_append, ← inductionHypothesis, List.filterMap_cons]
    cases firstLongest (below branch) with
    | none => rfl
    | some c => rw [firstLongest_cons]

/-! ### The steps of the search -/

/-- The arguments still shared after a call of `s`. -/
def sharedAfter (inherited : ArgMultiset) (s : Signature) : ArgMultiset :=
  inherited.intersect (ArgMultiset.ofParams s.decl.params)

/-- The edges of a declaration at the end of a path that the revisit guard leaves open. -/
def openEdges (index : Index) (path : List String) (d : FunctionDecl) : List Signature :=
  (index.edges d).filter fun s => path.count s.key < maxKeyRepeats

/-- An edge is open if its key can be repeated once more. -/
theorem mem_openEdges {index : Index} {path : List String} {d : FunctionDecl} {s : Signature} :
    s ∈ openEdges index path d ↔ s ∈ index.edges d ∧ path.count s.key < maxKeyRepeats := by
  simp [openEdges]

section Steps

variable {index : Index} {remaining : Nat} {callee : Signature} {inherited : ArgMultiset}
  {stack : List String}

/-- Where too few arguments are shared, the search stops without a chain. -/
theorem descend_scarce (scarce : (sharedAfter inherited callee).total < minSharedArgs) :
    descend index remaining callee inherited stack = none := by
  cases remaining with
  | zero => rfl
  | succ remaining => exact if_pos scarce

/-- At a declaration that calls no other the search stops with a chain. -/
theorem descend_leaf (enough : minSharedArgs ≤ (sharedAfter inherited callee).total)
    (ends : index.edges callee.decl = []) :
    descend index (remaining + 1) callee inherited stack =
      some ⟨stack ++ [callee.key], sharedAfter inherited callee, callee.decl⟩ := by
  rw [descend]
  refine (if_neg (Nat.not_lt.2 enough)).trans ?_
  rw [ends]
  rfl

/-- Elsewhere the search takes the first longest chain behind an open edge. -/
theorem descend_branch (enough : minSharedArgs ≤ (sharedAfter inherited callee).total)
    (branches : index.edges callee.decl ≠ []) :
    descend index (remaining + 1) callee inherited stack =
      firstLongest ((openEdges index (stack ++ [callee.key]) callee.decl).filterMap fun s =>
        descend index remaining s (sharedAfter inherited callee) (stack ++ [callee.key])) := by
  rw [descend]
  refine (if_neg (Nat.not_lt.2 enough)).trans ?_
  split
  · next ends => exact absurd ends branches
  · rfl

end Steps

/-! ### All chains below a call -/

/-- The chains of all descents that begin with a call of `callee`, in the order in which the
search meets them. -/
def descents (index : Index) : Nat → Signature → ArgMultiset → List String → List CallChain
  | 0, _, _, _ => []
  | remaining + 1, callee, inherited, stack =>
    let path := stack ++ [callee.key]
    let shared := sharedAfter inherited callee
    if shared.total < minSharedArgs then []
    else if index.edges callee.decl = [] then [⟨path, shared, callee.decl⟩]
    else (openEdges index path callee.decl).flatMap fun s => descents index remaining s shared path

/-- The search returns the first of the longest chains below a call. -/
theorem descend_eq_firstLongest (index : Index) (remaining : Nat) (callee : Signature)
    (inherited : ArgMultiset) (stack : List String) :
    descend index remaining callee inherited stack =
      firstLongest (descents index remaining callee inherited stack) := by
  induction remaining generalizing callee inherited stack with
  | zero => rfl
  | succ remaining inductionHypothesis =>
    rw [descents]
    by_cases scarce : (sharedAfter inherited callee).total < minSharedArgs
    · rw [descend_scarce scarce, if_pos scarce]
      rfl
    · have enough := Nat.not_lt.1 scarce
      rw [if_neg scarce]
      by_cases ends : index.edges callee.decl = []
      · rw [descend_leaf enough ends, if_pos ends]
        rfl
      · rw [descend_branch enough ends, if_neg ends, ← firstLongest_filterMap]
        simp only [inductionHypothesis]

/-! ### Descents -/

/-- Every key, when it is added to the stack, stands there fewer than two times. -/
def Unrepeated (stack : List String) : List String → Prop
  | [] => True
  | key :: keys => stack.count key < maxKeyRepeats ∧ Unrepeated (stack ++ [key]) keys

instance decidableUnrepeated : (stack keys : List String) → Decidable (Unrepeated stack keys)
  | _, [] => isTrue trivial
  | stack, key :: keys =>
    have : Decidable (Unrepeated (stack ++ [key]) keys) := decidableUnrepeated _ keys
    inferInstanceAs (Decidable (_ ∧ _))

/-- No key is entered that has been entered as often as is allowed. -/
theorem unrepeated_iff {stack keys : List String} :
    Unrepeated stack keys ↔
      ∀ i key, keys[i]? = some key → (stack ++ keys.take i).count key < maxKeyRepeats := by
  induction keys generalizing stack with
  | nil => simp [Unrepeated]
  | cons first rest inductionHypothesis =>
    rw [Unrepeated, inductionHypothesis]
    constructor
    · rintro ⟨here, later⟩ i key found
      cases i with
      | zero =>
        rw [List.getElem?_cons_zero, Option.some.injEq] at found
        rw [List.take_zero, List.append_nil, ← found]
        exact here
      | succ i =>
        rw [List.getElem?_cons_succ] at found
        rw [List.take_succ_cons, List.append_cons]
        exact later i key found
    · intro all
      refine ⟨?_, fun i key found => ?_⟩
      · simpa using all 0 first rfl
      · rw [← List.append_cons]
        exact all (i + 1) key found

/-- Adding a key that stands fewer than two times leaves no key more than twice. -/
theorem count_append_le {stack : List String} {added : String}
    (bounded : ∀ key, stack.count key ≤ maxKeyRepeats)
    (unrepeated : stack.count added < maxKeyRepeats) (key : String) :
    (stack ++ [added]).count key ≤ maxKeyRepeats := by
  rw [List.count_append, List.count_singleton]
  by_cases same : added = key
  · subst same
    rw [beq_self_eq_true, if_pos rfl]
    exact unrepeated
  · rw [beq_eq_false_iff_ne.2 same, if_neg Bool.false_ne_true]
    exact bounded key

/-- No key is on a stack more often than is allowed. -/
theorem Unrepeated.count_le {stack keys : List String} (fresh : Unrepeated stack keys)
    (bounded : ∀ key, stack.count key ≤ maxKeyRepeats) (key : String) :
    (stack ++ keys).count key ≤ maxKeyRepeats := by
  induction keys generalizing stack with
  | nil =>
    rw [List.append_nil]
    exact bounded key
  | cons added keys inductionHypothesis =>
    rw [List.append_cons]
    exact inductionHypothesis fresh.2 (count_append_le bounded fresh.1)

/-- A way down from a call of `callee` at the end of a path: `rest` are the declarations called
below it, in order. At most `remaining` declarations are entered, and `inherited` is shared so
far. -/
structure Descent (index : Index) (remaining : Nat) (inherited : ArgMultiset)
    (stack : List String) (callee : Signature) (rest : List Signature) : Prop where
  within : rest.length < remaining
  linked : (callee :: rest).IsChain fun s next => next ∈ index.edges s.decl
  ends : index.edges (rest.getLastD callee).decl = []
  fresh : Unrepeated (stack ++ [callee.key]) (rest.map Signature.key)
  enough : minSharedArgs ≤ ((callee :: rest).foldl sharedAfter inherited).total

/-- The chain of a descent. -/
def chainAlong (inherited : ArgMultiset) (stack : List String) (callee : Signature)
    (rest : List Signature) : CallChain where
  callStack := stack ++ (callee :: rest).map Signature.key
  sharedArgs := (callee :: rest).foldl sharedAfter inherited
  leaf := (rest.getLastD callee).decl

/-- The chain of a descent is the chain of what lies below its first call. -/
theorem chainAlong_cons (inherited : ArgMultiset) (stack : List String)
    (callee next : Signature) (rest : List Signature) :
    chainAlong inherited stack callee (next :: rest) =
      chainAlong (sharedAfter inherited callee) (stack ++ [callee.key]) next rest := by
  simp only [chainAlong, List.getLastD_cons, List.map_cons, List.foldl_cons, List.append_assoc,
    List.singleton_append]

theorem length_chainAlong (inherited : ArgMultiset) (stack : List String) (callee : Signature)
    (rest : List Signature) :
    (chainAlong inherited stack callee rest).callStack.length = stack.length + rest.length + 1 := by
  simp only [chainAlong, List.length_append, List.length_map, List.length_cons, Nat.add_assoc]

/-- Arguments only get fewer on the way down. -/
theorem total_foldl_sharedAfter_le (path : List Signature) (inherited : ArgMultiset) :
    (path.foldl sharedAfter inherited).total ≤ inherited.total := by
  induction path generalizing inherited with
  | nil => exact Nat.le_refl _
  | cons s rest inductionHypothesis =>
    exact (inductionHypothesis _).trans (ArgMultiset.total_intersect_le _ _)

section DescentSteps

variable {index : Index} {remaining : Nat} {inherited : ArgMultiset} {stack : List String}
  {callee : Signature}

theorem Descent.enough_first {rest : List Signature}
    (down : Descent index remaining inherited stack callee rest) :
    minSharedArgs ≤ (sharedAfter inherited callee).total :=
  down.enough.trans (total_foldl_sharedAfter_le rest _)

instance (rest : List Signature) :
    Decidable (Descent index remaining inherited stack callee rest) :=
  decidable_of_iff
    (rest.length < remaining ∧
      (callee :: rest).IsChain (fun s next => next ∈ index.edges s.decl) ∧
      index.edges (rest.getLastD callee).decl = [] ∧
      Unrepeated (stack ++ [callee.key]) (rest.map Signature.key) ∧
      minSharedArgs ≤ ((callee :: rest).foldl sharedAfter inherited).total)
    ⟨fun ⟨within, linked, ends, fresh, enough⟩ => ⟨within, linked, ends, fresh, enough⟩,
      fun down => ⟨down.within, down.linked, down.ends, down.fresh, down.enough⟩⟩

/-- A descent ends where enough is shared and nothing is called. -/
theorem descent_nil_iff :
    Descent index (remaining + 1) inherited stack callee [] ↔
      minSharedArgs ≤ (sharedAfter inherited callee).total ∧ index.edges callee.decl = [] := by
  constructor
  · intro down
    exact ⟨down.enough, down.ends⟩
  · rintro ⟨enough, ends⟩
    exact ⟨Nat.succ_pos _, .singleton _, ends, trivial, enough⟩

/-- A descent goes on over an open edge. -/
theorem descent_cons_iff {next : Signature} {rest : List Signature} :
    Descent index (remaining + 1) inherited stack callee (next :: rest) ↔
      next ∈ openEdges index (stack ++ [callee.key]) callee.decl ∧
        Descent index remaining (sharedAfter inherited callee) (stack ++ [callee.key]) next
          rest := by
  rw [mem_openEdges]
  constructor
  · intro down
    refine ⟨⟨down.linked.rel, down.fresh.1⟩, Nat.lt_of_succ_lt_succ down.within,
      down.linked.tail, ?_, down.fresh.2, down.enough⟩
    rw [← List.getLastD_cons]
    exact down.ends
  · rintro ⟨⟨edge, unrepeated⟩, down⟩
    refine ⟨Nat.succ_lt_succ down.within, .cons_cons edge down.linked, ?_,
      ⟨unrepeated, down.fresh⟩, down.enough⟩
    rw [List.getLastD_cons]
    exact down.ends

/-- Every declaration below the first call is what its own key looks up. -/
theorem Descent.resolved {rest : List Signature}
    (down : Descent index remaining inherited stack callee rest) :
    ∀ s ∈ rest, index.get? s.key = some s := by
  have linked := down.linked
  clear down
  induction rest generalizing callee with
  | nil =>
    intro s member
    cases member
  | cons next rest inductionHypothesis =>
    intro s member
    rcases List.mem_cons.1 member with rfl | later
    · exact Index.get?_of_mem_edges linked.rel
    · exact inductionHypothesis linked.tail s later

end DescentSteps

/-- The chains below a call are those of its descents. -/
theorem mem_descents_iff {index : Index} {remaining : Nat} {callee : Signature}
    {inherited : ArgMultiset} {stack : List String} {c : CallChain} :
    c ∈ descents index remaining callee inherited stack ↔
      ∃ rest, Descent index remaining inherited stack callee rest ∧
        c = chainAlong inherited stack callee rest := by
  induction remaining generalizing callee inherited stack with
  | zero =>
    constructor
    · intro member
      cases member
    · rintro ⟨rest, down, -⟩
      exact absurd down.within (Nat.not_lt_zero _)
  | succ remaining inductionHypothesis =>
    rw [descents]
    by_cases scarce : (sharedAfter inherited callee).total < minSharedArgs
    · rw [if_pos scarce]
      constructor
      · intro member
        cases member
      · rintro ⟨rest, down, -⟩
        exact absurd scarce (Nat.not_lt.2 down.enough_first)
    · have enough := Nat.not_lt.1 scarce
      rw [if_neg scarce]
      by_cases ends : index.edges callee.decl = []
      · rw [if_pos ends, List.mem_singleton]
        constructor
        · rintro rfl
          exact ⟨[], descent_nil_iff.2 ⟨enough, ends⟩, rfl⟩
        · rintro ⟨rest, down, rfl⟩
          cases rest with
          | nil => rfl
          | cons next rest =>
            have edge := (mem_openEdges.1 (descent_cons_iff.1 down).1).1
            rw [ends] at edge
            cases edge
      · rw [if_neg ends, List.mem_flatMap]
        constructor
        · rintro ⟨next, edge, member⟩
          obtain ⟨rest, down, rfl⟩ := inductionHypothesis.1 member
          exact ⟨next :: rest, descent_cons_iff.2 ⟨edge, down⟩, (chainAlong_cons ..).symm⟩
        · rintro ⟨rest, down, rfl⟩
          cases rest with
          | nil => exact absurd (descent_nil_iff.1 down).2 ends
          | cons next rest =>
            obtain ⟨edge, below⟩ := descent_cons_iff.1 down
            exact ⟨next, edge, inductionHypothesis.2 ⟨rest, below, chainAlong_cons ..⟩⟩

/-! ### The chains of all declarations -/

/-- What a first declaration hands to the declarations it calls. -/
def rootArgs (root : Signature) : ArgMultiset :=
  ArgMultiset.ofParams root.decl.params

/-- The chains that are found begin with a root and one of its edges. -/
theorem mem_exploreAll_iff {index : Index} {ceiling : Nat} {c : CallChain} :
    c ∈ exploreAll index ceiling ↔
      ∃ root ∈ index.roots, ∃ callee ∈ index.edges root.decl,
        descend index ceiling callee (rootArgs root) [root.key] = some c := by
  simp only [exploreAll, exploreRoot, descendAt, List.mem_flatMap, List.mem_filterMap,
    Nat.add_sub_cancel, rootArgs]

/-- A chain that is found is the chain of a descent from one of the calls. -/
theorem exists_descent_of_mem_exploreAll {index : Index} {ceiling : Nat} {c : CallChain}
    (found : c ∈ exploreAll index ceiling) :
    ∃ root ∈ index.roots, ∃ callee ∈ index.edges root.decl, ∃ rest,
      Descent index ceiling (rootArgs root) [root.key] callee rest ∧
        c = chainAlong (rootArgs root) [root.key] callee rest := by
  obtain ⟨root, isRoot, callee, edge, returned⟩ := mem_exploreAll_iff.1 found
  rw [descend_eq_firstLongest] at returned
  obtain ⟨rest, down, chain⟩ := mem_descents_iff.1 (mem_of_firstLongest returned)
  exact ⟨root, isRoot, callee, edge, rest, down, chain⟩

section Found

variable {index : Index} {ceiling : Nat} {c : CallChain}

/-- No key stands in a chain more than twice. -/
theorem count_callStack_le (found : c ∈ exploreAll index ceiling) (key : String) :
    c.callStack.count key ≤ maxKeyRepeats := by
  obtain ⟨root, -, callee, -, rest, down, rfl⟩ := exists_descent_of_mem_exploreAll found
  exact down.fresh.count_le (fun _ => List.count_le_length) key

theorem mem_keys_of_mem_callStack (found : c ∈ exploreAll index ceiling) :
    ∀ key ∈ c.callStack, key ∈ index.keys := by
  obtain ⟨root, isRoot, callee, edge, rest, down, rfl⟩ := exists_descent_of_mem_exploreAll found
  intro key member
  rcases List.mem_cons.1 member with rfl | later
  · exact Index.key_mem_keys isRoot
  · obtain ⟨s, onPath, rfl⟩ := List.mem_map.1 later
    refine Index.key_mem_keys ?_
    rcases List.mem_cons.1 onPath with rfl | below
    · exact Index.mem_roots_of_mem_edges edge
    · exact Index.mem_roots_of_get? (down.resolved s below)

theorem callStack_ne_nil (found : c ∈ exploreAll index ceiling) : c.callStack ≠ [] := by
  obtain ⟨root, -, callee, -, rest, -, rfl⟩ := exists_descent_of_mem_exploreAll found
  exact List.cons_ne_nil _ _

/-- No chain that is found is longer than the ceiling admits. -/
theorem length_callStack_le (found : c ∈ exploreAll index ceiling) :
    c.callStack.length ≤ ceiling + 1 := by
  obtain ⟨root, -, callee, -, rest, down, rfl⟩ := exists_descent_of_mem_exploreAll found
  have within := down.within
  rw [length_chainAlong, List.length_singleton]
  omega

/-- Where no two declarations have one key, a chain is determined by its stack. -/
theorem eq_of_callStack_eq {d : CallChain} (distinct : index.keys.Nodup)
    (found : c ∈ exploreAll index ceiling) (found' : d ∈ exploreAll index ceiling)
    (same : c.callStack = d.callStack) : c = d := by
  obtain ⟨root, isRoot, callee, edge, rest, down, rfl⟩ := exists_descent_of_mem_exploreAll found
  obtain ⟨root', isRoot', callee', edge', rest', down', rfl⟩ :=
    exists_descent_of_mem_exploreAll found'
  have resolved : ∀ {root callee : Signature} {rest : List Signature}, root ∈ index.roots →
      callee ∈ index.edges root.decl →
      Descent index ceiling (rootArgs root) [root.key] callee rest →
      ∀ s ∈ root :: callee :: rest, index.get? s.key = some s := by
    intro root callee rest isRoot edge down s member
    rcases List.mem_cons.1 member with rfl | member
    · exact Index.get?_of_mem_roots distinct isRoot
    rcases List.mem_cons.1 member with rfl | member
    · exact Index.get?_of_mem_edges edge
    · exact down.resolved s member
  have path : root :: callee :: rest = root' :: callee' :: rest' :=
    Index.eq_of_map_key_eq (resolved isRoot edge down) (resolved isRoot' edge' down') same
  simp only [List.cons.injEq] at path
  obtain ⟨rfl, rfl, rfl⟩ := path
  rfl

end Found

/-- For each call with a descent a chain is found that begins with this call and is no shorter
than the descent. -/
theorem exists_mem_exploreAll_of_descent {index : Index} {ceiling : Nat}
    {root callee : Signature} {rest : List Signature} (isRoot : root ∈ index.roots)
    (edge : callee ∈ index.edges root.decl)
    (down : Descent index ceiling (rootArgs root) [root.key] callee rest) :
    ∃ c ∈ exploreAll index ceiling, [root.key, callee.key] <+: c.callStack ∧
      rest.length + 2 ≤ c.callStack.length := by
  obtain ⟨best, returned, atLeast⟩ :=
    exists_firstLongest (mem_descents_iff.2 ⟨rest, down, rfl⟩)
  obtain ⟨rest', -, rfl⟩ := mem_descents_iff.1 (mem_of_firstLongest returned)
  rw [← descend_eq_firstLongest] at returned
  refine ⟨_, mem_exploreAll_iff.2 ⟨root, isRoot, callee, edge, returned⟩, ?_, ?_⟩
  · exact ⟨rest'.map Signature.key, rfl⟩
  · rw [length_chainAlong] at atLeast
    exact (Nat.le_of_eq (by rw [List.length_singleton]; omega)).trans atLeast

end ParamChain.Chain
