import Mathlib.Data.List.Lex
import ParamChain.Proofs.Descents
import ParamChain.Proofs.KeyedSort

/-
This file says which chain a call has. Below a call the search may go on in many ways: at each
declaration it chooses one of the calls. A continuation is a list of such choices that keeps to the
depth ceiling and the revisit guard, shares three arguments all the way and ends where no call leads
on. The search returns the chain of the longest continuation, and of equally long ones that of the
one whose choices come first, compared place by place.

The search keeps one chain at each branch and replaces it by a strictly longer one only. To see that
these local decisions add up to the first of the longest of all, the continuations are listed in the
order in which the search would meet them; that order is the lexicographic order of their choices.

What a lower ceiling leaves of the list are the chains that fit under it, in the same order. So a
higher ceiling never shortens the chain of a call, and changes it only for one that did not fit.
-/

namespace ParamChain.Chain

/-! ### The chain that is chosen -/

theorem firstLongest_eq_none_iff {chains : List CallChain} :
    firstLongest chains = none ↔ chains = [] := by
  constructor
  · intro nothing
    refine List.eq_nil_iff_forall_not_mem.2 fun c member => ?_
    obtain ⟨best, chosen, -⟩ := exists_firstLongest member
    rw [nothing] at chosen
    cases chosen
  · rintro rfl
    rfl

/-- The chain that is chosen is longer than all before it, and none after it is longer. -/
theorem firstLongest_eq_some_iff {chains : List CallChain} {c : CallChain} :
    firstLongest chains = some c ↔
      ∃ before after, chains = before ++ c :: after ∧
        (∀ b ∈ before, b.callStack.length < c.callStack.length) ∧
        ∀ d ∈ after, d.callStack.length ≤ c.callStack.length := by
  constructor
  · intro chosen
    induction chains with
    | nil => cases chosen
    | cons first rest inductionHypothesis =>
      rw [firstLongest_cons] at chosen
      cases later : firstLongest rest with
      | none =>
        rw [later, longerOf_none, Option.some.injEq] at chosen
        subst chosen
        exact ⟨[], [], by rw [firstLongest_eq_none_iff.1 later]; rfl, by simp, by simp⟩
      | some best =>
        rw [later, longerOf] at chosen
        split at chosen
        · next longer =>
          rw [Option.some.injEq] at chosen
          subst chosen
          obtain ⟨before, after, rfl, shorter, atMost⟩ := inductionHypothesis later
          refine ⟨first :: before, after, rfl, ?_, atMost⟩
          exact List.forall_mem_cons.2 ⟨longer, shorter⟩
        · next notLonger =>
          rw [Option.some.injEq] at chosen
          subst chosen
          refine ⟨[], rest, rfl, by simp, fun d member => ?_⟩
          obtain ⟨best', later', atMost⟩ := exists_firstLongest member
          rw [later, Option.some.injEq] at later'
          rw [← later'] at atMost
          exact atMost.trans (Nat.not_lt.1 notLonger)
  · rintro ⟨before, after, rfl, shorter, atMost⟩
    have overAfter : longerOf (some c) (firstLongest after) = some c := by
      cases later : firstLongest after with
      | none => rfl
      | some d => exact if_neg (Nat.not_lt.2 (atMost d (mem_of_firstLongest later)))
    rw [firstLongest_append, firstLongest_cons, overAfter]
    cases earlier : firstLongest before with
    | none => rfl
    | some b => exact if_pos (shorter b (mem_of_firstLongest earlier))

/-- Leaving out chains other than the one that is chosen does not change the choice. -/
theorem firstLongest_filter {chains : List CallChain} {c : CallChain} {test : CallChain → Bool}
    (chosen : firstLongest chains = some c) (passes : test c = true) :
    firstLongest (chains.filter test) = some c := by
  obtain ⟨before, after, rfl, shorter, atMost⟩ := firstLongest_eq_some_iff.1 chosen
  refine firstLongest_eq_some_iff.2 ⟨before.filter test, after.filter test, ?_, ?_, ?_⟩
  · rw [List.filter_append, List.filter_cons_of_pos passes]
  · exact fun b member => shorter b (List.mem_filter.1 member).1
  · exact fun d member => atMost d (List.mem_filter.1 member).1

/-! ### Choices of calls -/

/-- A choice on the way down: one of the calls of a declaration, by its place among them, and the
declaration that it leads to. -/
structure Choice where
  site : Nat
  target : Signature
  deriving DecidableEq, Repr

/-- The declaration that the call at a place leads to, if there is such a call and it leads
anywhere. -/
def Index.callTarget? (index : Index) (d : FunctionDecl) (site : Nat) : Option Signature :=
  (d.calls[site]?.bind callKey).bind index.get?

/-- Each choice is a call of the declaration before it. -/
def Follows (index : Index) : Signature → List Choice → Prop
  | _, [] => True
  | s, choice :: route =>
    index.callTarget? s.decl choice.site = some choice.target ∧ Follows index choice.target route

/-- The calls of a declaration that lead anywhere, in order. -/
def Index.choices (index : Index) (d : FunctionDecl) : List Choice :=
  d.calls.zipIdx.filterMap fun call => ((callKey call.1).bind index.get?).map (Choice.mk call.2)

theorem Index.map_target_choices (index : Index) (d : FunctionDecl) :
    (index.choices d).map Choice.target = index.edges d := by
  rw [choices, List.map_filterMap, edges]
  conv_rhs => rw [← List.zipIdx_map_fst 0 d.calls, List.filterMap_map]
  refine List.filterMap_congr fun call _ => ?_
  rw [Option.map_map]
  exact Option.map_id'

theorem Index.mem_choices {index : Index} {d : FunctionDecl} {choice : Choice} :
    choice ∈ index.choices d ↔ index.callTarget? d choice.site = some choice.target := by
  simp only [choices, callTarget?, List.mem_filterMap, List.mem_zipIdx_iff_getElem?,
    Option.map_eq_some_iff, Option.bind_eq_some_iff]
  constructor
  · rintro ⟨call, found, target, leads, rfl⟩
    obtain ⟨key, named, lookup⟩ := leads
    exact ⟨key, ⟨call.1, found, named⟩, lookup⟩
  · rintro ⟨key, ⟨call, found, named⟩, lookup⟩
    exact ⟨(call, choice.site), found, choice.target, ⟨key, named, lookup⟩, rfl⟩

theorem Index.mem_edges_of_callTarget? {index : Index} {d : FunctionDecl} {site : Nat}
    {s : Signature} (leads : index.callTarget? d site = some s) : s ∈ index.edges d := by
  rw [← map_target_choices]
  exact List.mem_map.2 ⟨⟨site, s⟩, mem_choices.2 leads, rfl⟩

theorem Index.choices_ascending (index : Index) (d : FunctionDecl) :
    (index.choices d).Pairwise fun first second => first.site < second.site := by
  refine List.pairwise_filterMap.2 ((zipIdx_ascending d.calls).imp fun {first second} below => ?_)
  intro choice chosen choice' chosen'
  obtain ⟨_, _, rfl⟩ := Option.map_eq_some_iff.1 chosen
  obtain ⟨_, _, rfl⟩ := Option.map_eq_some_iff.1 chosen'
  exact below

/-- The choices at the end of a path that the revisit guard leaves open. -/
def openChoices (index : Index) (path : List String) (d : FunctionDecl) : List Choice :=
  (index.choices d).filter fun choice => path.count choice.target.key < maxKeyRepeats

theorem map_target_openChoices (index : Index) (path : List String) (d : FunctionDecl) :
    (openChoices index path d).map Choice.target = openEdges index path d := by
  rw [openEdges, ← Index.map_target_choices, List.filter_map]
  rfl

theorem mem_openChoices {index : Index} {path : List String} {d : FunctionDecl} {choice : Choice} :
    choice ∈ openChoices index path d ↔
      index.callTarget? d choice.site = some choice.target ∧
        choice.target ∈ openEdges index path d := by
  rw [openChoices, List.mem_filter, Index.mem_choices, mem_openEdges, decide_eq_true_iff]
  constructor
  · rintro ⟨leads, unrepeated⟩
    exact ⟨leads, Index.mem_edges_of_callTarget? leads, unrepeated⟩
  · rintro ⟨leads, -, unrepeated⟩
    exact ⟨leads, unrepeated⟩

/-- Choices with the same places lead to the same declarations. -/
theorem Follows.eq_of_sites {index : Index} {s : Signature} {route other : List Choice}
    (follows : Follows index s route) (follows' : Follows index s other)
    (same : route.map Choice.site = other.map Choice.site) : route = other := by
  induction route generalizing s other with
  | nil =>
    cases other with
    | nil => rfl
    | cons choice other => cases same
  | cons choice route inductionHypothesis =>
    cases other with
    | nil => cases same
    | cons choice' other =>
      rw [List.map_cons, List.map_cons, List.cons.injEq] at same
      obtain ⟨leads, below⟩ := follows
      obtain ⟨leads', below'⟩ := follows'
      have sameTarget : choice.target = choice'.target := by
        rw [same.1, leads', Option.some.injEq] at leads
        exact leads.symm
      have equal : choice = choice' := by
        cases choice
        cases choice'
        exact congrArg₂ Choice.mk same.1 sameTarget
      rw [← sameTarget] at below'
      rw [equal, inductionHypothesis below below' same.2]

/-! ### All routes below a call -/

/-- The choices of all descents that begin with a call of `callee`, in the order in which the
search meets them. -/
def routes (index : Index) : Nat → Signature → ArgMultiset → List String → List (List Choice)
  | 0, _, _, _ => []
  | remaining + 1, callee, inherited, stack =>
    if (sharedAfter inherited callee).total < minSharedArgs then []
    else if index.edges callee.decl = [] then [[]]
    else (openChoices index (stack ++ [callee.key]) callee.decl).flatMap fun choice =>
      (routes index remaining choice.target (sharedAfter inherited callee)
        (stack ++ [callee.key])).map (choice :: ·)

/-- The chain along a list of choices. -/
def chainOf (inherited : ArgMultiset) (stack : List String) (callee : Signature)
    (route : List Choice) : CallChain :=
  chainAlong inherited stack callee (route.map Choice.target)

theorem length_chainOf (inherited : ArgMultiset) (stack : List String) (callee : Signature)
    (route : List Choice) :
    (chainOf inherited stack callee route).callStack.length =
      stack.length + route.length + 1 := by
  rw [chainOf, length_chainAlong, List.length_map]

/-- The chains of the routes are the chains below the call, in the same order. -/
theorem map_chainOf_routes (index : Index) (remaining : Nat) (callee : Signature)
    (inherited : ArgMultiset) (stack : List String) :
    (routes index remaining callee inherited stack).map (chainOf inherited stack callee) =
      descents index remaining callee inherited stack := by
  fun_induction routes index remaining callee inherited stack with
  | case1 => rfl
  | case2 remaining callee inherited stack scarce =>
    rw [descents, if_pos scarce]
    rfl
  | case3 remaining callee inherited stack enough ends =>
    rw [descents, if_neg enough, if_pos ends]
    rfl
  | case4 remaining callee inherited stack enough branches inductionHypothesis =>
    rw [descents, if_neg enough, if_neg branches, ← map_target_openChoices, List.flatMap_map,
      List.map_flatMap]
    refine List.flatMap_congr fun choice _ => ?_
    rw [← inductionHypothesis choice, List.map_map]
    refine List.map_congr_left fun route _ => ?_
    exact chainAlong_cons ..

/-- The routes are the choices of the descents. -/
theorem mem_routes_iff {index : Index} {remaining : Nat} {callee : Signature}
    {inherited : ArgMultiset} {stack : List String} {route : List Choice} :
    route ∈ routes index remaining callee inherited stack ↔
      Descent index remaining inherited stack callee (route.map Choice.target) ∧
        Follows index callee route := by
  fun_induction routes index remaining callee inherited stack generalizing route with
  | case1 callee inherited stack =>
    constructor
    · intro member
      cases member
    · rintro ⟨down, -⟩
      exact absurd down.within (Nat.not_lt_zero _)
  | case2 remaining callee inherited stack scarce =>
    constructor
    · intro member
      cases member
    · rintro ⟨down, -⟩
      exact absurd scarce (Nat.not_lt.2 down.enough_first)
  | case3 remaining callee inherited stack enough ends =>
    rw [List.mem_singleton]
    constructor
    · rintro rfl
      exact ⟨descent_nil_iff.2 ⟨Nat.not_lt.1 enough, ends⟩, trivial⟩
    · rintro ⟨down, -⟩
      cases route with
      | nil => rfl
      | cons choice route =>
        have edge := (mem_openEdges.1 (descent_cons_iff.1 down).1).1
        rw [ends] at edge
        cases edge
  | case4 remaining callee inherited stack enough branches inductionHypothesis =>
    rw [List.mem_flatMap]
    constructor
    · rintro ⟨choice, isOpen, member⟩
      obtain ⟨route, below, rfl⟩ := List.mem_map.1 member
      obtain ⟨leads, edge⟩ := mem_openChoices.1 isOpen
      obtain ⟨down, follows⟩ := (inductionHypothesis choice).1 below
      exact ⟨descent_cons_iff.2 ⟨edge, down⟩, leads, follows⟩
    · rintro ⟨down, follows⟩
      cases route with
      | nil => exact absurd (descent_nil_iff.1 down).2 branches
      | cons choice route =>
        obtain ⟨edge, below⟩ := descent_cons_iff.1 down
        refine ⟨choice, mem_openChoices.2 ⟨follows.1, edge⟩, ?_⟩
        exact List.mem_map_of_mem ((inductionHypothesis choice).2 ⟨below, follows.2⟩)

/-- The search meets the routes in the lexicographic order of their places: an earlier choice comes
before all that begins with a later one, and behind one choice the rest decides. -/
theorem routes_ascending (index : Index) (remaining : Nat) (callee : Signature)
    (inherited : ArgMultiset) (stack : List String) :
    (routes index remaining callee inherited stack).Pairwise fun first second =>
      first.map Choice.site < second.map Choice.site := by
  fun_induction routes index remaining callee inherited stack with
  | case1 | case2 => exact List.Pairwise.nil
  | case3 => exact List.pairwise_singleton _ _
  | case4 remaining callee inherited stack enough branches inductionHypothesis =>
    rw [List.pairwise_flatMap]
    constructor
    · intro choice _
      refine List.pairwise_map.2 ((inductionHypothesis choice).imp fun {first second} below => ?_)
      exact List.cons_lt_cons_iff.2 (Or.inr ⟨rfl, below⟩)
    · refine ((index.choices_ascending callee.decl).filter _).imp fun {choice choice'} below => ?_
      intro route member route' member'
      obtain ⟨_, _, rfl⟩ := List.mem_map.1 member
      obtain ⟨_, _, rfl⟩ := List.mem_map.1 member'
      exact List.cons_lt_cons_iff.2 (Or.inl below)

/-! ### Continuations -/

/-- A way on from a call of `callee` that is made at some depth under a ceiling. The calls that are
chosen on the way are in `route`. -/
structure Continuation (index : Index) (ceiling depth : Nat) (inherited : ArgMultiset)
    (stack : List String) (callee : Signature) (route : List Choice) : Prop where
  follows : Follows index callee route
  within : ∀ j ≤ route.length, depth + j ≤ ceiling
  /-- No declaration after `callee` is entered whose key stands on the path twice. -/
  fresh : ∀ j choice, route[j]? = some choice →
    (stack ++ (callee :: (route.take j).map Choice.target).map Signature.key).count
      choice.target.key < 2
  /-- Three arguments are shared at every call. -/
  enough : ∀ j ≤ route.length,
    3 ≤ ((callee :: (route.take j).map Choice.target).foldl sharedAfter inherited).total
  ends : ∀ call ∈ ((route.map Choice.target).getLastD callee).decl.calls, ∀ key,
    callKey call = some key → index.get? key = none

theorem Follows.linked {index : Index} {s : Signature} {route : List Choice}
    (follows : Follows index s route) :
    (s :: route.map Choice.target).IsChain fun s next => next ∈ index.edges s.decl := by
  induction route generalizing s with
  | nil => exact .singleton _
  | cons choice route inductionHypothesis =>
    exact .cons_cons (Index.mem_edges_of_callTarget? follows.1) (inductionHypothesis follows.2)

theorem unrepeated_targets_iff {stack : List String} {callee : Signature} {route : List Choice} :
    Unrepeated (stack ++ [callee.key]) ((route.map Choice.target).map Signature.key) ↔
      ∀ j choice, route[j]? = some choice →
        (stack ++ (callee :: (route.take j).map Choice.target).map Signature.key).count
          choice.target.key < 2 := by
  have extended : ∀ j, stack ++ [callee.key] ++
      ((route.map Choice.target).map Signature.key).take j =
        stack ++ (callee :: (route.take j).map Choice.target).map Signature.key := by
    intro j
    rw [← List.map_take, ← List.map_take, List.map_cons, List.append_assoc, List.singleton_append]
  simp only [unrepeated_iff, extended, List.getElem?_map, Option.map_eq_some_iff]
  constructor
  · intro all j choice found
    exact all j choice.target.key ⟨choice.target, ⟨choice, found, rfl⟩, rfl⟩
  · rintro all j _ ⟨_, ⟨choice, found, rfl⟩, rfl⟩
    exact all j choice found

/-- Arguments only get fewer, so what is left at the end was there before. -/
theorem total_foldl_sharedAfter_take_le (path : List Signature) (inherited : ArgMultiset)
    (j : Nat) :
    (path.foldl sharedAfter inherited).total ≤
      ((path.take j).foldl sharedAfter inherited).total := by
  conv_lhs => rw [← List.take_append_drop j path, List.foldl_append]
  exact total_foldl_sharedAfter_le _ _

theorem continuation_iff {index : Index} {ceiling depth : Nat} {inherited : ArgMultiset}
    {stack : List String} {callee : Signature} {route : List Choice} :
    Continuation index ceiling depth inherited stack callee route ↔
      route ∈ routes index (ceiling + 1 - depth) callee inherited stack := by
  rw [mem_routes_iff]
  constructor
  · intro way
    have deepest := way.within route.length le_rfl
    have last := way.enough route.length le_rfl
    rw [List.take_length] at last
    refine ⟨⟨?_, way.follows.linked, Index.edges_eq_nil_iff.2 way.ends,
      unrepeated_targets_iff.2 way.fresh, last⟩, way.follows⟩
    rw [List.length_map]
    omega
  · rintro ⟨down, follows⟩
    have within := down.within
    rw [List.length_map] at within
    refine ⟨follows, fun j _ => by omega, unrepeated_targets_iff.1 down.fresh, fun j _ => ?_,
      Index.edges_eq_nil_iff.1 down.ends⟩
    rw [List.map_take, ← List.take_succ_cons]
    exact down.enough.trans (total_foldl_sharedAfter_take_le _ _ _)

/-- A route comes before another if it is longer, or as long and its places are no later in the
lexicographic order. -/
def Preferred (route other : List Choice) : Prop :=
  other.length < route.length ∨
    other.length = route.length ∧ route.map Choice.site ≤ other.map Choice.site

theorem Preferred.sites_eq {route other : List Choice} (preferred : Preferred route other)
    (preferred' : Preferred other route) : route.map Choice.site = other.map Choice.site := by
  rcases preferred with longer | ⟨equal, first⟩
  · rcases preferred' with longer' | ⟨equal', -⟩ <;> omega
  · rcases preferred' with longer' | ⟨-, first'⟩
    · omega
    · exact le_antisymm first first'

/-- The chain that the search returns is that of the route which comes before all others. -/
theorem exists_preferred_of_descend {index : Index} {remaining : Nat} {callee : Signature}
    {inherited : ArgMultiset} {stack : List String} {c : CallChain}
    (returned : descend index remaining callee inherited stack = some c) :
    ∃ route ∈ routes index remaining callee inherited stack,
      c = chainOf inherited stack callee route ∧
        ∀ other ∈ routes index remaining callee inherited stack, Preferred route other := by
  rw [descend_eq_firstLongest, ← map_chainOf_routes] at returned
  have ascending := routes_ascending index remaining callee inherited stack
  obtain ⟨before, after, split, shorter, atMost⟩ := firstLongest_eq_some_iff.1 returned
  obtain ⟨earlier, here, listed, rfl, rest⟩ := List.map_eq_append_iff.1 split
  obtain ⟨route, later, rfl, rfl, rfl⟩ := List.map_eq_cons_iff.1 rest
  rw [listed] at ascending ⊢
  refine ⟨route, List.mem_append_right _ List.mem_cons_self, rfl, fun other member => ?_⟩
  rcases List.mem_append.1 member with isEarlier | notEarlier
  · have length := shorter _ (List.mem_map_of_mem isEarlier)
    rw [length_chainOf, length_chainOf] at length
    exact Or.inl (by omega)
  rcases List.mem_cons.1 notEarlier with rfl | isLater
  · exact Or.inr ⟨rfl, le_rfl⟩
  · have length := atMost _ (List.mem_map_of_mem isLater)
    rw [length_chainOf, length_chainOf] at length
    have first := (List.pairwise_cons.1 (List.pairwise_append.1 ascending).2.1).1 other isLater
    rcases Nat.lt_or_eq_of_le (show other.length ≤ route.length by omega) with isShorter | equal
    · exact Or.inl isShorter
    · exact Or.inr ⟨equal, first.le⟩

/-- The search returns nothing exactly if there is no way on from the call. Otherwise it returns the
chain of the longest way on, and among the longest that of the one whose calls come first. -/
theorem descendAt_first_longest (index : Index) (ceiling depth : Nat) (callee : Signature)
    (inherited : ArgMultiset) (stack : List String) :
    (descendAt index ceiling depth callee inherited stack = none ↔
        ¬ ∃ route, Continuation index ceiling depth inherited stack callee route) ∧
      ∀ c, descendAt index ceiling depth callee inherited stack = some c ↔
        ∃ route, Continuation index ceiling depth inherited stack callee route ∧
          c = chainOf inherited stack callee route ∧
          ∀ other, Continuation index ceiling depth inherited stack callee other →
            Preferred route other := by
  simp only [continuation_iff, descendAt]
  have none_iff : descend index (ceiling + 1 - depth) callee inherited stack = none ↔
      ¬ ∃ route, route ∈ routes index (ceiling + 1 - depth) callee inherited stack := by
    rw [descend_eq_firstLongest, firstLongest_eq_none_iff, ← map_chainOf_routes,
      List.map_eq_nil_iff, List.eq_nil_iff_forall_not_mem, not_exists]
  refine ⟨none_iff, fun c => ⟨?_, ?_⟩⟩
  · intro returned
    exact exists_preferred_of_descend returned
  · rintro ⟨route, isRoute, rfl, preferred⟩
    cases returned : descend index (ceiling + 1 - depth) callee inherited stack with
    | none => exact absurd ⟨route, isRoute⟩ (none_iff.1 returned)
    | some c =>
      obtain ⟨best, isBest, rfl, preferred'⟩ := exists_preferred_of_descend returned
      have sameSites := (preferred' route isRoute).sites_eq (preferred best isBest)
      rw [(mem_routes_iff.1 isBest).2.eq_of_sites (mem_routes_iff.1 isRoute).2 sameSites]

/-! ### Higher ceilings -/

/-- With less room there are the chains that fit, in the same order. -/
theorem descents_eq_filter {index : Index} {lower higher : Nat} (raised : lower ≤ higher)
    (callee : Signature) (inherited : ArgMultiset) (stack : List String) :
    descents index lower callee inherited stack =
      (descents index higher callee inherited stack).filter fun c =>
        c.callStack.length ≤ stack.length + lower := by
  induction lower generalizing higher callee inherited stack with
  | zero =>
    refine (List.filter_eq_nil_iff.2 fun c member => ?_).symm
    obtain ⟨rest, -, rfl⟩ := mem_descents_iff.1 member
    rw [length_chainAlong, decide_eq_true_iff]
    omega
  | succ lower inductionHypothesis =>
    obtain ⟨higher, rfl⟩ : ∃ room, higher = room + 1 := ⟨higher - 1, by omega⟩
    rw [descents, descents]
    by_cases scarce : (sharedAfter inherited callee).total < minSharedArgs
    · rw [if_pos scarce, if_pos scarce, List.filter_nil]
    have room : (stack ++ [callee.key]).length + lower = stack.length + (lower + 1) := by
      rw [List.length_append, List.length_singleton, Nat.add_assoc, Nat.add_comm 1]
    rw [if_neg scarce, if_neg scarce]
    by_cases ends : index.edges callee.decl = []
    · rw [if_pos ends, if_pos ends, List.filter_cons_of_pos, List.filter_nil]
      exact decide_eq_true (room ▸ Nat.le_add_right _ _)
    rw [if_neg ends, if_neg ends, List.filter_flatMap]
    refine List.flatMap_congr fun s _ => ?_
    rw [inductionHypothesis (Nat.le_of_succ_le_succ raised), room]

/-- The chain of one call of a first declaration, if the call leads anywhere and has a chain. -/
def siteChain (index : Index) (ceiling : Nat) (root : Signature) (call : CallSite) :
    Option CallChain :=
  ((callKey call).bind index.get?).bind fun callee =>
    descendAt index ceiling 1 callee (rootArgs root) [root.key]

theorem exploreAll_eq_siteChains (index : Index) (ceiling : Nat) :
    exploreAll index ceiling =
      index.roots.flatMap fun root => root.decl.calls.filterMap (siteChain index ceiling root) := by
  refine List.flatMap_congr fun root _ => ?_
  exact List.filterMap_filterMap ..

theorem siteChain_eq_some_iff {index : Index} {ceiling : Nat} {root : Signature} {call : CallSite}
    {c : CallChain} :
    siteChain index ceiling root call = some c ↔
      ∃ callee, (callKey call).bind index.get? = some callee ∧
        firstLongest (descents index ceiling callee (rootArgs root) [root.key]) = some c := by
  rw [siteChain, Option.bind_eq_some_iff]
  simp only [descendAt, Nat.add_sub_cancel, descend_eq_firstLongest]

section Raised

variable {index : Index} {lower higher : Nat} (raised : lower ≤ higher) {root : Signature}
  {call : CallSite}
include raised

theorem exists_siteChain_of_raised {c : CallChain}
    (found : siteChain index lower root call = some c) :
    ∃ c', siteChain index higher root call = some c' ∧
      c.callStack.length ≤ c'.callStack.length := by
  obtain ⟨callee, leads, chosen⟩ := siteChain_eq_some_iff.1 found
  have member := mem_of_firstLongest chosen
  rw [descents_eq_filter raised] at member
  obtain ⟨best, chosen', atLeast⟩ := exists_firstLongest (List.mem_filter.1 member).1
  exact ⟨best, siteChain_eq_some_iff.2 ⟨callee, leads, chosen'⟩, atLeast⟩

theorem siteChain_of_fits {c : CallChain} (found : siteChain index higher root call = some c)
    (fits : c.callStack.length ≤ lower + 1) : siteChain index lower root call = some c := by
  obtain ⟨callee, leads, chosen⟩ := siteChain_eq_some_iff.1 found
  refine siteChain_eq_some_iff.2 ⟨callee, leads, ?_⟩
  rw [descents_eq_filter raised]
  refine firstLongest_filter chosen (decide_eq_true ?_)
  rw [List.length_singleton]
  omega

end Raised

/-- A search finds a chain for each call, at most one, and a higher ceiling lets no chain get
shorter. It leaves the chain of a call as it was, unless the new one did not fit before. -/
theorem raised_ceiling (index : Index) (lower higher : Nat) (raised : lower ≤ higher)
    (root : Signature) (call : CallSite) :
    (∀ ceiling, exploreAll index ceiling =
        index.roots.flatMap fun r => r.decl.calls.filterMap (siteChain index ceiling r)) ∧
      (∀ c, siteChain index lower root call = some c →
        ∃ c', siteChain index higher root call = some c' ∧
          c.callStack.length ≤ c'.callStack.length) ∧
      (∀ c', siteChain index higher root call = some c' → c'.callStack.length ≤ lower + 1 →
        siteChain index lower root call = some c') ∧
      (siteChain index higher root call ≠ siteChain index lower root call →
        ∃ c', siteChain index higher root call = some c' ∧ lower + 1 < c'.callStack.length) := by
  refine ⟨exploreAll_eq_siteChains index, fun c found => exists_siteChain_of_raised raised found,
    fun c' found fits => siteChain_of_fits raised found fits, fun changed => ?_⟩
  cases after : siteChain index higher root call with
  | none =>
    cases before : siteChain index lower root call with
    | none => exact absurd (after.trans before.symm) changed
    | some c =>
      obtain ⟨c', found, -⟩ := exists_siteChain_of_raised raised before
      rw [after] at found
      cases found
  | some c' =>
    refine ⟨c', rfl, Nat.lt_of_not_le fun fits => changed ?_⟩
    rw [after, siteChain_of_fits raised after fits]

/-- A walk that forks: one branch ends at once, the two others go on. -/
def forkedWalk : List FunctionDecl :=
  [threeInts "top" ["log", "fork"] 1, threeInts "fork" ["short", "long", "longToo"] 2,
    threeInts "short" [] 3, threeInts "long" ["tail"] 4, threeInts "longToo" ["tail"] 5,
    threeInts "tail" [] 6]

/-- With room for one call more the short branch gives way to the first of the long ones. -/
theorem forkedWalk_raised :
    let index := Index.build forkedWalk 2
    ∃ root ∈ index.roots, ∃ call ∈ root.decl.calls,
      (siteChain index 2 root call).map CallChain.callStack = some ["top", "fork", "short"] ∧
        (siteChain index 3 root call).map CallChain.callStack =
          some ["top", "fork", "long", "tail"] ∧
        ∃ c, siteChain index 3 root call = some c ∧ 3 < c.callStack.length := by
  intro index
  refine ⟨signatureOf (threeInts "top" ["log", "fork"] 1), by decide +kernel,
    ⟨.function "fork", ⟨"unit.go", 1, 10⟩⟩, by decide +kernel, by decide +kernel,
    by decide +kernel, ?_⟩
  refine (raised_ceiling index 2 3 (by decide) _ _).2.2.2 fun same => ?_
  exact absurd (congrArg (Option.map CallChain.callStack) same) (by decide +kernel)

end ParamChain.Chain
