import Mathlib.Data.List.Permutation
import ParamChain.Proofs.Findings
import ParamChain.Proofs.Simulation

/-
This file proves that the findings of a unit do not depend on how its declarations are arranged.

Declarations may be put in another order, as long as no two of the eligible ones have one key. A
key then leads to the same declaration in both orders, so the calls do too, and each first
declaration has the same chains. The chains are found in another order, and of equally long ones
another may come first, but a stack stands for one chain only and the kept ones are those with
maximal stacks.

Declarations may also be mixed with others that they have nothing to do with. Restricted to the
keys of one part, the index of the whole is the index of that part; a path that begins in a part
stays there, and a stack that is a run of another lies in the same part. Here two declarations of
one part may have one key: what one of them loses to the other it loses also in the whole.
-/

namespace ParamChain

namespace Chain

/-! ### Another order -/

/-- Where no two declarations have one key, another order of the declarations gives the same chains
in another order. -/
theorem exploreAll_perm {first second : Index} (reordered : first.roots.Perm second.roots)
    (distinct : first.keys.Nodup) (ceiling : Nat) :
    (exploreAll first ceiling).Perm (exploreAll second ceiling) := by
  have sameEdges : ∀ d, first.edges d = second.edges d := by
    intro d
    rw [Index.edges, Index.edges, Index.get?_eq_of_perm reordered distinct]
  have sameRoots : exploreAll first ceiling =
      first.roots.flatMap (exploreRoot second ceiling) := by
    refine List.flatMap_congr fun root _ => ?_
    exact exploreRoot_eq_of_edges_eq (fun _ => True) (fun s _ => sameEdges s.decl)
      (fun _ _ _ _ => trivial) ceiling trivial
  rw [sameRoots]
  exact reordered.flatMap_right _

/-! ### Parts -/

/-- The declarations with keys that pass a test. -/
def Index.restrict (index : Index) (test : String → Bool) : Index :=
  ⟨index.roots.filter fun s => test s.key⟩

theorem Index.get?_restrict (index : Index) (test : String → Bool) (key : String) :
    (index.restrict test).get? key = if test key then index.get? key else none := by
  rw [get?, restrict, ← List.filter_reverse, List.find?_filter]
  split
  · next passes =>
    refine congrArg (index.roots.reverse.find? ·) (funext fun s => ?_)
    by_cases same : s.key = key
    · simp [same, passes]
    · simp [same]
  · next fails =>
    rw [List.find?_eq_none]
    intro s _ found
    have both : test s.key = true ∧ s.key = key := by simpa using found
    exact fails (both.2 ▸ both.1)

/-- A test on keys that no call crosses: a declaration passes exactly if what it calls passes. -/
def Index.Separated (index : Index) (test : String → Bool) : Prop :=
  ∀ s ∈ index.roots, ∀ t ∈ index.edges s.decl, test t.key = test s.key

/-- Whether a stack begins with a key that passes the test. -/
def startsIn (test : String → Bool) (stack : List String) : Bool :=
  stack.head?.any test

theorem head?_of_mem_exploreRoot {index : Index} {ceiling : Nat} {root : Signature} {c : CallChain}
    (found : c ∈ exploreRoot index ceiling root) : c.callStack.head? = some root.key := by
  obtain ⟨callee, -, returned⟩ := List.mem_filterMap.1 found
  rw [descendAt, descend_eq_firstLongest] at returned
  obtain ⟨rest, -, rfl⟩ := mem_descents_iff.1 (mem_of_firstLongest returned)
  rfl

theorem filter_flatMap_exploreRoot (index : Index) (test : String → Bool) (ceiling : Nat)
    (roots : List Signature) :
    (roots.flatMap (exploreRoot index ceiling)).filter (fun c => startsIn test c.callStack) =
      (roots.filter fun s => test s.key).flatMap (exploreRoot index ceiling) := by
  induction roots with
  | nil => rfl
  | cons root rest inductionHypothesis =>
    have begins : ∀ c ∈ exploreRoot index ceiling root,
        startsIn test c.callStack = test root.key := by
      intro c found
      rw [startsIn, head?_of_mem_exploreRoot found]
      rfl
    rw [List.flatMap_cons, List.filter_append, inductionHypothesis, List.filter_congr begins,
      List.filter_cons]
    cases test root.key with
    | true => rw [List.filter_true, if_pos rfl, List.flatMap_cons]
    | false => rw [List.filter_false, if_neg Bool.false_ne_true, List.nil_append]

section Parts

variable {index : Index} {test : String → Bool} (separated : index.Separated test)
include separated

/-- Inside a part a call leads where it leads in the whole, as none leads out of the part. -/
theorem Index.edges_restrict {s : Signature} (isRoot : s ∈ index.roots)
    (passes : test s.key = true) : (index.restrict test).edges s.decl = index.edges s.decl := by
  refine List.filterMap_congr fun call member => ?_
  cases named : callKey call with
  | none => rfl
  | some key =>
    rw [Option.bind_some, Option.bind_some, get?_restrict]
    split
    · rfl
    · next fails =>
      cases found : index.get? key with
      | none => rfl
      | some t =>
        have edge : t ∈ index.edges s.decl := mem_edges.2 ⟨call, member, key, named, found⟩
        have inside := separated s isRoot t edge
        rw [key_of_get? found, passes] at inside
        exact absurd inside fails

/-- The chains that begin in a part are the chains of the part. -/
theorem filter_exploreAll (ceiling : Nat) :
    (exploreAll index ceiling).filter (fun c => startsIn test c.callStack) =
      exploreAll (index.restrict test) ceiling := by
  have ofPart : ∀ root ∈ (index.restrict test).roots,
      exploreRoot index ceiling root = exploreRoot (index.restrict test) ceiling root := by
    intro root member
    refine exploreRoot_eq_of_edges_eq (fun s => s ∈ (index.restrict test).roots)
      (fun s inside => ?_) (fun s inside t edge => ?_) ceiling member
    · obtain ⟨isRoot, passes⟩ := List.mem_filter.1 inside
      exact (Index.edges_restrict separated isRoot passes).symm
    · obtain ⟨isRoot, passes⟩ := List.mem_filter.1 inside
      refine List.mem_filter.2 ⟨Index.mem_roots_of_mem_edges edge, ?_⟩
      rw [separated s isRoot t edge, passes]
  rw [exploreAll, filter_flatMap_exploreRoot, exploreAll, ← List.flatMap_congr ofPart]
  rfl

/-- A path stays in the part where it begins. -/
theorem startsIn_of_mem_callStack {ceiling : Nat} {c : CallChain}
    (found : c ∈ exploreAll index ceiling) {key : String} (member : key ∈ c.callStack) :
    test key = startsIn test c.callStack := by
  obtain ⟨root, isRoot, callee, edge, rest, down, rfl⟩ := exists_descent_of_mem_exploreAll found
  have linked : (root :: callee :: rest).IsChain fun s next => next ∈ index.edges s.decl :=
    .cons_cons edge down.linked
  have stays : ∀ s ∈ root :: callee :: rest, s ∈ index.roots ∧ test s.key = test root.key := by
    refine List.IsChain.induction _ _ linked (fun s t step inside => ?_) fun _ => ⟨isRoot, rfl⟩
    exact ⟨Index.mem_roots_of_mem_edges step, (separated s inside.1 t step).trans inside.2⟩
  obtain ⟨s, onPath, rfl⟩ := List.mem_map.1 (show key ∈ (root :: callee :: rest).map _ from member)
  exact (stays s onPath).2

/-- What is kept of the chains that begin in a part is what is kept of the part. -/
theorem filter_reduceChains (free : ∀ key ∈ index.keys, ArrowFree key) (ceiling : Nat) :
    (reduceChains (exploreAll index ceiling)).filter (fun c => startsIn test c.callStack) =
      reduceChains (exploreAll (index.restrict test) ceiling) := by
  rw [← filter_exploreAll separated ceiling]
  refine reduceChains_filter ?_ ?_ ?_
  · intro c found key member
    exact free key (mem_keys_of_mem_callStack found key member)
  · intro c d same
    rw [same]
  · intro c foundC k foundK run passes
    obtain ⟨key, rest, stack⟩ := List.exists_cons_of_ne_nil (callStack_ne_nil foundC)
    have onC : key ∈ c.callStack := stack ▸ List.mem_cons_self
    have onBoth : key ∈ k.callStack := run.subset onC
    rw [← startsIn_of_mem_callStack separated foundK onBoth,
      startsIn_of_mem_callStack separated foundC onC]
    exact passes

end Parts

end Chain

open Chain Report

/-- The order of the declarations changes the order of the diagnostics at most, where eligible
declarations have different keys without arrows. -/
theorem run_reordered (a : Analyzer) (first second : SourceUnit)
    (reordered : first.declarations.Perm second.declarations)
    (distinct : (eligibleKeys first.declarations a.minimum).Nodup)
    (free : ∀ key ∈ eligibleKeys first.declarations a.minimum, ArrowFree key) :
    (a.run first).Perm (a.run second) := by
  have roots : (Index.build first.declarations a.minimum).roots.Perm
      (Index.build second.declarations a.minimum).roots :=
    (reordered.filter _).map _
  rw [← Index.keys_build] at distinct
  rw [Analyzer.run_eq, Analyzer.run_eq]
  refine (reduceChains_perm (exploreAll_perm roots distinct a.ceiling) ?_ ?_).map _
  · intro c found
    exact arrowFree_of_mem_callStack (fun d declared => free _ (List.mem_map_of_mem declared)) found
  · intro c foundC d foundD
    exact eq_of_callStack_eq distinct foundC foundD

theorem map_callStack_run (a : Analyzer) (unit : SourceUnit) :
    (a.run unit).map Diagnostic.callStack =
      (a.chains unit.declarations).map CallChain.callStack := by
  rw [Analyzer.run_eq, List.map_map]
  rfl

/-- Reading and writing both check first, and a check is logged or fails. -/
def forkedChecks : List FunctionDecl :=
  [threeInts "read" ["check"] 1, threeInts "write" ["check"] 2, threeInts "check" ["log", "fail"] 3,
    threeInts "log" [] 4, threeInts "fail" [] 5]

/-- From the last declaration to the first, the two longest stacks change places. -/
theorem forkedChecks_reordered :
    let a : Analyzer := ⟨2, 10⟩
    (a.run (oneFile forkedChecks)).map Diagnostic.callStack =
        [["read", "check", "log"], ["write", "check", "log"], ["check", "fail"]] ∧
      (a.run (oneFile forkedChecks.reverse)).map Diagnostic.callStack =
        [["write", "check", "log"], ["read", "check", "log"], ["check", "fail"]] ∧
      (a.run (oneFile forkedChecks)).Perm (a.run (oneFile forkedChecks.reverse)) := by
  intro a
  have reordered : (oneFile forkedChecks).declarations.Perm
      (oneFile forkedChecks.reverse).declarations := by decide
  refine ⟨?_, ?_, run_reordered a _ _ reordered (by decide) (by decide)⟩
  · rw [map_callStack_run]
    cbv
  · rw [map_callStack_run]
    cbv

/-! ### Unrelated declarations mixed -/

/-- The last list runs through the two others, each in its order. -/
inductive Interleaving {Item : Type} : List Item → List Item → List Item → Prop
  | nil : Interleaving [] [] []
  | left (item : Item) {left right whole : List Item} :
      Interleaving left right whole → Interleaving (item :: left) right (item :: whole)
  | right (item : Item) {left right whole : List Item} :
      Interleaving left right whole → Interleaving left (item :: right) (item :: whole)

namespace Interleaving

variable {Item : Type} {left right whole : List Item}

theorem symm (mixed : Interleaving left right whole) : Interleaving right left whole := by
  induction mixed with
  | nil => exact .nil
  | left item _ inductionHypothesis => exact .right item inductionHypothesis
  | right item _ inductionHypothesis => exact .left item inductionHypothesis

theorem mem_iff (mixed : Interleaving left right whole) {item : Item} :
    item ∈ whole ↔ item ∈ left ∨ item ∈ right := by
  induction mixed with
  | nil => simp
  | left _ _ inductionHypothesis => rw [List.mem_cons, List.mem_cons, inductionHypothesis, or_assoc]
  | right _ _ inductionHypothesis =>
    rw [List.mem_cons, List.mem_cons, inductionHypothesis, or_left_comm]

theorem filter (mixed : Interleaving left right whole) (test : Item → Bool) :
    Interleaving (left.filter test) (right.filter test) (whole.filter test) := by
  induction mixed with
  | nil => exact .nil
  | left item _ inductionHypothesis =>
    rw [List.filter_cons, List.filter_cons]
    split
    · exact .left item inductionHypothesis
    · exact inductionHypothesis
  | right item _ inductionHypothesis =>
    rw [List.filter_cons, List.filter_cons]
    split
    · exact .right item inductionHypothesis
    · exact inductionHypothesis

/-- A test that tells the two lists apart gives the one of them back. -/
theorem filter_eq_left (mixed : Interleaving left right whole) {test : Item → Bool}
    (passes : ∀ item ∈ left, test item = true) (fails : ∀ item ∈ right, test item = false) :
    whole.filter test = left := by
  induction mixed with
  | nil => rfl
  | left item _ inductionHypothesis =>
    rw [List.filter_cons_of_pos (passes item List.mem_cons_self),
      inductionHypothesis (fun i member => passes i (List.mem_cons_of_mem _ member)) fails]
  | right item _ inductionHypothesis =>
    rw [List.filter_cons_of_neg (by rw [fails item List.mem_cons_self]; exact Bool.false_ne_true),
      inductionHypothesis passes fun i member => fails i (List.mem_cons_of_mem _ member)]

end Interleaving

/-- Declarations that have nothing to do with each other: the eligible ones have different keys, and
none calls a key of the others. -/
structure Unrelated (minimum : Nat) (left right : List FunctionDecl) : Prop where
  disjoint : ∀ key ∈ eligibleKeys left minimum, key ∉ eligibleKeys right minimum
  callsLeft : ∀ d ∈ eligible left minimum, ∀ call ∈ d.calls, ∀ key ∈ callKey call,
    key ∉ eligibleKeys right minimum
  callsRight : ∀ d ∈ eligible right minimum, ∀ call ∈ d.calls, ∀ key ∈ callKey call,
    key ∉ eligibleKeys left minimum

theorem Unrelated.symm {minimum : Nat} {left right : List FunctionDecl}
    (unrelated : Unrelated minimum left right) : Unrelated minimum right left where
  disjoint := fun key member member' => unrelated.disjoint key member' member
  callsLeft := unrelated.callsRight
  callsRight := unrelated.callsLeft

section Mixed

variable {minimum : Nat} {left right whole : List FunctionDecl}
  (mixed : Interleaving left right whole) (unrelated : Unrelated minimum left right)
include mixed unrelated

/-- The index of a part is the index of the whole, restricted to the keys of the part. -/
theorem build_restrict :
    (Index.build whole minimum).restrict (fun key => key ∈ eligibleKeys left minimum) =
      Index.build left minimum := by
  have part : (eligible whole minimum).filter (fun d => declKey d ∈ eligibleKeys left minimum) =
      eligible left minimum := by
    refine (mixed.filter _).filter_eq_left (fun d member => ?_) fun d member => ?_
    · exact decide_eq_true (List.mem_map_of_mem member)
    · refine decide_eq_false fun inLeft => ?_
      exact unrelated.disjoint _ inLeft (List.mem_map_of_mem member)
  rw [Index.restrict, Index.roots_build, List.filter_map]
  exact congrArg (fun decls => Index.mk (decls.map signatureOf)) part

/-- No call crosses from one part to the other. -/
theorem separated_build :
    (Index.build whole minimum).Separated (fun key => key ∈ eligibleKeys left minimum) := by
  intro s isRoot t edge
  obtain ⟨call, member, key, named, found⟩ := Index.mem_edges.1 edge
  obtain ⟨declaredS, sameS⟩ := Index.mem_roots_build.1 isRoot
  obtain ⟨declaredT, sameT⟩ := Index.mem_roots_build.1 (Index.mem_roots_of_mem_edges edge)
  have eitherS := (mixed.filter fun d => minimum ≤ d.paramUnits).mem_iff.1 declaredS
  have eitherT := (mixed.filter fun d => minimum ≤ d.paramUnits).mem_iff.1 declaredT
  have keyS : s.key = declKey s.decl := congrArg Signature.key sameS
  have keyT : t.key = declKey t.decl := congrArg Signature.key sameT
  have calledT : t.key ∈ callKey call := by rw [Index.key_of_get? found, named, Option.mem_def]
  rw [decide_eq_decide]
  constructor
  · intro leftT
    rcases eitherS with leftS | rightS
    · exact keyS ▸ List.mem_map_of_mem leftS
    · exact absurd leftT (unrelated.callsRight s.decl rightS call member t.key calledT)
  · intro leftS
    rcases eitherT with leftT | rightT
    · exact keyT ▸ List.mem_map_of_mem leftT
    have keyRightT : t.key ∈ eligibleKeys right minimum := keyT ▸ List.mem_map_of_mem rightT
    rcases eitherS with declLeftS | rightS
    · exact absurd keyRightT (unrelated.callsLeft s.decl declLeftS call member t.key calledT)
    · exact absurd (keyS ▸ List.mem_map_of_mem rightS) (unrelated.disjoint s.key leftS)

end Mixed

/-- Whether a diagnostic begins with an eligible key of the unit. -/
def Analyzer.beginsIn (a : Analyzer) (unit : SourceUnit) (d : Diagnostic) : Bool :=
  startsIn (fun key => key ∈ eligibleKeys unit.declarations a.minimum) d.callStack

/-- The diagnostics on mixed declarations that begin in one part are those on the part alone. -/
theorem filter_beginsIn_run (a : Analyzer) {unit part other : SourceUnit}
    (mixed : Interleaving part.declarations other.declarations unit.declarations)
    (unrelated : Unrelated a.minimum part.declarations other.declarations)
    (free : ∀ key ∈ eligibleKeys unit.declarations a.minimum, ArrowFree key) :
    (a.run unit).filter (a.beginsIn part) = a.run part := by
  rw [← Index.keys_build] at free
  rw [Analyzer.run_eq, Analyzer.run_eq, List.filter_map, Analyzer.chains, Analyzer.chains,
    ← build_restrict mixed unrelated,
    ← filter_reduceChains (separated_build mixed unrelated) free a.ceiling]
  rfl

/-- A diagnostic begins with an eligible key. -/
theorem exists_key_of_mem_run {a : Analyzer} {unit : SourceUnit} {d : Diagnostic}
    (reported : d ∈ a.run unit) :
    ∃ key ∈ eligibleKeys unit.declarations a.minimum, d.callStack.head? = some key := by
  rw [Analyzer.run_eq] at reported
  obtain ⟨c, isKept, rfl⟩ := List.mem_map.1 reported
  have found := mem_of_mem_reduceChains isKept
  obtain ⟨key, rest, stack⟩ := List.exists_cons_of_ne_nil (callStack_ne_nil found)
  refine ⟨key, ?_, by rw [Diagnostic.ofChain, stack, List.head?_cons]⟩
  rw [← Index.keys_build]
  exact mem_keys_of_mem_callStack found key (stack ▸ List.mem_cons_self)

/-- Unrelated declarations do not influence each other. The diagnostics on the whole that begin
with a key of one part are those on the part alone, in the same order, and there are no others. -/
theorem run_interleaved (a : Analyzer) (unit left right : SourceUnit)
    (mixed : Interleaving left.declarations right.declarations unit.declarations)
    (unrelated : Unrelated a.minimum left.declarations right.declarations)
    (free : ∀ key ∈ eligibleKeys unit.declarations a.minimum, ArrowFree key) :
    (a.run unit).filter (a.beginsIn left) = a.run left ∧
      (a.run unit).filter (a.beginsIn right) = a.run right ∧
      ∀ d ∈ a.run unit, a.beginsIn left d = true ∨ a.beginsIn right d = true := by
  refine ⟨filter_beginsIn_run a mixed unrelated free,
    filter_beginsIn_run a mixed.symm unrelated.symm free, fun d reported => ?_⟩
  obtain ⟨key, isKey, begins⟩ := exists_key_of_mem_run reported
  obtain ⟨f, declared, rfl⟩ := List.mem_map.1 isKey
  rw [Analyzer.beginsIn, Analyzer.beginsIn, startsIn, startsIn, begins]
  rcases (mixed.filter fun f => a.minimum ≤ f.paramUnits).mem_iff.1 declared with inLeft | inRight
  · exact Or.inl (decide_eq_true (List.mem_map_of_mem inLeft))
  · exact Or.inr (decide_eq_true (List.mem_map_of_mem inRight))

/-- A function declared twice, of which the first declaration has lost its key to the second; the
second calls itself and a leaf. -/
def mixedWalks : List FunctionDecl :=
  [threeInts "walk" ["stop"] 11, threeInts "walk" ["walk", "stop"] 12, threeInts "stop" [] 13]

/-- Between the checks stand walks that have nothing to do with them. -/
theorem checks_and_walks_apart :
    let whole := oneFile [threeInts "walk" ["stop"] 11, threeInts "read" ["check"] 1,
      threeInts "write" ["check"] 2, threeInts "walk" ["walk", "stop"] 12,
      threeInts "check" ["log", "fail"] 3, threeInts "log" [] 4, threeInts "stop" [] 13,
      threeInts "fail" [] 5]
    let a : Analyzer := ⟨2, 10⟩
    Unrelated 2 forkedChecks mixedWalks ∧
      (a.run whole).map Diagnostic.callStack =
        [["read", "check", "log"], ["write", "check", "log"], ["walk", "walk", "stop"],
          ["check", "fail"]] ∧
      (a.run whole).filter (a.beginsIn (oneFile forkedChecks)) = a.run (oneFile forkedChecks) ∧
      (a.run whole).filter (a.beginsIn (oneFile mixedWalks)) = a.run (oneFile mixedWalks) := by
  intro whole a
  have unrelated : Unrelated 2 forkedChecks mixedWalks := ⟨by decide, by decide, by decide⟩
  have mixed : Interleaving forkedChecks mixedWalks whole.declarations :=
    .right _ (.left _ (.left _ (.right _ (.left _ (.left _ (.right _ (.left _ .nil)))))))
  have apart := run_interleaved a whole (oneFile forkedChecks) (oneFile mixedWalks) mixed unrelated
    (by decide)
  refine ⟨unrelated, ?_, apart.1, apart.2.1⟩
  rw [map_callStack_run]
  cbv

end ParamChain
