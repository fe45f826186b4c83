import ParamChain.Proofs.Arrangement
import ParamChain.Proofs.Findings
import ParamChain.Proofs.Simulation

/-
This file proves that the findings of a unit depend on no more of its declarations than they should.

Declarations that are not eligible, calls that lead nowhere and repeated calls are noise. Taking it
away takes no edge away, so the search over what is left is simulated by the search over all; only
the declarations at the ends of the chains have lost some calls, and a diagnostic reads nothing but
the position of its leaf.

A declaration is known to the analysis by its key, the number of its parameters of each type and the
keys of its calls. Two lists that agree in these have the same findings, whatever the places, the
names and the grouping of parameters and the spelling of receivers. What differs is where a finding
is placed, and there the two leaves stand at the same place in their lists.
-/

namespace ParamChain

namespace Chain

/-! ### Indexes that match -/

section Matched

variable {Related : Signature → Signature → Prop} {first second : Index}

/-- Declarations that match one for one are looked up as matching ones. -/
theorem Index.get?_rel (sameKey : ∀ s t, Related s t → s.key = t.key)
    (roots : List.Forall₂ Related first.roots second.roots) (key : String) :
    Option.Rel Related (first.get? key) (second.get? key) := by
  rw [get?, get?]
  have reversed := List.forall₂_reverse_iff.2 roots
  generalize first.roots.reverse = list at reversed ⊢
  generalize second.roots.reverse = list' at reversed ⊢
  induction reversed with
  | nil => exact .none
  | @cons s t rest rest' pair _ inductionHypothesis =>
    rw [List.find?_cons, List.find?_cons, sameKey s t pair]
    split
    · exact .some pair
    · exact inductionHypothesis

/-- Calls with the same keys lead to matching declarations. -/
theorem Index.edges_rel (sameKey : ∀ s t, Related s t → s.key = t.key)
    (roots : List.Forall₂ Related first.roots second.roots) {d e : FunctionDecl}
    (calls : d.calls.map callKey = e.calls.map callKey) :
    List.Forall₂ Related (first.edges d) (second.edges e) := by
  have byKeys : ∀ (index : Index) (d : FunctionDecl),
      index.edges d = (d.calls.map callKey).filterMap fun key => key.bind index.get? := by
    intro index d
    rw [List.filterMap_map]
    rfl
  have sameKeys : List.Forall₂ Eq (e.calls.map callKey) (e.calls.map callKey) :=
    List.forall₂_refl _
  rw [byKeys, byKeys, calls]
  refine List.rel_filterMap ?_ sameKeys
  rintro key _ rfl
  cases key with
  | none => exact .none
  | some key => exact get?_rel sameKey roots key

theorem Index.distinctEdges_rel (sameKey : ∀ s t, Related s t → s.key = t.key)
    (roots : List.Forall₂ Related first.roots second.roots) {d e : FunctionDecl}
    (calls : d.calls.map callKey = e.calls.map callKey) :
    List.Forall₂ Related (first.distinctEdges d) (second.distinctEdges e) :=
  firstsBy_forall₂ sameKey (edges_rel sameKey roots calls)

end Matched

/-! ### Noise -/

/-- The calls with one of the keys, the first with each. -/
def callsAmong (keys : List String) (calls : List CallSite) : List CallSite :=
  firstsBy callKey (calls.filter fun call => (callKey call).any (· ∈ keys))

/-- A declaration with the calls that have one of the keys, each made once. -/
def quiet (keys : List String) (d : FunctionDecl) : FunctionDecl :=
  { d with calls := callsAmong keys d.calls }

/-- The eligible declarations with the calls that lead to eligible declarations, each made once. -/
def withoutNoise (decls : List FunctionDecl) (minimum : Nat) : List FunctionDecl :=
  (eligible decls minimum).map (quiet (eligibleKeys decls minimum))

/-- The calls that are left lead to the same declarations: a repeated call costs a repeated edge
only, and a call without an eligible key had none. -/
theorem Index.distinctEdges_quiet (index : Index) (d : FunctionDecl) :
    index.distinctEdges (quiet index.keys d) = index.distinctEdges d := by
  rw [distinctEdges, distinctEdges, edges, edges, quiet, callsAmong, firstsBy_filterMap,
    List.filterMap_filter]
  · refine congrArg _ (List.filterMap_congr fun call _ => ?_)
    split
    · rfl
    · next noise =>
      cases named : callKey call with
      | none => rfl
      | some key =>
        rw [named] at noise
        exact (get?_eq_none_iff.2 (by simpa using noise)).symm
  · intro call _ call' _ same
    rw [same]

/-- A declaration and what is left of it. -/
def Quietened (keys : List String) (s t : Signature) : Prop :=
  t = ⟨s.key, quiet keys s.decl⟩

theorem Quietened.key_eq {keys : List String} : ∀ s t, Quietened keys s t → s.key = t.key := by
  rintro s _ rfl
  rfl

/-- Every eligible declaration is left, and no other. -/
theorem forall₂_withoutNoise (decls : List FunctionDecl) (minimum : Nat) :
    List.Forall₂ (Quietened (eligibleKeys decls minimum)) (Index.build decls minimum).roots
      (Index.build (withoutNoise decls minimum) minimum).roots := by
  have stillEligible : eligible (withoutNoise decls minimum) minimum =
      withoutNoise decls minimum := by
    refine List.filter_eq_self.2 fun d member => ?_
    obtain ⟨f, declared, rfl⟩ := List.mem_map.1 member
    exact decide_eq_true (mem_eligible.1 declared).2
  rw [Index.roots_build, Index.roots_build, stillEligible, withoutNoise, List.map_map,
    List.forall₂_map_left_iff, List.forall₂_map_right_iff, List.forall₂_same]
  exact fun d _ => rfl

/-- What is left leads where the whole leads. -/
theorem simulates_withoutNoise (decls : List FunctionDecl) (minimum : Nat) :
    Simulates (Quietened (eligibleKeys decls minimum)) (Index.build decls minimum)
      (Index.build (withoutNoise decls minimum) minimum) where
  key := Quietened.key_eq _ _
  args := by
    rintro s _ rfl
    rfl
  edges := by
    rintro s _ rfl
    rw [← Index.distinctEdges_quiet, Index.keys_build]
    exact Index.distinctEdges_rel Quietened.key_eq (forall₂_withoutNoise decls minimum) rfl

/-! ### What a declaration is known by -/

/-- Declarations that the analysis cannot tell apart: they have one key, as many parameters of every
type, and calls with the same keys. -/
structure SameShape (d e : FunctionDecl) : Prop where
  key : declKey d = declKey e
  units : ∀ t, unitsOf d.params t = unitsOf e.params t
  calls : d.calls.map callKey = e.calls.map callKey

instance (d e : FunctionDecl) : Decidable (SameShape d e) :=
  decidable_of_iff
    (declKey d = declKey e ∧ paramTypes d.params = paramTypes e.params ∧
      d.calls.map callKey = e.calls.map callKey) <| by
    rw [Multiset.ext]
    simp only [count_paramTypes]
    exact ⟨fun ⟨key, units, calls⟩ => ⟨key, units, calls⟩,
      fun same => ⟨same.key, same.units, same.calls⟩⟩

theorem SameShape.args {d e : FunctionDecl} (same : SameShape d e) :
    ArgMultiset.ofParams d.params = ArgMultiset.ofParams e.params := by
  refine ArgMultiset.eq_of_count_eq fun t => ?_
  rw [ArgMultiset.count_ofParams, ArgMultiset.count_ofParams, same.units]

theorem SameShape.paramUnits {d e : FunctionDecl} (same : SameShape d e) :
    d.paramUnits = e.paramUnits := by
  rw [← ArgMultiset.total_ofParams, ← ArgMultiset.total_ofParams, same.args]

/-- Declarations of one shape that stand at the same place in two lists. -/
structure Paired (decls decls' : List FunctionDecl) (s t : Signature) : Prop where
  shape : SameShape s.decl t.decl
  place : ∃ i : Nat, decls[i]? = some s.decl ∧ decls'[i]? = some t.decl
  keyFirst : s.key = declKey s.decl
  keySecond : t.key = declKey t.decl

section Paired

variable {decls decls' : List FunctionDecl}

theorem Paired.key_eq : ∀ s t, Paired decls decls' s t → s.key = t.key := by
  intro s t paired
  rw [paired.keyFirst, paired.keySecond, paired.shape.key]

/-- Lists of one shape have matching indexes. -/
theorem forall₂_paired (same : List.Forall₂ SameShape decls decls') (minimum : Nat) :
    List.Forall₂ (Paired decls decls') (Index.build decls minimum).roots
      (Index.build decls' minimum).roots := by
  have placed : List.Forall₂
      (fun d e => SameShape d e ∧ ∃ i : Nat, decls[i]? = some d ∧ decls'[i]? = some e)
      decls decls' := by
    rw [List.forall₂_iff_zip] at same ⊢
    refine ⟨same.1, fun {d e} member => ⟨same.2 member, ?_⟩⟩
    obtain ⟨i, found⟩ := List.mem_iff_getElem?.1 member
    exact ⟨i, List.getElem?_zip_eq_some.1 found⟩
  rw [Index.roots_build, Index.roots_build]
  refine List.rel_map ?_ (List.rel_filter ?_ placed)
  · rintro d e ⟨shape, place⟩
    exact ⟨shape, place, rfl, rfl⟩
  · rintro d e ⟨shape, -⟩
    simp only [shape.paramUnits]

theorem simulates_paired (same : List.Forall₂ SameShape decls decls') (minimum : Nat) :
    Simulates (Paired decls decls') (Index.build decls minimum)
      (Index.build decls' minimum) where
  key := Paired.key_eq _ _
  args := fun paired => paired.shape.args
  edges := fun paired =>
    Index.distinctEdges_rel Paired.key_eq (forall₂_paired same minimum) paired.shape.calls

end Paired

end Chain

open Chain Report

/-- Chains with the same stack and the same shared arguments have the same diagnostic, but for its
position. -/
theorem ofChain_eq {c d : CallChain} (sameStack : c.callStack = d.callStack)
    (sameArgs : c.sharedArgs = d.sharedArgs) :
    Diagnostic.ofChain c = { Diagnostic.ofChain d with position := c.leaf.position } := by
  obtain ⟨stack, args, leaf⟩ := c
  obtain ⟨stack', args', leaf'⟩ := d
  simp only at sameStack sameArgs
  subst sameStack sameArgs
  rfl

/-- Noise changes nothing: without the declarations that are not eligible, the calls that lead
nowhere and the repeated calls the diagnostics are the same, in the same order. -/
theorem run_withoutNoise (a : Analyzer) (noisy clean : SourceUnit)
    (cleaned : clean.declarations = withoutNoise noisy.declarations a.minimum) :
    a.run noisy = a.run clean := by
  rw [Analyzer.run_eq, Analyzer.run_eq, ← List.forall₂_eq_eq_eq, Analyzer.chains, Analyzer.chains,
    cleaned]
  refine List.rel_map ?_ ((simulates_withoutNoise noisy.declarations a.minimum).reduceChains
    (forall₂_withoutNoise noisy.declarations a.minimum) a.ceiling)
  rintro c d ⟨sameStack, sameArgs, s, _, rfl, leaf, leaf'⟩
  have samePosition : c.leaf.position = d.leaf.position := by
    rw [← leaf, ← leaf']
    rfl
  rw [ofChain_eq sameStack sameArgs, samePosition]
  rfl

/-- A reader whose check is called twice, between a call that leads to no declaration and one that
could not be resolved; the check calls a helper with too few parameters and repeats itself. -/
def noisyChecks : List FunctionDecl :=
  let read := threeInts "read" ["check", "print", "check"] 1
  [{ read with calls := read.calls ++ [⟨.unresolved, ⟨"unit.go", 1, 40⟩⟩] },
    threeInts "check" ["log", "helper", "log", "fail", "log"] 2,
    declOf "helper" [⟨["x"], "int"⟩] ["check"] 3, threeInts "log" [] 4,
    threeInts "fail" ["helper"] 5]

/-- With and without its noise the reader is reported in the same way. -/
theorem noisyChecks_cleaned :
    let clean := [threeInts "read" ["check"] 1, threeInts "check" ["log", "fail"] 2,
      threeInts "log" [] 4, threeInts "fail" [] 5]
    let a : Analyzer := ⟨2, 10⟩
    withoutNoise noisyChecks 2 = clean ∧
      (a.run (oneFile noisyChecks)).map Diagnostic.callStack =
        [["read", "check", "log"], ["check", "fail"]] ∧
      a.run (oneFile noisyChecks) = a.run (oneFile clean) := by
  intro clean a
  have cleaned : withoutNoise noisyChecks 2 = clean := by decide
  refine ⟨cleaned, ?_, run_withoutNoise a (oneFile noisyChecks) (oneFile clean) cleaned.symm⟩
  rw [map_callStack_run]
  cbv

/-- The declaration that a diagnostic stands at: what the last key of its stack leads to. -/
structure StandsAt (a : Analyzer) (decls : List FunctionDecl) (d : Diagnostic)
    (leaf : FunctionDecl) : Prop where
  lastKey : d.callStack.getLast? = some (declKey leaf)
  resolved : (Index.build decls a.minimum).get? (declKey leaf) = some (signatureOf leaf)
  position : d.position = leaf.position

theorem standsAt_ofChain {a : Analyzer} {decls : List FunctionDecl} {c : CallChain}
    (isKept : c ∈ a.chains decls) : StandsAt a decls (Diagnostic.ofChain c) c.leaf := by
  obtain ⟨path, qualifies, stack, -, leaf⟩ :=
    exists_qualifies_of_mem_exploreAll (mem_of_mem_reduceChains isKept)
  have onTail : c.leaf ∈ path.tail := by
    match path, qualifies.calls, leaf with
    | root :: d :: path, _, leaf =>
      rw [List.getLast?_cons_cons] at leaf
      exact List.mem_of_getLast? leaf
  refine ⟨?_, qualifies.resolved _ onTail, rfl⟩
  show c.callStack.getLast? = _
  rw [stack, List.getLast?_map, leaf, Option.map_some]

/-- Diagnostics that differ in their positions at most, and stand at declarations with one place in
the two lists. -/
structure SameFinding (a : Analyzer) (decls decls' : List FunctionDecl) (d e : Diagnostic) :
    Prop where
  message : d.message = e.message
  arguments : d.arguments = e.arguments
  callStack : d.callStack = e.callStack
  fingerprint : d.fingerprint = e.fingerprint
  leaves : ∃ (i : Nat) (leaf leaf' : FunctionDecl),
    decls[i]? = some leaf ∧ decls'[i]? = some leaf' ∧
      StandsAt a decls d leaf ∧ StandsAt a decls' e leaf'

/-- Moves, new names and another spelling do not matter: lists of declarations of the same shape
have the same findings, entry by entry, each placed at the corresponding leaf. -/
theorem run_sameShape (a : Analyzer) (first second : SourceUnit)
    (same : List.Forall₂ SameShape first.declarations second.declarations) :
    List.Forall₂ (SameFinding a first.declarations second.declarations) (a.run first)
      (a.run second) := by
  have matched := (simulates_paired same a.minimum).reduceChains
    (forall₂_paired same a.minimum) a.ceiling
  rw [Analyzer.run_eq, Analyzer.run_eq, List.forall₂_map_left_iff, List.forall₂_map_right_iff]
  rw [List.forall₂_iff_zip] at matched ⊢
  refine ⟨matched.1, fun {c d} member => ?_⟩
  obtain ⟨sameStack, sameArgs, s, t, paired, leaf, leaf'⟩ := matched.2 member
  obtain ⟨keptC, keptD⟩ := List.of_mem_zip member
  obtain ⟨i, place, place'⟩ := paired.place
  have equal := ofChain_eq sameStack sameArgs
  refine ⟨by rw [equal], by rw [equal], by rw [equal], by rw [equal], i, c.leaf, d.leaf, ?_, ?_,
    standsAt_ofChain keptC, standsAt_ofChain keptD⟩
  · rw [place, leaf]
  · rw [place', leaf']

/-- Two methods of a store, one of which calls the other. -/
def storeMethods : List FunctionDecl :=
  [⟨"Open", some (.pointer (.named "Store" none)), [⟨["low", "high"], "int"⟩, ⟨["name"], "string"⟩],
      [⟨.method (some (.named "Store" none)) "Load", ⟨"store.go", 2, 5⟩⟩], ⟨"store.go", 1, 1⟩⟩,
    ⟨"Load", some (.named "Store" none),
      [⟨["low"], "int"⟩, ⟨["name"], "string"⟩, ⟨["high"], "int"⟩], [], ⟨"store.go", 5, 1⟩⟩]

/-- The same methods moved to another file, with other names, groups and receivers. -/
def movedMethods : List FunctionDecl :=
  [⟨"Open", some (.named "Store" (some "db")), [⟨[], "string"⟩, ⟨["from", "to"], "int"⟩],
      [⟨.method (some (.pointer (.named "Store" (some "db")))) "Load", ⟨"moved.go", 42, 9⟩⟩],
      ⟨"moved.go", 40, 1⟩⟩,
    ⟨"Load", some (.pointer (.named "Store" none)), [⟨["from", "to"], "int"⟩, ⟨["key"], "string"⟩],
      [], ⟨"moved.go", 7, 3⟩⟩]

/-- The finding on the methods is the same after the move, placed at the moved leaf. -/
theorem storeMethods_moved :
    let a : Analyzer := ⟨2, 10⟩
    (a.run (oneFile storeMethods)).map Diagnostic.callStack = [["Store.Open", "Store.Load"]] ∧
      List.Forall₂ SameShape storeMethods movedMethods ∧
      List.Forall₂ (SameFinding a storeMethods movedMethods) (a.run (oneFile storeMethods))
        (a.run (oneFile movedMethods)) := by
  intro a
  have same : List.Forall₂ SameShape storeMethods movedMethods :=
    .cons (by decide) (.cons (by decide) .nil)
  refine ⟨?_, same, run_sameShape a (oneFile storeMethods) (oneFile movedMethods) same⟩
  rw [map_callStack_run]
  cbv

end ParamChain
