import Mathlib.Data.Multiset.Sort
import ParamChain.Proofs.Findings
import ParamChain.Proofs.MaximalChains

/-
This file works out the report on declarations in a row: each calls the next one and no other, and
all of them have the same parameters. A path that qualifies has to go on to the end of the row, so
it is an end piece of it, and every end piece that keeps to the depth ceiling qualifies. The longest
of these has all others as runs. So there is one diagnostic, for the last declarations of the row,
as many as the ceiling admits; a declaration that is too far from the end has no part in it. The
order in which the declarations stand in the unit does not enter, nor what their keys look like.
-/

namespace ParamChain

open Chain Report

/-! ### Declarations in a row -/

/-- Declarations with different keys of which each calls the one at the next place and no other of
them. What else they call does not matter. -/
structure InRow (row : List FunctionDecl) : Prop where
  distinct : (row.map declKey).Nodup
  /-- After the last place there is none, so the last declaration calls none of them. -/
  calls : ∀ place f g, row[place]? = some f → g ∈ row →
    ((∃ call ∈ f.calls, callKey call = some (declKey g)) ↔ row[place + 1]? = some g)

instance (row : List FunctionDecl) : Decidable (InRow row) :=
  decidable_of_iff
    ((row.map declKey).Nodup ∧ ∀ place < row.length, ∀ f ∈ row[place]?, ∀ g ∈ row,
      ((∃ call ∈ f.calls, callKey call = some (declKey g)) ↔ row[place + 1]? = some g))
    ⟨fun ⟨distinct, calls⟩ => ⟨distinct, fun place f g here member =>
        calls place (List.getElem?_eq_some_iff.1 here).1 f here g member⟩,
      fun inRow => ⟨inRow.distinct, fun place _ f here g member =>
        inRow.calls place f g here member⟩⟩

/-- Declarations in a row, in any order, that have the same parameters and enough of them to be
eligible and to be worth a struct. -/
structure Straight (a : Analyzer) (decls row : List FunctionDecl) (common : Multiset String) :
    Prop where
  declared : decls.Perm row
  inRow : InRow row
  same : ∀ f ∈ row, paramTypes f.params = common
  enough : max 3 a.minimum ≤ common.card

namespace Straight

variable {a : Analyzer} {decls row : List FunctionDecl} {common : Multiset String}
  (straight : Straight a decls row common)
include straight

theorem mem_eligible_iff {f : FunctionDecl} : f ∈ eligible decls a.minimum ↔ f ∈ row := by
  rw [mem_eligible, straight.declared.mem_iff]
  refine and_iff_left_of_imp fun member => ?_
  have units : f.paramUnits = common.card := by
    rw [← straight.same f member, card_paramTypes]
    rfl
  rw [units]
  exact (le_max_right _ _).trans straight.enough

/-- Each declaration of the row is what its key looks up. -/
theorem get?_eq {g : FunctionDecl} (member : g ∈ row) :
    (Index.build decls a.minimum).get? (declKey g) = some (signatureOf g) := by
  have isRoot : signatureOf g ∈ (Index.build decls a.minimum).roots :=
    Index.mem_roots_build.2 ⟨straight.mem_eligible_iff.2 member, rfl⟩
  have distinct : (decls.map declKey).Nodup :=
    (straight.declared.map declKey).nodup_iff.2 straight.inRow.distinct
  refine Index.get?_of_mem_roots ?_ isRoot
  show (Index.build decls a.minimum).keys.Nodup
  rw [Index.keys_build]
  exact distinct.sublist (List.filter_sublist.map declKey)

/-- What a key looks up is a declaration of the row. -/
theorem mem_of_get? {key : String} {s : Signature}
    (found : (Index.build decls a.minimum).get? key = some s) :
    ∃ g ∈ row, s = signatureOf g ∧ declKey g = key := by
  obtain ⟨declared, same⟩ := Index.mem_roots_build.1 (Index.mem_roots_of_get? found)
  refine ⟨s.decl, straight.mem_eligible_iff.1 declared, same, ?_⟩
  rw [← Index.key_of_get? found, same]
  rfl

/-- A call leads from a declaration to the one at the next place only. -/
theorem leads_iff {place : Nat} {f g : FunctionDecl} (here : row[place]? = some f) :
    (∃ call ∈ f.calls, ∃ key, callKey call = some key ∧
        (Index.build decls a.minimum).get? key = some (signatureOf g)) ↔
      row[place + 1]? = some g := by
  constructor
  · rintro ⟨call, member, key, named, found⟩
    obtain ⟨g', inRow, same, rfl⟩ := straight.mem_of_get? found
    obtain rfl : g = g' := congrArg Signature.decl same
    exact (straight.inRow.calls place f g here inRow).1 ⟨call, member, named⟩
  · intro next
    have inRow := List.mem_of_getElem? next
    obtain ⟨call, member, named⟩ := (straight.inRow.calls place f g here inRow).2 next
    exact ⟨call, member, _, named, straight.get?_eq inRow⟩

/-- No call leads on from the last declaration, and from no other. -/
theorem ends_iff {place : Nat} {f : FunctionDecl} (here : row[place]? = some f) :
    (∀ call ∈ f.calls, ∀ key, callKey call = some key →
        (Index.build decls a.minimum).get? key = none) ↔
      row[place + 1]? = none := by
  constructor
  · intro ends
    refine Option.eq_none_iff_forall_ne_some.2 fun g next => ?_
    obtain ⟨call, member, key, named, found⟩ := (straight.leads_iff here).2 next
    rw [ends call member key named] at found
    cases found
  · intro last call member key named
    refine Option.eq_none_iff_forall_ne_some.2 fun s found => ?_
    obtain ⟨g, -, rfl, -⟩ := straight.mem_of_get? found
    rw [(straight.leads_iff here).1 ⟨call, member, key, named, found⟩] at last
    cases last

/-! ### Paths in a row -/

/-- A path that begins at a place of the row and ends where no call leads on is the rest of the
row. -/
theorem eq_drop {place : Nat} {f : FunctionDecl} {path : List FunctionDecl}
    (starts : row[place]? = some f)
    (linked : (f :: path).IsChain fun d next => ∃ call ∈ d.calls, ∃ key, callKey call = some key ∧
      (Index.build decls a.minimum).get? key = some (signatureOf next))
    (ends : ∀ d ∈ (f :: path).getLast?, ∀ call ∈ d.calls, ∀ key, callKey call = some key →
      (Index.build decls a.minimum).get? key = none) :
    f :: path = row.drop place := by
  induction path generalizing place f with
  | nil =>
    have last := (straight.ends_iff starts).1 (ends f rfl)
    obtain ⟨bound, rfl⟩ := List.getElem?_eq_some_iff.1 starts
    rw [List.drop_eq_getElem_cons bound, List.drop_eq_nil_of_le (List.getElem?_eq_none_iff.1 last)]
  | cons next path inductionHypothesis =>
    have nextHere := (straight.leads_iff starts).1 linked.rel
    obtain ⟨bound, rfl⟩ := List.getElem?_eq_some_iff.1 starts
    rw [List.getLast?_cons_cons] at ends
    rw [List.drop_eq_getElem_cons bound, inductionHypothesis nextHere linked.tail ends]

theorem suffix_of_qualifies {path : List FunctionDecl} (qualifies : Qualifies a decls path) :
    path <:+ row := by
  cases path with
  | nil => exact List.nil_suffix
  | cons f path =>
    have inRow : f ∈ row :=
      straight.declared.mem_iff.1 (qualifies.declared f List.mem_cons_self).1
    obtain ⟨place, starts⟩ := List.getElem?_of_mem inRow
    rw [straight.eq_drop starts qualifies.linked qualifies.ends]
    exact List.drop_suffix _ _

theorem commonTypes_eq {path : List FunctionDecl} (inside : ∀ f ∈ path, f ∈ row)
    (nonempty : path ≠ []) : commonTypes path = common := by
  induction path with
  | nil => exact absurd rfl nonempty
  | cons f path inductionHypothesis =>
    have here := straight.same f (inside f List.mem_cons_self)
    cases path with
    | nil => exact here
    | cons next path =>
      rw [commonTypes, here, inductionHypothesis
        (fun g member => inside g (List.mem_cons_of_mem _ member)) (List.cons_ne_nil _ _)]
      exact inf_idem common

theorem qualifies_of_suffix {path : List FunctionDecl} (suffix : path <:+ row)
    (calls : 2 ≤ path.length) (within : path.length ≤ a.ceiling + 1) : Qualifies a decls path := by
  have nonempty : path ≠ [] := List.ne_nil_of_length_pos (by omega)
  refine ⟨calls, fun f member => ?_, ?_, within, ?_, ?_, ?_⟩
  · exact mem_eligible.1 (straight.mem_eligible_iff.2 (suffix.subset member))
  · refine List.IsChain.suffix (List.isChain_iff_getElem.2 fun place bound => ?_) suffix
    exact (straight.leads_iff (List.getElem?_eq_getElem _)).2 (List.getElem?_eq_getElem _)
  · intro place f _ _
    have distinct : (path.map declKey).Nodup :=
      straight.inRow.distinct.sublist (suffix.sublist.map declKey)
    have once : ((path.take place).map declKey).Nodup :=
      distinct.sublist ((List.take_sublist _ _).map declKey)
    exact Nat.lt_succ_of_le (List.nodup_iff_count_le_one.1 once _)
  · rw [straight.commonTypes_eq (fun f member => suffix.subset member) nonempty]
    exact (le_max_left _ _).trans straight.enough
  · intro f last
    obtain ⟨before, rfl⟩ := suffix
    have isLast : (before ++ path)[(before ++ path).length - 1]? = some f := by
      rw [← List.getLast?_eq_getElem?, List.getLast?_append_of_ne_nil _ nonempty]
      exact last
    refine (straight.ends_iff isLast).2 (List.getElem?_eq_none ?_)
    omega

/-! ### The report -/

/-- A chain that is found is that of an end piece of the row. -/
theorem exists_suffix_of_mem_exploreAll {c : CallChain}
    (found : c ∈ exploreAll (Index.build decls a.minimum) a.ceiling) :
    ∃ path, path <:+ row ∧ path.length ≤ min row.length (a.ceiling + 1) ∧
      c.callStack = path.map declKey ∧ c.sharedArgs.toMultiset = common ∧
      row.getLast? = some c.leaf := by
  obtain ⟨path, qualifies, stack, shared, leaf⟩ := exists_qualifies_of_mem_exploreAll found
  have suffix := straight.suffix_of_qualifies qualifies
  have nonempty : path ≠ [] := List.ne_nil_of_length_pos (by have := qualifies.calls; omega)
  refine ⟨path, suffix, le_min suffix.length_le qualifies.within, stack, ?_, ?_⟩
  · rw [shared, straight.commonTypes_eq (fun f member => suffix.subset member) nonempty]
  · obtain ⟨before, rfl⟩ := suffix
    rw [List.getLast?_append_of_ne_nil _ nonempty, leaf]

/-- One chain is kept, that of the last declarations of the row, as many as the ceiling admits:
every stack that is found is an end piece of this one, and this one is found. -/
theorem exists_chains_eq (long : 2 ≤ row.length) (deep : 1 ≤ a.ceiling) :
    ∃ c, a.chains decls = [c] ∧
      c.callStack = (row.drop (row.length - min row.length (a.ceiling + 1))).map declKey ∧
      c.sharedArgs.toMultiset = common ∧ row.getLast? = some c.leaf := by
  have suffix : row.drop (row.length - min row.length (a.ceiling + 1)) <:+ row :=
    List.drop_suffix _ _
  have length : (row.drop (row.length - min row.length (a.ceiling + 1))).length =
      min row.length (a.ceiling + 1) := by
    rw [List.length_drop]
    omega
  generalize row.drop (row.length - min row.length (a.ceiling + 1)) = piece at suffix length ⊢
  have runs : ∀ c ∈ exploreAll (Index.build decls a.minimum) a.ceiling,
      c.callStack <:+: piece.map declKey := by
    intro c found
    obtain ⟨path, isSuffix, atMost, stack, -, -⟩ := straight.exists_suffix_of_mem_exploreAll found
    have inside := List.suffix_of_suffix_length_le isSuffix suffix (by omega)
    rw [stack]
    exact (inside.map declKey).isInfix
  obtain ⟨k, found, -, atLeast⟩ := exists_mem_exploreAll_of_qualifies
    (straight.qualifies_of_suffix suffix (by omega) (by omega))
  have longest : k.callStack = piece.map declKey :=
    (runs k found).eq_of_length_le (by rw [List.length_map]; exact atLeast)
  obtain ⟨c, foundC, alone, stack⟩ := exists_reduceChains_eq_singleton found (longest ▸ runs)
  obtain ⟨-, -, -, -, shared, leaf⟩ := straight.exists_suffix_of_mem_exploreAll foundC
  exact ⟨c, alone, stack.trans longest, shared, leaf⟩

end Straight

theorem Chain.ArgMultiset.expanded_eq_sort {args : ArgMultiset} {common : Multiset String}
    (same : args.toMultiset = common) : args.expanded = common.sort (· ≤ ·) := by
  rw [← same, ← ArgMultiset.coe_expanded, Multiset.coe_sort]
  exact (List.mergeSort_of_pairwise (args.expanded_sorted.imp fun {_ _} => decide_eq_true)).symm

/-- On declarations in a row there is one diagnostic. Its stack has the keys of the last
declarations, one more than the ceiling or all of them, its arguments are the common parameter types
in order, and it stands at the last declaration. -/
theorem run_straight (a : Analyzer) (unit : SourceUnit) (row : List FunctionDecl)
    (common : Multiset String) (straight : Straight a unit.declarations row common)
    (long : 2 ≤ row.length) (deep : 1 ≤ a.ceiling) :
    ∃ d leaf, a.run unit = [d] ∧
      d.callStack = (row.drop (row.length - min row.length (a.ceiling + 1))).map declKey ∧
      d.arguments = common.sort (· ≤ ·) ∧ row.getLast? = some leaf ∧
      d.position = leaf.position := by
  obtain ⟨c, alone, stack, shared, leaf⟩ := straight.exists_chains_eq long deep
  refine ⟨Diagnostic.ofChain c, c.leaf, ?_, stack, ArgMultiset.expanded_eq_sort shared, leaf, rfl⟩
  rw [Analyzer.run_eq, alone]
  rfl

/-- Copying opens, opening reads, reading checks and checking stops, each with a name and a range in
groups of its own. Reading also logs, which is not declared. -/
def handedDown : List FunctionDecl :=
  [declOf "copy" [⟨["name"], "string"⟩, ⟨["from", "to"], "int"⟩] ["open"] 1,
    declOf "open" [⟨["a", "b"], "int"⟩, ⟨["n"], "string"⟩] ["read"] 2,
    declOf "read" [⟨["a"], "int"⟩, ⟨["n"], "string"⟩, ⟨["b"], "int"⟩] ["log", "check", "check"] 3,
    declOf "check" [⟨[], "int"⟩, ⟨[], "int"⟩, ⟨[], "string"⟩] ["stop"] 4,
    declOf "stop" [⟨["n"], "string"⟩, ⟨["a", "b"], "int"⟩] [] 5]

/-- Under a ceiling of three calls the last four of them are reported, also when they are declared
from the last to the first. -/
theorem handedDown_reported :
    let a : Analyzer := ⟨2, 3⟩
    let unit := oneFile handedDown.reverse
    Straight a unit.declarations handedDown {"int", "int", "string"} ∧
      ∃ d, a.run unit = [d] ∧ d.callStack = ["open", "read", "check", "stop"] ∧
        d.arguments = Multiset.sort {"int", "int", "string"} (· ≤ ·) ∧ d.position.line = 5 := by
  intro a unit
  have straight : Straight a unit.declarations handedDown {"int", "int", "string"} :=
    ⟨by decide, by decide +kernel, by decide +kernel, by decide⟩
  obtain ⟨d, leaf, alone, stack, arguments, last, position⟩ :=
    run_straight a unit handedDown _ straight (by decide) (by decide)
  obtain rfl : _ = leaf := Option.some.inj last
  exact ⟨straight, d, alone, stack, arguments, congrArg SourcePosition.line position⟩

end ParamChain
