import ParamChain.Proofs.ByteOrder
import ParamChain.Proofs.CountTables
import ParamChain.Proofs.Invariance

/-
This file proves that the list of arguments is a normal form: what is written out for an argument
multiset is sorted by its bytes, has every type as often as it counts and nothing else, and stands
for no other multiset.

A table writes out its entries one after the other and sorts what comes out. The entries are sorted
already, since a table keeps its types in order and the order of texts is the order of their bytes.
No zero is stored, so every entry leaves a trace in the list, and the list tells the counts.

The diagnostics of a unit therefore see of a parameter list how many parameters there are of each
type, and not in which order and in which groups they are declared.
-/

namespace ParamChain

open Chain Report

namespace Chain

/-! ### Lists of arguments -/

/-- Every type as often as it counts, sorted by its bytes. -/
def CountTable.expanded (table : CountTable) : List String :=
  (table.counts.toList.flatMap fun e => List.replicate e.2 e.1).mergeSort fun s t =>
    Text.bytes s ≤ Text.bytes t

theorem ArgMultiset.expanded_sorted_by_bytes (a : ArgMultiset) :
    a.expanded.Pairwise fun s t => Text.bytes s ≤ Text.bytes t :=
  a.expanded_sorted.imp fun {_ _} => Text.bytes_le_iff.2

/-- A list of arguments tells the counts, and these the multiset. -/
theorem ArgMultiset.expanded_injective : Function.Injective expanded := by
  intro a b same
  refine eq_of_count_eq fun t => ?_
  rw [← count_toMultiset, ← count_expanded, same, count_expanded, count_toMultiset]

/-- The table writes out what the multiset does: there is nothing left to sort. -/
theorem CountTable.Holds.expanded_eq {table : CountTable} {a : ArgMultiset}
    (holds : table.Holds a) : table.expanded = a.expanded := by
  rw [CountTable.expanded, holds.toList_eq]
  exact List.mergeSort_of_pairwise (a.expanded_sorted_by_bytes.imp fun {_ _} => decide_eq_true)

/-! ### Parameters in another order and in other groups -/

/-- The same declaration, but for the order, the groups and the names of its parameters. -/
structure Regrouped (d e : FunctionDecl) : Prop where
  types : paramTypes d.params = paramTypes e.params
  rest : e = { d with params := e.params }

theorem Regrouped.sameShape {d e : FunctionDecl} (regrouped : Regrouped d e) : SameShape d e where
  key := by
    rw [regrouped.rest]
    rfl
  units t := by
    rw [← count_paramTypes, ← count_paramTypes, regrouped.types]
  calls := by
    rw [regrouped.rest]

theorem Regrouped.position {d e : FunctionDecl} (regrouped : Regrouped d e) :
    d.position = e.position := by
  rw [regrouped.rest]

end Chain

/-- The findings do not tell how parameters are ordered and grouped. The leaves of matching chains
stand at one place of their lists, where only the parameters differ. -/
theorem run_regrouped (a : Analyzer) {first second : SourceUnit}
    (regrouped : List.Forall₂ Regrouped first.declarations second.declarations) :
    a.run first = a.run second := by
  have same : List.Forall₂ SameShape first.declarations second.declarations :=
    regrouped.imp fun _ _ => Regrouped.sameShape
  rw [Analyzer.run_eq, Analyzer.run_eq, ← List.forall₂_eq_eq_eq]
  refine List.rel_map ?_ ((simulates_paired same a.minimum).reduceChains
    (forall₂_paired same a.minimum) a.ceiling)
  rintro c d ⟨sameStack, sameArgs, s, t, paired, leaf, leaf'⟩
  obtain ⟨i, place, place'⟩ := paired.place
  have leaves : Regrouped s.decl t.decl :=
    (List.forall₂_iff_zip.1 regrouped).2
      (List.mem_of_getElem? (List.getElem?_zip_eq_some.2 ⟨place, place'⟩))
  have samePosition : c.leaf.position = d.leaf.position := by
    rw [← leaf, ← leaf', leaves.position]
  rw [ofChain_eq sameStack sameArgs, samePosition]
  rfl

/-- A list of arguments is sorted by bytes, has every type as often as it counts, and is as long as
there are arguments; tables write out the same, though they have to sort it. No two multisets have
one list. So the findings are the same when the parameters of declarations are put in another order
or in other groups. -/
theorem expanded_is_canonical :
    (∀ a : ArgMultiset, a.expanded.Pairwise (fun s t => Text.bytes s ≤ Text.bytes t) ∧
        (∀ t, a.expanded.count t = a.count t) ∧ a.expanded.length = a.total) ∧
      (∀ o : Origin, o.table.expanded = o.args.expanded) ∧
      (∀ a b : ArgMultiset, a.expanded = b.expanded ↔ a = b) ∧
      (∀ o o' : Origin, o.table.expanded = o'.table.expanded ↔ o.table = o'.table) ∧
      ∀ (a : Analyzer) (first second : SourceUnit),
        List.Forall₂ Regrouped first.declarations second.declarations →
          a.run first = a.run second := by
  have written (o : Origin) : o.table.expanded = o.args.expanded := o.holds_table.expanded_eq
  refine ⟨fun a => ⟨a.expanded_sorted_by_bytes, fun t => ?_, a.length_expanded⟩, written,
    fun a b => ArgMultiset.expanded_injective.eq_iff, fun o o' => ?_,
    fun a first second => run_regrouped a⟩
  · rw [ArgMultiset.count_expanded, ArgMultiset.count_toMultiset]
  · rw [written, written, ArgMultiset.expanded_injective.eq_iff,
      o.holds_table.eq_iff o'.holds_table]

/-- The methods of a store with their parameters one by one, the names in another place. -/
def regroupedMethods : List FunctionDecl :=
  storeMethods.map fun d =>
    { d with params := [⟨["name"], "string"⟩, ⟨[], "int"⟩, ⟨["high"], "int"⟩] }

/-- The finding on the methods is the same, down to its arguments. -/
theorem storeMethods_regrouped :
    let a : Analyzer := ⟨2, 10⟩
    (a.run (oneFile storeMethods)).map Diagnostic.arguments = [["int", "int", "string"]] ∧
      List.Forall₂ Regrouped storeMethods regroupedMethods ∧
      a.run (oneFile storeMethods) = a.run (oneFile regroupedMethods) := by
  intro a
  have regrouped : List.Forall₂ Regrouped storeMethods regroupedMethods :=
    .cons ⟨by decide, rfl⟩ (.cons ⟨by decide, rfl⟩ .nil)
  obtain ⟨-, -, -, -, general⟩ := expanded_is_canonical
  refine ⟨?_, regrouped, general a (oneFile storeMethods) (oneFile regroupedMethods) regrouped⟩
  rw [Analyzer.run_eq, List.map_map]
  show (a.chains storeMethods).map (fun c => c.sharedArgs.expanded) = _
  cbv

end ParamChain
