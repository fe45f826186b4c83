import Mathlib.Data.List.Induction
import ParamChain.Proofs.ArgumentCounts
import ParamChain.Proofs.IndexLookup

/-
This file keeps argument counts in plain tables and proves that intersecting them is taking the
meet.

A table has counts for some types and promises nothing about them: it could hold a zero, and then
two tables with the same counts could differ. Tables are made in three ways only. The groups of a
parameter list are added up, and a group is at least one parameter; pairs of a type and a count are
added up, and those that count nothing are passed over; two tables are intersected, and what comes
out as zero is dropped. So by the way they are made tables hold no zero. The lookup of a type is
then determined by its count, and the table has the entries of the argument multiset that is made
in the same way.

What is left are laws of the meet. An argument multiset is determined by its counts, intersecting
takes the smaller of two counts, and so what several multisets share is the most that is below each
of them, whatever the order, the grouping and the repetitions in which they are intersected.
-/

namespace ParamChain.Chain

/-! ### Tables -/

/-- Counts by type. Nothing keeps a count from being zero. -/
@[ext]
structure CountTable where
  counts : Std.ExtTreeMap String Nat

namespace CountTable

def empty : CountTable := ⟨∅⟩

/-- The count of a type, zero if the table has none. -/
def count (table : CountTable) (t : String) : Nat :=
  table.counts[t]?.getD 0

/-- The table with `n` more occurrences of the type `t`. -/
def add (table : CountTable) (t : String) (n : Nat) : CountTable :=
  ⟨table.counts.insert t (table.count t + n)⟩

/-- The parameters of a list by type. Each group counts for as many as it has names, or for one. -/
def ofParams (params : List ParamDecl) : CountTable :=
  params.foldl (fun table p => table.add p.typeText p.units) empty

/-- Counts added up by type. Pairs that count nothing are passed over. -/
def ofPairs (pairs : List (String × Nat)) : CountTable :=
  pairs.foldl (fun table e => if 0 < e.2 then table.add e.1 e.2 else table) empty

/-- The types that both tables have, with the smaller count, if that is not zero. -/
def intersect (first second : CountTable) : CountTable :=
  ⟨(first.counts.filterMap fun t n => second.counts[t]?.map (min n)).filter fun _ n => 0 < n⟩

def total (table : CountTable) : Nat :=
  table.counts.foldl (fun sum _ n => sum + n) 0

end CountTable

/-- How a multiset of arguments comes about. -/
inductive Origin where
  /-- Counted from the groups of a parameter list. -/
  | ofParams (params : List ParamDecl)
  /-- Added up from pairs of a type and a count. -/
  | ofPairs (pairs : List (String × Nat))
  /-- Shared by two others. -/
  | shared (first second : Origin)

namespace Origin

/-- The table that is made in this way. -/
def table : Origin → CountTable
  | .ofParams params => .ofParams params
  | .ofPairs pairs => .ofPairs pairs
  | .shared first second => first.table.intersect second.table

/-- The argument multiset that is made in this way. -/
def args : Origin → ArgMultiset
  | .ofParams params => .ofParams params
  | .ofPairs pairs => .ofPairs pairs
  | .shared first second => first.args.intersect second.args

end Origin

namespace ArgMultiset

/-! ### Laws of the meet -/

/-- Tables with the same occurrences are the same. -/
theorem toMultiset_injective : Function.Injective toMultiset := by
  intro a b same
  refine eq_of_count_eq fun t => ?_
  rw [← count_toMultiset, ← count_toMultiset, same]

/-- Adding to a type changes its count and no other. -/
theorem count_add (a : ArgMultiset) (t : String) (n : Nat) (u : String) :
    (a.add t n).count u = a.count u + if t = u then n else 0 := by
  rw [← count_toMultiset, toMultiset_add, Multiset.count_add, Multiset.count_replicate,
    count_toMultiset]

/-- Of every type the smaller count is shared. -/
theorem count_intersect (a b : ArgMultiset) (t : String) :
    (a.intersect b).count t = min (a.count t) (b.count t) := by
  rw [← count_toMultiset, toMultiset_intersect, Multiset.count_inter, count_toMultiset,
    count_toMultiset]

theorem intersect_comm (a b : ArgMultiset) : a.intersect b = b.intersect a := by
  refine eq_of_count_eq fun t => ?_
  rw [count_intersect, count_intersect, min_comm]

theorem intersect_assoc (a b c : ArgMultiset) :
    (a.intersect b).intersect c = a.intersect (b.intersect c) := by
  refine eq_of_count_eq fun t => ?_
  rw [count_intersect, count_intersect, count_intersect, count_intersect, min_assoc]

theorem intersect_self (a : ArgMultiset) : a.intersect a = a := by
  refine eq_of_count_eq fun t => ?_
  rw [count_intersect, min_self]

/-- No more is shared than either side has. -/
theorem total_intersect_le_min (a b : ArgMultiset) :
    (a.intersect b).total ≤ min a.total b.total := by
  refine le_min (total_intersect_le a b) ?_
  rw [intersect_comm]
  exact total_intersect_le b a

theorem total_ofPairs (pairs : List (String × Nat)) :
    (ofPairs pairs).total = pairs.foldr (fun e n => e.2 + n) 0 := by
  rw [← card_toMultiset, toMultiset_ofPairs, card_occurrences]

end ArgMultiset

/-! ### What a table holds -/

/-- The lookup of a type that occurs so often, if no zero is stored. -/
def stored (n : Nat) : Option Nat :=
  if 0 < n then some n else none

theorem stored_pos {n : Nat} (positive : 0 < n) : stored n = some n :=
  if_pos positive

/-- A count is stored if it is not zero. -/
theorem stored_eq_some_iff {n m : Nat} : stored n = some m ↔ 0 < m ∧ n = m := by
  rw [stored, Option.ite_none_right_eq_some, Option.some.injEq]
  constructor
  · rintro ⟨positive, rfl⟩
    exact ⟨positive, rfl⟩
  · rintro ⟨positive, rfl⟩
    exact ⟨positive, rfl⟩

theorem getD_stored (n : Nat) : (stored n).getD 0 = n := by
  rw [stored]
  split
  · rfl
  · next nothing => exact (Nat.eq_zero_of_not_pos nothing).symm

/-- Of two counts the smaller is stored, and dropped if one of the two is not there. -/
theorem stored_min (m n : Nat) :
    (((stored m).bind fun k => (stored n).map (min k)).filter fun k => 0 < k) =
      stored (min m n) := by
  rcases Nat.eq_zero_or_pos m with rfl | positive
  · rw [Nat.zero_min]
    rfl
  · rcases Nat.eq_zero_or_pos n with rfl | positive'
    · rw [Nat.min_zero, stored_pos positive]
      rfl
    · rw [stored_pos positive, stored_pos positive', stored_pos (lt_min positive positive'),
        Option.bind_some, Option.map_some]
      exact Option.filter_some_pos (decide_eq_true (lt_min positive positive'))

namespace CountTable

/-- The table has the counts of the multiset, and no zero among them. -/
def Holds (table : CountTable) (a : ArgMultiset) : Prop :=
  ∀ t, table.counts[t]? = stored (a.count t)

variable {table table' : CountTable} {a b : ArgMultiset}

theorem Holds.count_eq (holds : table.Holds a) (t : String) : table.count t = a.count t := by
  rw [count, holds, getD_stored]

theorem holds_empty : empty.Holds .empty := by
  intro t
  exact Std.ExtTreeMap.getElem?_empty

/-- Where something is added, no zero comes in. -/
theorem Holds.add (holds : table.Holds a) (t : String) {n : Nat} (added : 0 < n) :
    (table.add t n).Holds (a.add t n) := by
  intro u
  rw [CountTable.add, Std.ExtTreeMap.getElem?_insert, ArgMultiset.count_add, holds.count_eq]
  by_cases same : t = u
  · rw [if_pos (Std.LawfulEqOrd.compare_eq_iff_eq.2 same), if_pos same, same,
      stored_pos (Nat.add_pos_right _ added)]
  · rw [if_neg fun equal => same (Std.LawfulEqOrd.compare_eq_iff_eq.1 equal), if_neg same, holds,
      Nat.add_zero]

/-- Intersecting tables is intersecting what they hold. -/
theorem Holds.intersect (holds : table.Holds a) (holds' : table'.Holds b) :
    (table.intersect table').Holds (a.intersect b) := by
  intro t
  rw [CountTable.intersect, Std.ExtTreeMap.getElem?_filter', Std.ExtTreeMap.getElem?_filterMap',
    holds, holds', ArgMultiset.count_intersect, stored_min]

/-- Every group is at least one parameter. -/
theorem Holds.foldl_params (holds : table.Holds a) (params : List ParamDecl) :
    (params.foldl (fun table p => table.add p.typeText p.units) table).Holds
      ((params.map fun p => (p.typeText, p.units)).foldl (fun a e => a.add e.1 e.2) a) := by
  induction params generalizing table a with
  | nil => exact holds
  | cons p rest inductionHypothesis =>
    exact inductionHypothesis (holds.add p.typeText (Nat.le_max_right p.names.length 1))

/-- A table that is filled pair by pair, without zeros, holds all of them. -/
theorem Holds.foldl_pairs (holds : table.Holds a) (pairs : List (String × Nat)) :
    (pairs.foldl (fun table e => if 0 < e.2 then table.add e.1 e.2 else table) table).Holds
      (pairs.foldl (fun a e => a.add e.1 e.2) a) := by
  induction pairs generalizing table a with
  | nil => exact holds
  | cons e rest inductionHypothesis =>
    rw [List.foldl_cons, List.foldl_cons]
    by_cases added : 0 < e.2
    · rw [if_pos added]
      exact inductionHypothesis (holds.add e.1 added)
    · rw [if_neg added, ArgMultiset.add, dif_neg added]
      exact inductionHypothesis holds

/-- The entries of a table are those of the multiset: both are in order, and a type has one. -/
theorem Holds.toList_eq (holds : table.Holds a) : table.counts.toList = a.entries := by
  have ordered : (table.counts.toList.map Prod.fst).Pairwise (· < ·) :=
    List.pairwise_map.2 <| Std.ExtTreeMap.ordered_keys_toList.imp fun {_ _} below =>
      compare_lt_iff_lt.1 below
  refine ArgMultiset.entries_ext ordered a.ascending ?_
  rintro ⟨t, n⟩
  rw [Std.ExtTreeMap.mem_toList_iff_getElem?_eq_some, holds, stored_eq_some_iff,
    ArgMultiset.mem_entries_iff]

/-- A table counts as many arguments as it holds. -/
theorem Holds.total_eq (holds : table.Holds a) : table.total = a.total := by
  rw [total, Std.ExtTreeMap.foldl_eq_foldl_toList, holds.toList_eq, ArgMultiset.total]
  calc a.entries.foldl (fun sum e => sum + e.2) 0
      = (a.entries.map Prod.snd).foldl (· + ·) 0 := List.foldl_map.symm
    _ = (a.entries.map Prod.snd).foldr (· + ·) 0 := by rw [← List.sum_eq_foldl, List.sum_eq_foldr]
    _ = a.entries.foldr (fun e sum => e.2 + sum) 0 := List.foldr_map

/-- Tables without zeros are told apart by their counts. -/
theorem Holds.eq_iff (holds : table.Holds a) (holds' : table'.Holds b) :
    table = table' ↔ a = b := by
  constructor
  · rintro rfl
    refine ArgMultiset.eq_of_count_eq fun t => ?_
    rw [← holds.count_eq, holds'.count_eq]
  · rintro rfl
    refine CountTable.ext (Std.ExtTreeMap.ext_getElem? fun t => ?_)
    rw [holds, holds']

end CountTable

namespace Origin

open CountTable

/-- However a table comes about, it holds what the argument multiset does. -/
theorem holds_table (o : Origin) : o.table.Holds o.args := by
  induction o with
  | ofParams params => exact holds_empty.foldl_params params
  | ofPairs pairs => exact holds_empty.foldl_pairs pairs
  | shared first second holds holds' => exact holds.intersect holds'

/-! ### The order of intersecting -/

/-- The multisets that are intersected, from the first to the last. -/
def leaves : Origin → List ArgMultiset
  | .ofParams params => [.ofParams params]
  | .ofPairs pairs => [.ofPairs pairs]
  | .shared first second => first.leaves ++ second.leaves

/-- What is shared is the most that every one has. -/
theorem le_args_iff {o : Origin} {types : Multiset String} :
    types ≤ o.args.toMultiset ↔ ∀ a ∈ o.leaves, types ≤ a.toMultiset := by
  induction o with
  | ofParams params => rw [args, leaves, List.forall_mem_singleton]
  | ofPairs pairs => rw [args, leaves, List.forall_mem_singleton]
  | shared first second below below' =>
    rw [args, leaves, ArgMultiset.toMultiset_intersect, Multiset.le_inter_iff, below, below',
      List.forall_mem_append]

/-- What is shared depends on the lists that went in alone, not on their order and grouping. -/
theorem args_eq_of_leaves {o o' : Origin} (same : ∀ a, a ∈ o.leaves ↔ a ∈ o'.leaves) :
    o.args = o'.args := by
  refine ArgMultiset.toMultiset_injective (le_antisymm ?_ ?_)
  · exact le_args_iff.2 fun a member => le_args_iff.1 le_rfl a ((same a).2 member)
  · exact le_args_iff.2 fun a member => le_args_iff.1 le_rfl a ((same a).1 member)

/-- The parameters of declarations, intersected one after the other. -/
def along (d : FunctionDecl) (path : List FunctionDecl) : Origin :=
  path.foldl (fun o e => .shared o (.ofParams e.params)) (.ofParams d.params)

theorem along_concat (d : FunctionDecl) (path : List FunctionDecl) (e : FunctionDecl) :
    along d (path ++ [e]) = .shared (along d path) (.ofParams e.params) := by
  rw [along, List.foldl_append]
  rfl

/-- Along a path the parameters of each declaration go in. -/
theorem leaves_along (d : FunctionDecl) (path : List FunctionDecl) :
    (along d path).leaves = (d :: path).map fun e => .ofParams e.params := by
  induction path using List.reverseRecOn with
  | nil => rfl
  | append_singleton path e inductionHypothesis =>
    rw [along_concat, leaves, inductionHypothesis, ← List.cons_append, List.map_append]
    rfl

end Origin

/-- What declarations share, intersected from the first to the last. -/
def sharedAlong (d : FunctionDecl) (path : List FunctionDecl) : ArgMultiset :=
  path.foldl (fun shared e => shared.intersect (.ofParams e.params)) (.ofParams d.params)

theorem args_along (d : FunctionDecl) (path : List FunctionDecl) :
    (Origin.along d path).args = sharedAlong d path := by
  induction path using List.reverseRecOn with
  | nil => rfl
  | append_singleton path e inductionHypothesis =>
    rw [Origin.along_concat, Origin.args, inductionHypothesis, sharedAlong, sharedAlong,
      List.foldl_append]
    rfl

/-- Declarations share the same in every order. -/
theorem sharedAlong_perm {d e : FunctionDecl} {path path' : List FunctionDecl}
    (perm : (d :: path).Perm (e :: path')) : sharedAlong d path = sharedAlong e path' := by
  rw [← args_along, ← args_along]
  refine Origin.args_eq_of_leaves fun a => ?_
  rw [Origin.leaves_along, Origin.leaves_along]
  exact (perm.map _).mem_iff

/-! ### Intersecting as meeting -/

/-- Tables hold no zeros, have the entries of the argument multisets that are made in the same way,
and are equal when their counts are. Intersecting takes the smaller count of every type, so it is
commutative, associative and idempotent and gives no more than either side has. There are as many
arguments as parameters, or as the pairs count. What is shared depends on no more than what is
intersected, and so not on the order of a list of declarations. -/
theorem intersection_is_meet :
    (∀ o : Origin, (∀ (t : String) (n : Nat), o.table.counts[t]? = some n → 0 < n) ∧
        o.table.counts.toList = o.args.entries ∧ (∀ t, o.table.count t = o.args.count t) ∧
        o.table.total = o.args.total) ∧
      (∀ o o' : Origin, (o.table = o'.table ↔ ∀ t, o.table.count t = o'.table.count t) ∧
        (o.table = o'.table ↔ o.args = o'.args)) ∧
      (∀ a b c : ArgMultiset, (a = b ↔ ∀ t, a.count t = b.count t) ∧
        (∀ t, (a.intersect b).count t = min (a.count t) (b.count t)) ∧
        a.intersect b = b.intersect a ∧
        (a.intersect b).intersect c = a.intersect (b.intersect c) ∧ a.intersect a = a ∧
        (a.intersect b).total ≤ min a.total b.total) ∧
      (∀ d : FunctionDecl, (ArgMultiset.ofParams d.params).total = d.paramUnits) ∧
      (∀ pairs, (ArgMultiset.ofPairs pairs).total = pairs.foldr (fun e n => e.2 + n) 0) ∧
      (∀ o o' : Origin, (∀ a, a ∈ o.leaves ↔ a ∈ o'.leaves) → o.args = o'.args) ∧
      ∀ (d e : FunctionDecl) (path path' : List FunctionDecl), (d :: path).Perm (e :: path') →
        sharedAlong d path = sharedAlong e path' := by
  refine ⟨fun o => ?_, fun o o' => ?_, fun a b c => ?_, ArgMultiset.total_ofParams,
    ArgMultiset.total_ofPairs, fun o o' => Origin.args_eq_of_leaves,
    fun _ _ _ _ => sharedAlong_perm⟩
  · have holds := o.holds_table
    refine ⟨fun t n found => ?_, holds.toList_eq, holds.count_eq, holds.total_eq⟩
    exact (stored_eq_some_iff.1 ((holds t).symm.trans found)).1
  · have sameArgs := o.holds_table.eq_iff o'.holds_table
    refine ⟨⟨fun same t => by rw [same], fun same => sameArgs.2 ?_⟩, sameArgs⟩
    refine ArgMultiset.eq_of_count_eq fun t => ?_
    rw [← o.holds_table.count_eq, same, o'.holds_table.count_eq]
  · exact ⟨⟨fun same t => by rw [same], ArgMultiset.eq_of_count_eq⟩, a.count_intersect b,
      a.intersect_comm b, a.intersect_assoc b c, a.intersect_self, a.total_intersect_le_min b⟩

/-- Three declarations with a name and a range share these in whichever order they are intersected,
also when two of them come first and one of them twice. -/
theorem ranges_shared_in_any_order :
    let copy := declOf "copy" [⟨["from", "to"], "int"⟩, ⟨["name"], "string"⟩] [] 1
    let read := declOf "read" [⟨["a"], "int"⟩, ⟨[], "string"⟩, ⟨["b", "c"], "int"⟩] [] 2
    let stop := declOf "stop" [⟨[], "bool"⟩, ⟨["n"], "string"⟩, ⟨["a", "b"], "int"⟩] [] 3
    let leaf (d : FunctionDecl) : Origin := .ofParams d.params
    let first : Origin := .shared (.shared (leaf copy) (leaf read)) (leaf stop)
    let second : Origin :=
      .shared (.shared (leaf stop) (leaf read)) (.shared (leaf stop) (leaf copy))
    [copy, read, stop].Perm [stop, read, copy] ∧ (∀ a, a ∈ first.leaves ↔ a ∈ second.leaves) ∧
      first.args.expanded = ["int", "int", "string"] ∧ first.args = second.args ∧
      sharedAlong copy [read, stop] = sharedAlong stop [read, copy] := by
  intro copy read stop leaf first second
  obtain ⟨-, -, -, -, -, byLeaves, byOrder⟩ := intersection_is_meet
  have reversed : [copy, read, stop].Perm [stop, read, copy] :=
    (List.reverse_perm [copy, read, stop]).symm
  have sameLeaves : ∀ a, a ∈ first.leaves ↔ a ∈ second.leaves := by
    intro a
    simp only [first, second, leaf, Origin.leaves, List.mem_append, List.mem_singleton]
    tauto
  exact ⟨reversed, sameLeaves, by decide, byLeaves first second sameLeaves,
    byOrder copy stop [read, stop] [read, copy] reversed⟩

end ParamChain.Chain
