import Mathlib.Algebra.Order.Group.Multiset
import Mathlib.Data.Multiset.UnionInter
import Mathlib.Data.String.Basic
import ParamChain.Chain.ArgMultiset

/-
This file reads argument multisets as multisets of types. An argument multiset is a sorted list
of entries, which is how it is computed with; what it means is how often each type occurs. Under
that reading the multiset of a parameter list is the sum of its groups, the intersection along a
call is the meet, and the number of arguments is the cardinality. The order of the entries is
used twice: a type has one entry, so looking it up finds all its occurrences, and writing out
the entries one after the other gives a sorted list.
-/

namespace ParamChain.Chain

/-- The types of a parameter list, each as often as there are parameters of it. -/
def paramTypes (params : List ParamDecl) : Multiset String :=
  (params.map fun p => Multiset.replicate p.units p.typeText).sum

/-- How many parameters of a type there are in a parameter list. -/
def unitsOf (params : List ParamDecl) (t : String) : Nat :=
  (params.filter fun p => p.typeText = t).foldr (fun p n => p.units + n) 0

/-- A type is listed once for every unit of it. -/
theorem count_paramTypes (params : List ParamDecl) (t : String) :
    (paramTypes params).count t = unitsOf params t := by
  unfold paramTypes unitsOf
  induction params with
  | nil => rfl
  | cons p rest inductionHypothesis =>
    rw [List.map_cons, List.sum_cons, Multiset.count_add, Multiset.count_replicate,
      inductionHypothesis, List.filter_cons]
    by_cases same : p.typeText = t
    · rw [if_pos same, if_pos (decide_eq_true same), List.foldr_cons]
    · rw [if_neg same, if_neg (by simpa using same), zero_add]

/-- The number of parameters is the number of their types, each as often as it occurs. -/
theorem card_paramTypes (params : List ParamDecl) :
    (paramTypes params).card = params.foldr (fun p n => p.units + n) 0 := by
  unfold paramTypes
  induction params with
  | nil => rfl
  | cons p rest inductionHypothesis =>
    rw [List.map_cons, List.sum_cons, Multiset.card_add, Multiset.card_replicate,
      inductionHypothesis, List.foldr_cons]

namespace ArgMultiset

/-! ### Entries as multisets -/

/-- The occurrences that a list of entries stands for. -/
def occurrences (entries : List (String × Nat)) : Multiset String :=
  (entries.map fun e => Multiset.replicate e.2 e.1).sum

@[simp] theorem occurrences_nil : occurrences [] = 0 := rfl

@[simp] theorem occurrences_cons (e : String × Nat) (entries : List (String × Nat)) :
    occurrences (e :: entries) = Multiset.replicate e.2 e.1 + occurrences entries := by
  simp [occurrences]

/-- Adding to the count of a type adds that many occurrences. -/
theorem occurrences_addCount (t : String) (n : Nat) (entries : List (String × Nat)) :
    occurrences (addCount t n entries) = occurrences entries + Multiset.replicate n t := by
  induction entries with
  | nil => simp [addCount]
  | cons head rest inductionHypothesis =>
    obtain ⟨u, m⟩ := head
    simp only [addCount]
    split
    · rw [occurrences_cons, add_comm]
    · split
      · next same =>
        rw [occurrences_cons, occurrences_cons, Multiset.replicate_add, same]
        exact add_right_comm _ _ _
      · rw [occurrences_cons, occurrences_cons, inductionHypothesis, add_assoc]

theorem card_occurrences (entries : List (String × Nat)) :
    (occurrences entries).card = entries.foldr (fun e n => e.2 + n) 0 := by
  induction entries with
  | nil => rfl
  | cons e rest inductionHypothesis =>
    rw [occurrences_cons, Multiset.card_add, Multiset.card_replicate, inductionHypothesis,
      List.foldr_cons]

/-- The count that a list of entries gives a type. -/
def countIn (entries : List (String × Nat)) (t : String) : Nat :=
  ((entries.find? fun e => e.1 == t).map Prod.snd).getD 0

theorem count_eq_countIn (a : ArgMultiset) (t : String) : a.count t = countIn a.entries t := rfl

theorem countIn_cons_self (t : String) (n : Nat) (entries : List (String × Nat)) :
    countIn ((t, n) :: entries) t = n := by
  simp [countIn]

theorem countIn_cons_of_ne {e : String × Nat} {t : String} (entries : List (String × Nat))
    (other : e.1 ≠ t) : countIn (e :: entries) t = countIn entries t := by
  simp [countIn, other]

theorem countIn_eq_zero {entries : List (String × Nat)} {t : String}
    (absent : t ∉ entries.map Prod.fst) : countIn entries t = 0 := by
  have unfound : (entries.find? fun e => e.1 == t) = none := by
    rw [List.find?_eq_none]
    intro e member found
    exact absent (List.mem_map.2 ⟨e, member, by simpa using found⟩)
  simp [countIn, unfound]

/-- No type has two entries, so the first entry of a type has all its occurrences. -/
theorem count_occurrences {entries : List (String × Nat)}
    (distinct : (entries.map Prod.fst).Nodup) (t : String) :
    (occurrences entries).count t = countIn entries t := by
  induction entries with
  | nil => rfl
  | cons head rest inductionHypothesis =>
    obtain ⟨u, m⟩ := head
    rw [List.map_cons, List.nodup_cons] at distinct
    rw [occurrences_cons, Multiset.count_add, Multiset.count_replicate,
      inductionHypothesis distinct.2]
    by_cases same : u = t
    · subst same
      rw [countIn_cons_self, countIn_eq_zero distinct.1, if_pos rfl, add_zero]
    · rw [countIn_cons_of_ne rest same, if_neg same, zero_add]

/-- Entry by entry the smaller count is kept. -/
theorem countIn_filterMap_meetEntry {entries : List (String × Nat)}
    (distinct : (entries.map Prod.fst).Nodup) (other : ArgMultiset) (t : String) :
    countIn (entries.filterMap (meetEntry other)) t = min (countIn entries t) (other.count t) := by
  induction entries with
  | nil => simp [countIn]
  | cons head rest inductionHypothesis =>
    obtain ⟨u, m⟩ := head
    rw [List.map_cons, List.nodup_cons] at distinct
    have later := inductionHypothesis distinct.2
    rw [List.filterMap_cons, meetEntry]
    by_cases same : u = t
    · subst same
      rw [countIn_cons_self]
      by_cases shared : 0 < min m (other.count u)
      · rw [if_pos shared, countIn_cons_self]
      · rw [if_neg shared, later, countIn_eq_zero distinct.1]
        omega
    · rw [countIn_cons_of_ne rest same]
      by_cases shared : 0 < min m (other.count u)
      · rw [if_pos shared, countIn_cons_of_ne _ same, later]
      · rw [if_neg shared, later]

/-! ### Argument multisets as multisets -/

/-- The occurrences that an argument multiset counts. -/
def toMultiset (a : ArgMultiset) : Multiset String :=
  occurrences a.entries

theorem distinct (a : ArgMultiset) : (a.entries.map Prod.fst).Nodup :=
  a.ascending.imp fun {_ _} below => ne_of_lt below

/-- The occurrences of a type are what it counts. -/
theorem count_toMultiset (a : ArgMultiset) (t : String) : a.toMultiset.count t = a.count t :=
  count_occurrences a.distinct t

/-- The entries are the types that count at all, each with its count. -/
theorem mem_entries_iff {a : ArgMultiset} {e : String × Nat} :
    e ∈ a.entries ↔ 0 < e.2 ∧ a.count e.1 = e.2 := by
  constructor
  · intro member
    refine ⟨a.positive e member, ?_⟩
    obtain ⟨before, after, split⟩ := List.append_of_mem member
    have distinct := a.distinct
    rw [split, List.map_append, List.map_cons, List.nodup_middle, List.nodup_cons,
      List.mem_append, not_or] at distinct
    have absent : (before.find? fun f => f.1 == e.1) = none := by
      rw [List.find?_eq_none]
      intro f inside found
      exact distinct.1.1 (List.mem_map.2 ⟨f, inside, by simpa using found⟩)
    simp [count, split, List.find?_append, absent]
  · rintro ⟨positive, counted⟩
    rw [count] at counted
    cases found : a.entries.find? fun f => f.1 == e.1 with
    | none =>
      rw [found, Option.map_none, Option.getD_none] at counted
      exact absurd counted (Nat.ne_of_lt positive)
    | some f =>
      rw [found, Option.map_some, Option.getD_some] at counted
      have sameType : f.1 = e.1 := by simpa using List.find?_some found
      rw [← Prod.ext sameType counted]
      exact List.mem_of_find?_eq_some found

/-- There is one order for entries whose types ascend. -/
theorem entries_ext {l m : List (String × Nat)} (ascending : (l.map Prod.fst).Pairwise (· < ·))
    (ascending' : (m.map Prod.fst).Pairwise (· < ·)) (same : ∀ e, e ∈ l ↔ e ∈ m) : l = m := by
  have nodup {entries : List (String × Nat)}
      (ascending : (entries.map Prod.fst).Pairwise (· < ·)) : entries.Nodup :=
    List.Nodup.of_map _ (ascending.imp fun {_ _} below => ne_of_lt below)
  have perm : l.Perm m := (List.perm_ext_iff_of_nodup (nodup ascending) (nodup ascending')).2 same
  refine perm.eq_of_pairwise (fun e f _ _ below above => ?_) (List.pairwise_map.1 ascending)
    (List.pairwise_map.1 ascending')
  exact absurd (String.lt_trans below above) (String.lt_irrefl _)

/-- An argument multiset is determined by its counts: the entries are those with a positive count,
and there is one order for them. -/
theorem eq_of_count_eq {a b : ArgMultiset} (same : ∀ t, a.count t = b.count t) : a = b := by
  have equal : a.entries = b.entries := by
    refine entries_ext a.ascending b.ascending fun e => ?_
    rw [mem_entries_iff, mem_entries_iff, same]
  cases a
  cases b
  exact (mk.injEq ..).mpr equal

/-- The list of arguments has the occurrences and no others. -/
theorem coe_expanded (a : ArgMultiset) : (a.expanded : Multiset String) = a.toMultiset := by
  unfold expanded toMultiset
  induction a.entries with
  | nil => rfl
  | cons head rest inductionHypothesis =>
    rw [List.flatMap_cons, ← Multiset.coe_add, inductionHypothesis, occurrences_cons,
      Multiset.coe_replicate]

theorem count_expanded (a : ArgMultiset) (t : String) :
    a.expanded.count t = a.toMultiset.count t := by
  rw [← coe_expanded, Multiset.coe_count]

theorem card_toMultiset (a : ArgMultiset) : a.toMultiset.card = a.total :=
  card_occurrences a.entries

theorem length_expanded (a : ArgMultiset) : a.expanded.length = a.total := by
  rw [← card_toMultiset, ← coe_expanded, Multiset.coe_card]

/-- The entries are in order and each is written out in one piece, so the whole is in order. -/
theorem expanded_sorted (a : ArgMultiset) : a.expanded.Pairwise (· ≤ ·) := by
  unfold expanded
  rw [List.pairwise_flatMap]
  refine ⟨fun e _ => List.pairwise_replicate.2 (Or.inr le_rfl), ?_⟩
  refine (List.pairwise_map.1 a.ascending).imp fun {e f} below => ?_
  intro t first u second
  rw [List.eq_of_mem_replicate first, List.eq_of_mem_replicate second]
  exact le_of_lt below

/-- Adding to a type adds its occurrences. -/
theorem toMultiset_add (a : ArgMultiset) (t : String) (n : Nat) :
    (a.add t n).toMultiset = a.toMultiset + Multiset.replicate n t := by
  unfold add
  split
  · exact occurrences_addCount t n a.entries
  · next nothing => rw [Nat.eq_zero_of_not_pos nothing, Multiset.replicate_zero, add_zero]

theorem toMultiset_foldl_add (pairs : List (String × Nat)) (a : ArgMultiset) :
    (pairs.foldl (fun a e => a.add e.1 e.2) a).toMultiset = a.toMultiset + occurrences pairs := by
  induction pairs generalizing a with
  | nil => simp
  | cons head rest inductionHypothesis =>
    rw [List.foldl_cons, inductionHypothesis, toMultiset_add, occurrences_cons, add_assoc]

theorem toMultiset_ofPairs (pairs : List (String × Nat)) :
    (ofPairs pairs).toMultiset = occurrences pairs := by
  rw [ofPairs, toMultiset_foldl_add]
  exact zero_add _

/-- The multiset of a parameter list counts its parameters by type. -/
theorem toMultiset_ofParams (params : List ParamDecl) :
    (ofParams params).toMultiset = paramTypes params := by
  rw [ofParams, toMultiset_ofPairs, occurrences, paramTypes, List.map_map]
  rfl

/-- The parameters of a declaration count their units by type. -/
theorem count_ofParams (params : List ParamDecl) (t : String) :
    (ofParams params).count t = unitsOf params t := by
  rw [← count_toMultiset, toMultiset_ofParams, count_paramTypes]

/-- The arguments of a declaration are as many as its parameters. -/
theorem total_ofParams (d : FunctionDecl) : (ofParams d.params).total = d.paramUnits := by
  rw [← card_toMultiset, toMultiset_ofParams, card_paramTypes]
  rfl

/-- Intersecting keeps of every type the smaller count. -/
theorem toMultiset_intersect (a b : ArgMultiset) :
    (a.intersect b).toMultiset = a.toMultiset ∩ b.toMultiset := by
  ext t
  rw [Multiset.count_inter, count_toMultiset, count_toMultiset, count_toMultiset,
    count_eq_countIn, count_eq_countIn a]
  exact countIn_filterMap_meetEntry a.distinct b t

/-- An intersection never has more arguments than either side. -/
theorem total_intersect_le (a b : ArgMultiset) : (a.intersect b).total ≤ a.total := by
  rw [← card_toMultiset, ← card_toMultiset, toMultiset_intersect]
  exact Multiset.card_le_card (Multiset.inter_le_left)

end ArgMultiset

end ParamChain.Chain
