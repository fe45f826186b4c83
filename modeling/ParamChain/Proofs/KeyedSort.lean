import Mathlib.Data.List.Pairwise
import Mathlib.Order.Lattice

/-
This file says what sorting by a key does. The sort takes a test on two items; here the test is
one that compares their keys, which are in a linear order. The sorted list ascends in its keys,
and the items with any one key stand in it as they stood before. Where no two items have one key
the order in which they came decides nothing.
-/

namespace ParamChain

section KeyedSort

variable {Item Key : Type} [LinearOrder Key] {key : Item → Key} {le : Item → Item → Bool}

/-- A test that compares items by their keys. -/
def SortsBy (key : Item → Key) (le : Item → Item → Bool) : Prop :=
  ∀ a b, le a b = true ↔ key a ≤ key b

theorem SortsBy.trans (byKey : SortsBy key le) (a b c : Item) (first : le a b = true)
    (second : le b c = true) : le a c = true :=
  (byKey a c).2 (le_trans ((byKey a b).1 first) ((byKey b c).1 second))

theorem SortsBy.total (byKey : SortsBy key le) (a b : Item) : (le a b || le b a) = true := by
  rw [Bool.or_eq_true, byKey, byKey]
  exact le_total _ _

theorem SortsBy.ascending (byKey : SortsBy key le) (items : List Item) :
    (items.mergeSort le).Pairwise fun a b => key a ≤ key b :=
  (List.pairwise_mergeSort byKey.trans byKey.total items).imp fun {a b} => (byKey a b).1

/-- The items with one key stay in the order they came in. -/
theorem SortsBy.filter_mergeSort (byKey : SortsBy key le) (value : Key) (items : List Item) :
    ((items.mergeSort le).filter fun a => key a = value) =
      items.filter fun a => key a = value := by
  have level : (items.filter fun a => key a = value).Pairwise fun a b => le a b = true := by
    refine List.Pairwise.imp_of_mem (fun {a b} memberA memberB _ => ?_)
      (List.pairwise_of_forall fun _ _ => trivial)
    have valueA : key a = value := of_decide_eq_true (List.mem_filter.1 memberA).2
    have valueB : key b = value := of_decide_eq_true (List.mem_filter.1 memberB).2
    exact (byKey a b).2 (le_of_eq (valueA.trans valueB.symm))
  have inside : (items.filter fun a => key a = value).Sublist (items.mergeSort le) :=
    List.sublist_mergeSort byKey.trans byKey.total level List.filter_sublist
  have onLevel := inside.filter fun a => key a = value
  simp only [List.filter_filter, Bool.and_self] at onLevel
  exact (onLevel.eq_of_length ((List.mergeSort_perm items le).filter _).length_eq.symm).symm

/-- Items with different keys are put in the order of the keys, and of items with one key the first
comes first. -/
theorem SortsBy.pairwise_mergeSort {Before : Item → Item → Prop} (byKey : SortsBy key le)
    {items : List Item} (ordered : items.Pairwise Before) :
    (items.mergeSort le).Pairwise fun a b => key a < key b ∨ key a = key b ∧ Before a b := by
  refine List.pairwise_iff_forall_sublist.2 fun {a b} inside => ?_
  have ascending : key a ≤ key b :=
    List.pairwise_iff_forall_sublist.1 (byKey.ascending items) inside
  rcases lt_or_eq_of_le ascending with below | same
  · exact Or.inl below
  · have level : [a, b].filter (fun item => key item = key b) = [a, b] := by simp [same]
    have onLevel := inside.filter fun item => key item = key b
    rw [byKey.filter_mergeSort, level] at onLevel
    exact Or.inr ⟨same, List.pairwise_iff_forall_sublist.1 ordered
      (onLevel.trans List.filter_sublist)⟩

/-- With distinct keys there is one order only to put the items in. -/
theorem SortsBy.mergeSort_eq_of_perm (byKey : SortsBy key le) {items items' : List Item}
    (reordered : items.Perm items') (distinct : items.Pairwise fun a b => key a ≠ key b) :
    items.mergeSort le = items'.mergeSort le := by
  have sameItems : (items.mergeSort le).Perm (items'.mergeSort le) :=
    (List.mergeSort_perm items le).trans
      (reordered.trans (List.mergeSort_perm items' le).symm)
  refine List.Perm.eq_of_pairwise (fun a b memberA memberB forth back => ?_)
    (byKey.ascending items) (byKey.ascending items') sameItems
  have inItems : a ∈ items := List.mem_mergeSort.1 memberA
  have inItems' : b ∈ items := reordered.mem_iff.2 (List.mem_mergeSort.1 memberB)
  have symmetric : Std.Symm fun a b : Item => key a ≠ key b := ⟨fun _ _ other => other.symm⟩
  by_contra different
  exact distinct.forall inItems inItems' different (le_antisymm forth back)

end KeyedSort

/-- The items of a list, each with its place, stand in the order of their places. -/
theorem zipIdx_ascending {Item : Type} (items : List Item) :
    items.zipIdx.Pairwise fun a b => a.2 < b.2 := by
  rw [← List.pairwise_map (f := Prod.snd), List.zipIdx_map_snd]
  exact List.pairwise_lt_range'

end ParamChain
