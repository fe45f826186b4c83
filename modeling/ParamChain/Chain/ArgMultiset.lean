import ParamChain.Source.Model

/-
This file holds argument multisets: how many parameters of each type a declaration offers, and
how many of them a chain of declarations shares. A multiset is a list of types in strictly
ascending order, each with a positive count. That form is unique, so two multisets with the same
counts are equal, and the order of the expanded list is the order of the entries.
-/

namespace ParamChain.Chain

/-- Add `n` occurrences of the type `t` to entries in ascending order. -/
def addCount (t : String) (n : Nat) : List (String × Nat) → List (String × Nat)
  | [] => [(t, n)]
  | (u, m) :: rest =>
    if t < u then (t, n) :: (u, m) :: rest
    else if t = u then (u, m + n) :: rest
    else (u, m) :: addCount t n rest

/-- How many parameters there are of each type. -/
structure ArgMultiset where
  /-- The types that occur, each with its count. -/
  entries : List (String × Nat)
  /-- Types are strictly ascending. -/
  ascending : (entries.map Prod.fst).Pairwise (· < ·)
  /-- A type that does not occur has no entry. -/
  positive : ∀ e ∈ entries, 0 < e.2

/-! ### Adding occurrences -/

theorem mem_addCount {t : String} {n : Nat} {l : List (String × Nat)} {e : String × Nat}
    (member : e ∈ addCount t n l) :
    (e.1 = t ∧ n ≤ e.2) ∨ e ∈ l := by
  induction l with
  | nil =>
    simp only [addCount, List.mem_singleton] at member
    subst member
    exact Or.inl ⟨rfl, Nat.le_refl _⟩
  | cons head rest inductionHypothesis =>
    obtain ⟨u, m⟩ := head
    simp only [addCount] at member
    split at member
    · rcases List.mem_cons.1 member with here | there
      · subst here
        exact Or.inl ⟨rfl, Nat.le_refl _⟩
      · exact Or.inr there
    · split at member
      · next same =>
        rcases List.mem_cons.1 member with here | there
        · subst here
          exact Or.inl ⟨same.symm, Nat.le_add_left _ _⟩
        · exact Or.inr (List.mem_cons_of_mem _ there)
      · rcases List.mem_cons.1 member with here | there
        · subst here
          exact Or.inr List.mem_cons_self
        · rcases inductionHypothesis there with new | old
          · exact Or.inl new
          · exact Or.inr (List.mem_cons_of_mem _ old)

theorem addCount_positive {t : String} {n : Nat} {l : List (String × Nat)} (added : 0 < n)
    (positive : ∀ e ∈ l, 0 < e.2) : ∀ e ∈ addCount t n l, 0 < e.2 := by
  intro e member
  rcases mem_addCount member with ⟨_, enough⟩ | old
  · exact Nat.lt_of_lt_of_le added enough
  · exact positive e old

theorem addCount_ascending {t : String} {n : Nat} {l : List (String × Nat)}
    (ascending : (l.map Prod.fst).Pairwise (· < ·)) :
    ((addCount t n l).map Prod.fst).Pairwise (· < ·) := by
  induction l with
  | nil => simp [addCount]
  | cons head rest inductionHypothesis =>
    obtain ⟨u, m⟩ := head
    simp only [List.map_cons, List.pairwise_cons] at ascending
    simp only [addCount]
    split
    · next below =>
      simp only [List.map_cons, List.pairwise_cons, List.mem_cons]
      refine ⟨?_, ascending⟩
      rintro v (here | there)
      · exact here ▸ below
      · exact String.lt_trans below (ascending.1 v there)
    · split
      · simpa using ascending
      · next notBelow different =>
        have above : u < t := by
          by_cases above : u < t
          · exact above
          · exact absurd (String.le_antisymm above notBelow) different
        simp only [List.map_cons, List.pairwise_cons]
        refine ⟨?_, inductionHypothesis ascending.2⟩
        intro v member
        obtain ⟨e, inside, rfl⟩ := List.mem_map.1 member
        rcases mem_addCount inside with ⟨new, _⟩ | old
        · exact new ▸ above
        · exact ascending.1 _ (List.mem_map_of_mem old)

namespace ArgMultiset

/-- No arguments at all. -/
def empty : ArgMultiset :=
  ⟨[], List.Pairwise.nil, by simp⟩

instance : Inhabited ArgMultiset := ⟨empty⟩

/-- The multiset with `n` more occurrences of the type `t`. -/
def add (a : ArgMultiset) (t : String) (n : Nat) : ArgMultiset :=
  if added : 0 < n then
    ⟨addCount t n a.entries, addCount_ascending a.ascending, addCount_positive added a.positive⟩
  else a

/-- The multiset of a list of types with counts. Counts of one type add up. -/
def ofPairs (pairs : List (String × Nat)) : ArgMultiset :=
  pairs.foldl (fun a e => a.add e.1 e.2) empty

/-- The parameters of a declaration, by type. -/
def ofParams (params : List ParamDecl) : ArgMultiset :=
  ofPairs (params.map fun p => (p.typeText, p.units))

/-- The count of a type, zero if it does not occur. -/
def count (a : ArgMultiset) (t : String) : Nat :=
  ((a.entries.find? fun e => e.1 == t).map Prod.snd).getD 0

/-- The entry of a type in the meet with another multiset, if the type occurs in it. -/
def meetEntry (other : ArgMultiset) (e : String × Nat) : Option (String × Nat) :=
  let n := min e.2 (other.count e.1)
  if 0 < n then some (e.1, n) else none

theorem meetEntry_fst {other : ArgMultiset} {e f : String × Nat}
    (found : meetEntry other e = some f) : f.1 = e.1 ∧ 0 < f.2 := by
  simp only [meetEntry] at found
  split at found
  · next positive =>
    simp only [Option.some.injEq] at found
    subst found
    exact ⟨rfl, positive⟩
  · simp at found

theorem filterMap_meetEntry_sublist (other : ArgMultiset) (l : List (String × Nat)) :
    ((l.filterMap (meetEntry other)).map Prod.fst).Sublist (l.map Prod.fst) := by
  induction l with
  | nil => simp
  | cons head rest inductionHypothesis =>
    rw [List.filterMap_cons]
    split
    · exact List.Sublist.cons _ inductionHypothesis
    · next f found =>
      rw [List.map_cons, List.map_cons, (meetEntry_fst found).1]
      exact inductionHypothesis.cons_cons _

/-- What two multisets share: of every type the smaller count. -/
def intersect (a b : ArgMultiset) : ArgMultiset where
  entries := a.entries.filterMap (meetEntry b)
  ascending := a.ascending.sublist (filterMap_meetEntry_sublist b a.entries)
  positive := by
    intro e member
    obtain ⟨_, _, found⟩ := List.mem_filterMap.1 member
    exact (meetEntry_fst found).2

/-- The number of arguments. -/
def total (a : ArgMultiset) : Nat :=
  a.entries.foldr (fun e n => e.2 + n) 0

/-- Every type as often as it occurs, in ascending order. -/
def expanded (a : ArgMultiset) : List String :=
  a.entries.flatMap fun e => List.replicate e.2 e.1

end ArgMultiset

end ParamChain.Chain
