import ParamChain.Proofs.IndexLookup

/-
This file makes the index in one pass over the declarations and proves that nothing is lost by it.

The pass keeps the eligible declarations in a row and notes, under each key, the place in the row of
the last declaration that has it. The place is noted before the declaration is put there, and a key
that comes again takes the place of the earlier one. So every place that is noted lies in the row,
and what stands there is the last declaration with the key; the step keeps this whatever keys have
come before. The table then answers as the index does.
-/

namespace ParamChain.Chain

/-- The eligible declarations in a row, and for each of their keys a place in the row. -/
structure SlotTable where
  row : Array Signature
  slots : Std.HashMap String Nat

namespace SlotTable

/-- The table of no declarations. -/
def empty : SlotTable := ⟨#[], ∅⟩

/-- Take in a declaration, if it has enough parameters. -/
def enter (minimum : Nat) (table : SlotTable) (d : FunctionDecl) : SlotTable :=
  if d.paramUnits < minimum then table
  else ⟨table.row.push (signatureOf d), table.slots.insert (declKey d) table.row.size⟩

/-- The table of the declarations with at least `minimum` parameters. -/
def build (decls : List FunctionDecl) (minimum : Nat) : SlotTable :=
  decls.foldl (enter minimum) empty

/-- The declaration at the place of a key. -/
def get? (table : SlotTable) (key : String) : Option Signature :=
  table.slots[key]?.bind fun slot => table.row[slot]?

end SlotTable

/-! ### The last place of a key -/

/-- At the place there stands the last of the declarations with the key. -/
def LastAt (roots : List Signature) (key : String) (slot : Nat) (s : Signature) : Prop :=
  ∃ before after, roots = before ++ s :: after ∧ before.length = slot ∧ s.key = key ∧
    ∀ r ∈ after, r.key ≠ key

variable {roots : List Signature} {key : String} {slot : Nat} {s : Signature}

theorem LastAt.getElem? (last : LastAt roots key slot s) : roots[slot]? = some s := by
  obtain ⟨before, after, rfl, rfl, -⟩ := last
  rw [List.getElem?_append_right (Nat.le_refl _), Nat.sub_self, List.getElem?_cons_zero]

/-- A lookup returns what stands at the last place of the key. -/
theorem get?_eq_some_iff_lastAt :
    (Index.mk roots).get? key = some s ↔ ∃ slot, LastAt roots key slot s := by
  rw [Index.get?_eq_some_iff]
  constructor
  · rintro ⟨same, before, after, split, others⟩
    exact ⟨before.length, before, after, split, rfl, same, others⟩
  · rintro ⟨_, before, after, split, -, same, others⟩
    exact ⟨same, before, after, split, others⟩

/-- With one declaration more, its key has the new place and all other keys keep theirs. -/
theorem lastAt_concat {new : Signature} :
    LastAt (roots ++ [new]) key slot s ↔
      (new.key = key ∧ new = s ∧ slot = roots.length) ∨
        (new.key ≠ key ∧ LastAt roots key slot s) := by
  constructor
  · rintro ⟨before, after, split, rfl, same, others⟩
    rcases List.eq_nil_or_concat after with rfl | ⟨after, last, rfl⟩
    · obtain ⟨rfl, isLast⟩ := List.append_inj' split rfl
      obtain rfl := List.singleton_inj.1 isLast
      exact Or.inl ⟨same, rfl, rfl⟩
    · rw [List.concat_eq_append, ← List.cons_append, ← List.append_assoc] at split
      obtain ⟨rfl, isLast⟩ := List.append_inj' split rfl
      obtain rfl := List.singleton_inj.1 isLast
      refine Or.inr ⟨others new (by simp), before, after, rfl, rfl, same, fun r later => ?_⟩
      exact others r (by simp [later])
  · rintro (⟨same, rfl, rfl⟩ | ⟨other, before, after, rfl, rfl, same, others⟩)
    · exact ⟨roots, [], rfl, rfl, same, fun r later => absurd later List.not_mem_nil⟩
    · refine ⟨before, after ++ [new], by simp, rfl, same, fun r later => ?_⟩
      rcases List.mem_append.1 later with earlier | isNew
      · exact others r earlier
      · rw [List.mem_singleton.1 isNew]
        exact other

namespace SlotTable

/-! ### What the pass keeps -/

/-- The table has the declarations in its row, the last place of each key, and no other keys. -/
structure Holds (table : SlotTable) (roots : List Signature) : Prop where
  row : table.row.toList = roots
  slots : ∀ key slot, table.slots[key]? = some slot ↔ ∃ s, LastAt roots key slot s
  size : table.slots.size = (roots.map Signature.key).toFinset.card

variable {table : SlotTable}

theorem holds_empty : empty.Holds [] where
  row := rfl
  slots key slot := by
    have nothing : (∅ : Std.HashMap String Nat)[key]? = none := Std.HashMap.getElem?_empty
    rw [empty, nothing]
    refine ⟨nofun, ?_⟩
    rintro ⟨s, last⟩
    cases last.getElem?
  size := rfl

theorem Holds.getElem?_eq_none_iff (holds : table.Holds roots) :
    table.slots[key]? = none ↔ key ∉ roots.map Signature.key := by
  have absent : (Index.mk roots).get? key = none ↔ key ∉ roots.map Signature.key :=
    Index.get?_eq_none_iff
  rw [← absent]
  simp only [Option.eq_none_iff_forall_ne_some, ne_eq, holds.slots, get?_eq_some_iff_lastAt,
    not_exists]
  exact forall_comm

theorem enter_eq {minimum : Nat} {d : FunctionDecl} (enough : minimum ≤ d.paramUnits) :
    table.enter minimum d =
      ⟨table.row.push (signatureOf d),
        table.slots.insert (declKey d) table.row.size⟩ := by
  rw [SlotTable.enter, if_neg (Nat.not_lt_of_le enough)]

/-- The pass takes in a declaration with enough parameters behind the others. -/
theorem Holds.enter (holds : table.Holds roots) {minimum : Nat} {d : FunctionDecl}
    (enough : minimum ≤ d.paramUnits) :
    (table.enter minimum d).Holds (roots ++ [signatureOf d]) := by
  have place : table.row.size = roots.length := by
    rw [← holds.row, Array.length_toList]
  rw [enter_eq enough]
  refine ⟨?_, fun key slot => ?_, ?_⟩
  · rw [Array.toList_push, holds.row]
  · simp only [Std.HashMap.getElem?_insert, beq_iff_eq, lastAt_concat]
    by_cases same : declKey d = key
    · rw [if_pos same, Option.some.injEq, place]
      constructor
      · rintro rfl
        exact ⟨signatureOf d, Or.inl ⟨same, rfl, rfl⟩⟩
      · rintro ⟨s, ⟨-, -, isPlace⟩ | ⟨other, -⟩⟩
        · exact isPlace.symm
        · exact absurd same other
    · rw [if_neg same, holds.slots]
      constructor
      · rintro ⟨s, last⟩
        exact ⟨s, Or.inr ⟨same, last⟩⟩
      · rintro ⟨s, ⟨isKey, -⟩ | ⟨-, last⟩⟩
        · exact absurd isKey same
        · exact ⟨s, last⟩
  · have known : declKey d ∈ table.slots ↔ declKey d ∈ (roots.map Signature.key).toFinset := by
      rw [List.mem_toFinset, ← not_iff_not, ← holds.getElem?_eq_none_iff,
        Std.HashMap.mem_iff_isSome_getElem?, Option.not_isSome_iff_eq_none]
    have keys : ((roots ++ [signatureOf d]).map Signature.key).toFinset =
        insert (declKey d) (roots.map Signature.key).toFinset := by
      rw [List.map_append, List.toFinset_append, Finset.union_comm]
      rfl
    rw [Std.HashMap.size_insert, keys, holds.size]
    by_cases again : declKey d ∈ table.slots
    · rw [if_pos again, Finset.insert_eq_of_mem (known.1 again)]
    · rw [if_neg again, Finset.card_insert_of_notMem fun member => again (known.2 member)]

/-- The pass over more declarations adds those of them that are eligible. -/
theorem Holds.foldl_enter (holds : table.Holds roots) (minimum : Nat) (decls : List FunctionDecl) :
    (decls.foldl (SlotTable.enter minimum) table).Holds
      (roots ++ (Index.build decls minimum).roots) := by
  induction decls generalizing table roots with
  | nil =>
    rw [Index.roots_build]
    exact (List.append_nil roots).symm ▸ holds
  | cons d rest inductionHypothesis =>
    rw [List.foldl_cons, Index.roots_build, eligible, List.filter_cons]
    by_cases enough : minimum ≤ d.paramUnits
    · have more := inductionHypothesis (holds.enter enough)
      rw [List.append_assoc] at more
      rw [if_pos (decide_eq_true enough)]
      exact more
    · rw [if_neg (by simpa using enough), SlotTable.enter, if_pos (Nat.lt_of_not_le enough)]
      exact inductionHypothesis holds

theorem holds_build (decls : List FunctionDecl) (minimum : Nat) :
    (build decls minimum).Holds (Index.build decls minimum).roots :=
  holds_empty.foldl_enter minimum decls

/-! ### What the table answers -/

/-- A place that is noted lies in the row, and the declaration there has the key. -/
theorem Holds.in_row (holds : table.Holds roots) (noted : table.slots[key]? = some slot) :
    ∃ s, table.row[slot]? = some s ∧ (Index.mk roots).get? key = some s := by
  obtain ⟨s, last⟩ := (holds.slots key slot).1 noted
  refine ⟨s, ?_, get?_eq_some_iff_lastAt.2 ⟨slot, last⟩⟩
  rw [← Array.getElem?_toList, holds.row, last.getElem?]

theorem Holds.get?_eq (holds : table.Holds roots) (key : String) :
    table.get? key = (Index.mk roots).get? key := by
  rw [get?]
  cases noted : table.slots[key]? with
  | none =>
    rw [holds.getElem?_eq_none_iff] at noted
    exact (Index.get?_eq_none_iff.2 noted).symm
  | some slot =>
    obtain ⟨s, stands, found⟩ := holds.in_row noted
    rw [Option.bind_some, stands, found]

theorem Holds.isEmpty_iff (holds : table.Holds roots) : table.slots.isEmpty ↔ roots = [] := by
  rw [Std.HashMap.isEmpty_eq_size_eq_zero, beq_iff_eq, holds.size, Finset.card_eq_zero,
    List.toFinset_eq_empty_iff, List.map_eq_nil_iff]

end SlotTable

/-- What the index of declarations holds and answers, and that the table made in one pass holds and
answers the same. The roots are the eligible declarations in their order, each under its key. A
lookup returns the last root with the key, and nothing only if no root has it; the place that the
table notes for a key is always one of the row, with a declaration of that key in it. The size is
the number of different keys, and the index is empty when it has no roots. -/
theorem index_made_in_one_pass (decls : List FunctionDecl) (minimum : Nat) :
    let index := Index.build decls minimum
    let table := SlotTable.build decls minimum
    (index.roots = (decls.filter fun d => minimum ≤ d.paramUnits).map (fun d => ⟨declKey d, d⟩) ∧
        table.row.toList = index.roots) ∧
      (∀ key, (∀ s, index.get? key = some s ↔ s.key = key ∧ ∃ before after,
            index.roots = before ++ s :: after ∧ ∀ r ∈ after, r.key ≠ key) ∧
          (index.get? key = none ↔ ∀ s ∈ index.roots, s.key ≠ key) ∧
          table.get? key = index.get? key ∧
          ∀ slot, table.slots[key]? = some slot →
            ∃ inRow : slot < table.row.size, table.row[slot].key = key) ∧
      (index.size = (index.roots.map Signature.key).toFinset.card ∧
        table.slots.size = index.size) ∧
      (index.isEmpty ↔ index.roots = []) ∧ (table.slots.isEmpty ↔ index.roots = []) := by
  intro index table
  have holds : table.Holds index.roots := SlotTable.holds_build decls minimum
  refine ⟨⟨rfl, holds.row⟩, fun key => ⟨fun s => Index.get?_eq_some_iff, ?_, holds.get?_eq key, ?_⟩,
    ⟨index.size_eq_card, holds.size.trans index.size_eq_card.symm⟩, List.isEmpty_iff,
    holds.isEmpty_iff⟩
  · rw [Index.get?_eq_none_iff, Index.keys, List.mem_map, not_exists]
    simp only [not_and]
  · intro slot noted
    obtain ⟨s, stands, found⟩ := holds.in_row noted
    obtain ⟨inRow, isThere⟩ := Array.getElem?_eq_some_iff.1 stands
    refine ⟨inRow, ?_⟩
    rw [isThere]
    exact Index.key_of_get? found

end ParamChain.Chain
