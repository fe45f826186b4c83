import Mathlib.Data.List.Infix
import ParamChain.Chain.Reduce

/-
This file proves that the reduction of chains loses nothing. A chain is dropped only when one that
is kept has its stack as a run, or reads the same as text. Two stacks that read the same need not
be the same: the text joins the keys with arrows, and a key may hold an arrow itself. Where no key
does, the text can be taken apart again in one way only, since the arrow between two keys cannot
run into a key that ends in its first character or begins with its second.
-/

namespace ParamChain.Chain

/-! ### Runs -/

theorem occursIn_iff {run stack : List String} : occursIn run stack = true ↔ run <:+: stack := by
  induction stack with
  | nil => rw [occursIn, List.isEmpty_iff, List.infix_nil]
  | cons key rest inductionHypothesis =>
    rw [occursIn, Bool.or_eq_true, List.isPrefixOf_iff_prefix, inductionHypothesis,
      List.infix_cons_iff]

theorem isSubChainOf_iff {sub main : List String} :
    isSubChainOf sub main = true ↔ sub.length < main.length ∧ sub <:+: main := by
  rw [isSubChainOf, Bool.and_eq_true, decide_eq_true_iff, occursIn_iff]

/-! ### Taking joined keys apart -/

/-- No arrow stands in the key. -/
def ArrowFree (key : String) : Prop :=
  ¬ ['-', '>'] <:+: key.toList

instance (key : String) : Decidable (ArrowFree key) :=
  inferInstanceAs (Decidable (¬ _))

theorem arrow_infix_append (before after : List Char) :
    ['-', '>'] <:+: before ++ '-' :: '>' :: after :=
  ⟨before, after, by simp⟩

/-- What stands before an arrow, if it has none itself, is determined by the whole. -/
theorem append_arrow_inj {first second restFirst restSecond : List Char}
    (freeFirst : ¬ ['-', '>'] <:+: first) (freeSecond : ¬ ['-', '>'] <:+: second)
    (same : first ++ '-' :: '>' :: restFirst = second ++ '-' :: '>' :: restSecond) :
    first = second ∧ restFirst = restSecond := by
  rcases List.append_eq_append_iff.1 same with ⟨more, rfl, tail⟩ | ⟨more, rfl, tail⟩
  · match more with
    | [] => simpa using tail
    | [c] => simp at tail
    | c :: d :: more =>
      simp only [List.cons_append, List.cons.injEq] at tail
      obtain ⟨rfl, rfl, -⟩ := tail
      exact absurd (arrow_infix_append first more) freeSecond
  · match more with
    | [] => simpa using tail.symm
    | [c] => simp at tail
    | c :: d :: more =>
      simp only [List.cons_append, List.cons.injEq] at tail
      obtain ⟨rfl, rfl, -⟩ := tail
      exact absurd (arrow_infix_append second more) freeFirst

theorem toList_join_cons (separator key next : String) (keys : List String) :
    (Text.join separator (key :: next :: keys)).toList =
      key.toList ++ separator.toList ++ (Text.join separator (next :: keys)).toList := by
  rw [Text.join, String.toList_append, String.toList_append]
  simp

theorem toList_join_arrow (key next : String) (keys : List String) :
    (Text.join "->" (key :: next :: keys)).toList =
      key.toList ++ '-' :: '>' :: (Text.join "->" (next :: keys)).toList := by
  rw [toList_join_cons]
  exact List.append_assoc _ _ _

/-- Stacks of keys without arrows that read the same are the same. -/
theorem join_arrow_inj {first second : List String} (someFirst : first ≠ [])
    (someSecond : second ≠ []) (freeFirst : ∀ key ∈ first, ArrowFree key)
    (freeSecond : ∀ key ∈ second, ArrowFree key)
    (same : Text.join "->" first = Text.join "->" second) : first = second := by
  induction first generalizing second with
  | nil => exact absurd rfl someFirst
  | cons key keys inductionHypothesis =>
    cases second with
    | nil => exact absurd rfl someSecond
    | cons key' keys' =>
      have freeKey := freeFirst key List.mem_cons_self
      have freeKey' := freeSecond key' List.mem_cons_self
      cases keys with
      | nil =>
        cases keys' with
        | nil => exact congrArg (fun k => [k]) same
        | cons next' keys' =>
          have text := congrArg String.toList same
          rw [toList_join_arrow] at text
          exact absurd (text ▸ arrow_infix_append _ _) freeKey
      | cons next keys =>
        cases keys' with
        | nil =>
          have text := congrArg String.toList same
          rw [toList_join_arrow] at text
          exact absurd (text ▸ arrow_infix_append _ _) freeKey'
        | cons next' keys' =>
          have text := congrArg String.toList same
          rw [toList_join_arrow, toList_join_arrow] at text
          obtain ⟨sameKey, sameRest⟩ := append_arrow_inj freeKey freeKey' text
          rw [String.toList_inj.1 sameKey]
          refine congrArg _ (inductionHypothesis (List.cons_ne_nil _ _) (List.cons_ne_nil _ _)
            (fun k member => freeFirst k (List.mem_cons_of_mem _ member))
            (fun k member => freeSecond k (List.mem_cons_of_mem _ member))
            (String.toList_inj.1 sameRest))

/-! ### What is kept -/

/-- A chain makes another superfluous: its stack has that of the other as a run and is longer, or
the two stacks read the same. -/
def CallChain.Covers (k c : CallChain) : Prop :=
  (c.callStack.length < k.callStack.length ∧ c.callStack <:+: k.callStack) ∨
    Text.join "->" k.callStack = Text.join "->" c.callStack

theorem isCovered_iff {kept : List CallChain} {c : CallChain} :
    isCovered kept c = true ↔ ∃ k ∈ kept, k.Covers c := by
  simp only [isCovered, Bool.or_eq_true, List.any_eq_true, isSubChainOf_iff, beq_iff_eq,
    CallChain.Covers, and_or_left, exists_or]

/-- What is kept stays kept. -/
theorem prefix_keepUncovered (kept chains : List CallChain) :
    kept <+: keepUncovered kept chains := by
  induction chains generalizing kept with
  | nil => exact List.prefix_rfl
  | cons c rest inductionHypothesis =>
    rw [keepUncovered]
    split
    · exact inductionHypothesis kept
    · exact (List.prefix_append kept [c]).trans (inductionHypothesis _)

theorem mem_of_mem_keepUncovered {kept chains : List CallChain} {k : CallChain}
    (member : k ∈ keepUncovered kept chains) : k ∈ kept ∨ k ∈ chains := by
  induction chains generalizing kept with
  | nil => exact Or.inl member
  | cons c rest inductionHypothesis =>
    rw [keepUncovered] at member
    split at member
    · rcases inductionHypothesis member with old | later
      · exact Or.inl old
      · exact Or.inr (List.mem_cons_of_mem _ later)
    · rcases inductionHypothesis member with old | later
      · rcases List.mem_append.1 old with older | new
        · exact Or.inl older
        · exact Or.inr (List.mem_singleton.1 new ▸ List.mem_cons_self)
      · exact Or.inr (List.mem_cons_of_mem _ later)

/-- Every chain that is looked at is covered by one that is kept, if only by itself. -/
theorem exists_covers_of_mem {kept chains : List CallChain} {c : CallChain}
    (member : c ∈ chains) : ∃ k ∈ keepUncovered kept chains, k.Covers c := by
  induction chains generalizing kept with
  | nil => cases member
  | cons first rest inductionHypothesis =>
    rw [keepUncovered]
    rcases List.mem_cons.1 member with rfl | later
    · split
      · next covered =>
        obtain ⟨k, isKept, covers⟩ := isCovered_iff.1 covered
        exact ⟨k, (prefix_keepUncovered kept rest).subset isKept, covers⟩
      · refine ⟨c, (prefix_keepUncovered _ rest).subset ?_, Or.inr rfl⟩
        exact List.mem_append_right _ List.mem_cons_self
    · exact inductionHypothesis later

theorem mem_of_mem_reduceChains {chains : List CallChain} {k : CallChain}
    (member : k ∈ reduceChains chains) : k ∈ chains := by
  rcases mem_of_mem_keepUncovered member with nothing | sorted
  · cases nothing
  · exact (List.mergeSort_perm _ _).mem_iff.1 sorted

theorem exists_mem_reduceChains_covers {chains : List CallChain} {c : CallChain}
    (member : c ∈ chains) : ∃ k ∈ reduceChains chains, k.Covers c :=
  exists_covers_of_mem ((List.mergeSort_perm _ _).mem_iff.2 member)

/-- Something is kept as soon as something was found. -/
theorem reduceChains_eq_nil_iff {chains : List CallChain} :
    reduceChains chains = [] ↔ chains = [] := by
  constructor
  · intro nothing
    refine List.eq_nil_iff_forall_not_mem.2 fun c member => ?_
    obtain ⟨k, isKept, -⟩ := exists_mem_reduceChains_covers member
    rw [nothing] at isKept
    cases isKept
  · rintro rfl
    rw [reduceChains, List.mergeSort_nil, keepUncovered]

/-- Where no key holds an arrow, a chain that covers another has its stack as a run. -/
theorem CallChain.Covers.run {k c : CallChain} (covers : k.Covers c)
    (someKept : k.callStack ≠ []) (someStack : c.callStack ≠ [])
    (freeKept : ∀ key ∈ k.callStack, ArrowFree key)
    (freeStack : ∀ key ∈ c.callStack, ArrowFree key) : c.callStack <:+: k.callStack := by
  rcases covers with ⟨-, run⟩ | same
  · exact run
  · rw [join_arrow_inj someKept someStack freeKept freeStack same]

end ParamChain.Chain
