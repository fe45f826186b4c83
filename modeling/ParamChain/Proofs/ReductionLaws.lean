import Mathlib.Data.List.Forall2
import Mathlib.Data.List.Infix
import ParamChain.Proofs.Reduction

/-
This file says what the reduction of chains depends on. It looks at stacks only, so chains that
match one for one in their stacks are kept or dropped together. It is not disturbed by a chain
whose stack came before: such a chain is covered by whatever covers the first, and the sort, being
stable, never brings a later one in front of an earlier one with the same stack.

Where no key holds an arrow there is a closed form. The kept chains are those whose stack is not a
run inside a longer one among all the chains that were found, not only among those kept so far, and
of chains with one stack the first. The order in which the chains were found then decides no more
than the order in which the kept ones stand.
-/

namespace ParamChain.Chain

/-! ### The first of each key -/

section FirstsBy

variable {Item Key : Type} [DecidableEq Key] {key : Item → Key}

/-- The items whose key no earlier item has. -/
def firstsBy (key : Item → Key) : List Item → List Item
  | [] => []
  | first :: rest => first :: (firstsBy key rest).filter fun item => key item ≠ key first

theorem firstsBy_sublist (items : List Item) : (firstsBy key items).Sublist items := by
  induction items with
  | nil => exact List.Sublist.slnil
  | cons first rest inductionHypothesis =>
    exact (List.filter_sublist.trans inductionHypothesis).cons_cons first

theorem firstsBy_eq_nil_iff {items : List Item} : firstsBy key items = [] ↔ items = [] := by
  cases items with
  | nil => exact Iff.rfl
  | cons first rest => simp [firstsBy]

/-- No two of the first items have one key. -/
theorem firstsBy_pairwise (items : List Item) :
    (firstsBy key items).Pairwise fun first second => key first ≠ key second := by
  induction items with
  | nil => exact List.Pairwise.nil
  | cons first rest inductionHypothesis =>
    refine List.pairwise_cons.2 ⟨fun item member => ?_, inductionHypothesis.filter _⟩
    have other : key item ≠ key first := by simpa using (List.mem_filter.1 member).2
    exact other.symm

/-- No key is lost. -/
theorem mem_map_firstsBy {items : List Item} {value : Key} :
    value ∈ (firstsBy key items).map key ↔ value ∈ items.map key := by
  refine ⟨fun member => ((firstsBy_sublist items).map key).subset member, fun member => ?_⟩
  induction items with
  | nil => cases member
  | cons first rest inductionHypothesis =>
    by_cases same : value = key first
    · exact List.mem_map.2 ⟨first, List.mem_cons_self, same.symm⟩
    · rcases List.mem_cons.1 member with here | later
      · exact absurd here same
      · obtain ⟨item, isFirst, rfl⟩ := List.mem_map.1 (inductionHypothesis later)
        exact List.mem_map_of_mem
          (List.mem_cons_of_mem _ (List.mem_filter.2 ⟨isFirst, decide_eq_true same⟩))

/-- A test that looks at the key only may be made before or after. -/
theorem filter_firstsBy {test : Item → Bool}
    (keyed : ∀ first second, key first = key second → test first = test second)
    (items : List Item) :
    (firstsBy key items).filter test = firstsBy key (items.filter test) := by
  induction items with
  | nil => rfl
  | cons first rest inductionHypothesis =>
    rw [firstsBy, List.filter_cons, List.filter_cons]
    by_cases passes : test first = true
    · rw [if_pos passes, if_pos passes, firstsBy, List.filter_filter, ← inductionHypothesis,
        List.filter_filter]
      simp only [Bool.and_comm]
    · rw [if_neg passes, if_neg passes, List.filter_filter, ← inductionHypothesis]
      have fails (item : Item) (same : key item = key first) : test item = false := by
        rw [keyed item first same]
        exact Bool.eq_false_iff.2 passes
      refine List.filter_congr fun item _ => ?_
      by_cases same : key item = key first
      · simp [fails item same]
      · simp [same]

/-- Where the result depends on the key, repeated keys give repeated results and no others. -/
theorem firstsBy_filterMap {Result ResultKey : Type} [DecidableEq ResultKey]
    {resultKey : Result → ResultKey} {result : Item → Option Result} (items : List Item)
    (keyed : ∀ first ∈ items, ∀ second ∈ items,
      key first = key second → result first = result second) :
    firstsBy resultKey ((firstsBy key items).filterMap result) =
      firstsBy resultKey (items.filterMap result) := by
  induction items with
  | nil => rfl
  | cons first rest inductionHypothesis =>
    have later := inductionHypothesis fun a memberA b memberB =>
      keyed a (List.mem_cons_of_mem _ memberA) b (List.mem_cons_of_mem _ memberB)
    have repeated : ∀ item ∈ firstsBy key rest, key item = key first →
        result item = result first := fun item member same =>
      keyed item (List.mem_cons_of_mem _ ((firstsBy_sublist rest).subset member)) first
        List.mem_cons_self same
    rw [firstsBy, List.filterMap_cons, List.filterMap_cons]
    cases returned : result first with
    | none =>
      dsimp only
      rw [← later, List.filterMap_filter]
      refine congrArg _ (List.filterMap_congr fun item member => ?_)
      by_cases same : key item = key first
      · rw [if_neg (by simpa using same), repeated item member same, returned]
      · rw [if_pos (by simpa using same)]
    | some found =>
      dsimp only
      have onKey : ∀ a b : Result, resultKey a = resultKey b →
          decide (resultKey a ≠ resultKey found) = decide (resultKey b ≠ resultKey found) := by
        intro a b same
        rw [same]
      rw [firstsBy, firstsBy, ← later, filter_firstsBy onKey, filter_firstsBy onKey,
        List.filter_filterMap, List.filter_filterMap, List.filterMap_filter]
      refine congrArg _ (congrArg _ (List.filterMap_congr fun item member => ?_))
      by_cases same : key item = key first
      · rw [if_neg (by simpa using same), repeated item member same, returned, Option.filter_some]
        simp
      · rw [if_pos (by simpa using same)]

theorem firstsBy_append (before after : List Item) :
    firstsBy key (before ++ after) =
      firstsBy key before ++
        (firstsBy key after).filter fun item => key item ∉ before.map key := by
  induction before with
  | nil => simp [firstsBy]
  | cons first rest inductionHypothesis =>
    rw [List.cons_append, firstsBy, inductionHypothesis, List.filter_append, List.filter_filter,
      firstsBy, List.cons_append]
    simp only [List.map_cons, List.mem_cons, not_or, Bool.decide_and]

/-- What is repeated in one part is repeated in the whole. -/
theorem firstsBy_flatMap_congr {Part : Type} (parts : List Part) {first second : Part → List Item}
    (same : ∀ part ∈ parts, firstsBy key (first part) = firstsBy key (second part)) :
    firstsBy key (parts.flatMap first) = firstsBy key (parts.flatMap second) := by
  induction parts with
  | nil => rfl
  | cons part rest inductionHypothesis =>
    have here := same part List.mem_cons_self
    have sameKeys : ∀ value, value ∉ (first part).map key ↔ value ∉ (second part).map key := by
      intro value
      rw [← mem_map_firstsBy, here, mem_map_firstsBy]
    rw [List.flatMap_cons, List.flatMap_cons, firstsBy_append, firstsBy_append, here,
      inductionHypothesis fun p member => same p (List.mem_cons_of_mem _ member)]
    simp only [sameKeys]

/-- Lists that match one for one, each pair in its key, have matching first items. -/
theorem firstsBy_forall₂ {Item' : Type} {key' : Item' → Key} {Matched : Item → Item' → Prop}
    (sameKey : ∀ item item', Matched item item' → key item = key' item') {items : List Item}
    {items' : List Item'} (matched : List.Forall₂ Matched items items') :
    List.Forall₂ Matched (firstsBy key items) (firstsBy key' items') := by
  induction matched with
  | nil => exact .nil
  | @cons first first' rest rest' pair _ inductionHypothesis =>
    refine .cons pair (List.rel_filter (fun item item' matched => ?_) inductionHypothesis)
    simp only [sameKey _ _ pair, sameKey _ _ matched]

/-- Where the key determines the item, no item is lost. -/
theorem mem_firstsBy_iff {items : List Item}
    (determined : ∀ first ∈ items, ∀ second ∈ items, key first = key second → first = second)
    {item : Item} : item ∈ firstsBy key items ↔ item ∈ items := by
  refine ⟨fun member => (firstsBy_sublist items).subset member, fun member => ?_⟩
  have keyKept : key item ∈ (firstsBy key items).map key :=
    mem_map_firstsBy.2 (List.mem_map_of_mem member)
  obtain ⟨first, isFirst, same⟩ := List.mem_map.1 keyKept
  rw [← determined first ((firstsBy_sublist items).subset isFirst) item member same]
  exact isFirst

/-- Where the key determines the item, the order of the items does not matter. -/
theorem firstsBy_perm {items items' : List Item} (reordered : items.Perm items')
    (determined : ∀ first ∈ items, ∀ second ∈ items, key first = key second → first = second) :
    (firstsBy key items).Perm (firstsBy key items') := by
  have distinct : ∀ items : List Item, (firstsBy key items).Nodup := fun items =>
    (firstsBy_pairwise items).imp fun {_ _} different same => different (congrArg key same)
  have determined' : ∀ first ∈ items', ∀ second ∈ items', key first = key second →
      first = second := fun first memberFirst second memberSecond =>
    determined first (reordered.mem_iff.2 memberFirst) second (reordered.mem_iff.2 memberSecond)
  rw [List.perm_ext_iff_of_nodup (distinct _) (distinct _)]
  intro item
  rw [mem_firstsBy_iff determined, mem_firstsBy_iff determined', reordered.mem_iff]

end FirstsBy

/-! ### Longest first -/

/-- The chains with longer stacks first, equally long ones in the order they came in. -/
def longestFirst (chains : List CallChain) : List CallChain :=
  chains.mergeSort fun a b => b.callStack.length ≤ a.callStack.length

theorem reduceChains_eq_keepUncovered (chains : List CallChain) :
    reduceChains chains = keepUncovered [] (longestFirst chains) := rfl

/-- The chains with stacks of one length. -/
def ofLength (n : Nat) (chains : List CallChain) : List CallChain :=
  chains.filter fun c => c.callStack.length = n

theorem mem_ofLength {n : Nat} {chains : List CallChain} {c : CallChain} :
    c ∈ ofLength n chains ↔ c ∈ chains ∧ c.callStack.length = n := by
  simp [ofLength]

theorem longestFirst_perm (chains : List CallChain) : (longestFirst chains).Perm chains :=
  List.mergeSort_perm _ _

theorem mem_longestFirst {chains : List CallChain} {c : CallChain} :
    c ∈ longestFirst chains ↔ c ∈ chains :=
  (longestFirst_perm chains).mem_iff

/-- A list of chains in which none is followed by a longer one. -/
def Descending (chains : List CallChain) : Prop :=
  chains.Pairwise fun a b => b.callStack.length ≤ a.callStack.length

theorem Descending.sublist {long short : List CallChain} (ordered : Descending long)
    (inside : short.Sublist long) : Descending short :=
  List.Pairwise.sublist inside ordered

theorem Descending.le_head {head c : CallChain} {rest : List CallChain}
    (ordered : Descending (head :: rest)) (member : c ∈ head :: rest) :
    c.callStack.length ≤ head.callStack.length := by
  rcases List.mem_cons.1 member with rfl | later
  · exact le_rfl
  · exact (List.pairwise_cons.1 ordered).1 c later

theorem longestFirst_descending (chains : List CallChain) : Descending (longestFirst chains) := by
  have sorted : (longestFirst chains).Pairwise fun a b =>
      decide (b.callStack.length ≤ a.callStack.length) = true :=
    List.pairwise_mergeSort (by simp only [decide_eq_true_eq]; omega)
      (by simp only [Bool.or_eq_true, decide_eq_true_eq]; omega) chains
  exact sorted.imp fun {a b} ordered => of_decide_eq_true ordered

/-- Chains of one length stay in the order they came in. -/
theorem ofLength_longestFirst (n : Nat) (chains : List CallChain) :
    ofLength n (longestFirst chains) = ofLength n chains := by
  have level : (ofLength n chains).Pairwise fun a b =>
      decide (b.callStack.length ≤ a.callStack.length) = true := by
    refine List.Pairwise.imp_of_mem (fun {a b} memberA memberB _ => ?_)
      (List.pairwise_of_forall fun _ _ => trivial)
    exact decide_eq_true ((mem_ofLength.1 memberB).2.trans (mem_ofLength.1 memberA).2.symm).le
  have inside : (ofLength n chains).Sublist (longestFirst chains) :=
    List.sublist_mergeSort (by simp only [decide_eq_true_eq]; omega)
      (by simp only [Bool.or_eq_true, decide_eq_true_eq]; omega) level List.filter_sublist
  have onLevel : (ofLength n chains).Sublist (ofLength n (longestFirst chains)) := by
    have filtered := inside.filter fun c => c.callStack.length = n
    simp only [ofLength, List.filter_filter, Bool.and_self] at filtered
    exact filtered
  exact (onLevel.eq_of_length ((longestFirst_perm chains).filter _).length_eq.symm).symm

/-- Lists in descending order that agree at each length are the same. -/
theorem Descending.eq_of_ofLength {first second : List CallChain} (orderFirst : Descending first)
    (orderSecond : Descending second) (same : ∀ n, ofLength n first = ofLength n second) :
    first = second := by
  induction first generalizing second with
  | nil =>
    cases second with
    | nil => rfl
    | cons d rest' =>
      have level := same d.callStack.length
      simp [ofLength] at level
  | cons c rest inductionHypothesis =>
    cases second with
    | nil =>
      have level := same c.callStack.length
      simp [ofLength] at level
    | cons d rest' =>
      have foundC : c ∈ ofLength c.callStack.length (d :: rest') := by
        rw [← same]
        exact mem_ofLength.2 ⟨List.mem_cons_self, rfl⟩
      have foundD : d ∈ ofLength d.callStack.length (c :: rest) := by
        rw [same]
        exact mem_ofLength.2 ⟨List.mem_cons_self, rfl⟩
      have equalLength : d.callStack.length = c.callStack.length :=
        le_antisymm (orderFirst.le_head (mem_ofLength.1 foundD).1)
          (orderSecond.le_head (mem_ofLength.1 foundC).1)
      have equal : c = d := by
        have level := same c.callStack.length
        rw [ofLength, ofLength, List.filter_cons_of_pos (by simp),
          List.filter_cons_of_pos (by simpa using equalLength)] at level
        exact (List.cons.inj level).1
      subst equal
      refine congrArg _ (inductionHypothesis (List.Pairwise.of_cons orderFirst)
        (List.Pairwise.of_cons orderSecond) fun n => ?_)
      have atN := same n
      rw [ofLength, ofLength, List.filter_cons, List.filter_cons] at atN
      split at atN
      · exact (List.cons.inj atN).2
      · exact atN

/-- Sorting and dropping chains that fail a test may be done in either order. -/
theorem filter_longestFirst (test : CallChain → Bool) (chains : List CallChain) :
    (longestFirst chains).filter test = longestFirst (chains.filter test) := by
  refine ((longestFirst_descending chains).sublist List.filter_sublist).eq_of_ofLength
    (longestFirst_descending _) fun n => ?_
  rw [ofLength_longestFirst, ofLength, List.filter_comm]
  exact (congrArg (List.filter test) (ofLength_longestFirst n chains)).trans (List.filter_comm ..)

/-- Sorting and dropping repeated stacks may be done in either order. -/
theorem firstsBy_longestFirst (chains : List CallChain) :
    firstsBy CallChain.callStack (longestFirst chains) =
      longestFirst (firstsBy CallChain.callStack chains) := by
  refine ((longestFirst_descending chains).sublist (firstsBy_sublist _)).eq_of_ofLength
    (longestFirst_descending _) fun n => ?_
  have onStack : ∀ a b : CallChain, a.callStack = b.callStack →
      decide (a.callStack.length = n) = decide (b.callStack.length = n) := by
    intro a b same
    rw [same]
  rw [ofLength_longestFirst, ofLength, ofLength, filter_firstsBy onStack, filter_firstsBy onStack]
  exact congrArg _ (ofLength_longestFirst n chains)

/-! ### What the reduction may skip -/

theorem isCovered_of_prefix {kept more : List CallChain} {c : CallChain} (begins : kept <+: more)
    (covered : isCovered kept c = true) : isCovered more c = true := by
  obtain ⟨k, isKept, covers⟩ := isCovered_iff.1 covered
  exact isCovered_iff.2 ⟨k, begins.subset isKept, covers⟩

/-- What is kept once a chain has been looked at. -/
def keepNext (kept : List CallChain) (c : CallChain) : List CallChain :=
  if isCovered kept c then kept else kept ++ [c]

theorem keepUncovered_cons (kept : List CallChain) (c : CallChain) (rest : List CallChain) :
    keepUncovered kept (c :: rest) = keepUncovered (keepNext kept c) rest := rfl

theorem prefix_keepNext (kept : List CallChain) (c : CallChain) : kept <+: keepNext kept c := by
  unfold keepNext
  split
  · exact List.prefix_rfl
  · exact List.prefix_append kept [c]

theorem isCovered_keepNext (kept : List CallChain) (c : CallChain) :
    isCovered (keepNext kept c) c = true := by
  unfold keepNext
  split
  · next covered => exact covered
  · exact isCovered_iff.2 ⟨c, List.mem_append_right _ List.mem_cons_self, Or.inr rfl⟩

/-- Chains that are covered from the start may be left out. -/
theorem keepUncovered_filter {kept chains : List CallChain} {test : CallChain → Bool}
    (covered : ∀ c ∈ chains, test c = false → isCovered kept c = true) :
    keepUncovered kept (chains.filter test) = keepUncovered kept chains := by
  induction chains generalizing kept with
  | nil => rfl
  | cons c rest inductionHypothesis =>
    have later : ∀ d ∈ rest, test d = false → isCovered (keepNext kept c) d = true :=
      fun d member fails =>
        isCovered_of_prefix (prefix_keepNext kept c)
          (covered d (List.mem_cons_of_mem _ member) fails)
    cases passes : test c with
    | true =>
      rw [List.filter_cons_of_pos passes, keepUncovered_cons, keepUncovered_cons,
        inductionHypothesis later]
    | false =>
      have unchanged : keepNext kept c = kept := if_pos (covered c List.mem_cons_self passes)
      rw [unchanged] at later
      rw [List.filter_cons_of_neg (by simp [passes]), keepUncovered_cons, unchanged,
        inductionHypothesis later]

/-- A chain whose stack came before may be left out, whatever is kept. -/
theorem keepUncovered_firstsBy (kept chains : List CallChain) :
    keepUncovered kept (firstsBy CallChain.callStack chains) = keepUncovered kept chains := by
  induction chains generalizing kept with
  | nil => rfl
  | cons c rest inductionHypothesis =>
    rw [firstsBy, keepUncovered_cons, keepUncovered_cons, keepUncovered_filter,
      inductionHypothesis]
    intro d _ same
    have sameStack : d.callStack = c.callStack := by simpa using same
    obtain ⟨k, isKept, covers⟩ := isCovered_iff.1 (isCovered_keepNext kept c)
    refine isCovered_iff.2 ⟨k, isKept, ?_⟩
    rw [CallChain.Covers, sameStack]
    exact covers

/-- The reduction is that of the first chains of each stack. -/
theorem reduceChains_firstsBy (chains : List CallChain) :
    reduceChains (firstsBy CallChain.callStack chains) = reduceChains chains := by
  rw [reduceChains_eq_keepUncovered, ← firstsBy_longestFirst, keepUncovered_firstsBy]
  rfl

/-- Chains of which none covers a later one are all kept. -/
theorem keepUncovered_of_pairwise {kept chains : List CallChain}
    (apart : (kept ++ chains).Pairwise fun k c => ¬ k.Covers c) :
    keepUncovered kept chains = kept ++ chains := by
  induction chains generalizing kept with
  | nil => rw [keepUncovered, List.append_nil]
  | cons c rest inductionHypothesis =>
    have uncovered : ¬ isCovered kept c = true := by
      rw [isCovered_iff]
      rintro ⟨k, isKept, covers⟩
      exact (List.pairwise_append.1 apart).2.2 k isKept c List.mem_cons_self covers
    rw [List.append_cons] at apart ⊢
    rw [keepUncovered_cons, keepNext, if_neg uncovered]
    exact inductionHypothesis apart

/-! ### The closed form -/

/-- Whether no chain of the list has the stack of `c` as a run inside a longer one. -/
def isMaximalIn (chains : List CallChain) (c : CallChain) : Bool :=
  chains.all fun k => !isSubChainOf c.callStack k.callStack

theorem isMaximalIn_iff {chains : List CallChain} {c : CallChain} :
    isMaximalIn chains c = true ↔
      ∀ k ∈ chains, ¬ (c.callStack.length < k.callStack.length ∧ c.callStack <:+: k.callStack) := by
  simp only [isMaximalIn, List.all_eq_true, Bool.not_eq_true', ← isSubChainOf_iff,
    Bool.not_eq_true]

/-- No key on the stack holds an arrow. -/
def CallChain.IsArrowFree (c : CallChain) : Prop :=
  ∀ key ∈ c.callStack, ArrowFree key

/-- Where no key holds an arrow, a chain covers one that is not longer exactly if it has its stack
as a run. -/
theorem CallChain.covers_iff_infix {k c : CallChain} (freeK : k.IsArrowFree)
    (freeC : c.IsArrowFree) (atMost : c.callStack.length ≤ k.callStack.length) :
    k.Covers c ↔ c.callStack <:+: k.callStack := by
  constructor
  · rintro (⟨-, run⟩ | same)
    · exact run
    · by_cases noneC : c.callStack = []
      · rw [noneC]
        exact List.nil_infix
      · have noneK : k.callStack ≠ [] := by
          rintro empty
          rw [empty, List.length_nil, Nat.le_zero, List.length_eq_zero_iff] at atMost
          exact noneC atMost
        rw [join_arrow_inj noneK noneC freeK freeC same]
  · intro run
    rcases Nat.lt_or_eq_of_le atMost with shorter | equal
    · exact Or.inl ⟨shorter, run⟩
    · exact Or.inr (congrArg _ (run.eq_of_length equal).symm)

/-- The kept chains stand for all that were looked at: each has its stack as a run of a kept one. -/
structure Represents (kept seen : List CallChain) : Prop where
  isSeen : ∀ k ∈ kept, k ∈ seen
  run : ∀ c ∈ seen, ∃ k ∈ kept, c.callStack <:+: k.callStack

section Represents

variable {kept seen : List CallChain} {c : CallChain}

/-- A chain is covered exactly if its stack is a run of one that was looked at. -/
theorem Represents.isCovered_iff_infix (represents : Represents kept seen)
    (free : ∀ d ∈ seen ++ [c], d.IsArrowFree) (ordered : Descending (seen ++ [c])) :
    isCovered kept c = true ↔ ∃ k ∈ seen, c.callStack <:+: k.callStack := by
  have onSeen : ∀ k ∈ seen, (k.Covers c ↔ c.callStack <:+: k.callStack) := by
    intro k before
    refine CallChain.covers_iff_infix (free k (List.mem_append_left _ before))
      (free c (List.mem_append_right _ List.mem_cons_self)) ?_
    exact (List.pairwise_append.1 ordered).2.2 k before c List.mem_cons_self
  rw [isCovered_iff]
  constructor
  · rintro ⟨k, isKept, covers⟩
    exact ⟨k, represents.isSeen k isKept, (onSeen k (represents.isSeen k isKept)).1 covers⟩
  · rintro ⟨d, before, run⟩
    obtain ⟨k, isKept, outer⟩ := represents.run d before
    exact ⟨k, isKept, (onSeen k (represents.isSeen k isKept)).2 (run.trans outer)⟩

theorem Represents.keepNext (represents : Represents kept seen)
    (free : ∀ d ∈ seen ++ [c], d.IsArrowFree) (ordered : Descending (seen ++ [c])) :
    Represents (keepNext kept c) (seen ++ [c]) := by
  by_cases covered : isCovered kept c = true
  · rw [Chain.keepNext, if_pos covered]
    refine ⟨fun k isKept => List.mem_append_left _ (represents.isSeen k isKept), fun d member => ?_⟩
    rcases List.mem_append.1 member with before | new
    · exact represents.run d before
    · obtain ⟨e, before, run⟩ := (represents.isCovered_iff_infix free ordered).1 covered
      obtain ⟨k, isKept, outer⟩ := represents.run e before
      rw [List.mem_singleton.1 new]
      exact ⟨k, isKept, run.trans outer⟩
  · rw [Chain.keepNext, if_neg covered]
    refine ⟨fun k member => ?_, fun d member => ?_⟩
    · rcases List.mem_append.1 member with before | new
      · exact List.mem_append_left _ (represents.isSeen k before)
      · exact List.mem_append_right _ new
    · rcases List.mem_append.1 member with before | new
      · obtain ⟨k, isKept, run⟩ := represents.run d before
        exact ⟨k, List.mem_append_left _ isKept, run⟩
      · exact ⟨d, List.mem_append_right _ new, List.infix_rfl⟩

end Represents

/-- Among chains in descending order, those that are not maximal may be left out: what would cover
them has been looked at before. -/
theorem Represents.keepUncovered_filter {kept seen chains : List CallChain}
    (represents : Represents kept seen) (free : ∀ c ∈ seen ++ chains, c.IsArrowFree)
    (ordered : Descending (seen ++ chains)) :
    keepUncovered kept (chains.filter (isMaximalIn (seen ++ chains))) =
      keepUncovered kept chains := by
  induction chains generalizing kept seen with
  | nil => rfl
  | cons c rest inductionHypothesis =>
    have notLonger : ∀ d ∈ c :: rest, d.callStack.length ≤ c.callStack.length := fun d member =>
      Descending.le_head (List.pairwise_append.1 ordered).2.1 member
    rw [List.append_cons] at free ordered ⊢
    have freeHere : ∀ d ∈ seen ++ [c], d.IsArrowFree := fun d member =>
      free d (List.mem_append_left _ member)
    have orderedHere : Descending (seen ++ [c]) := ordered.sublist (List.sublist_append_left _ _)
    have later := inductionHypothesis (represents.keepNext freeHere orderedHere) free ordered
    by_cases maximal : isMaximalIn (seen ++ [c] ++ rest) c = true
    · rw [List.filter_cons_of_pos maximal, keepUncovered_cons, keepUncovered_cons, later]
    · rw [List.filter_cons_of_neg maximal]
      have covered : isCovered kept c = true := by
        rw [isMaximalIn_iff, ← List.append_cons] at maximal
        push Not at maximal
        obtain ⟨k, member, shorter, run⟩ := maximal
        refine (represents.isCovered_iff_infix freeHere orderedHere).2 ⟨k, ?_, run⟩
        rcases List.mem_append.1 member with before | notBefore
        · exact before
        · exact absurd (notLonger k notBefore) (Nat.not_le.2 shorter)
      have unchanged : Chain.keepNext kept c = kept := if_pos covered
      rw [unchanged] at later
      rw [keepUncovered_cons, unchanged, later]

theorem isMaximalIn_congr {first second : List CallChain} (same : ∀ c, c ∈ first ↔ c ∈ second) :
    isMaximalIn first = isMaximalIn second := by
  funext c
  rw [Bool.eq_iff_iff, isMaximalIn_iff, isMaximalIn_iff]
  simp only [same]

/-- Where no key holds an arrow, no chain covers another if both are maximal and their stacks
differ. -/
theorem pairwise_not_covers {chains maximal : List CallChain}
    (free : ∀ c ∈ chains, c.IsArrowFree) (ordered : Descending maximal)
    (apart : maximal.Pairwise fun k c => k.callStack ≠ c.callStack)
    (isMaximal : ∀ c ∈ maximal, c ∈ chains ∧ isMaximalIn chains c = true) :
    maximal.Pairwise fun k c => ¬ k.Covers c := by
  refine (List.Pairwise.and ordered apart).imp_of_mem ?_
  rintro k c memberK memberC ⟨atMost, different⟩ covers
  obtain ⟨foundK, -⟩ := isMaximal k memberK
  obtain ⟨foundC, maximalC⟩ := isMaximal c memberC
  have run := (CallChain.covers_iff_infix (free k foundK) (free c foundC) atMost).1 covers
  rcases Nat.lt_or_eq_of_le atMost with shorter | equal
  · exact isMaximalIn_iff.1 maximalC k foundK ⟨shorter, run⟩
  · exact different (run.eq_of_length equal).symm

/-- Where no key holds an arrow, the reduction keeps the first chain of each stack that is not a
run inside a longer one, longest first. -/
theorem reduceChains_eq_maximal {chains : List CallChain} (free : ∀ c ∈ chains, c.IsArrowFree) :
    reduceChains chains =
      longestFirst (firstsBy CallChain.callStack (chains.filter (isMaximalIn chains))) := by
  have freeSorted : ∀ c ∈ longestFirst chains, c.IsArrowFree := fun c member =>
    free c (mem_longestFirst.1 member)
  have nothing : Represents [] [] := ⟨by simp, by simp⟩
  have onlyMaximal : keepUncovered [] (longestFirst (chains.filter (isMaximalIn chains))) =
      keepUncovered [] (longestFirst chains) := by
    rw [← filter_longestFirst, ← isMaximalIn_congr fun _ => mem_longestFirst]
    exact nothing.keepUncovered_filter freeSorted (longestFirst_descending chains)
  rw [reduceChains_eq_keepUncovered, ← onlyMaximal, ← keepUncovered_firstsBy,
    ← firstsBy_longestFirst]
  refine keepUncovered_of_pairwise (pairwise_not_covers free ?_ (firstsBy_pairwise _) ?_)
  · exact (longestFirst_descending _).sublist (firstsBy_sublist _)
  · intro c member
    exact List.mem_filter.1 (mem_longestFirst.1 ((firstsBy_sublist _).subset member))

/-- Where no key holds an arrow and a stack determines its chain, the order in which the chains
were found changes the order of the kept ones only. -/
theorem reduceChains_perm {chains chains' : List CallChain} (reordered : chains.Perm chains')
    (free : ∀ c ∈ chains, c.IsArrowFree)
    (determined : ∀ c ∈ chains, ∀ d ∈ chains, c.callStack = d.callStack → c = d) :
    (reduceChains chains).Perm (reduceChains chains') := by
  have free' : ∀ c ∈ chains', c.IsArrowFree := fun c member => free c (reordered.mem_iff.2 member)
  rw [reduceChains_eq_maximal free, reduceChains_eq_maximal free',
    ← isMaximalIn_congr fun c => reordered.mem_iff]
  refine (longestFirst_perm _).trans (.trans ?_ (longestFirst_perm _).symm)
  refine firstsBy_perm (reordered.filter _) fun c memberC d memberD => ?_
  exact determined c (List.mem_filter.1 memberC).1 d (List.mem_filter.1 memberD).1

/-- Where no key holds an arrow, chains that pass a test are kept as if the others did not exist,
provided that the test looks at the stack and a chain that passes is not a run of one that fails. -/
theorem reduceChains_filter {chains : List CallChain} {test : CallChain → Bool}
    (free : ∀ c ∈ chains, c.IsArrowFree)
    (onStack : ∀ c d : CallChain, c.callStack = d.callStack → test c = test d)
    (together : ∀ c ∈ chains, ∀ k ∈ chains, c.callStack <:+: k.callStack → test c = true →
      test k = true) :
    (reduceChains chains).filter test = reduceChains (chains.filter test) := by
  have free' : ∀ c ∈ chains.filter test, c.IsArrowFree := fun c member =>
    free c (List.mem_filter.1 member).1
  have sameMaximal : ∀ c ∈ chains.filter test,
      isMaximalIn chains c = isMaximalIn (chains.filter test) c := by
    intro c member
    obtain ⟨found, passes⟩ := List.mem_filter.1 member
    rw [Bool.eq_iff_iff, isMaximalIn_iff, isMaximalIn_iff]
    constructor
    · intro maximal k inside
      exact maximal k (List.mem_filter.1 inside).1
    · intro maximal k inside longer
      exact maximal k (List.mem_filter.2 ⟨inside, together c found k inside longer.2 passes⟩) longer
  rw [reduceChains_eq_maximal free, reduceChains_eq_maximal free', filter_longestFirst,
    filter_firstsBy onStack, List.filter_comm, List.filter_congr sameMaximal]

/-! ### Chains that match -/

section Matched

variable {Matched : CallChain → CallChain → Prop} {chains chains' : List CallChain}

theorem isCovered_congr {kept kept' : List CallChain} {c d : CallChain}
    (sameStacks : kept.map CallChain.callStack = kept'.map CallChain.callStack)
    (stack : c.callStack = d.callStack) : isCovered kept c = isCovered kept' d := by
  have byStack : ∀ (kept : List CallChain) (c : CallChain), isCovered kept c =
      ((kept.map CallChain.callStack).any (fun k => isSubChainOf c.callStack k) ||
        (kept.map CallChain.callStack).any fun k =>
          Text.join "->" k == Text.join "->" c.callStack) := by
    intro kept c
    rw [isCovered, List.any_map, List.any_map]
    rfl
  rw [byStack, byStack, sameStacks, stack]

/-- Chains that match one for one, each pair in its stack, are kept one for one. -/
theorem keepUncovered_forall₂ (sameStack : ∀ c d, Matched c d → c.callStack = d.callStack)
    {kept kept' : List CallChain} (matchedKept : List.Forall₂ Matched kept kept')
    (matched : List.Forall₂ Matched chains chains') :
    List.Forall₂ Matched (keepUncovered kept chains) (keepUncovered kept' chains') := by
  induction matched generalizing kept kept' with
  | nil => exact matchedKept
  | @cons c d rest rest' pair _ inductionHypothesis =>
    have sameStacks : kept.map CallChain.callStack = kept'.map CallChain.callStack :=
      List.forall₂_eq_eq_eq ▸ List.rel_map sameStack matchedKept
    rw [keepUncovered_cons, keepUncovered_cons]
    refine inductionHypothesis ?_
    rw [keepNext, keepNext, isCovered_congr sameStacks (sameStack c d pair)]
    split
    · exact matchedKept
    · exact List.rel_append matchedKept (.cons pair .nil)

/-- Pairs of chains in the order in which their first chains are sorted. -/
def longestPairsFirst (pairs : List (CallChain × CallChain)) : List (CallChain × CallChain) :=
  pairs.mergeSort fun p q => q.1.callStack.length ≤ p.1.callStack.length

/-- Matching lists are sorted alike, as both sorts can be read off one sort of the pairs. -/
theorem longestFirst_forall₂ (sameStack : ∀ c d, Matched c d → c.callStack = d.callStack)
    (matched : List.Forall₂ Matched chains chains') :
    List.Forall₂ Matched (longestFirst chains) (longestFirst chains') := by
  obtain ⟨sameLength, isPair⟩ := List.forall₂_iff_zip.1 matched
  have firsts : (longestPairsFirst (chains.zip chains')).map Prod.fst =
      longestFirst ((chains.zip chains').map Prod.fst) :=
    List.map_mergeSort fun _ _ _ _ => rfl
  have seconds : (longestPairsFirst (chains.zip chains')).map Prod.snd =
      longestFirst ((chains.zip chains').map Prod.snd) := by
    refine List.map_mergeSort fun p memberP q memberQ => ?_
    rw [← sameStack _ _ (isPair memberP), ← sameStack _ _ (isPair memberQ)]
  rw [List.map_fst_zip sameLength.le] at firsts
  rw [List.map_snd_zip sameLength.ge] at seconds
  rw [← firsts, ← seconds, List.forall₂_map_left_iff, List.forall₂_map_right_iff,
    List.forall₂_same]
  intro p member
  exact isPair (List.mem_mergeSort.1 member)

theorem reduceChains_forall₂ (sameStack : ∀ c d, Matched c d → c.callStack = d.callStack)
    (matched : List.Forall₂ Matched chains chains') :
    List.Forall₂ Matched (reduceChains chains) (reduceChains chains') :=
  keepUncovered_forall₂ sameStack .nil (longestFirst_forall₂ sameStack matched)

end Matched

end ParamChain.Chain
