import Mathlib.Algebra.BigOperators.Group.Finset.Basic
import Mathlib.Algebra.Order.BigOperators.Group.Finset
import ParamChain.Chain.Index

/-
This file proves what the index of a unit answers. A lookup returns the last declaration with the
key, so a call leads to one declaration however many share its key, and what a lookup returns is
found again under its own key. The calls of a declaration that lead somewhere are its edges.

The last section counts: a list of keys of the index in which no key stands more than twice has
at most two entries for each key. That is what bounds a path of calls.
-/

namespace ParamChain.Chain

/-- The signature of a declaration in an index. -/
def signatureOf (d : FunctionDecl) : Signature :=
  ⟨declKey d, d⟩

/-- The declarations with at least `minimum` parameters. -/
def eligible (decls : List FunctionDecl) (minimum : Nat) : List FunctionDecl :=
  decls.filter fun d => minimum ≤ d.paramUnits

/-- The keys of the declarations with at least `minimum` parameters. -/
def eligibleKeys (decls : List FunctionDecl) (minimum : Nat) : List String :=
  (eligible decls minimum).map declKey

theorem mem_eligible {decls : List FunctionDecl} {minimum : Nat} {d : FunctionDecl} :
    d ∈ eligible decls minimum ↔ d ∈ decls ∧ minimum ≤ d.paramUnits := by
  simp [eligible]

/-- A function with its parameters, the functions it calls and the line it stands in. -/
def declOf (name : String) (params : List ParamDecl) (callees : List String) (line : Nat) :
    FunctionDecl :=
  ⟨name, none, params, callees.map fun callee => ⟨.function callee, ⟨"unit.go", line, 10⟩⟩,
    ⟨"unit.go", line, 1⟩⟩

/-- A function of three numbers with the functions it calls. -/
def threeInts (name : String) (callees : List String) (line : Nat) : FunctionDecl :=
  declOf name [⟨["x", "y", "z"], "int"⟩] callees line

namespace Index

/-! ### Lookup -/

/-- Of the declarations with one key the last is found. -/
theorem get?_eq_some_iff {index : Index} {key : String} {s : Signature} :
    index.get? key = some s ↔
      s.key = key ∧ ∃ before after, index.roots = before ++ s :: after ∧
        ∀ r ∈ after, r.key ≠ key := by
  rw [get?, List.find?_eq_some_iff_append]
  constructor
  · rintro ⟨same, after, before, split, others⟩
    refine ⟨by simpa using same, before.reverse, after.reverse, ?_, ?_⟩
    · rw [← List.reverse_reverse index.roots, split]
      simp
    · intro r member
      simpa using others r (List.mem_reverse.1 member)
  · rintro ⟨same, before, after, split, others⟩
    refine ⟨by simpa using same, after.reverse, before.reverse, ?_, ?_⟩
    · rw [split]
      simp
    · intro r member
      simpa using others r (List.mem_reverse.1 member)

theorem key_of_get? {index : Index} {key : String} {s : Signature}
    (found : index.get? key = some s) : s.key = key :=
  (get?_eq_some_iff.1 found).1

theorem mem_roots_of_get? {index : Index} {key : String} {s : Signature}
    (found : index.get? key = some s) : s ∈ index.roots := by
  obtain ⟨-, before, after, split, -⟩ := get?_eq_some_iff.1 found
  rw [split]
  exact List.mem_append_right _ List.mem_cons_self

/-- Where no two declarations have one key, each is what its key looks up. -/
theorem get?_of_mem_roots {index : Index} (distinct : (index.roots.map Signature.key).Nodup)
    {s : Signature} (member : s ∈ index.roots) : index.get? s.key = some s := by
  obtain ⟨before, after, split⟩ := List.append_of_mem member
  rw [split, List.map_append, List.map_cons, List.nodup_append, List.nodup_cons] at distinct
  refine get?_eq_some_iff.2 ⟨rfl, before, after, split, fun r later same => ?_⟩
  exact distinct.2.1.1 (same ▸ List.mem_map_of_mem later)

/-- Declarations in another order are looked up in the same way, where no two have one key. -/
theorem get?_eq_of_perm {first second : Index} (reordered : first.roots.Perm second.roots)
    (distinct : (first.roots.map Signature.key).Nodup) : first.get? = second.get? := by
  have distinct' : (second.roots.map Signature.key).Nodup :=
    (reordered.map Signature.key).nodup_iff.1 distinct
  funext key
  refine Option.ext fun s => ?_
  constructor
  · intro found
    rw [← key_of_get? found]
    exact get?_of_mem_roots distinct' (reordered.mem_iff.1 (mem_roots_of_get? found))
  · intro found
    rw [← key_of_get? found]
    exact get?_of_mem_roots distinct (reordered.mem_iff.2 (mem_roots_of_get? found))

/-- Declarations that are looked up by their keys are determined by them. -/
theorem eq_of_map_key_eq {index : Index} {path path' : List Signature}
    (resolved : ∀ s ∈ path, index.get? s.key = some s)
    (resolved' : ∀ s ∈ path', index.get? s.key = some s)
    (same : path.map Signature.key = path'.map Signature.key) : path = path' := by
  have lookup : ∀ {path : List Signature}, (∀ s ∈ path, index.get? s.key = some s) →
      (path.map Signature.key).map index.get? = path.map some := by
    intro path resolved
    rw [List.map_map]
    exact List.map_congr_left resolved
  refine List.map_injective_iff.2 (Option.some_injective _) ?_
  rw [← lookup resolved, ← lookup resolved', same]

/-! ### Edges -/

/-- An edge leads to what a call is found to name. -/
theorem mem_edges {index : Index} {d : FunctionDecl} {s : Signature} :
    s ∈ index.edges d ↔
      ∃ call ∈ d.calls, ∃ key, callKey call = some key ∧ index.get? key = some s := by
  simp only [edges, List.mem_filterMap, Option.bind_eq_some_iff]

/-- What an edge leads to is what its own key looks up. -/
theorem get?_of_mem_edges {index : Index} {d : FunctionDecl} {s : Signature}
    (edge : s ∈ index.edges d) : index.get? s.key = some s := by
  obtain ⟨_, _, key, _, found⟩ := mem_edges.1 edge
  rw [key_of_get? found]
  exact found

theorem mem_roots_of_mem_edges {index : Index} {d : FunctionDecl} {s : Signature}
    (edge : s ∈ index.edges d) : s ∈ index.roots :=
  mem_roots_of_get? (get?_of_mem_edges edge)

/-- A declaration is a leaf when no call of it leads to the index. -/
theorem edges_eq_nil_iff {index : Index} {d : FunctionDecl} :
    index.edges d = [] ↔
      ∀ call ∈ d.calls, ∀ key, callKey call = some key → index.get? key = none := by
  rw [edges, List.filterMap_eq_nil_iff]
  refine forall₂_congr fun call _ => ?_
  rw [Option.bind_eq_none_iff]

/-! ### The index of a list of declarations -/

theorem roots_build (decls : List FunctionDecl) (minimum : Nat) :
    (build decls minimum).roots = (eligible decls minimum).map signatureOf := rfl

/-- The index holds the signatures of the eligible declarations. -/
theorem mem_roots_build {decls : List FunctionDecl} {minimum : Nat} {s : Signature} :
    s ∈ (build decls minimum).roots ↔
      s.decl ∈ eligible decls minimum ∧ s = signatureOf s.decl := by
  rw [roots_build, List.mem_map]
  constructor
  · rintro ⟨d, member, rfl⟩
    exact ⟨member, rfl⟩
  · rintro ⟨member, same⟩
    exact ⟨s.decl, member, same.symm⟩

/-- A lookup returns the last eligible declaration with the key. -/
theorem last_of_get?_build {decls : List FunctionDecl} {minimum : Nat} {key : String}
    {d : FunctionDecl} (found : (build decls minimum).get? key = some (signatureOf d)) :
    ∃ before after, eligible decls minimum = before ++ d :: after ∧
      ∀ other ∈ after, declKey other ≠ declKey d := by
  obtain ⟨same, before, after, split, others⟩ := get?_eq_some_iff.1 found
  rw [roots_build] at split
  obtain ⟨before', rest, split', -, restEq⟩ := List.map_eq_append_iff.1 split
  obtain ⟨d', after', rfl, dEq, afterEq⟩ := List.map_eq_cons_iff.1 restEq
  have sameDecl : d' = d := congrArg Signature.decl dEq
  subst sameDecl
  refine ⟨before', after', split', fun other member equal => ?_⟩
  refine others (signatureOf other) ?_ (equal.trans same)
  rw [← afterEq]
  exact List.mem_map_of_mem member

/-! ### Counting keys -/

/-- The keys of an index, each as often as it is declared. -/
def keys (index : Index) : List String :=
  index.roots.map Signature.key

theorem keys_build (decls : List FunctionDecl) (minimum : Nat) :
    (build decls minimum).keys = eligibleKeys decls minimum := by
  rw [keys, roots_build, List.map_map]
  rfl

/-- A key that is not in the index is not found. -/
theorem get?_eq_none_iff {index : Index} {key : String} :
    index.get? key = none ↔ key ∉ index.keys := by
  rw [get?, List.find?_eq_none, keys, List.mem_map, not_exists]
  simp only [List.mem_reverse, beq_iff_eq, not_and]

theorem key_mem_keys {index : Index} {s : Signature} (member : s ∈ index.roots) :
    s.key ∈ index.keys :=
  List.mem_map_of_mem member

theorem length_eraseDups (texts : List String) :
    texts.eraseDups.length = texts.toFinset.card := by
  induction size : texts.length using Nat.strong_induction_on generalizing texts with
  | _ n inductionHypothesis =>
    cases texts with
    | nil => rfl
    | cons first rest =>
      have shorter := List.length_filter_le (fun text => !text == first) rest
      rw [List.length_cons] at size
      have later := inductionHypothesis (rest.filter fun text => !text == first).length
        (by omega) _ rfl
      have without : (first :: rest).toFinset =
          insert first (rest.filter fun text => !text == first).toFinset := by
        ext text
        by_cases same : text = first <;> simp [same]
      rw [List.eraseDups_cons, List.length_cons, later, without, Finset.card_insert_of_notMem]
      simp

/-- The index has as many entries as it has different keys. -/
theorem size_eq_card (index : Index) : index.size = index.keys.toFinset.card :=
  length_eraseDups index.keys

/-- A list of keys of the index in which no key stands more than `repeats` times has at most
`repeats` entries for each key. -/
theorem length_le_mul_size {index : Index} {path : List String} {repeats : Nat}
    (indexed : ∀ key ∈ path, key ∈ index.keys) (bounded : ∀ key, path.count key ≤ repeats) :
    path.length ≤ repeats * index.size := by
  have known : path.toFinset ⊆ index.keys.toFinset := by
    intro key member
    rw [List.mem_toFinset]
    exact indexed key (List.mem_toFinset.1 member)
  calc path.length = ∑ key ∈ path.toFinset, path.count key :=
        (List.sum_toFinset_count_eq_length path).symm
    _ ≤ path.toFinset.card * repeats :=
        Finset.sum_le_card_nsmul _ _ _ fun key _ => bounded key
    _ ≤ index.size * repeats :=
        Nat.mul_le_mul_right _ (index.size_eq_card ▸ Finset.card_le_card known)
    _ = repeats * index.size := Nat.mul_comm _ _

/-- The index has at most one entry for each declaration. -/
theorem size_build_le (decls : List FunctionDecl) (minimum : Nat) :
    (build decls minimum).size ≤ decls.length := by
  rw [size_eq_card]
  refine (List.toFinset_card_le _).trans ?_
  rw [keys, List.length_map, roots_build, List.length_map]
  exact List.length_filter_le _ _

end Index

end ParamChain.Chain
