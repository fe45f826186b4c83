import ParamChain.Proofs.GoComments
import ParamChain.Proofs.RustComments

/-
This file says which comments change the keys of a file and which do not.

A front end finds most parts of a node by their role or their kind, and there a comment is passed
over. But some parts it finds by their place among the named children, and a comment is a named
child: one that stands in such a place is taken for a type, a value or a package, and one that
stands before it moves the others on. Trees whose comments are clear of these places have the keys
of their bare trees, so the comments do no harm. Elsewhere they do: there are files that lose a key,
or get another, by nothing but a comment.
-/

namespace ParamChain

open ParseTree

/-! ### Attached comments -/

namespace ParseTree.Reading

variable {κ : Type} [DecidableEq κ] {r : Reading κ}

theorem bareAll_comments (parent : κ) (comments : List Comment) (nodes : List (Node κ)) :
    r.bareAll parent (comments.map (Node.ofComment r.comment) ++ nodes) =
      r.bareAll parent nodes := by
  induction comments with
  | nil => rfl
  | cons comment rest inductionHypothesis =>
    have isComment : r.isComment (Node.ofComment r.comment comment) = true := beq_self_eq_true _
    rw [List.map_cons, List.cons_append, bareAll, isComment, if_pos rfl, inductionHypothesis]

theorem bareAll_interleave (parent : κ) (comments : List Comment) (nodes : List (Node κ)) :
    r.bareAll parent (Node.interleave r.comment comments nodes) = r.bareAll parent nodes := by
  induction nodes generalizing comments with
  | nil =>
    have only := bareAll_comments (r := r) parent comments []
    rwa [List.append_nil] at only
  | cons node rest inductionHypothesis =>
    rw [Node.interleave, bareAll_comments, bareAll, bareAll, inductionHypothesis]

/-- The text of a node counts or not whatever its children are. -/
def ReadsHeads (r : Reading κ) : Prop :=
  ∀ parent kind role named span text children others,
    r.reads parent (.mk kind role named span text children) =
      r.reads parent (.mk kind role named span text others)

theorem isComment_attach (comments : List Comment) (node : Node κ) :
    r.isComment (node.attach r.comment comments) = r.isComment node := by
  obtain ⟨kind, role, named, span, text, children⟩ := node
  rw [Node.attach]
  split <;> rfl

mutual

/-- Attaching comments to a tree changes nothing but its comments. -/
theorem bare_attach (heads : r.ReadsHeads) (parent : κ) (comments : List Comment) :
    ∀ node : Node κ, r.bare parent (node.attach r.comment comments) = r.bare parent node
  | .mk kind role named span text children => by
    rw [Node.attach]
    split
    · rfl
    · rw [bare, bare, bareAll_interleave, bareAll_attachAll heads kind comments children,
        heads parent kind role named span text _ children]

theorem bareAll_attachAll (heads : r.ReadsHeads) (parent : κ) (comments : List Comment) :
    ∀ nodes : List (Node κ),
      r.bareAll parent (Node.attachAll r.comment comments nodes) = r.bareAll parent nodes
  | [] => rfl
  | node :: rest => by
    rw [Node.attachAll, bareAll, bareAll, isComment_attach, bare_attach heads parent _ node,
      bareAll_attachAll heads parent comments rest]

end

end ParseTree.Reading

namespace Frontend

/-! ### Comments that are clear of the places that count -/

/-- Trees that have one bare tree, and so differ in nothing but comments, have the same package, the
same keys of declarations in the same order, and for each declaration the same keys of calls, where
their comments are clear of what is found by its place. Attaching comments to a tree, as is done
for every file, leaves its bare tree as it is. -/
theorem clear_comments_keep_keys (file other : String) :
    (∀ s t : GoNode, GoModel.reading.clear s = true → GoModel.reading.clear t = true →
      GoModel.reading.bare .other s = GoModel.reading.bare .other t →
      (GoModel.ofTree file s).keys = (GoModel.ofTree other t).keys) ∧
    (∀ s t : RustNode, RustModel.reading.clear s = true → RustModel.reading.clear t = true →
      RustModel.reading.bare .other s = RustModel.reading.bare .other t →
      (RustModel.ofTree file s).keys = (RustModel.ofTree other t).keys) ∧
    ∀ comments : List Comment,
      (∀ tree : GoNode, GoModel.reading.bare .other (tree.attach .comment comments) =
        GoModel.reading.bare .other tree) ∧
      ∀ tree : RustNode, RustModel.reading.bare .other (tree.attach .comment comments) =
        RustModel.reading.bare .other tree := by
  refine ⟨fun s t sClear tClear same => ?_, fun s t sClear tClear same => ?_, fun comments =>
    ⟨fun tree => ?_, fun tree => ?_⟩⟩
  · rw [← GoModel.keys_bare file file sClear .other, same, GoModel.keys_bare file other tClear]
  · rw [← RustModel.keys_bare file file sClear .other, same, RustModel.keys_bare file other tClear]
  · exact Reading.bare_attach (r := GoModel.reading) (fun _ _ _ _ _ _ _ _ => rfl) _ comments tree
  · exact Reading.bare_attach (r := RustModel.reading) (fun _ _ _ _ _ _ _ _ => rfl) _ comments tree

/-- The syntax tree of a Go file that is well formed. -/
def goRoot (source : String) : GoNode := (GoGrammar.parse? source).getD default

/-- The syntax tree of a Rust file that is well formed. -/
def rustRoot (source : String) : RustNode := (RustGrammar.parse? source).getD default

/-- A Go file with comments between its declarations and among arguments. -/
def goRemarks : String := "package p//a\nfunc(t T)f()\x7bt.m(/*b*/)\x7d"

/-- The same Go file without comments. -/
def goPlain : String := "package p\nfunc(t T)f()\x7bt.m()\x7d"

/-- A Rust file with comments inside a pattern and a type. -/
def rustRemarks : String := "fn f(mut/*a*/x:&/*b*/T)\x7bx.m()\x7d"

/-- The same Rust file without comments. -/
def rustPlain : String := "fn f(mut x:&T)\x7bx.m()\x7d"

/-- These comments do no harm. -/
theorem remarks_keep_keys :
    GoModel.reading.clear (goRoot goRemarks) = true ∧
      RustModel.reading.clear (rustRoot rustRemarks) = true ∧
      (GoModel.ofTree "a.go" (goRoot goPlain)).keys = (some "p", [("T.f", [some "T.m"])]) ∧
      (RustModel.ofTree "a.rs" (rustRoot rustPlain)).keys = (none, [("f", [some "T.m"])]) ∧
      (GoModel.ofTree "b.go" (goRoot goRemarks)).keys =
        (GoModel.ofTree "a.go" (goRoot goPlain)).keys ∧
      (RustModel.ofTree "b.rs" (rustRoot rustRemarks)).keys =
        (RustModel.ofTree "a.rs" (rustRoot rustPlain)).keys := by
  have goClear : GoModel.reading.clear (goRoot goRemarks) = true := by decide +kernel
  have rustClear : RustModel.reading.clear (rustRoot rustRemarks) = true := by decide +kernel
  refine ⟨goClear, rustClear, by decide +kernel, by decide +kernel, ?_, ?_⟩
  · exact (clear_comments_keep_keys "b.go" "a.go").1 _ _ goClear (by decide +kernel)
      (by decide +kernel)
  · exact (clear_comments_keep_keys "b.rs" "a.rs").2.1 _ _ rustClear (by decide +kernel)
      (by decide +kernel)

/-! ### Comments in the places that count -/

/-- Go files with a comment in a package clause, in types, between parentheses, in a list that is
paired and before the type that is allocated, each with the same file without it. -/
def goShifted : List (String × String) :=
  [("package/**/p", "package p"),
    ("func(t*/**/T)m()\x7b\x7d", "func(t*T)m()\x7b\x7d"),
    ("func(t(/**/T))m()\x7b\x7d", "func(t(T))m()\x7b\x7d"),
    ("func f()\x7bx:=(/**/T\x7b\x7d);x.m()\x7d", "func f()\x7bx:=(T\x7b\x7d);x.m()\x7d"),
    ("func f()\x7ba,b:=1,/**/T\x7b\x7d;b.m()\x7d", "func f()\x7ba,b:=1,T\x7b\x7d;b.m()\x7d"),
    ("func f()\x7bx:=new(/**/T);x.m()\x7d", "func f()\x7bx:=new(T);x.m()\x7d")]

/-- Rust files with a comment before a type argument, between parentheses and in the pattern of a
match arm, each with the same file without it. -/
def rustShifted : List (String × String) :=
  [("fn f(x:Box</**/T>)\x7bx.m()\x7d", "fn f(x:Box<T>)\x7bx.m()\x7d"),
    ("fn f()\x7blet x=(/**/T\x7b\x7d);x.m()\x7d", "fn f()\x7blet x=(T\x7b\x7d);x.m()\x7d"),
    ("fn f(x:T)\x7bmatch y\x7b_/**/if x=>x.m()\x7d\x7d",
      "fn f(x:T)\x7bmatch y\x7b_ if x=>x.m()\x7d\x7d")]

/-- Each of these comments changes the keys of its file, though nothing else is changed. -/
theorem comments_shift_places :
    (∀ pair ∈ goShifted,
      GoModel.reading.bare .other (goRoot pair.1) = GoModel.reading.bare .other (goRoot pair.2) ∧
        (GoModel.ofTree "a.go" (goRoot pair.1)).keys ≠
          (GoModel.ofTree "a.go" (goRoot pair.2)).keys) ∧
      ∀ pair ∈ rustShifted,
        RustModel.reading.bare .other (rustRoot pair.1) =
            RustModel.reading.bare .other (rustRoot pair.2) ∧
          (RustModel.ofTree "a.rs" (rustRoot pair.1)).keys ≠
            (RustModel.ofTree "a.rs" (rustRoot pair.2)).keys := by
  decide +kernel

end Frontend

end ParamChain
