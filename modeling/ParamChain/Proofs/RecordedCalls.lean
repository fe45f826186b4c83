import Mathlib.Data.List.Forall2
import Mathlib.Data.List.Infix
import Mathlib.Data.Prod.Lex
import ParamChain.ParseTree.Scanner
import ParamChain.Proofs.WalkRoutes

/-
This file proves that a walk records every call it passes, once and in source order.

Which children of a node a walk goes into depends on the kind of the node alone, never on the
scopes. So the nodes that a walk visits form a list in pre-order that can be read off the tree, and
the calls that the walk records answer one by one to the calls in that list. The scopes decide
nothing but the type of a receiver: two walks of one node record calls that differ in nothing else.

Where the visited children of every node lie one after the other inside it, pre-order is source
order. Positions are lines and columns, and these grow with the offset in the text.
-/

namespace ParamChain

open ParseTree

/-! ### Source order -/

/-- The line and column of a position, by which positions in one file are ordered. -/
def SourcePosition.place (p : SourcePosition) : ℕ ×ₗ ℕ :=
  toLex (p.line, p.column)

namespace ParseTree

/-- The place after the characters at the front of a text. -/
def Place.past (front : List Char) : Place :=
  front.foldl Place.after ⟨0, 1, 1⟩

theorem Place.offset_lt_after (p : Place) (c : Char) : p.offset < (p.after c).offset := by
  have size : 0 < c.utf8Size := c.utf8Size_pos
  rw [Place.after]
  split
  · exact Nat.lt_succ_self _
  · exact Nat.lt_add_of_pos_right size

theorem Place.le_after (p : Place) (c : Char) :
    toLex (p.line, p.column) ≤ toLex ((p.after c).line, (p.after c).column) := by
  rw [Prod.Lex.toLex_le_toLex, Place.after]
  split
  · exact .inl (Nat.lt_succ_self _)
  · exact .inr ⟨rfl, Nat.le_add_right _ _⟩

/-- Going on over characters moves the offset on by one at least for each of them, and never moves
back in lines and columns. -/
theorem Place.foldl_after (p : Place) (more : List Char) :
    p.offset + more.length ≤ (more.foldl Place.after p).offset ∧
      toLex (p.line, p.column) ≤
        toLex ((more.foldl Place.after p).line, (more.foldl Place.after p).column) := by
  induction more generalizing p with
  | nil => exact ⟨le_rfl, le_rfl⟩
  | cons c rest inductionHypothesis =>
    obtain ⟨offset, place⟩ := inductionHypothesis (p.after c)
    have step := p.offset_lt_after c
    rw [List.foldl_cons, List.length_cons]
    exact ⟨by omega, (p.le_after c).trans place⟩

/-- The stretch starts in the text, at the line and the column that it names. -/
def Span.StartsIn (source : String) (span : Span) : Prop :=
  ∃ front, front <+: source.toList ∧ Place.past front = ⟨span.start, span.line, span.column⟩

instance (source : String) (span : Span) : Decidable (span.StartsIn source) :=
  decidable_of_iff
    (∃ front ∈ source.toList.inits, Place.past front = ⟨span.start, span.line, span.column⟩)
    (by simp only [List.mem_inits, Span.StartsIn])

/-- In one text the lines and columns are in the order of the offsets. -/
theorem Span.StartsIn.place_le {source : String} {a b : Span} (first : a.StartsIn source)
    (second : b.StartsIn source) (before : a.start ≤ b.start) :
    toLex (a.line, a.column) ≤ toLex (b.line, b.column) := by
  obtain ⟨front, isFront, atA⟩ := first
  obtain ⟨other, isOther, atB⟩ := second
  rcases List.prefix_or_prefix_of_prefix isFront isOther with ⟨more, rfl⟩ | ⟨more, rfl⟩
  · have on := ((Place.past front).foldl_after more).2
    rw [Place.past, List.foldl_append, ← Place.past] at atB
    rwa [atB, atA] at on
  · have on := ((Place.past other).foldl_after more).1
    rw [Place.past, List.foldl_append, ← Place.past] at atA
    rw [atA, atB] at on
    have sameFront : more = [] := List.eq_nil_of_length_eq_zero (by dsimp only at on; omega)
    subst sameFront
    rw [List.foldl_nil, atB, Place.mk.injEq] at atA
    rw [atA.2.1, atA.2.2]

namespace Visiting

variable {κ : Type} {v : Visiting κ} {source : String} {node : Node κ}

/-- The visited nodes are stretches of the text, and the visited parts of each of them lie inside
it one after the other. -/
structure InSourceOrder (v : Visiting κ) (source : String) (node : Node κ) : Prop where
  starts : ∀ n ∈ v.nodes node, n.span.StartsIn source
  spans : ∀ n ∈ v.nodes node, n.span.start ≤ n.span.stop
  inside : ∀ n ∈ v.nodes node, ∀ part ∈ v.parts n, part.span.inside n.span
  apart : ∀ n ∈ v.nodes node, (v.parts n).Pairwise fun a b => a.span.stop ≤ b.span.start

instance (v : Visiting κ) (source : String) (node : Node κ) :
    Decidable (v.InSourceOrder source node) :=
  decidable_of_iff
    (∀ n ∈ v.nodes node, n.span.StartsIn source ∧ n.span.start ≤ n.span.stop ∧
      (∀ part ∈ v.parts n, part.span.inside n.span) ∧
      (v.parts n).Pairwise fun a b => a.span.stop ≤ b.span.start)
    ⟨fun each => ⟨fun n m => (each n m).1, fun n m => (each n m).2.1,
      fun n m => (each n m).2.2.1, fun n m => (each n m).2.2.2⟩,
    fun order n m => ⟨order.starts n m, order.spans n m, order.inside n m, order.apart n m⟩⟩

theorem InSourceOrder.part (order : v.InSourceOrder source node) {part : Node κ}
    (isPart : part ∈ v.parts node) : v.InSourceOrder source part where
  starts n member := order.starts n (mem_nodes_of_part isPart member)
  spans n member := order.spans n (mem_nodes_of_part isPart member)
  inside n member := order.inside n (mem_nodes_of_part isPart member)
  apart n member := order.apart n (mem_nodes_of_part isPart member)

/-- Whatever is visited below a node lies inside it. -/
theorem InSourceOrder.bounds (order : v.InSourceOrder source node) :
    ∀ n ∈ v.nodes node, node.span.start ≤ n.span.start ∧ n.span.stop ≤ node.span.stop := by
  induction node using v.induction with
  | step node inductionHypothesis =>
    intro n member
    rw [nodes_eq, List.mem_cons, List.mem_flatMap] at member
    obtain rfl | ⟨part, isPart, below⟩ := member
    · exact ⟨le_rfl, le_rfl⟩
    · have outer := order.inside node self_mem_nodes part isPart
      have inner := inductionHypothesis part isPart (order.part isPart) n below
      rw [Span.inside, Bool.and_eq_true, decide_eq_true_iff, decide_eq_true_iff] at outer
      exact ⟨outer.1.trans inner.1, inner.2.trans outer.2⟩

/-- Pre-order is the order of the offsets. -/
theorem InSourceOrder.pairwise_start (order : v.InSourceOrder source node) :
    (v.nodes node).Pairwise fun a b => a.span.start ≤ b.span.start := by
  induction node using v.induction with
  | step node inductionHypothesis =>
    rw [nodes_eq, List.pairwise_cons, List.pairwise_flatMap]
    refine ⟨fun n below => ?_, fun part isPart => ?_, ?_⟩
    · exact (order.bounds n (by rw [nodes_eq]; exact List.mem_cons_of_mem _ below)).1
    · exact inductionHypothesis part isPart (order.part isPart)
    · refine (order.apart node self_mem_nodes).imp_of_mem fun {a b} isA isB apart x inA y inB => ?_
      have ends := ((order.part isA).bounds x inA).2
      have starts := ((order.part isB).bounds y inB).1
      have proper := (order.part isA).spans x inA
      omega

/-- Pre-order is the order of the positions. -/
theorem InSourceOrder.pairwise_place (order : v.InSourceOrder source node) (file : String) :
    (v.nodes node).Pairwise fun a b =>
      (a.span.position file).place ≤ (b.span.position file).place :=
  order.pairwise_start.imp_of_mem fun {a b} isA isB before =>
    (order.starts a isA).place_le (order.starts b isB) before

end Visiting

end ParseTree

/-! ### Calls that differ in their receivers -/

/-- The callees are of one kind and of one name. -/
def Callee.SameTarget : Callee → Callee → Prop
  | .function a, .function b => a = b
  | .method _ a, .method _ b => a = b
  | .unresolved, .unresolved => True
  | _, _ => False

/-- The calls stand in one place, and their callees differ at most in the type of the receiver. -/
structure CallSite.SameCall (a b : CallSite) : Prop where
  position : a.position = b.position
  target : a.callee.SameTarget b.callee

theorem Callee.SameTarget.refl (c : Callee) : c.SameTarget c := by
  cases c <;> trivial

theorem forall₂_of_common {Item Left Right : Type} {First : Item → Left → Prop}
    {Second : Item → Right → Prop} {Both : Left → Right → Prop}
    (both : ∀ item a b, First item a → Second item b → Both a b) {items : List Item}
    {left : List Left} {right : List Right} (first : List.Forall₂ First items left)
    (second : List.Forall₂ Second items right) : List.Forall₂ Both left right := by
  induction first generalizing right with
  | nil =>
    cases second
    exact .nil
  | cons head _ inductionHypothesis =>
    cases second with
    | cons other rest => exact .cons (both _ _ _ head other) (inductionHypothesis rest)

namespace Frontend

variable {κ : Type}

/-- The call is what the node stands for in some scopes. -/
def Records (callHere : Node κ → Scopes → List CallSite) (node : Node κ) (call : CallSite) : Prop :=
  ∃ s, callHere node s = [call]

end Frontend

namespace ParseTree.Routes

open Frontend

/-! ### Walks along routes -/

variable {κ : Type} [DecidableEq κ] {r : Routes κ} {b : Binder κ}
  {record : Node κ → Scopes → CallSite} {walk : Scopes → Node κ → Scopes × List CallSite}

/-- The calls among the visited nodes, in pre-order. -/
def callNodes (r : Routes κ) (node : Node κ) : List (Node κ) :=
  (r.visiting.nodes node).filter fun n => n.kind == r.call

theorem callNodes_eq (node : Node κ) :
    r.callNodes node =
      ([node].filter fun n => n.kind == r.call) ++
        ((r.route node).ahead.flatMap r.callNodes ++
          (r.route node).within.flatMap r.callNodes) := by
  rw [callNodes, Visiting.nodes_eq, ← List.singleton_append, List.filter_append,
    List.filter_flatMap, r.parts, List.flatMap_append]
  rfl

theorem records_callHere (node : Node κ) (s : Scopes) :
    List.Forall₂ (Records (r.callHere record)) ([node].filter fun n => n.kind == r.call)
      (r.callHere record node s) := by
  rw [List.filter_singleton, callHere]
  by_cases isCall : node.kind = r.call
  · rw [if_pos isCall, isCall, beq_self_eq_true]
    exact .cons ⟨s, if_pos isCall⟩ .nil
  · rw [if_neg isCall, beq_false_of_ne isCall]
    exact .nil

theorem records_walkAll {nodes : List (Node κ)}
    (each : ∀ n ∈ nodes, ∀ s,
      List.Forall₂ (Records (r.callHere record)) (r.callNodes n) (walk s n).2) (s : Scopes) :
    List.Forall₂ (Records (r.callHere record)) (nodes.flatMap r.callNodes)
      (walkAll walk s nodes).2 := by
  induction nodes generalizing s with
  | nil => exact .nil
  | cons node rest inductionHypothesis =>
    have later := inductionHypothesis fun n member => each n (List.mem_cons_of_mem _ member)
    rw [List.flatMap_cons, walkAll]
    exact List.rel_append (each node List.mem_cons_self s) (later _)

/-- A walk records one call for each call among the nodes that it visits. -/
theorem Followed.records (followed : r.Followed b record walk) (s : Scopes) (node : Node κ) :
    List.Forall₂ (Records (r.callHere record)) (r.callNodes node) (walk s node).2 := by
  induction node using r.visiting.induction generalizing s with
  | step node inductionHypothesis =>
    have ahead := records_walkAll fun n member => inductionHypothesis n (r.ahead_among member)
    have within := records_walkAll fun n member => inductionHypothesis n (r.within_among member)
    rw [followed, walkAlong, callNodes_eq]
    exact List.rel_append (records_callHere node s) (List.rel_append (ahead s) (within _))

theorem eq_of_records {node : Node κ} {call : CallSite}
    (records : Records (r.callHere record) node call) : ∃ s, call = record node s := by
  obtain ⟨s, here⟩ := records
  rw [callHere] at here
  split at here
  · exact ⟨s, (List.head_eq_of_cons_eq here).symm⟩
  · cases here

variable {file : String}

theorem map_position_of_records
    (position : ∀ node s, (record node s).position = node.span.position file)
    {nodes : List (Node κ)} {calls : List CallSite}
    (records : List.Forall₂ (Records (r.callHere record)) nodes calls) :
    calls.map CallSite.position = nodes.map fun n => n.span.position file := by
  induction records with
  | nil => rfl
  | cons head _ inductionHypothesis =>
    obtain ⟨s, rfl⟩ := eq_of_records head
    rw [List.map_cons, List.map_cons, inductionHypothesis, position]

theorem sameCall_of_records (same : ∀ node s t, (record node s).SameCall (record node t))
    (node : Node κ) (a b : CallSite) (first : Records (r.callHere record) node a)
    (second : Records (r.callHere record) node b) : a.SameCall b := by
  obtain ⟨s, rfl⟩ := eq_of_records first
  obtain ⟨t, rfl⟩ := eq_of_records second
  exact same node s t

theorem pairwise_place_callNodes {source : String} {node : Node κ}
    (order : r.visiting.InSourceOrder source node) (file : String) :
    ((r.callNodes node).map fun n => n.span.position file).Pairwise
      fun p q => p.place ≤ q.place :=
  List.pairwise_map.2 ((order.pairwise_place file).sublist List.filter_sublist)

/-- The calls that a walk records, in their order, at their positions, and up to the types of
receivers. -/
theorem Followed.calls (followed : r.Followed b record walk)
    (position : ∀ node s, (record node s).position = node.span.position file)
    (same : ∀ node s t, (record node s).SameCall (record node t)) (s t : Scopes) (node : Node κ) :
    let calls := (walk s node).2
    List.Forall₂ (Records (r.callHere record)) (r.callNodes node) calls ∧
      calls.map CallSite.position = (r.callNodes node).map (fun n => n.span.position file) ∧
      List.Forall₂ CallSite.SameCall calls (walk t node).2 ∧
      ∀ source, r.visiting.InSourceOrder source node →
        (calls.map CallSite.position).Pairwise fun p q => p.place ≤ q.place := by
  have inS := followed.records s node
  have inT := followed.records t node
  have positions := map_position_of_records position inS
  refine ⟨inS, positions, forall₂_of_common (sameCall_of_records same) inS inT, ?_⟩
  intro source order
  rw [positions]
  exact pairwise_place_callNodes order file

end ParseTree.Routes

namespace Frontend

/-! ### What a call names -/

/-- What a call names does not depend on the scopes, save the type of a receiver. -/
theorem GoModel.sameCall_callAt (file : String) (node : GoNode) (s t : Scopes) :
    (callAt file node s).SameCall (callAt file node t) := by
  refine ⟨rfl, ?_⟩
  dsimp only [callAt]
  cases node.child? .function with
  | none => exact .refl _
  | some function =>
    dsimp only [Option.map_some, Option.getD_some, callee]
    split
    · exact .refl _
    · split
      · exact .refl _
      · exact rfl
    · exact .refl _

namespace RustModel

mutual

/-- What a call names does not depend on the scopes, save the type of a receiver. -/
theorem sameTarget_callee (owner : Option TypeExpr) (s t : Scopes) :
    ∀ function : RustNode, (callee owner s function).SameTarget (callee owner t function)
  | .mk kind role named span text children => by
    unfold callee
    split
    · exact .refl _
    · exact .refl _
    · dsimp only
      split
      · exact .refl _
      · exact rfl
    · exact sameTarget_calleeAs owner s t children
    · exact .refl _

theorem sameTarget_calleeAs (owner : Option TypeExpr) (s t : Scopes) :
    ∀ nodes : List RustNode, (calleeAs owner s nodes).SameTarget (calleeAs owner t nodes)
  | [] => trivial
  | node :: rest => by
    rw [calleeAs, calleeAs]
    split
    · exact sameTarget_callee owner s t node
    · exact sameTarget_calleeAs owner s t rest

end

theorem sameCall_callAt (file : String) (owner : Option TypeExpr) (node : RustNode)
    (s t : Scopes) : (callAt file owner node s).SameCall (callAt file owner node t) :=
  ⟨rfl, sameTarget_calleeAs owner s t node.children⟩

end RustModel

/-! ### Both walks -/

/-- A walk records exactly one call for each call among the nodes it visits, in pre-order and at the
position of the node. Walks of one node in any two scopes record calls that differ at most in the
types of receivers. Where the visited nodes come in source order, so do the calls. -/
theorem walks_record_calls (file : String) (s t : Scopes) :
    (∀ node : GoNode,
      let calls := (GoModel.walk file s node).2
      List.Forall₂ (Records (GoModel.callHere file)) (GoModel.routes.callNodes node) calls ∧
        calls.map CallSite.position =
          (GoModel.routes.callNodes node).map (fun n => n.span.position file) ∧
        List.Forall₂ CallSite.SameCall calls (GoModel.walk file t node).2 ∧
        ∀ source, GoModel.visiting.InSourceOrder source node →
          (calls.map CallSite.position).Pairwise fun p q => p.place ≤ q.place) ∧
      ∀ (owner : Option TypeExpr) (node : RustNode),
        let calls := (RustModel.walk file owner s node).2
        List.Forall₂ (Records (RustModel.callHere file owner)) (RustModel.routes.callNodes node)
            calls ∧
          calls.map CallSite.position =
            (RustModel.routes.callNodes node).map (fun n => n.span.position file) ∧
          List.Forall₂ CallSite.SameCall calls (RustModel.walk file owner t node).2 ∧
          ∀ source, RustModel.visiting.InSourceOrder source node →
            (calls.map CallSite.position).Pairwise fun p q => p.place ≤ q.place := by
  constructor
  · intro node
    rw [GoModel.callHere_eq]
    exact (GoModel.followed file).calls (fun _ _ => rfl) (GoModel.sameCall_callAt file) s t node
  · intro owner node
    rw [RustModel.callHere_eq]
    exact (RustModel.followed file owner).calls (fun _ _ => rfl)
      (RustModel.sameCall_callAt file owner) s t node

/-- A Go file with a call that goes over two lines. -/
def goCalls : String := "func f()\x7bg(h(),\nx.k())\x7d"

/-- A Rust file with calls in the value and in the alternative of a `let`. -/
def rustCalls : String := "fn f()\x7blet A=g()\nelse\x7bh()\x7d;x.k()\x7d"

/-- The syntax tree of the Go file. -/
def goTree : GoNode := (GoGrammar.parse? goCalls).getD default

/-- The syntax tree of the Rust file. -/
def rustTree : RustNode := (RustGrammar.parse? rustCalls).getD default

/-- The body of the function in the Rust file. -/
def rustBody : RustNode := (rustTree.firstNamed?.bind fun item => item.child? .body).getD default

/-- The nodes of both files come in source order, and so do their calls. -/
theorem calls_in_source_order :
    let s := Scopes.ofRoot [("x", some (.named "Crate" none))]
    let go := (GoModel.walk "far.go" s goTree).2
    let rust := (RustModel.walk "far.rs" none s rustBody).2
    GoModel.visiting.InSourceOrder goCalls goTree ∧
      RustModel.visiting.InSourceOrder rustCalls rustBody ∧
      go.map (fun c => (c.position.line, c.position.column)) = [(1, 10), (1, 12), (2, 1)] ∧
      rust.map (fun c => (c.position.line, c.position.column)) = [(1, 14), (2, 6), (2, 11)] ∧
      (go.map CallSite.position).Pairwise (fun p q => p.place ≤ q.place) ∧
      (rust.map CallSite.position).Pairwise fun p q => p.place ≤ q.place := by
  intro s go rust
  have goOrder : GoModel.visiting.InSourceOrder goCalls goTree := by decide +kernel
  have rustOrder : RustModel.visiting.InSourceOrder rustCalls rustBody := by decide +kernel
  refine ⟨goOrder, rustOrder, by decide +kernel, by decide +kernel, ?_, ?_⟩
  · exact ((walks_record_calls "far.go" s s).1 goTree).2.2.2 goCalls goOrder
  · exact ((walks_record_calls "far.rs" s s).2 none rustBody).2.2.2 rustCalls rustOrder

end Frontend

end ParamChain
