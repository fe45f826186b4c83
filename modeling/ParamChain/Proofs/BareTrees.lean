import Mathlib.Data.List.Basic
import Mathlib.Data.Prod.Basic
import ParamChain.Chain.Key
import ParamChain.Proofs.WalkRoutes

/-
This file takes the comments out of a syntax tree and keeps what the keys of declarations and calls
depend on.

A comment is a named node among the children of other nodes. Without comments a file has other
positions, and every node that a comment lay inside has another text. So a bare tree has no
comments, no positions, and only those texts that a front end looks at by themselves. Two trees
with one bare tree differ in nothing but comments.

Of a type a key needs the name and the pointers in front of it. A qualifier and the text of a type
that has no name go into the model, but no key depends on them, and the outline of a type leaves
them out.
-/

namespace ParamChain

open ParseTree Chain

/-! ### Types in outline -/

/-- The type without qualifiers and without the texts of types that have no name. -/
def TypeExpr.outline : TypeExpr → TypeExpr
  | .named name _ => .named name none
  | .pointer target => .pointer target.outline
  | .other _ => .other ""

/-- Of a type without a name nothing but the text is known, and no outline keeps that. -/
theorem TypeExpr.outline_other (a b : String) : (other a).outline = (other b).outline := rfl

theorem TypeExpr.outline_map_pointer (type : Option TypeExpr) :
    (type.map pointer).map outline = (type.map outline).map pointer := by
  cases type <;> rfl

/-- Types that may be missing are alike in outline with any texts in their place. -/
theorem TypeExpr.outline_getD {known other : Option TypeExpr}
    (alike : known.map outline = other.map outline) (a b : String) :
    (known.getD (.other a)).outline = (other.getD (.other b)).outline := by
  have throughOutline (c : Option TypeExpr) (text : String) :
      (c.getD (.other text)).outline = (c.map outline).getD (.other "") := by
    cases c <;> rfl
  rw [throughOutline, alike, throughOutline]

namespace Chain

/-- The outline keeps the name of the type that a method belongs to. -/
theorem receiverTypeName_outline (type : TypeExpr) :
    receiverTypeName type.outline = receiverTypeName type := by
  cases type with
  | named | other => rfl
  | pointer target => cases target <;> rfl

/-- Types that are alike in outline belong to one owner. -/
theorem owner_eq_of_outline {a b : Option TypeExpr}
    (alike : a.map TypeExpr.outline = b.map TypeExpr.outline) :
    a.bind receiverTypeName = b.bind receiverTypeName := by
  have throughOutline (c : Option TypeExpr) :
      c.bind receiverTypeName = (c.map TypeExpr.outline).bind receiverTypeName := by
    cases c with
    | none => rfl
    | some type => exact (receiverTypeName_outline type).symm
  rw [throughOutline a, alike, ← throughOutline b]

/-- Calls of one method on types that are alike have one key. -/
theorem calleeKey_method_congr {a b : Option TypeExpr} (name : String)
    (alike : a.map TypeExpr.outline = b.map TypeExpr.outline) :
    calleeKey (.method a name) = calleeKey (.method b name) := by
  rw [calleeKey, calleeKey, owner_eq_of_outline alike]

/-- Declarations of one name with receivers that are alike have one key. -/
theorem declKey_congr {d e : FunctionDecl} (name : d.name = e.name)
    (alike : d.receiver.map TypeExpr.outline = e.receiver.map TypeExpr.outline) :
    declKey d = declKey e := by
  rw [declKey, declKey, owner_eq_of_outline alike, name]

end Chain

/-- The key of a declaration and the keys of its calls. -/
def FunctionDecl.keys (d : FunctionDecl) : String × List (Option String) :=
  (declKey d, d.calls.map callKey)

/-- The package of a file and the keys of its declarations. -/
def FileModel.keys (model : FileModel) :
    Option String × List (String × List (Option String)) :=
  (model.package, model.functions.map FunctionDecl.keys)

/-! ### Scopes in outline -/

namespace ParseTree

/-- The bindings of a frame with their types in outline. -/
def Frame.outline (frame : Frame) : Frame :=
  frame.map fun b => (b.1, b.2.map TypeExpr.outline)

theorem Frame.outline_foldl (frame : Frame) (names : List String) (type : Option TypeExpr) :
    Frame.outline (names.foldl (fun f name => (name, type) :: f) frame) =
      names.foldl (fun f name => (name, type.map TypeExpr.outline) :: f) (Frame.outline frame) := by
  induction names generalizing frame with
  | nil => rfl
  | cons name rest inductionHypothesis => exact inductionHypothesis ((name, type) :: frame)

/-- The names of a parameter group, and its type in outline. -/
def Parameter.outline (p : Parameter) : List String × TypeExpr :=
  (p.decl.names, p.type.outline)

theorem outline_bindAll (frame : Frame) (names : List String) (type : TypeExpr) :
    Frame.outline (bindAll frame names type) = bindAll (Frame.outline frame) names type.outline :=
  Frame.outline_foldl frame names (some type)

theorem outline_bindParameters (frame : Frame) (groups : List Parameter) :
    Frame.outline (bindParameters frame groups) =
      (groups.map Parameter.outline).foldl (fun f p => bindAll f p.1 p.2)
        (Frame.outline frame) := by
  induction groups generalizing frame with
  | nil => rfl
  | cons group rest inductionHypothesis =>
    rw [bindParameters, List.foldl_cons, ← bindParameters, inductionHypothesis, outline_bindAll]
    rfl

/-- Parameters that are alike make frames alike. -/
theorem outline_bindParameters_congr {f g : Frame} (frames : Frame.outline f = Frame.outline g)
    {a b : List Parameter} (groups : a.map Parameter.outline = b.map Parameter.outline) :
    Frame.outline (bindParameters f a) = Frame.outline (bindParameters g b) := by
  rw [outline_bindParameters, outline_bindParameters, frames, groups]

namespace Scopes

/-- The scopes with all types in outline. -/
def outline (s : Scopes) : Scopes :=
  ⟨Frame.outline s.inner, s.outer.map Frame.outline⟩

theorem outline_push (s : Scopes) (frame : Frame) :
    (s.push frame).outline = s.outline.push (Frame.outline frame) := rfl

theorem outline_bind (s : Scopes) (name : String) (type : Option TypeExpr) :
    (s.bind name type).outline = s.outline.bind name (type.map TypeExpr.outline) := rfl

/-- Closing a scope and taking the outline can be done in either order. -/
theorem outline_pop (s : Scopes) : s.pop.outline = s.outline.pop := by
  obtain ⟨inner, outer⟩ := s
  cases outer <;> rfl

theorem binding?_outline (frame : Frame) (name : String) :
    binding? (Frame.outline frame) name =
      (binding? frame name).map (Option.map TypeExpr.outline) := by
  rw [binding?, binding?, Frame.outline, List.find?_map, Option.map_map, Option.map_map]
  rfl

variable {s t : Scopes}

/-- Scopes that are alike bind the same names. -/
theorem isBoundHere_congr (scopes : s.outline = t.outline) (name : String) :
    s.isBoundHere name = t.isBoundHere name := by
  have throughOutline (u : Scopes) : u.isBoundHere name = u.outline.isBoundHere name := by
    rw [isBoundHere, isBoundHere, outline, binding?_outline, Option.isSome_map]
  rw [throughOutline s, scopes, ← throughOutline t]

/-- A name has in the outline of the scopes the outline of its type. -/
theorem lookup_outline (s : Scopes) (name : String) :
    s.outline.lookup name = (s.lookup name).map TypeExpr.outline := by
  have frames : s.outline.frames = s.frames.map Frame.outline := rfl
  rw [lookup, lookup, frames, List.findSome?_map]
  induction s.frames with
  | nil => rfl
  | cons frame rest inductionHypothesis =>
    rw [List.findSome?_cons, List.findSome?_cons, Function.comp_apply, binding?_outline]
    cases binding? frame name with
    | none => exact inductionHypothesis
    | some type => cases type <;> rfl

theorem lookup_congr (scopes : s.outline = t.outline) (name : String) :
    (s.lookup name).map TypeExpr.outline = (t.lookup name).map TypeExpr.outline := by
  rw [← lookup_outline, scopes, lookup_outline]

theorem bind_congr (scopes : s.outline = t.outline) (name : String) {a b : Option TypeExpr}
    (alike : a.map TypeExpr.outline = b.map TypeExpr.outline) :
    (s.bind name a).outline = (t.bind name b).outline := by
  rw [outline_bind, outline_bind, scopes, alike]

theorem push_congr (scopes : s.outline = t.outline) {f g : Frame}
    (frames : Frame.outline f = Frame.outline g) : (s.push f).outline = (t.push g).outline := by
  rw [outline_push, outline_push, scopes, frames]

/-- Scopes that are alike stay so when frames that are alike are put in front. -/
theorem prepend_congr (scopes : s.outline = t.outline) {f g : Frame}
    (frames : Frame.outline f = Frame.outline g) :
    (mk (f ++ s.inner) s.outer).outline = (mk (g ++ t.inner) t.outer).outline := by
  have throughOutline (u : Scopes) (frame : Frame) : (mk (frame ++ u.inner) u.outer).outline =
      ⟨Frame.outline frame ++ u.outline.inner, u.outline.outer⟩ :=
    congrArg (mk · _) List.map_append
  rw [throughOutline, throughOutline, scopes, frames]

theorem open_congr (scopes : s.outline = t.outline) :
    (s.push []).outline = (t.push []).outline :=
  push_congr scopes rfl

end Scopes

/-- The scopes after a walk, in outline, and the keys of the calls that it recorded. -/
def seen (walked : Scopes × List CallSite) : Scopes × List (Option String) :=
  (walked.1.outline, walked.2.map callKey)

/-- A walk is seen by the outline of its scopes and the keys of its calls. -/
theorem seen_eq {a b : Scopes × List CallSite} :
    seen a = seen b ↔ a.1.outline = b.1.outline ∧ a.2.map callKey = b.2.map callKey :=
  Prod.mk_inj

theorem seen_append {a b : Scopes × List CallSite} (same : seen a = seen b)
    {before after : List CallSite} (calls : before.map callKey = after.map callKey) :
    seen (a.1, before ++ a.2) = seen (b.1, after ++ b.2) := by
  obtain ⟨scopes, later⟩ := seen_eq.1 same
  refine seen_eq.2 ⟨scopes, ?_⟩
  rw [List.map_append, List.map_append, calls, later]

/-! ### Bare trees -/

section

variable {κ : Type} [DecidableEq κ]

mutual

/-- Whether two trees are the same. -/
def Node.decEq : (a b : Node κ) → Decidable (a = b)
  | .mk k r n s t children, .mk k' r' n' s' t' children' =>
    if head : k = k' ∧ r = r' ∧ n = n' ∧ s = s' ∧ t = t' then
      match Node.decEqAll children children' with
      | isTrue same => isTrue (by obtain ⟨rfl, rfl, rfl, rfl, rfl⟩ := head; rw [same])
      | isFalse differ => isFalse fun same => differ (by cases same; rfl)
    else isFalse fun same => head (by cases same; exact ⟨rfl, rfl, rfl, rfl, rfl⟩)

/-- Whether two lists of trees are the same. -/
def Node.decEqAll : (a b : List (Node κ)) → Decidable (a = b)
  | [], [] => isTrue rfl
  | [], _ :: _ => isFalse nofun
  | _ :: _, [] => isFalse nofun
  | node :: rest, node' :: rest' =>
    match Node.decEq node node', Node.decEqAll rest rest' with
    | isTrue first, isTrue later => isTrue (by rw [first, later])
    | isFalse differ, _ => isFalse fun same => differ (List.cons.inj same).1
    | _, isFalse differ => isFalse fun same => differ (List.cons.inj same).2

end

instance : DecidableEq (Node κ) := Node.decEq

end

section

variable {κ : Type} [DecidableEq κ] (comment : κ)

/-- The first node of a list that satisfies a condition is no comment. -/
def leads (p : Node κ → Bool) (nodes : List (Node κ)) : Bool :=
  (nodes.find? p).all fun n => n.kind != comment

/-- No node of a list is a comment. -/
def uncommented (nodes : List (Node κ)) : Bool :=
  nodes.all fun n => n.kind != comment

end

/-- What a front end looks at in a tree: the kind of its comments, the nodes whose text counts, told
by themselves and the kind of their parent, and whether the comments inside a node are clear of
whatever is found by its place. -/
structure Reading (κ : Type) where
  comment : κ
  reads : κ → Node κ → Bool
  placed : Node κ → Bool

namespace Reading

variable {κ : Type} [DecidableEq κ] (r : Reading κ)

/-- Whether a node is a comment. -/
def isComment (node : Node κ) : Bool :=
  node.kind == r.comment

mutual

/-- The node, in a parent of the given kind, without comments, without positions, and without the
texts that do not count. -/
def bare (parent : κ) : Node κ → Node κ
  | .mk kind role named span text children =>
    let node : Node κ := .mk kind role named span text children
    .mk kind role named default (if r.reads parent node then text else "") (bareAll kind children)

/-- The bare nodes of those in a list that are no comments. -/
def bareAll (parent : κ) : List (Node κ) → List (Node κ)
  | [] => []
  | node :: rest =>
    if r.isComment node then bareAll parent rest else bare parent node :: bareAll parent rest

end

variable {r} {parent : κ} {node : Node κ} {nodes : List (Node κ)}

@[simp]
theorem kind_bare : (r.bare parent node).kind = node.kind := by
  cases node
  rfl

@[simp]
theorem role_bare : (r.bare parent node).role = node.role := by
  cases node
  rfl

@[simp]
theorem named_bare : (r.bare parent node).named = node.named := by
  cases node
  rfl

theorem children_bare : (r.bare parent node).children = r.bareAll node.kind node.children := by
  cases node
  rfl

theorem text_bare :
    (r.bare parent node).text = if r.reads parent node then node.text else "" := by
  cases node
  rfl

@[simp]
theorem plays_bare (role : Role) : (r.bare parent node).plays role = node.plays role := by
  rw [Node.plays, Node.plays, role_bare]

theorem text_bare_of_reads (counts : r.reads parent node = true) :
    (r.bare parent node).text = node.text := by
  rw [text_bare, if_pos counts]

/-- A word that counts wherever it stands is found in the bare node where it is in the node. -/
theorem text_bare_eq_iff {word : String} (nonempty : "" ≠ word)
    (counts : node.text = word → r.reads parent node = true) :
    (r.bare parent node).text = word ↔ node.text = word := by
  rw [text_bare]
  split
  · rfl
  next ignored => exact iff_of_false nonempty fun isWord => ignored (counts isWord)

/-- The bare nodes are those of the nodes that are no comments. -/
theorem bareAll_eq :
    r.bareAll parent nodes = (nodes.filter fun n => !r.isComment n).map (r.bare parent) := by
  induction nodes with
  | nil => rfl
  | cons node rest inductionHypothesis =>
    rw [bareAll, List.filter_cons, inductionHypothesis]
    cases r.isComment node <;> rfl

theorem bareAll_append (others : List (Node κ)) :
    r.bareAll parent (nodes ++ others) = r.bareAll parent nodes ++ r.bareAll parent others := by
  rw [bareAll_eq, bareAll_eq, bareAll_eq, List.filter_append, List.map_append]

theorem bareAll_reverse : r.bareAll parent nodes.reverse = (r.bareAll parent nodes).reverse := by
  rw [bareAll_eq, bareAll_eq, List.filter_reverse, List.map_reverse]

/-! ### Children of bare trees -/

variable (r) in
/-- The comments in a list have no role and nothing inside them. -/
def loose (nodes : List (Node κ)) : Bool :=
  nodes.all fun n => !r.isComment n || (n.role.isNone && n.children.isEmpty)

/-- The first node with a property is found among the bare nodes as well, unless it is a comment. -/
theorem find?_bareAll {p : Node κ → Bool} (kept : ∀ n, p (r.bare parent n) = p n)
    (first : leads r.comment p nodes = true) :
    (r.bareAll parent nodes).find? p = (nodes.find? p).map (r.bare parent) := by
  induction nodes with
  | nil => rfl
  | cons node rest inductionHypothesis =>
    rw [leads, List.find?_cons] at first
    rw [bareAll, List.find?_cons]
    cases found : p node with
    | true =>
      rw [found] at first
      have code : r.isComment node = false := by simpa [isComment] using first
      rw [code, if_neg Bool.false_ne_true, List.find?_cons, kept, found]
      rfl
    | false =>
      rw [found] at first
      have later := inductionHypothesis first
      split
      · exact later
      · rw [List.find?_cons, kept, found]
        exact later

theorem loose_mem (loose : r.loose nodes = true) (member : node ∈ nodes)
    (comment : r.isComment node = true) : node.role = none ∧ node.children = [] := by
  have here := List.all_eq_true.1 loose node member
  simpa [comment] using here

/-- A node in a role is no comment. -/
theorem code_of_plays (loose : r.loose nodes = true) (member : node ∈ nodes) {role : Role}
    (plays : node.plays role = true) : r.isComment node = false := by
  refine Bool.eq_false_iff.2 fun comment => ?_
  have free := (loose_mem loose member comment).1
  rw [Node.plays, free] at plays
  cases plays

omit [DecidableEq κ] in
theorem plays_of_child? {role : Role} {child : Node κ} (found : node.child? role = some child) :
    child.plays role = true :=
  List.find?_some (p := fun n : Node κ => n.plays role) found

/-- The child in a role is found in the bare node as well, since no comment has a role. -/
theorem child?_bare (loose : r.loose node.children = true) (role : Role) :
    (r.bare parent node).child? role = (node.child? role).map (r.bare node.kind) := by
  rw [Node.child?, Node.child?, children_bare]
  refine find?_bareAll (fun n => plays_bare role) ((Option.all_eq_true _ _).2 fun n found => ?_)
  have code := code_of_plays loose (List.mem_of_find?_eq_some found) (plays_of_child? found)
  exact bne_iff_ne.2 (ne_of_beq_false code)

/-- The part in a role of the bare node is the bare part. -/
theorem toList_child?_bare (loose : r.loose node.children = true) (role : Role) :
    ((r.bare parent node).child? role).toList = r.bareAll node.kind (node.child? role).toList := by
  rw [child?_bare loose, bareAll_eq]
  cases found : node.child? role with
  | none => rfl
  | some child =>
    have code := code_of_plays loose (Node.mem_of_child? found) (plays_of_child? found)
    simp only [Option.map_some, Option.toList_some, List.filter_singleton, code]
    rfl

theorem childrenAs_bare (loose : r.loose node.children = true) (role : Role) :
    (r.bare parent node).childrenAs role = (node.childrenAs role).map (r.bare node.kind) := by
  rw [Node.childrenAs, Node.childrenAs, children_bare, bareAll_eq, List.filter_map,
    List.filter_filter]
  refine congrArg (List.map _) (List.filter_congr fun n member => ?_)
  rw [Function.comp_apply, plays_bare]
  cases plays : n.plays role with
  | true => rw [code_of_plays loose member plays]; rfl
  | false => rfl

/-- The first named child of the bare node is that of the node, unless a comment comes first. -/
theorem firstNamed?_bare (first : leads r.comment Node.named node.children = true) :
    (r.bare parent node).firstNamed? = node.firstNamed?.map (r.bare node.kind) := by
  rw [Node.firstNamed?, Node.firstNamed?, Node.namedChildren, Node.namedChildren,
    List.head?_filter, List.head?_filter, children_bare]
  exact find?_bareAll (fun n => named_bare) first

/-- The last named child of the bare node is that of the node, unless a comment comes last. -/
theorem lastNamed?_bare (last : leads r.comment Node.named node.children.reverse = true) :
    (r.bare parent node).lastNamed? = node.lastNamed?.map (r.bare node.kind) := by
  rw [Node.lastNamed?, Node.lastNamed?, Node.namedChildren, Node.namedChildren,
    ← List.head?_reverse, ← List.head?_reverse, ← List.filter_reverse, ← List.filter_reverse,
    List.head?_filter, List.head?_filter, children_bare, ← bareAll_reverse]
  exact find?_bareAll (fun n => named_bare) last

theorem namedChildren_bare :
    (r.bare parent node).namedChildren =
      (node.namedChildren.filter fun n => !r.isComment n).map (r.bare node.kind) := by
  have same : Node.named ∘ r.bare node.kind = Node.named := funext fun n => named_bare
  rw [Node.namedChildren, Node.namedChildren, children_bare, bareAll_eq, List.filter_map, same,
    List.filter_comm]

/-- A type that is read off a child, if it is there, is alike for the bare child. -/
theorem outline_map_bare {f g : Node κ → TypeExpr} {found : Option (Node κ)}
    (each : ∀ n ∈ found, (f (r.bare parent n)).outline = (g n).outline) :
    ((found.map (r.bare parent)).map f).map TypeExpr.outline =
      (found.map g).map TypeExpr.outline := by
  rw [Option.map_map, Option.map_map, Option.map_map]
  exact Option.map_congr each

theorem outline_bind_bare {f g : Node κ → Option TypeExpr} {found : Option (Node κ)}
    (each : ∀ n ∈ found,
      (f (r.bare parent n)).map TypeExpr.outline = (g n).map TypeExpr.outline) :
    ((found.map (r.bare parent)).bind f).map TypeExpr.outline =
      (found.bind g).map TypeExpr.outline := by
  cases found with
  | none => rfl
  | some node => exact each node rfl

/-- Parameters that are alike in a list are alike in the bare list, whether or not there is one. -/
theorem outline_getD_bare {f g : Node κ → List Parameter} {found : Option (Node κ)}
    (each : ∀ n ∈ found,
      (f (r.bare parent n)).map Parameter.outline = (g n).map Parameter.outline) :
    (((found.map (r.bare parent)).map f).getD []).map Parameter.outline =
      ((found.map g).getD []).map Parameter.outline := by
  cases found with
  | none => rfl
  | some node => exact each node rfl

/-- Children that are found by a property that no comment has are found in the bare node. -/
theorem filter_namedChildren_bare {p : Node κ → Bool}
    (kept : ∀ n, p (r.bare node.kind n) = p n) (code : ∀ n, p n = true → r.isComment n = false) :
    (r.bare parent node).namedChildren.filter p =
      (node.namedChildren.filter p).map (r.bare node.kind) := by
  have same : p ∘ r.bare node.kind = p := funext kept
  rw [namedChildren_bare, List.filter_map, same, List.filter_filter]
  refine congrArg (List.map _) (List.filter_congr fun n _ => ?_)
  cases holds : p n with
  | true => rw [code n holds]; rfl
  | false => rfl

/-- Lists that are made of all named children are the same for the bare node, if comments add
nothing. -/
theorem flatMap_namedChildren_bare {β : Type} {f g : Node κ → List β}
    (code : ∀ n ∈ node.children, r.isComment n = false → f (r.bare node.kind n) = g n)
    (comment : ∀ n ∈ node.children, r.isComment n = true → g n = []) :
    (r.bare parent node).namedChildren.flatMap f = node.namedChildren.flatMap g := by
  have each (n : Node κ) (member : n ∈ node.namedChildren) :
      (if (!r.isComment n) = true then f (r.bare node.kind n) else []) = g n := by
    have inside : n ∈ node.children := List.mem_of_mem_filter member
    cases isComment : r.isComment n with
    | true => exact (comment n inside isComment).symm
    | false => exact code n inside isComment
  rw [namedChildren_bare, List.flatMap_map]
  generalize node.namedChildren = nodes at each
  induction nodes with
  | nil => rfl
  | cons n rest inductionHypothesis =>
    have later := inductionHypothesis fun m member => each m (List.mem_cons_of_mem _ member)
    rw [List.filter_cons, List.flatMap_cons, ← each n List.mem_cons_self, ← later]
    cases r.isComment n <;> rfl

theorem filterMap_namedChildren_bare {β : Type} {f g : Node κ → Option β}
    (code : ∀ n ∈ node.children, r.isComment n = false → f (r.bare node.kind n) = g n)
    (comment : ∀ n ∈ node.children, r.isComment n = true → g n = none) :
    (r.bare parent node).namedChildren.filterMap f = node.namedChildren.filterMap g := by
  rw [List.filterMap_eq_flatMap_toList, List.filterMap_eq_flatMap_toList]
  refine flatMap_namedChildren_bare (fun n member isCode => ?_) fun n member isComment => ?_
  · rw [code n member isCode]
  · rw [comment n member isComment, Option.toList_none]

/-- What is gathered over all named children stays alike for the bare node, if comments change
nothing. -/
theorem foldl_namedChildren_bare {σ : Type} (Alike : σ → σ → Prop) {f g : σ → Node κ → σ}
    (code : ∀ n ∈ node.children, r.isComment n = false →
      ∀ x y, Alike x y → Alike (f x (r.bare node.kind n)) (g y n))
    (comment : ∀ n ∈ node.children, r.isComment n = true → ∀ y, g y n = y)
    {x y : σ} (start : Alike x y) :
    Alike ((r.bare parent node).namedChildren.foldl f x) (node.namedChildren.foldl g y) := by
  have inside (n : Node κ) (member : n ∈ node.namedChildren) : n ∈ node.children :=
    List.mem_of_mem_filter member
  rw [namedChildren_bare, List.foldl_map]
  generalize node.namedChildren = nodes at inside
  induction nodes generalizing x y with
  | nil => exact start
  | cons n rest inductionHypothesis =>
    have member := inside n List.mem_cons_self
    have later {x y : σ} (alike : Alike x y) :=
      inductionHypothesis alike fun m isOne => inside m (List.mem_cons_of_mem _ isOne)
    rw [List.filter_cons, List.foldl_cons]
    cases isComment : r.isComment n with
    | true =>
      rw [comment n member isComment]
      exact later start
    | false => exact later (code n member isComment x y start)

theorem namedChildren_bare_of_uncommented (free : uncommented r.comment node.children = true) :
    (r.bare parent node).namedChildren = node.namedChildren.map (r.bare node.kind) := by
  rw [namedChildren_bare, List.filter_eq_self.2]
  exact fun n member => List.all_eq_true.1 free n (List.mem_of_mem_filter member)

end Reading

/-- A function that looks for the first node of a list with a property. -/
theorem eq_elim_find? {κ β : Type} {f : List (Node κ) → β} {p : Node κ → Bool} {base : β}
    {found : Node κ → β} (nil : f [] = base)
    (cons : ∀ node rest, f (node :: rest) = if p node then found node else f rest)
    (nodes : List (Node κ)) : f nodes = (nodes.find? p).elim base found := by
  induction nodes with
  | nil => exact nil
  | cons node rest inductionHypothesis =>
    rw [cons, List.find?_cons, inductionHypothesis]
    cases p node <;> rfl

/-! ### Conditions on every node -/

/-- All children of each node. -/
def Visiting.everywhere {κ : Type} : Visiting κ :=
  ⟨Node.children, fun _ _ member => member⟩

namespace Node

variable {κ : Type} {p : Node κ → Bool} {node child : Node κ}

/-- What holds of a node if it holds of its children and of theirs holds of all nodes. -/
theorem twoLevelInduction {motive : Node κ → Prop}
    (step : ∀ node : Node κ, (∀ child ∈ node.children, motive child) →
      (∀ child ∈ node.children, ∀ below ∈ child.children, motive below) → motive node)
    (node : Node κ) : motive node := by
  have both : motive node ∧ ∀ child ∈ node.children, motive child := by
    induction node using Visiting.everywhere.induction with
    | step node inductionHypothesis =>
      have children (child : Node κ) (member : child ∈ node.children) : motive child :=
        (inductionHypothesis child member).1
      exact ⟨step node children fun child member => (inductionHypothesis child member).2, children⟩
  exact both.1

/-- Whether every node of a tree satisfies a condition. -/
def everywhere (p : Node κ → Bool) (tree : Node κ) : Bool :=
  (Visiting.everywhere.nodes tree).all p

/-- What holds everywhere in a tree holds at its top. -/
theorem here_of_everywhere (each : node.everywhere p = true) : p node = true :=
  List.all_eq_true.1 each node Visiting.self_mem_nodes

/-- What holds everywhere in a tree holds everywhere in its parts. -/
theorem everywhere_child (each : node.everywhere p = true) (member : child ∈ node.children) :
    child.everywhere p = true :=
  List.all_eq_true.2 fun n below =>
    List.all_eq_true.1 each n (Visiting.mem_nodes_of_part member below)

theorem mem_of_firstNamed? (found : node.firstNamed? = some child) : child ∈ node.children :=
  List.mem_of_mem_filter (List.mem_of_head? found)

end Node

namespace Reading

variable {κ : Type} [DecidableEq κ] {r : Reading κ} {node child : Node κ}

/-- The comments of a tree have no role and nothing inside them, and they are clear of whatever is
found by its place. -/
def clear (r : Reading κ) (tree : Node κ) : Bool :=
  tree.everywhere fun node => r.loose node.children && r.placed node

theorem loose_of_clear (isClear : r.clear node = true) : r.loose node.children = true :=
  (Bool.and_eq_true_iff.1 (Node.here_of_everywhere isClear)).1

theorem placed_of_clear (isClear : r.clear node = true) : r.placed node = true :=
  (Bool.and_eq_true_iff.1 (Node.here_of_everywhere isClear)).2

/-- The parts of a clear tree are clear. -/
theorem clear_of_mem (isClear : r.clear node = true) (member : child ∈ node.children) :
    r.clear child = true :=
  Node.everywhere_child isClear member

theorem clear_of_child? (isClear : r.clear node = true) {role : Role}
    (found : node.child? role = some child) : r.clear child = true :=
  clear_of_mem isClear (Node.mem_of_child? found)

theorem clear_of_firstNamed? (isClear : r.clear node = true)
    (found : node.firstNamed? = some child) : r.clear child = true :=
  clear_of_mem isClear (Node.mem_of_firstNamed? found)

end Reading

/-! ### Walks of bare trees -/

section

variable {κ : Type} [DecidableEq κ] {r : Reading κ} {routes : Routes κ} {b c : Binder κ}
  {record recordOther : Node κ → Scopes → CallSite} {s t : Scopes}
  {walk other : Scopes → Node κ → Scopes × List CallSite}

/-- The one walk sees in the bare node what the other sees in the node, from any scopes that are
alike. -/
def WalksAlike (r : Reading κ) (walk other : Scopes → Node κ → Scopes × List CallSite)
    (node : Node κ) : Prop :=
  ∀ (parent : κ) (s t : Scopes), s.outline = t.outline →
    seen (walk s (r.bare parent node)) = seen (other t node)

/-- The bare node is taken as the node is, up to comments: it has the same route, it declares the
same names with types that are alike, and it has the same key if it is a call. -/
structure TakenAlike (r : Reading κ) (routes : Routes κ) (b c : Binder κ)
    (record recordOther : Node κ → Scopes → CallSite) (node : Node κ) : Prop where
  route : ∀ parent, routes.route (r.bare parent node) =
    { routes.route node with
      ahead := r.bareAll node.kind (routes.route node).ahead
      within := r.bareAll node.kind (routes.route node).within }
  declared : (routes.route node).declares = true → ∀ parent s t, s.outline = t.outline →
    (b.declare (r.bare parent node) s).outline = (c.declare node t).outline
  recorded : node.kind = routes.call → ∀ parent s t, s.outline = t.outline →
    callKey (record (r.bare parent node) s) = callKey (recordOther node t)

/-- What a walk sees in a list follows from what it sees in each node, as comments show nothing. -/
theorem seen_walkAll {nodes : List (Node κ)} (each : ∀ n ∈ nodes, WalksAlike r walk other n)
    (skips : ∀ n ∈ nodes, r.isComment n = true → ∀ u, other u n = (u, [])) (parent : κ)
    (scopes : s.outline = t.outline) :
    seen (walkAll walk s (r.bareAll parent nodes)) = seen (walkAll other t nodes) := by
  induction nodes generalizing s t with
  | nil => exact congrArg (·, []) scopes
  | cons node rest inductionHypothesis =>
    have later {u v : Scopes} (alike : u.outline = v.outline) :=
      inductionHypothesis (fun n member => each n (List.mem_cons_of_mem _ member))
        (fun n member => skips n (List.mem_cons_of_mem _ member)) alike
    rw [Reading.bareAll]
    cases comment : r.isComment node with
    | true =>
      rw [if_pos rfl, walkAll, skips node List.mem_cons_self comment]
      exact later scopes
    | false =>
      rw [if_neg Bool.false_ne_true, walkAll, walkAll]
      obtain ⟨after, calls⟩ := seen_eq.1 (each node List.mem_cons_self parent s t scopes)
      exact seen_append (later after) calls

/-- A call has one key in the bare tree and in the tree. -/
theorem TakenAlike.keys_callHere {node : Node κ}
    (alike : TakenAlike r routes b c record recordOther node) (parent : κ)
    (scopes : s.outline = t.outline) :
    (routes.callHere record (r.bare parent node) s).map callKey =
      (routes.callHere recordOther node t).map callKey := by
  rw [Routes.callHere, Routes.callHere, Reading.kind_bare]
  split
  next isCall => exact congrArg (fun key => [key]) (alike.recorded isCall parent s t scopes)
  next => rfl

/-- What a node declares is alike in the bare tree and in the tree. -/
theorem TakenAlike.outline_start {node : Node κ}
    (alike : TakenAlike r routes b c record recordOther node) (parent : κ)
    (scopes : s.outline = t.outline) :
    (if (routes.route node).declares then b.declare (r.bare parent node) s else s).outline =
      (if (routes.route node).declares then c.declare node t else t).outline := by
  split
  next declares => exact alike.declared declares parent s t scopes
  next => exact scopes

/-- Scopes that are alike stay so when one more is opened in both. -/
theorem outline_outset (opens : Bool) (scopes : s.outline = t.outline) :
    (if opens then s.push [] else s).outline = (if opens then t.push [] else t).outline := by
  split
  · exact Scopes.open_congr scopes
  · exact scopes

/-- Scopes that are alike stay so when the innermost of both is closed. -/
theorem outline_outcome (opens : Bool) (scopes : s.outline = t.outline) :
    (if opens then s.pop else s).outline = (if opens then t.pop else t).outline := by
  split
  · rw [Scopes.outline_pop, Scopes.outline_pop, scopes]
  · exact scopes

/-- Walks that take the nodes of a clear tree and of the bare one alike see the same in both. -/
theorem walksAlike (followed : routes.Followed b record walk)
    (otherFollowed : routes.Followed c recordOther other) (passed : routes.PassesOver r.comment)
    (alike : ∀ n, r.clear n = true → TakenAlike r routes b c record recordOther n)
    {node : Node κ} (isClear : r.clear node = true) : WalksAlike r walk other node := by
  induction node using Visiting.everywhere.induction with
  | step node inductionHypothesis =>
    intro parent s t scopes
    have taken := alike node isClear
    have parts {nodes : List (Node κ)} (among : ∀ n ∈ nodes, n ∈ routes.visiting.parts node)
        {u v : Scopes} (start : u.outline = v.outline) :
        seen (walkAll walk u (r.bareAll node.kind nodes)) = seen (walkAll other v nodes) := by
      have inside (n : Node κ) (member : n ∈ nodes) : n ∈ node.children :=
        routes.visiting.among node n (among n member)
      refine seen_walkAll (fun n member => ?_) (fun n member comment w => ?_) node.kind start
      · have clear := Reading.clear_of_mem isClear (inside n member)
        exact inductionHypothesis n (inside n member) clear
      · have loose := Reading.loose_of_clear isClear
        have empty := (Reading.loose_mem loose (inside n member) comment).2
        rw [otherFollowed.eq_run, passed.steps_eq_nil (eq_of_beq comment) empty]
        rfl
    obtain ⟨around, calls⟩ := seen_eq.1 (parts (fun n => routes.ahead_among) scopes)
    have start := taken.outline_start parent (outline_outset (routes.route node).opens around)
    obtain ⟨last, more⟩ := seen_eq.1 (parts (fun n => routes.within_among) start)
    rw [followed, otherFollowed, Routes.walkAlong, Routes.walkAlong, taken.route]
    refine seen_eq.2 ⟨outline_outcome (routes.route node).opens last, ?_⟩
    dsimp only
    rw [List.map_append, List.map_append, List.map_append, List.map_append,
      taken.keys_callHere parent scopes]
    exact congrArg₂ (fun earlier later => _ ++ (earlier ++ later)) calls more

end

end ParseTree

end ParamChain
