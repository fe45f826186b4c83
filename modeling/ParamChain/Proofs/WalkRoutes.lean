import ParamChain.Frontend.GoModel
import ParamChain.Frontend.RustModel
import ParamChain.Proofs.ScopeSteps

/-
This file brings the walks of both front ends into one form.

A walk takes every node in one way: it walks some of its parts in the scopes around the node, opens
a scope if the node has one of its own, declares what the node declares, and walks the other parts.
Which parts these are, whether there is a scope and whether there are names to declare depends on
the node alone, and this is its route. The routes of a language give the steps of a walk, so a walk
that takes every node along its route goes through these steps. What holds of all such walks is
proved once and holds of both front ends.
-/

namespace ParamChain

open ParseTree

namespace ParseTree

/-! ### The nodes that a walk visits -/

variable {κ : Type}

/-- Which children of each node are visited, in which order. -/
structure Visiting (κ : Type) where
  parts : Node κ → List (Node κ)
  among : ∀ node, ∀ part ∈ parts node, part ∈ node.children

namespace Visiting

/-- The children of a node are smaller than it, on which every recursion over trees rests. -/
theorem sizeOf_lt_of_mem_children {node part : Node κ} (member : part ∈ node.children) :
    sizeOf part < sizeOf node := by
  obtain ⟨kind, role, named, span, text, children⟩ := node
  have smaller : sizeOf part < sizeOf children := List.sizeOf_lt_of_mem member
  rw [Node.mk.sizeOf_spec]
  omega

/-- The visited nodes in pre-order. -/
def nodes (v : Visiting κ) (node : Node κ) : List (Node κ) :=
  node :: (v.parts node).attach.flatMap fun part => v.nodes part.1
termination_by sizeOf node
decreasing_by exact sizeOf_lt_of_mem_children (v.among node _ part.2)

/-- A node is visited before whatever is visited in its parts. -/
theorem nodes_eq (v : Visiting κ) (node : Node κ) :
    v.nodes node = node :: (v.parts node).flatMap v.nodes := by
  rw [nodes]
  congr 1
  rw [List.flatMap_subtype (g := v.nodes) fun _ _ => rfl, List.unattach_attach]

/-- What holds of a node if it holds of its visited parts holds of all nodes. -/
theorem induction (v : Visiting κ) {motive : Node κ → Prop}
    (step : ∀ node, (∀ part ∈ v.parts node, motive part) → motive node) (node : Node κ) :
    motive node :=
  step node fun part _ => v.induction step part
termination_by sizeOf node
decreasing_by exact sizeOf_lt_of_mem_children (v.among node part ‹_›)

variable {v : Visiting κ} {node : Node κ}

theorem self_mem_nodes : node ∈ v.nodes node := by
  rw [nodes_eq]
  exact List.mem_cons_self

/-- Whatever is visited in a part of a node is visited in the node. -/
theorem mem_nodes_of_part {part n : Node κ} (isPart : part ∈ v.parts node)
    (member : n ∈ v.nodes part) : n ∈ v.nodes node := by
  rw [nodes_eq]
  exact List.mem_cons_of_mem _ (List.mem_flatMap.2 ⟨part, isPart, member⟩)

end Visiting

theorem Node.mem_of_child? {node child : Node κ} {role : Role}
    (found : node.child? role = some child) : child ∈ node.children :=
  List.mem_of_find?_eq_some found

/-! ### Routes -/

/-- How a walk takes a node. The parts `ahead` are walked in the scopes around the node, then a
scope is opened, if the node has one of its own, then the node declares its names, if it declares
any, and last the parts `within` are walked. -/
structure Route (κ : Type) where
  ahead : List (Node κ)
  opens : Bool
  declares : Bool
  within : List (Node κ)

/-- The routes of a language, with the kind of its calls. -/
structure Routes (κ : Type) where
  call : κ
  route : Node κ → Route κ
  visiting : Visiting κ
  parts : ∀ node, visiting.parts node = (route node).ahead ++ (route node).within

/-- Walk nodes one after the other. -/
def walkAll (walk : Scopes → Node κ → Scopes × List CallSite) (s : Scopes) :
    List (Node κ) → Scopes × List CallSite
  | [] => (s, [])
  | node :: rest =>
    let (after, calls) := walk s node
    let (last, more) := walkAll walk after rest
    (last, calls ++ more)

section

variable {walk : Scopes → Node κ → Scopes × List CallSite}
  {f : Scopes → List (Node κ) → Scopes × List CallSite} {p : Node κ → Bool}

/-- Nodes are walked in the scopes that those before them leave. -/
theorem walkAll_append (s : Scopes) (first second : List (Node κ)) :
    walkAll walk s (first ++ second) =
      ((walkAll walk (walkAll walk s first).1 second).1,
        (walkAll walk s first).2 ++ (walkAll walk (walkAll walk s first).1 second).2) := by
  induction first generalizing s with
  | nil => rfl
  | cons node rest inductionHypothesis =>
    simp only [List.cons_append, walkAll, inductionHypothesis, List.append_assoc]

theorem walkAll_singleton (s : Scopes) (node : Node κ) : walkAll walk s [node] = walk s node := by
  simp only [walkAll, List.append_nil]

/-- A walk that goes over a list and leaves some nodes out. -/
theorem walkAll_filter (nil : ∀ s, f s [] = (s, []))
    (cons : ∀ s node rest, f s (node :: rest) =
      if p node then
        ((f (walk s node).1 rest).1, (walk s node).2 ++ (f (walk s node).1 rest).2)
      else f s rest)
    (s : Scopes) (nodes : List (Node κ)) : f s nodes = walkAll walk s (nodes.filter p) := by
  induction nodes generalizing s with
  | nil => exact nil s
  | cons node rest inductionHypothesis =>
    rw [cons, List.filter_cons]
    split
    · rw [walkAll, inductionHypothesis]
    · exact inductionHypothesis s

/-- A walk that goes to the first node of a list that it looks for. -/
theorem walkAll_find? (nil : ∀ s, f s [] = (s, []))
    (cons : ∀ s node rest, f s (node :: rest) =
      if p node then walk s node else f s rest)
    (s : Scopes) (nodes : List (Node κ)) :
    f s nodes = walkAll walk s (nodes.find? p).toList := by
  induction nodes with
  | nil => exact nil s
  | cons node rest inductionHypothesis =>
    rw [cons, List.find?_cons]
    cases p node with
    | true => exact (walkAll_singleton s node).symm
    | false => exact inductionHypothesis

end

namespace Routes

variable (r : Routes κ)

theorem ahead_among {node part : Node κ} (member : part ∈ (r.route node).ahead) :
    part ∈ r.visiting.parts node := by
  rw [r.parts]
  exact List.mem_append_left _ member

theorem within_among {node part : Node κ} (member : part ∈ (r.route node).within) :
    part ∈ r.visiting.parts node := by
  rw [r.parts]
  exact List.mem_append_right _ member

variable [DecidableEq κ]

/-- The call that a node stands for, if it is one. -/
def callHere (record : Node κ → Scopes → CallSite) (node : Node κ) (s : Scopes) : List CallSite :=
  if node.kind = r.call then [record node s] else []

/-- The steps of a node, from the steps of its parts. -/
def stepsAlong (node : Node κ) (ahead within : List (Step κ)) : List (Step κ) :=
  let here := if node.kind = r.call then [.call node] else []
  let inside := if (r.route node).declares then .declare node :: within else within
  here ++ (ahead ++ if (r.route node).opens then [.scope inside] else inside)

/-- The steps of the walk of a node. -/
def steps (r : Routes κ) (node : Node κ) : List (Step κ) :=
  r.stepsAlong node ((r.route node).ahead.attach.flatMap fun part => r.steps part.1)
    ((r.route node).within.attach.flatMap fun part => r.steps part.1)
termination_by sizeOf node
decreasing_by
  · exact Visiting.sizeOf_lt_of_mem_children (r.visiting.among _ _ (r.ahead_among part.2))
  · exact Visiting.sizeOf_lt_of_mem_children (r.visiting.among _ _ (r.within_among part.2))

/-- The steps of a node are made of the steps of its parts. -/
theorem steps_eq (node : Node κ) :
    r.steps node = r.stepsAlong node ((r.route node).ahead.flatMap r.steps)
      ((r.route node).within.flatMap r.steps) := by
  rw [steps, List.flatMap_subtype (g := r.steps) fun _ _ => rfl, List.unattach_attach,
    List.flatMap_subtype (g := r.steps) fun _ _ => rfl, List.unattach_attach]

variable (b : Binder κ) (record : Node κ → Scopes → CallSite)

/-- The walk of a node along its route, from the walks of its parts. -/
def walkAlong (walk : Scopes → Node κ → Scopes × List CallSite) (s : Scopes) (node : Node κ) :
    Scopes × List CallSite :=
  let (around, calls) := walkAll walk s (r.route node).ahead
  let outset := if (r.route node).opens then around.push [] else around
  let start := if (r.route node).declares then b.declare node outset else outset
  let (last, more) := walkAll walk start (r.route node).within
  (if (r.route node).opens then last.pop else last, r.callHere record node s ++ (calls ++ more))

/-- The walk takes every node along its route. -/
def Followed (walk : Scopes → Node κ → Scopes × List CallSite) : Prop :=
  ∀ s node, walk s node = r.walkAlong b record walk s node

theorem run_callHere (s : Scopes) (node : Node κ) :
    b.run record s (if node.kind = r.call then [.call node] else []) =
      (s, r.callHere record node s) := by
  rw [callHere]
  split <;> rfl

/-- The steps of a node are gone through as its route says. -/
theorem run_stepsAlong (s : Scopes) (node : Node κ) (ahead within : List (Step κ)) :
    b.run record s (r.stepsAlong node ahead within) =
      (let (around, calls) := b.run record s ahead
      let outset := if (r.route node).opens then around.push [] else around
      let start := if (r.route node).declares then b.declare node outset else outset
      let (last, more) := b.run record start within
      (if (r.route node).opens then last.pop else last,
        r.callHere record node s ++ (calls ++ more))) := by
  have inside (t : Scopes) :
      b.run record t (if (r.route node).declares then .declare node :: within else within) =
        b.run record (if (r.route node).declares then b.declare node t else t) within := by
    cases (r.route node).declares <;> rfl
  rw [stepsAlong, Binder.run_append, run_callHere, Binder.run_append]
  cases (r.route node).opens with
  | true =>
    simp only [if_true, Binder.run_singleton, Binder.runStep, inside]
  | false =>
    simp only [Bool.false_eq_true, if_false, inside]

/-- If a walk goes through the steps of each node, it goes through those of a list of nodes. -/
theorem walkAll_eq_run {walk : Scopes → Node κ → Scopes × List CallSite} {nodes : List (Node κ)}
    (each : ∀ n ∈ nodes, ∀ s, walk s n = b.run record s (r.steps n)) (s : Scopes) :
    walkAll walk s nodes = b.run record s (nodes.flatMap r.steps) := by
  induction nodes generalizing s with
  | nil => rfl
  | cons node rest inductionHypothesis =>
    have later := inductionHypothesis fun n member => each n (List.mem_cons_of_mem _ member)
    rw [List.flatMap_cons, Binder.run_append, ← each node List.mem_cons_self, ← later, walkAll]

/-- A walk that takes every node along its route goes through the steps of each. -/
theorem Followed.eq_run {r : Routes κ} {b : Binder κ} {record : Node κ → Scopes → CallSite}
    {walk : Scopes → Node κ → Scopes × List CallSite} (followed : r.Followed b record walk)
    (node : Node κ) (s : Scopes) : walk s node = b.run record s (r.steps node) := by
  induction node using r.visiting.induction generalizing s with
  | step node inductionHypothesis =>
    have ahead := r.walkAll_eq_run b record
      fun n member => inductionHypothesis n (r.ahead_among member)
    have within := r.walkAll_eq_run b record
      fun n member => inductionHypothesis n (r.within_among member)
    rw [followed, walkAlong, steps_eq, run_stepsAlong, ← ahead]
    simp only [← within]

/-- A node that only opens a scope does nothing outside it. -/
theorem steps_of_scope {r : Routes κ} {node : Node κ} {parts : List (Node κ)}
    (taken : r.route node = ⟨[], true, false, parts⟩) (noCall : node.kind ≠ r.call) :
    r.steps node = [.scope (parts.flatMap r.steps)] := by
  rw [steps_eq, stepsAlong, taken, if_neg noCall]
  rfl

/-- The calls in a node that declares names in the scope of its body are the calls of the body. -/
theorem Followed.snd_of_body {r : Routes κ} {b : Binder κ} {record : Node κ → Scopes → CallSite}
    {walk : Scopes → Node κ → Scopes × List CallSite} (followed : r.Followed b record walk)
    {node body : Node κ} (taken : r.route node = ⟨[], true, true, [body]⟩)
    (noCall : node.kind ≠ r.call) (s : Scopes) :
    (walk s node).2 = (walk (b.declare node (s.push [])) body).2 := by
  rw [followed s node, walkAlong, callHere, taken, if_neg noCall]
  dsimp only [walkAll]
  rw [if_pos rfl, if_pos rfl, List.nil_append, List.nil_append, List.append_nil]

/-- Nodes of the kind do nothing but that their named children are walked. -/
def PassesOver (kind : κ) : Prop :=
  kind ≠ r.call ∧ ∀ node, node.kind = kind → r.route node = ⟨[], false, false, node.namedChildren⟩

/-- There are no steps in a node that is passed over and has no children. -/
theorem PassesOver.steps_eq_nil {r : Routes κ} {kind : κ} (passed : r.PassesOver kind)
    {node : Node κ} (kindIs : node.kind = kind) (empty : node.children = []) :
    r.steps node = [] := by
  have noCall : node.kind ≠ r.call := by
    rw [kindIs]
    exact passed.1
  rw [steps_eq, passed.2 node kindIs, stepsAlong, passed.2 node kindIs, if_neg noCall,
    Node.namedChildren, empty]
  rfl

end Routes

end ParseTree

open Scopes

namespace Frontend.GoModel

/-! ### Declarations in Go -/

/-- The frame of a function literal. -/
def literalFrame (node : GoNode) : Frame :=
  ((node.child? .parameters).map fun l => bindParameters [] (parameters l)).getD []

theorem keeps_bindTargets (types : List (Option TypeExpr)) (i : Nat) (targets : List GoNode)
    (s : Scopes) : s.Keeps (bindTargets types i targets s) := by
  induction targets generalizing i s with
  | nil => exact .refl s
  | cons target rest inductionHypothesis =>
    rw [bindTargets]
    refine .trans ?_ (inductionHypothesis _ _)
    split
    · exact keeps_bind s _ _
    · exact .refl s

theorem keeps_bindShortVar (node : GoNode) (s : Scopes) : s.Keeps (bindShortVar node s) := by
  rw [bindShortVar]
  split
  · exact .refl s
  · exact keeps_bindTargets _ _ _ s

theorem keeps_bindNames (types : List (Option TypeExpr)) (i : Nat) (names : List String)
    (s : Scopes) : s.Keeps (bindNames types i names s) := by
  induction names generalizing i s with
  | nil => exact .refl s
  | cons name rest inductionHypothesis =>
    exact (keeps_bind s name _).trans (inductionHypothesis _ _)

theorem keeps_bindVarSpec (node : GoNode) (s : Scopes) : s.Keeps (bindVarSpec node s) := by
  rw [bindVarSpec]
  split
  · exact keeps_foldl (fun s name => keeps_bind s name _) _ s
  · exact keeps_bindNames _ _ _ s

/-- The binding of a target with its number, if the target is a name. -/
def targetBinding? (types : List (Option TypeExpr)) (target : GoNode × Nat) :
    Option (String × Option TypeExpr) :=
  if target.1.kind == .identifier then some (target.1.text, types[target.2]?.join) else none

/-- The names that a short declaration gives a value, with what the values tell of their types. -/
def shortFrame (node : GoNode) : Frame :=
  (((node.child? .left).map Node.namedChildren).getD []).zipIdx.filterMap
    (targetBinding? (valueTypes (node.child? .right)))

/-- The names that a declaration of variables binds, in their order. -/
def varFrame (node : GoNode) : Frame :=
  match node.child? .type with
  | some type => (declaredNames node).map fun name => (name, some (typeExpr type))
  | none => (declaredNames node).zipIdx.map fun (name, i) =>
    (name, (valueTypes (node.child? .value))[i]?.join)

/-- The bindings of a declaration. Of those of one name the first counts: among the targets of a
short declaration it is the first one too, and among variables the last. -/
def declaredFrame (node : GoNode) : Frame :=
  match node.kind with
  | .shortVarDeclaration => shortFrame node
  | .varSpec => (varFrame node).reverse
  | .functionLiteral => literalFrame node
  | _ => []

/-- What a declaration binds a name to, if it does. -/
def declaredType? (x : String) (node : GoNode) : Option (Option TypeExpr) :=
  Scopes.binding? (declaredFrame node) x

/-- What a name is bound to after a declaration. A short one leaves a name that its scope has. -/
def binds (x : String) (node : GoNode) (bound : Option (Option TypeExpr)) :
    Option (Option TypeExpr) :=
  if node.kind = .shortVarDeclaration then bound.or (declaredType? x node)
  else (declaredType? x node).or bound

/-- What a declaration does to the innermost scope. A function literal declares its parameters, in
the scope of its body. -/
def declare (node : GoNode) (s : Scopes) : Scopes :=
  match node.kind with
  | .shortVarDeclaration => bindShortVar node s
  | .varSpec => bindVarSpec node s
  | .functionLiteral => { s with inner := literalFrame node ++ s.inner }
  | _ => s

/-- No declaration of Go takes away a binding. -/
theorem keeps_declare (node : GoNode) (s : Scopes) : s.Keeps (declare node s) := by
  rw [declare]
  split
  · exact keeps_bindShortVar node s
  · exact keeps_bindVarSpec node s
  · exact keeps_prepend s (literalFrame node)
  · exact .refl s

/-- A target of a short declaration adds a binding of its name behind those that are there. -/
theorem binding?_bindTarget (x : String) (s : Scopes) (name : String) (type : Option TypeExpr) :
    Scopes.binding? (if !s.isBoundHere name then s.bind name type else s).inner x =
      (Scopes.binding? s.inner x).or (Scopes.binding? [(name, type)] x) := by
  rw [Scopes.binding?_cons]
  by_cases same : name = x
  · subst same
    rw [Scopes.isBoundHere, if_pos rfl]
    cases bound : Scopes.binding? s.inner name with
    | none => simp [Scopes.bind, Scopes.binding?_cons]
    | some known => simpa using bound
  · have other : (Scopes.binding? s.inner x).or none = Scopes.binding? s.inner x := Option.or_none
    rw [if_neg same]
    split
    · exact (Scopes.binding?_cons x name type s.inner).trans ((if_neg same).trans other.symm)
    · exact other.symm

/-- Of the targets of one name the first counts, unless the scope binds that name already. -/
theorem binding?_bindTargets (types : List (Option TypeExpr)) (x : String) (targets : List GoNode)
    (i : Nat) (s : Scopes) :
    Scopes.binding? (bindTargets types i targets s).inner x =
      (Scopes.binding? s.inner x).or
        (Scopes.binding? ((targets.zipIdx i).filterMap (targetBinding? types)) x) := by
  induction targets generalizing i s with
  | nil => exact Option.or_none.symm
  | cons target rest inductionHypothesis =>
    rw [bindTargets, inductionHypothesis, List.zipIdx_cons, List.filterMap_cons, targetBinding?]
    by_cases isName : target.kind == .identifier
    · simp only [isName, Bool.true_and, if_true, binding?_bindTarget, ← Scopes.binding?_append,
        List.append_assoc, List.singleton_append]
    · simp only [isName, Bool.false_and, Bool.false_eq_true, if_false]

theorem inner_bindNames (types : List (Option TypeExpr)) (names : List String) (i : Nat)
    (s : Scopes) :
    (bindNames types i names s).inner =
      ((names.zipIdx i).map fun (name, i) => (name, types[i]?.join)).reverse ++ s.inner := by
  induction names generalizing i s with
  | nil => rfl
  | cons name rest inductionHypothesis =>
    rw [bindNames, inductionHypothesis, List.zipIdx_cons, List.map_cons, List.reverse_cons,
      List.append_assoc]
    rfl

/-- The variables of a declaration are bound in their order, in front of what was there. -/
theorem inner_bindVarSpec (node : GoNode) (s : Scopes) :
    (bindVarSpec node s).inner = (varFrame node).reverse ++ s.inner := by
  rw [bindVarSpec, varFrame]
  cases node.child? .type with
  | some type => exact congrArg Scopes.inner (Scopes.foldl_bind _ _ s)
  | none => exact inner_bindNames _ _ 0 s

/-- What a name is bound to after a declaration can be told from the declaration and from what it
was bound to before. -/
theorem binding?_declare (x : String) (node : GoNode) (s : Scopes) :
    Scopes.binding? (declare node s).inner x = binds x node (Scopes.binding? s.inner x) := by
  unfold declare binds declaredType? declaredFrame
  split
  case h_1 isShort =>
    rw [if_pos isShort, bindShortVar, shortFrame]
    split
    next missing =>
      rw [missing]
      exact Option.or_none.symm
    next left found =>
      rw [found]
      exact binding?_bindTargets _ x _ 0 s
  case h_2 isVar =>
    rw [if_neg (by rw [isVar]; decide), inner_bindVarSpec, Scopes.binding?_append]
  case h_3 isLiteral =>
    rw [if_neg (by rw [isLiteral]; decide), Scopes.binding?_append]
  case h_4 notShort _ _ =>
    rw [if_neg notShort]
    rfl

/-- Declarations of Go. -/
def binder : Binder GoKind where
  declare := declare
  binds := binds
  keeps := keeps_declare
  binding := binding?_declare

/-- The scope of a function literal begins with its parameters. -/
theorem declare_literal (node : GoNode) (isLiteral : node.kind = .functionLiteral) (s : Scopes) :
    binder.declare node (s.push []) = s.push (literalFrame node) := by
  have inner : literalFrame node ++ [] = literalFrame node := List.append_nil _
  dsimp only [binder]
  rw [declare, isLiteral]
  exact congrArg (Scopes.mk · s.frames) inner

theorem binder_binds (x : String) (node : GoNode) (bound : Option (Option TypeExpr)) :
    binder.binds x node bound = binds x node bound := rfl

/-! ### The walk through Go -/

/-- A declaration is walked through its values alone and a function literal through its body; of
any other node all named children are walked. -/
def visiting : Visiting GoKind where
  parts node :=
    match node.kind with
    | .shortVarDeclaration => (node.child? .right).toList
    | .varSpec => (node.child? .value).toList
    | .functionLiteral => (node.child? .body).toList
    | _ => node.namedChildren
  among node part member := by
    split at member
    case h_4 => exact (List.mem_filter.1 member).1
    all_goals exact Node.mem_of_child? (Option.mem_toList.1 member)

/-- The call that a node stands for in the given scopes. -/
def callAt (file : String) (node : GoNode) (s : Scopes) : CallSite :=
  ⟨((node.child? .function).map fun f => callee f s).getD .unresolved, node.span.position file⟩

/-- The route of a node. -/
def route (node : GoNode) : Route GoKind :=
  match node.kind with
  | .shortVarDeclaration => ⟨(node.child? .right).toList, false, true, []⟩
  | .varSpec => ⟨(node.child? .value).toList, false, true, []⟩
  | .functionLiteral => ⟨[], true, true, (node.child? .body).toList⟩
  | kind => ⟨[], kind.opensScope, false, node.namedChildren⟩

/-- The routes of Go. -/
def routes : Routes GoKind where
  call := .callExpression
  route := route
  visiting := visiting
  parts node := by
    dsimp only [visiting, route]
    cases node.kind
    case shortVarDeclaration | varSpec => exact (List.append_nil _).symm
    all_goals rfl

theorem passesOver_comment : routes.PassesOver .comment := by
  refine ⟨by decide, fun node isComment => ?_⟩
  dsimp only [routes, route]
  rw [isComment]
  rfl

/-- Of a node with a scope of its own all named children are walked in that scope. -/
theorem route_of_opensScope {node : GoNode} (opens : node.kind.opensScope) :
    routes.route node = ⟨[], true, false, node.namedChildren⟩ := by
  dsimp only [routes, route]
  cases kindIs : node.kind
  all_goals
    rw [kindIs] at opens
    first | rfl | cases opens

theorem route_of_functionLiteral {node : GoNode} (isLiteral : node.kind = .functionLiteral) :
    routes.route node = ⟨[], true, true, (node.child? .body).toList⟩ := by
  dsimp only [routes, route]
  rw [isLiteral]

/-- A node of the kind of calls stands for one call, any other for none. -/
theorem callHere_eq (file : String) : callHere file = routes.callHere (callAt file) := by
  funext node s
  rw [callHere, Routes.callHere]
  cases node.kind <;> rfl

/-- The walk of the named nodes in a list goes to one after the other. -/
theorem walkNamed_eq (file : String) (s : Scopes) (nodes : List GoNode) :
    walkNamed file s nodes = walkAll (walk file) s (nodes.filter Node.named) :=
  walkAll_filter (fun s => by rw [walkNamed]) (fun s node rest => by rw [walkNamed]) s nodes

/-- The walk of a node in a role goes to the first that plays it. -/
theorem walkRole_eq (file : String) (s : Scopes) (role : Role) (nodes : List GoNode) :
    walkRole file s role nodes =
      walkAll (walk file) s (nodes.find? fun n => n.plays role).toList :=
  walkAll_find? (f := (walkRole file · role ·)) (fun s => by rw [walkRole])
    (fun s node rest => by rw [walkRole]) s nodes

/-- The walk takes every node along its route. -/
theorem followed (file : String) : routes.Followed binder (callAt file) (walk file) := by
  intro s node
  obtain ⟨kind, role, named, span, text, children⟩ := node
  rw [Routes.walkAlong, ← callHere_eq]
  unfold walk
  split
  · rw [walkRole_eq]
    exact Prod.ext rfl (List.append_nil _).symm
  · rw [walkRole_eq]
    exact Prod.ext rfl (List.append_nil _).symm
  · have frame := declare_literal (.mk _ role named span text children) rfl s
    have body := (walkRole_eq file _ .body children).trans
      (congrArg (walkAll (walk file) · _) frame.symm)
    exact congrArg (fun walked => (walked.1.pop, walked.2)) body
  · have plain : routes.route (.mk kind role named span text children) =
        ⟨[], kind.opensScope, false, children.filter Node.named⟩ := by
      dsimp only [routes, route, Node.kind]
      split
      all_goals first | contradiction | rfl
    simp only [plain, walkNamed_eq]
    cases kind.opensScope <;> rfl

end Frontend.GoModel

namespace Frontend.RustModel

/-! ### Declarations in Rust -/

/-- The frame of a closure. -/
def frameOf (owner : Option TypeExpr) (node : RustNode) : Frame :=
  ((node.child? .parameters).map (closureFrame owner)).getD []

/-- Names that are bound to nothing known, the last of them first. -/
def hiddenFrame (names : List String) : Frame :=
  (names.map fun name => (name, none)).reverse

/-- The names in a pattern, if there is one. -/
def namesIn (pattern : Option RustNode) : List String :=
  (pattern.map patternNames).getD []

/-- What a `let` tells of the type of its variable. -/
def letType (owner : Option TypeExpr) (node : RustNode) : Option TypeExpr :=
  match node.child? .type with
  | some type => some (typeExpr owner type)
  | none => (node.child? .value).bind (valueType owner)

/-- The bindings of a `let`. -/
def letFrame (owner : Option TypeExpr) (node : RustNode) : Frame :=
  match (node.child? .pattern).bind bindingName with
  | some name => [(name, letType owner node)]
  | none => hiddenFrame (namesIn (node.child? .pattern))

/-- The bindings of a declaration. Of those of one name the first counts. -/
def declaredFrame (owner : Option TypeExpr) (node : RustNode) : Frame :=
  match node.kind with
  | .letDeclaration => letFrame owner node
  | .letCondition | .forExpression => hiddenFrame (namesIn (node.child? .pattern))
  | .closureExpression => frameOf owner node
  | .matchArm => hiddenFrame (namesIn ((node.child? .pattern).bind Node.firstNamed?))
  | _ => []

/-- What a declaration binds a name to, if it does. -/
def declaredType? (owner : Option TypeExpr) (x : String) (node : RustNode) :
    Option (Option TypeExpr) :=
  Scopes.binding? (declaredFrame owner node) x

/-- The scopes after a declaration in the innermost one. -/
def declare (owner : Option TypeExpr) (node : RustNode) (s : Scopes) : Scopes :=
  ⟨declaredFrame owner node ++ s.inner, s.outer⟩

/-- Declarations of Rust, inside an item of the given type. -/
def binder (owner : Option TypeExpr) : Binder RustKind where
  declare := declare owner
  binds x node bound := (declaredType? owner x node).or bound
  keeps node s := keeps_prepend s (declaredFrame owner node)
  binding x node s := Scopes.binding?_append (declaredFrame owner node) s.inner x

/-- The scope of a closure begins with its parameters. -/
theorem declare_closure (owner : Option TypeExpr) (node : RustNode)
    (isClosure : node.kind = .closureExpression) (s : Scopes) :
    (binder owner).declare node (s.push []) = s.push (frameOf owner node) := by
  have inner : frameOf owner node ++ [] = frameOf owner node := List.append_nil _
  dsimp only [binder]
  rw [declare, declaredFrame, isClosure]
  exact congrArg (Scopes.mk · s.frames) inner

/-- Every declaration of Rust binds its names anew. -/
theorem overrides_binder (owner : Option TypeExpr) : (binder owner).Overrides := by
  intro x node bound
  dsimp only [binder]
  rw [Option.or_none]

theorem binding?_hiddenFrame (names : List String) (x : String) :
    Scopes.binding? (hiddenFrame names) x = if x ∈ names then some none else none := by
  induction names with
  | nil => rfl
  | cons name rest inductionHypothesis =>
    have last : hiddenFrame (name :: rest) = hiddenFrame rest ++ [(name, none)] := by
      rw [hiddenFrame, List.map_cons, List.reverse_cons, hiddenFrame]
    rw [last, Scopes.binding?_append, inductionHypothesis, Scopes.binding?_cons]
    by_cases later : x ∈ rest
    · rw [if_pos later, if_pos (List.mem_cons_of_mem name later), Option.some_or]
    · by_cases same : name = x
      · rw [if_neg later, if_pos same, if_pos (by rw [same]; exact List.mem_cons_self)]
        rfl
      · have absent : x ∉ name :: rest := by
          rw [List.mem_cons, not_or]
          exact ⟨Ne.symm same, later⟩
        rw [if_neg later, if_neg same, if_neg absent]
        rfl

/-! ### What the walk binds -/

/-- The names of a pattern are put in front of all that is bound before. -/
theorem hidePattern_eq (pattern : Option RustNode) (s : Scopes) :
    hidePattern pattern s = ⟨hiddenFrame (namesIn pattern) ++ s.inner, s.outer⟩ := by
  cases pattern with
  | none => rfl
  | some p => exact Scopes.foldl_bind none (patternNames p) s

/-- A `let` puts its names in front of all that is bound before. -/
theorem bindLet_eq (owner : Option TypeExpr) (node : RustNode) (s : Scopes) :
    bindLet owner node s = ⟨letFrame owner node ++ s.inner, s.outer⟩ := by
  rw [bindLet, letFrame]
  cases node.child? .pattern with
  | none => rfl
  | some pattern =>
    dsimp only [Option.bind_some]
    cases bindingName pattern with
    | none => exact hidePattern_eq (some pattern) s
    | some name => rfl

/-! ### The walk through Rust -/

/-- A function inside a body is not walked at all. A `let` is walked through its value and its
alternative, a condition through its value, a loop through its value and its body, a closure
through its body; of any other node all named children are walked. -/
def visiting : Visiting RustKind where
  parts node :=
    match node.kind with
    | .functionItem => []
    | .letDeclaration => (node.child? .value).toList ++ (node.child? .alternative).toList
    | .letCondition => (node.child? .value).toList
    | .forExpression => (node.child? .value).toList ++ (node.child? .body).toList
    | .closureExpression => (node.child? .body).toList
    | _ => node.namedChildren
  among node part member := by
    have inRole {role : Role} (found : part ∈ (node.child? role).toList) : part ∈ node.children :=
      Node.mem_of_child? (Option.mem_toList.1 found)
    split at member
    · cases member
    · exact (List.mem_append.1 member).elim inRole inRole
    · exact inRole member
    · exact (List.mem_append.1 member).elim inRole inRole
    · exact inRole member
    · exact (List.mem_filter.1 member).1

/-- The call that a node stands for in the given scopes. -/
def callAt (file : String) (owner : Option TypeExpr) (node : RustNode) (s : Scopes) : CallSite :=
  ⟨calleeAs owner s node.children, node.span.position file⟩

/-- The route of a node. -/
def route (node : RustNode) : Route RustKind :=
  match node.kind with
  | .functionItem => ⟨[], false, false, []⟩
  | .letDeclaration =>
    ⟨(node.child? .value).toList ++ (node.child? .alternative).toList, false, true, []⟩
  | .letCondition => ⟨(node.child? .value).toList, false, true, []⟩
  | .forExpression => ⟨(node.child? .value).toList, true, true, (node.child? .body).toList⟩
  | .closureExpression => ⟨[], true, true, (node.child? .body).toList⟩
  | .matchArm => ⟨[], true, true, node.namedChildren⟩
  | kind => ⟨[], kind.opensScope, false, node.namedChildren⟩

/-- The routes of Rust. -/
def routes : Routes RustKind where
  call := .callExpression
  route := route
  visiting := visiting
  parts node := by
    dsimp only [visiting, route]
    cases node.kind
    case letDeclaration | letCondition => exact (List.append_nil _).symm
    all_goals rfl

theorem passesOver_comment : routes.PassesOver .comment := by
  refine ⟨by decide, fun node isComment => ?_⟩
  dsimp only [routes, route]
  rw [isComment]
  rfl

/-- A node with a scope of its own, if it is no match arm, declares nothing in it. -/
theorem route_of_opensScope {node : RustNode} (opens : node.kind.opensScope)
    (noArm : node.kind ≠ .matchArm) :
    routes.route node = ⟨[], true, false, node.namedChildren⟩ := by
  dsimp only [routes, route]
  cases kindIs : node.kind
  case matchArm => exact absurd kindIs noArm
  all_goals
    rw [kindIs] at opens
    first | rfl | cases opens

theorem route_of_closure {node : RustNode} (isClosure : node.kind = .closureExpression) :
    routes.route node = ⟨[], true, true, (node.child? .body).toList⟩ := by
  dsimp only [routes, route]
  rw [isClosure]

theorem callHere_eq (file : String) (owner : Option TypeExpr) :
    callHere file owner = routes.callHere (callAt file owner) := by
  funext node s
  rw [callHere, Routes.callHere]
  cases node.kind <;> rfl

theorem walkNamed_eq (file : String) (owner : Option TypeExpr) (s : Scopes)
    (nodes : List RustNode) :
    walkNamed file owner s nodes = walkAll (walk file owner) s (nodes.filter Node.named) :=
  walkAll_filter (fun s => by rw [walkNamed]) (fun s node rest => by rw [walkNamed]) s nodes

theorem walkRole_eq (file : String) (owner : Option TypeExpr) (s : Scopes) (role : Role)
    (nodes : List RustNode) :
    walkRole file owner s role nodes =
      walkAll (walk file owner) s (nodes.find? fun n => n.plays role).toList :=
  walkAll_find? (f := (walkRole file owner · role ·)) (fun s => by rw [walkRole])
    (fun s node rest => by rw [walkRole]) s nodes

/-- The walk takes every node along its route. -/
theorem followed (file : String) (owner : Option TypeExpr) :
    routes.Followed (binder owner) (callAt file owner) (walk file owner) := by
  intro s node
  obtain ⟨kind, role, named, span, text, children⟩ := node
  rw [Routes.walkAlong, ← callHere_eq]
  unfold walk
  split
  · rfl
  · have ahead : walkAll (walk file owner) s
        (routes.route (.mk .letDeclaration role named span text children)).ahead = _ :=
      walkAll_append s _ _
    simp only [walkRole_eq, bindLet_eq, ahead]
    exact Prod.ext rfl (List.append_nil _).symm
  · simp only [walkRole_eq, hidePattern_eq]
    exact Prod.ext rfl (List.append_nil _).symm
  · simp only [walkRole_eq, hidePattern_eq]
    rfl
  · have frame := declare_closure owner (.mk _ role named span text children) rfl s
    have body := (walkRole_eq file owner _ .body children).trans
      (congrArg (walkAll (walk file owner) · _) frame.symm)
    exact congrArg (fun walked => (walked.1.pop, walked.2)) body
  · simp only [walkNamed_eq, bindArm, hidePattern_eq]
    rfl
  · have plain : routes.route (.mk kind role named span text children) =
        ⟨[], kind.opensScope, false, children.filter Node.named⟩ := by
      dsimp only [routes, route, Node.kind]
      split
      all_goals first | contradiction | rfl
    simp only [plain, walkNamed_eq]
    cases kind.opensScope <;> rfl

end Frontend.RustModel

end ParamChain
