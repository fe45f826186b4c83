import Mathlib.Data.List.Forall2
import ParamChain.Proofs.CommentPlaces

/-
This file says with which receivers the calls of the methods of a Go variable are recorded.

Such a call is recorded with the type of the variable, so all depends on the declaration of the name
that the call sees: the one in the innermost scope that declares it, and if there is none, what the
name stands for around. Two things do not go as they do in the language. The parameters of a
function are bound in a scope around that of its body, where the language has one scope for both, so
a short declaration at the top of the body does not reassign a parameter but hides it. And the names
that a range clause, a type switch or a receiving case introduces are not declared, so that what
they hide in the language shows through.
-/

namespace ParamChain

open ParseTree

namespace Frontend.GoModel

/-! ### Calls of the methods of a variable -/

/-- The variable and the method, if the call is one of a variable's method. -/
def methodCall? (call : GoNode) : Option (String × String) := do
  let function ← call.child? .function
  let selector ← function.child? .selector
  let operand ← function.child? .operand
  if function.kind = .selectorExpression ∧ operand.kind = .identifier then
    some (operand.text, selector.text)
  else none

theorem callAt_of_methodCall? (file : String) {call : GoNode} {x m : String}
    (isMethod : methodCall? call = some (x, m)) (s : Scopes) :
    callAt file call s = ⟨.method (s.lookup x) m, call.span.position file⟩ := by
  simp only [methodCall?, Option.bind_eq_bind, Option.bind_eq_some_iff] at isMethod
  obtain ⟨function, isFunction, selector, isSelector, operand, isOperand, parts⟩ := isMethod
  split at parts
  next kinds =>
    obtain ⟨rfl, rfl⟩ := Prod.mk.inj (Option.some.inj parts)
    rw [callAt, isFunction, Option.map_some, Option.getD_some, callee, kinds.1, isSelector,
      isOperand, Option.bind_some, kinds.2]
    rfl
  next => cases parts

/-- The calls in a node with the declarations before them, in the scopes from the innermost to that
of the node. -/
def placesIn (node : GoNode) : List (CallPlace GoKind) :=
  places [] [] (node.namedChildren.flatMap routes.steps)

/-- No scope around the place declares the name before it. -/
def Undeclared (x : String) (place : CallPlace GoKind) : Prop :=
  ∀ scope ∈ place.scopes, ∀ d ∈ scope, declaredType? x d = none

/-- What is recorded of a call, if it is one of a method of `x`. Around the node that its scopes are
counted from, `x` stands for the type `around`. -/
structure Seen (file x : String) (around : Option TypeExpr) (place : CallPlace GoKind)
    (site : CallSite) : Prop where
  hidden : ∀ m given, methodCall? place.call = some (x, m) →
    binder.visible? x place.scopes = some given →
      site = ⟨.method given m, place.call.span.position file⟩
  kept : ∀ m, methodCall? place.call = some (x, m) → Undeclared x place →
    site = ⟨.method around m, place.call.span.position file⟩

theorem binds_of_undeclared {x : String} {node : GoNode} (undeclared : declaredType? x node = none)
    (bound : Option (Option TypeExpr)) : binder.binds x node bound = bound := by
  rw [binder_binds, binds, undeclared, Option.or_none, Option.none_or, ite_self]

theorem visible?_of_undeclared {x : String} {place : CallPlace GoKind}
    (undeclared : Undeclared x place) : binder.visible? x place.scopes = none :=
  Binder.visible?_eq_none fun scope member d inScope =>
    binds_of_undeclared (undeclared scope member d inScope) none

theorem steps_of_opensScope {node : GoNode} (opens : node.kind.opensScope) :
    routes.steps node = [.scope (node.namedChildren.flatMap routes.steps)] := by
  refine Routes.steps_of_scope (route_of_opensScope opens) fun isCall => ?_
  rw [isCall] at opens
  cases opens

/-- Every call in a node that opens a scope is recorded with what the declarations in the node let
it see, and else with what is seen around the node. -/
theorem walk_seen (file x : String) (s : Scopes) {node : GoNode} (opens : node.kind.opensScope) :
    List.Forall₂ (Seen file x (s.lookup x)) (placesIn node) (walk file s node).2 := by
  have calls : (walk file s node).2 =
      (placesIn node).map (binder.recordAt (callAt file) (s.push [])) := by
    rw [(followed file).eq_run, steps_of_opensScope opens, Binder.run_singleton, Binder.runStep]
    exact binder.calls_eq_places (callAt file) (s.push []) _
  rw [calls, List.forall₂_map_right_iff, List.forall₂_same]
  intro place _
  have fresh : binder.Extends x (s.push []) := binder.extends_of_fresh rfl
  have lookup := binder.lookup_replay fresh place.scopes
  refine ⟨fun m given isMethod visible => ?_, fun m isMethod undeclared => ?_⟩
  · rw [Binder.recordAt, callAt_of_methodCall? file isMethod, lookup, visible]
    rfl
  · rw [Binder.recordAt, callAt_of_methodCall? file isMethod, lookup,
      visible?_of_undeclared undeclared]
    rfl

/-! ### Parameters -/

/-- The names of the receiver and of the parameters of a function or method, with their types. -/
def rootFrame (node : GoNode) : Frame :=
  let receiver := (node.child? .receiver).bind receiver?
  bindParameters ((receiver.map fun r => bindAll [] r.1 r.2).getD [])
    (((node.child? .parameters).map parameters).getD [])

theorem calls_functionDecl? {file : String} {node body : GoNode} {decl : FunctionDecl}
    (found : functionDecl? file node = some decl) (hasBody : node.child? .body = some body) :
    decl.calls = (walk file (Scopes.ofRoot (rootFrame node)) body).2 := by
  rw [functionDecl?, Option.map_eq_some_iff] at found
  obtain ⟨name, _, rfl⟩ := found
  dsimp only
  rw [hasBody]
  rfl

theorem calls_functionLiteral (file : String) (s : Scopes) {literal body : GoNode}
    (isLiteral : literal.kind = .functionLiteral) (hasBody : literal.child? .body = some body) :
    (walk file s literal).2 = (walk file (s.push (literalFrame literal)) body).2 := by
  have taken := route_of_functionLiteral isLiteral
  rw [hasBody] at taken
  rw [(followed file).snd_of_body taken (by rw [isLiteral]; decide), declare_literal _ isLiteral]

theorem lookup_of_binding? {s : Scopes} {x : String} {type : Option TypeExpr}
    (bound : Scopes.binding? s.inner x = some type) : s.lookup x = type := by
  rw [Scopes.lookup, Scopes.frames, List.findSome?_cons, bound]
  rfl

/-- What is recorded of a call in the body of a function, if it is one of a method of the parameter
`x`. At the top of the body, after a short declaration of `x`, this is what the value in the first
such declaration tells of its type, unless a variable of the name is declared in between. -/
structure ParameterSeen (file x : String) (type : TypeExpr) (place : CallPlace GoKind)
    (site : CallSite) : Prop extends Seen file x (some type) place site where
  assigned : ∀ m given before d after, methodCall? place.call = some (x, m) →
    place.scopes = [before ++ d :: after] → d.kind = .shortVarDeclaration →
    declaredType? x d = some given →
    (∀ n ∈ after, n.kind ≠ .shortVarDeclaration → declaredType? x n = none) →
      site = ⟨.method ((binder.scopeBinding? x before).getD given) m,
        place.call.span.position file⟩

theorem visible?_after_short {x : String} {before after : List GoNode} {d : GoNode}
    {given : Option TypeExpr} (short : d.kind = .shortVarDeclaration)
    (gives : declaredType? x d = some given)
    (shortOnly : ∀ n ∈ after, n.kind ≠ .shortVarDeclaration → declaredType? x n = none) :
    binder.visible? x [before ++ d :: after] =
      some ((binder.scopeBinding? x before).getD given) := by
  have first (bound : Option (Option TypeExpr)) :
      binder.binds x d bound = some (bound.getD given) := by
    rw [binder_binds, binds, if_pos short, gives]
    cases bound <;> rfl
  rw [Binder.visible?, List.findSome?_singleton, Binder.scopeBinding?_append, List.foldl_cons,
    first]
  refine Binder.foldl_binds_eq fun n member => ?_
  by_cases again : n.kind = .shortVarDeclaration
  · rw [binder_binds, binds, if_pos again]
    rfl
  · exact binds_of_undeclared (shortOnly n member again) _

theorem Seen.parameter {file x : String} {type : TypeExpr} {place : CallPlace GoKind}
    {site : CallSite} (seen : Seen file x (some type) place site) :
    ParameterSeen file x type place site :=
  { seen with
    assigned := by
      intro m given before d after isMethod scopes short gives shortOnly
      refine seen.hidden m _ isMethod ?_
      rw [scopes]
      exact visible?_after_short short gives shortOnly }

/-- In the body of a function, a method or a function literal a parameter keeps its type up to the
first declaration of its name. A short declaration at the top of the body counts as one: from there
on the type of the parameter is forgotten, even though the variable is only given a new value. -/
theorem short_declarations_hide_parameters (file x : String) (type : TypeExpr) {body : GoNode}
    (isBlock : body.kind = .block) :
    (∀ node decl, functionDecl? file node = some decl → node.child? .body = some body →
      Scopes.binding? (rootFrame node) x = some (some type) →
        List.Forall₂ (ParameterSeen file x type) (placesIn body) decl.calls) ∧
      ∀ literal s, literal.kind = .functionLiteral → literal.child? .body = some body →
        Scopes.binding? (literalFrame literal) x = some (some type) →
          List.Forall₂ (ParameterSeen file x type) (placesIn body) (walk file s literal).2 := by
  have opens : body.kind.opensScope := by
    rw [isBlock]
    rfl
  have inBody {s : Scopes} (bound : Scopes.binding? s.inner x = some (some type)) :
      List.Forall₂ (ParameterSeen file x type) (placesIn body) (walk file s body).2 := by
    have seen := walk_seen file x s opens
    rw [lookup_of_binding? bound] at seen
    exact seen.imp fun _ _ => Seen.parameter
  refine ⟨fun node decl found hasBody bound => ?_, fun literal s isLiteral hasBody bound => ?_⟩
  · rw [calls_functionDecl? found hasBody]
    exact inBody bound
  · rw [calls_functionLiteral file s isLiteral hasBody]
    exact inBody bound

/-- The function or method that a Go file begins with. -/
def firstFunction (source : String) : GoNode :=
  (goRoot source).firstNamed?.getD default

/-- The first statement in the body of that function. -/
def firstStatement (source : String) : GoNode :=
  (((firstFunction source).child? .body).bind Node.firstNamed?).getD default

/-- A function that gives its parameter a new value beside a new variable. -/
def reassigning : GoNode := firstFunction "func f(x T)\x7bx,e:=g();x.m()\x7d"

/-- A function literal that does so. -/
def reassigningLiteral : GoNode :=
  (((firstStatement "func f()\x7bh:=func(x T)\x7bx,e:=g();x.m()\x7d\x7d").child? .right).bind
    Node.firstNamed?).getD default

/-- The body of a function, method or function literal that has one. -/
def bodyOf (node : GoNode) : GoNode := (node.child? .body).getD default

theorem reassigning_hides_parameter :
    ((placesIn (bodyOf reassigning)).map fun p =>
        (methodCall? p.call, p.scopes.map fun scope => scope.map (declaredType? "x"))) =
        [(none, [[]]), (some ("x", "m"), [[some none]])] ∧
      (∀ decl ∈ functionDecl? "a.go" reassigning,
        List.Forall₂ (ParameterSeen "a.go" "x" (.named "T" none)) (placesIn (bodyOf reassigning))
          decl.calls) ∧
      List.Forall₂ (ParameterSeen "a.go" "x" (.named "T" none))
        (placesIn (bodyOf reassigningLiteral))
        (walk "a.go" (Scopes.ofRoot []) reassigningLiteral).2 := by
  have function : (bodyOf reassigning).kind = .block ∧
      reassigning.child? .body = some (bodyOf reassigning) ∧
      Scopes.binding? (rootFrame reassigning) "x" = some (some (.named "T" none)) := by
    decide +kernel
  have literal : (bodyOf reassigningLiteral).kind = .block ∧
      reassigningLiteral.kind = .functionLiteral ∧
      reassigningLiteral.child? .body = some (bodyOf reassigningLiteral) ∧
      Scopes.binding? (literalFrame reassigningLiteral) "x" = some (some (.named "T" none)) := by
    decide +kernel
  refine ⟨by decide +kernel, fun decl found => ?_, ?_⟩
  · exact (short_declarations_hide_parameters "a.go" "x" (.named "T" none) function.1).1
      reassigning decl found function.2.1 function.2.2
  · exact (short_declarations_hide_parameters "a.go" "x" (.named "T" none) literal.1).2
      reassigningLiteral _ literal.2.1 literal.2.2.1 literal.2.2.2

/-- A function, a method and a function literal that give a parameter or a receiver of the type `T`
a new value. -/
def reassigningFiles : List String :=
  ["func f(x T)\x7bx,e:=g();x.m()\x7d",
    "func(x T)f()\x7bx,e:=g();x.m()\x7d",
    "func f()\x7bh:=func(x T)\x7bx,e:=g();x.m()\x7d\x7d"]

/-- In none of them the call after that is known to be a call of a method of `T`. -/
theorem reassigned_parameters_are_forgotten :
    reassigningFiles.map (fun source => (ofTree "a.go" (goRoot source)).functions.map fun d =>
        d.calls.map CallSite.callee) =
      [[[.function "g", .method none "m"]], [[.function "g", .method none "m"]],
        [[.function "g", .method none "m"]]] := by
  decide +kernel

/-! ### Names that are introduced without a declaration -/

/-- The targets of the heads of a kind that a node has, where they are declared there and not only
given a value. -/
def headTargets (kind : GoKind) (node : GoNode) : List GoNode :=
  (node.children.filter fun c =>
    c.kind == kind && (c.child? .operator).map Node.text == some ":=").filterMap fun c =>
      c.child? .left

/-- The names that a loop over a range, a receiving case or a type switch introduces for what is
inside it. -/
def introducedNames (node : GoNode) : List String :=
  let targets :=
    match node.kind with
    | .forStatement => headTargets .rangeClause node
    | .communicationCase => headTargets .receiveStatement node
    | .typeSwitch => (node.child? .introduced).toList
    | _ => []
  ((targets.flatMap Node.namedChildren).filter fun n => n.kind == .identifier).map Node.text

/-- A loop over a range that gives its variables values introduces no names. -/
example :
    introducedNames (firstStatement "func f(x T)\x7bfor _,x=range e\x7bx.m()\x7d\x7d") = [] := by
  decide +kernel

theorem opensScope_of_introduced {x : String} {node : GoNode}
    (introduced : x ∈ introducedNames node) : node.kind.opensScope := by
  unfold introducedNames at introduced
  split at introduced
  case h_4 => cases introduced
  all_goals
    rename_i isKind
    rw [isKind]
    rfl

/-- Inside a loop, a case or a type switch that introduces a name, the name stands for what a
declaration of it in there binds it to, be its type known or not. Where there is no such declaration
it stands for the variable around, though that one is hidden by the name that is introduced. -/
theorem introduced_names_show_through (file x : String) (type : TypeExpr) {s : Scopes}
    {node : GoNode} (known : s.lookup x = some type) (introduced : x ∈ introducedNames node) :
    List.Forall₂ (Seen file x (some type)) (placesIn node) (walk file s node).2 := by
  rw [← known]
  exact walk_seen file x s (opensScope_of_introduced introduced)

/-- Functions with a parameter of the type `T` that is hidden in a loop, in a type switch and in a
receiving case. -/
def introducingFiles : List String :=
  ["func f(x T)\x7bfor _,x:=range e\x7bx.m()\x7d\x7d",
    "func f(x T)\x7bswitch x:=e.(type)\x7bcase U:x.m()\x7d\x7d",
    "func f(x T)\x7bselect\x7bcase x:=<-c:x.m()\x7d\x7d"]

/-- The loop, the type switch and the receiving case in these functions. The case is the first thing
in its statement. -/
def introducing : List GoNode :=
  (introducingFiles.map firstStatement).map fun statement =>
    if statement.kind = .selectStatement then statement.firstNamed?.getD default else statement

/-- Each of them introduces the name of the parameter, and holds one call of its method, under no
declaration of the name. -/
theorem introducing_shows_parameter :
    introducing.map Node.kind = [.forStatement, .typeSwitch, .communicationCase] ∧
    ∀ node ∈ introducing, "x" ∈ introducedNames node ∧
      ((placesIn node).map fun p => (methodCall? p.call, p.scopes.flatten)) =
        [(some ("x", "m"), [])] ∧
      List.Forall₂ (Seen "a.go" "x" (some (.named "T" none))) (placesIn node)
        (walk "a.go" (Scopes.ofRoot [("x", some (.named "T" none))]) node).2 := by
  have introduces : ∀ node ∈ introducing, "x" ∈ introducedNames node := by decide +kernel
  have calls : ∀ node ∈ introducing,
      ((placesIn node).map fun p => (methodCall? p.call, p.scopes.flatten)) =
        [(some ("x", "m"), [])] := by
    decide +kernel
  refine ⟨by decide +kernel, fun node member => ⟨introduces node member, calls node member, ?_⟩⟩
  exact introduced_names_show_through "a.go" "x" (.named "T" none) rfl (introduces node member)

/-- In each of them the call inside is recorded as one of a method of the parameter. -/
theorem introduced_names_hide_nothing :
    introducingFiles.map (fun source => (ofTree "a.go" (goRoot source)).functions.map fun d =>
        d.calls.map CallSite.callee) =
      [[[.method (some (.named "T" none)) "m"]], [[.method (some (.named "T" none)) "m"]],
        [[.method (some (.named "T" none)) "m"]]] := by
  decide +kernel

end Frontend.GoModel

end ParamChain
