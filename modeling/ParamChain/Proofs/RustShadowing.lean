import Mathlib.Data.List.Forall2
import ParamChain.Proofs.CommentPlaces
import ParamChain.Proofs.RustSteps

/-
This file says with which receivers the calls of the methods of a Rust variable are recorded in two
places: in the `else` of a choice whose condition matches patterns, and in the body of a closure.

In the language a pattern in the condition of a choice binds its names for the block that follows
and for nothing else. Here condition, block and `else` are walked in one scope, so that what is done
otherwise sees these names too. Their types are not known, so a call of a method of such a name
loses the type that the variable around has; every other call there is recorded as it would be in
front of the choice.

The parameters of a closure hide the variables around it, with one exception. A parameter with a
type is looked at only if its pattern is a mere name, and a pattern that takes a value apart is
passed over: the names in it are not bound, and the variables around show through.
-/

namespace ParamChain

open ParseTree

namespace Frontend.RustModel

/-! ### What is done otherwise -/

/-- The node is a choice with an `else`. Comments apart it has a condition, a block and what is done
otherwise, and all that its condition declares is in patterns that it matches. -/
structure Choice (node condition consequence alternative : RustNode) : Prop where
  isChoice : node.kind = .ifExpression
  parts : node.namedChildren.filter (fun n => n.kind != .comment) =
    [condition, consequence, alternative]
  remarks : ∀ n ∈ node.namedChildren, n.kind = .comment → n.children = []
  isBlock : consequence.kind = .block
  patterns : ∀ d ∈ declared (routes.steps condition), d.kind = .letCondition

/-- The names in the patterns that a condition matches. -/
def matchedNames (condition : RustNode) : List String :=
  (declared (routes.steps condition)).flatMap fun d => namesIn (d.child? .pattern)

/-- A call as it is recorded where names are bound to nothing known in a scope around the place. If
it is a call of a method of such a name that is not declared since, its receiver is not known. -/
def veiled (owner : Option TypeExpr) (names : List String) (place : CallPlace RustKind)
    (site : CallSite) : CallSite :=
  match methodCall? place.call with
  | some (x, m) =>
    if x ∈ names ∧ (binder owner).visible? x place.scopes = none then
      ⟨.method none m, site.position⟩
    else site
  | none => site

theorem flatMap_steps_of_remarks {nodes : List RustNode}
    (remarks : ∀ n ∈ nodes, n.kind = .comment → n.children = []) :
    nodes.flatMap routes.steps =
      (nodes.filter fun n => n.kind != .comment).flatMap routes.steps := by
  induction nodes with
  | nil => rfl
  | cons node rest inductionHypothesis =>
    have others := inductionHypothesis fun n member => remarks n (List.mem_cons_of_mem _ member)
    rw [List.flatMap_cons, List.filter_cons, others]
    by_cases isComment : node.kind = .comment
    · have empty := remarks node List.mem_cons_self isComment
      rw [passesOver_comment.steps_eq_nil isComment empty, isComment]
      rfl
    · rw [if_pos (bne_iff_ne.2 isComment), List.flatMap_cons]

theorem steps_choice {node condition consequence alternative : RustNode}
    (choice : Choice node condition consequence alternative) :
    routes.steps node =
      [.scope (routes.steps condition ++
        (routes.steps consequence ++ routes.steps alternative))] := by
  have taken : routes.route node = ⟨[], true, false, node.namedChildren⟩ :=
    route_of_opensScope (by rw [choice.isChoice]; rfl) (by rw [choice.isChoice]; decide)
  rw [Routes.steps_of_scope taken (by rw [choice.isChoice]; decide),
    flatMap_steps_of_remarks choice.remarks, choice.parts, List.flatMap_cons, List.flatMap_cons,
    List.flatMap_singleton]

theorem declared_block {node : RustNode} (isBlock : node.kind = .block) :
    declared (routes.steps node) = [] := by
  have taken : routes.route node = ⟨[], true, false, node.namedChildren⟩ :=
    route_of_opensScope (by rw [isBlock]; rfl) (by rw [isBlock]; decide)
  rw [Routes.steps_of_scope taken (by rw [isBlock]; decide)]
  rfl

/-- The names that a choice matches are bound, to nothing known. -/
theorem scopeBinding?_matched (owner : Option TypeExpr) (x : String) {nodes : List RustNode}
    (patterns : ∀ d ∈ nodes, d.kind = .letCondition) :
    (binder owner).scopeBinding? x nodes =
      if x ∈ nodes.flatMap (fun d => namesIn (d.child? .pattern)) then some none else none := by
  induction nodes with
  | nil => rfl
  | cons node rest inductionHypothesis =>
    have first : declaredType? owner x node =
        if x ∈ namesIn (node.child? .pattern) then some none else none := by
      rw [declaredType?, declaredFrame, patterns node List.mem_cons_self]
      exact binding?_hiddenFrame _ x
    have others := inductionHypothesis fun d member => patterns d (List.mem_cons_of_mem _ member)
    have both : (binder owner).scopeBinding? x (node :: rest) =
        ((binder owner).scopeBinding? x rest).or ((declaredType? owner x node).or none) :=
      (overrides_binder owner).foldl_binds x rest _
    rw [both, others, first, Option.or_none]
    simp only [List.flatMap_cons, List.mem_append]
    by_cases here : x ∈ namesIn (node.child? .pattern) <;>
      by_cases later : x ∈ rest.flatMap (fun d => namesIn (d.child? .pattern)) <;>
      simp [here, later]

/-- In scopes that hide names, a call is recorded with the veil of these names over it. -/
theorem recordAt_veiled (file : String) (owner : Option TypeExpr) {names : List String}
    {s inside : Scopes}
    (hides : ∀ x, inside.lookup x = if x ∈ names then none else s.lookup x)
    (place : CallPlace RustKind) :
    (binder owner).recordAt (callAt file owner) inside place =
      veiled owner names place ((binder owner).recordAt (callAt file owner) s place) := by
  rw [veiled]
  cases isMethod : methodCall? place.call with
  | none => exact callAt_of_no_method file owner isMethod _ _
  | some called =>
    obtain ⟨x, m⟩ := called
    dsimp only
    rw [recordAt_of_methodCall? file owner inside isMethod,
      recordAt_of_methodCall? file owner s isMethod, hides x]
    cases visible : (binder owner).visible? x place.scopes with
    | some given => simp
    | none => by_cases hidden : x ∈ names <;> simp [hidden]

/-- A choice is walked in one scope, and its block leaves that scope as the condition did. -/
theorem calls_choice (file : String) (owner : Option TypeExpr) (s : Scopes)
    {node condition consequence alternative : RustNode}
    (choice : Choice node condition consequence alternative) :
    (walk file owner s node).2 =
      (walk file owner (s.push []) condition).2 ++
        ((walk file owner (walk file owner (s.push []) condition).1 consequence).2 ++
          (walk file owner (walk file owner (s.push []) condition).1 alternative).2) := by
  have eqRun := (followed file owner).eq_run
  have afterBlock (t : Scopes) : (walk file owner t consequence).1 = t := by
    rw [eqRun, Binder.run_fst, declared_block choice.isBlock]
    rfl
  rw [eqRun, steps_choice choice, Binder.run_singleton, Binder.runStep, Binder.run_append,
    Binder.run_append, ← eqRun, ← eqRun, ← eqRun, afterBlock]

/-- A condition hides the names that it matches and no others. -/
theorem lookup_condition (file : String) (owner : Option TypeExpr) (s : Scopes)
    {condition : RustNode}
    (patterns : ∀ d ∈ declared (routes.steps condition), d.kind = .letCondition) (x : String) :
    (walk file owner s condition).1.lookup x =
      if x ∈ matchedNames condition then none else s.lookup x := by
  have found := lookup_place owner x s [declared (routes.steps condition)]
  rw [Binder.visible?, List.findSome?_singleton, scopeBinding?_matched owner x patterns] at found
  rw [(followed file owner).eq_run, Binder.run_fst]
  refine found.trans ?_
  rw [matchedNames]
  split <;> rfl

/-- What is done otherwise is recorded as it would be in front of the choice, save that calls of the
methods of the names that the condition matches lose the type of their receiver. The language does
not bind these names there. -/
theorem alternatives_forget_matched_names (file : String) (owner : Option TypeExpr) (s : Scopes)
    {node condition consequence alternative : RustNode}
    (choice : Choice node condition consequence alternative) :
    (walk file owner s node).2 =
      (walk file owner (s.push []) condition).2 ++
        ((walk file owner (walk file owner (s.push []) condition).1 consequence).2 ++
          List.zipWith (veiled owner (matchedNames condition)) (placesOf alternative)
            (walk file owner s alternative).2) := by
  have hides (x : String) : (walk file owner (s.push []) condition).1.lookup x =
      if x ∈ matchedNames condition then none else s.lookup x :=
    lookup_condition file owner (s.push []) choice.patterns x
  have otherwise : (walk file owner (walk file owner (s.push []) condition).1 alternative).2 =
      List.zipWith (veiled owner (matchedNames condition)) (placesOf alternative)
        (walk file owner s alternative).2 := by
    rw [calls_walk, calls_walk, List.zipWith_map_right, List.zipWith_self]
    exact List.map_congr_left fun place _ => recordAt_veiled file owner hides place
  rw [calls_choice file owner s choice, otherwise]

/-- The first expression in the body of the function that a Rust file begins with. -/
def firstExpression (source : String) : RustNode :=
  (((rustRoot source).firstNamed?.bind (Node.child? · .body)).bind Node.firstNamed?).getD default

/-- A choice that matches a pattern with the name of a variable, a method of which it calls
otherwise. -/
def matchingSource : String :=
  "fn f()\x7bif let S(x)=g\x7b\x7delse\x7bx.m();y.n()\x7d\x7d"

/-- The parts of that choice. -/
def matchingPart (i : Nat) : RustNode :=
  (firstExpression matchingSource).namedChildren[i]?.getD default

/-- The variables around it. -/
def matchingScopes : Scopes :=
  Scopes.ofRoot [("x", some (.named "T" none)), ("y", some (.named "U" none))]

theorem matching_forgets_receiver :
    Choice (firstExpression matchingSource) (matchingPart 0) (matchingPart 1) (matchingPart 2) ∧
      matchedNames (matchingPart 0) = ["S", "x"] ∧
      ((walk "a.rs" none matchingScopes (matchingPart 2)).2.map CallSite.callee) =
        [.method (some (.named "T" none)) "m", .method (some (.named "U" none)) "n"] ∧
      (List.zipWith (veiled none ["S", "x"]) (placesOf (matchingPart 2))
          (walk "a.rs" none matchingScopes (matchingPart 2)).2).map CallSite.callee =
        [.method none "m", .method (some (.named "U" none)) "n"] ∧
      (walk "a.rs" none matchingScopes (firstExpression matchingSource)).2 =
        (walk "a.rs" none (matchingScopes.push []) (matchingPart 0)).2 ++
          ((walk "a.rs" none (walk "a.rs" none (matchingScopes.push []) (matchingPart 0)).1
              (matchingPart 1)).2 ++
            List.zipWith (veiled none (matchedNames (matchingPart 0))) (placesOf (matchingPart 2))
              (walk "a.rs" none matchingScopes (matchingPart 2)).2) := by
  have shape : (firstExpression matchingSource).kind = .ifExpression ∧
      (firstExpression matchingSource).namedChildren.filter (fun n => n.kind != .comment) =
        [matchingPart 0, matchingPart 1, matchingPart 2] ∧
      (∀ n ∈ (firstExpression matchingSource).namedChildren,
        n.kind = .comment → n.children = []) ∧
      (matchingPart 1).kind = .block ∧
      ∀ d ∈ declared (routes.steps (matchingPart 0)), d.kind = .letCondition := by
    decide +kernel
  have choice : Choice (firstExpression matchingSource) (matchingPart 0) (matchingPart 1)
      (matchingPart 2) := by
    obtain ⟨isChoice, parts, remarks, isBlock, patterns⟩ := shape
    exact ⟨isChoice, parts, remarks, isBlock, patterns⟩
  exact ⟨choice, by decide +kernel, by decide +kernel, by decide +kernel,
    alternatives_forget_matched_names "a.rs" none matchingScopes choice⟩

/-- Functions with a variable of the type `T` that is called in an `else`, also in one that chooses
again, after a condition that matches a pattern with its name. -/
def matchingFiles : List String :=
  ["fn f(x:T)\x7bif let Some(x)=g()\x7b\x7delse\x7bx.m()\x7d\x7d",
    "fn f(x:T)\x7bif let Some(x)=g()\x7b\x7delse if x.m()\x7b\x7d\x7d"]

/-- In each of them the call is not known to be one of a method of `T`. -/
theorem matched_names_reach_alternatives :
    matchingFiles.map (fun source => (ofTree "a.rs" (rustRoot source)).functions.map fun d =>
        d.calls.map CallSite.callee) =
      [[[.function "g", .method none "m"]], [[.function "g", .method none "m"]]] := by
  decide +kernel

/-! ### The parameters of closures -/

/-- What a parameter of a closure binds a name to, if it does. A parameter with a type binds the
name that is its pattern, and no others; a parameter without a type hides all the names in it. -/
def parameterBinding? (owner : Option TypeExpr) (x : String) (p : RustNode) :
    Option (Option TypeExpr) :=
  if p.kind = .parameter then
    if (p.child? .pattern).bind bindingName = some x then
      some ((p.child? .type).map (typeExpr owner))
    else none
  else if x ∈ patternNames p then some none
  else none

theorem foldl_hidden (names : List String) (frame : Frame) :
    names.foldl (fun f name => (name, none) :: f) frame = hiddenFrame names ++ frame := by
  induction names generalizing frame with
  | nil => rfl
  | cons name rest inductionHypothesis =>
    rw [List.foldl_cons, inductionHypothesis, hiddenFrame, hiddenFrame, List.map_cons,
      List.reverse_cons, List.append_assoc]
    rfl

theorem binding?_bindClosureParameter (owner : Option TypeExpr) (x : String) (frame : Frame)
    (p : RustNode) :
    Scopes.binding? (bindClosureParameter owner frame p) x =
      (parameterBinding? owner x p).or (Scopes.binding? frame x) := by
  rw [bindClosureParameter, parameterBinding?]
  split
  next =>
    cases (p.child? .pattern).bind bindingName with
    | none => rfl
    | some name =>
      rw [Scopes.binding?_cons]
      by_cases same : name = x
      · rw [if_pos same, if_pos (congrArg some same)]
        rfl
      · rw [if_neg same, if_neg fun equal => same (Option.some.inj equal)]
        rfl
  next =>
    rw [foldl_hidden, Scopes.binding?_append, binding?_hiddenFrame]

/-- Of the parameters that bind a name the last counts. -/
theorem binding?_closureFrame (owner : Option TypeExpr) (x : String) (list : RustNode) :
    Scopes.binding? (closureFrame owner list) x =
      list.namedChildren.reverse.findSome? (parameterBinding? owner x) := by
  have onFrame (parameters : List RustNode) (frame : Frame) :
      Scopes.binding? (parameters.foldl (bindClosureParameter owner) frame) x =
        (parameters.reverse.findSome? (parameterBinding? owner x)).or
          (Scopes.binding? frame x) := by
    induction parameters generalizing frame with
    | nil => rfl
    | cons p rest inductionHypothesis =>
      rw [List.foldl_cons, inductionHypothesis, binding?_bindClosureParameter, List.reverse_cons,
        List.findSome?_append, List.findSome?_singleton, Option.or_assoc]
  rw [closureFrame, onFrame]
  exact Option.or_none

theorem findSome?_of_last {owner : Option TypeExpr} {x : String} {before after : List RustNode}
    {p : RustNode} {type : Option TypeExpr} (binds : parameterBinding? owner x p = some type)
    (later : ∀ q ∈ after, parameterBinding? owner x q = none) :
    (before ++ p :: after).reverse.findSome? (parameterBinding? owner x) = some type := by
  have none : after.reverse.findSome? (parameterBinding? owner x) = none :=
    List.findSome?_eq_none_iff.2 fun q member => later q (List.mem_reverse.1 member)
  rw [List.reverse_append, List.reverse_cons, List.append_assoc, List.findSome?_append, none,
    Option.none_or, List.singleton_append, List.findSome?_cons, binds]

/-- No scope around the place declares the name before it. -/
def Undeclared (owner : Option TypeExpr) (x : String) (place : CallPlace RustKind) : Prop :=
  ∀ scope ∈ place.scopes, ∀ d ∈ scope, declaredType? owner x d = none

theorem visible?_of_undeclared {owner : Option TypeExpr} {x : String} {place : CallPlace RustKind}
    (undeclared : Undeclared owner x place) : (binder owner).visible? x place.scopes = none := by
  refine Binder.visible?_eq_none fun scope member d inScope => ?_
  dsimp only [binder]
  rw [undeclared scope member d inScope, Option.or_none]

/-- What is recorded of a call in the body of a closure, if it is one of a method of `x`. Around the
closure `x` stands for the type `around`. -/
structure ClosureSeen (file : String) (owner : Option TypeExpr) (x : String)
    (parameters : List RustNode) (around : Option TypeExpr) (place : CallPlace RustKind)
    (site : CallSite) : Prop where
  declared : ∀ m given, methodCall? place.call = some (x, m) →
    (binder owner).visible? x place.scopes = some given →
      site = ⟨.method given m, place.call.span.position file⟩
  annotated : ∀ m before p after, methodCall? place.call = some (x, m) →
    Undeclared owner x place → parameters = before ++ p :: after → p.kind = .parameter →
    (p.child? .pattern).bind bindingName = some x →
    (∀ q ∈ after, parameterBinding? owner x q = none) →
      site = ⟨.method ((p.child? .type).map (typeExpr owner)) m, place.call.span.position file⟩
  plain : ∀ m before p after, methodCall? place.call = some (x, m) →
    Undeclared owner x place → parameters = before ++ p :: after → p.kind ≠ .parameter →
    x ∈ patternNames p → (∀ q ∈ after, parameterBinding? owner x q = none) →
      site = ⟨.method none m, place.call.span.position file⟩
  takenApart : ∀ m before p after, methodCall? place.call = some (x, m) →
    Undeclared owner x place → parameters = before ++ p :: after → p.kind = .parameter →
    (p.child? .pattern).bind bindingName = none →
    (∀ q ∈ before ++ after, parameterBinding? owner x q = none) →
      site = ⟨.method around m, place.call.span.position file⟩

theorem calls_closure (file : String) (owner : Option TypeExpr) (s : Scopes)
    {closure list body : RustNode} (isClosure : closure.kind = .closureExpression)
    (hasParameters : closure.child? .parameters = some list)
    (hasBody : closure.child? .body = some body) :
    (walk file owner s closure).2 =
      (walk file owner (s.push (closureFrame owner list)) body).2 := by
  have taken := route_of_closure isClosure
  have frame : frameOf owner closure = closureFrame owner list := by
    rw [frameOf, hasParameters]
    rfl
  rw [hasBody] at taken
  rw [(followed file owner).snd_of_body taken (by rw [isClosure]; decide),
    declare_closure owner _ isClosure, frame]

/-- In the body of a closure a name stands for what the last parameter that binds it says of its
type, up to a declaration of the name in the body. A parameter without a type hides all its names,
and one with a type hides the name that is its pattern. A pattern that takes a value apart and has
a type hides nothing, though it does in the language: there the name stands for the variable
around. -/
theorem closure_parameters_hide_variables (file : String) (owner : Option TypeExpr) (x : String)
    (s : Scopes) {closure list body : RustNode} (isClosure : closure.kind = .closureExpression)
    (hasParameters : closure.child? .parameters = some list)
    (hasBody : closure.child? .body = some body) :
    List.Forall₂ (ClosureSeen file owner x list.namedChildren (s.lookup x)) (placesOf body)
      (walk file owner s closure).2 := by
  rw [calls_closure file owner s isClosure hasParameters hasBody, calls_walk,
    List.forall₂_map_right_iff, List.forall₂_same]
  intro place _
  have byParameters {m : String} (isMethod : methodCall? place.call = some (x, m))
      (free : Undeclared owner x place) :
      (binder owner).recordAt (callAt file owner) (s.push (closureFrame owner list)) place =
        ⟨.method ((list.namedChildren.reverse.findSome? (parameterBinding? owner x)).getD
          (s.lookup x)) m, place.call.span.position file⟩ := by
    rw [recordAt_of_methodCall? file owner _ isMethod, visible?_of_undeclared free,
      Scopes.lookup_push, binding?_closureFrame]
    rfl
  refine ⟨fun m given isMethod visible => ?_,
    fun m before p after isMethod free parts isParameter isName later => ?_,
    fun m before p after isMethod free parts noParameter isName later => ?_,
    fun m before p after isMethod free parts isParameter apart others => ?_⟩
  · rw [recordAt_of_methodCall? file owner _ isMethod, visible]
    rfl
  · have binds : parameterBinding? owner x p = some ((p.child? .type).map (typeExpr owner)) := by
      rw [parameterBinding?, if_pos isParameter, if_pos isName]
    rw [byParameters isMethod free, parts, findSome?_of_last binds later]
    rfl
  · have binds : parameterBinding? owner x p = some none := by
      rw [parameterBinding?, if_neg noParameter, if_pos isName]
    rw [byParameters isMethod free, parts, findSome?_of_last binds later]
    rfl
  · have skipped : parameterBinding? owner x p = none := by
      rw [parameterBinding?, if_pos isParameter, apart]
      rfl
    have unbound : list.namedChildren.reverse.findSome? (parameterBinding? owner x) = none := by
      refine List.findSome?_eq_none_iff.2 fun q member => ?_
      rw [List.mem_reverse, parts, List.mem_append, List.mem_cons] at member
      rcases member with front | rfl | back
      · exact others q (List.mem_append_left _ front)
      · exact skipped
      · exact others q (List.mem_append_right _ back)
    rw [byParameters isMethod free, unbound]
    rfl

/-- A function with a variable of the type `T` and a closure with the given parameter, which calls a
method of the name of the variable. -/
def closureSource (parameter : String) : String :=
  "fn f(x:T)\x7b|" ++ parameter ++ "|x.m()\x7d"

/-- The closure in that function. -/
def closureOf (parameter : String) : RustNode :=
  firstExpression (closureSource parameter)

/-- A part of that closure. -/
def closurePart (parameter : String) (role : Role) : RustNode :=
  ((closureOf parameter).child? role).getD default

/-- The variable around it. -/
def closureScopes : Scopes :=
  Scopes.ofRoot [("x", some (.named "T" none))]

theorem closureParameters_seen :
    (["mut x:A", "(x,y)", "(x,y):P"].map fun p =>
        (walk "a.rs" none closureScopes (closureOf p)).2.map CallSite.callee) =
      [[.method (some (.named "A" none)) "m"], [.method none "m"],
        [.method (some (.named "T" none)) "m"]] ∧
      ∀ p ∈ ["mut x:A", "(x,y)", "(x,y):P"],
        List.Forall₂ (ClosureSeen "a.rs" none "x" (closurePart p .parameters).namedChildren
            (closureScopes.lookup "x"))
          (placesOf (closurePart p .body)) (walk "a.rs" none closureScopes (closureOf p)).2 := by
  have shapes : ∀ p ∈ ["mut x:A", "(x,y)", "(x,y):P"],
      (closureOf p).kind = .closureExpression ∧
        (closureOf p).child? .parameters = some (closurePart p .parameters) ∧
        (closureOf p).child? .body = some (closurePart p .body) := by
    decide +kernel
  refine ⟨by decide +kernel, fun p member => ?_⟩
  obtain ⟨isClosure, hasParameters, hasBody⟩ := shapes p member
  exact closure_parameters_hide_variables "a.rs" none "x" closureScopes isClosure hasParameters
    hasBody

/-- Patterns with a type in which the name of the variable is bound: a tuple, a struct, a slice and
a name for what matches. In each closure the call is recorded as one of a method of the variable. -/
theorem typed_patterns_hide_nothing :
    (["(x,y):P", "S\x7bx\x7d:S", "[x,y]:A", "x@_:S"].map fun parameter =>
        (ofTree "a.rs" (rustRoot (closureSource parameter))).functions.map fun d =>
          d.calls.map CallSite.callee) =
      [[[.method (some (.named "T" none)) "m"]], [[.method (some (.named "T" none)) "m"]],
        [[.method (some (.named "T" none)) "m"]], [[.method (some (.named "T" none)) "m"]]] := by
  decide +kernel

end Frontend.RustModel

end ParamChain
