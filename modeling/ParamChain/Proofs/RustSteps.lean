import ParamChain.Proofs.RustComments

/-
This file says which bindings a call in a Rust body sees.

The walk of a body is a list of steps, as in any other language. A declaration is a `let`, a
condition that matches a pattern, or the head of a scope: a loop over a pattern, a closure and a
match arm each begin a scope and declare their names in it. Every declaration binds its names anew,
so the last one before a place counts, and this holds of scopes that bind names already. What a call
stands for depends on the scopes only if it is a call of a variable's method, and then only on what
they bind that variable to.
-/

namespace ParamChain.Frontend.RustModel

open ParseTree

/-! ### The calls in a node -/

/-- The calls in a node with the declarations before them, in the scopes from the innermost to that
in which the node stands. -/
def placesOf (node : RustNode) : List (CallPlace RustKind) :=
  places [] [] (routes.steps node)

theorem calls_walk (file : String) (owner : Option TypeExpr) (s : Scopes) (node : RustNode) :
    (walk file owner s node).2 =
      (placesOf node).map ((binder owner).recordAt (callAt file owner) s) := by
  rw [(followed file owner).eq_run]
  exact (binder owner).calls_eq_places (callAt file owner) s (routes.steps node)

theorem lookup_place (owner : Option TypeExpr) (x : String) (s : Scopes)
    (scopes : List (List RustNode)) :
    ((binder owner).replay s scopes).lookup x =
      ((binder owner).visible? x scopes).getD (s.lookup x) :=
  (binder owner).lookup_replay ((overrides_binder owner).extends x s) scopes

/-! ### Calls of the methods of a variable -/

mutual

/-- What is called, less its type arguments. -/
def target? : RustNode → Option RustNode
  | .mk kind role named span text children =>
    if kind = .genericFunction then targetAs? children
    else some (.mk kind role named span text children)

/-- What the first node in the role of a function calls, less its type arguments. -/
def targetAs? : List RustNode → Option RustNode
  | [] => none
  | node :: rest => if node.plays .function then target? node else targetAs? rest

end

mutual

theorem callee_eq_target (owner : Option TypeExpr) (s : Scopes) :
    ∀ node : RustNode,
      callee owner s node = ((target? node).map (calleeStep owner s)).getD .unresolved
  | .mk kind role named span text children => by
    rw [target?]
    split
    next isGeneric =>
      subst isGeneric
      rw [callee, calleeAs_eq_target owner s children]
    next => exact callee_eq owner s _

theorem calleeAs_eq_target (owner : Option TypeExpr) (s : Scopes) :
    ∀ nodes : List RustNode,
      calleeAs owner s nodes = ((targetAs? nodes).map (calleeStep owner s)).getD .unresolved
  | [] => rfl
  | node :: rest => by
    rw [calleeAs, targetAs?]
    split
    · exact callee_eq_target owner s node
    · exact calleeAs_eq_target owner s rest

end

mutual

theorem kind_of_target? :
    ∀ {node target : RustNode}, target? node = some target → target.kind ≠ .genericFunction
  | .mk kind role named span text children, target, found => by
    rw [target?] at found
    split at found
    next => exact kind_of_targetAs? found
    next notGeneric =>
      rw [← Option.some.inj found]
      exact notGeneric

theorem kind_of_targetAs? :
    ∀ {nodes : List RustNode} {target : RustNode},
      targetAs? nodes = some target → target.kind ≠ .genericFunction
  | node :: rest, target, found => by
    rw [targetAs?] at found
    split at found
    · exact kind_of_target? found
    · exact kind_of_targetAs? found

end

/-- The variable and the method, if what is called is a method of a variable. -/
def variableMethod? (function : RustNode) : Option (String × String) := do
  let selector ← function.child? .selector
  let value ← function.child? .value
  if function.kind = .fieldExpression ∧ value.kind = .identifier ∧ value.text ≠ "self" then
    some (value.text, selector.text)
  else none

/-- The variable and the method, if the call is one of a variable's method. -/
def methodCall? (call : RustNode) : Option (String × String) :=
  (targetAs? call.children).bind variableMethod?

theorem calleeStep_of_variableMethod? (owner : Option TypeExpr) {function : RustNode}
    {x m : String} (isMethod : variableMethod? function = some (x, m)) (s : Scopes) :
    calleeStep owner s function = .method (s.lookup x) m := by
  simp only [variableMethod?, Option.bind_eq_bind, Option.bind_eq_some_iff] at isMethod
  obtain ⟨selector, isSelector, value, isValue, parts⟩ := isMethod
  split at parts
  next kinds =>
    obtain ⟨rfl, rfl⟩ := Prod.mk.inj (Option.some.inj parts)
    rw [calleeStep, kinds.1]
    dsimp only
    rw [isSelector, isValue, Option.bind_some, receiverType, if_neg kinds.2.2, if_pos kinds.2.1]
    rfl
  next => cases parts

/-- What is called depends on the scopes in calls of a variable's method alone. -/
theorem calleeStep_of_no_variable (owner : Option TypeExpr) {function : RustNode}
    (plain : function.kind ≠ .genericFunction) (noMethod : variableMethod? function = none)
    (s t : Scopes) : calleeStep owner s function = calleeStep owner t function := by
  rw [calleeStep, calleeStep]
  cases kindIs : function.kind
  case genericFunction => exact absurd kindIs plain
  case fieldExpression =>
    dsimp only
    cases selected : function.child? .selector with
    | none => rfl
    | some selector =>
      cases given : function.child? .value with
      | none => rfl
      | some value =>
        rw [Option.bind_some, Option.bind_some, receiverType, receiverType]
        by_cases isSelf : value.text = "self"
        · rw [if_pos isSelf, if_pos isSelf]
        · have noName : value.kind ≠ .identifier := by
            simpa [variableMethod?, selected, given, kindIs, isSelf] using noMethod
          rw [if_neg isSelf, if_neg isSelf, if_neg noName, if_neg noName]
  all_goals rfl

theorem callAt_of_methodCall? (file : String) (owner : Option TypeExpr) {call : RustNode}
    {x m : String} (isMethod : methodCall? call = some (x, m)) (s : Scopes) :
    callAt file owner call s = ⟨.method (s.lookup x) m, call.span.position file⟩ := by
  obtain ⟨target, found, isVariable⟩ := Option.bind_eq_some_iff.1 isMethod
  rw [callAt, calleeAs_eq_target, found, Option.map_some, Option.getD_some,
    calleeStep_of_variableMethod? owner isVariable]

theorem callAt_of_no_method (file : String) (owner : Option TypeExpr) {call : RustNode}
    (noMethod : methodCall? call = none) (s t : Scopes) :
    callAt file owner call s = callAt file owner call t := by
  rw [callAt, callAt, calleeAs_eq_target, calleeAs_eq_target]
  cases found : targetAs? call.children with
  | none => rfl
  | some target =>
    rw [methodCall?, found] at noMethod
    rw [Option.map_some, Option.map_some,
      calleeStep_of_no_variable owner (kind_of_targetAs? found) noMethod s t]

/-- A call of a variable's method is recorded with what the declarations before it bind the variable
to, and if they do not bind it, with what it stands for around. -/
theorem recordAt_of_methodCall? (file : String) (owner : Option TypeExpr) (s : Scopes)
    {place : CallPlace RustKind} {x m : String} (isMethod : methodCall? place.call = some (x, m)) :
    (binder owner).recordAt (callAt file owner) s place =
      ⟨.method (((binder owner).visible? x place.scopes).getD (s.lookup x)) m,
        place.call.span.position file⟩ := by
  rw [Binder.recordAt, callAt_of_methodCall? file owner isMethod, lookup_place]

end ParamChain.Frontend.RustModel
