import ParamChain.Proofs.WalkRoutes

/-
This file proves that a walk leaves the scopes as it found them, but for names that it bound in the
innermost one.

Whatever a walk does inside a scope that it opened, it closes that scope again, and what it did
there went into the frame that is gone. So a node that opens a scope leaves no trace at all, and any
other node can only add to the frame that was innermost when the walk came to it. The frame on top
at a closing is always one that the walk itself put there: a walk that fails where it would close
the root frame never fails.
-/

namespace ParamChain

open ParseTree

namespace ParseTree

variable {κ : Type}

/-! ### Steps that would close the root frame -/

namespace Binder

variable (b : Binder κ) (record : Node κ → Scopes → CallSite)

mutual

/-- The scopes after a step, if it does not close the root frame. -/
def scopesAfterStep? (s : Scopes) : Step κ → Option Scopes
  | .call _ => some s
  | .declare node => some (b.declare node s)
  | .scope steps => (scopesAfter? (s.push []) steps).bind Scopes.close?

/-- The scopes after steps that fail where they would close the root frame. -/
def scopesAfter? (s : Scopes) : List (Step κ) → Option Scopes
  | [] => some s
  | step :: rest => (scopesAfterStep? s step).bind fun after => scopesAfter? after rest

end

mutual

theorem scopesAfterStep?_eq (s : Scopes) :
    ∀ step : Step κ, b.scopesAfterStep? s step = some (b.runStep record s step).1
  | .call _ => rfl
  | .declare _ => rfl
  | .scope steps => by
    rw [scopesAfterStep?, scopesAfter?_eq (s.push []) steps]
    exact (b.keeps_run record (s.push []) steps).close?_eq

/-- Steps close only scopes that they opened, so they never fail. -/
theorem scopesAfter?_eq (s : Scopes) :
    ∀ steps : List (Step κ), b.scopesAfter? s steps = some (b.run record s steps).1
  | [] => rfl
  | step :: rest => by
    rw [scopesAfter?, scopesAfterStep?_eq s step]
    exact scopesAfter?_eq _ rest

end

end Binder

/-! ### Walks along routes -/

namespace Routes

variable [DecidableEq κ] {r : Routes κ} {b : Binder κ} {record : Node κ → Scopes → CallSite}
  {walk : Scopes → Node κ → Scopes × List CallSite} (followed : r.Followed b record walk)

include followed

theorem Followed.keeps (s : Scopes) (node : Node κ) : s.Keeps (walk s node).1 := by
  rw [followed.eq_run]
  exact b.keeps_run record s (r.steps node)

theorem Followed.scopesAfter?_eq (s : Scopes) (node : Node κ) :
    b.scopesAfter? s (r.steps node) = some (walk s node).1 := by
  rw [followed.eq_run]
  exact b.scopesAfter?_eq record s (r.steps node)

theorem Followed.keeps_walkAll (s : Scopes) (nodes : List (Node κ)) :
    s.Keeps (walkAll walk s nodes).1 := by
  rw [r.walkAll_eq_run b record fun n _ => followed.eq_run n]
  exact b.keeps_run record s _

/-- A node that opens a scope leaves the scopes as the walk of the parts ahead leaves them. -/
theorem Followed.fst_of_opens {node : Node κ} (opens : (r.route node).opens = true) (s : Scopes) :
    (walk s node).1 = (walkAll walk s (r.route node).ahead).1 := by
  have inside (around : Scopes) : (around.push []).Keeps
      (walkAll walk (if (r.route node).declares then b.declare node (around.push [])
        else around.push []) (r.route node).within).1 := by
    refine .trans ?_ (followed.keeps_walkAll _ _)
    split
    · exact b.keeps node _
    · exact .refl _
  rw [followed, walkAlong]
  simp only [opens, if_true]
  exact (inside _).pop_eq

end Routes

end ParseTree

/-! ### Both walks -/

namespace Frontend

/-- A node with a scope of its own has no parts ahead of it. -/
theorem GoModel.route_of_opens {node : GoNode}
    (opens : node.kind.opensScope ∨ node.kind = .functionLiteral) :
    (routes.route node).opens = true ∧ (routes.route node).ahead = [] := by
  rcases opens with opens | isLiteral
  · rw [route_of_opensScope opens]
    exact ⟨rfl, rfl⟩
  · rw [route_of_functionLiteral isLiteral]
    exact ⟨rfl, rfl⟩

theorem RustModel.route_of_opens {node : RustNode}
    (opens : node.kind.opensScope ∨ node.kind = .closureExpression) :
    (routes.route node).opens = true ∧ (routes.route node).ahead = [] := by
  rcases opens with opens | isClosure
  · by_cases isArm : node.kind = .matchArm
    · dsimp only [routes, route]
      rw [isArm]
      exact ⟨rfl, rfl⟩
    · rw [route_of_opensScope opens isArm]
      exact ⟨rfl, rfl⟩
  · rw [route_of_closure isClosure]
    exact ⟨rfl, rfl⟩

theorem RustModel.route_of_loop {node : RustNode} (loops : node.kind = .forExpression) :
    (routes.route node).opens = true ∧
      (routes.route node).ahead = (node.child? .value).toList := by
  dsimp only [routes, route]
  rw [loops]
  exact ⟨rfl, rfl⟩

/-- Walking any node keeps the scopes around it. A node that opens a scope leaves them exactly as
they were, a loop as the walk of its value leaves them. A walk goes through the steps of its node,
and these never close the root frame. -/
theorem walks_keep_scopes (file : String) (s : Scopes) :
    (∀ node : GoNode,
      let after := (GoModel.walk file s node).1
      after.frames.length = s.frames.length ∧ s.Keeps after ∧
        (node.kind.opensScope ∨ node.kind = .functionLiteral → after = s) ∧
        GoModel.walk file s node =
          GoModel.binder.run (GoModel.callAt file) s (GoModel.routes.steps node) ∧
        GoModel.binder.scopesAfter? s (GoModel.routes.steps node) = some after) ∧
      ∀ (owner : Option TypeExpr) (node : RustNode),
        let after := (RustModel.walk file owner s node).1
        after.frames.length = s.frames.length ∧ s.Keeps after ∧
          (node.kind.opensScope ∨ node.kind = .closureExpression → after = s) ∧
          (node.kind = .forExpression → after =
            (node.child? .value).elim s fun value => (RustModel.walk file owner s value).1) ∧
          RustModel.walk file owner s node =
            (RustModel.binder owner).run (RustModel.callAt file owner) s
              (RustModel.routes.steps node) ∧
          (RustModel.binder owner).scopesAfter? s (RustModel.routes.steps node) = some after := by
  constructor
  · intro node
    have followed := GoModel.followed file
    have keeps := followed.keeps s node
    refine ⟨keeps.length_frames, keeps, fun opens => ?_, followed.eq_run node s,
      followed.scopesAfter?_eq s node⟩
    obtain ⟨isOpened, noneAhead⟩ := GoModel.route_of_opens opens
    rw [followed.fst_of_opens isOpened, noneAhead, walkAll]
  · intro owner node
    have followed := RustModel.followed file owner
    have keeps := followed.keeps s node
    refine ⟨keeps.length_frames, keeps, fun opens => ?_, fun loops => ?_, followed.eq_run node s,
      followed.scopesAfter?_eq s node⟩
    · obtain ⟨isOpened, noneAhead⟩ := RustModel.route_of_opens opens
      rw [followed.fst_of_opens isOpened, noneAhead, walkAll]
    · obtain ⟨isOpened, valueAhead⟩ := RustModel.route_of_loop loops
      rw [followed.fst_of_opens isOpened, valueAhead]
      cases node.child? .value <;> rfl

/-- The literal `func(box Crate) { box := 1 }`. -/
def boxLiteral : GoNode :=
  let leaf (kind : GoKind) (role : Option Role) (text : String) : GoNode :=
    .mk kind role true default text []
  let node (kind : GoKind) (role : Option Role) (children : List GoNode) : GoNode :=
    .mk kind role true default "" children
  node .functionLiteral none
    [node .other (some .parameters) [node .parameterDeclaration none
      [leaf .identifier (some .name) "box", leaf .typeIdentifier (some .type) "Crate"]],
    node .block (some .body) [node .shortVarDeclaration none
      [node .other (some .left) [leaf .identifier none "box"],
      node .other (some .right) [leaf .other none "1"]]]]

/-- The declaration `let box: Crate = next();`. -/
def boxDeclaration : RustNode :=
  let leaf (kind : RustKind) (role : Role) (text : String) : RustNode :=
    .mk kind (some role) true default text []
  .mk .letDeclaration none true default "let box: Crate = next();"
    [leaf .identifier .pattern "box", leaf .typeIdentifier .type "Crate",
    .mk .callExpression (some .value) true default "next()" [leaf .identifier .function "next"]]

/-- The loop `for box in stock { let box: Crate = next(); }`. -/
def boxLoop : RustNode :=
  let leaf (kind : RustKind) (role : Role) (text : String) : RustNode :=
    .mk kind (some role) true default text []
  .mk .forExpression none true default "for box in stock { let box: Crate = next(); }"
    [leaf .identifier .pattern "box", leaf .identifier .value "stock",
    .mk .block (some .body) true default "{ let box: Crate = next(); }" [boxDeclaration]]

/-- What a literal or a loop binds is gone with it, though the declaration inside the loop would
by itself change the root frame. -/
theorem box_forgotten :
    let s := Scopes.ofRoot [("box", none)]
    s.close? = none ∧ (GoModel.walk "box.go" s boxLiteral).1 = s ∧
      (RustModel.walk "box.rs" none s boxDeclaration).1 =
        s.bind "box" (some (.named "Crate" none)) ∧
      (RustModel.walk "box.rs" none s boxLoop).1 = s := by
  intro s
  refine ⟨by decide, ?_, by decide +kernel, ?_⟩
  · exact ((walks_keep_scopes "box.go" s).1 boxLiteral).2.2.1 (.inr rfl)
  · exact ((walks_keep_scopes "box.rs" s).2 none boxLoop).2.2.2.1 rfl

end Frontend

end ParamChain
