import ParamChain.ParseTree.Node
import ParamChain.ParseTree.Scopes

/-
This file says which bindings a call sees, without following the walk.

What a walk does can be written down as a list of steps that does not depend on the scopes: it comes
to a call, it binds the names of a declaration, or it goes through the steps of a scope of its own.
From that list one reads off, for every call, the scopes it stands in and the declarations that come
before it in each of them. A call sees the bindings that these declarations make, in their order,
and no others: what was declared in a scope that is closed, or comes later, has no part in it.

A declaration binds names in the innermost scope and changes nothing else. So whatever is done
inside a scope is gone when it is closed, and the scopes around it are kept.
-/

namespace ParamChain.ParseTree

/-! ### Scopes that are kept -/

namespace Scopes

/-- The scopes afterwards are those before, save that the innermost may bind more names. -/
structure Keeps (before after : Scopes) : Prop where
  outer : after.outer = before.outer
  bound : ∀ name, before.isBoundHere name → after.isBoundHere name

theorem Keeps.refl (s : Scopes) : s.Keeps s :=
  ⟨rfl, fun _ here => here⟩

theorem Keeps.trans {s t u : Scopes} (first : s.Keeps t) (second : t.Keeps u) : s.Keeps u :=
  ⟨second.outer.trans first.outer, fun name here => second.bound name (first.bound name here)⟩

/-- As many scopes are open afterwards as before. -/
theorem Keeps.length_frames {s t : Scopes} (keeps : s.Keeps t) :
    t.frames.length = s.frames.length := by
  rw [frames, frames, List.length_cons, List.length_cons, keeps.outer]

theorem isBoundHere_iff {s : Scopes} {name : String} :
    s.isBoundHere name ↔ ∃ type, (name, type) ∈ s.inner := by
  simp [isBoundHere, binding?]

/-- Bindings that are put in front of those of the innermost scope hide them, but take none away. -/
theorem keeps_prepend (s : Scopes) (frame : Frame) : s.Keeps ⟨frame ++ s.inner, s.outer⟩ := by
  refine ⟨rfl, fun name here => ?_⟩
  obtain ⟨type, member⟩ := isBoundHere_iff.1 here
  exact isBoundHere_iff.2 ⟨type, List.mem_append_right _ member⟩

theorem keeps_bind (s : Scopes) (name : String) (type : Option TypeExpr) :
    s.Keeps (s.bind name type) :=
  keeps_prepend s [(name, type)]

theorem keeps_foldl {Item : Type} {step : Scopes → Item → Scopes}
    (each : ∀ (s : Scopes) item, s.Keeps (step s item)) (items : List Item) (s : Scopes) :
    s.Keeps (items.foldl step s) := by
  induction items generalizing s with
  | nil => exact .refl s
  | cons item rest inductionHypothesis => exact (each s item).trans (inductionHypothesis _)

/-- Close the innermost scope where there are two at least. -/
def close? (s : Scopes) : Option Scopes :=
  if 2 ≤ s.frames.length then some s.pop else none

variable {s inside : Scopes} {frame : Frame}

/-- Closing a scope after anything that keeps it undoes the opening. -/
theorem Keeps.pop_eq (keeps : (s.push frame).Keeps inside) : inside.pop = s := by
  rw [pop, keeps.outer]
  rfl

/-- A scope that was opened and kept can be closed, as it is not the root frame. -/
theorem Keeps.close?_eq (keeps : (s.push frame).Keeps inside) :
    inside.close? = some inside.pop := by
  have two : 2 ≤ inside.frames.length := by
    rw [keeps.length_frames]
    exact Nat.le_add_left 2 s.outer.length
  rw [close?, if_pos two]

/-! ### Frames -/

/-- Of two frames in a row the first counts where it binds the name. -/
theorem binding?_append (first second : Frame) (x : String) :
    binding? (first ++ second) x = (binding? first x).or (binding? second x) := by
  rw [binding?, List.find?_append, Option.map_or]
  rfl

theorem binding?_cons (x name : String) (type : Option TypeExpr) (frame : Frame) :
    binding? ((name, type) :: frame) x =
      if name = x then some type else binding? frame x := by
  rw [binding?, List.find?_cons]
  by_cases same : name = x
  · rw [if_pos same, beq_iff_eq.2 same]
    rfl
  · rw [if_neg same, beq_false_of_ne same]
    rfl

/-- A name stands for what the new scope binds it to, and else for what it stood for around. -/
theorem lookup_push (s : Scopes) (frame : Frame) (x : String) :
    (s.push frame).lookup x = (binding? frame x).getD (s.lookup x) := by
  rw [lookup, push, frames, List.findSome?_cons]
  cases binding? frame x <;> rfl

theorem foldl_bind (type : Option TypeExpr) (names : List String) (s : Scopes) :
    names.foldl (fun s name => s.bind name type) s =
      ⟨(names.map fun name => (name, type)).reverse ++ s.inner, s.outer⟩ := by
  induction names generalizing s with
  | nil => rfl
  | cons name rest inductionHypothesis =>
    rw [List.foldl_cons, inductionHypothesis, List.map_cons, List.reverse_cons, List.append_assoc]
    rfl

end Scopes

variable {κ : Type}

/-! ### Steps -/

/-- What a walk does: it comes to a call, it binds the names of a declaration, or it goes through
the steps of a scope. -/
inductive Step (κ : Type) where
  | call (node : Node κ)
  | declare (node : Node κ)
  | scope (steps : List (Step κ))

/-- The declaration that a step makes in the scope it stands in. -/
def Step.declaration? : Step κ → Option (Node κ)
  | .declare node => some node
  | _ => none

/-- The declarations that steps make in the scope they stand in. -/
def declared (steps : List (Step κ)) : List (Node κ) :=
  steps.filterMap Step.declaration?

theorem declared_cons (step : Step κ) (rest : List (Step κ)) :
    declared (step :: rest) = step.declaration?.toList ++ declared rest := by
  rw [declared, declared, List.filterMap_cons]
  cases step.declaration? <;> rfl

/-- A call with the scopes around it, from the inside out, each with the declarations made in it
before the call. The outermost is the scope in which the steps begin. -/
structure CallPlace (κ : Type) where
  call : Node κ
  scopes : List (List (Node κ))

mutual

/-- The calls in a step that follows the declarations `here`, in a scope inside the scopes
`outer`. -/
def Step.places (here : List (Node κ)) (outer : List (List (Node κ))) : Step κ → List (CallPlace κ)
  | .call node => [⟨node, here :: outer⟩]
  | .declare _ => []
  | .scope steps => places [] (here :: outer) steps

/-- The calls in steps that follow the declarations `here`, in a scope inside the scopes `outer`. -/
def places (here : List (Node κ)) (outer : List (List (Node κ))) :
    List (Step κ) → List (CallPlace κ)
  | [] => []
  | step :: rest => step.places here outer ++ places (here ++ step.declaration?.toList) outer rest

end

/-- What declarations do to the innermost scope: the scopes after a declaration, and what a name is
bound to after it from what it was bound to before. -/
structure Binder (κ : Type) where
  declare : Node κ → Scopes → Scopes
  binds : String → Node κ → Option (Option TypeExpr) → Option (Option TypeExpr)
  keeps : ∀ (node : Node κ) (s : Scopes), s.Keeps (declare node s)
  binding : ∀ (x : String) (node : Node κ) (s : Scopes),
    Scopes.binding? (declare node s).inner x = binds x node (Scopes.binding? s.inner x)

namespace Binder

variable (b : Binder κ) (record : Node κ → Scopes → CallSite)

mutual

/-- The scopes after a step and the calls recorded in it. -/
def runStep (s : Scopes) : Step κ → Scopes × List CallSite
  | .call node => (s, [record node s])
  | .declare node => (b.declare node s, [])
  | .scope steps =>
    let (inside, calls) := run (s.push []) steps
    (inside.pop, calls)

/-- The scopes after steps and the calls recorded in them. -/
def run (s : Scopes) : List (Step κ) → Scopes × List CallSite
  | [] => (s, [])
  | step :: rest =>
    let (after, calls) := runStep s step
    let (last, more) := run after rest
    (last, calls ++ more)

end

/-- Steps are gone through in the scopes that those before them leave. -/
theorem run_append (s : Scopes) (first second : List (Step κ)) :
    b.run record s (first ++ second) =
      ((b.run record (b.run record s first).1 second).1,
        (b.run record s first).2 ++ (b.run record (b.run record s first).1 second).2) := by
  induction first generalizing s with
  | nil => rfl
  | cons step rest inductionHypothesis =>
    simp only [List.cons_append, run, inductionHypothesis, List.append_assoc]

theorem run_singleton (s : Scopes) (step : Step κ) :
    b.run record s [step] = b.runStep record s step := by
  simp only [run, List.append_nil]

/-! ### The scopes at a place -/

/-- The scopes after declarations in the innermost one. -/
def declareAll (s : Scopes) (nodes : List (Node κ)) : Scopes :=
  nodes.foldl (fun s node => b.declare node s) s

theorem declareAll_append (s : Scopes) (first second : List (Node κ)) :
    b.declareAll s (first ++ second) = b.declareAll (b.declareAll s first) second :=
  List.foldl_append

theorem keeps_declareAll (s : Scopes) (nodes : List (Node κ)) :
    s.Keeps (b.declareAll s nodes) :=
  Scopes.keeps_foldl (fun s node => b.keeps node s) nodes s

/-- The scopes at a place: each scope around it is opened, from the outside in, and what is declared
in it before the place is bound. The outermost is open already. -/
def replay (s : Scopes) : List (List (Node κ)) → Scopes
  | [] => s
  | [base] => b.declareAll s base
  | here :: next :: rest => b.declareAll ((replay s (next :: rest)).push []) here

/-- What is declared last in the innermost scope is bound last. -/
theorem replay_append (s : Scopes) (here more : List (Node κ)) (outer : List (List (Node κ))) :
    b.replay s ((here ++ more) :: outer) = b.declareAll (b.replay s (here :: outer)) more := by
  cases outer with
  | nil => exact b.declareAll_append s here more
  | cons next rest => exact b.declareAll_append _ here more

theorem replay_nil_cons (s : Scopes) (next : List (Node κ)) (rest : List (List (Node κ))) :
    b.replay s ([] :: next :: rest) = (b.replay s (next :: rest)).push [] := rfl

/-- Closing the innermost scope leaves those around it as they were. -/
theorem pop_replay (s : Scopes) (here next : List (Node κ)) (rest : List (List (Node κ))) :
    (b.replay s (here :: next :: rest)).pop = b.replay s (next :: rest) :=
  (b.keeps_declareAll _ here).pop_eq

/-- The call that is recorded at a place. -/
def recordAt (s : Scopes) (place : CallPlace κ) : CallSite :=
  record place.call (b.replay s place.scopes)

mutual

/-- One step adds its declaration to those before it, and records its calls with the scopes that are
open there. -/
theorem runStep_replay (s : Scopes) (here : List (Node κ)) (outer : List (List (Node κ))) :
    ∀ step : Step κ, b.runStep record (b.replay s (here :: outer)) step =
      (b.replay s ((here ++ step.declaration?.toList) :: outer),
        (step.places here outer).map (b.recordAt record s))
  | .call node => by
    have unchanged : here ++ (Step.call node).declaration?.toList = here := List.append_nil here
    rw [runStep, Step.places, unchanged]
    rfl
  | .declare node => by
    rw [runStep, Step.places, replay_append]
    rfl
  | .scope steps => by
    have unchanged : here ++ (Step.scope steps).declaration?.toList = here := List.append_nil here
    rw [runStep, Step.places, unchanged, ← replay_nil_cons, run_replay s [] (here :: outer) steps]
    exact Prod.ext (b.pop_replay s _ here outer) rfl

/-- Steps that follow any declarations add their own to these, and record each call with the scopes
that are open there. -/
theorem run_replay (s : Scopes) (here : List (Node κ)) (outer : List (List (Node κ))) :
    ∀ steps : List (Step κ), b.run record (b.replay s (here :: outer)) steps =
      (b.replay s ((here ++ declared steps) :: outer),
        (places here outer steps).map (b.recordAt record s))
  | [] => by
    rw [run, declared, List.filterMap_nil, List.append_nil, places, List.map_nil]
  | step :: rest => by
    simp only [run, runStep_replay s here outer step, run_replay s _ outer rest, places,
      declared_cons, List.map_append, List.append_assoc]

end

/-- Every call is recorded with the bindings of the declarations before it in the scopes around
it. -/
theorem calls_eq_places (s : Scopes) (steps : List (Step κ)) :
    (b.run record s steps).2 = (places [] [] steps).map (b.recordAt record s) :=
  congrArg Prod.snd (b.run_replay record s [] [] steps)

/-- Once the steps are done, what they declared outside scopes of their own is bound. -/
theorem run_fst (s : Scopes) (steps : List (Step κ)) :
    (b.run record s steps).1 = b.declareAll s (declared steps) :=
  congrArg Prod.fst (b.run_replay record s [] [] steps)

/-- Steps keep the scopes that they begin in. -/
theorem keeps_run (s : Scopes) (steps : List (Step κ)) :
    s.Keeps (b.run record s steps).1 := by
  rw [run_fst]
  exact b.keeps_declareAll s (declared steps)

/-! ### What a name stands for at a place -/

/-- What the declarations of one scope bind a name to, if they do. -/
def scopeBinding? (x : String) (nodes : List (Node κ)) : Option (Option TypeExpr) :=
  nodes.foldl (fun bound node => b.binds x node bound) none

/-- What a name is bound to in scopes that are given from the inside out: the innermost that binds
it counts, whether or not its type is known there. -/
def visible? (x : String) (scopes : List (List (Node κ))) : Option (Option TypeExpr) :=
  scopes.findSome? (b.scopeBinding? x)

/-- What a name is bound to after declarations is found by going through them. -/
theorem binding?_declareAll (x : String) (s : Scopes) (nodes : List (Node κ)) :
    Scopes.binding? (b.declareAll s nodes).inner x =
      nodes.foldl (fun bound node => b.binds x node bound) (Scopes.binding? s.inner x) := by
  induction nodes generalizing s with
  | nil => rfl
  | cons node rest inductionHypothesis =>
    rw [List.foldl_cons, ← b.binding x node s]
    exact inductionHypothesis (b.declare node s)

theorem scopeBinding?_append (x : String) (first second : List (Node κ)) :
    b.scopeBinding? x (first ++ second) =
      second.foldl (fun bound node => b.binds x node bound) (b.scopeBinding? x first) :=
  List.foldl_append

theorem foldl_binds_eq {b : Binder κ} {x : String} {bound : Option (Option TypeExpr)}
    {nodes : List (Node κ)} (unchanged : ∀ n ∈ nodes, b.binds x n bound = bound) :
    nodes.foldl (fun bound node => b.binds x node bound) bound = bound := by
  induction nodes with
  | nil => rfl
  | cons node rest inductionHypothesis =>
    rw [List.foldl_cons, unchanged node List.mem_cons_self]
    exact inductionHypothesis fun n member => unchanged n (List.mem_cons_of_mem _ member)

/-- Nothing is seen of a name that no scope declares. -/
theorem visible?_eq_none {b : Binder κ} {x : String} {scopes : List (List (Node κ))}
    (undeclared : ∀ scope ∈ scopes, ∀ n ∈ scope, b.binds x n none = none) :
    b.visible? x scopes = none := by
  rw [visible?, List.findSome?_eq_none_iff]
  exact fun scope member => foldl_binds_eq (undeclared scope member)

/-- Whatever is declared in the scope, what it binds the name to already comes after the
declarations of the name. -/
def Extends (x : String) (s : Scopes) : Prop :=
  ∀ nodes : List (Node κ), nodes.foldl (fun bound node => b.binds x node bound)
    (Scopes.binding? s.inner x) = (b.scopeBinding? x nodes).or (Scopes.binding? s.inner x)

theorem extends_of_fresh {x : String} {s : Scopes} (fresh : Scopes.binding? s.inner x = none) :
    b.Extends x s := by
  intro nodes
  rw [fresh, Option.or_none, scopeBinding?]

/-- A declaration of a name binds it anew, whatever it is bound to. -/
def Overrides : Prop :=
  ∀ x node bound, b.binds x node bound = (b.binds x node none).or bound

/-- Where every declaration binds anew, what was bound before counts only if nothing is declared. -/
theorem Overrides.foldl_binds {b : Binder κ} (overrides : b.Overrides) (x : String)
    (nodes : List (Node κ)) (bound : Option (Option TypeExpr)) :
    nodes.foldl (fun bound node => b.binds x node bound) bound =
      (b.scopeBinding? x nodes).or bound := by
  induction nodes generalizing bound with
  | nil => rfl
  | cons node rest inductionHypothesis =>
    have first : b.scopeBinding? x (node :: rest) =
        (b.scopeBinding? x rest).or (b.binds x node none) := inductionHypothesis _
    rw [List.foldl_cons, inductionHypothesis, overrides x node bound, first, Option.or_assoc]

theorem Overrides.extends {b : Binder κ} (overrides : b.Overrides) (x : String) (s : Scopes) :
    b.Extends x s :=
  fun nodes => overrides.foldl_binds x nodes (Scopes.binding? s.inner x)

theorem findSome?_declareAll {x : String} {s : Scopes} (extended : b.Extends x s)
    (nodes : List (Node κ)) :
    (b.declareAll s nodes).frames.findSome? (Scopes.binding? · x) =
      (b.scopeBinding? x nodes).or (s.frames.findSome? (Scopes.binding? · x)) := by
  rw [Scopes.frames, Scopes.frames, List.findSome?_cons, List.findSome?_cons,
    b.binding?_declareAll x s nodes, extended nodes, (b.keeps_declareAll s nodes).outer]
  cases b.scopeBinding? x nodes <;> rfl

/-- The innermost binding of a name is one of those declared around the place, or the one it had
before. -/
theorem findSome?_replay {x : String} {s : Scopes} (extended : b.Extends x s)
    (scopes : List (List (Node κ))) :
    (b.replay s scopes).frames.findSome? (Scopes.binding? · x) =
      (b.visible? x scopes).or (s.frames.findSome? (Scopes.binding? · x)) := by
  induction scopes with
  | nil => rfl
  | cons here outer inductionHypothesis =>
    rw [visible?, List.findSome?_cons]
    cases outer with
    | nil =>
      rw [replay, b.findSome?_declareAll extended here, List.findSome?_nil]
      cases b.scopeBinding? x here <;> rfl
    | cons next rest =>
      have opened : ((b.replay s (next :: rest)).push []).frames.findSome? (Scopes.binding? · x) =
          (b.replay s (next :: rest)).frames.findSome? (Scopes.binding? · x) := rfl
      rw [replay, b.findSome?_declareAll (b.extends_of_fresh rfl) here, opened,
        inductionHypothesis, visible?]
      cases b.scopeBinding? x here <;> rfl

/-- A name stands for what the declarations around the place bind it to, and if they do not, for
what it stands for where the steps begin. -/
theorem lookup_replay {x : String} {s : Scopes} (extended : b.Extends x s)
    (scopes : List (List (Node κ))) :
    (b.replay s scopes).lookup x = (b.visible? x scopes).getD (s.lookup x) := by
  rw [Scopes.lookup, Scopes.lookup, b.findSome?_replay extended]
  cases b.visible? x scopes <;> rfl

end Binder

end ParamChain.ParseTree
