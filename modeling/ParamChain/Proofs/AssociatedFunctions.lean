import Mathlib.Data.List.Forall2
import ParamChain.Proofs.CommentPlaces
import ParamChain.Proofs.KeyIdentity
import ParamChain.Proofs.RustSteps

/-
This file compares the keys of the functions in an implementation of a Rust type with the keys of
the calls that name the type in front of the function.

The type is read twice, in two kinds of nodes. In front of an implementation it is a type, and its
path and its arguments are dropped. In front of a called function it is a path, of which the last
name counts. So the two keys agree as long as the path is made of names: the type alone or behind
any path. A path that ends with type arguments is not taken apart. Its whole text stands in the
place of the name of the type, or, if it does not begin like one, the call is taken for that of a
function of a module; either way it has another key than the declaration.
-/

namespace ParamChain

open ParseTree Chain

namespace Frontend.RustModel

/-! ### The type in front of an implementation -/

/-- The node is the type `T`: its name alone, behind a path, or with arguments after it. -/
inductive NamesType (T : String) : RustNode → Prop where
  | plain {node : RustNode} : node.kind = .typeIdentifier → node.text = T → NamesType T node
  | inModule {node name : RustNode} : node.kind = .scopedTypeIdentifier →
      node.child? .name = some name → name.text = T → NamesType T node
  | applied {node base : RustNode} : node.kind = .genericType → node.child? .type = some base →
      NamesType T base → NamesType T node

theorem applied_of_solid {T : String} (solid : T ∉ seeThrough) (qualifier : Option String)
    (argument : Option TypeExpr) : applied (.named T qualifier) argument = .named T qualifier := by
  cases argument with
  | none => rfl
  | some inner => exact if_neg fun contained => solid (List.contains_iff_mem.1 contained)

/-- A type that is not looked through is known by its name, however it is written. -/
theorem typeExpr_of_namesType {T : String} {node : RustNode} (solid : T ∉ seeThrough)
    (names : NamesType T node) : ∃ qualifier, typeExpr none node = .named T qualifier := by
  induction names with
  | @plain node isName text =>
    refine ⟨none, ?_⟩
    rw [typeExpr_eq, typeStep, isName]
    dsimp only
    rw [text, namedIn]
    split <;> rfl
  | @inModule node name isPath found text =>
    refine ⟨(node.child? .path).map Node.text, ?_⟩
    rw [typeExpr_eq, typeStep, isPath]
    dsimp only
    rw [found, Option.map_some, Option.getD_some, text]
  | @applied node base isGeneric found _ inductionHypothesis =>
    obtain ⟨qualifier, isNamed⟩ := inductionHypothesis
    refine ⟨qualifier, ?_⟩
    rw [typeExpr_eq, typeStep, isGeneric]
    dsimp only
    rw [found, Option.map_some, Option.map_some, Option.getD_some, isNamed,
      applied_of_solid solid]

/-- The item is a function of the given name in an implementation of the type `T`. -/
structure Implements (T name : String) (block item : RustNode) : Prop where
  isBlock : block.kind = .implItem
  ofType : ∃ type, block.child? .type = some type ∧ NamesType T type
  inside : ∃ body, block.child? .body = some body ∧ item ∈ body.namedChildren
  isFunction : item.kind = .functionItem
  isNamed : ∃ label, item.child? .name = some label ∧ label.text = name

theorem exists_declaration {T name : String} {block item : RustNode} (solid : T ∉ seeThrough)
    (implements : Implements T name block item) (file : String) (outer : Option TypeExpr) :
    ∃ d, functionDecl? file (itemOwner block) item = some d ∧ d ∈ functionsOf file outer block ∧
      d.name = name ∧ declKey d = qualified (some T) name := by
  obtain ⟨isBlock, ⟨type, ofType, names⟩, ⟨body, hasBody, member⟩, isFunction, label, isLabel,
    rfl⟩ := implements
  obtain ⟨qualifier, isNamed⟩ := typeExpr_of_namesType solid names
  have owner : itemOwner block = some (.named T qualifier) := by
    rw [itemOwner, isBlock]
    dsimp only
    rw [ofType, Option.map_some, isNamed]
  have isDecl : ∃ d, functionDecl? file (itemOwner block) item = some d ∧ d.name = label.text ∧
      d.receiver = itemOwner block := by
    rw [functionDecl?, isLabel, Option.map_some]
    exact ⟨_, rfl, rfl, rfl⟩
  obtain ⟨d, found, isName, receiver⟩ := isDecl
  refine ⟨d, found, ?_, isName, ?_⟩
  · have here : functionsOf file (itemOwner block) item = [d] := by
      rw [functionsOf_eq, if_pos isFunction, found]
      rfl
    have holds : holdsFunctions .implItem = true := rfl
    rw [functionsOf_eq, isBlock, if_neg (by decide), if_pos holds, hasBody, Option.map_some,
      Option.getD_some]
    exact List.mem_flatMap.2 ⟨item, member, here ▸ List.mem_singleton_self d⟩
  · rw [declKey_eq_qualified, receiver, owner, isName]
    rfl

/-! ### The type in front of a called function -/

/-- The path ends with the name `T`: it is the name alone, or the name behind another path. -/
inductive NamesPath (T : String) : RustNode → Prop where
  | plain {path : RustNode} : path.kind = .identifier → path.text = T → NamesPath T path
  | inModule {path name : RustNode} : path.kind = .scopedIdentifier →
      path.child? .name = some name → name.text = T → NamesPath T path

/-- The path and the name, if what is called is a function behind a path. -/
def pathCall? (call : RustNode) : Option (RustNode × String) := do
  let target ← targetAs? call.children
  let name ← target.child? .name
  let path ← target.child? .path
  if target.kind = .scopedIdentifier then some (path, name.text) else none

/-- Whether a name begins as that of a type does. -/
def startsUpper (name : String) : Bool :=
  (name.toList.head?.map Text.isUppercase).getD false

/-- The name of the type that a name in front of a function stands for, if it begins like one. -/
def typeNamed (segment : String) : Option String :=
  if startsUpper segment then some segment else none

theorem lastSegment_of_namesPath {T : String} {path : RustNode} (names : NamesPath T path) :
    lastSegment path = some T := by
  cases names with
  | plain isName text => rw [lastSegment, isName, text]
  | inModule isPath found text =>
    rw [lastSegment, isPath]
    dsimp only
    rw [found, Option.map_some, text]

/-- The key of a call of a function behind a path, from the last name of the path. -/
theorem callKey_of_pathCall? (file : String) (owner : Option TypeExpr) (s : Scopes)
    {call path : RustNode} {name segment : String} (isPath : pathCall? call = some (path, name))
    (last : lastSegment path = some segment) (notSelf : segment ≠ "Self") :
    callKey (callAt file owner call s) = some (qualified (typeNamed segment) name) := by
  simp only [pathCall?, Option.bind_eq_bind, Option.bind_eq_some_iff] at isPath
  obtain ⟨target, isTarget, label, isLabel, front, isFront, parts⟩ := isPath
  split at parts
  next isScoped =>
    obtain ⟨rfl, rfl⟩ := Prod.mk.inj (Option.some.inj parts)
    have type : pathType owner front =
        if startsUpper segment then some (.named segment none) else none := by
      rw [pathType, last, Option.bind_some, if_neg notSelf]
      rfl
    rw [callKey, callAt, calleeAs_eq_target, isTarget, Option.map_some, Option.getD_some,
      calleeStep, isScoped]
    dsimp only
    rw [pathCallee, isLabel, isFront, Option.bind_some, type, typeNamed]
    cases startsUpper segment <;> rfl
  next => cases parts

theorem qualified_left_inj {a b : Option String} {name : String} :
    qualified a name = qualified b name ↔ a = b := by
  refine ⟨fun same => ?_, fun same => by rw [same]⟩
  have texts := congrArg String.toList same
  have lengths := congrArg List.length texts
  cases a with
  | none =>
    cases b with
    | none => rfl
    | some U =>
      rw [toList_qualified, List.length_append, List.length_cons, qualified] at lengths
      omega
  | some T =>
    cases b with
    | none =>
      rw [toList_qualified, List.length_append, List.length_cons, qualified] at lengths
      omega
    | some U =>
      rw [toList_qualified, toList_qualified, List.append_left_inj] at texts
      rw [String.toList_inj.1 texts]

/-! ### Calls and declarations -/

/-- What is recorded of a call, if it is one of the function `d` of the type `T` behind a path. The
key is that of the declaration if the path is made of names and ends with `T`. If the path ends with
type arguments, its whole text counts for the name of the type. -/
structure Reaches (T : String) (d : FunctionDecl) (place : CallPlace RustKind) (site : CallSite) :
    Prop where
  named : ∀ path, pathCall? place.call = some (path, d.name) → NamesPath T path →
    callKey site = some (declKey d)
  applied : ∀ path, pathCall? place.call = some (path, d.name) → path.kind = .genericType →
    path.text ≠ "Self" → callKey site = some (qualified (typeNamed path.text) d.name)
  missed : ∀ path, pathCall? place.call = some (path, d.name) → path.kind = .genericType →
    path.text ≠ "Self" → path.text ≠ T → callKey site ≠ some (declKey d)

/-- A function in an implementation of a type, be the type written plainly, behind a path or with
arguments, is declared under the key of every call that puts the type in front of it, alone or
behind a path. It is not declared under the key of a call that gives the type its arguments. -/
theorem associated_calls_reach_declarations (file other : String) (outer owner : Option TypeExpr)
    (s : Scopes) (caller : RustNode) {T name : String} {block item : RustNode}
    (upper : startsUpper T = true) (notSelf : T ≠ "Self") (solid : T ∉ seeThrough)
    (implements : Implements T name block item) :
    ∃ d, functionDecl? file (itemOwner block) item = some d ∧ d ∈ functionsOf file outer block ∧
      d.name = name ∧
      List.Forall₂ (Reaches T d) (placesOf caller) (walk other owner s caller).2 := by
  obtain ⟨d, found, declared, rfl, key⟩ := exists_declaration solid implements file outer
  refine ⟨d, found, declared, rfl, ?_⟩
  rw [calls_walk, List.forall₂_map_right_iff, List.forall₂_same]
  intro place _
  rw [Binder.recordAt]
  have applied (path : RustNode) (isPath : pathCall? place.call = some (path, d.name))
      (isGeneric : path.kind = .genericType) (noSelf : path.text ≠ "Self") :
      callKey (callAt other owner place.call ((binder owner).replay s place.scopes)) =
        some (qualified (typeNamed path.text) d.name) := by
    have last : lastSegment path = some path.text := by rw [lastSegment, isGeneric]
    exact callKey_of_pathCall? other owner _ isPath last noSelf
  refine ⟨fun path isPath names => ?_, applied, fun path isPath isGeneric noSelf different => ?_⟩
  · have last := lastSegment_of_namesPath names
    rw [callKey_of_pathCall? other owner _ isPath last notSelf, key, typeNamed, if_pos upper]
  · rw [applied path isPath isGeneric noSelf, key]
    intro same
    have names := qualified_left_inj.1 (Option.some.inj same)
    rw [typeNamed] at names
    split at names
    next => exact different (Option.some.inj names)
    next => cases names

/-- An implementation of a type behind a path and with arguments, and calls of its function. -/
def associatedSource : String :=
  "impl m::T<A>\x7bfn f()\x7b\x7d\x7dfn g()\x7bT::f();m::T::f();T::<B>::f()\x7d"

/-- The items of that file. -/
def associatedItem (i : Nat) : RustNode :=
  (rustRoot associatedSource).namedChildren[i]?.getD default

/-- A part of a node that has one in the given role. -/
def partOf (node : RustNode) (role : Role) : RustNode :=
  (node.child? role).getD default

/-- The function in the implementation. -/
def associatedFunction : RustNode :=
  (partOf (associatedItem 0) .body).firstNamed?.getD default

theorem associatedCalls_reach :
    Implements "T" "f" (associatedItem 0) associatedFunction ∧
      (walk "a.rs" none (Scopes.ofRoot []) (partOf (associatedItem 1) .body)).2.map callKey =
        [some "T.f", some "T.f", some "T::<B>.f"] ∧
      ∃ d, functionDecl? "a.rs" (itemOwner (associatedItem 0)) associatedFunction = some d ∧
        d ∈ functionsOf "a.rs" none (associatedItem 0) ∧ d.name = "f" ∧
        List.Forall₂ (Reaches "T" d) (placesOf (partOf (associatedItem 1) .body))
          (walk "a.rs" none (Scopes.ofRoot []) (partOf (associatedItem 1) .body)).2 := by
  have shape : (associatedItem 0).kind = .implItem ∧
      (associatedItem 0).child? .type = some (partOf (associatedItem 0) .type) ∧
      (associatedItem 0).child? .body = some (partOf (associatedItem 0) .body) ∧
      associatedFunction ∈ (partOf (associatedItem 0) .body).namedChildren ∧
      associatedFunction.kind = .functionItem ∧
      associatedFunction.child? .name = some (partOf associatedFunction .name) ∧
      (partOf associatedFunction .name).text = "f" := by
    decide +kernel
  have type : (partOf (associatedItem 0) .type).kind = .genericType ∧
      (partOf (associatedItem 0) .type).child? .type =
        some (partOf (partOf (associatedItem 0) .type) .type) ∧
      (partOf (partOf (associatedItem 0) .type) .type).kind = .scopedTypeIdentifier ∧
      (partOf (partOf (associatedItem 0) .type) .type).child? .name =
        some (partOf (partOf (partOf (associatedItem 0) .type) .type) .name) ∧
      (partOf (partOf (partOf (associatedItem 0) .type) .type) .name).text = "T" := by
    decide +kernel
  have implements : Implements "T" "f" (associatedItem 0) associatedFunction := by
    obtain ⟨isBlock, hasType, hasBody, member, isFunction, hasName, isNamed⟩ := shape
    obtain ⟨isGeneric, hasBase, isPath, hasLast, text⟩ := type
    exact ⟨isBlock, ⟨_, hasType, .applied isGeneric hasBase (.inModule isPath hasLast text)⟩,
      ⟨_, hasBody, member⟩, isFunction, _, hasName, isNamed⟩
  exact ⟨implements, by decide +kernel,
    associated_calls_reach_declarations "a.rs" "a.rs" none none (Scopes.ofRoot []) _
      (by decide +kernel) (by decide) (by decide) implements⟩

/-- Files with a function of a type that is called with the arguments of the type, which stands
alone and behind paths. -/
def appliedFiles : List String :=
  ["impl<A>T<A>\x7bfn f()\x7bT::<B>::f()\x7d\x7d",
    "impl<A>T<A>\x7bfn f()\x7bm::T::<B>::f()\x7d\x7d",
    "impl<A>T<A>\x7bfn f()\x7bM::T::<B>::f()\x7d\x7d"]

/-- No such call has the key of the function. -/
theorem applied_types_miss_declarations :
    appliedFiles.map (fun source => (ofTree "a.rs" (rustRoot source)).keys) =
      [(none, [("T.f", [some "T::<B>.f"])]), (none, [("T.f", [some "f"])]),
        (none, [("T.f", [some "M::T::<B>.f"])])] := by
  decide +kernel

end Frontend.RustModel

end ParamChain
