import ParamChain.Proofs.BareTrees

/-
This file proves that comments in a Rust file do not change its keys, where they are clear of what
is found by its place.

The walk and every function that it uses are taken through in turn: each gives for a bare node what
it gives for the node, up to the outline of types. A type may stand for the owner of the item around
it, so the owners need only be alike, and so do the scopes. A function that looks for a child by its
role or its kind passes comments over. One that takes the first or the last named child needs that
this child is no comment, which is what a clear tree grants.
-/

namespace ParamChain.Frontend.RustModel

open ParseTree Reading Chain

/-! ### What counts -/

/-- A named node that is no lifetime, and so may be the first type argument. -/
def mayBeType (node : RustNode) : Bool :=
  node.named && node.kind != .lifetime

/-- The kinds of patterns of which the last named child counts. -/
def countsLast : RustKind → Bool
  | .mutPattern | .refPattern | .referencePattern => true
  | _ => false

/-- The text counts of every name, save that of a struct literal, of a receiver that is `self`, and
of what stands before the last name of a path, unless that is a path itself. No comment is the last
named child of a pattern around a name, the first type argument, the first named child in the
pattern of a match arm, or the first named child between parentheses. -/
def reading : Reading RustKind where
  comment := .comment
  reads parent node :=
    node.kind == .identifier || node.kind == .typeIdentifier || node.kind == .primitiveType ||
      node.kind == .shorthandField || (node.plays .name && parent != .structExpression) ||
      node.plays .selector ||
      (node.plays .path && parent == .scopedIdentifier && node.kind != .scopedIdentifier) ||
      (node.plays .value && node.text == "self")
  placed node :=
    (!countsLast node.kind || leads .comment Node.named node.children.reverse) &&
      (!node.plays .typeArguments || leads .comment mayBeType node.children) &&
      (node.kind != .matchArm ||
        (node.child? .pattern).all fun pattern => leads .comment Node.named pattern.children) &&
      (node.kind != .parenthesizedExpression || leads .comment Node.named node.children)

section

variable {node child : RustNode} (isClear : reading.clear node = true)

include isClear

/-- No comment comes last where the last named child counts. -/
theorem last_of_clear (counts : countsLast node.kind = true) :
    leads reading.comment Node.named node.children.reverse = true := by
  have here := placed_of_clear isClear
  simp only [reading, Bool.and_eq_true, counts] at here
  exact here.1.1.1

/-- No comment comes before the first type argument. -/
theorem argument_of_clear (plays : node.plays .typeArguments = true) :
    leads reading.comment mayBeType node.children = true := by
  have here := placed_of_clear isClear
  simp only [reading, Bool.and_eq_true, plays] at here
  exact here.1.1.2

/-- No comment comes first in the pattern of a match arm. -/
theorem pattern_of_clear (kindIs : node.kind = .matchArm)
    (found : node.child? .pattern = some child) :
    leads reading.comment Node.named child.children = true := by
  have here := placed_of_clear isClear
  simp only [reading, Bool.and_eq_true, kindIs, found] at here
  exact here.1.2

/-- No comment comes first between parentheses. -/
theorem first_of_clear (kindIs : node.kind = .parenthesizedExpression) :
    leads reading.comment Node.named node.children = true := by
  have here := placed_of_clear isClear
  simp only [reading, Bool.and_eq_true, kindIs] at here
  exact here.2

end

/-! ### Types -/

theorem typeExprAs_eq (owner : Option TypeExpr) (role : Role) (nodes : List RustNode) :
    typeExprAs owner role nodes =
      (nodes.find? fun n => n.plays role).map (typeExpr owner) := by
  rw [eq_elim_find? rfl (fun _ _ => typeExprAs.eq_2 ..) nodes]
  cases nodes.find? fun n => n.plays role <;> rfl

theorem firstType_eq (owner : Option TypeExpr) (nodes : List RustNode) :
    firstType owner nodes = (nodes.find? mayBeType).map (typeExpr owner) := by
  rw [eq_elim_find? (p := mayBeType) rfl (fun _ _ => firstType.eq_2 ..) nodes]
  cases nodes.find? mayBeType <;> rfl

/-- The type expression of the first type argument, from the list of arguments. -/
def argumentType (owner : Option TypeExpr) (list : RustNode) : Option TypeExpr :=
  (list.children.find? mayBeType).map (typeExpr owner)

/-- The first type argument is looked for in the first list of type arguments. -/
theorem firstArgument_eq (owner : Option TypeExpr) (nodes : List RustNode) :
    firstArgument owner nodes =
      (nodes.find? fun n => n.plays .typeArguments).bind (argumentType owner) := by
  induction nodes with
  | nil => rfl
  | cons node rest inductionHypothesis =>
    obtain ⟨kind, role, named, span, text, children⟩ := node
    rw [firstArgument, List.find?_cons, inductionHypothesis, firstType_eq]
    cases plays : role == some .typeArguments with
    | true => simp only [Node.plays, Node.role, plays]; rfl
    | false => simp only [Node.plays, Node.role, plays]; rfl

/-- The type expression of a node, from those below it. -/
def typeStep (owner : Option TypeExpr) (node : RustNode) : TypeExpr :=
  match node.kind with
  | .typeIdentifier => namedIn owner node.text
  | .primitiveType => .named node.text none
  | .scopedTypeIdentifier =>
    let path := (node.child? .path).map Node.text
    ((node.child? .name).map fun name => .named name.text path).getD (otherType node.text)
  | .genericType =>
    let argument := (node.child? .typeArguments).bind (argumentType owner)
    (((node.child? .type).map (typeExpr owner)).map fun base => applied base argument).getD
      (otherType node.text)
  | .referenceType | .pointerType =>
    (((node.child? .type).map (typeExpr owner)).map .pointer).getD (otherType node.text)
  | _ => otherType node.text

/-- The type expression of a node depends on those of its children and of its first argument. -/
theorem typeExpr_eq (owner : Option TypeExpr) (node : RustNode) :
    typeExpr owner node = typeStep owner node := by
  obtain ⟨kind, role, named, span, text, children⟩ := node
  unfold typeExpr typeStep
  simp only [typeExprAs_eq, firstArgument_eq]
  cases kind
  case scopedTypeIdentifier =>
    dsimp only [Node.kind]
    cases (Node.mk RustKind.scopedTypeIdentifier role named span text children).child? .name <;> rfl
  case genericType =>
    dsimp only [Node.kind, Node.child?, Node.children]
    cases children.find? fun n => n.plays .type <;> rfl
  all_goals rfl

variable {a b : Option TypeExpr} (owners : a.map TypeExpr.outline = b.map TypeExpr.outline)

/-- Whether a type is seen through depends on its name alone, which the outline keeps. -/
theorem outline_applied (base : TypeExpr) (argument : Option TypeExpr) :
    (applied base argument).outline = applied base.outline (argument.map TypeExpr.outline) := by
  cases base with
  | pointer | other => cases argument <;> rfl
  | named name qualifier =>
    cases argument with
    | none => rfl
    | some inner =>
      rw [TypeExpr.outline, applied, Option.map_some, applied]
      cases seeThrough.contains name <;> rfl

theorem outline_applied_congr {base other : Option TypeExpr}
    (bases : base.map TypeExpr.outline = other.map TypeExpr.outline) {c d : Option TypeExpr}
    (arguments : c.map TypeExpr.outline = d.map TypeExpr.outline) :
    (base.map fun t => applied t c).map TypeExpr.outline =
      (other.map fun t => applied t d).map TypeExpr.outline := by
  have throughOutline (t c : Option TypeExpr) :
      (t.map fun t => applied t c).map TypeExpr.outline =
        (t.map TypeExpr.outline).map fun t => applied t (c.map TypeExpr.outline) := by
    cases t with
    | none => rfl
    | some t => exact congrArg some (outline_applied t c)
  rw [throughOutline, bases, arguments, throughOutline]

theorem outline_argumentType {list : RustNode} (isClear : reading.clear list = true)
    (plays : list.plays .typeArguments = true) (parent : RustKind)
    (each : ∀ n ∈ list.children, ∀ parent,
      (typeExpr a (reading.bare parent n)).outline = (typeExpr b n).outline) :
    (argumentType a (reading.bare parent list)).map TypeExpr.outline =
      (argumentType b list).map TypeExpr.outline := by
  have kept (n : RustNode) : mayBeType (reading.bare list.kind n) = mayBeType n := by
    rw [mayBeType, mayBeType, named_bare, kind_bare]
  rw [argumentType, argumentType, children_bare,
    find?_bareAll kept (argument_of_clear isClear plays)]
  exact outline_map_bare fun n found => each n (List.mem_of_find?_eq_some found) _

section

include owners

/-- A name stands for itself, and `Self` for the owner. -/
theorem outline_namedIn (name : String) :
    (namedIn a name).outline = (namedIn b name).outline := by
  rw [namedIn, namedIn]
  split
  · cases a <;> cases b
    case none.none => rfl
    case some.some => exact Option.some.inj owners
    all_goals cases owners
  · rfl

/-- The type that a bare node stands for. The first type argument is a child of a child, so the
induction goes down two levels at once. -/
theorem outline_typeExpr {node : RustNode} (isClear : reading.clear node = true)
    (parent : RustKind) :
    (typeExpr a (reading.bare parent node)).outline = (typeExpr b node).outline := by
  induction node using Node.twoLevelInduction generalizing parent with
  | step node children below =>
    have loose := loose_of_clear isClear
    have each (n : RustNode) (member : n ∈ node.children) (kind : RustKind) :=
      children n member (clear_of_mem isClear member) kind
    have base : (((reading.bare parent node).child? .type).map (typeExpr a)).map TypeExpr.outline =
        ((node.child? .type).map (typeExpr b)).map TypeExpr.outline := by
      rw [child?_bare loose]
      exact outline_map_bare fun n found => each n (Node.mem_of_child? found) _
    rw [typeExpr_eq, typeExpr_eq, typeStep, typeStep, kind_bare]
    cases kindIs : node.kind
    case typeIdentifier =>
      have counts : reading.reads parent node = true := by simp [reading, kindIs]
      rw [text_bare_of_reads counts]
      exact outline_namedIn owners node.text
    case primitiveType =>
      have counts : reading.reads parent node = true := by simp [reading, kindIs]
      rw [text_bare_of_reads counts]
    case scopedTypeIdentifier =>
      refine TypeExpr.outline_getD ?_ _ _
      rw [child?_bare loose .name, Option.map_map, Option.map_map, Option.map_map]
      refine Option.map_congr fun name found => ?_
      have counts : reading.reads node.kind name = true := by
        simp [reading, plays_of_child? found, kindIs]
      exact congrArg (fun text => TypeExpr.named text none) (text_bare_of_reads counts)
    case genericType =>
      refine TypeExpr.outline_getD (outline_applied_congr base ?_) _ _
      rw [child?_bare loose]
      cases found : node.child? .typeArguments with
      | none => rfl
      | some list =>
        have member := Node.mem_of_child? found
        have listClear := clear_of_mem isClear member
        refine outline_argumentType listClear (plays_of_child? found) _ fun n inside => ?_
        exact below list member n inside (clear_of_mem listClear inside)
    case referenceType | pointerType =>
      refine TypeExpr.outline_getD ?_ _ _
      rw [TypeExpr.outline_map_pointer, TypeExpr.outline_map_pointer, base]
    all_goals exact TypeExpr.outline_other _ _

theorem outline_child?_typeExpr {node : RustNode} (isClear : reading.clear node = true)
    (parent : RustKind) (role : Role) :
    (((reading.bare parent node).child? role).map (typeExpr a)).map TypeExpr.outline =
      ((node.child? role).map (typeExpr b)).map TypeExpr.outline := by
  rw [child?_bare (loose_of_clear isClear)]
  refine outline_map_bare fun n found => ?_
  exact outline_typeExpr owners (clear_of_child? isClear found) _

end

/-! ### Patterns -/

/-- A pattern around a name binds what its last named part binds. -/
theorem lastBindingName_eq (nodes : List RustNode) :
    lastBindingName nodes = (nodes.filter Node.named).getLast?.bind bindingName := by
  induction nodes with
  | nil => rfl
  | cons node rest inductionHypothesis =>
    rw [lastBindingName, inductionHypothesis, List.filter_cons]
    cases others : rest.filter Node.named with
    | nil =>
      have noneNamed : rest.any Node.named = false :=
        List.any_eq_false.2 (List.filter_eq_nil_iff.1 others)
      rw [noneNamed]
      cases node.named <;> rfl
    | cons other more =>
      have member : other ∈ rest.filter Node.named := others ▸ List.mem_cons_self
      have someNamed : rest.any Node.named = true :=
        List.any_eq_true.2 ⟨other, List.mem_filter.1 member⟩
      rw [someNamed, if_pos rfl]
      cases node.named with
      | false => rfl
      | true => rw [if_pos rfl, List.getLast?_cons_cons]

/-- The one name that a pattern binds, from its last part. -/
def bindingStep (pattern : RustNode) : Option String :=
  if pattern.kind == .identifier then some pattern.text
  else if countsLast pattern.kind then pattern.lastNamed?.bind bindingName
  else none

theorem bindingName_eq (pattern : RustNode) : bindingName pattern = bindingStep pattern := by
  obtain ⟨kind, role, named, span, text, children⟩ := pattern
  unfold bindingName bindingStep
  rw [lastBindingName_eq]
  cases kind <;> rfl

/-- The name that a pattern binds is found in the bare pattern as well. -/
theorem bindingName_bare {pattern : RustNode} (isClear : reading.clear pattern = true)
    (parent : RustKind) :
    bindingName (reading.bare parent pattern) = bindingName pattern := by
  induction pattern using Visiting.everywhere.induction generalizing parent with
  | step pattern inductionHypothesis =>
    rw [bindingName_eq, bindingName_eq, bindingStep, bindingStep, kind_bare]
    split
    next isName =>
      have counts : reading.reads parent pattern = true := by simp [reading, isName]
      rw [text_bare_of_reads counts]
    next =>
      split
      next counts =>
        rw [lastNamed?_bare (last_of_clear isClear counts)]
        cases found : pattern.lastNamed? with
        | none => rfl
        | some last =>
          have member : last ∈ pattern.children :=
            List.mem_of_mem_filter (List.mem_of_getLast? found)
          exact inductionHypothesis last member (clear_of_mem isClear member) _
      next => rfl

theorem bindingName_child?_bare {node : RustNode} (isClear : reading.clear node = true)
    (parent : RustKind) (role : Role) :
    ((reading.bare parent node).child? role).bind bindingName =
      (node.child? role).bind bindingName := by
  rw [child?_bare (loose_of_clear isClear)]
  cases found : node.child? role with
  | none => rfl
  | some pattern => exact bindingName_bare (clear_of_child? isClear found) _

theorem allPatternNames_eq (nodes : List RustNode) :
    allPatternNames nodes = (nodes.filter Node.named).flatMap patternNames := by
  induction nodes with
  | nil => rfl
  | cons node rest inductionHypothesis =>
    rw [allPatternNames, List.filter_cons, inductionHypothesis]
    cases node.named <;> rfl

/-- Every name in a pattern, from the names of its parts. -/
def namesStep (pattern : RustNode) : List String :=
  if pattern.kind == .identifier || pattern.kind == .shorthandField then [pattern.text]
  else pattern.namedChildren.flatMap patternNames

theorem patternNames_eq (pattern : RustNode) : patternNames pattern = namesStep pattern := by
  obtain ⟨kind, role, named, span, text, children⟩ := pattern
  unfold patternNames namesStep
  rw [allPatternNames_eq]
  cases kind <;> rfl

/-- There are no names in a comment. -/
theorem patternNames_comment {node : RustNode} (comment : reading.isComment node = true)
    (empty : node.children = []) : patternNames node = [] := by
  have kindIs : node.kind = .comment := eq_of_beq comment
  rw [patternNames_eq, namesStep, kindIs, Node.namedChildren, empty]
  rfl

/-- The bare pattern has the names of the pattern. -/
theorem patternNames_bare {pattern : RustNode} (isClear : reading.clear pattern = true)
    (parent : RustKind) :
    patternNames (reading.bare parent pattern) = patternNames pattern := by
  induction pattern using Visiting.everywhere.induction generalizing parent with
  | step pattern inductionHypothesis =>
    rw [patternNames_eq, patternNames_eq, namesStep, namesStep, kind_bare]
    split
    next isName =>
      have counts : reading.reads parent pattern = true := by
        rcases Bool.or_eq_true_iff.1 isName with name | field
        · simp [reading, name]
        · simp [reading, field]
      rw [text_bare_of_reads counts]
    next =>
      refine flatMap_namedChildren_bare (fun n member _ => ?_) fun n member comment => ?_
      · exact inductionHypothesis n member (clear_of_mem isClear member) _
      · exact patternNames_comment comment (loose_mem (loose_of_clear isClear) member comment).2

/-! ### Parameters -/

section

include owners

theorem outline_parameter? {node : RustNode} (isClear : reading.clear node = true)
    (parent : RustKind) :
    (parameter? a (reading.bare parent node)).map Parameter.outline =
      (parameter? b node).map Parameter.outline := by
  rw [parameter?, parameter?, kind_bare, bindingName_child?_bare isClear]
  split
  · rw [child?_bare (loose_of_clear isClear), Option.map_map, Option.map_map, Option.map_map]
    refine Option.map_congr fun type found => congrArg (Prod.mk _) ?_
    exact outline_typeExpr owners (clear_of_child? isClear found) _
  · rfl

/-- Parameters are found by their kind, so comments between them do not count. -/
theorem outline_parameters {list : RustNode} (isClear : reading.clear list = true)
    (parent : RustKind) :
    (parameters a (reading.bare parent list)).map Parameter.outline =
      (parameters b list).map Parameter.outline := by
  rw [parameters, parameters, List.map_filterMap, List.map_filterMap]
  refine filterMap_namedChildren_bare (fun n member _ => ?_) fun n _ comment => ?_
  · exact outline_parameter? owners (clear_of_mem isClear member) list.kind
  · have kindIs : n.kind = .comment := eq_of_beq comment
    rw [parameter?, kindIs]
    rfl

theorem outline_bindClosureParameter {node : RustNode} (isClear : reading.clear node = true)
    (parent : RustKind) {f g : Frame} (frames : Frame.outline f = Frame.outline g) :
    Frame.outline (bindClosureParameter a f (reading.bare parent node)) =
      Frame.outline (bindClosureParameter b g node) := by
  rw [bindClosureParameter, bindClosureParameter, kind_bare, bindingName_child?_bare isClear,
    patternNames_bare isClear]
  split
  · cases (node.child? .pattern).bind bindingName with
    | none => exact frames
    | some name =>
      have types := outline_child?_typeExpr owners isClear parent .type
      exact congrArg₂ (fun t h => (name, t) :: h) types frames
  · rw [Frame.outline_foldl, Frame.outline_foldl, frames]

/-- The parameters of a closure bind the same names to types that are alike. -/
theorem outline_closureFrame {list : RustNode} (isClear : reading.clear list = true)
    (parent : RustKind) :
    Frame.outline (closureFrame a (reading.bare parent list)) =
      Frame.outline (closureFrame b list) := by
  refine foldl_namedChildren_bare (fun f g => Frame.outline f = Frame.outline g)
    (fun n member _ f g frames => ?_) (fun n member comment frame => ?_) rfl
  · exact outline_bindClosureParameter owners (clear_of_mem isClear member) _ frames
  · have kindIs : n.kind = .comment := eq_of_beq comment
    have empty := (loose_mem (loose_of_clear isClear) member comment).2
    rw [bindClosureParameter, kindIs, patternNames_comment comment empty]
    rfl

end

/-! ### The types of values -/

theorem lastSegment_eq (path : RustNode) :
    lastSegment path =
      if path.kind = .scopedIdentifier then (path.child? .name).map Node.text
      else some path.text := by
  rw [lastSegment]
  split
  next kindIs => rw [if_pos kindIs]
  next other => rw [if_neg other]

theorem text_name_bare {node : RustNode} (isClear : reading.clear node = true)
    (parent : RustKind) (noLiteral : node.kind ≠ .structExpression) :
    ((reading.bare parent node).child? .name).map Node.text =
      (node.child? .name).map Node.text := by
  rw [child?_bare (loose_of_clear isClear), Option.map_map]
  refine Option.map_congr fun name found => text_bare_of_reads ?_
  simp [reading, plays_of_child? found, noLiteral]

/-- The last name of a path can be read off the bare path. -/
theorem lastSegment_bare {path : RustNode} (isClear : reading.clear path = true)
    (plays : path.plays .path = true) :
    lastSegment (reading.bare .scopedIdentifier path) = lastSegment path := by
  rw [lastSegment_eq, lastSegment_eq, kind_bare]
  split
  next kindIs => exact text_name_bare isClear _ (by rw [kindIs]; decide)
  next other =>
    have counts : reading.reads .scopedIdentifier path = true := by simp [reading, plays, other]
    rw [text_bare_of_reads counts]

/-- The type that a call makes, from the name of its function. -/
theorem callType_eq (owner : Option TypeExpr) (call : RustNode) :
    callType owner call =
      (call.child? .function).bind fun function =>
        if function.kind = .scopedIdentifier then
          ((function.child? .name).map Node.text).bind fun name =>
            if constructors.contains name then (function.child? .path).bind (pathType owner)
            else none
        else none := by
  rw [callType]
  cases call.child? .function with
  | none => rfl
  | some function =>
    dsimp only [bind, Option.bind]
    split
    · cases function.child? .name <;> rfl
    · rfl

theorem firstValueType_eq (owner : Option TypeExpr) (p : RustNode → Bool)
    (nodes : List RustNode) :
    firstValueType owner p nodes = (nodes.find? p).bind (valueType owner) := by
  rw [eq_elim_find? rfl (fun _ _ => firstValueType.eq_2 ..) nodes]
  cases nodes.find? p <;> rfl

/-- The type of a value, from those of its children. -/
def valueStep (owner : Option TypeExpr) (node : RustNode) : Option TypeExpr :=
  match node.kind with
  | .structExpression => (node.child? .name).bind (literalType owner)
  | .referenceExpression => ((node.child? .value).bind (valueType owner)).map .pointer
  | .callExpression => callType owner node
  | .parenthesizedExpression => node.firstNamed?.bind (valueType owner)
  | _ => none

theorem valueType_eq (owner : Option TypeExpr) (node : RustNode) :
    valueType owner node = valueStep owner node := by
  obtain ⟨kind, role, named, span, text, children⟩ := node
  unfold valueType valueStep
  simp only [firstValueType_eq, Node.firstNamed?, Node.namedChildren, List.head?_filter]
  rfl

section

include owners

/-- The type that the path of a scoped name stands for. -/
theorem outline_pathType {name : RustNode} (isClear : reading.clear name = true)
    (kindIs : name.kind = .scopedIdentifier) (parent : RustKind) :
    (((reading.bare parent name).child? .path).bind (pathType a)).map TypeExpr.outline =
      ((name.child? .path).bind (pathType b)).map TypeExpr.outline := by
  rw [child?_bare (loose_of_clear isClear), kindIs]
  cases found : name.child? .path with
  | none => rfl
  | some path =>
    rw [Option.map_some, Option.bind_some, Option.bind_some, pathType, pathType,
      lastSegment_bare (clear_of_child? isClear found) (plays_of_child? found)]
    cases lastSegment path with
    | none => rfl
    | some segment =>
      rw [Option.bind_some, Option.bind_some]
      split
      · exact owners
      · rfl

/-- A call makes a value of the type that its path names, if it calls a constructor. -/
theorem outline_callType {call : RustNode} (isClear : reading.clear call = true)
    (parent : RustKind) :
    (callType a (reading.bare parent call)).map TypeExpr.outline =
      (callType b call).map TypeExpr.outline := by
  rw [callType_eq, callType_eq, child?_bare (loose_of_clear isClear)]
  cases found : call.child? .function with
  | none => rfl
  | some function =>
    have functionClear := clear_of_child? isClear found
    rw [Option.map_some, Option.bind_some, Option.bind_some, kind_bare]
    split
    next kindIs =>
      rw [text_name_bare functionClear _ (by rw [kindIs]; decide)]
      cases (function.child? .name).map Node.text with
      | none => rfl
      | some name =>
        rw [Option.bind_some, Option.bind_some]
        split
        · exact outline_pathType owners functionClear kindIs _
        · rfl
    next => rfl

theorem outline_literalType {name : RustNode} (isClear : reading.clear name = true)
    (parent : RustKind) :
    (literalType a (reading.bare parent name)).map TypeExpr.outline =
      (literalType b name).map TypeExpr.outline := by
  rw [literalType, literalType, kind_bare]
  cases name.kind
  case turbofishType => exact outline_child?_typeExpr owners isClear parent .type
  all_goals exact congrArg some (outline_typeExpr owners isClear parent)

/-- The type of a value is alike in the bare tree. -/
theorem outline_valueType {node : RustNode} (isClear : reading.clear node = true)
    (parent : RustKind) :
    (valueType a (reading.bare parent node)).map TypeExpr.outline =
      (valueType b node).map TypeExpr.outline := by
  induction node using Visiting.everywhere.induction generalizing parent with
  | step node inductionHypothesis =>
    have loose := loose_of_clear isClear
    have each {child : RustNode} (member : child ∈ node.children) (kind : RustKind) :=
      inductionHypothesis child member (clear_of_mem isClear member) kind
    rw [valueType_eq, valueType_eq, valueStep, valueStep, kind_bare]
    cases kindIs : node.kind
    case structExpression =>
      dsimp only
      rw [child?_bare loose]
      refine outline_bind_bare fun name found => ?_
      exact outline_literalType owners (clear_of_child? isClear found) _
    case referenceExpression =>
      dsimp only
      rw [TypeExpr.outline_map_pointer, TypeExpr.outline_map_pointer, child?_bare loose]
      refine congrArg _ (outline_bind_bare fun n found => ?_)
      exact each (Node.mem_of_child? found) _
    case callExpression => exact outline_callType owners isClear parent
    case parenthesizedExpression =>
      dsimp only
      rw [firstNamed?_bare (first_of_clear isClear kindIs)]
      exact outline_bind_bare fun n found => each (Node.mem_of_firstNamed? found) _
    all_goals rfl

end

/-! ### Bindings -/

theorem namesIn_bare {pattern : Option RustNode} (parent : RustKind)
    (isClear : ∀ p ∈ pattern, reading.clear p = true) :
    namesIn (pattern.map (reading.bare parent)) = namesIn pattern := by
  cases pattern with
  | none => rfl
  | some pattern => exact patternNames_bare (isClear pattern rfl) parent

theorem namesIn_child?_bare {node : RustNode} (isClear : reading.clear node = true)
    (parent : RustKind) (role : Role) :
    namesIn ((reading.bare parent node).child? role) = namesIn (node.child? role) := by
  rw [child?_bare (loose_of_clear isClear)]
  exact namesIn_bare node.kind fun p found => clear_of_child? isClear found

/-- The pattern of a match arm is the first named child of what stands for it. -/
theorem namesIn_arm_bare {node : RustNode} (isClear : reading.clear node = true)
    (kindIs : node.kind = .matchArm) (parent : RustKind) :
    namesIn (((reading.bare parent node).child? .pattern).bind Node.firstNamed?) =
      namesIn ((node.child? .pattern).bind Node.firstNamed?) := by
  rw [child?_bare (loose_of_clear isClear)]
  cases found : node.child? .pattern with
  | none => rfl
  | some pattern =>
    have patternClear := clear_of_child? isClear found
    rw [Option.map_some, Option.bind_some, Option.bind_some,
      firstNamed?_bare (pattern_of_clear isClear kindIs found)]
    exact namesIn_bare pattern.kind fun p first => clear_of_firstNamed? patternClear first

section

include owners

theorem outline_letType {node : RustNode} (isClear : reading.clear node = true)
    (parent : RustKind) :
    (letType a (reading.bare parent node)).map TypeExpr.outline =
      (letType b node).map TypeExpr.outline := by
  have loose := loose_of_clear isClear
  rw [letType, letType, child?_bare loose, child?_bare loose]
  cases typed : node.child? .type with
  | some type => exact congrArg some (outline_typeExpr owners (clear_of_child? isClear typed) _)
  | none =>
    refine outline_bind_bare fun value given => ?_
    exact outline_valueType owners (clear_of_child? isClear given) _

/-- A `let` binds the same names to types that are alike. -/
theorem outline_letFrame {node : RustNode} (isClear : reading.clear node = true)
    (parent : RustKind) :
    Frame.outline (letFrame a (reading.bare parent node)) = Frame.outline (letFrame b node) := by
  rw [letFrame, letFrame, bindingName_child?_bare isClear, namesIn_child?_bare isClear]
  cases (node.child? .pattern).bind bindingName with
  | none => rfl
  | some name => exact congrArg (fun type => [(name, type)]) (outline_letType owners isClear parent)

theorem outline_frameOf {node : RustNode} (isClear : reading.clear node = true)
    (parent : RustKind) :
    Frame.outline (frameOf a (reading.bare parent node)) = Frame.outline (frameOf b node) := by
  rw [frameOf, frameOf, child?_bare (loose_of_clear isClear)]
  cases found : node.child? .parameters with
  | none => rfl
  | some list => exact outline_closureFrame owners (clear_of_child? isClear found) _

/-- Every declaration binds its names to types that are alike. -/
theorem outline_declaredFrame {node : RustNode} (isClear : reading.clear node = true)
    (parent : RustKind) :
    Frame.outline (declaredFrame a (reading.bare parent node)) =
      Frame.outline (declaredFrame b node) := by
  rw [declaredFrame, declaredFrame, kind_bare]
  cases kindIs : node.kind
  case letDeclaration => exact outline_letFrame owners isClear parent
  case letCondition | forExpression =>
    dsimp only
    rw [namesIn_child?_bare isClear]
  case closureExpression => exact outline_frameOf owners isClear parent
  case matchArm =>
    dsimp only
    rw [namesIn_arm_bare isClear kindIs]
  all_goals rfl

end

/-! ### Calls -/

/-- What is called is the first child in the role of a function. -/
theorem calleeAs_eq (owner : Option TypeExpr) (s : Scopes) (node : RustNode) :
    calleeAs owner s node.children =
      ((node.child? .function).map (callee owner s)).getD .unresolved := by
  rw [eq_elim_find? rfl (fun _ _ => calleeAs.eq_2 ..) node.children, Node.child?]
  cases node.children.find? fun n => n.plays .function <;> rfl

/-- What is called, from the parts of the function. -/
def calleeStep (owner : Option TypeExpr) (s : Scopes) (function : RustNode) : Callee :=
  match function.kind with
  | .identifier => .function function.text
  | .scopedIdentifier => pathCallee owner function
  | .fieldExpression =>
    let receiver := (function.child? .value).bind (receiverType owner s)
    ((function.child? .selector).map fun name => .method receiver name.text).getD .unresolved
  | .genericFunction => ((function.child? .function).map (callee owner s)).getD .unresolved
  | _ => .unresolved

theorem callee_eq (owner : Option TypeExpr) (s : Scopes) (function : RustNode) :
    callee owner s function = calleeStep owner s function := by
  rw [calleeStep, ← calleeAs_eq]
  obtain ⟨kind, role, named, span, text, children⟩ := function
  unfold callee
  cases kind
  case fieldExpression =>
    dsimp only [Node.kind]
    cases (Node.mk RustKind.fieldExpression role named span text children).child? .selector <;> rfl
  all_goals rfl

variable {s t : Scopes} (scopes : s.outline = t.outline)

section

include owners

/-- A path that is called has one key in the bare tree and in the tree. -/
theorem key_pathCallee {function : RustNode} (isClear : reading.clear function = true)
    (kindIs : function.kind = .scopedIdentifier) (parent : RustKind) :
    calleeKey (pathCallee a (reading.bare parent function)) =
      calleeKey (pathCallee b function) := by
  have types := outline_pathType owners isClear kindIs parent
  rw [pathCallee, pathCallee, child?_bare (loose_of_clear isClear) .name]
  cases found : function.child? .name with
  | none => rfl
  | some name =>
    have counts : reading.reads function.kind name = true := by
      simp [reading, plays_of_child? found, kindIs]
    simp only [Option.map_some, text_bare_of_reads counts]
    generalize ((reading.bare parent function).child? .path).bind (pathType a) = first at types
    generalize (function.child? .path).bind (pathType b) = second at types
    cases first <;> cases second
    case none.none => rfl
    case some.some => exact calleeKey_method_congr name.text types
    all_goals cases types

include scopes

/-- A receiver that is `self` stands for the owner, whatever the scopes bind, and a name for what
they bind it to. -/
theorem outline_receiverType {value : RustNode} (plays : value.plays .value = true)
    (parent : RustKind) :
    (receiverType a s (reading.bare parent value)).map TypeExpr.outline =
      (receiverType b t value).map TypeExpr.outline := by
  have isSelf : (reading.bare parent value).text = "self" ↔ value.text = "self" :=
    text_bare_eq_iff (by decide) fun isWord => by simp [reading, plays, isWord]
  rw [receiverType, receiverType, kind_bare]
  simp only [isSelf]
  split
  · exact owners
  · split
    next isName =>
      have counts : reading.reads parent value = true := by simp [reading, isName]
      rw [text_bare_of_reads counts]
      exact Scopes.lookup_congr scopes value.text
    next => rfl

/-- What is called has one key in the bare tree and in the tree. -/
theorem key_callee {function : RustNode} (isClear : reading.clear function = true)
    (parent : RustKind) :
    calleeKey (callee a s (reading.bare parent function)) = calleeKey (callee b t function) := by
  induction function using Visiting.everywhere.induction generalizing parent with
  | step function inductionHypothesis =>
    have loose := loose_of_clear isClear
    rw [callee_eq, callee_eq, calleeStep, calleeStep, kind_bare]
    cases kindIs : function.kind
    case identifier =>
      have counts : reading.reads parent function = true := by simp [reading, kindIs]
      rw [text_bare_of_reads counts]
    case scopedIdentifier => exact key_pathCallee owners isClear kindIs parent
    case fieldExpression =>
      dsimp only
      rw [child?_bare loose, child?_bare loose]
      cases found : function.child? .selector with
      | none => rfl
      | some selector =>
        have counts : reading.reads function.kind selector = true := by
          simp [reading, plays_of_child? found]
        simp only [Option.map_some, Option.getD_some, text_bare_of_reads counts]
        refine calleeKey_method_congr _ (outline_bind_bare fun value given => ?_)
        exact outline_receiverType owners scopes (plays_of_child? given) _
    case genericFunction =>
      dsimp only
      rw [child?_bare loose]
      cases found : function.child? .function with
      | none => rfl
      | some inner =>
        have member := Node.mem_of_child? found
        exact inductionHypothesis inner member (clear_of_mem isClear member) _
    all_goals rfl

theorem key_callAt {call : RustNode} (isClear : reading.clear call = true)
    (file other : String) (parent : RustKind) :
    callKey (callAt file a (reading.bare parent call) s) = callKey (callAt other b call t) := by
  dsimp only [callKey, callAt]
  rw [calleeAs_eq, calleeAs_eq, child?_bare (loose_of_clear isClear)]
  cases found : call.child? .function with
  | none => rfl
  | some function => exact key_callee owners scopes (clear_of_child? isClear found) call.kind

end

/-! ### Walks -/

section

include owners

/-- The nodes of a clear tree are taken as those of the bare tree are. -/
theorem takenAlike (file other : String) {node : RustNode} (isClear : reading.clear node = true) :
    TakenAlike reading routes (binder a) (binder b) (callAt file a) (callAt other b) node where
  route parent := by
    dsimp only [routes, route]
    simp only [kind_bare, namedChildren_bare, ← bareAll_eq,
      toList_child?_bare (loose_of_clear isClear), ← bareAll_append]
    cases node.kind <;> rfl
  declared _ parent _ _ scopes :=
    Scopes.prepend_congr scopes (outline_declaredFrame owners isClear parent)
  recorded _ parent _ _ scopes := key_callAt owners scopes isClear file other parent

/-- A walk sees the same in a clear tree and in the bare one. -/
theorem walk_bare (file other : String) {node : RustNode} (isClear : reading.clear node = true) :
    WalksAlike reading (walk file a) (walk other b) node :=
  walksAlike (followed file a) (followed other b) passesOver_comment
    (fun _ => takenAlike owners file other) isClear

/-! ### Files -/

/-- A function has the keys in the bare tree that it has in the tree. -/
theorem keys_functionDecl? (file other : String) {node : RustNode}
    (isClear : reading.clear node = true) (kindIs : node.kind = .functionItem)
    (parent : RustKind) :
    (functionDecl? file a (reading.bare parent node)).map FunctionDecl.keys =
      (functionDecl? other b node).map FunctionDecl.keys := by
  have loose := loose_of_clear isClear
  have groups := outline_getD_bare fun l (found : node.child? .parameters = some l) =>
    outline_parameters owners (clear_of_child? isClear found) node.kind
  rw [functionDecl?, functionDecl?, child?_bare loose, child?_bare loose, child?_bare loose]
  cases named : node.child? .name with
  | none => rfl
  | some name =>
    refine congrArg some (Prod.mk_inj.2 ⟨declKey_congr ?_ owners, ?_⟩)
    · refine text_bare_of_reads ?_
      simp [reading, plays_of_child? named, kindIs]
    · cases found : node.child? .body with
      | none => simp only [Option.map_none, Option.getD_none]
      | some body =>
        have bodyClear := clear_of_child? isClear found
        refine (seen_eq.1 (walk_bare owners file other bodyClear node.kind _ _ ?_)).2
        exact congrArg Scopes.ofRoot (outline_bindParameters_congr rfl groups)

end

/-- The functions of an item belong to types that are alike. -/
theorem outline_itemOwner {node : RustNode} (isClear : reading.clear node = true)
    (parent : RustKind) :
    (itemOwner (reading.bare parent node)).map TypeExpr.outline =
      (itemOwner node).map TypeExpr.outline := by
  rw [itemOwner, itemOwner, kind_bare]
  cases kindIs : node.kind
  case implItem => exact outline_child?_typeExpr rfl isClear parent .type
  case traitItem =>
    have names := text_name_bare isClear parent (by rw [kindIs]; decide)
    have owners := congrArg (Option.map fun name => TypeExpr.named name none) names
    rw [Option.map_map, Option.map_map] at owners
    exact congrArg (Option.map TypeExpr.outline) owners
  all_goals rfl

theorem functionsOfAll_eq (file : String) (owner : Option TypeExpr) (node : RustNode) :
    functionsOfAll file owner node.children =
      node.namedChildren.flatMap (functionsOf file owner) := by
  rw [Node.namedChildren]
  induction node.children with
  | nil => rfl
  | cons child rest inductionHypothesis =>
    rw [functionsOfAll, List.filter_cons, inductionHypothesis]
    cases child.named <;> rfl

/-- The functions of an item are those of its first body. -/
theorem functionsOfBody_eq (file : String) (owner : Option TypeExpr) (node : RustNode) :
    functionsOfBody file owner node.children =
      ((node.child? .body).map fun body =>
        body.namedChildren.flatMap (functionsOf file owner)).getD [] := by
  rw [Node.child?]
  induction node.children with
  | nil => rfl
  | cons child rest inductionHypothesis =>
    have inside := functionsOfAll_eq file owner child
    obtain ⟨kind, role, named, span, text, children⟩ := child
    rw [functionsOfBody, List.find?_cons, inductionHypothesis, Node.plays, Node.role]
    cases role == some .body with
    | true => exact inside
    | false => rfl

theorem functionsOf_eq (file : String) (owner : Option TypeExpr) (node : RustNode) :
    functionsOf file owner node =
      if node.kind = .functionItem then (functionDecl? file owner node).toList
      else if holdsFunctions node.kind then
        ((node.child? .body).map fun body =>
          body.namedChildren.flatMap (functionsOf file (itemOwner node))).getD []
      else [] := by
  rw [← functionsOfBody_eq]
  obtain ⟨kind, role, named, span, text, children⟩ := node
  rw [functionsOf]
  rfl

/-- There are no functions in a comment. -/
theorem functionsOf_comment (file : String) (owner : Option TypeExpr) {node : RustNode}
    (comment : reading.isComment node = true) : functionsOf file owner node = [] := by
  have kindIs : node.kind = .comment := eq_of_beq comment
  rw [functionsOf_eq, kindIs]
  rfl

/-- The functions of an item are in its body, so they are children of a child of it. -/
theorem keys_functionsOf (file other : String) {node : RustNode}
    (isClear : reading.clear node = true) {a b : Option TypeExpr}
    (owners : a.map TypeExpr.outline = b.map TypeExpr.outline) (parent : RustKind) :
    (functionsOf file a (reading.bare parent node)).map FunctionDecl.keys =
      (functionsOf other b node).map FunctionDecl.keys := by
  induction node using Node.twoLevelInduction generalizing a b parent with
  | step node _ below =>
    rw [functionsOf_eq, functionsOf_eq, kind_bare]
    split
    next kindIs =>
      rw [← Option.toList_map, ← Option.toList_map,
        keys_functionDecl? owners file other isClear kindIs]
    next =>
      split
      · have inner := outline_itemOwner isClear parent
        rw [child?_bare (loose_of_clear isClear)]
        cases found : node.child? .body with
        | none => simp only [Option.map_none, Option.getD_none]
        | some body =>
          have member := Node.mem_of_child? found
          have bodyClear := clear_of_mem isClear member
          rw [Option.map_some, Option.map_some, Option.map_some, Option.getD_some,
            Option.getD_some, List.map_flatMap, List.map_flatMap]
          refine flatMap_namedChildren_bare (fun n inside _ => ?_) fun n _ comment => ?_
          · exact below body member n inside (clear_of_mem bodyClear inside) inner _
          · rw [functionsOf_comment other _ comment]
            rfl
      · rfl

/-- The keys of a clear tree are those of the bare one. -/
theorem keys_bare (file other : String) {root : RustNode} (isClear : reading.clear root = true)
    (parent : RustKind) :
    (ofTree file (reading.bare parent root)).keys = (ofTree other root).keys := by
  refine Prod.mk_inj.2 ⟨rfl, ?_⟩
  rw [ofTree, ofTree, functionsOfAll_eq, functionsOfAll_eq, List.map_flatMap, List.map_flatMap]
  refine flatMap_namedChildren_bare (fun n member _ => ?_) fun n _ comment => ?_
  · exact keys_functionsOf file other (clear_of_mem isClear member) rfl root.kind
  · rw [functionsOf_comment other none comment]
    rfl

end ParamChain.Frontend.RustModel
