import ParamChain.Proofs.BareTrees

/-
This file proves that comments in a Go file do not change its keys, where they are clear of what is
found by its place.

The walk and every function that it uses are taken through in turn: each gives for a bare node what
it gives for the node, up to the outline of types, from scopes that are alike in outline. A function
that looks for a child by its role or its kind passes comments over. One that takes the first named
child needs that this child is no comment, and one that pairs the children of two lists by number
needs that neither list has a comment in it.
-/

namespace ParamChain.Frontend.GoModel

open ParseTree Reading Chain

/-! ### What counts -/

/-- The kinds of nodes of which the first named child counts. -/
def countsFirst : GoKind → Bool
  | .packageClause | .pointerType | .parenthesizedType | .parenthesizedExpression => true
  | _ => false

/-- The lists of a declaration that are paired by number. -/
def pairedLists : GoKind → List Role
  | .shortVarDeclaration => [.left, .right]
  | .varSpec => [.value]
  | _ => []

/-- Whether a call is an allocation. -/
def allocates (call : GoNode) : Bool :=
  (call.child? .function).any fun function => function.text == "new"

/-- The text counts of every name and operator, of whatever a package clause holds, and of a
function that is `new`. No comment is the first named child of a node where that counts, none stands
in a list that is paired by number, and none is the first argument of an allocation. -/
def reading : Reading GoKind where
  comment := .comment
  reads parent node :=
    node.kind == .identifier || node.kind == .typeIdentifier || node.plays .name ||
      node.plays .selector || node.plays .operator || parent == .packageClause ||
      (node.plays .function && node.text == "new")
  placed node :=
    (!countsFirst node.kind || leads .comment Node.named node.children) &&
      ((pairedLists node.kind).all fun role =>
        (node.child? role).all fun list => uncommented .comment list.children) &&
      (!allocates node ||
        (node.child? .arguments).all fun list => leads .comment Node.named list.children)

section

variable {node child : GoNode} (isClear : reading.clear node = true)

include isClear

/-- No comment comes first where the first named child counts. -/
theorem leads_of_clear (counts : countsFirst node.kind = true) :
    leads reading.comment Node.named node.children = true := by
  have here := placed_of_clear isClear
  simp only [reading, Bool.and_eq_true, counts] at here
  exact here.1.1

/-- No comment stands in a list that is paired by number. -/
theorem uncommented_of_clear {role : Role} (paired : role ∈ pairedLists node.kind)
    (found : node.child? role = some child) :
    uncommented reading.comment child.children = true := by
  have here := placed_of_clear isClear
  simp only [reading, Bool.and_eq_true] at here
  have list := List.all_eq_true.1 here.1.2 role paired
  rwa [found] at list

/-- No comment is the first argument of an allocation. -/
theorem argument_of_clear (allocation : allocates node = true)
    (found : node.child? .arguments = some child) :
    leads reading.comment Node.named child.children = true := by
  have here := placed_of_clear isClear
  simp only [reading, Bool.and_eq_true, allocation, found] at here
  exact here.2

end

/-- Whatever is found by its kind is found in the bare node as well. -/
theorem filter_kind_bare (node : GoNode) (parent : GoKind) (isOne : GoKind → Bool)
    (noComment : isOne .comment = false) :
    (reading.bare parent node).namedChildren.filter (fun n => isOne n.kind) =
      (node.namedChildren.filter fun n => isOne n.kind).map (reading.bare node.kind) := by
  refine filter_namedChildren_bare (fun n => by rw [kind_bare]) fun n holds => ?_
  refine Bool.eq_false_iff.2 fun comment => ?_
  have kindIs : n.kind = .comment := eq_of_beq comment
  rw [kindIs, noComment] at holds
  exact Bool.false_ne_true holds

/-! ### Types -/

theorem firstTypeExpr_eq (p : GoNode → Bool) (nodes : List GoNode) :
    firstTypeExpr p nodes = (nodes.find? p).map typeExpr := by
  rw [eq_elim_find? rfl (fun _ _ => firstTypeExpr.eq_2 ..) nodes]
  cases nodes.find? p <;> rfl

/-- The type expression of a node, from those of its children. -/
def typeStep (node : GoNode) : TypeExpr :=
  match node.kind with
  | .typeIdentifier => .named node.text none
  | .qualifiedType => qualified (node.child? .package) (node.child? .name) node.text
  | .genericType => ((node.child? .type).map typeExpr).getD (otherType node.text)
  | .pointerType => ((node.firstNamed?.map typeExpr).map .pointer).getD (otherType node.text)
  | .parenthesizedType => (node.firstNamed?.map typeExpr).getD (otherType node.text)
  | _ => otherType node.text

/-- The type expression of a node depends on those of its children alone. -/
theorem typeExpr_eq (node : GoNode) : typeExpr node = typeStep node := by
  obtain ⟨kind, role, named, span, text, children⟩ := node
  unfold typeExpr typeStep
  simp only [firstTypeExpr_eq, Node.firstNamed?, Node.namedChildren, List.head?_filter]
  rfl

theorem outline_qualified (package other name : Option GoNode) (a b : String) (parent : GoKind)
    (hasPackage : other.isSome = package.isSome)
    (nameCounts : ∀ n ∈ name, reading.reads parent n = true) :
    (qualified other (name.map (reading.bare parent)) a).outline =
      (qualified package name b).outline := by
  cases name with
  | none => cases other <;> cases package <;> exact TypeExpr.outline_other a b
  | some name =>
    have text := text_bare_of_reads (nameCounts name rfl)
    cases other <;> cases package
    case some.some =>
      rw [Option.map_some, qualified, text]
      rfl
    case none.none => exact TypeExpr.outline_other a b
    all_goals cases hasPackage

/-- The type that a bare node stands for is alike in outline. -/
theorem outline_typeExpr {node : GoNode} (isClear : reading.clear node = true) (parent : GoKind) :
    (typeExpr (reading.bare parent node)).outline = (typeExpr node).outline := by
  induction node using Visiting.everywhere.induction generalizing parent with
  | step node inductionHypothesis =>
    have loose := loose_of_clear isClear
    have each {child : GoNode} (member : child ∈ node.children) (kind : GoKind) :=
      inductionHypothesis child member (clear_of_mem isClear member) kind
    rw [typeExpr_eq, typeExpr_eq, typeStep, typeStep, kind_bare]
    cases kindIs : node.kind
    case typeIdentifier =>
      have counts : reading.reads parent node = true := by simp [reading, kindIs]
      rw [text_bare_of_reads counts]
    case qualifiedType =>
      dsimp only
      rw [child?_bare loose, child?_bare loose]
      refine outline_qualified _ _ _ _ _ _ Option.isSome_map fun n found => ?_
      simp [reading, plays_of_child? found]
    case genericType =>
      dsimp only
      refine TypeExpr.outline_getD ?_ _ _
      rw [child?_bare loose]
      exact outline_map_bare fun n found => each (Node.mem_of_child? found) _
    case pointerType =>
      dsimp only
      refine TypeExpr.outline_getD ?_ _ _
      rw [firstNamed?_bare (leads_of_clear isClear (by rw [kindIs]; rfl)),
        TypeExpr.outline_map_pointer, TypeExpr.outline_map_pointer]
      exact congrArg _ (outline_map_bare fun n found => each (Node.mem_of_firstNamed? found) _)
    case parenthesizedType =>
      dsimp only
      refine TypeExpr.outline_getD ?_ _ _
      rw [firstNamed?_bare (leads_of_clear isClear (by rw [kindIs]; rfl))]
      exact outline_map_bare fun n found => each (Node.mem_of_firstNamed? found) _
    all_goals exact TypeExpr.outline_other _ _

theorem outline_child?_typeExpr {node : GoNode} (isClear : reading.clear node = true)
    (parent : GoKind) (role : Role) :
    (((reading.bare parent node).child? role).map typeExpr).map TypeExpr.outline =
      ((node.child? role).map typeExpr).map TypeExpr.outline := by
  rw [child?_bare (loose_of_clear isClear)]
  exact outline_map_bare fun n found => outline_typeExpr (clear_of_child? isClear found) _

/-! ### Parameters -/

/-- Names are found by their role, where no comment is. -/
theorem declaredNames_bare {node : GoNode} (isClear : reading.clear node = true) (parent : GoKind) :
    declaredNames (reading.bare parent node) = declaredNames node := by
  rw [declaredNames, declaredNames, childrenAs_bare (loose_of_clear isClear),
    List.map_map]
  refine List.map_congr_left fun n member => text_bare_of_reads ?_
  simp [reading, (List.mem_filter.1 member).2]

theorem outline_parameter? {node : GoNode} (isClear : reading.clear node = true) (parent : GoKind) :
    (parameter? (reading.bare parent node)).map Parameter.outline =
      (parameter? node).map Parameter.outline := by
  rw [parameter?, parameter?, child?_bare (loose_of_clear isClear), kind_bare,
    declaredNames_bare isClear]
  cases found : node.child? .type with
  | none => rfl
  | some type =>
    have alike := outline_typeExpr (clear_of_child? isClear found)
    cases node.kind
    case parameterDeclaration | variadicParameterDeclaration =>
      exact congrArg (fun t => some (declaredNames node, t)) (alike _)
    all_goals rfl

theorem parameter?_comment {node : GoNode} (comment : reading.isComment node = true) :
    parameter? node = none := by
  have kind : node.kind = .comment := eq_of_beq comment
  rw [parameter?, kind]
  cases node.child? .type <;> rfl

/-- Parameters are found by their kind, so comments between them do not count. -/
theorem outline_parameters {list : GoNode} (isClear : reading.clear list = true) (parent : GoKind) :
    (parameters (reading.bare parent list)).map Parameter.outline =
      (parameters list).map Parameter.outline := by
  rw [parameters, parameters, List.map_filterMap, List.map_filterMap]
  refine filterMap_namedChildren_bare (fun n member _ => ?_) fun n _ comment => ?_
  · exact outline_parameter? (clear_of_mem isClear member) list.kind
  · rw [parameter?_comment comment]
    rfl

/-- The receiver is the first group of its list, whatever comments stand before it. -/
theorem outline_receiver? {list : GoNode} (isClear : reading.clear list = true) (parent : GoKind) :
    (receiver? (reading.bare parent list)).map (fun r => (r.1, r.2.outline)) =
      (receiver? list).map fun r => (r.1, r.2.outline) := by
  have groups := filter_kind_bare list parent fun kind => kind == .parameterDeclaration
  rw [receiver?, receiver?, ← List.head?_filter, groups rfl, List.head?_map, List.head?_filter]
  cases found : list.namedChildren.find? fun n => n.kind == .parameterDeclaration with
  | none => rfl
  | some decl =>
    have member : decl ∈ list.children :=
      List.mem_of_mem_filter (List.mem_of_find?_eq_some found)
    have declClear := clear_of_mem isClear member
    rw [Option.map_some, Option.bind_some, Option.bind_some,
      child?_bare (loose_of_clear declClear), declaredNames_bare declClear]
    cases typed : decl.child? .type with
    | none => rfl
    | some type =>
      have alike := outline_typeExpr (clear_of_child? declClear typed) decl.kind
      exact congrArg (fun t => some (declaredNames decl, t)) alike

/-! ### The types of values -/

theorem outline_allocatedType {target : GoNode} (isClear : reading.clear target = true)
    (parent : GoKind) :
    (allocatedType (reading.bare parent target)).map TypeExpr.outline =
      (allocatedType target).map TypeExpr.outline := by
  rw [allocatedType, allocatedType, kind_bare]
  cases kindIs : target.kind
  case identifier =>
    have counts : reading.reads parent target = true := by simp [reading, kindIs]
    rw [text_bare_of_reads counts]
  case selectorExpression =>
    dsimp only
    rw [child?_bare (loose_of_clear isClear), child?_bare (loose_of_clear isClear)]
    cases found : target.child? .selector with
    | none => rfl
    | some selector =>
      have counts : reading.reads target.kind selector = true := by
        simp [reading, plays_of_child? found]
      cases target.child? .operand with
      | none => rfl
      | some operand =>
        have name := text_bare_of_reads counts
        exact congrArg (fun text => some (TypeExpr.named text none)) name
  all_goals exact congrArg some (outline_typeExpr isClear parent)

/-- Whether an allocation is called can be told from the bare node. -/
theorem isNew_bare {function : GoNode} (plays : function.plays .function = true)
    (parent : GoKind) :
    (reading.bare parent function).text = "new" ↔ function.text = "new" :=
  text_bare_eq_iff (by decide) fun isNew => by simp [reading, plays, isNew]

theorem outline_callType {call : GoNode} (isClear : reading.clear call = true) (parent : GoKind) :
    (callType (reading.bare parent call)).map TypeExpr.outline =
      (callType call).map TypeExpr.outline := by
  have loose := loose_of_clear isClear
  rw [callType, callType, child?_bare loose, child?_bare loose]
  cases found : call.child? .function with
  | none => rfl
  | some function =>
    simp only [Option.map_some, Option.bind_eq_bind, Option.bind_some,
      isNew_bare (plays_of_child? found)]
    split
    next isNew =>
      have allocation : allocates call = true := by simp [allocates, found, isNew]
      cases given : call.child? .arguments with
      | none => rfl
      | some list =>
        have leads := argument_of_clear isClear allocation given
        have listClear := clear_of_child? isClear given
        rw [Option.map_some, Option.bind_some, Option.bind_some, firstNamed?_bare leads]
        cases first : list.firstNamed? with
        | none => rfl
        | some target =>
          have alike := outline_allocatedType (clear_of_firstNamed? listClear first) list.kind
          rw [Option.map_some, Option.bind_some, Option.bind_some,
            TypeExpr.outline_map_pointer, TypeExpr.outline_map_pointer, alike]
    next => rfl

theorem firstValueType_eq (p : GoNode → Bool) (nodes : List GoNode) :
    firstValueType p nodes = (nodes.find? p).bind valueType := by
  rw [eq_elim_find? rfl (fun _ _ => firstValueType.eq_2 ..) nodes]
  cases nodes.find? p <;> rfl

/-- The type of a value, from those of its children. -/
def valueStep (node : GoNode) : Option TypeExpr :=
  match node.kind with
  | .compositeLiteral => (node.child? .type).map typeExpr
  | .unaryExpression =>
    if (node.child? .operator).map Node.text = some "&" then
      ((node.child? .operand).bind valueType).map .pointer
    else none
  | .callExpression => callType node
  | .parenthesizedExpression => node.firstNamed?.bind valueType
  | _ => none

theorem valueType_eq (node : GoNode) : valueType node = valueStep node := by
  obtain ⟨kind, role, named, span, text, children⟩ := node
  unfold valueType valueStep
  simp only [firstValueType_eq, Node.firstNamed?, Node.namedChildren, List.head?_filter]
  rfl

/-- The type of a value is alike in the bare tree. -/
theorem outline_valueType {node : GoNode} (isClear : reading.clear node = true) (parent : GoKind) :
    (valueType (reading.bare parent node)).map TypeExpr.outline =
      (valueType node).map TypeExpr.outline := by
  induction node using Visiting.everywhere.induction generalizing parent with
  | step node inductionHypothesis =>
    have loose := loose_of_clear isClear
    have each {child : GoNode} (member : child ∈ node.children) (kind : GoKind) :=
      inductionHypothesis child member (clear_of_mem isClear member) kind
    rw [valueType_eq, valueType_eq, valueStep, valueStep, kind_bare]
    cases kindIs : node.kind
    case compositeLiteral => exact outline_child?_typeExpr isClear parent .type
    case unaryExpression =>
      have operator : ((reading.bare parent node).child? .operator).map Node.text =
          (node.child? .operator).map Node.text := by
        rw [child?_bare loose, Option.map_map]
        refine Option.map_congr fun n found => text_bare_of_reads ?_
        simp [reading, plays_of_child? found]
      dsimp only
      rw [operator]
      split
      · rw [TypeExpr.outline_map_pointer, TypeExpr.outline_map_pointer, child?_bare loose]
        refine congrArg _ (outline_bind_bare fun n found => ?_)
        exact each (Node.mem_of_child? found) _
      · rfl
    case callExpression => exact outline_callType isClear parent
    case parenthesizedExpression =>
      dsimp only
      rw [firstNamed?_bare (leads_of_clear isClear (by rw [kindIs]; rfl))]
      exact outline_bind_bare fun n found => each (Node.mem_of_firstNamed? found) _
    all_goals rfl

/-! ### Bindings -/

/-- The types of the values in a list without comments are alike, number by number. -/
theorem outline_valueTypes {list : Option GoNode} (parent : GoKind)
    (isClear : ∀ l ∈ list,
      reading.clear l = true ∧ uncommented reading.comment l.children = true) :
    (valueTypes (list.map (reading.bare parent))).map (Option.map TypeExpr.outline) =
      (valueTypes list).map (Option.map TypeExpr.outline) := by
  cases list with
  | none => rfl
  | some list =>
    obtain ⟨listClear, free⟩ := isClear list rfl
    simp only [valueTypes, Option.map_some, Option.getD_some,
      namedChildren_bare_of_uncommented free, List.map_map]
    refine List.map_congr_left fun n member => ?_
    exact outline_valueType (clear_of_mem listClear (List.mem_of_mem_filter member)) _

theorem outline_join_getElem? (types : List (Option TypeExpr)) (i : Nat) :
    types[i]?.join.map TypeExpr.outline = (types.map (Option.map TypeExpr.outline))[i]?.join := by
  rw [List.getElem?_map]
  cases types[i]? with
  | none => rfl
  | some type => cases type <;> rfl

variable {s t : Scopes}

/-- Targets are paired with types by number, and one that is no name takes up a number all the
same. -/
theorem outline_bindTargets {types others : List (Option TypeExpr)}
    (alike : types.map (Option.map TypeExpr.outline) = others.map (Option.map TypeExpr.outline))
    (scopes : s.outline = t.outline) (parent : GoKind) (i : Nat) (targets : List GoNode) :
    (bindTargets types i (targets.map (reading.bare parent)) s).outline =
      (bindTargets others i targets t).outline := by
  induction targets generalizing i s t with
  | nil => exact scopes
  | cons target rest inductionHypothesis =>
    rw [List.map_cons, bindTargets, bindTargets]
    refine inductionHypothesis ?_ (i + 1)
    rw [kind_bare]
    cases isName : target.kind == .identifier with
    | false => exact scopes
    | true =>
      have counts : reading.reads parent target = true := by simp [reading, isName]
      rw [text_bare_of_reads counts, Scopes.isBoundHere_congr scopes]
      cases t.isBoundHere target.text with
      | true => exact scopes
      | false =>
        refine Scopes.bind_congr scopes target.text ?_
        rw [outline_join_getElem?, alike, outline_join_getElem?]

/-- A short declaration pairs targets and values by number; neither list has a comment in it. -/
theorem outline_bindShortVar {node : GoNode} (isClear : reading.clear node = true)
    (kindIs : node.kind = .shortVarDeclaration) (scopes : s.outline = t.outline)
    (parent : GoKind) :
    (bindShortVar (reading.bare parent node) s).outline = (bindShortVar node t).outline := by
  have loose := loose_of_clear isClear
  have paired (role : Role) (isOne : role ∈ [Role.left, .right]) :
      role ∈ pairedLists node.kind := by rwa [kindIs]
  rw [bindShortVar, bindShortVar, child?_bare loose, child?_bare loose]
  cases found : node.child? .left with
  | none => exact scopes
  | some left =>
    have free := uncommented_of_clear isClear (paired .left (by decide)) found
    rw [Option.map_some]
    dsimp only
    rw [namedChildren_bare_of_uncommented free]
    refine outline_bindTargets (outline_valueTypes _ fun right given => ?_) scopes _ 0 _
    exact ⟨clear_of_child? isClear given,
      uncommented_of_clear isClear (paired .right (by decide)) given⟩

theorem outline_bindNames {types others : List (Option TypeExpr)}
    (alike : types.map (Option.map TypeExpr.outline) = others.map (Option.map TypeExpr.outline))
    (scopes : s.outline = t.outline) (i : Nat) (names : List String) :
    (bindNames types i names s).outline = (bindNames others i names t).outline := by
  induction names generalizing i s t with
  | nil => exact scopes
  | cons name rest inductionHypothesis =>
    refine inductionHypothesis (Scopes.bind_congr scopes name ?_) (i + 1)
    rw [outline_join_getElem?, alike, outline_join_getElem?]

theorem outline_foldl_bind {type other : TypeExpr} (alike : type.outline = other.outline)
    (scopes : s.outline = t.outline) (names : List String) :
    (names.foldl (fun s name => s.bind name (some type)) s).outline =
      (names.foldl (fun s name => s.bind name (some other)) t).outline := by
  induction names generalizing s t with
  | nil => exact scopes
  | cons name rest inductionHypothesis =>
    exact inductionHypothesis (Scopes.bind_congr scopes name (congrArg some alike))

/-- Variables take the type that is given, or those of the values with their numbers. -/
theorem outline_bindVarSpec {node : GoNode} (isClear : reading.clear node = true)
    (kindIs : node.kind = .varSpec) (scopes : s.outline = t.outline) (parent : GoKind) :
    (bindVarSpec (reading.bare parent node) s).outline = (bindVarSpec node t).outline := by
  have loose := loose_of_clear isClear
  rw [bindVarSpec, bindVarSpec, child?_bare loose, child?_bare loose,
    declaredNames_bare isClear]
  cases found : node.child? .type with
  | some type =>
    exact outline_foldl_bind (outline_typeExpr (clear_of_child? isClear found) _) scopes _
  | none =>
    refine outline_bindNames (outline_valueTypes _ fun list given => ?_) scopes 0 _
    have paired : Role.value ∈ pairedLists node.kind := by
      rw [kindIs]
      exact List.mem_singleton_self _
    exact ⟨clear_of_child? isClear given, uncommented_of_clear isClear paired given⟩

/-! ### Calls -/

/-- What is called has one key in the bare tree and in the tree. -/
theorem key_callee {function : GoNode} (isClear : reading.clear function = true)
    (scopes : s.outline = t.outline) (parent : GoKind) :
    calleeKey (callee (reading.bare parent function) s) = calleeKey (callee function t) := by
  have loose := loose_of_clear isClear
  rw [callee, callee, kind_bare]
  cases kindIs : function.kind
  case identifier =>
    have counts : reading.reads parent function = true := by simp [reading, kindIs]
    rw [text_bare_of_reads counts]
  case selectorExpression =>
    dsimp only
    rw [child?_bare loose, child?_bare loose]
    cases found : function.child? .selector with
    | none => rfl
    | some selector =>
      have counts : reading.reads function.kind selector = true := by
        simp [reading, plays_of_child? found]
      simp only [Option.map_some, text_bare_of_reads counts]
      refine calleeKey_method_congr _ ?_
      cases function.child? .operand with
      | none => rfl
      | some operand =>
        rw [Option.map_some, Option.bind_some, Option.bind_some, kind_bare]
        cases isName : operand.kind == .identifier with
        | false => rfl
        | true =>
          have nameCounts : reading.reads function.kind operand = true := by
            simp [reading, isName]
          rw [if_pos rfl, if_pos rfl, text_bare_of_reads nameCounts]
          exact Scopes.lookup_congr scopes operand.text
  all_goals rfl

/-! ### Walks -/

theorem outline_literalFrame {node : GoNode} (isClear : reading.clear node = true)
    (parent : GoKind) :
    Frame.outline (literalFrame (reading.bare parent node)) =
      Frame.outline (literalFrame node) := by
  rw [literalFrame, literalFrame, child?_bare (loose_of_clear isClear)]
  cases found : node.child? .parameters with
  | none => rfl
  | some list =>
    exact outline_bindParameters_congr rfl (outline_parameters (clear_of_child? isClear found) _)

theorem key_callAt {call : GoNode} (isClear : reading.clear call = true)
    (scopes : s.outline = t.outline) (file other : String) (parent : GoKind) :
    callKey (callAt file (reading.bare parent call) s) = callKey (callAt other call t) := by
  dsimp only [callKey, callAt]
  rw [child?_bare (loose_of_clear isClear)]
  cases found : call.child? .function with
  | none => rfl
  | some function => exact key_callee (clear_of_child? isClear found) scopes call.kind

/-- Every declaration binds its names to types that are alike. -/
theorem outline_declare {node : GoNode} (isClear : reading.clear node = true)
    (scopes : s.outline = t.outline) (parent : GoKind) :
    (declare (reading.bare parent node) s).outline = (declare node t).outline := by
  rw [declare, declare, kind_bare]
  cases kindIs : node.kind
  case shortVarDeclaration => exact outline_bindShortVar isClear kindIs scopes parent
  case varSpec => exact outline_bindVarSpec isClear kindIs scopes parent
  case functionLiteral =>
    exact Scopes.prepend_congr scopes (outline_literalFrame isClear parent)
  all_goals exact scopes

/-- The nodes of a clear tree are taken as those of the bare tree are. -/
theorem takenAlike (file other : String) {node : GoNode} (isClear : reading.clear node = true) :
    TakenAlike reading routes binder binder (callAt file) (callAt other) node where
  route parent := by
    dsimp only [routes, route]
    simp only [kind_bare, namedChildren_bare, ← bareAll_eq,
      toList_child?_bare (loose_of_clear isClear)]
    cases node.kind <;> rfl
  declared _ parent _ _ scopes := outline_declare isClear scopes parent
  recorded _ parent _ _ scopes := key_callAt isClear scopes file other parent

/-- A walk sees the same in a clear tree and in the bare one. -/
theorem walk_bare (file other : String) {node : GoNode} (isClear : reading.clear node = true) :
    WalksAlike reading (walk file) (walk other) node :=
  walksAlike (followed file) (followed other) passesOver_comment
    (fun _ => takenAlike file other) isClear

/-! ### Files -/

theorem outline_receiverFrame {a b : Option (List String × TypeExpr)}
    (alike : a.map (fun r => (r.1, r.2.outline)) = b.map fun r => (r.1, r.2.outline)) :
    Frame.outline ((a.map fun r => bindAll [] r.1 r.2).getD []) =
      Frame.outline ((b.map fun r => bindAll [] r.1 r.2).getD []) := by
  have throughOutline (c : Option (List String × TypeExpr)) :
      Frame.outline ((c.map fun r => bindAll [] r.1 r.2).getD []) =
        ((c.map fun r => (r.1, r.2.outline)).map fun r => bindAll [] r.1 r.2).getD [] := by
    cases c with
    | none => rfl
    | some receiver => exact outline_bindAll [] receiver.1 receiver.2
  rw [throughOutline, alike, throughOutline]

theorem outline_bind_receiver? {list : Option GoNode} (parent : GoKind)
    (isClear : ∀ l ∈ list, reading.clear l = true) :
    ((list.map (reading.bare parent)).bind receiver?).map (fun r => (r.1, r.2.outline)) =
      (list.bind receiver?).map fun r => (r.1, r.2.outline) := by
  cases list with
  | none => rfl
  | some list => exact outline_receiver? (isClear list rfl) parent

/-- A function has the keys in the bare tree that it has in the tree. -/
theorem keys_functionDecl? (file other : String) {node : GoNode}
    (isClear : reading.clear node = true) (parent : GoKind) :
    (functionDecl? file (reading.bare parent node)).map FunctionDecl.keys =
      (functionDecl? other node).map FunctionDecl.keys := by
  have loose := loose_of_clear isClear
  have receiver := outline_bind_receiver? node.kind
    fun l (found : node.child? .receiver = some l) => clear_of_child? isClear found
  have groups := outline_getD_bare fun l (found : node.child? .parameters = some l) =>
    outline_parameters (clear_of_child? isClear found) node.kind
  have root := outline_bindParameters_congr (outline_receiverFrame receiver) groups
  rw [functionDecl?, functionDecl?, child?_bare loose, child?_bare loose,
    child?_bare loose, child?_bare loose]
  cases named : node.child? .name with
  | none => rfl
  | some name =>
    refine congrArg some (Prod.mk_inj.2 ⟨declKey_congr ?_ ?_, ?_⟩)
    · refine text_bare_of_reads ?_
      simp [reading, plays_of_child? named]
    · dsimp only
      rw [Option.map_map, Option.map_map]
      have types := congrArg (Option.map Prod.snd) receiver
      rwa [Option.map_map, Option.map_map] at types
    · cases found : node.child? .body with
      | none => rfl
      | some body =>
        have bodyClear := clear_of_child? isClear found
        have scopes : (Scopes.ofRoot _).outline = (Scopes.ofRoot _).outline :=
          congrArg Scopes.ofRoot root
        exact (seen_eq.1 (walk_bare file other bodyClear node.kind _ _ scopes)).2

/-- The package is the first named child of its clause, where no comment comes first. -/
theorem package?_bare {root : GoNode} (isClear : reading.clear root = true) (parent : GoKind) :
    package? (reading.bare parent root).namedChildren = package? root.namedChildren := by
  have clauses := filter_kind_bare root parent fun kind => kind == .packageClause
  rw [package?, package?, clauses rfl, List.getLast?_map]
  cases last : (root.namedChildren.filter fun n => n.kind == .packageClause).getLast? with
  | none => rfl
  | some clause =>
    obtain ⟨member, isClause⟩ := List.mem_filter.1 (List.mem_of_getLast? last)
    have kindIs : clause.kind = .packageClause := eq_of_beq isClause
    have clauseClear := clear_of_mem isClear (List.mem_of_mem_filter member)
    have leads := leads_of_clear clauseClear (by rw [kindIs]; rfl)
    rw [Option.map_some, Option.bind_some, Option.bind_some, firstNamed?_bare leads,
      Option.map_map]
    refine Option.map_congr fun name _ => text_bare_of_reads ?_
    simp [reading, kindIs]

/-- The keys of a clear tree are those of the bare one. -/
theorem keys_bare (file other : String) {root : GoNode} (isClear : reading.clear root = true)
    (parent : GoKind) :
    (ofTree file (reading.bare parent root)).keys = (ofTree other root).keys := by
  have declarations := filter_kind_bare root parent fun kind =>
    kind == .functionDeclaration || kind == .methodDeclaration
  refine Prod.mk_inj.2 ⟨package?_bare isClear parent, ?_⟩
  rw [ofTree, ofTree, functions, functions, declarations rfl, List.map_filterMap,
    List.map_filterMap, List.filterMap_map]
  refine List.filterMap_congr fun n member => ?_
  have inside : n ∈ root.children := List.mem_of_mem_filter (List.mem_of_mem_filter member)
  exact keys_functionDecl? file other (clear_of_mem isClear inside) root.kind

end ParamChain.Frontend.GoModel
