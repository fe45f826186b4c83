import Mathlib.Data.List.Basic
import ParamChain.Chain.Key

/-
This file proves that keys link a call to the declarations that it is meant for, and to no others.

A key is a text: a name, with the name of a type and a dot in front of it for a method. Nothing else
ties a call to a declaration, so all depends on whether the text can be taken apart again. If
neither the names of functions nor those of types have dots, it can: a key without a dot is the name
of a function that belongs to no type, and the one dot of any other key divides type and method. How
the type was written leaves no trace in the key, neither a qualifier nor a pointer in front of it.
-/

namespace ParamChain

open Chain

/-! ### What declarations belong to and what calls are meant for -/

/-- The type of the name `T` under any qualifier, by value or behind one pointer. -/
inductive TypeExpr.Names (T : String) : TypeExpr → Prop where
  | value (qualifier : Option String) : Names T (.named T qualifier)
  | pointer (qualifier : Option String) : Names T (.pointer (.named T qualifier))

/-- The declaration is a method of the type of the name `T`. -/
def FunctionDecl.BelongsTo (d : FunctionDecl) (T : String) : Prop :=
  ∃ type, d.receiver = some type ∧ type.Names T

/-- The declaration is meant by the callee: a function by its name, if it is the method of no named
type, and a method by its name and the name of its type. -/
inductive Callee.Means (d : FunctionDecl) : Callee → Prop where
  | function : (∀ T, ¬ d.BelongsTo T) → Means d (.function d.name)
  | method {type : TypeExpr} {T : String} : type.Names T → d.BelongsTo T →
      Means d (.method (some type) d.name)

/-- The name of a receiver is that of its type, behind one pointer at most. -/
theorem receiverTypeName_eq_some_iff {type : TypeExpr} {T : String} :
    receiverTypeName type = some T ↔ type.Names T := by
  constructor
  · intro named
    match type, named with
    | .named _ qualifier, rfl => exact .value qualifier
    | .pointer (.named _ qualifier), rfl => exact .pointer qualifier
  · rintro (_ | _) <;> rfl

/-- A declaration is keyed by the type that it belongs to. -/
theorem FunctionDecl.owner_eq_some_iff {d : FunctionDecl} {T : String} :
    d.receiver.bind receiverTypeName = some T ↔ d.BelongsTo T := by
  simp only [Option.bind_eq_some_iff, receiverTypeName_eq_some_iff, FunctionDecl.BelongsTo]

theorem FunctionDecl.owner_eq_none_iff {d : FunctionDecl} :
    d.receiver.bind receiverTypeName = none ↔ ∀ T, ¬ d.BelongsTo T := by
  simp only [Option.eq_none_iff_forall_ne_some, ← FunctionDecl.owner_eq_some_iff, ne_eq]

/-! ### Names without dots -/

/-- There is no dot in the name. -/
def Dotless (name : String) : Prop :=
  '.' ∉ name.toList

instance (name : String) : Decidable (Dotless name) :=
  inferInstanceAs (Decidable (_ ∉ _))

/-- Neither the name of the declaration nor that of its type has a dot. -/
structure FunctionDecl.Dotless (d : FunctionDecl) : Prop where
  name : ParamChain.Dotless d.name
  owner : ∀ T, d.BelongsTo T → ParamChain.Dotless T

theorem FunctionDecl.Dotless.owner_dotless {d : FunctionDecl} (dotless : d.Dotless) :
    ∀ T ∈ d.receiver.bind receiverTypeName, ParamChain.Dotless T :=
  fun T named => dotless.owner T (FunctionDecl.owner_eq_some_iff.1 named)

instance (d : FunctionDecl) : Decidable d.Dotless :=
  decidable_of_iff
    (ParamChain.Dotless d.name ∧ ∀ T ∈ d.receiver.bind receiverTypeName, ParamChain.Dotless T)
    ⟨fun ⟨name, owner⟩ => ⟨name, fun T belongs =>
      owner T (FunctionDecl.owner_eq_some_iff.2 belongs)⟩,
    fun dotless => ⟨dotless.name, dotless.owner_dotless⟩⟩

/-- Neither the name of what is called nor that of the type of its receiver has a dot. -/
def Callee.Dotless : Callee → Prop
  | .function name => ParamChain.Dotless name
  | .method receiver name =>
    ParamChain.Dotless name ∧ ∀ type ∈ receiver, ∀ T, type.Names T → ParamChain.Dotless T
  | .unresolved => True

/-- A name behind that of a type, if there is one. -/
def qualified (owner : Option String) (name : String) : String :=
  match owner with
  | some T => T ++ "." ++ name
  | none => name

theorem toList_qualified (T name : String) :
    (qualified (some T) name).toList = T.toList ++ '.' :: name.toList := by
  rw [qualified, String.toList_append, String.toList_append, List.append_assoc]
  rfl

/-- The key of a method has a dot in it. -/
theorem dot_mem_qualified (T name : String) : '.' ∈ (qualified (some T) name).toList := by
  rw [toList_qualified]
  exact List.mem_append_right _ List.mem_cons_self

/-- Type and name can be read off a text in which dots stand between them alone. -/
theorem qualified_inj {a b : Option String} {m n : String} (owner : ∀ T ∈ a, Dotless T)
    (first : Dotless m) (second : Dotless n) :
    qualified a m = qualified b n ↔ a = b ∧ m = n := by
  refine ⟨fun same => ?_, fun ⟨owners, names⟩ => by rw [owners, names]⟩
  cases a with
  | none =>
    cases b with
    | none => exact ⟨rfl, same⟩
    | some U =>
      have dotted : '.' ∈ m.toList := by
        rw [show m = qualified (some U) n from same]
        exact dot_mem_qualified U n
      exact absurd dotted first
  | some T =>
    cases b with
    | none =>
      have dotted : '.' ∈ n.toList := by
        rw [show n = qualified (some T) m from same.symm]
        exact dot_mem_qualified T m
      exact absurd dotted second
    | some U =>
      have texts := congrArg String.toList same
      rw [toList_qualified, toList_qualified,
        List.append_cons_inj_of_notMem (owner T rfl) first] at texts
      exact ⟨congrArg some (String.toList_inj.1 texts.1), String.toList_inj.1 texts.2.2⟩

/-! ### Keys -/

theorem declKey_eq_qualified (d : FunctionDecl) :
    declKey d = qualified (d.receiver.bind receiverTypeName) d.name := by
  rw [declKey]
  cases d.receiver.bind receiverTypeName <;> rfl

theorem calleeKey_method (receiver : Option TypeExpr) (name : String) :
    calleeKey (.method receiver name) =
      (receiver.bind receiverTypeName).map fun T => qualified (some T) name := rfl

/-- Without dots in the names, a call has the key of a declaration just if it means it. -/
theorem calleeKey_eq_declKey_iff {d : FunctionDecl} {callee : Callee} (dotless : d.Dotless)
    (plain : callee.Dotless) : calleeKey callee = some (declKey d) ↔ callee.Means d := by
  rw [declKey_eq_qualified]
  cases callee with
  | unresolved =>
    constructor
    · intro same
      cases same
    · intro means
      cases means
  | function name =>
    have reads : calleeKey (.function name) = some (qualified none name) := rfl
    rw [reads, Option.some_inj, qualified_inj (fun T absent => by cases absent) plain dotless.name]
    constructor
    · rintro ⟨free, rfl⟩
      exact .function (FunctionDecl.owner_eq_none_iff.1 free.symm)
    · rintro ⟨free⟩
      exact ⟨(FunctionDecl.owner_eq_none_iff.2 free).symm, rfl⟩
  | method receiver name =>
    rw [calleeKey_method, Option.map_eq_some_iff]
    constructor
    · rintro ⟨T, named, same⟩
      obtain ⟨type, rfl, names⟩ := Option.bind_eq_some_iff.1 named
      have names := receiverTypeName_eq_some_iff.1 names
      have owner : ∀ U ∈ some T, Dotless U := by
        rintro _ ⟨⟩
        exact plain.2 type rfl T names
      obtain ⟨owners, rfl⟩ := (qualified_inj owner plain.1 dotless.name).1 same
      exact .method names (FunctionDecl.owner_eq_some_iff.1 owners.symm)
    · rintro (_ | ⟨names, belongs⟩)
      refine ⟨_, receiverTypeName_eq_some_iff.2 names, ?_⟩
      rw [FunctionDecl.owner_eq_some_iff.2 belongs]

/-- Without dots in the names, declarations have one key just if they agree in type and name. -/
theorem declKey_eq_iff {d e : FunctionDecl} (first : d.Dotless) (second : e.Dotless) :
    declKey d = declKey e ↔ (∀ T, d.BelongsTo T ↔ e.BelongsTo T) ∧ d.name = e.name := by
  have owners : d.receiver.bind receiverTypeName = e.receiver.bind receiverTypeName ↔
      ∀ T, d.BelongsTo T ↔ e.BelongsTo T := by
    rw [Option.ext_iff]
    simp only [FunctionDecl.owner_eq_some_iff]
  rw [declKey_eq_qualified, declKey_eq_qualified,
    qualified_inj first.owner_dotless first.name second.name, owners]

/-- Where names have no dots, a call leads to a declaration just if it is meant for it, and
declarations share a key just if they have one name and belong to one type, if to any. -/
theorem keys_link_what_is_meant (d : FunctionDecl) (dotless : d.Dotless) :
    (∀ call : CallSite, call.callee.Dotless →
      (callKey call = some (declKey d) ↔ call.callee.Means d)) ∧
      ∀ e : FunctionDecl, e.Dotless →
        (declKey d = declKey e ↔ (∀ T, d.BelongsTo T ↔ e.BelongsTo T) ∧ d.name = e.name) :=
  ⟨fun _ plain => calleeKey_eq_declKey_iff dotless plain,
    fun _ other => declKey_eq_iff dotless other⟩

/-- A method of `T` that has a pointer for its receiver. -/
def pushDecl : FunctionDecl :=
  ⟨"push", some (.pointer (.named "T" none)), [], [], ⟨"a.go", 1, 1⟩⟩

/-- A method of the same name and type, with the receiver by value and under a qualifier. -/
def pushAgain : FunctionDecl :=
  ⟨"push", some (.named "T" (some "p")), [], [], ⟨"b.go", 1, 1⟩⟩

/-- A call of a function of that name. -/
def pushCall : CallSite :=
  ⟨.function "push", ⟨"c.go", 1, 1⟩⟩

theorem pushKeys_link :
    pushDecl.Dotless ∧ pushAgain.Dotless ∧ pushCall.callee.Dotless ∧
      callKey pushCall ≠ some (declKey pushDecl) ∧ declKey pushDecl = declKey pushAgain := by
  have belongs : pushDecl.BelongsTo "T" := ⟨_, rfl, .pointer none⟩
  have first : pushDecl.Dotless := by decide
  have second : pushAgain.Dotless := by decide
  have plain : pushCall.callee.Dotless := show Dotless "push" by decide
  refine ⟨first, second, plain, fun leads => ?_, ?_⟩
  · obtain ⟨free⟩ := ((keys_link_what_is_meant pushDecl first).1 pushCall plain).1 leads
    exact free "T" belongs
  · refine ((keys_link_what_is_meant pushDecl first).2 pushAgain second).2 ⟨fun T => ?_, rfl⟩
    rw [← FunctionDecl.owner_eq_some_iff, ← FunctionDecl.owner_eq_some_iff]
    rfl

/-- With dots in names this fails: a function may have the key of a method. -/
example : declKey ⟨"T.push", none, [], [], ⟨"a.go", 1, 1⟩⟩ = declKey pushDecl := by
  decide

end ParamChain
