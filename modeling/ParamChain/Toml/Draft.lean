import ParamChain.Json.Value

/-
This file holds the tables of a TOML document while it is read. A table comes about in three
ways: by a header of its own, on the way to a table or key further down, or as part of a dotted
key. A header may still come for a table that was only on the way to another one, but for no
other, and a dotted key may extend only what dotted keys made. No key is given twice.
-/

namespace ParamChain.Toml

/-- What stands under a key so far. -/
inductive Draft where
  /-- A value that is complete. -/
  | value (content : Json)
  /-- A table, whether it had a header, and whether a dotted key made it. -/
  | table (headed dotted : Bool) (members : List (String × Draft))
  /-- A list of tables, the last of which is still open. -/
  | tables (earlier : List (List (String × Draft))) (latest : List (String × Draft))
  deriving Inhabited

namespace Draft

/-- The members of a table. -/
abbrev Members : Type := List (String × Draft)

/-- What stands under a name. -/
def find? (members : Members) (name : String) : Option Draft :=
  (members.find? fun m => m.1 == name).map Prod.snd

/-- Put something under a name, in the place of what stood there or else at the end. -/
def set (name : String) (draft : Draft) : Members → Members
  | [] => [(name, draft)]
  | (other, old) :: rest =>
    if other = name then (name, draft) :: rest else (other, old) :: set name draft rest

/-! ### Headers -/

/-- Change the table that names lead to, making tables on the way where there are none. -/
def within (change : Members → Option Members) : List String → Members → Option Members
  | [], members => change members
  | name :: path, members =>
    match find? members name with
    | none => (within change path []).map fun inner => set name (.table false false inner) members
    | some (.value _) => none
    | some (.table headed dotted inner) =>
      (within change path inner).map fun inner => set name (.table headed dotted inner) members
    | some (.tables earlier latest) =>
      (within change path latest).map fun latest => set name (.tables earlier latest) members

/-- Open a table by its header. -/
def openTable (name : String) (members : Members) : Option Members :=
  match find? members name with
  | none => some (set name (.table true false []) members)
  | some (.table false false inner) => some (set name (.table true false inner) members)
  | _ => none

/-- Open one more table of a list of tables. -/
def openNext (name : String) (members : Members) : Option Members :=
  match find? members name with
  | none => some (set name (.tables [] []) members)
  | some (.tables earlier latest) => some (set name (.tables (latest :: earlier) []) members)
  | _ => none

/-! ### Keys -/

/-- Put a value under a key that has no value yet. -/
def insert (key : String) (content : Json) (members : Members) : Option Members :=
  match find? members key with
  | none => some (set key (.value content) members)
  | some _ => none

/-- Put a value under a dotted key: the names of the tables that lead to it, and its own. -/
def insertDotted (key : String) (content : Json) : List String → Members → Option Members
  | [], members => insert key content members
  | name :: path, members =>
    match find? members name with
    | none =>
      (insertDotted key content path []).map fun inner =>
        set name (.table false true inner) members
    | some (.table false dotted inner) =>
      if path.isEmpty && !dotted then none
      else
        (insertDotted key content path inner).map fun inner =>
          set name (.table false dotted inner) members
    | some (.tables earlier latest) =>
      if path.isEmpty then none
      else
        (insertDotted key content path latest).map fun latest =>
          set name (.tables earlier latest) members
    | _ => none

/-! ### Result -/

mutual

/-- What a draft came to. -/
def toJson : Draft → Json
  | .value content => content
  | .table _ _ members => .obj (membersJson members)
  | .tables earlier latest => .arr ((tablesJson earlier).reverse ++ [.obj (membersJson latest)])

/-- The members of a table as those of an object. -/
def membersJson : List (String × Draft) → List (String × Json)
  | [] => []
  | (name, draft) :: rest => (name, toJson draft) :: membersJson rest

/-- Tables as objects. -/
def tablesJson : List (List (String × Draft)) → List Json
  | [] => []
  | members :: rest => .obj (membersJson members) :: tablesJson rest

end

end Draft

end ParamChain.Toml
