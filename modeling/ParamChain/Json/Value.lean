import ParamChain.Number.Binary64

/-
This file holds JSON values. A number is a whole number where the text wrote one that fits
sixty-four bits, and a double otherwise. The members of an object read from text are in ascending
order of their names and each name stands once; an object that is only written keeps the order in
which its members were given.
-/

namespace ParamChain

/-- A JSON value. -/
inductive Json where
  | null
  | bool (value : Bool)
  | int (value : Int)
  | float (value : Number.Binary64)
  | str (value : String)
  | arr (items : List Json)
  | obj (members : List (String × Json))
  deriving Repr, Inhabited

namespace Json

/-- The member of an object with the given name. -/
def member? (members : List (String × Json)) (name : String) : Option Json :=
  (members.find? fun m => m.1 == name).map Prod.snd

/-- The member with the given name, `null` where there is none. -/
def get (value : Json) (name : String) : Json :=
  match value with
  | .obj members => (member? members name).getD .null
  | _ => .null

/-- Put a member in its place, replacing one of the same name. -/
def insertMember (name : String) (value : Json) :
    List (String × Json) → List (String × Json)
  | [] => [(name, value)]
  | (other, old) :: rest =>
    if name < other then (name, value) :: (other, old) :: rest
    else if name = other then (name, value) :: rest
    else (other, old) :: insertMember name value rest

/-- A text value, if it is one. -/
def text? : Json → Option String
  | .str s => some s
  | _ => none

/-- A natural number below `2 ^ 64`, if it is one. -/
def size? : Json → Option Nat
  | .int n => if 0 ≤ n && n < 0x10000000000000000 then some n.toNat else none
  | _ => none

/-- All items of a list read by one reader. -/
def list? {α : Type} (item : Json → Option α) : Json → Option (List α)
  | .arr items => items.mapM item
  | _ => none

/-- A value that may be `null`. -/
def option? {α : Type} (item : Json → Option α) : Json → Option (Option α)
  | .null => some none
  | v => (item v).map some

end Json

end ParamChain
