import ParamChain.Fault
import ParamChain.Json.Record
import ParamChain.Text.Quoted

/-
This file holds the two numbers that steer the analysis: how many parameters a function needs to
take part in a chain, and how many calls a chain may have. Settings come in layers, of which a
later one replaces what it mentions. Only at the end does a value that is absent or not positive
give way to the default, so a later layer can switch an earlier value off.
-/

namespace ParamChain

open Json

/-- The settings as given, before the defaults are filled in. -/
structure Settings where
  minRequiredParams : Option Int
  maxRecursionDepth : Option Int
  deriving DecidableEq, Repr, Inhabited

namespace Settings

/-- The least number of parameters where none is set. -/
def defaultMinRequiredParams : Nat := 2

/-- The greatest number of calls where none is set. -/
def defaultMaxRecursionDepth : Nat := 10

/-- Settings that set nothing. -/
def unset : Settings := ⟨none, none⟩

/-- A positive value, or else the default. -/
def positiveOr (fallback : Nat) : Option Int → Nat
  | some v => if 0 < v then v.toNat else fallback
  | none => fallback

/-- The least number of parameters of a function that takes part. -/
def minimum (s : Settings) : Nat :=
  positiveOr defaultMinRequiredParams s.minRequiredParams

/-- The greatest number of calls of a chain. -/
def ceiling (s : Settings) : Nat :=
  positiveOr defaultMaxRecursionDepth s.maxRecursionDepth

/-- Lay the given values over the settings. -/
def overlay (s : Settings) (minRequiredParams maxRecursionDepth : Option Int) : Settings :=
  ⟨minRequiredParams.or s.minRequiredParams, maxRecursionDepth.or s.maxRecursionDepth⟩

/-- Whether a number fits sixty-four bits with a sign. -/
def fits (n : Int) : Bool :=
  -0x8000000000000000 ≤ n && n < 0x8000000000000000

/-- A value that sets a number, or `null` for one that sets nothing, or what is wrong with it. -/
def readNumber : Json → Except String (Option Int)
  | .null => .ok none
  | .int n =>
    if fits n then .ok (some n)
    else .error ("invalid value: integer `" ++ toString n ++ "`, expected i64")
  | .float x => .error ("invalid type: floating point `" ++ x.render ++ "`, expected i64")
  | .bool b =>
    .error ("invalid type: boolean `" ++ (if b then "true" else "false") ++ "`, expected i64")
  | .str s => .error ("invalid type: string " ++ Text.quoted s ++ ", expected i64")
  | .arr _ => .error "invalid type: sequence, expected i64"
  | .obj _ => .error "invalid type: map, expected i64"

/-- A member that sets a number; one that is absent sets nothing. -/
def readMember (members : List (String × Json)) (name : String) : Except String (Option Int) :=
  match member? members name with
  | none => .ok none
  | some v => readNumber v

/-- The settings in an object's members. Members are looked at in the order of their names, so
of two faults that of the depth is told. -/
def ofMembers (members : List (String × Json)) : Except String Settings := do
  let depth ← readMember members "max_recursion_depth"
  let params ← readMember members "min_required_params"
  return ⟨params, depth⟩

/-- The settings in a JSON value. What is no object sets nothing. -/
def ofJson (v : Json) : Except Fault Settings :=
  match v with
  | .obj members =>
    match ofMembers members with
    | .ok s => .ok s
    | .error reason => .error (.config ("failed to parse analyzer settings: " ++ reason))
  | _ => .ok unset

/-! ### JSON form -/

/-- The member for a value that is set. -/
def memberOf (name : String) : Option Int → List (String × Json)
  | some n => [(name, .int n)]
  | none => []

/-- The settings as an object with a member for each value that is set. -/
def toJson (s : Settings) : Json :=
  .obj (memberOf "min_required_params" s.minRequiredParams ++
    memberOf "max_recursion_depth" s.maxRecursionDepth)

/-- The settings read as a record whose fields may be absent. -/
def ofJson? : Json → Option Settings :=
  let number := defaulted? none fun v => (readNumber v).toOption
  record? 0 ["min_required_params", "max_recursion_depth"] do
    return ⟨← field number, ← field number⟩

end Settings

end ParamChain
