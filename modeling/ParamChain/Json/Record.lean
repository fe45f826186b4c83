import ParamChain.Json.Value

/-
This file holds the two JSON forms of a record and of a choice. A record is an object with a
member for each field, members of other names being ignored, or an array of the fields in order.
A choice is an object whose only member names the alternative and holds its content.
-/

namespace ParamChain.Json

/-- The fields of a record in order, `none` for a field that is absent. An array has to give at
least the first `required` fields and nothing beyond the last. -/
def fields? (required : Nat) (names : List String) : Json → Option (List (Option Json))
  | .obj members => some (names.map (member? members))
  | .arr items =>
    if required ≤ items.length && items.length ≤ names.length then
      some (items.map some ++ List.replicate (names.length - items.length) none)
    else none
  | _ => none

/-- A field that has to be there. -/
def required? {α : Type} (item : Json → Option α) (field : Option Json) : Option α :=
  field.bind item

/-- A field that may be absent or `null`. -/
def optional? {α : Type} (item : Json → Option α) : Option Json → Option (Option α)
  | none => some none
  | some v => option? item v

/-- A field that stands for a fixed value where it is absent. -/
def defaulted? {α : Type} (fallback : α) (item : Json → Option α) : Option Json → Option α
  | none => some fallback
  | some v => item v

/-- A reader of fields, which takes them one after another. -/
abbrev FieldReader := StateT (List (Option Json)) Option

/-- Read the next field. -/
def field {α : Type} (item : Option Json → Option α) : FieldReader α := fun fields =>
  match fields with
  | [] => none
  | first :: rest => (item first).map fun a => (a, rest)

/-- Read a record from its fields. -/
def record? {α : Type} (required : Nat) (names : List String) (reader : FieldReader α)
    (v : Json) : Option α := do
  reader.run' (← fields? required names v)

/-- Text, or `null` for its absence. -/
def ofOptionText : Option String → Json
  | none => .null
  | some s => .str s

/-- A list of texts. -/
def ofTexts (texts : List String) : Json :=
  .arr (texts.map .str)

/-- The members of a content that has to be an object. -/
def object? : Json → Option (List (String × Json))
  | .obj members => some members
  | _ => none

end ParamChain.Json
