import ParamChain.Json.Record
import ParamChain.Source.Model

/-
This file holds the JSON form of the source model: what each part of it is written as, and which
values are read back. Reading undoes writing; it also accepts the array form of a record and
ignores members it does not know.
-/

namespace ParamChain

open Json

/-! ### Positions -/

def SourcePosition.toJson (p : SourcePosition) : Json :=
  .obj [("file", .str p.file), ("line", .int p.line), ("column", .int p.column)]

def SourcePosition.ofJson? : Json → Option SourcePosition :=
  record? 3 ["file", "line", "column"] do
    return ⟨← field (required? text?), ← field (required? size?), ← field (required? size?)⟩

/-! ### Types -/

def TypeExpr.toJson : TypeExpr → Json
  | .named name qualifier =>
    .obj [("Named", .obj [("name", .str name), ("qualifier", ofOptionText qualifier)])]
  | .pointer target => .obj [("Pointer", target.toJson)]
  | .other text => .obj [("Other", .str text)]

def TypeExpr.ofJson? : Json → Option TypeExpr
  | .obj [(tag, content)] =>
    if tag = "Named" then do
      let members ← object? content
      some (.named (← required? text? (member? members "name"))
        (← optional? text? (member? members "qualifier")))
    else if tag = "Pointer" then (TypeExpr.ofJson? content).map .pointer
    else if tag = "Other" then (text? content).map .other
    else none
  | _ => none

/-! ### Parameters and callees -/

def ParamDecl.toJson (p : ParamDecl) : Json :=
  .obj [("names", ofTexts p.names), ("type_desc", .str p.typeText)]

def ParamDecl.ofJson? : Json → Option ParamDecl :=
  record? 2 ["names", "type_desc"] do
    return ⟨← field (required? (list? text?)), ← field (required? text?)⟩

def Callee.toJson : Callee → Json
  | .function name => .obj [("Function", .str name)]
  | .method receiver name =>
    .obj [("Method", .obj [
      ("receiver", (receiver.map TypeExpr.toJson).getD .null), ("name", .str name)])]
  | .unresolved => .str "Unresolved"

def Callee.ofJson? : Json → Option Callee
  | .str tag => if tag = "Unresolved" then some .unresolved else none
  | .obj [(tag, content)] =>
    if tag = "Function" then (text? content).map .function
    else if tag = "Method" then do
      let members ← object? content
      some (.method (← optional? TypeExpr.ofJson? (member? members "receiver"))
        (← required? text? (member? members "name")))
    else if tag = "Unresolved" then
      match content with
      | .null => some .unresolved
      | _ => none
    else none
  | _ => none

/-! ### Declarations and files -/

def CallSite.toJson (c : CallSite) : Json :=
  .obj [("callee", c.callee.toJson), ("position", c.position.toJson)]

def CallSite.ofJson? : Json → Option CallSite :=
  record? 2 ["callee", "position"] do
    return ⟨← field (required? Callee.ofJson?), ← field (required? SourcePosition.ofJson?)⟩

def FunctionDecl.toJson (d : FunctionDecl) : Json :=
  .obj [("name", .str d.name), ("receiver", (d.receiver.map TypeExpr.toJson).getD .null),
    ("params", .arr (d.params.map ParamDecl.toJson)),
    ("calls", .arr (d.calls.map CallSite.toJson)), ("position", d.position.toJson)]

def FunctionDecl.ofJson? : Json → Option FunctionDecl :=
  record? 5 ["name", "receiver", "params", "calls", "position"] do
    return {
      name := ← field (required? text?)
      receiver := ← field (optional? TypeExpr.ofJson?)
      params := ← field (required? (list? ParamDecl.ofJson?))
      calls := ← field (required? (list? CallSite.ofJson?))
      position := ← field (required? SourcePosition.ofJson?) }

def FileModel.toJson (m : FileModel) : Json :=
  .obj [("package", ofOptionText m.package),
    ("functions", .arr (m.functions.map FunctionDecl.toJson))]

def FileModel.ofJson? : Json → Option FileModel :=
  record? 2 ["package", "functions"] do
    return ⟨← field (optional? text?), ← field (required? (list? FunctionDecl.ofJson?))⟩

def ParsedFile.toJson (f : ParsedFile) : Json :=
  .obj [("path", .str f.path), ("language", .str f.language),
    ("package", ofOptionText f.package),
    ("functions", .arr (f.functions.map FunctionDecl.toJson))]

def ParsedFile.ofJson? : Json → Option ParsedFile :=
  record? 4 ["path", "language", "package", "functions"] do
    return {
      path := ← field (required? text?)
      language := ← field (required? text?)
      package := ← field (optional? text?)
      functions := ← field (required? (list? FunctionDecl.ofJson?)) }

end ParamChain
