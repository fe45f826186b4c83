import ParamChain.Json.Record
import ParamChain.Toml.Quoting

/-
This file holds the written form of a TOML document of sections: a header for each section, a line
for each of its fields, and an empty line between two sections. A list of two or more texts has a
line for each of them.
-/

namespace ParamChain.Toml

/-- What a field of a section holds. -/
inductive Field where
  | text (content : String)
  | texts (contents : List String)
  | number (content : Int)
  deriving DecidableEq, Repr, Inhabited

/-- A table of fields under a header. -/
structure Section where
  name : String
  fields : List (String × Field)
  deriving DecidableEq, Repr, Inhabited

/-- The value that a field stands for. -/
def Field.toJson : Field → Json
  | .text content => .str content
  | .texts contents => Json.ofTexts contents
  | .number content => .int content

/-- The object that a section stands for. -/
def Section.toJson (s : Section) : Json :=
  .obj (s.fields.map fun f => (f.1, f.2.toJson))

/-- A list of texts. -/
def writeTexts : List String → List Char
  | [] => ['[', ']']
  | [content] => '[' :: writeText content.toList ++ [']']
  | contents =>
    ['[', '\n'] ++
      contents.flatMap (fun s => [' ', ' ', ' ', ' '] ++ writeText s.toList ++ [',', '\n']) ++ [']']

/-- What a field holds, as it stands after the equals sign. -/
def Field.write : Field → List Char
  | .text content => writeText content.toList
  | .texts contents => writeTexts contents
  | .number content => (toString content).toList

/-- The line of a field. -/
def writeField (f : String × Field) : List Char :=
  f.1.toList ++ [' ', '=', ' '] ++ f.2.write ++ ['\n']

/-- The lines of a section. -/
def Section.write (s : Section) : List Char :=
  ['['] ++ s.name.toList ++ [']', '\n'] ++ s.fields.flatMap writeField

/-- The lines of sections with an empty line between two of them. -/
def writeSections : List Section → List Char
  | [] => []
  | [s] => s.write
  | s :: rest => s.write ++ ['\n'] ++ writeSections rest

/-- A document of sections. -/
def render (sections : List Section) : String :=
  String.ofList (writeSections sections)

end ParamChain.Toml
