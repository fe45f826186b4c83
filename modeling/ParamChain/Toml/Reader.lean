import ParamChain.Toml.Draft
import ParamChain.Toml.Quoting
import ParamChain.Toml.Scalar

/-
This file holds the reader of TOML documents. A document is a sequence of lines: blank, a header
of a table or of one more table of a list, or a key with its value. Arrays may go over lines and
end in a comma, tables in braces may not. Keys have at most 79 parts and at most 79 arrays and
tables in braces stand inside one another.
-/

namespace ParamChain.Toml

/-! ### Blanks and comments -/

/-- A space or a tab. -/
def isBlank (c : Char) : Bool :=
  c == ' ' || c == '\t'

/-- The rest after blanks. -/
def skipBlank (input : List Char) : List Char :=
  input.dropWhile isBlank

/-- The rest after a line break. -/
def lineBreak? : List Char → Option (List Char)
  | '\n' :: rest => some rest
  | '\r' :: '\n' :: rest => some rest
  | _ => none

/-- The rest after the end of a line or of the document. -/
def lineEnd? : List Char → Option (List Char)
  | [] => some []
  | input => lineBreak? input

/-- The rest after a comment, if one starts here. -/
def skipComment : List Char → List Char
  | '#' :: rest => rest.dropWhile isPlain
  | input => input

/-- The rest of the document after what may follow on a line: blanks and a comment. -/
def finishLine (input : List Char) : Option (List Char) :=
  lineEnd? (skipComment (skipBlank input))

/-- The rest after blanks, comments and line breaks inside an array. -/
def skipLines : Nat → List Char → Option (List Char)
  | 0, _ => none
  | fuel + 1, input =>
    match skipBlank input with
    | [] => some []
    | c :: rest =>
      if c = '#' || c = '\n' || c = '\r' then
        (lineBreak? (skipComment (c :: rest))).bind (skipLines fuel)
      else some (c :: rest)

/-! ### Keys -/

/-- The characters of a key without quotes. -/
def isBare (c : Char) : Bool :=
  c.isAlphanum || c == '-' || c == '_'

/-- One part of a key. -/
def keyPart : Reader String
  | '\x22' :: rest => (basicText rest).map fun r => (String.ofList r.1, r.2)
  | '\x27' :: rest => (literalText rest).map fun r => (String.ofList r.1, r.2)
  | input =>
    let name := input.takeWhile isBare
    if name.isEmpty then none else some (String.ofList name, input.dropWhile isBare)

/-- A key of at most so many parts: the names that lead to it, and its own. -/
def key : Nat → Reader (List String × String)
  | 0, _ => none
  | parts + 1, input => do
    let (name, rest) ← keyPart (skipBlank input)
    match skipBlank rest with
    | '.' :: rest =>
      let ((path, last), rest) ← key parts rest
      some ((name :: path, last), rest)
    | rest => some (([], name), rest)

/-- The greatest number of parts of a key. -/
def maxKeyParts : Nat := 79

/-! ### Values -/

/-- The items of an array after its opening bracket or a comma. -/
def arrayItems (limit : Nat) (value : Reader Json) : Nat → Reader (List Json)
  | 0, _ => none
  | fuel + 1, input => do
    match ← skipLines limit input with
    | ']' :: rest => some ([], rest)
    | input =>
      let (item, rest) ← value input
      match ← skipLines limit rest with
      | ']' :: rest => some ([item], rest)
      | ',' :: rest =>
        let (items, rest) ← arrayItems limit value fuel rest
        some (item :: items, rest)
      | _ => none

/-- The members of a table in braces after its opening brace or a comma, put to those before. -/
def inlineMembers (value : Reader Json) : Nat → Draft.Members → Reader Draft.Members
  | 0, _, _ => none
  | fuel + 1, members, input => do
    let ((path, name), rest) ← key maxKeyParts input
    match rest with
    | '=' :: rest =>
      let (content, rest) ← value (skipBlank rest)
      let members ← Draft.insertDotted name content path members
      match skipBlank rest with
      | '\x7d' :: rest => some (members, rest)
      | ',' :: rest => inlineMembers value fuel members rest
      | _ => none
    | _ => none

/-- A value. Fewer than `depth` arrays and tables in braces may be open at any point, and the
input is no longer than `limit`. -/
def value (limit : Nat) : Nat → Reader Json
  | depth + 1, '[' :: rest =>
    if depth = 0 then none
    else (arrayItems (limit + 1) (value limit depth) (limit + 1) rest).map fun r => (.arr r.1, r.2)
  | depth + 1, '\x7b' :: rest =>
    if depth = 0 then none
    else
      match skipBlank rest with
      | '\x7d' :: rest => some (.obj [], rest)
      | rest =>
        (inlineMembers (value limit depth) (limit + 1) [] rest).map fun r =>
          (.obj (Draft.membersJson r.1), r.2)
  | _, input =>
    ((readText input).map fun r => (Json.str (String.ofList r.1), r.2)).or (scalar input)

/-- One more than the greatest number of arrays and tables in braces inside one another. -/
def maxDepth : Nat := 80

/-! ### Lines -/

/-- What a line says. -/
inductive Line where
  | blank
  | header (path : List String) (name : String)
  | nextHeader (path : List String) (name : String)
  | entry (path : List String) (name : String) (content : Json)

/-- A line that does not start with blanks. -/
def readLine (limit : Nat) : Reader Line
  | '[' :: '[' :: rest => do
    let ((path, name), rest) ← key maxKeyParts rest
    match rest with
    | ']' :: ']' :: rest => (finishLine rest).map fun rest => (.nextHeader path name, rest)
    | _ => none
  | '[' :: rest => do
    let ((path, name), rest) ← key maxKeyParts rest
    match rest with
    | ']' :: rest => (finishLine rest).map fun rest => (.header path name, rest)
    | _ => none
  | c :: rest =>
    if c = '#' || c = '\n' || c = '\r' then
      (finishLine (c :: rest)).map fun rest => (.blank, rest)
    else do
      let ((path, name), rest) ← key maxKeyParts (c :: rest)
      match rest with
      | '=' :: rest =>
        let (content, rest) ← value limit maxDepth (skipBlank rest)
        (finishLine rest).map fun rest => (.entry path name content, rest)
      | _ => none
  | [] => some (.blank, [])

/-- A document as far as it was read: its tables, and the names of the one that is open. -/
structure Document where
  current : List String
  members : Draft.Members

/-- The document with one more line. -/
def Document.add (d : Document) : Line → Option Document
  | .blank => some d
  | .header path name =>
    (Draft.within (Draft.openTable name) path d.members).map fun members =>
      ⟨path ++ [name], members⟩
  | .nextHeader path name =>
    (Draft.within (Draft.openNext name) path d.members).map fun members =>
      ⟨path ++ [name], members⟩
  | .entry path name content =>
    (Draft.within (Draft.insertDotted name content path) d.current d.members).map fun members =>
      { d with members := members }

/-- The document with all lines of the input. -/
def Document.addLines (limit : Nat) : Nat → Document → List Char → Option Document
  | 0, _, _ => none
  | fuel + 1, d, input =>
    match skipBlank input with
    | [] => some d
    | c :: rest => do
      let (line, rest) ← readLine limit (c :: rest)
      addLines limit fuel (← d.add line) rest

/-- The value that a whole document describes. A byte order mark at its start is skipped. -/
def parse (text : String) : Option Json :=
  let input :=
    match text.toList with
    | '\ufeff' :: rest => rest
    | input => input
  (Document.addLines input.length (input.length + 1) ⟨[], []⟩ input).map fun d =>
    .obj (Draft.membersJson d.members)

end ParamChain.Toml
