import ParamChain.Frontend.GoExpressions

/-
This file holds the statements of Go and the declarations among them. The first expressions of a
statement are read before it is known what they are: the sign after them tells a send, an
assignment or a declaration from an expression that stands alone.
-/

namespace ParamChain.Frontend.GoGrammar

open ParseTree ParseTree.Parser

/-! ### Simple statements -/

/-- The rest of a simple statement after its first expressions, and whether it is only an
expression. -/
def simpleAfter (g : Grammar) (m : Mode) (left : GoNode) : Parser (Bool × GoNode) := do
  let operator ← if ← broken m.ends then pure none else operator? (operators true)
  match operator with
  | none =>
    match left.children with
    | [e] => pure (true, e)
    | _ => failure
  | some o =>
    let children : List GoNode ←
      if o = "++" || o = "--" then do
        check (left.children.length == 1)
        drop 2
        pure left.children
      else if o = "<-" then do
        check (left.children.length == 1)
        drop 2
        let value ← g (.expression m)
        pure (left.children ++ [value])
      else do
        check (o = ":=" || o = "=" || assignmentOperators.contains o)
        drop o.length
        let right ← expressionList g m
        pure [left.as .left, right.as .right]
    let kind : GoKind := if o = ":=" then .shortVarDeclaration else .other
    let n ← nodeFrom left.span kind children
    pure (false, n)

/-- A simple statement, and whether it is only an expression. -/
def simple (g : Grammar) (m : Mode) : Parser (Bool × GoNode) := do
  let left ← expressionList g m
  simpleAfter g m left

/-! ### Declarations -/

/-- A group of type parameters with one constraint. -/
def typeParameter (g : Grammar) : Parser GoNode :=
  node .other do
    let names ← sepBy1 (nameNode .other typeWords) comma
    let constraint ← typeElement g false
    pure (names ++ [constraint])

/-- The type parameters of a declaration. -/
def typeParameters (g : Grammar) : Parser GoNode :=
  node .other do
    let _ ← sign '['
    let items ← sepBy1 (typeParameter g) comma
    let _ ← maybe comma
    let _ ← sign ']'
    pure items

/-- Names with commas between them. -/
def nameList : Parser (List GoNode) :=
  sepBy1 (nameNode .identifier []) comma

/-- Values after an equals sign. -/
def initializer (g : Grammar) : Parser GoNode := do
  let _ ← sign '='
  expressionList g .statementLevel

/-- Constants with their values. -/
def constSpec (g : Grammar) : Parser GoNode :=
  node .other do
    let names ← nameList
    let values ← maybe (do
      sameLine true
      if ← nextSign '=' then
        let v ← initializer g
        pure [v]
      else
        let t ← g (.type true)
        sameLine true
        let v ← initializer g
        pure [t, v])
    pure (names ++ values.getD [])

/-- Variables with their type, their values or both. -/
def varSpec (g : Grammar) : Parser GoNode :=
  node .varSpec do
    let names ← nameList
    let rest : List GoNode ←
      if ← nextSign '=' then do
        let v ← initializer g
        pure [v.as .value]
      else do
        let t ← g (.type true)
        let v ← maybe (do sameLine true; initializer g)
        pure (t.as .type :: (v.map (·.as .value)).toList)
    pure (names.map (·.as .name) ++ rest)

/-- A type with its name. -/
def typeSpec (g : Grammar) : Parser GoNode :=
  node .other do
    let label ← nameNode .other []
    if ← nextSign '=' then
      let _ ← sign '='
      let t ← g (.type true)
      pure [label, t]
    else
      let parameters ← maybe (do
        let p ← typeParameters g
        let t ← g (.type true)
        pure [p, t])
      match parameters with
      | some children => pure (label :: children)
      | none =>
        let t ← g (.type true)
        pure [label, t]

/-- A declaration of constants, variables or types. -/
def declaration (keyword : String) (item : Parser GoNode) : Parser GoNode :=
  node .other do
    let _ ← word keyword
    singleOrGroup item

/-! ### Statements -/

/-- Whether a list of statements is over. -/
def listOver (inCase : Bool) : Parser Bool := do
  if ← nextSign '\x7d' then pure true
  else if inCase then next fun t => t.isWord "case" || t.isWord "default"
  else pure false

/-- Statements, as far as they go. -/
def statements (g : Grammar) (inCase : Bool) : Parser (List GoNode) := do
  if ← listOver inCase then pure []
  else
    let first ← g (.statement inCase)
    let more ← many (do
      terminator
      check (!(← listOver inCase))
      g (.statement inCase))
    let _ ← maybe terminator
    pure (first :: more)

/-- Statements in braces. -/
def blockRule (g : Grammar) : Parser GoNode :=
  node .block do
    let _ ← sign '\x7b'
    let items ← statements g false
    let _ ← sign '\x7d'
    pure items

/-- A choice between two blocks. -/
def ifRule (g : Grammar) : Parser GoNode :=
  node .ifStatement do
    let _ ← word "if"
    let (plain, first) ← simple g .headerLevel
    let head : List GoNode ←
      if ← nextSign ';' then do
        let _ ← sign ';'
        let condition ← g (.expression .headerLevel)
        pure [first, condition]
      else do
        check plain
        pure [first]
    let body ← g .block
    let alternative ← maybe (do
      sameLine true
      let _ ← word "else"
      if ← nextWord "if" then g .ifStatement else g .block)
    pure (head ++ body :: alternative.toList)

/-- What a `for` goes through, after the targets and the sign that stand before it. -/
def rangeClause (g : Grammar) (targets : List GoNode) (start : Span) : Parser GoNode := do
  let _ ← word "range"
  let right ← g (.expression .headerLevel)
  nodeFrom start .rangeClause (targets ++ [right.as .right])

/-- The three parts of a `for`, from the first semicolon on. -/
def forClause (g : Grammar) (first : Option GoNode) (start : Span) : Parser GoNode := do
  let _ ← sign ';'
  let condition ← maybe (g (.expression .headerLevel))
  let _ ← sign ';'
  let update ← maybe (simple g .headerLevel)
  nodeFrom start .other (first.toList ++ condition.toList ++ (update.map Prod.snd).toList)

/-- The head of a `for`. -/
def forHead (g : Grammar) : Parser (List GoNode) := do
  let start ← here
  if ← nextSign '\x7b' then pure []
  else if ← nextSign ';' then
    let clause ← forClause g none start
    pure [clause]
  else if ← nextWord "range" then
    let clause ← rangeClause g [] start
    pure [clause]
  else
    let left ← expressionList g .headerLevel
    let clause ← maybe (do
      match ← operator? [":=", "="] with
      | some o =>
        let sign ← operatorNode o
        rangeClause g [left.as .left, sign] start
      | none => failure)
    match clause with
    | some c => pure [c]
    | none =>
      let (plain, first) ← simpleAfter g .headerLevel left
      if ← nextSign ';' then
        let c ← forClause g (some first) start
        pure [c]
      else
        check plain
        pure [first]

/-- A loop. -/
def forRule (g : Grammar) : Parser GoNode :=
  node .forStatement do
    let _ ← word "for"
    let head ← forHead g
    let body ← g .block
    pure (head ++ [body.as .body])

/-- A case of any kind, from its keyword on. -/
def caseOf (g : Grammar) (kind : GoKind) (keyword : String) (head : Parser (List GoNode)) :
    Parser GoNode :=
  node kind do
    let _ ← word keyword
    let children ← head
    let _ ← sign ':'
    let body ← statements g true
    pure (children ++ body)

/-- Cases in braces, among which a default may stand. -/
def cases (g : Grammar) (kind : GoKind) (head : Parser (List GoNode)) : Parser (List GoNode) := do
  let _ ← sign '\x7b'
  let items ← many (caseOf g kind "case" head <|> caseOf g .defaultCase "default" (pure []))
  let _ ← sign '\x7d'
  pure items

/-- The values of a case. -/
def caseValues (g : Grammar) : Parser (List GoNode) := do
  let values ← expressionList g .nested
  pure [values.as .value]

/-- The types of a case. -/
def caseTypes (g : Grammar) : Parser (List GoNode) := do
  let types ← sepBy1 (g (.type false)) comma
  pure (types.map (·.as .type))

/-- A value sent or received in a case. -/
def communication (g : Grammar) : Parser (List GoNode) := do
  let left ← expressionList g .communication
  match ← operator? (operators true) with
  | some "<-" =>
    check (left.children.length == 1)
    drop 2
    let value ← g (.expression .nested)
    let sent ← nodeFrom left.span .other (left.children ++ [value])
    pure [sent]
  | some o =>
    check (o = ":=" || o = "=")
    let sign ← operatorNode o
    let right ← g (.expression .nested)
    let received ← nodeFrom left.span .receiveStatement [left.as .left, sign, right.as .right]
    pure [received]
  | none =>
    match left.children with
    | [e] =>
      let received ← nodeFrom left.span .receiveStatement [e.as .right]
      pure [received]
    | _ => failure

/-- The body of a `switch` over values. -/
def valueSwitch (g : Grammar) (head : List GoNode) : Parser (GoKind × List GoNode) := do
  let items ← cases g .expressionCase (caseValues g)
  pure (.expressionSwitch, head ++ items)

/-- The guard and the body of a `switch` over types. -/
def typeSwitch (g : Grammar) (head : List GoNode) : Parser (GoKind × List GoNode) := do
  check (← atTypeGuard)
  drop 4
  let items ← cases g .typeCase (caseTypes g)
  pure (.typeSwitch, head ++ items)

/-- A `switch` from its value on, after its initial statement. -/
def switchValue (g : Grammar) (head : List GoNode) : Parser (GoKind × List GoNode) := do
  if ← nextSign '\x7b' then valueSwitch g head
  else
    let left ← expressionList g .switchLevel
    if ← nextSigns ":=" then
      signs ":="
      let value ← g (.expression .switchLevel)
      typeSwitch g (head ++ [left.as .introduced, value.as .value])
    else
      match left.children with
      | [e] =>
        if ← atTypeGuard then typeSwitch g (head ++ [e.as .value])
        else valueSwitch g (head ++ [e.as .value])
      | _ => failure

/-- A `switch` of either kind. -/
def switchRule (g : Grammar) : Parser GoNode := do
  let start ← here
  let _ ← word "switch"
  let first ← maybe (do
    let (_, s) ← simple g .switchLevel
    let _ ← sign ';'
    pure s)
  let (kind, children) ← switchValue g first.toList
  nodeFrom start kind children

/-- A statement with a label, which may stand alone at the end of a list. -/
def labeled (g : Grammar) (inCase : Bool) : Parser GoNode :=
  node .other do
    let label ← nameNode .other []
    check (!(← nextSigns ":="))
    let _ ← sign ':'
    if ← listOver inCase then pure [label]
    else
      let body ← g (.statement inCase)
      pure [label, body]

/-- A jump, perhaps to a label. -/
def jump (keyword : String) : Parser GoNode :=
  node .other do
    let _ ← word keyword
    let label ← maybe (do sameLine true; nameNode .other [])
    pure label.toList

/-- A keyword with what follows it. -/
def keywordWith (keyword : String) (rest : Parser (List GoNode)) : Parser GoNode :=
  node .other do
    let _ ← word keyword
    rest

/-- A statement that is no other. -/
def simpleStatement (g : Grammar) : Parser GoNode := do
  let (_, s) ← simple g .statementLevel
  pure s

/-- A statement that begins with a word. -/
def wordStatement (g : Grammar) (inCase : Bool) (keyword : String) : Parser GoNode :=
  let expression : Parser (List GoNode) := do
    let e ← g (.expression .statementLevel)
    pure [e]
  match keyword with
  | "const" => declaration "const" (constSpec g)
  | "var" => declaration "var" (varSpec g)
  | "type" => declaration "type" (typeSpec g)
  | "return" => keywordWith "return" do
    let values ← maybe (do sameLine true; expressionList g .statementLevel)
    pure values.toList
  | "go" => keywordWith "go" expression
  | "defer" => keywordWith "defer" expression
  | "if" => g .ifStatement
  | "for" => forRule g
  | "switch" => switchRule g
  | "select" =>
    node .selectStatement do
      let _ ← word "select"
      cases g .communicationCase (communication g)
  | "fallthrough" => keywordWith "fallthrough" (pure [])
  | "break" => jump "break"
  | "continue" => jump "continue"
  | "goto" => keywordWith "goto" do
    let label ← nameNode .other []
    pure [label]
  | _ => labeled g inCase <|> simpleStatement g

/-- A statement. -/
def statementRule (g : Grammar) (inCase : Bool) : Parser GoNode := do
  match ← peek? with
  | none => failure
  | some t =>
    if t.kind == .word then wordStatement g inCase t.text
    else if t.isSign '\x7b' then g .block
    else if t.isSign ';' then
      let t ← sign ';'
      pure (leaf .other t)
    else simpleStatement g

end ParamChain.Frontend.GoGrammar
