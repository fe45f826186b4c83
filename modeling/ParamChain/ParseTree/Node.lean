import ParamChain.ParseTree.Token

/-
This file holds syntax trees. A node has a kind, which is the language's own, the role it plays
in its parent, and the text it covers. Nodes that stand for more than a keyword or a sign are
named, and most questions are asked of the named children alone. A comment is a named node too:
it is a child of the innermost node that it lies inside.
-/

namespace ParamChain.ParseTree

/-- The role of a node in its parent. -/
inductive Role where
  | name
  | type
  | typeArguments
  | package
  | receiver
  | parameters
  | body
  | left
  | right
  | value
  | function
  | arguments
  | operator
  | operand
  | selector
  | pattern
  | path
  | alternative
  | introduced
  deriving DecidableEq, Repr, Inhabited

/-- A node of a syntax tree whose kinds are `κ`. -/
inductive Node (κ : Type) where
  | mk (kind : κ) (role : Option Role) (named : Bool) (span : Span) (text : String)
      (children : List (Node κ))
  deriving Repr, Inhabited

namespace Node

variable {κ : Type}

def kind : Node κ → κ
  | mk kind _ _ _ _ _ => kind

def role : Node κ → Option Role
  | mk _ role _ _ _ _ => role

def named : Node κ → Bool
  | mk _ _ named _ _ _ => named

def span : Node κ → Span
  | mk _ _ _ span _ _ => span

def text : Node κ → String
  | mk _ _ _ _ text _ => text

def children : Node κ → List (Node κ)
  | mk _ _ _ _ _ children => children

/-- The node in another role. -/
def as (node : Node κ) (role : Role) : Node κ :=
  match node with
  | mk kind _ named span text children => mk kind (some role) named span text children

/-- The node without a role. -/
def plain (node : Node κ) : Node κ :=
  match node with
  | mk kind _ named span text children => mk kind none named span text children

/-- The node with another kind. -/
def withKind (node : Node κ) (kind : κ) : Node κ :=
  match node with
  | mk _ role named span text children => mk kind role named span text children

/-- The named children. -/
def namedChildren (node : Node κ) : List (Node κ) :=
  node.children.filter named

/-- The first named child. -/
def firstNamed? (node : Node κ) : Option (Node κ) :=
  node.namedChildren.head?

/-- The last named child. -/
def lastNamed? (node : Node κ) : Option (Node κ) :=
  node.namedChildren.getLast?

/-- Whether the node plays the given role. -/
def plays (node : Node κ) (role : Role) : Bool :=
  node.role == some role

/-- The first child in a role. -/
def child? (node : Node κ) (role : Role) : Option (Node κ) :=
  node.children.find? fun c => c.plays role

/-- All children in a role. -/
def childrenAs (node : Node κ) (role : Role) : List (Node κ) :=
  node.children.filter fun c => c.plays role

/-! ### Comments -/

/-- The node of a comment. -/
def ofComment (kind : κ) (c : Comment) : Node κ :=
  mk kind none true c.span c.text []

/-- Put comments among nodes, both being in source order. -/
def interleave (kind : κ) : List Comment → List (Node κ) → List (Node κ)
  | comments, [] => comments.map (ofComment kind)
  | comments, node :: rest =>
    (comments.takeWhile fun c => c.span.start < node.span.start).map (ofComment kind) ++
      node :: interleave kind (comments.dropWhile fun c => c.span.start < node.span.start) rest

mutual

/-- Make every comment a child of the innermost node that it lies inside. -/
def attach (kind : κ) (comments : List Comment) : Node κ → Node κ
  | mk k role named span text children =>
    if comments.isEmpty then mk k role named span text children
    else
      let outside := comments.filter fun c => !children.any fun n => c.span.inside n.span
      mk k role named span text (interleave kind outside (attachAll kind comments children))

/-- Give each node the comments that lie inside it. -/
def attachAll (kind : κ) (comments : List Comment) : List (Node κ) → List (Node κ)
  | [] => []
  | node :: rest =>
    attach kind (comments.filter fun c => c.span.inside node.span) node ::
      attachAll kind comments rest

end

end Node

end ParamChain.ParseTree
