import PatternProse.Block.Basic
import PatternProse.Json.Value
import PatternProse.Unicode.CharClass

/-!
# Nodes of block documents

A document gives a block as a node: the name of its kind, parameters by name, and child nodes.
Nodes are more liberal than blocks. A node of a known kind becomes a block unless it is a
repetition with several children; parameters that are missing or unfit give way to defaults, and
what the kind has no room for is dropped.

## Main definitions

* `Block.Node` — a node.
* `Block.toNode` — the node that a block is written as.
* `Block.ofNode?` — the block that a node stands for.
-/

namespace PatternProse.Block

/-- A block as a document gives it. The parameters are in the order of their names. -/
inductive Node
  | mk (kind : String) (params : List (String × Json)) (children : List Node)
  deriving Repr, BEq

namespace Node

/-- The name of the kind. -/
def kind : Node → String
  | mk kind _ _ => kind

/-- The parameters, in the order of their names. -/
def params : Node → List (String × Json)
  | mk _ params _ => params

/-- The child nodes. -/
def children : Node → List Node
  | mk _ _ children => children

end Node

/-! ## Writing -/

/-- A count as a parameter. -/
def countParam (n : UInt32) : Json := .number (.natural n.toNat)

/-- The parameters that say all about a block except its kind and what it holds. -/
def params : Block → List (String × Json)
  | literal text => [("value", .string text)]
  | characterClass _ characters => [("characters", .string characters)]
  | repetition (.exactly n) _ => [("count", countParam n)]
  | repetition (.atLeast n) _ => [("min", countParam n)]
  | repetition (.between n m) _ => [("max", countParam m), ("min", countParam n)]
  | _ => []

mutual

/-- The node that a block is written as. -/
def toNode : Block → Node
  | repetition q body =>
    .mk (Kind.repetition q.form).name (repetition q body).params (bodyNodes body)
  | group bs => .mk Kind.group.name [] (nodes bs)
  | alternatives bs => .mk Kind.alternatives.name [] (nodes bs)
  | lookaround k bs => .mk (Kind.lookaround k).name [] (nodes bs)
  | b => .mk b.kind.name b.params []

/-- The node of what a repetition holds. -/
def bodyNodes : Option Block → List Node
  | none => []
  | some b => [b.toNode]

/-- The nodes of several blocks. -/
def nodes : List Block → List Node
  | [] => []
  | b :: bs => b.toNode :: nodes bs

end

mutual

/-- The JSON value of a node. Parameters and children are left out if there are none. -/
def Node.toJson : Node → Json
  | .mk kind params children =>
    .object (("type", .string kind) ::
      (if params.isEmpty then [] else [("params", .object params)]) ++
      (if children.isEmpty then [] else [("children", .array (Node.toJsonEach children))]))

/-- The JSON values of several nodes. -/
def Node.toJsonEach : List Node → List Json
  | [] => []
  | n :: ns => n.toJson :: Node.toJsonEach ns

end

/-- The JSON value of a document of blocks. -/
def documentOf (bs : List Block) : Json := .array (Node.toJsonEach (nodes bs))

/-! ## Reading -/

/-- Why a node stands for no block. -/
inductive NodeProblem
  | unknownKind (name : String)
  | severalChildren (kind : Kind) (count : Nat)
  deriving Repr, DecidableEq

/-- The wording of a problem with a node. -/
def NodeProblem.message : NodeProblem → String
  | unknownKind name => "unknown block type \"" ++ name ++ "\""
  | severalChildren kind count =>
    kind.name ++ " takes a single child, found " ++ Decimal.text count

/-- A text without the blanks at its ends. -/
def trimmed (cs : List Char) : List Char :=
  ((cs.dropWhile Unicode.isBlank).reverse.dropWhile Unicode.isBlank).reverse

/-- The count that a text stands for: digits, with a plus sign before them or not and blanks
around. -/
def countOfText? (text : String) : Option UInt32 :=
  match trimmed text.toList with
  | '+' :: ds => Quantifier.count? ds
  | ds => Quantifier.count? ds

/-- The count that a parameter stands for, if it is an integer in range or a text of one. -/
def countOf? : Json → Option UInt32
  | .number (.natural n) => if n < UInt32.size then some (UInt32.ofNat n) else none
  | .string text => countOfText? text
  | _ => none

/-- The text that a parameter stands for. -/
def textOf? : Json → Option String
  | .string text => some text
  | _ => none

/-- The settings that parameters stand for. -/
def Settings.ofParams (params : List (String × Json)) : Settings where
  text := ((params.lookup "value").bind textOf?).getD ""
  characters := ((params.lookup "characters").bind textOf?).getD ({} : Settings).characters
  count := ((params.lookup "count").bind countOf?).getD ({} : Settings).count
  min := ((params.lookup "min").bind countOf?).getD ({} : Settings).min
  max := ((params.lookup "max").bind countOf?).getD ({} : Settings).max

/-- The block of a node whose children have become blocks. -/
def assemble (name : String) (settings : Settings) (children : List Block) :
    Except NodeProblem Block :=
  match Kind.ofName? name with
  | none => .error (.unknownKind name)
  | some kind =>
    if kind.nesting == .singleChild && children.length > 1 then
      .error (.severalChildren kind children.length)
    else .ok (ofKind settings children kind)

mutual

/-- The block that a node stands for. Of several problems the first one is reported, where children
come before their parent and go from left to right. -/
def ofNode? : Node → Except NodeProblem Block
  | .mk kind params children => do
    let children ← ofNodes? children
    assemble kind (.ofParams params) children

/-- The blocks that several nodes stand for. -/
def ofNodes? : List Node → Except NodeProblem (List Block)
  | [] => .ok []
  | n :: ns => do
    let b ← ofNode? n
    let bs ← ofNodes? ns
    return b :: bs

end

end PatternProse.Block
