import PatternProse.Block.Node
import PatternProse.Json.Document
import PatternProse.Quotation

/-!
# Block documents

A document is a JSON text: an array of nodes. A node is an object, or else an array that lists the
kind, the parameters and the children, where the latter two may be left out. Members of a node that
say nothing about the block are skipped.

The reader goes through the tree of the text in the order of the text and reports the first problem
it meets, and where. A node of the document becomes a block as soon as it has been read to its end.

## Main definitions

* `Block.ReadProblem` — what may be wrong with a document.
* `Block.Node.ofText?` — reads one node.
* `Block.ofDocument?` — reads the blocks of a document.
-/

namespace PatternProse.Block

open Json (Tree Items Members Problem SyntaxProblem)

/-! ## Problems -/

/-- What is found in a document where something else is expected. -/
inductive Found
  | scalar (value : Json.Scalar)
  | array
  | object
  deriving Repr, DecidableEq

/-- The wording of what is found. -/
def Found.text : Found → String
  | scalar .null => "null"
  | scalar (.bool b) => "boolean `" ++ (if b then "true" else "false") ++ "`"
  | scalar (.number (.real isNegative magnitude)) =>
    "floating point `" ++ (Json.Number.real isNegative magnitude).text ++ "`"
  | scalar (.number n) => "integer `" ++ n.text ++ "`"
  | scalar (.string s) => "string " ++ Quotation.ofText s
  | array => "sequence"
  | object => "map"

/-- What may be expected in a document. -/
inductive Expected
  | sequence
  | node
  | string
  | map
  deriving Repr, DecidableEq

/-- The wording of what is expected. -/
def Expected.text : Expected → String
  | sequence => "a sequence"
  | node => "struct BlockNode"
  | string => "a string"
  | map => "a map"

/-- A member of a node that says something about the block. -/
inductive Field
  | kind
  | params
  | children
  deriving Repr, DecidableEq

namespace Field

/-- The usual name of a field. -/
def name : Field → String
  | kind => "type"
  | params => "params"
  | children => "children"

/-- The field with a name. Two of the fields have a second name. -/
def ofName? (name : String) : Option Field :=
  if name == "type" || name == "kind" then some kind
  else if name == "params" || name == "parameters" then some params
  else if name == "children" then some children
  else none

end Field

/-- What may be wrong with a document. -/
inductive ReadProblem
  | text (problem : SyntaxProblem)
  | unexpected (found : Found) (expected : Expected)
  | missing (field : Field)
  | duplicate (field : Field)
  /-- A node written as an array without items. -/
  | emptyNode
  | node (problem : NodeProblem)
  deriving Repr, DecidableEq

/-- The wording that precedes a problem with a document as a whole or with a node of it. -/
def refusal : String := "invalid block document: "

/-- The wording of a problem. -/
def ReadProblem.message : ReadProblem → String
  | text problem => problem.message
  | unexpected found expected =>
    "invalid type: " ++ found.text ++ ", expected " ++ expected.text
  | missing field => "missing field `" ++ field.name ++ "`"
  | duplicate field => "duplicate field `" ++ field.name ++ "`"
  | emptyNode => "invalid length 0, expected struct BlockNode with 3 elements"
  | node problem => refusal ++ problem.message

/-- A problem with a document, and the line and the column where it shows. -/
structure DocumentProblem where
  cause : ReadProblem
  line : Nat
  column : Nat
  deriving Repr, DecidableEq

namespace DocumentProblem

/-- A problem at a place in a text. -/
def locate (text : String) (p : Problem ReadProblem) : DocumentProblem :=
  let (line, column) := Json.lineAndColumn p.offset text.toList
  ⟨p.cause, line, column⟩

/-- The wording of the problem and its place. -/
def message (p : DocumentProblem) : String :=
  p.cause.message ++ " at line " ++ Decimal.text p.line ++ " column " ++ Decimal.text p.column

end DocumentProblem

/-! ## Reading nodes -/

/-- The answer of a reader. -/
abbrev Reads (α : Type) := Except (Problem ReadProblem) α

/-- A problem with the text as a problem with the document. -/
def ofSyntax (p : Problem SyntaxProblem) : Problem ReadProblem := ⟨.text p.cause, p.offset⟩

/-- The answer of a reader of JSON. -/
def lift {α : Type} : Except (Problem SyntaxProblem) α → Reads α
  | .ok a => .ok a
  | .error p => .error (ofSyntax p)

/-- The problem with a value that is not what is expected. A scalar is read before it is
refused, an array or an object is not. -/
def unexpected (expected : Expected) : Tree → Problem ReadProblem
  | .scalar (.ok s) stop => ⟨.unexpected (.scalar s) expected, stop⟩
  | .scalar (.error p) _ => ofSyntax p
  | .array start _ => ⟨.unexpected .array expected, start⟩
  | .object start _ => ⟨.unexpected .object expected, start⟩
  | .broken fault => ofSyntax fault.asTaken

/-- Reads a text. -/
def readText : Tree → Reads String
  | .scalar (.ok (.string s)) _ => .ok s
  | tree => .error (unexpected .string tree)

/-- Reads parameters with `depth` arrays and objects open around them. -/
def readParams (depth : Nat) : Tree → Reads (List (String × Json))
  | .object start members =>
    lift do
      let depth ← Json.descend depth start
      members.take depth []
  | tree => .error (unexpected .map tree)

/-- What has been read of a node. -/
structure Draft where
  kind : Option String := none
  params : Option (List (String × Json)) := none
  children : Option (List Node) := none

/-- The node of a draft, whose object stops at an offset. -/
def Draft.toNode (draft : Draft) (stop : Nat) : Reads Node :=
  match draft.kind with
  | none => .error ⟨.missing .kind, stop⟩
  | some kind => .ok (.mk kind (draft.params.getD []) (draft.children.getD []))

mutual

/-- Reads a node with `depth` arrays and objects open around it. -/
def readNode (depth : Nat) : Tree → Reads Node
  | .object start members => do
    let depth ← lift (Json.descend depth start)
    readMembers depth {} members
  | .array start items => do
    let depth ← lift (Json.descend depth start)
    readItems depth items
  | tree => .error (unexpected .node tree)

/-- Reads the remaining members of a node. -/
def readMembers (depth : Nat) (draft : Draft) : Members → Reads Node
  | .done stop => draft.toNode stop
  | .broken fault => .error (ofSyntax fault.asTaken)
  | .more name closing value rest => do
    let name ← lift name
    match Field.ofName? name with
    | none =>
      lift value.skip
      readMembers depth draft rest
    | some .kind =>
      if draft.kind.isSome then .error ⟨.duplicate .kind, closing⟩
      else
        let kind ← readText value
        readMembers depth { draft with kind } rest
    | some .params =>
      if draft.params.isSome then .error ⟨.duplicate .params, closing⟩
      else
        let params ← readParams depth value
        readMembers depth { draft with params } rest
    | some .children =>
      if draft.children.isSome then .error ⟨.duplicate .children, closing⟩
      else
        let children ← readChildren depth value
        readMembers depth { draft with children } rest

/-- Reads the items of a node that is written as an array. -/
def readItems (depth : Nat) : Items → Reads Node
  | .done stop => .error ⟨.emptyNode, stop⟩
  | .broken fault => .error (ofSyntax fault.asTaken)
  | .more _ value _ rest => do
    let kind ← readText value
    match rest with
    | .done _ => return .mk kind [] []
    | .broken fault => .error (ofSyntax fault.asTaken)
    | .more _ value _ rest =>
      let params ← readParams depth value
      match rest with
      | .done _ => return .mk kind params []
      | .broken fault => .error (ofSyntax fault.asTaken)
      | .more _ value _ rest =>
        let children ← readChildren depth value
        match rest with
        | .done _ => return .mk kind params children
        | .broken fault => .error (ofSyntax fault.asEnding)
        | .more start _ _ _ => .error ⟨.text .trailingCharacters, start + 1⟩

/-- Reads the children of a node. -/
def readChildren (depth : Nat) : Tree → Reads (List Node)
  | .array start items => do
    let depth ← lift (Json.descend depth start)
    readNodes depth items
  | tree => .error (unexpected .sequence tree)

/-- Reads the remaining nodes of an array. -/
def readNodes (depth : Nat) : Items → Reads (List Node)
  | .done _ => .ok []
  | .broken fault => .error (ofSyntax fault.asTaken)
  | .more _ value _ rest => do
    let node ← readNode depth value
    let nodes ← readNodes depth rest
    return node :: nodes

end

/-- Reads the remaining blocks of a document. A node that stands for no block is a problem once an
attempt has been made to close the array. -/
def readBlocks (depth : Nat) : Items → Reads (List Block)
  | .done _ => .ok []
  | .broken fault => .error (ofSyntax fault.asTaken)
  | .more _ value closing rest => do
    let node ← readNode depth value
    match ofNode? node with
    | .error p => .error ⟨.node p, closing⟩
    | .ok b =>
      let bs ← readBlocks depth rest
      return b :: bs

/-! ## Reading texts -/

/-- Reads a text, which has to end after what is read. -/
def readDocument {α : Type} (read : Tree → Reads α) (text : String) :
    Except DocumentProblem α :=
  let document := Json.Document.ofText text
  match read document.tree, document.trailing with
  | .ok a, none => .ok a
  | .ok _, some p => .error (.locate text (ofSyntax p))
  | .error p, _ => .error (.locate text p)

/-- Reads the text of one node. -/
def Node.ofText? (text : String) : Except DocumentProblem Node := readDocument (readNode 0) text

/-- Reads the blocks of a document. -/
def ofDocument? (text : String) : Except DocumentProblem (List Block) :=
  readDocument read text
where
  /-- Reads the array of the blocks. -/
  read : Tree → Reads (List Block)
    | .array start items => do
      let depth ← lift (Json.descend 0 start)
      readBlocks depth items
    | tree => .error (unexpected .sequence tree)

/-! ## Refusals -/

/-- Why there are no blocks: the text is no document of blocks, or a node stands for none. -/
inductive InvalidBlocks
  | document (problem : DocumentProblem)
  | node (problem : NodeProblem)
  deriving Repr, DecidableEq

namespace InvalidBlocks

/-- What is wrong. -/
def detail : InvalidBlocks → String
  | document problem => problem.message
  | node problem => problem.message

/-- The full wording. -/
def message (e : InvalidBlocks) : String := refusal ++ e.detail

end InvalidBlocks

end PatternProse.Block
