import PatternProse.Json.Scalar

/-!
# Located trees

A text is read into a tree of values that knows where each of them stands. A text that stops being
JSON somewhere still has a tree, which ends with a fault at that place: whoever goes through the
tree in the order of the text meets the fault after all that comes before it.

## Main definitions

* `Tree` — a value of a text with its places.
* `Tree.take` — the JSON value that a tree stands for, or the first problem on the way to it.
* `Tree.skip` — the first problem for a reader that passes a tree over.
-/

namespace PatternProse.Json

/-- A value that holds no other values. -/
inductive Scalar
  | null
  | bool (b : Bool)
  | number (n : Number)
  | string (s : String)
  deriving Repr, DecidableEq

/-- The JSON value of a scalar. -/
def Scalar.toJson : Scalar → Json
  | null => .null
  | bool b => .bool b
  | number n => .number n
  | string s => .string s

mutual

/-- A value of a text. -/
inductive Tree
  /-- A scalar that stops at an offset. It may be one that can only be skipped. -/
  | scalar (taken : Except (Problem SyntaxProblem) Scalar) (stop : Nat)
  /-- An array whose bracket is at an offset. -/
  | array (start : Nat) (items : Items)
  /-- An object whose brace is at an offset. -/
  | object (start : Nat) (members : Members)
  /-- A place where no value can be read. -/
  | broken (fault : Fault)

/-- The remaining items of an array. -/
inductive Items
  /-- The end of the array, which stops at an offset. -/
  | done (stop : Nat)
  /-- A place where neither an item nor the end of the array can be read. -/
  | broken (fault : Fault)
  /-- An item that starts at an offset, and the offset reached by an attempt to close the array
  after it. -/
  | more (start : Nat) (value : Tree) (closing : Nat) (rest : Items)

/-- The remaining members of an object. -/
inductive Members
  /-- The end of the object, which stops at an offset. -/
  | done (stop : Nat)
  /-- A place where neither a member nor the end of the object can be read. -/
  | broken (fault : Fault)
  /-- A member, and the offset reached by an attempt to close the object after its name. The name
  may be one that can only be skipped. -/
  | more (name : Except (Problem SyntaxProblem) String) (closing : Nat) (value : Tree)
    (rest : Members)

end

/-! ## Going through a tree -/

mutual

/-- Skips a value: succeeds unless there is a fault in it. -/
def Tree.skip : Tree → Except (Problem SyntaxProblem) Unit
  | .scalar _ _ => .ok ()
  | .array _ items => items.skip
  | .object _ members => members.skip
  | .broken fault => .error fault.asSkipped

/-- Skips the remaining items of an array. -/
def Items.skip : Items → Except (Problem SyntaxProblem) Unit
  | .done _ => .ok ()
  | .broken fault => .error fault.asSkipped
  | .more _ value _ rest => do value.skip; rest.skip

/-- Skips the remaining members of an object. -/
def Members.skip : Members → Except (Problem SyntaxProblem) Unit
  | .done _ => .ok ()
  | .broken fault => .error fault.asSkipped
  | .more _ _ value rest => do value.skip; rest.skip

end

/-- The number of open arrays and objects that is refused. -/
def depthLimit : Nat := 128

/-- Opens an array or an object at an offset with `depth` of them open around it. -/
def descend (depth start : Nat) : Except (Problem SyntaxProblem) Nat :=
  if depth + 1 < depthLimit then .ok (depth + 1) else fail .tooDeep (start + 1)

mutual

/-- Takes in a value with `depth` arrays and objects open around it. -/
def Tree.take (depth : Nat) : Tree → Except (Problem SyntaxProblem) Json
  | .scalar taken _ => taken.map Scalar.toJson
  | .array start items => do
    let depth ← descend depth start
    return .array (← items.take depth)
  | .object start members => do
    let depth ← descend depth start
    return .object (← members.take depth [])
  | .broken fault => .error fault.asTaken

/-- Takes in the remaining items of an array. -/
def Items.take (depth : Nat) : Items → Except (Problem SyntaxProblem) (List Json)
  | .done _ => .ok []
  | .broken fault => .error fault.asTaken
  | .more _ value _ rest => do
    let value ← value.take depth
    let rest ← rest.take depth
    return value :: rest

/-- Takes in the remaining members of an object, after those in `taken`. Of two members with one
name the last one counts. -/
def Members.take (depth : Nat) (taken : List (String × Json)) :
    Members → Except (Problem SyntaxProblem) (List (String × Json))
  | .done _ => .ok taken
  | .broken fault => .error fault.asTaken
  | .more name _ value rest => do
    let name ← name
    let value ← value.take depth
    rest.take depth (Json.insert name value taken)

end

end PatternProse.Json
