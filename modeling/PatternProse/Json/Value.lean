import PatternProse.Binary64

/-!
# JSON values

## Main definitions

* `Json` — a value.
* `Json.Number` — a number: an integer of 64 bits, or else a double.
* `Json.insert` — puts a member into an object whose members are in the order of their names.
-/

namespace PatternProse

namespace Json

/-- A number of a document. -/
inductive Number
  | natural (n : Nat)
  /-- The negative number `-n`. -/
  | negative (n : Nat)
  | real (isNegative : Bool) (magnitude : Binary64)
  deriving Repr, DecidableEq

/-- The text of a number. -/
def Number.text : Number → String
  | natural n => Decimal.text n
  | negative n => "-" ++ Decimal.text n
  | real isNegative magnitude => (if isNegative then "-" else "") ++ magnitude.text

end Json

/-- A JSON value. -/
inductive Json
  | null
  | bool (b : Bool)
  | number (n : Json.Number)
  | string (s : String)
  | array (items : List Json)
  | object (members : List (String × Json))
  deriving Repr, BEq

namespace Json

/-- Puts a member into a list of members that is in the order of their names. A member with the
same name is replaced. -/
def insert (name : String) (value : Json) : List (String × Json) → List (String × Json)
  | [] => [(name, value)]
  | (n, v) :: rest =>
    if name < n then (name, value) :: (n, v) :: rest
    else if name == n then (name, value) :: rest
    else (n, v) :: insert name value rest

end Json

end PatternProse
