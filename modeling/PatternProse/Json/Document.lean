import PatternProse.Json.Tree

/-!
# The tree of a text

A text is read from left to right by a machine that keeps a stack of the arrays and objects that
are open, so that the depth of a text is bounded by its length alone.

## Main definitions

* `Document` — a text that has been read.
* `Reader` — the machine, with `Reader.step`, what it does next.
* `Document.ofText` — reads a text.
-/

namespace PatternProse.Json

/-- A text that has been read: its tree, and what is wrong after it. -/
structure Document where
  tree : Tree
  trailing : Option (Problem SyntaxProblem) := none

/-- Items of an array that have been read, the latest first: where each starts, its tree, and the
offset reached by an attempt to close the array after it. -/
abbrev ItemsRead := List (Nat × Tree × Nat)

/-- The name of a member, if it can be taken in. -/
abbrev Name := Except (Problem SyntaxProblem) String

/-- Members of an object that have been read, the latest first: the name of each, the offset
reached by an attempt to close the object after the name, and its tree. -/
abbrev MembersRead := List (Name × Nat × Tree)

/-- An array or an object that waits for a value in it to be read. -/
inductive Open
  | array (start : Nat) (items : ItemsRead)
  /-- An object with the name of the member that waits for its value. -/
  | object (start : Nat) (members : MembersRead) (name : Name) (closing : Nat)

/-- What is to be read next. -/
inductive Stage
  | value
  /-- An item of an array or its end; `first` says that no comma has been read. -/
  | item (start : Nat) (items : ItemsRead) (first : Bool)
  /-- A member of an object or its end; `first` says that no comma has been read. -/
  | member (start : Nat) (members : MembersRead) (first : Bool)
  /-- What follows a value that starts at an offset. -/
  | after (start : Nat) (value : Tree)

/-- Items before an end. -/
def Items.build (items : ItemsRead) (ending : Items) : Items :=
  items.foldl (fun rest (start, value, closing) => .more start value closing rest) ending

/-- Members before an end. -/
def Members.build (members : MembersRead) (ending : Members) : Members :=
  members.foldl (fun rest (name, closing, value) => .more name closing value rest) ending

/-- The tree of all that is open, where the innermost value is `inner`, which starts at `start` and
ends with the fault. -/
def closeAll (fault : Fault) (start : Nat) (inner : Tree) : List Open → Tree
  | [] => inner
  | .array bracket items :: outer =>
    closeAll fault bracket
      (.array bracket (.build items (.more start inner start (.broken fault)))) outer
  | .object brace members name closing :: outer =>
    closeAll fault brace
      (.object brace (.build members (.more name closing inner (.broken fault)))) outer

/-- Whether a character is white space of a document. -/
def isSpace (c : Char) : Bool := c == ' ' || c == '\t' || c == '\n' || c == '\r'

/-- Drops white space: how much of it, and what follows. -/
def skipSpace (cs : List Char) : Nat × List Char :=
  ((cs.takeWhile isSpace).length, cs.dropWhile isSpace)

theorem length_skipSpace_le (cs : List Char) : (skipSpace cs).2.length ≤ cs.length :=
  (List.dropWhile_sublist isSpace).length_le

/-- The problem of looking at the next character, or of finding none. -/
def looking (cause atEnd : SyntaxProblem) (offset : Nat) (cs : List Char) :
    Problem SyntaxProblem :=
  if cs.isEmpty then ⟨atEnd, offset⟩ else ⟨cause, offset + 1⟩

/-- Reads the letters of a word. -/
def readWord (value : Scalar) (offset : Nat) : List Char → List Char → Read Scalar
  | [], cs => .ok ⟨value, offset, cs⟩
  | _ :: _, [] => fail .endInValue offset
  | w :: ws, c :: cs =>
    if w == c then readWord value (offset + 1) ws cs else fail .expectedIdentifier (offset + 1)

theorem length_readWord_le {value : Scalar} {offset : Nat} {ws cs : List Char}
    {r : Reading Scalar} (h : readWord value offset ws cs = .ok r) :
    r.rest.length ≤ cs.length := by
  fun_induction readWord value offset ws cs with
  | case1 => cases h; exact Nat.le_refl _
  | case2 => cases h
  | case3 offset w ws c cs _ ih =>
    have := ih h
    simp only [List.length_cons]
    omega
  | case4 => cases h

/-- A scalar at the start of a text: the tree of it and the offset and the text after it, or the
fault in it. -/
def readScalar (offset : Nat) (c : Char) (cs : List Char) : Except Fault (Reading Tree) :=
  let word (value : Scalar) (letters : List Char) : Except Fault (Reading Tree) :=
    match readWord value (offset + 1) letters cs with
    | .ok r => .ok ⟨.scalar (.ok r.value) r.offset, r.offset, r.rest⟩
    | .error p => .error (.uniform p)
  match c with
  | 'n' => word .null ['u', 'l', 'l']
  | 't' => word (.bool true) ['r', 'u', 'e']
  | 'f' => word (.bool false) ['a', 'l', 's', 'e']
  | '"' =>
    let taken := (takeString (offset + 1) cs).map (String.ofList ·.value)
    match skipString (offset + 1) cs, taken with
    | .ok r, taken => .ok ⟨.scalar (taken.map .string) r.offset, r.offset, r.rest⟩
    | .error p, .error q => .error ⟨q, p, p⟩
    | .error p, .ok _ => .error (.uniform p)
  | c =>
    if c == '-' || c.isDigit then
      let taken := (takeNumber offset (c :: cs)).map (Scalar.number ·.value)
      match skipNumber offset (c :: cs), taken with
      | .ok r, taken => .ok ⟨.scalar taken r.offset, r.offset, r.rest⟩
      | .error p, .error q => .error ⟨q, p, p⟩
      | .error p, .ok _ => .error (.uniform p)
    else
      .error (.uniform ⟨.expectedValue, offset + 1⟩)

theorem length_readScalar_le {offset : Nat} {c : Char} {cs : List Char} {r : Reading Tree}
    (h : readScalar offset c cs = .ok r) : r.rest.length ≤ cs.length := by
  have hword : ∀ (value : Scalar) (letters : List Char),
      (match readWord value (offset + 1) letters cs with
        | .ok r => (.ok ⟨.scalar (.ok r.value) r.offset, r.offset, r.rest⟩ :
            Except Fault (Reading Tree))
        | .error p => .error (.uniform p)) = .ok r → r.rest.length ≤ cs.length := by
    intro value letters h
    split at h
    · rename_i heq
      cases h
      exact length_readWord_le heq
    · cases h
  unfold readScalar at h
  simp only at h
  split at h
  · exact hword _ _ h
  · exact hword _ _ h
  · exact hword _ _ h
  · split at h
    · rename_i heq
      cases h
      exact Nat.le_of_lt (length_skipString_lt heq)
    · cases h
    · cases h
  · split at h
    · split at h
      · rename_i heq
        cases h
        exact Nat.le_of_lt_succ (length_skipNumber_lt heq)
      · cases h
      · cases h
    · cases h

/-- The name of a member after its opening quote: the offset and the text after it, or the fault
in it. -/
def readName (offset : Nat) (cs : List Char) : Except Fault (Reading Name) :=
  match skipString offset cs, (takeString offset cs).map (String.ofList ·.value) with
  | .ok r, name => .ok ⟨name, r.offset, r.rest⟩
  | .error p, .error q => .error ⟨q, p, p⟩
  | .error p, .ok _ => .error (.uniform p)

theorem length_readName_lt {offset : Nat} {cs : List Char} {r : Reading Name}
    (h : readName offset cs = .ok r) : r.rest.length < cs.length := by
  unfold readName at h
  split at h
  · rename_i heq
    cases h
    exact length_skipString_lt heq
  · cases h
  · cases h

/-- The fault where an item or the end of an array should be. -/
def itemFault (first : Bool) (offset : Nat) (cs : List Char) : Fault :=
  if first then .uniform ⟨.endInArray, offset⟩
  else
    ⟨looking .trailingComma .endInValue offset cs, looking .expectedValue .endInValue offset cs,
      looking .trailingComma .trailingCharacters offset cs⟩

/-- The fault where a member or the end of an object should be. -/
def memberFault (first : Bool) (offset : Nat) (cs : List Char) : Fault :=
  let other := looking .keyNotString .endInObject offset cs
  if first then .uniform other
  else if cs.head? == some '\x7d' then ⟨⟨.trailingComma, offset + 1⟩, other, other⟩
  else ⟨looking .keyNotString .endInValue offset cs, other, other⟩

/-- The fault where a comma or the end of an array should be. -/
def afterItemFault (offset : Nat) (cs : List Char) : Fault :=
  let other := looking .expectedCommaOrBracket .endInArray offset cs
  ⟨other, other, looking .trailingCharacters .endInArray offset cs⟩

/-- The offset reached by an attempt to close an array. -/
def arrayClosing (offset : Nat) : List Char → Nat
  | ']' :: _ => offset + 1
  | ',' :: cs => offset + 1 + (skipSpace cs).1
  | _ => offset

/-- The offset reached by an attempt to close an object. -/
def objectClosing (offset : Nat) (cs : List Char) : Nat :=
  if cs.head? == some '\x7d' then offset + 1 else offset

/-! ## The machine -/

/-- The machine: what is open, innermost first, what is to be read next, and from where. -/
structure Reader where
  outer : List Open := []
  stage : Stage := .value
  offset : Nat := 0
  rest : List Char

/-- What the machine comes to: the end of its work, or a state to go on from. -/
inductive Step
  | done (document : Document)
  | next (reader : Reader)

/-- The end of reading at a fault in the innermost value, which starts at an offset. -/
def Step.fault (fault : Fault) (start : Nat) (inner : Tree) (outer : List Open) : Step :=
  .done { tree := closeAll fault start inner outer }

/-- The end of reading at a fault in an array. -/
def Step.itemsFault (fault : Fault) (start : Nat) (items : ItemsRead) (outer : List Open) : Step :=
  .fault fault start (.array start (.build items (.broken fault))) outer

/-- The end of reading at a fault in an object. -/
def Step.membersFault (fault : Fault) (start : Nat) (members : MembersRead) (outer : List Open) :
    Step :=
  .fault fault start (.object start (.build members (.broken fault))) outer

namespace Reader

/-- Reads a value. -/
def stepValue (outer : List Open) (offset : Nat) (cs : List Char) : Step :=
  match cs with
  | [] =>
    let fault := Fault.uniform ⟨.endInValue, offset⟩
    .fault fault offset (.broken fault) outer
  | '[' :: cs => .next ⟨outer, .item offset [] true, offset + 1, cs⟩
  | '{' :: cs => .next ⟨outer, .member offset [] true, offset + 1, cs⟩
  | c :: cs =>
    match readScalar offset c cs with
    | .ok r => .next ⟨outer, .after offset r.value, r.offset, r.rest⟩
    | .error fault => .fault fault offset (.broken fault) outer

/-- Goes to an item of an array or to its end. -/
def stepItem (outer : List Open) (start : Nat) (items : ItemsRead) (first : Bool) (offset : Nat)
    (cs : List Char) : Step :=
  match cs with
  | [] => .itemsFault (itemFault first offset []) start items outer
  | ']' :: cs =>
    if first then .next ⟨outer, .after start (.array start (.done (offset + 1))), offset + 1, cs⟩
    else .itemsFault (itemFault first offset (']' :: cs)) start items outer
  | cs => .next ⟨.array start items :: outer, .value, offset, cs⟩

/-- Goes from the name of a member to its value. -/
def stepColon (outer : List Open) (start : Nat) (members : MembersRead) (name : Name)
    (offset : Nat) (cs : List Char) : Step :=
  let outer := .object start members name (objectClosing offset cs) :: outer
  match cs with
  | ':' :: cs => .next ⟨outer, .value, offset + 1, cs⟩
  | cs =>
    let fault := Fault.uniform (looking .expectedColon .endInObject offset cs)
    .fault fault offset (.broken fault) outer

/-- Reads the name of a member, or goes to the end of an object. -/
def stepMember (outer : List Open) (start : Nat) (members : MembersRead) (first : Bool)
    (offset : Nat) (cs : List Char) : Step :=
  match cs with
  | '"' :: cs =>
    match readName (offset + 1) cs with
    | .ok r =>
      let space := skipSpace r.rest
      stepColon outer start members r.value (r.offset + space.1) space.2
    | .error fault => .membersFault fault start members outer
  | '}' :: cs =>
    if first then .next ⟨outer, .after start (.object start (.done (offset + 1))), offset + 1, cs⟩
    else .membersFault (memberFault first offset ('}' :: cs)) start members outer
  | cs => .membersFault (memberFault first offset cs) start members outer

/-- Goes on after a value. -/
def stepAfter (outer : List Open) (start : Nat) (value : Tree) (offset : Nat) (cs : List Char) :
    Step :=
  match outer with
  | [] =>
    .done
      { tree := value
        trailing := if cs.isEmpty then none else some ⟨.trailingCharacters, offset + 1⟩ }
  | .array bracket items :: outer =>
    let items := (start, value, arrayClosing offset cs) :: items
    match cs with
    | ']' :: cs =>
      let array := Tree.array bracket (.build items (.done (offset + 1)))
      .next ⟨outer, .after bracket array, offset + 1, cs⟩
    | ',' :: cs => .next ⟨outer, .item bracket items false, offset + 1, cs⟩
    | cs => .itemsFault (afterItemFault offset cs) bracket items outer
  | .object brace members name closing :: outer =>
    let members := (name, closing, value) :: members
    match cs with
    | '}' :: cs =>
      let object := Tree.object brace (.build members (.done (offset + 1)))
      .next ⟨outer, .after brace object, offset + 1, cs⟩
    | ',' :: cs => .next ⟨outer, .member brace members false, offset + 1, cs⟩
    | cs =>
      .membersFault (.uniform (looking .expectedCommaOrBrace .endInObject offset cs)) brace members
        outer

/-- What the machine comes to next. White space is dropped first. -/
def step (r : Reader) : Step :=
  let space := skipSpace r.rest
  let offset := r.offset + space.1
  match r.stage with
  | .value => stepValue r.outer offset space.2
  | .item start items first => stepItem r.outer start items first offset space.2
  | .member start members first => stepMember r.outer start members first offset space.2
  | .after start value => stepAfter r.outer start value offset space.2

/-- How many characters are left to read, twice, where going from an item to its value counts
once. -/
def measure (r : Reader) : Nat :=
  match r.stage with
  | .item .. => 2 * r.rest.length + 1
  | _ => 2 * r.rest.length

theorem measure_stepValue_lt {outer : List Open} {offset : Nat} {cs : List Char} {r : Reader}
    (h : stepValue outer offset cs = .next r) : r.measure < 2 * cs.length := by
  unfold stepValue at h
  split at h
  · cases h
  · cases h; simp only [measure, List.length_cons]; omega
  · cases h; simp only [measure, List.length_cons]; omega
  · split at h
    · rename_i heq
      have := length_readScalar_le heq
      cases h
      simp only [measure, List.length_cons]
      omega
    · cases h

theorem measure_stepItem_le {outer : List Open} {start : Nat} {items : ItemsRead} {first : Bool}
    {offset : Nat} {cs : List Char} {r : Reader}
    (h : stepItem outer start items first offset cs = .next r) : r.measure ≤ 2 * cs.length := by
  unfold stepItem at h
  split at h
  · cases h
  · split at h
    · cases h; simp only [measure, List.length_cons]; omega
    · cases h
  · cases h; exact Nat.le_refl _

theorem measure_stepColon_le {outer : List Open} {start : Nat} {members : MembersRead}
    {name : Name} {offset : Nat} {cs : List Char} {r : Reader}
    (h : stepColon outer start members name offset cs = .next r) :
    r.measure ≤ 2 * cs.length := by
  unfold stepColon at h
  split at h
  · cases h; simp only [measure, List.length_cons]; omega
  · cases h

theorem measure_stepMember_lt {outer : List Open} {start : Nat} {members : MembersRead}
    {first : Bool} {offset : Nat} {cs : List Char} {r : Reader}
    (h : stepMember outer start members first offset cs = .next r) :
    r.measure < 2 * cs.length := by
  unfold stepMember at h
  split at h
  · split at h
    · rename_i name heq
      have h₁ := length_readName_lt heq
      have h₂ := length_skipSpace_le name.rest
      have h₃ := measure_stepColon_le h
      simp only [List.length_cons]
      omega
    · cases h
  · split at h
    · cases h; simp only [measure, List.length_cons]; omega
    · cases h
  · cases h

theorem measure_stepAfter_lt {outer : List Open} {start : Nat} {value : Tree} {offset : Nat}
    {cs : List Char} {r : Reader} (h : stepAfter outer start value offset cs = .next r) :
    r.measure < 2 * cs.length := by
  unfold stepAfter at h
  split at h
  · cases h
  · split at h
    · cases h; simp only [measure, List.length_cons]; omega
    · cases h; simp only [measure, List.length_cons]; omega
    · cases h
  · split at h
    · cases h; simp only [measure, List.length_cons]; omega
    · cases h; simp only [measure, List.length_cons]; omega
    · cases h

/-- Every step brings the machine closer to its end. -/
theorem measure_step_lt {r r' : Reader} (h : r.step = .next r') : r'.measure < r.measure := by
  have hspace := length_skipSpace_le r.rest
  unfold step at h
  simp only at h
  rw [measure.eq_def r]
  split at h
  · have := measure_stepValue_lt h
    simp only [*]
    omega
  · have := measure_stepItem_le h
    simp only [*]
    omega
  · have := measure_stepMember_lt h
    simp only [*]
    omega
  · have := measure_stepAfter_lt h
    simp only [*]
    omega

/-- Lets the machine run to its end. -/
def finish (r : Reader) : Document :=
  match _h : r.step with
  | .done document => document
  | .next r => finish r
termination_by r.measure
decreasing_by exact measure_step_lt _h

theorem finish_of_step_done {r : Reader} {document : Document} (h : r.step = .done document) :
    r.finish = document := by
  rw [finish]
  split <;> simp_all

theorem finish_of_step_next {r r' : Reader} (h : r.step = .next r') : r.finish = r'.finish := by
  rw [finish]
  split <;> simp_all

end Reader

/-- The tree of a text. -/
def Document.ofText (text : String) : Document := Reader.finish { rest := text.toList }

end PatternProse.Json
