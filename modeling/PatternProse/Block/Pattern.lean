import PatternProse.Block.Basic

/-!
# Patterns of blocks

Every list of blocks has a pattern. Blocks that lack something get a stand-in instead of failing,
and what is to be matched as it stands is escaped.

## Main definitions

* `Block.chars` — the pattern of a block as characters.
* `Block.pattern`, `Block.formatAll` — the patterns of a block and of a list of blocks.
-/

namespace PatternProse.Block

/-- The characters that are escaped in text to be matched. -/
def literalSpecials : List Char :=
  ['.', '*', '+', '?', '^', '$', '{', '}', '(', ')', '|', '[', ']', '\\']

/-- The characters that are escaped in a character class. -/
def classSpecials : List Char := ['-', ']', '\\', '[']

/-- A text with a backslash before each special character. -/
def escape (specials : List Char) (cs : List Char) : List Char :=
  cs.flatMap fun c => if specials.contains c then ['\\', c] else [c]

/-- Whether there is a bar that is not escaped. -/
def hasBar : List Char → Bool
  | [] => false
  | '\\' :: cs =>
    match cs with
    | [] => false
    | _ :: cs => hasBar cs
  | c :: cs => c == '|' || hasBar cs

/-- What a quantifier is written after: one character as it stands, more of them in a group, and
any character for want of something to repeat. -/
def repeated (content : List Char) : List Char :=
  if content.isEmpty then ['.']
  else if content.length > 1 || hasBar content then ['(', '?', ':'] ++ content ++ [')']
  else content

/-- The characters of a class, or those of a fresh one if there are none. -/
def classContents (characters : String) : List Char :=
  if characters.isEmpty then ({} : Settings).characters.toList else characters.toList

/-- The alternatives that stand in for none. -/
def alternativesStandIn : List Char := ['a', '|', 'b']

/-- What stands in for an assertion about nothing. -/
def lookaroundStandIn : List Char := ['p', 'a', 't', 't', 'e', 'r', 'n']

mutual

/-- The characters of a block's pattern. -/
def chars : Block → List Char
  | literal text => escape literalSpecials text.toList
  | symbol s => s.chars
  | repetition q body => repeated (charsOfBody body) ++ q.chars
  | group bs => '(' :: (charsOfEach bs).flatten ++ [')']
  | alternatives bs =>
    if bs.isEmpty then alternativesStandIn else ['|'].intercalate (charsOfEach bs)
  | characterClass negated characters =>
    '[' :: (if negated then ['^'] else []) ++ escape classSpecials (classContents characters) ++
      [']']
  | lookaround k bs =>
    let content := (charsOfEach bs).flatten
    '(' :: k.mark ++ (if content.isEmpty then lookaroundStandIn else content) ++ [')']

/-- The characters of what a repetition holds. -/
def charsOfBody : Option Block → List Char
  | none => []
  | some b => b.chars

/-- The characters of each of several blocks. -/
def charsOfEach : List Block → List (List Char)
  | [] => []
  | b :: bs => b.chars :: charsOfEach bs

end

theorem charsOfEach_eq_map (bs : List Block) : charsOfEach bs = bs.map chars := by
  induction bs with
  | nil => rfl
  | cons b bs ih => simp [charsOfEach, ih]

/-- The pattern of a block. -/
def pattern (b : Block) : String := String.ofList b.chars

/-- The pattern of a list of blocks, which matches one after the other. -/
def formatAll (bs : List Block) : String := String.ofList (bs.flatMap chars)

end PatternProse.Block
