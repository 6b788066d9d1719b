import PatternProse.Fragment
import PatternProse.Token

/-!
# Sentences for tokens

Every token of a pattern has a kind and a sentence that explains it. Only the sentence of a
quantifier depends on more than the token: it names the item that is repeated.
-/

namespace PatternProse

namespace Lookaround

/-- The sentence that explains a lookaround. -/
def sentence : Lookaround → String
  | ahead => "Assert that the following matches ahead without consuming characters"
  | notAhead => "Assert that the following does NOT match ahead without consuming characters"
  | behind => "Assert that the following matches behind without consuming characters"
  | notBehind => "Assert that the following does NOT match behind without consuming characters"

end Lookaround

namespace Opener

/-- The kind of fragment that an opener becomes. -/
def kind : Opener → FragmentKind
  | lookaround _ => .lookaround
  | _ => .group

/-- The sentence that explains an opener. -/
def sentence : Opener → String
  | capture => "Capture group that remembers the matched substring"
  | nonCapturing => "Group that doesn't capture for backreference"
  | named name =>
    "Named capture group \"" ++ String.ofList name ++ "\" that remembers the matched substring"
  | lookaround kind => kind.sentence
  | special => "Special group with extended pattern"

end Opener

namespace Token

/-- The sentence that explains characters standing for themselves. -/
def literalSentence (run : List Char) : String :=
  "Match the characters \"" ++ String.ofList run ++ "\" literally"

/-- The sentence that explains a backslash and the character after it. -/
def escapeSentence : Option Char → String
  | some 'd' => "Match any digit (0-9)"
  | some 'D' => "Match any non-digit character"
  | some 'w' => "Match any word character (a-z, A-Z, 0-9, _)"
  | some 'W' => "Match any non-word character"
  | some 's' => "Match any whitespace character (space, tab, newline)"
  | some 'S' => "Match any non-whitespace character"
  | some 'b' => "Match a word boundary position"
  | some 'B' => "Match a non-word boundary position"
  | some 'n' => "Match a newline character"
  | some 't' => "Match a tab character"
  | some 'r' => "Match a carriage return character"
  | c => "Match the character \"" ++ String.singleton (c.getD '\\') ++ "\" literally"

/-- How a sentence names the item that a quantifier repeats. -/
def itemPhrase : Option (List Char) → String
  | some item => "the preceding item (" ++ String.ofList item ++ ")"
  | none => "the preceding character"

/-- The sentence that explains a quantifier applied to an item. -/
def quantifierSentence (token : List Char) (lazy : Bool) (item : Option (List Char)) : String :=
  match Quantifier.ofChars? token with
  | some q => q.describe (itemPhrase item) lazy
  | none => "Match using quantifier " ++ String.ofList (quantifier token lazy).text

/-- The kind and the sentence of the fragment that a token becomes, where `item` is what a
quantifier would repeat. A closing parenthesis becomes no fragment. -/
def explain? (item : Option (List Char)) : Token → Option (FragmentKind × String)
  | literal run => some (.literal, literalSentence run)
  | characterSet true contents _ =>
    some (.characterSet, "Match any character that is not in the set: " ++ String.ofList contents)
  | characterSet false contents _ =>
    some (.characterSet, "Match any character in the set: " ++ String.ofList contents)
  | escape escaped => some (.escape, escapeSentence escaped)
  | quantifier token lazy => some (.quantifier, quantifierSentence token lazy item)
  | opener o => some (o.kind, o.sentence)
  | close => none
  | startAnchor => some (.anchor, "Match the start of the line")
  | endAnchor => some (.anchor, "Match the end of the line")
  | anyCharacter => some (.anyCharacter, "Match any single character except newline")
  | bar => some (.alternation, "Match either the expression before or after the |")

end Token

end PatternProse
