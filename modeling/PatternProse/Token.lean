import PatternProse.Lookaround
import PatternProse.Quantifier
import PatternProse.Unicode.CharClass

/-!
# Tokens of a pattern

A pattern is cut into tokens from left to right, each as long as it can be. Every text is cut
without failure: what is not finished at the end of the pattern runs to that end.

## Main definitions

* `Token` — one token, with `Token.text`, the characters it is written with.
* `Token.scan` — the token that a text starts with, and the rest of the text.
* `Token.list` — all tokens of a text.

The main statements are `Token.text_append_scan`, which says that a token and the rest make up the
text, and `Token.flatMap_text_list`, which says so of all tokens.
-/

namespace PatternProse

/-- How a group or a lookaround opens. -/
inductive Opener
  | capture
  | nonCapturing
  | named (name : List Char)
  | lookaround (kind : Lookaround)
  /-- A parenthesis and a question mark that none of the other forms goes on from. -/
  | special
  deriving Repr, DecidableEq

/-- A token of a pattern. -/
inductive Token
  /-- A run of ordinary characters, or one closing bracket or brace that closes nothing. -/
  | literal (run : List Char)
  /-- A bracket expression; without its closing bracket it runs to the end of the pattern. -/
  | characterSet (negated : Bool) (contents : List Char) (closed : Bool)
  /-- A backslash and the character after it, which is absent at the end of the pattern. -/
  | escape (escaped : Option Char)
  /-- A quantifier token, and whether a mark of laziness follows it. -/
  | quantifier (token : List Char) (lazy : Bool)
  | opener (opener : Opener)
  | close
  | startAnchor
  | endAnchor
  | anyCharacter
  | bar
  deriving Repr, DecidableEq

namespace Opener

/-- The characters that an opener is written with. -/
def text : Opener → List Char
  | capture => ['(']
  | nonCapturing => ['(', '?', ':']
  | named name => ['(', '?', '<'] ++ name ++ ['>']
  | lookaround kind => '(' :: kind.mark
  | special => ['(', '?']

/-- Whether a text may name a group. -/
def isName (name : List Char) : Bool :=
  !name.isEmpty && name.all fun c => Unicode.isAlphanumeric c || c == '_' || c == '$'

/-- The name in angle brackets that a text starts with, and the rest of the text. -/
def scanName? : List Char → Option (List Char × List Char)
  | '<' :: cs =>
    let name := cs.takeWhile (· != '>')
    match cs.dropWhile (· != '>') with
    | _ :: rest => if isName name then some (name, rest) else none
    | [] => none
  | _ => none

/-- The opener that an opening parenthesis starts, given what follows it. -/
def scan : List Char → Opener × List Char
  | '?' :: '=' :: cs => (lookaround .ahead, cs)
  | '?' :: '!' :: cs => (lookaround .notAhead, cs)
  | '?' :: '<' :: '=' :: cs => (lookaround .behind, cs)
  | '?' :: '<' :: '!' :: cs => (lookaround .notBehind, cs)
  | '?' :: ':' :: cs => (nonCapturing, cs)
  | '?' :: cs =>
    match scanName? cs with
    | some (name, rest) => (named name, rest)
    | none => (special, cs)
  | cs => (capture, cs)

end Opener

namespace Token

/-- The characters that a token is written with. -/
def text : Token → List Char
  | literal run => run
  | characterSet negated contents closed =>
    '[' :: (if negated then ['^'] else []) ++ contents ++ (if closed then [']'] else [])
  | escape none => ['\\']
  | escape (some c) => ['\\', c]
  | quantifier token lazy => token ++ (if lazy then ['?'] else [])
  | opener o => o.text
  | close => [')']
  | startAnchor => ['^']
  | endAnchor => ['$']
  | anyCharacter => ['.']
  | bar => ['|']

/-- Whether a character ends a run of ordinary characters. -/
def isMetacharacter (c : Char) : Bool :=
  ['\\', '[', ']', '(', ')', '.', '*', '+', '?', '{', '}', '^', '$', '|'].contains c

/-- The contents of a bracket expression up to its closing bracket, whether it has one, and what
follows. An escaped bracket closes nothing. -/
def scanContents : List Char → List Char × Bool × List Char
  | [] => ([], false, [])
  | ']' :: cs => ([], true, cs)
  | '\\' :: c :: cs =>
    let (contents, closed, rest) := scanContents cs
    ('\\' :: c :: contents, closed, rest)
  | c :: cs =>
    let (contents, closed, rest) := scanContents cs
    (c :: contents, closed, rest)

/-- A quantifier token with the mark of laziness that may follow it. -/
def scanLazy (token : List Char) : List Char → Token × List Char
  | '?' :: cs => (quantifier token true, cs)
  | cs => (quantifier token false, cs)

/-- The token that starts with the character `c`, given what follows it. -/
def scan (c : Char) (cs : List Char) : Token × List Char :=
  match c with
  | '(' =>
    let (o, rest) := Opener.scan cs
    (opener o, rest)
  | ')' => (close, cs)
  | '[' =>
    match cs with
    | '^' :: cs =>
      let (contents, closed, rest) := scanContents cs
      (characterSet true contents closed, rest)
    | cs =>
      let (contents, closed, rest) := scanContents cs
      (characterSet false contents closed, rest)
  | '\\' =>
    match cs with
    | [] => (escape none, [])
    | c :: cs => (escape (some c), cs)
  | '{' =>
    match cs.dropWhile (· != '}') with
    | brace :: rest => scanLazy ('{' :: cs.takeWhile (· != '}') ++ [brace]) rest
    | [] => (quantifier ('{' :: cs) false, [])
  | '*' | '+' | '?' => scanLazy [c] cs
  | '^' => (startAnchor, cs)
  | '$' => (endAnchor, cs)
  | '.' => (anyCharacter, cs)
  | '|' => (bar, cs)
  | ']' | '}' => (literal [c], cs)
  | c => (literal (c :: cs.takeWhile (!isMetacharacter ·)), cs.dropWhile (!isMetacharacter ·))

end Token

/-- A text up to the first character of some kind, that character and what follows. -/
theorem eq_of_dropWhile_ne {cs rest : List Char} {c d : Char}
    (h : cs.dropWhile (· != d) = c :: rest) : cs = cs.takeWhile (· != d) ++ d :: rest := by
  have hc : c = d := by
    have := List.head?_dropWhile_not (fun x : Char => x != d) cs
    simpa [h] using this
  have hcs := List.takeWhile_append_dropWhile (p := fun x : Char => x != d) (l := cs)
  rw [h, hc] at hcs
  exact hcs.symm

namespace Opener

theorem eq_of_scanName? {cs name rest : List Char} (h : scanName? cs = some (name, rest)) :
    cs = '<' :: name ++ '>' :: rest ∧ isName name = true := by
  simp only [scanName?] at h
  split at h
  · rename_i cs
    split at h
    · rename_i c r hd
      split at h
      · rename_i hname
        cases h
        exact ⟨congrArg ('<' :: ·) (eq_of_dropWhile_ne hd), hname⟩
      · cases h
    · cases h
  · cases h

/-- An opener and the rest make up the text. -/
theorem text_append_scan (cs : List Char) : (scan cs).1.text ++ (scan cs).2 = '(' :: cs := by
  unfold scan
  split <;> try rfl
  split
  · rename_i h
    simp [text, (eq_of_scanName? h).1]
  · rfl

theorem text_ne_nil (o : Opener) : o.text ≠ [] := by cases o <;> simp [text]

end Opener

namespace Token

theorem append_scanContents (cs : List Char) :
    (scanContents cs).1 ++ (if (scanContents cs).2.1 then [']'] else []) ++ (scanContents cs).2.2
      = cs := by
  fun_induction scanContents cs <;> simp_all

theorem text_append_scanLazy (token cs : List Char) :
    (scanLazy token cs).1.text ++ (scanLazy token cs).2 = token ++ cs := by
  unfold scanLazy
  split <;> simp [text]

/-- A token and the rest make up the text. -/
theorem text_append_scan (c : Char) (cs : List Char) :
    (scan c cs).1.text ++ (scan c cs).2 = c :: cs := by
  unfold scan
  split
  · exact Opener.text_append_scan cs
  · rfl
  · split
    · rename_i cs
      have := append_scanContents cs
      simp_all [text]
    · have := append_scanContents cs
      simp_all [text]
  · split <;> rfl
  · have hcs := List.takeWhile_append_dropWhile (p := fun x : Char => x != '}') (l := cs)
    split
    · rename_i h
      rw [text_append_scanLazy]
      rw [h] at hcs
      simp [hcs]
    · simp [text]
  · exact text_append_scanLazy ['*'] cs
  · exact text_append_scanLazy ['+'] cs
  · exact text_append_scanLazy ['?'] cs
  all_goals simp [text]

theorem text_scanLazy_ne_nil {token : List Char} (h : token ≠ []) (cs : List Char) :
    (scanLazy token cs).1.text ≠ [] := by
  unfold scanLazy
  split <;> simp [text, h]

theorem text_scan_ne_nil (c : Char) (cs : List Char) : (scan c cs).1.text ≠ [] := by
  unfold scan
  split
  · exact Opener.text_ne_nil _
  · simp [text]
  · split <;> simp [text]
  · split <;> simp [text]
  · split
    · exact text_scanLazy_ne_nil (by simp) _
    · simp [text]
  · exact text_scanLazy_ne_nil (by simp) _
  · exact text_scanLazy_ne_nil (by simp) _
  · exact text_scanLazy_ne_nil (by simp) _
  all_goals simp [text]

/-- A token takes at least one character. -/
theorem length_scan_lt (c : Char) (cs : List Char) :
    (scan c cs).2.length < (c :: cs).length := by
  have h := congrArg List.length (text_append_scan c cs)
  have := List.length_pos_iff.2 (text_scan_ne_nil c cs)
  simp only [List.length_append] at h
  omega

/-- The tokens of a text. -/
def list : List Char → List Token
  | [] => []
  | c :: cs => (scan c cs).1 :: list (scan c cs).2
termination_by cs => cs.length
decreasing_by exact length_scan_lt c cs

/-- The tokens of a text make it up. -/
theorem flatMap_text_list (cs : List Char) : (list cs).flatMap text = cs := by
  fun_induction list cs with
  | case1 => rfl
  | case2 c cs ih => rw [List.flatMap_cons, ih, text_append_scan]

end Token

end PatternProse
