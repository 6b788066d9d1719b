import Mathlib.Data.List.Basic
import Mathlib.Data.List.TakeWhile
import PatternProse.Proofs.Scan.Layout
import PatternProse.Proofs.Scan.Tokens

/-!
# The grammar of tokens

The tokens of a pattern are told apart by a grammar that says nothing of how they are found. A
pattern is cut into the longest tokens of this grammar, from left to right.

## Main definitions

* `Lexeme` — the texts that are tokens before a given text, by the kind of the fragment.
* `IsLongest` — a token that no longer one could take the place of.
* `Tokenization` — what a pattern is cut into.

The main statement is `tokenization_iff`: the fragments of a pattern are its one tokenization.
-/

namespace PatternProse

/-- The items of a class: escaped characters, and others that are neither a closing bracket nor a
backslash. -/
inductive ClassItems : List Char → Prop
  | nil : ClassItems []
  | escaped (c : Char) {cs : List Char} : ClassItems cs → ClassItems ('\\' :: c :: cs)
  | plain {c : Char} {cs : List Char} :
    c ≠ ']' → c ≠ '\\' → ClassItems cs → ClassItems (c :: cs)

/-- What may follow `(?` in an opener, by the kind of the opener. -/
inductive OpenerMark : FragmentKind → List Char → Prop
  | lookaround {mark : List Char} :
    mark ∈ [['='], ['!'], ['<', '='], ['<', '!']] → OpenerMark .lookaround mark
  | nonCapturing : OpenerMark .group [':']
  | named {name : List Char} : name ≠ [] →
    (∀ c ∈ name, Unicode.isAlphanumeric c = true ∨ c = '_' ∨ c = '$') →
    OpenerMark .group ('<' :: (name ++ ['>']))

/-- A question mark directly behind a quantifier always belongs to it. -/
def IsLazyMark (rest mark : List Char) : Prop :=
  mark = ['?'] ∨ (mark = [] ∧ rest.head? ≠ some '?')

/-- The texts that are tokens before the text `rest`, by the kind of fragment that they become. -/
inductive Lexeme (rest : List Char) : FragmentKind → List Char → Prop
  | run {text : List Char} : text ≠ [] → (∀ c ∈ text, Token.isMetacharacter c = false) →
    (∀ c ∈ rest.head?, Token.isMetacharacter c = true) → Lexeme rest .literal text
  | stray {c : Char} : c = ']' ∨ c = '}' → Lexeme rest .literal [c]
  | escape (c : Char) : Lexeme rest .escape ['\\', c]
  | lastBackslash : rest = [] → Lexeme rest .escape ['\\']
  | set {negation items : List Char} : negation = [] ∨ negation = ['^'] → ClassItems items →
    Lexeme rest .characterSet ('[' :: (negation ++ items ++ [']']))
  | openSet {negation items backslash : List Char} : negation = [] ∨ negation = ['^'] →
    ClassItems items → backslash = [] ∨ backslash = ['\\'] → rest = [] →
    Lexeme rest .characterSet ('[' :: (negation ++ items ++ backslash))
  | quantifier {c : Char} {mark : List Char} : c = '*' ∨ c = '+' ∨ c = '?' →
    IsLazyMark rest mark → Lexeme rest .quantifier (c :: mark)
  | braces {body mark : List Char} : '}' ∉ body → IsLazyMark rest mark →
    Lexeme rest .quantifier ('{' :: (body ++ '}' :: mark))
  | openBrace {body : List Char} : '}' ∉ body → rest = [] →
    Lexeme rest .quantifier ('{' :: body)
  | capture : rest.head? ≠ some '?' → Lexeme rest .group ['(']
  | marked {kind : FragmentKind} {mark : List Char} : OpenerMark kind mark →
    Lexeme rest kind ('(' :: '?' :: mark)
  | special : (∀ kind mark, OpenerMark kind mark → ¬ mark <+: rest) →
    Lexeme rest .group ['(', '?']
  | anchor {c : Char} : c = '^' ∨ c = '$' → Lexeme rest .anchor [c]
  | anyCharacter : Lexeme rest .anyCharacter ['.']
  | bar : Lexeme rest .alternation ['|']

/-- Of all front parts of a text the given one is the longest that is a token, whatever else might
follow it. Only at the end of the text are there tokens that nothing may follow. -/
structure IsLongest (kind : FragmentKind) (text rest : List Char) : Prop where
  lexeme : Lexeme rest kind text
  longest : ∀ kind' text' rest' context, text ++ rest = text' ++ rest' →
    (context = [] → rest' = []) → Lexeme context kind' text' → text'.length ≤ text.length

/-- What a pattern is cut into: the longest tokens, each with its kind, and closing parentheses,
which become no fragment. -/
inductive Tokenization : List Char → List (FragmentKind × String) → Prop
  | done : Tokenization [] []
  | close {cs : List Char} {ps : List (FragmentKind × String)} :
    Tokenization cs ps → Tokenization (')' :: cs) ps
  | token {kind : FragmentKind} {text rest : List Char} {ps : List (FragmentKind × String)} :
    IsLongest kind text rest → Tokenization rest ps →
    Tokenization (text ++ rest) ((kind, String.ofList text) :: ps)

namespace Token

/-- The kind of fragment that a token becomes. -/
def kind? (t : Token) : Option FragmentKind := (t.explain? none).map Prod.fst

theorem map_fst_explain? (t : Token) (item : Option (List Char)) :
    (t.explain? item).map Prod.fst = t.kind? := by
  cases t with
  | characterSet negated => cases negated <;> rfl
  | _ => rfl

/-! ### Classes -/

theorem scanContents_append {items : List Char} (h : ClassItems items) (cs : List Char) :
    scanContents (items ++ cs) =
      (items ++ (scanContents cs).1, (scanContents cs).2.1, (scanContents cs).2.2) := by
  induction h with
  | nil => rfl
  | escaped c _ ih => simp [scanContents, ih]
  | plain hbracket hbackslash _ ih =>
    rw [List.cons_append, scanContents, ih]
    · simp
    · exact hbracket
    · intro _ _ hc _
      exact hbackslash hc

/-- What a class holds are items, up to its closing bracket or else to the end of the text, where
a backslash may be left over. -/
theorem exists_items (cs : List Char) :
    ((scanContents cs).2.1 = true ∧ ClassItems (scanContents cs).1) ∨
      ((scanContents cs).2.1 = false ∧ (scanContents cs).2.2 = [] ∧
        ∃ items backslash, (scanContents cs).1 = items ++ backslash ∧ ClassItems items ∧
          (backslash = [] ∨ backslash = ['\\'])) := by
  fun_induction scanContents cs with
  | case1 => exact .inr ⟨rfl, rfl, [], [], rfl, .nil, .inl rfl⟩
  | case2 => exact .inl ⟨rfl, .nil⟩
  | case3 c cs contents closed rest heq ih =>
    rw [heq] at ih
    obtain ⟨hclosed, hitems⟩ | ⟨hclosed, hrest, items, backslash, hcontents, hitems, hlast⟩ := ih
    · exact .inl ⟨hclosed, .escaped c hitems⟩
    · refine .inr ⟨hclosed, hrest, '\\' :: c :: items, backslash, ?_, .escaped c hitems, hlast⟩
      simpa using hcontents
  | case4 c cs hbracket hescape contents closed rest heq ih =>
    by_cases hbackslash : c = '\\'
    · subst hbackslash
      have hnil : cs = [] := by
        cases cs with
        | nil => rfl
        | cons d ds => exact absurd rfl (hescape d ds rfl)
      subst hnil
      cases heq
      exact .inr ⟨rfl, rfl, [], ['\\'], rfl, .nil, .inr rfl⟩
    · rw [heq] at ih
      obtain ⟨hclosed, hitems⟩ | ⟨hclosed, hrest, items, backslash, hcontents, hitems, hlast⟩ := ih
      · exact .inl ⟨hclosed, .plain hbracket hbackslash hitems⟩
      · refine .inr ⟨hclosed, hrest, c :: items, backslash, ?_, .plain hbracket hbackslash hitems,
          hlast⟩
        simpa using hcontents

theorem scan_bracket (cs : List Char) :
    (scan '[' cs).1.kind? = some .characterSet ∧
      (scan '[' cs).1.text =
        '[' :: ((scanContents cs).1 ++ if (scanContents cs).2.1 then [']'] else []) ∧
      (scan '[' cs).2 = (scanContents cs).2.2 := by
  simp only [scan]
  split <;> simp [text, scanContents, kind?, explain?]

theorem classItems_negation {negation items : List Char} (h : negation = [] ∨ negation = ['^'])
    (hitems : ClassItems items) : ClassItems (negation ++ items) := by
  obtain rfl | rfl := h
  · exact hitems
  · exact .plain (by decide) (by decide) hitems

theorem text_scan_set {items : List Char} (h : ClassItems items) (rest : List Char) :
    (scan '[' (items ++ ']' :: rest)).1.text = '[' :: (items ++ [']']) := by
  obtain ⟨-, htext, -⟩ := scan_bracket (items ++ ']' :: rest)
  rw [htext, scanContents_append h]
  simp [scanContents]

theorem text_scan_openSet {items backslash : List Char} (h : ClassItems items)
    (hlast : backslash = [] ∨ backslash = ['\\']) :
    (scan '[' (items ++ backslash)).1.text = '[' :: (items ++ backslash) := by
  have hbackslash : scanContents backslash = (backslash, false, []) := by
    rcases hlast with rfl | rfl <;> rfl
  obtain ⟨-, htext, -⟩ := scan_bracket (items ++ backslash)
  rw [htext, scanContents_append h, hbackslash]
  simp

/-! ### Quantifiers -/

theorem lexeme_scanLazy {token : List Char}
    (h : ∀ {rest mark}, IsLazyMark rest mark → Lexeme rest .quantifier (token ++ mark))
    (cs : List Char) :
    Lexeme (scanLazy token cs).2 .quantifier (scanLazy token cs).1.text := by
  unfold scanLazy
  split
  · exact h (.inl rfl)
  · next hcs =>
    refine h (.inr ⟨rfl, fun hhead => ?_⟩)
    obtain ⟨rest, hrest⟩ := List.head?_eq_some_iff.1 hhead
    exact hcs rest hrest

theorem length_le_scanLazy {context mark : List Char} (h : IsLazyMark context mark)
    (token rest : List Char) :
    (token ++ mark).length ≤ (scanLazy token (mark ++ rest)).1.text.length := by
  obtain rfl | ⟨rfl, -⟩ := h
  · simp [scanLazy, text]
  · unfold scanLazy
    split <;> simp [text]

theorem kind?_scanLazy (token cs : List Char) :
    (scanLazy token cs).1.kind? = some .quantifier := by
  unfold scanLazy
  split <;> rfl

end Token

/-! ### Openers -/

namespace Opener

/-- A mark is read as the opener that it makes, whatever follows it. -/
theorem exists_scan_mark {kind : FragmentKind} {mark : List Char} (h : OpenerMark kind mark) :
    ∃ o, (∀ rest, Opener.scan ('?' :: (mark ++ rest)) = (o, rest)) ∧ o.kind = kind ∧
      o.text = '(' :: '?' :: mark := by
  cases h with
  | lookaround hmark =>
    simp only [List.mem_cons, List.not_mem_nil, or_false] at hmark
    rcases hmark with rfl | rfl | rfl | rfl
    · exact ⟨.lookaround .ahead, fun _ => rfl, rfl, rfl⟩
    · exact ⟨.lookaround .notAhead, fun _ => rfl, rfl, rfl⟩
    · exact ⟨.lookaround .behind, fun _ => rfl, rfl, rfl⟩
    · exact ⟨.lookaround .notBehind, fun _ => rfl, rfl, rfl⟩
  | nonCapturing => exact ⟨.nonCapturing, fun _ => rfl, rfl, rfl⟩
  | @named name hne hname =>
    have hclose : ∀ c ∈ name, (c != '>') = true := by
      intro c hc
      simpa using fun heq : c = '>' => notMem_name hname (by decide) (heq ▸ hc)
    have hvalid : isName name = true := isName_iff.2 ⟨hne, hname⟩
    refine ⟨.named name, fun rest => ?_, rfl, by simp [text]⟩
    have htake : (name ++ '>' :: rest).takeWhile (· != '>') = name := by
      rw [List.takeWhile_append_of_pos hclose]
      exact List.append_nil name
    have hdrop : (name ++ '>' :: rest).dropWhile (· != '>') = '>' :: rest := by
      rw [List.dropWhile_append_of_pos hclose]
      rfl
    have hscan : scanName? ('<' :: (name ++ '>' :: rest)) = some (name, rest) := by
      simp only [scanName?, htake, hdrop, hvalid, if_pos]
    obtain ⟨c, cs, rfl⟩ := List.exists_cons_of_ne_nil hne
    have hfirst : c ≠ '=' ∧ c ≠ '!' :=
      ⟨fun heq => notMem_name hname (c := '=') (by decide) (heq ▸ .head _),
        fun heq => notMem_name hname (c := '!') (by decide) (heq ▸ .head _)⟩
    simp only [List.cons_append, List.append_assoc, List.nil_append] at hscan ⊢
    unfold scan
    split <;> simp_all

/-- Behind `(?` there is a mark, or else the opener ends there. -/
theorem exists_mark_or_scan (cs : List Char) :
    (∃ kind mark rest, OpenerMark kind mark ∧ cs = mark ++ rest) ∨
      Opener.scan ('?' :: cs) = (.special, cs) := by
  unfold scan
  split
  · next heq => cases heq; exact .inl ⟨_, ['='], _, .lookaround (by decide), rfl⟩
  · next heq => cases heq; exact .inl ⟨_, ['!'], _, .lookaround (by decide), rfl⟩
  · next heq => cases heq; exact .inl ⟨_, ['<', '='], _, .lookaround (by decide), rfl⟩
  · next heq => cases heq; exact .inl ⟨_, ['<', '!'], _, .lookaround (by decide), rfl⟩
  · next heq => cases heq; exact .inl ⟨_, [':'], _, .nonCapturing, rfl⟩
  · next heq =>
    cases heq
    split
    · next name rest hscan =>
      obtain ⟨rfl, hname⟩ := eq_of_scanName? hscan
      obtain ⟨hne, hall⟩ := isName_iff.1 hname
      exact .inl ⟨_, '<' :: (name ++ ['>']), rest, .named hne hall, by simp⟩
    · exact .inr rfl
  · next hne => exact absurd rfl (hne cs)

/-- A question mark behind a parenthesis belongs to the opener. -/
theorem two_le_length_text_scan (cs : List Char) :
    2 ≤ (Opener.scan ('?' :: cs)).1.text.length := by
  obtain ⟨kind, mark, rest, hmark, rfl⟩ | hscan := exists_mark_or_scan cs
  · obtain ⟨o, hscan, -, htext⟩ := exists_scan_mark hmark
    simp [hscan, htext]
  · simp [hscan, text]

theorem kind_of_length_text_le {o : Opener} (h : o.text.length ≤ 2) : o.kind = .group := by
  cases o with
  | lookaround k => cases k <;> simp [text, Lookaround.mark] at h
  | _ => rfl

/-- The opener that a parenthesis starts is one of the grammar. -/
theorem lexeme_scan (cs : List Char) :
    Lexeme (Opener.scan cs).2 (Opener.scan cs).1.kind (Opener.scan cs).1.text := by
  by_cases hquestion : cs.head? = some '?'
  · obtain ⟨cs, rfl⟩ := List.head?_eq_some_iff.1 hquestion
    by_cases hmark : ∃ kind mark rest, OpenerMark kind mark ∧ cs = mark ++ rest
    · obtain ⟨kind, mark, rest, hmark, rfl⟩ := hmark
      obtain ⟨o, hscan, rfl, htext⟩ := exists_scan_mark hmark
      rw [hscan, htext]
      exact .marked hmark
    · rw [(exists_mark_or_scan cs).resolve_left hmark]
      refine .special fun kind mark h hstart => hmark ?_
      obtain ⟨rest, hrest⟩ := hstart
      exact ⟨kind, mark, rest, h, hrest.symm⟩
  · rw [scan_of_head?_ne hquestion]
    exact .capture hquestion

end Opener

namespace Token

theorem lexeme_bracket (cs : List Char) :
    Lexeme (scan '[' cs).2 .characterSet (scan '[' cs).1.text := by
  obtain ⟨-, htext, hrest⟩ := scan_bracket cs
  rw [htext, hrest]
  obtain ⟨hclosed, hitems⟩ | ⟨hclosed, hend, items, backslash, hcontents, hitems, hlast⟩ :=
    exists_items cs
  · have h : Lexeme (scanContents cs).2.2 .characterSet _ := .set (.inl rfl) hitems
    simpa [hclosed] using h
  · have h : Lexeme [] .characterSet _ := .openSet (.inl rfl) hitems hlast rfl
    simpa [hclosed, hcontents, hend] using h

theorem lexeme_brace (cs : List Char) :
    Lexeme (scan '{' cs).2 .quantifier (scan '{' cs).1.text := by
  obtain ⟨body, rest, rfl, hbody, hscan⟩ | ⟨hbody, hscan⟩ := scan_brace cs
  · rw [hscan]
    refine lexeme_scanLazy (fun hmark => ?_) rest
    simpa using Lexeme.braces hbody hmark
  · have h : Lexeme [] .quantifier _ := .openBrace hbody rfl
    simpa [hscan, text] using h

/-- The scan finds tokens of the grammar. -/
theorem lexeme_scan {c : Char} {cs : List Char} {kind : FragmentKind}
    (h : (scan c cs).1.kind? = some kind) :
    Lexeme (scan c cs).2 kind (scan c cs).1.text := by
  cases c, cs using scan_cases with
  | ordinary c cs hc =>
    rw [scan_ordinary hc] at h ⊢
    cases h
    refine .run (by simp [text]) ?_ ?_
    · intro d hd
      rcases List.mem_cons.1 hd with rfl | hd
      · exact hc
      · simpa using List.mem_takeWhile_imp hd
    · intro d hd
      have hstop := List.head?_dropWhile_not (!isMetacharacter ·) cs
      rw [Option.mem_def.1 hd] at hstop
      simpa using hstop
  | escape cs =>
    cases cs with
    | nil => cases h; exact .lastBackslash rfl
    | cons c cs => cases h; exact .escape c
  | bracket cs =>
    rw [(scan_bracket cs).1] at h
    cases h
    exact lexeme_bracket cs
  | opener cs => cases h; exact Opener.lexeme_scan cs
  | quantifier c cs hc hscan =>
    rw [hscan, kind?_scanLazy] at h
    cases h
    rw [hscan]
    exact lexeme_scanLazy (fun hmark => .quantifier hc hmark) cs
  | brace cs =>
    have hkind : (scan '{' cs).1.kind? = some .quantifier := by
      obtain ⟨body, rest, -, -, hscan⟩ | ⟨-, hscan⟩ := scan_brace cs
      · rw [hscan, kind?_scanLazy]
      · rw [hscan]
        rfl
    rw [hkind] at h
    cases h
    exact lexeme_brace cs
  | single c cs hc =>
    simp only [List.mem_cons, List.not_mem_nil, or_false] at hc
    rcases hc with rfl | rfl | rfl | rfl | rfl | rfl | rfl
    · cases h
    · cases h; exact .stray (.inl rfl)
    · cases h; exact .stray (.inr rfl)
    · cases h; exact .anyCharacter
    · cases h; exact .anchor (.inl rfl)
    · cases h; exact .anchor (.inr rfl)
    · cases h; exact .bar

/-- No token of the grammar is longer than the one that the scan finds, and none is as long and of
another kind. -/
theorem le_scan {context text rest : List Char} {kind : FragmentKind}
    (h : Lexeme context kind text) (hend : context = [] → rest = []) {c : Char} {cs : List Char}
    (heq : c :: cs = text ++ rest) :
    text.length ≤ (scan c cs).1.text.length ∧
      (text.length = (scan c cs).1.text.length → (scan c cs).1.kind? = some kind) := by
  have hpos : 0 < (scan c cs).1.text.length := List.length_pos_iff.2 (text_scan_ne_nil c cs)
  cases h with
  | @run text hne hordinary =>
    obtain ⟨d, run, rfl⟩ := List.exists_cons_of_ne_nil hne
    obtain ⟨rfl, rfl⟩ := List.cons.inj heq
    have hrun : ∀ d ∈ run, (!isMetacharacter d) = true := by
      intro d hd
      simpa using hordinary d (.tail _ hd)
    rw [scan_ordinary (hordinary c (.head _))]
    refine ⟨?_, fun _ => rfl⟩
    simp [Token.text, List.takeWhile_append_of_pos hrun]
  | stray hc =>
    obtain ⟨rfl, rfl⟩ := List.cons.inj heq
    exact ⟨hpos, fun _ => by rcases hc with rfl | rfl <;> rfl⟩
  | escape d =>
    obtain ⟨rfl, rfl⟩ := List.cons.inj heq
    exact ⟨Nat.le_refl _, fun _ => rfl⟩
  | lastBackslash hcontext =>
    obtain rfl := hend hcontext
    obtain ⟨rfl, rfl⟩ := List.cons.inj heq
    exact ⟨Nat.le_refl _, fun _ => rfl⟩
  | @set negation items hnegation hitems =>
    obtain ⟨rfl, rfl⟩ := List.cons.inj heq
    have htext := text_scan_set (classItems_negation hnegation hitems) rest
    simp only [List.append_eq, List.append_assoc, List.cons_append, List.nil_append] at htext ⊢
    rw [htext]
    exact ⟨Nat.le_refl _, fun _ => (scan_bracket _).1⟩
  | @openSet negation items backslash hnegation hitems hlast hcontext =>
    obtain rfl := hend hcontext
    obtain ⟨rfl, rfl⟩ := List.cons.inj heq
    have htext := text_scan_openSet (classItems_negation hnegation hitems) hlast
    simp only [List.append_eq, List.append_nil, htext]
    exact ⟨Nat.le_refl _, fun _ => (scan_bracket _).1⟩
  | @quantifier d mark hd hmark =>
    obtain ⟨rfl, rfl⟩ := List.cons.inj heq
    have hscan : scan c (mark ++ rest) = scanLazy [c] (mark ++ rest) := by
      rcases hd with rfl | rfl | rfl <;> rfl
    simp only [List.append_eq, hscan]
    exact ⟨length_le_scanLazy hmark [c] rest, fun _ => kind?_scanLazy _ _⟩
  | @braces body mark hbody hmark =>
    obtain ⟨rfl, rfl⟩ := List.cons.inj heq
    have hscan := scan_braces hbody (mark ++ rest)
    have hle := length_le_scanLazy hmark ('{' :: body ++ ['}']) rest
    simp only [List.append_eq, List.append_assoc, List.cons_append, List.nil_append] at *
    rw [hscan]
    exact ⟨hle, fun _ => kind?_scanLazy _ _⟩
  | @openBrace body hbody hcontext =>
    obtain rfl := hend hcontext
    obtain ⟨rfl, rfl⟩ := List.cons.inj heq
    simp only [List.append_eq, List.append_nil, scan_openBrace hbody]
    exact ⟨by simp [Token.text], fun _ => rfl⟩
  | capture =>
    obtain ⟨rfl, rfl⟩ := List.cons.inj heq
    have hkind (hlength : 1 = (Opener.scan cs).1.text.length) : (Opener.scan cs).1.kind = .group :=
      Opener.kind_of_length_text_le (by omega)
    exact ⟨hpos, fun hlength => congrArg some (hkind hlength)⟩
  | @marked _ mark hmark =>
    obtain ⟨rfl, rfl⟩ := List.cons.inj heq
    obtain ⟨o, hscan, rfl, htext⟩ := Opener.exists_scan_mark hmark
    have hscan' : scan '(' ('?' :: (mark ++ rest)) = (opener o, rest) := by
      simp only [scan, hscan]
    simp only [List.append_eq, List.cons_append, hscan']
    exact ⟨(congrArg List.length htext).ge, fun _ => rfl⟩
  | special =>
    obtain ⟨rfl, rfl⟩ := List.cons.inj heq
    have hkind (hlength : 2 = (Opener.scan ('?' :: rest)).1.text.length) :
        (Opener.scan ('?' :: rest)).1.kind = .group :=
      Opener.kind_of_length_text_le (by omega)
    exact ⟨Opener.two_le_length_text_scan rest, fun hlength => congrArg some (hkind hlength)⟩
  | anchor hc =>
    obtain ⟨rfl, rfl⟩ := List.cons.inj heq
    exact ⟨hpos, fun _ => by rcases hc with rfl | rfl <;> rfl⟩
  | anyCharacter =>
    obtain ⟨rfl, rfl⟩ := List.cons.inj heq
    exact ⟨hpos, fun _ => rfl⟩
  | bar =>
    obtain ⟨rfl, rfl⟩ := List.cons.inj heq
    exact ⟨hpos, fun _ => rfl⟩

end Token

theorem Lexeme.ne_nil {rest text : List Char} {kind : FragmentKind} (h : Lexeme rest kind text) :
    text ≠ [] := by
  cases h with
  | run hne => exact hne
  | _ => simp

namespace IsLongest

open Token

/-- A token that the scan finds is the longest one. -/
theorem of_scan {c : Char} {cs : List Char} {kind : FragmentKind}
    (h : (scan c cs).1.kind? = some kind) : IsLongest kind (scan c cs).1.text (scan c cs).2 where
  lexeme := lexeme_scan h
  longest := by
    intro kind' text' rest' context heq hend hlexeme
    rw [text_append_scan] at heq
    exact (le_scan hlexeme hend heq).1

/-- The scan finds the longest token, where there is one. -/
theorem scan_eq {text rest : List Char} {kind : FragmentKind} (h : IsLongest kind text rest)
    {c : Char} {cs : List Char} (heq : c :: cs = text ++ rest) :
    (scan c cs).1.text = text ∧ (scan c cs).2 = rest ∧ (scan c cs).1.kind? = some kind := by
  obtain ⟨hle, hkind⟩ := le_scan h.lexeme id heq
  have happend := text_append_scan c cs
  have hge : (scan c cs).1.text.length ≤ text.length := by
    cases hscan : (scan c cs).1.kind? with
    | none =>
      rw [kind?, Option.map_eq_none_iff] at hscan
      rw [eq_close_of_explain? hscan]
      exact List.length_pos_iff.2 h.lexeme.ne_nil
    | some kind =>
      exact h.longest kind _ _ _ (heq ▸ happend.symm) id (lexeme_scan hscan)
  have hlength := Nat.le_antisymm hle hge
  obtain ⟨htext, hrest⟩ := List.append_inj (happend.trans heq) hlength.symm
  exact ⟨htext, hrest, hkind hlength⟩

end IsLongest

namespace Tokenization

open Token

theorem exists_sentence {t : Token} {kind : FragmentKind} (h : t.kind? = some kind)
    (item : Option (List Char)) : ∃ sentence, t.explain? item = some (kind, sentence) := by
  rw [← map_fst_explain? t item, Option.map_eq_some_iff] at h
  obtain ⟨⟨_, sentence⟩, hexplain, rfl⟩ := h
  exact ⟨sentence, hexplain⟩

/-- A text is cut in no other way than the scan cuts it. -/
theorem eq_map_fragmentsFrom {cs : List Char} {ps : List (FragmentKind × String)}
    (h : Tokenization cs ps) (ls : Levels) (offset : Nat) :
    ps = (fragmentsFrom ls offset (list cs)).map fun f => (f.kind, f.sourceText) := by
  induction h generalizing ls offset with
  | done =>
    rw [list]
    rfl
  | @close cs _ _ ih =>
    have hlist : list (')' :: cs) = Token.close :: list cs := list_cons_of_scan rfl
    rw [hlist, fragmentsFrom_close_cons]
    exact ih _ _
  | @token kind text rest _ hlongest _ ih =>
    obtain ⟨c, cs, htext⟩ := List.exists_cons_of_ne_nil hlongest.lexeme.ne_nil
    have heq : c :: (cs ++ rest) = text ++ rest := by rw [htext, List.cons_append]
    obtain ⟨hscan, hrest, hkind⟩ := hlongest.scan_eq heq
    obtain ⟨sentence, hexplain⟩ := exists_sentence hkind ls.item
    rw [← heq, list, fragmentsFrom_cons_of_explain? hexplain, List.map_cons, hrest, ← ih, hscan]

/-- The scan cuts a text into the longest tokens. -/
theorem map_fragmentsFrom (ls : Levels) (offset : Nat) (cs : List Char) :
    Tokenization cs
      ((fragmentsFrom ls offset (list cs)).map fun f => (f.kind, f.sourceText)) := by
  fun_induction list cs generalizing ls offset with
  | case1 => exact .done
  | case2 c cs ih =>
    cases hkind : (scan c cs).1.kind? with
    | none =>
      rw [kind?, Option.map_eq_none_iff] at hkind
      have hclose := eq_close_of_explain? hkind
      have happend := text_append_scan c cs
      rw [hclose] at happend ⊢
      rw [← happend]
      exact .close (ih _ _)
    | some kind =>
      obtain ⟨sentence, hexplain⟩ := exists_sentence hkind ls.item
      rw [fragmentsFrom_cons_of_explain? hexplain, List.map_cons, ← text_append_scan c cs]
      exact .token (.of_scan hkind) (ih _ _)

end Tokenization

/-- The fragments of a pattern, by their kinds and texts, are what it is cut into: there is one
way to cut a pattern into the longest tokens, and the scan finds it. -/
theorem tokenization_iff (pattern : String) (ps : List (FragmentKind × String)) :
    Tokenization pattern.toList ps ↔
      ps = (explainPattern pattern).map fun f => (f.kind, f.sourceText) := by
  constructor
  · intro h
    exact h.eq_map_fragmentsFrom {} 0
  · rintro rfl
    exact .map_fragmentsFrom {} 0 pattern.toList

end PatternProse
