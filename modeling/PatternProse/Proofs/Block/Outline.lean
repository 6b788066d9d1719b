import PatternProse.Proofs.Block.Rendering
import PatternProse.Proofs.Scan.Balance
import PatternProse.Proofs.Scan.Tokens

/-!
# Blocks and the scan of their pattern

The openers and quantifiers that a scan of a pattern finds are those that its blocks were written
with, at the depth at which they stand in the trees. No text of a block is taken for another one.

## Main definitions

* `Block.outline` — the openers and quantifiers of a block, found on a walk through the tree.
* `Block.Traces` — characters whose tokens have a given outline wherever they stand.

The main statement is `Block.outline_explainPattern_formatAll`.
-/

namespace PatternProse.Block

mutual

/-- The openers and quantifiers that a block is written with, each by its text and depth. The
blocks come in order, each before those that it holds, with its quantifier after them. -/
def outline (depth : Nat) : Block → List (String × Nat)
  | literal _ | symbol _ | characterClass _ _ => []
  | repetition q body =>
    (if isWrapped (charsOfBody body) then ("(?:", depth) :: outlineOfBody (depth + 1) body
      else outlineOfBody depth body) ++ [(q.token, depth)]
  | group bs => ("(", depth) :: outlineOfEach (depth + 1) bs
  | alternatives bs => outlineOfEach depth bs
  | lookaround k bs => (String.ofList ('(' :: k.mark), depth) :: outlineOfEach (depth + 1) bs

/-- The openers and quantifiers of what a repetition holds. -/
def outlineOfBody (depth : Nat) : Option Block → List (String × Nat)
  | none => []
  | some b => b.outline depth

/-- The openers and quantifiers of several blocks. -/
def outlineOfEach (depth : Nat) : List Block → List (String × Nat)
  | [] => []
  | b :: bs => b.outline depth ++ outlineOfEach depth bs

end

theorem outlineOfEach_eq_flatMap (depth : Nat) (bs : List Block) :
    outlineOfEach depth bs = bs.flatMap (outline depth) := by
  induction bs with
  | nil => rfl
  | cons b bs ih => rw [outlineOfEach, ih, List.flatMap_cons]

/-! ### Tokens -/

theorem isMetacharacter_iff (c : Char) :
    Token.isMetacharacter c = true ↔ c ∈ literalSpecials := by
  have hperm : literalSpecials.Perm
      ['\\', '[', ']', '(', ')', '.', '*', '+', '?', '{', '}', '^', '$', '|'] := by decide
  rw [Token.isMetacharacter, List.contains_iff_mem, hperm.mem_iff]

/-- An ordinary character adds no entry, whether or not the run goes on behind it. -/
theorem outline?_ordinary {c : Char} (h : c ∉ literalSpecials) (depth : Nat) (rest : List Char) :
    outline? depth (Token.list (c :: rest)) = outline? depth (Token.list rest) := by
  -- a run takes in the ordinary characters of `rest`, which would be a run by themselves
  have hrun : ∀ d cs, Token.isMetacharacter d = false → outline? depth (Token.list (d :: cs)) =
      outline? depth (Token.list (cs.dropWhile (!Token.isMetacharacter ·))) := by
    intro d cs hd
    rw [Token.list_cons_of_scan (Token.scan_ordinary hd cs)]
    rfl
  have hc : Token.isMetacharacter c = false := by
    rwa [← isMetacharacter_iff, Bool.not_eq_true] at h
  rw [hrun c rest hc]
  cases rest with
  | nil => rfl
  | cons d rest =>
    rw [List.dropWhile_cons]
    cases hd : Token.isMetacharacter d with
    | true => rfl
    | false => exact (hrun d rest hd).symm

theorem outline?_escaped (c : Char) (depth : Nat) (rest : List Char) :
    outline? depth (Token.list ('\\' :: c :: rest)) = outline? depth (Token.list rest) := by
  have hscan : Token.scan '\\' (c :: rest) = (.escape (some c), rest) := rfl
  rw [Token.list_cons_of_scan hscan]
  rfl

theorem outline?_bracket (depth : Nat) (cs : List Char) :
    outline? depth (Token.list ('[' :: cs)) =
      outline? depth (Token.list (Token.scanContents cs).2.2) := by
  rw [Token.list]
  simp only [Token.scan]
  split <;> rfl

theorem scanContents_escape (cs rest : List Char) :
    Token.scanContents (escape classSpecials cs ++ ']' :: rest) =
      (escape classSpecials cs, true, rest) := by
  induction cs with
  | nil => rfl
  | cons c cs ih =>
    by_cases hc : c ∈ classSpecials
    · rw [escape_cons_of_mem hc]
      simp only [List.cons_append, Token.scanContents, ih]
    · rw [escape_cons_of_notMem hc, List.cons_append, Token.scanContents.eq_4, ih]
      · rintro rfl
        exact hc (by decide)
      · rintro d ds rfl
        exact absurd (by decide) hc

theorem outline?_quantifier (q : Quantifier) (depth : Nat) {rest : List Char}
    (h : startsQuantifier rest = false) :
    outline? depth (Token.list (q.chars ++ rest)) =
      (outline? depth (Token.list rest)).map ((q.token, depth) :: ·) := by
  have htext : (Token.quantifier q.chars false).text = q.chars := List.append_nil _
  rw [Token.list_quantifier q (head?_ne_of_startsQuantifier (by decide) h), outline?, htext]
  rfl

/-! ### Outlines of texts -/

/-- Wherever the characters stand, unless they are quantified there, their tokens have the
outline `o`, which depends on the depth only, and leave no level open. -/
def Traces (text : List Char) (o : Nat → List (String × Nat)) : Prop :=
  ∀ depth rest, startsQuantifier rest = false →
    outline? depth (Token.list (text ++ rest)) =
      (outline? depth (Token.list rest)).map (o depth ++ ·)

/-- Characters that change nothing about the outline of what follows. -/
theorem traces_nil_of {text : List Char}
    (h : ∀ depth rest, startsQuantifier rest = false →
      outline? depth (Token.list (text ++ rest)) = outline? depth (Token.list rest)) :
    Traces text fun _ => [] := by
  intro depth rest hrest
  simp [h depth rest hrest]

theorem Traces.append {s t : List Char} {o p : Nat → List (String × Nat)} (hs : Traces s o)
    (ht : Traces t p) (hstart : startsQuantifier t = false) :
    Traces (s ++ t) fun depth => o depth ++ p depth := by
  intro depth rest hrest
  rw [List.append_assoc, hs depth (t ++ rest) (startsQuantifier_append hstart hrest),
    ht depth rest hrest, Option.map_map]
  simp only [Function.comp_def, List.append_assoc]

/-- The characters of an opener are scanned as a token of their own. -/
def IsScanned (k : Opener) : Prop :=
  ∀ cs, startsQuantifier cs = false → Token.list (k.text ++ cs) = .opener k :: Token.list cs

theorem isScanned_capture : IsScanned .capture := by
  intro cs hcs
  exact Token.list_capture (head?_ne_of_startsQuantifier (by decide) hcs)

theorem isScanned_nonCapturing : IsScanned .nonCapturing := by
  intro cs _
  exact Token.list_nonCapturing cs

theorem isScanned_lookaround (k : Lookaround) : IsScanned (.lookaround k) := by
  intro cs _
  exact Token.list_lookaround k cs

/-- What stands between an opener and its closing parenthesis is one level deeper, whatever comes
after it. -/
theorem outline?_enclosed {k : Opener} {content : List Char} {o : Nat → List (String × Nat)}
    (hopen : IsScanned k) (hcontent : Traces content o)
    (hstart : startsQuantifier content = false) (depth : Nat) (rest : List Char) :
    outline? depth (Token.list (k.text ++ (content ++ ')' :: rest))) =
      (outline? depth (Token.list rest)).map
        ((String.ofList k.text, depth) :: o (depth + 1) ++ ·) := by
  have hclose : outline? (depth + 1) (Token.list (')' :: rest)) =
      outline? depth (Token.list rest) := by
    have hscan : Token.scan ')' rest = (.close, rest) := rfl
    rw [Token.list_cons_of_scan hscan, outline?, if_neg (Nat.succ_ne_zero depth),
      Nat.add_sub_cancel]
  rw [hopen _ (startsQuantifier_append hstart rfl), outline?, hcontent _ _ rfl, hclose,
    Option.map_map]
  rfl

theorem traces_escape (cs : List Char) : Traces (escape literalSpecials cs) fun _ => [] := by
  refine traces_nil_of fun depth rest _ => ?_
  induction cs with
  | nil => rfl
  | cons c cs ih =>
    by_cases hc : c ∈ literalSpecials
    · rw [escape_cons_of_mem hc, List.cons_append, List.cons_append, outline?_escaped, ih]
    · rw [escape_cons_of_notMem hc, List.cons_append, outline?_ordinary hc, ih]

theorem traces_characterClass (negated : Bool) (characters : String) :
    Traces (characterClass negated characters).chars fun _ => [] := by
  refine traces_nil_of fun depth rest _ => ?_
  have hcontents := scanContents_escape (classContents characters) rest
  have hrest : (Token.scanContents ((if negated then ['^'] else []) ++
      (escape classSpecials (classContents characters) ++ ']' :: rest))).2.2 = rest := by
    cases negated with
    | true => exact congrArg (·.2.2) hcontents
    | false => exact congrArg (·.2.2) hcontents
  simp only [chars_characterClass, List.cons_append, List.append_assoc, List.nil_append]
  rw [outline?_bracket, hrest]

theorem Brief.outline_eq_nil {b : Block} {cs : List Char} (h : Brief b cs) (depth : Nat) :
    b.outline depth = [] := by
  induction h with
  | blank | literal | symbol => rw [outline]
  | alternatives _ ih => rw [outline, outlineOfEach, ih]; rfl

/-- The one character of a brief block adds no entry, even if it is quantified. -/
theorem Brief.outline?_cons {b : Block} {c : Char} (h : Brief b [c]) (depth : Nat)
    (rest : List Char) :
    outline? depth (Token.list (c :: rest)) = outline? depth (Token.list rest) := by
  generalize hcs : [c] = cs at h
  induction h with
  | blank => cases hcs
  | literal _ hc => cases hcs; exact outline?_ordinary hc depth rest
  | @symbol s d hs =>
    cases hcs
    cases s <;> cases hs <;> (rw [Token.list_cons_of_scan rfl]; rfl)
  | alternatives _ ih => exact ih hcs

theorem traces_symbol (s : Symbol) : Traces s.chars fun _ => [] := by
  refine traces_nil_of fun depth rest _ => ?_
  cases s with
  | anyChar => exact (@Brief.symbol .anyChar '.' rfl).outline?_cons depth rest
  | startOfLine => exact (@Brief.symbol .startOfLine '^' rfl).outline?_cons depth rest
  | endOfLine => exact (@Brief.symbol .endOfLine '$' rfl).outline?_cons depth rest
  | _ => exact outline?_escaped _ depth rest

theorem traces_flatMap {bs : List Block} (h : ∀ b ∈ bs, Traces b.chars b.outline) :
    Traces (bs.flatMap chars) fun depth => outlineOfEach depth bs := by
  induction bs with
  | nil => exact traces_nil_of fun _ _ _ => rfl
  | cons b bs ih =>
    rw [List.flatMap_cons]
    exact (h b List.mem_cons_self).append (ih fun b hb => h b (.tail _ hb))
      (startsQuantifier_flatMap fun b _ => startsQuantifier_chars b)

theorem traces_bar : Traces ['|'] fun _ => [] := by
  refine traces_nil_of fun depth rest _ => ?_
  have hscan : Token.scan '|' rest = (.bar, rest) := rfl
  rw [List.singleton_append, Token.list_cons_of_scan hscan]
  rfl

theorem traces_intercalate {bs : List Block} (h : ∀ b ∈ bs, Traces b.chars b.outline) :
    Traces (['|'].intercalate (bs.map chars)) fun depth => outlineOfEach depth bs := by
  match bs with
  | [] => exact traces_nil_of fun _ _ _ => rfl
  | [b] =>
    intro depth rest hrest
    simpa [outlineOfEach] using h b List.mem_cons_self depth rest hrest
  | b :: b' :: bs =>
    have htail := traces_intercalate fun b hb => h b (.tail _ hb)
    have hstart : startsQuantifier (['|'].intercalate ((b' :: bs).map chars)) = false :=
      startsQuantifier_intercalate fun b _ => startsQuantifier_chars b
    rw [List.map_cons, List.map_cons, List.intercalate_cons_cons, List.append_assoc]
    exact (h b List.mem_cons_self).append (traces_bar.append htail hstart) rfl

theorem traces_group {bs : List Block} (h : ∀ b ∈ bs, Traces b.chars b.outline) :
    Traces (group bs).chars (group bs).outline := by
  intro depth rest _
  have hstart := startsQuantifier_flatMap fun b (_ : b ∈ bs) => startsQuantifier_chars b
  have hlist := outline?_enclosed isScanned_capture (traces_flatMap h) hstart depth rest
  simpa [chars_group, outline, Opener.text] using hlist

theorem outlineOfEach_eq_nil {bs : List Block} (h : bs.flatMap chars = []) (depth : Nat) :
    outlineOfEach depth bs = [] := by
  rw [outlineOfEach_eq_flatMap, List.flatMap_eq_nil_iff]
  intro b hb
  exact (brief_of_flatMap_eq_nil h hb).outline_eq_nil depth

theorem traces_lookaround {k : Lookaround} {bs : List Block}
    (h : ∀ b ∈ bs, Traces b.chars b.outline) :
    Traces (lookaround k bs).chars (lookaround k bs).outline := by
  intro depth rest _
  have hlist : outline? depth (Token.list ((lookaround k bs).chars ++ rest)) =
      outline? depth (Token.list ((Opener.lookaround k).text ++ ((if (bs.flatMap chars).isEmpty
        then lookaroundStandIn else bs.flatMap chars) ++ ')' :: rest))) := by
    simp [chars_lookaround, Opener.text]
  rw [hlist]
  simp only [outline]
  split
  · next hempty =>
    have hstandIn : Traces lookaroundStandIn fun _ => [] := traces_escape lookaroundStandIn
    -- blocks that come to nothing hold nothing that has an entry either
    rw [outlineOfEach_eq_nil (List.isEmpty_iff.1 hempty)]
    exact outline?_enclosed (isScanned_lookaround k) hstandIn rfl depth rest
  · have hstart := startsQuantifier_flatMap fun b (_ : b ∈ bs) => startsQuantifier_chars b
    exact outline?_enclosed (isScanned_lookaround k) (traces_flatMap h) hstart depth rest

theorem outlineOfBody_eq_nil {body : Option Block} (h : isWrapped (charsOfBody body) = false)
    (depth : Nat) : outlineOfBody depth body = [] := by
  cases body with
  | none => rfl
  | some b => exact (brief_of_not_isWrapped h).outline_eq_nil depth

/-- A repetition adds its quantifier behind what it repeats. -/
theorem traces_repetition {q : Quantifier} {body : Option Block}
    (h : ∀ b ∈ body, Traces b.chars b.outline) :
    Traces (repetition q body).chars (repetition q body).outline := by
  intro depth rest hrest
  have hquantifier := outline?_quantifier q depth hrest
  rw [chars, List.append_assoc]
  simp only [outline]
  cases hwrapped : isWrapped (charsOfBody body) with
  | false =>
    obtain ⟨b, c, hbrief, hrepeated, -⟩ := exists_brief_repeated hwrapped
    rw [hrepeated, List.singleton_append, hbrief.outline?_cons, hquantifier,
      if_neg (by decide), outlineOfBody_eq_nil hwrapped]
    rfl
  | true =>
    cases body with
    | none => cases hwrapped
    | some b =>
      have hlist := outline?_enclosed isScanned_nonCapturing (h b rfl) (startsQuantifier_chars b)
        depth (q.chars ++ rest)
      rw [hquantifier, Option.map_map] at hlist
      rw [repeated_of_isWrapped hwrapped]
      simpa [charsOfBody, outlineOfBody, Opener.text, Function.comp_def] using hlist

theorem traces_alternativesStandIn : Traces alternativesStandIn fun _ => [] :=
  (traces_escape ['a']).append (traces_bar.append (traces_escape ['b']) rfl) rfl

theorem traces_chars (b : Block) : Traces b.chars b.outline := by
  induction b with
  | literal text => exact traces_escape text.toList
  | symbol s => exact traces_symbol s
  | repetition q body ih => exact traces_repetition ih
  | group bs ih => exact traces_group ih
  | alternatives bs ih =>
    by_cases hbs : bs = []
    · subst hbs
      exact traces_alternativesStandIn
    · rw [chars_alternatives hbs]
      exact traces_intercalate ih
  | characterClass negated characters => exact traces_characterClass negated characters
  | lookaround k bs ih => exact traces_lookaround ih

/-- The scan of a list of blocks meets no closing parenthesis outside of all levels, leaves none
open, and finds the openers and quantifiers that the blocks were written with. -/
theorem outline_explainPattern_formatAll (bs : List Block) :
    Balanced {} (Token.list (formatAll bs).toList) ∧
      PatternProse.outline (explainPattern (formatAll bs)) = bs.flatMap (outline 0) := by
  have hlist : outline? 0 (Token.list (formatAll bs).toList) = some (bs.flatMap (outline 0)) := by
    have htraces : outline? 0 (Token.list (bs.flatMap chars ++ [])) =
        (outline? 0 (Token.list [])).map (outlineOfEach 0 bs ++ ·) :=
      traces_flatMap (fun b _ => traces_chars b) 0 [] rfl
    have hnil : outline? 0 (Token.list []) = some [] := by rw [Token.list]; rfl
    rw [hnil, List.append_nil] at htraces
    rw [formatAll, String.toList_ofList, htraces, outlineOfEach_eq_flatMap, Option.map_some,
      List.append_nil]
  have hbalanced : Balanced {} (Token.list (formatAll bs).toList) := balanced_of_outline? hlist
  exact ⟨hbalanced, @outline_of_outline? {} _ _ hlist 0⟩

example : (repetition .oneOrMore (some (group [literal "ab"]))).outline 0 =
    [("(?:", 0), ("(", 1), ("+", 0)] := by decide

end PatternProse.Block
