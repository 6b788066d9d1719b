import PatternProse.Pattern
import PatternProse.Proofs.Regex.Passing

/-!
# Steps of the reader

What one step of the reader does to the state and which text it takes in, told by the tokens that
the scan finds there. A step finishes an alternative, opens a group, closes one or reads another
atom, and behind the last two there may be a quantifier.

## Main definitions

* `Regex.Atom` — texts that start with an atom other than a group, and what follows it.
* `Regex.IsQuantified` — texts that start with a quantifier, and what follows it.

The main statement is `Regex.ParseState.step_cases`.
-/

namespace PatternProse

namespace Regex

open Token (list scan scanLazy scanContents)

/-! ### Atoms -/

/-- Whether a character starts an atom of its own: it starts no group, class, escape or
quantifier. -/
def isSimple (c : Char) : Bool := !(['(', ')', '[', '\\', '{', '*', '+', '?'].contains c)

theorem isSimple_of_isPlain {c : Char} (h : isPlain c = true) : isSimple c = true := by
  rw [isSimple, contains_eq_false_of (by decide) h]
  rfl

/-- The first text starts with an atom that is no group, and the second is what follows it. -/
inductive Atom (unicode : Bool) : List Char → List Char → Prop
  | char {c : Char} (h : isSimple c = true) (cs : List Char) : Atom unicode (c :: cs) cs
  | escape {cs rest : List Char} (h : Passes ('\\' :: cs) rest) : Atom unicode ('\\' :: cs) rest
  | bracket {cs rest : List Char} (h : (scanContents cs).2 = (true, rest)) :
    Atom unicode ('[' :: cs) rest
  /-- A brace that stands for itself. -/
  | brace {cs : List Char} (hunicode : unicode = false) (h : bracedCounts? cs = none) :
    Atom unicode ('{' :: cs) cs

theorem Atom.hexComplete {unicode : Bool} {cs rest : List Char} (h : Atom unicode cs rest)
    (hcs : hexComplete cs = true) : hexComplete rest = true := by
  cases h with
  | char h =>
    rwa [hexComplete_cons (by rintro rfl; cases h)] at hcs
  | escape h => exact h.hexComplete hcs
  | bracket h =>
    rw [hexComplete_cons (by decide)] at hcs
    simpa [h] using hexComplete_scanContents hcs
  | brace =>
    rwa [hexComplete_cons (by decide)] at hcs

theorem quantifiedCount_mapRead {α : Type} {f : α → Node} {r : Except SyntaxError (α × List Char)}
    {n : Node} {rest : List Char} (h : mapRead f r = .ok (n, rest))
    (hf : ∀ a, (f a).quantifiedCount = 0) : n.quantifiedCount = 0 := by
  match r with
  | .ok (a, _) => cases h; exact hf a
  | .error e => cases h

/-- What an escape stands for is not quantified. -/
theorem quantifiedCount_atomEscape {scope : Scope} {flags : Flags} {cs rest : List Char} {n : Node}
    (h : atomEscape scope flags cs = .ok (n, rest)) : n.quantifiedCount = 0 := by
  unfold atomEscape at h
  split at h
  · cases h
  split at h
  · cases h; rfl
  split at h
  · cases h; rfl
  split at h
  · cases h; rfl
  split at h
  · repeat' split at h
    all_goals cases h <;> rfl
  split at h
  · exact quantifiedCount_mapRead h fun _ => rfl
  split at h
  · unfold namedReference at h
    repeat' split at h
    all_goals cases h <;> rfl
  split at h
  · exact quantifiedCount_mapRead h fun _ => rfl
  split at h
  · simp only [numberEscape] at h
    repeat' split at h
    all_goals cases h <;> rfl
  · exact quantifiedCount_mapRead h fun _ => rfl

/-! ### Quantifiers -/

/-- The first text starts with a quantifier that hides nothing, and the second is what follows
it. -/
structure IsQuantified (cs rest : List Char) : Prop where
  exists_list : ∃ token lazy, token.any isStructural = false ∧
    list cs = .quantifier token lazy :: list rest
  hexComplete : hexComplete cs = true → hexComplete rest = true

theorem exists_body_of_bracedCounts? {cs rest : List Char} {r : Nat × Option Nat}
    (h : bracedCounts? cs = some (r, rest)) :
    ∃ body, cs = body ++ '}' :: rest ∧ ∀ c ∈ body, Token.isMetacharacter c = false := by
  have hdigit (cs : List Char) : ∀ c ∈ cs.takeWhile Char.isDigit, Token.isMetacharacter c = false :=
    fun c hc => ordinary_of_isDigit (List.mem_takeWhile_imp hc)
  have hlow := List.takeWhile_append_dropWhile (p := Char.isDigit) (l := cs)
  simp only [bracedCounts?] at h
  split at h
  · cases h
  split at h
  · next hdrop =>
    cases h
    rw [hdrop] at hlow
    exact ⟨_, hlow.symm, hdigit cs⟩
  · next cs' hdrop =>
    have hhigh := List.takeWhile_append_dropWhile (p := Char.isDigit) (l := cs')
    split at h
    · next hdrop' =>
      cases h
      refine ⟨cs.takeWhile Char.isDigit ++ ',' :: cs'.takeWhile Char.isDigit, ?_, fun c hc => ?_⟩
      · rw [List.append_assoc, List.cons_append, ← hdrop', hhigh, ← hdrop, hlow]
      · rcases List.mem_append.1 hc with hc | hc
        · exact hdigit cs c hc
        · rcases List.mem_cons.1 hc with rfl | hc
          · rfl
          · exact hdigit cs' c hc
    · cases h
  · cases h

/-- The scan takes in the mark of laziness just as it is read. -/
theorem scanLazy_eq (token cs : List Char) :
    scanLazy token cs = (.quantifier token (!(greediness cs).1), (greediness cs).2) := by
  cases cs with
  | nil => rfl
  | cons c cs =>
    by_cases hc : c = '?'
    · subst hc
      rfl
    · have hgreedy : greediness (c :: cs) = (true, c :: cs) := by
        simp [greediness, hc]
      rw [hgreedy, Token.scanLazy_of_head?_ne (by simpa using hc)]
      rfl

theorem hexComplete_greediness {cs : List Char} (h : hexComplete cs = true) :
    hexComplete (greediness cs).2 = true := by
  unfold greediness
  split
  · rwa [hexComplete_cons (by decide)] at h
  · exact h

/-- Where counts are read, the scan finds a quantifier. -/
theorem isQuantified_of_counts? {cs rest : List Char} {r : Nat × Option Nat}
    (h : counts? cs = some (r, rest)) : IsQuantified cs (greediness rest).2 := by
  have hscan {c : Char} {cs token : List Char} (hclean : token.any isStructural = false)
      (hscan : scan c cs = scanLazy token rest)
      (hhex : hexComplete (c :: cs) = true → hexComplete rest = true) :
      IsQuantified (c :: cs) (greediness rest).2 := by
    rw [scanLazy_eq] at hscan
    exact ⟨⟨token, _, hclean, Token.list_cons_of_scan hscan⟩,
      fun h => hexComplete_greediness (hhex h)⟩
  have hone {c : Char} (hc : c ≠ '\\') (h : hexComplete (c :: rest) = true) :
      hexComplete rest = true := by
    rwa [hexComplete_cons hc] at h
  unfold counts? at h
  split at h
  · cases h
    exact hscan (by decide : ['*'].any isStructural = false) rfl (hone (by decide))
  · cases h
    exact hscan (by decide : ['+'].any isStructural = false) rfl (hone (by decide))
  · cases h
    exact hscan (by decide : ['?'].any isStructural = false) rfl (hone (by decide))
  · obtain ⟨body, rfl, hbody⟩ := exists_body_of_bracedCounts? h
    have hclean : ('{' :: body ++ ['}']).any isStructural = false := by
      simpa [isStructural] using any_isStructural_of_ordinary hbody
    refine hscan hclean (Token.scan_braces (notMem_of_ordinary hbody rfl) rest) fun h => ?_
    rwa [hexComplete_braces hbody] at h
  · cases h

/-! ### Groups -/

end Regex

/-- The name of the capture group that an opener starts, if it starts one. -/
def Opener.captured? : Opener → Option (Option String)
  | capture => some none
  | named name => some (some (String.ofList name))
  | _ => none

namespace Regex

theorem isPlain_of_modify? {flags flags' : Flags} {c : Char} {on : Bool}
    (h : flags.modify? c on = some flags') :
    isPlain c = true ∧ flags'.unicode = flags.unicode := by
  unfold Flags.modify? at h
  split at h
  iterate 3
    cases h
    exact ⟨rfl, rfl⟩
  cases h

theorem passes_modifiers? {flags flags' : Flags} {seen cs rest : List Char} {on : Bool}
    (h : modifiers? flags seen on cs = some (flags', rest)) :
    Passes cs rest ∧ flags'.unicode = flags.unicode := by
  fun_induction modifiers? flags seen on cs with
  | case1 => cases h
  | case2 => cases h
  | case3 _ _ _ _ _ hc =>
    cases h
    exact ⟨.one (eq_of_beq hc ▸ rfl) _, rfl⟩
  | case4 _ _ _ _ _ hc ih =>
    obtain ⟨hrest, hunicode⟩ := ih h
    exact ⟨.char (eq_of_beq hc ▸ rfl) hrest, hunicode⟩
  | case5 => cases h
  | case6 => cases h
  | case7 _ _ _ _ _ _ _ _ ih =>
    obtain ⟨flags, hmodify, h⟩ := Option.bind_eq_some_iff.1 h
    obtain ⟨hrest, hunicode⟩ := ih _ h
    obtain ⟨hplain, hmodified⟩ := isPlain_of_modify? hmodify
    exact ⟨.char hplain hrest, hunicode.trans hmodified⟩

theorem nameCodePoint?_cons {c : Char} (h : c ≠ '\\') (cs : List Char) :
    nameCodePoint? (c :: cs) = some (c.toNat, cs) := by
  unfold nameCodePoint?
  split <;> simp_all

/-- A name without escapes is read as it is written. -/
theorem nameRest?_append {name rest : List Char} (hname : ∀ c ∈ name, c ≠ '>' ∧ c ≠ '\\')
    {name' rest' : List Char} (h : nameRest? (name ++ '>' :: rest) = some (name', rest')) :
    name' = name ∧ rest' = rest := by
  induction name generalizing name' with
  | nil =>
    rw [List.nil_append, nameRest?] at h
    split at h
    · cases h
    · next hpoint =>
      rw [nameCodePoint?_cons (by decide)] at hpoint
      cases hpoint
      cases h
      exact ⟨rfl, rfl⟩
  | cons c name ih =>
    obtain ⟨hclose, hbackslash⟩ := hname c (.head _)
    rw [List.cons_append, nameRest?] at h
    split at h
    · cases h
    · next hpoint =>
      rw [nameCodePoint?_cons hbackslash] at hpoint
      cases hpoint
      have hne : c.toNat ≠ '>'.toNat := fun heq => hclose (Char.toNat_inj.1 heq)
      rw [if_neg (by simpa using hne)] at h
      split at h
      · obtain ⟨⟨n, r⟩, hr, heq⟩ := Option.map_eq_some_iff.1 h
        cases heq
        obtain ⟨rfl, rfl⟩ := ih (fun d hd => hname d (.tail _ hd)) hr
        exact ⟨by rw [Char.ofNat_toNat], rfl⟩
      · cases h

/-- What the scan takes for the name of a group is read as that name. -/
theorem groupName?_of_scanName? {cs name rest rest' : List Char} {name' : String}
    (hscan : Opener.scanName? cs = some (name, rest)) (h : groupName? cs = some (name', rest')) :
    name' = String.ofList name ∧ rest' = rest := by
  obtain ⟨rfl, hname⟩ := Opener.eq_of_scanName? hscan
  obtain ⟨hne, hall⟩ := Opener.isName_iff.1 hname
  have hother : ∀ c ∈ name, c ≠ '>' ∧ c ≠ '\\' := by
    intro c hc
    constructor <;> (rintro rfl; exact Opener.notMem_name hall (by decide) hc)
  obtain ⟨c, cs, rfl⟩ := List.exists_cons_of_ne_nil hne
  simp only [List.cons_append, groupName?, nameCodePoint?_cons (hother c (.head _)).2] at h
  split at h
  · obtain ⟨⟨n, r⟩, hr, heq⟩ := Option.map_eq_some_iff.1 h
    cases heq
    obtain ⟨rfl, rfl⟩ := nameRest?_append (fun d hd => hother d (.tail _ hd)) hr
    exact ⟨by rw [Char.ofNat_toNat], rfl⟩
  · cases h

namespace ParseState

/-- A term is added as it is, or else with the quantifier that follows it. -/
theorem term_cases {st st' : ParseState} {allowed : Bool} {groups : GroupRange} {n : Node}
    {cs rest : List Char} (h : st.term allowed groups n cs = .ok (st', rest)) :
    ∃ m, st' = st.push m ∧ ((m = n ∧ rest = cs) ∨
      (m.quantifiedCount = n.quantifiedCount + 1 ∧ IsQuantified cs rest)) := by
  unfold term quantify at h
  split at h
  · split at h
    · cases h
    · cases h
      exact ⟨n, rfl, .inl ⟨rfl, rfl⟩⟩
  · next hcounts =>
    split at h
    · cases h
    split at h
    · cases h
    · cases h
      exact ⟨_, rfl, .inr ⟨rfl, isQuantified_of_counts? hcounts⟩⟩

/-- A parenthesis opens a level in the state, and the scan finds the opener that is read. Only a
name that the scan does not know is read as an opener of another kind. -/
theorem openGroup_cases {st st' : ParseState} {cs rest : List Char}
    (h : st.openGroup cs = .ok (st', rest)) :
    Passes (Opener.scan cs).2 rest ∧ ∃ kind flags names, st' = st.enter kind flags names ∧
      flags.unicode = st.flags.unicode ∧
      (names = (Opener.scan cs).1.captured?.toList ++ st.names ∨
        ((Opener.scan cs).1 = .special ∧ (Opener.scan cs).2.head? = some '<')) := by
  unfold openGroup at h
  split at h
  iterate 5
    cases h
    exact ⟨.refl _, _, _, _, rfl, rfl, .inl rfl⟩
  · next cs hahead hnot =>
    split at h
    · next hname =>
      cases h
      -- the reader has ruled out what the scan takes for a lookbehind assertion
      cases hscanName : Opener.scanName? ('<' :: cs) with
      | none =>
        have hscan : Opener.scan ('?' :: '<' :: cs) = (.special, '<' :: cs) := by
          rw [Opener.scan, hscanName] <;> grind
        rw [hscan]
        exact ⟨passes_groupName? hname, _, _, _, rfl, rfl, .inr ⟨rfl, rfl⟩⟩
      | some r =>
        have hscan : Opener.scan ('?' :: '<' :: cs) = (.named r.1, r.2) := by
          rw [Opener.scan, hscanName] <;> grind
        obtain ⟨rfl, rfl⟩ := groupName?_of_scanName? hscanName hname
        rw [hscan]
        exact ⟨.refl _, _, _, _, rfl, rfl, .inl rfl⟩
    · cases h
  · cases h
  · next cs _ _ _ _ _ _ _ =>
    split at h
    · next hmodifiers =>
      cases h
      obtain ⟨hrest, hunicode⟩ := passes_modifiers? hmodifiers
      have hname : Opener.scanName? cs = none := by
        rw [Opener.scanName?]
        grind
      have hscan : Opener.scan ('?' :: cs) = (.special, cs) := by
        rw [Opener.scan, hname] <;> grind
      rw [hscan]
      exact ⟨hrest, _, _, _, rfl, hunicode, .inl rfl⟩
    · cases h
  · next hquestion =>
    cases h
    have hscan : Opener.scan cs = (.capture, cs) := by
      rw [Opener.scan] <;> grind
    rw [hscan]
    exact ⟨.refl _, _, _, _, rfl, rfl, .inl rfl⟩

/-- A closing parenthesis adds the group as a term to the level around it. -/
theorem closeGroup_cases {st st' : ParseState} {cs rest : List Char}
    (h : st.closeGroup cs = .ok (st', rest)) :
    ∃ f frames allowed groups, st.frames = f :: frames ∧
      (⟨f.flags, f.alternatives, f.terms, st.names, frames⟩ : ParseState).term allowed groups
        (f.kind.node st.body) cs = .ok (st', rest) := by
  unfold closeGroup at h
  split at h
  · cases h
  · next f frames hframes => exact ⟨f, frames, _, _, hframes, h⟩

/-! ### Steps -/

/-- A class is an atom up to the bracket that ends it. -/
theorem atom_bracket {unicode : Bool} {cs ds rest : List Char} {items : List ClassItem}
    (hcs : cs = ds ∨ cs = '^' :: ds) (h : classItems unicode ds = .ok (items, rest))
    (hhex : unicode = true ∨ hexComplete ('[' :: cs) = true) : Atom unicode ('[' :: cs) rest := by
  rw [hexComplete_cons (by decide)] at hhex
  rcases hcs with rfl | rfl
  · exact .bracket (scanContents_classItems h hhex)
  · rw [hexComplete_cons (by decide)] at hhex
    refine .bracket ?_
    rw [scanContents_cons (by decide)]
    exact scanContents_classItems h hhex

/-- All that a step can do. -/
theorem step_cases {scope : Scope} {st st' : ParseState} {c : Char} {cs rest : List Char}
    (h : step scope st c cs = .ok (st', rest))
    (hhex : st.flags.unicode = true ∨ hexComplete (c :: cs) = true) :
    (c = '|' ∧ st' = st.nextAlternative ∧ rest = cs) ∨
    (c = '(' ∧ st.openGroup cs = .ok (st', rest)) ∨
    (c = ')' ∧ st.closeGroup cs = .ok (st', rest)) ∨
    ∃ n allowed groups mid, n.quantifiedCount = 0 ∧ Atom st.flags.unicode (c :: cs) mid ∧
      st.term allowed groups n mid = .ok (st', rest) := by
  unfold step at h
  split at h
  · cases h
    exact .inl ⟨rfl, rfl, rfl⟩
  · exact .inr (.inl ⟨rfl, h⟩)
  · exact .inr (.inr (.inl ⟨rfl, h⟩))
  iterate 3 exact .inr (.inr (.inr ⟨_, _, _, _, rfl, .char rfl cs, h⟩))
  · unfold bracket at h
    dsimp only at h
    split at h
    · next hitems =>
      refine .inr (.inr (.inr ⟨_, _, _, _, rfl, atom_bracket ?_ hitems hhex, h⟩))
      split
      · exact .inr rfl
      · exact .inl rfl
    · cases h
  · unfold escape at h
    split at h
    · next hescape =>
      cases cs with
      | nil => cases hescape
      | cons c cs =>
        have hpasses := passes_atomEscape hescape hhex
        exact .inr (.inr (.inr
          ⟨_, _, _, _, quantifiedCount_atomEscape hescape, .escape hpasses, h⟩))
    · cases h
  iterate 3 cases h
  · split at h
    · cases h
    · next hunicode =>
      split at h
      · cases h
      · next hcounts =>
        refine .inr (.inr (.inr ⟨_, _, _, _, rfl, .brace (by simpa using hunicode) ?_, h⟩))
        simpa using hcounts
  iterate 2
    split at h
    · cases h
    · exact .inr (.inr (.inr ⟨_, _, _, _, rfl, .char rfl cs, h⟩))
  · exact .inr (.inr (.inr ⟨_, _, _, _, rfl, .char (by simp_all [isSimple]) cs, h⟩))

/-- Flags for groups do not change whether code points are read as with `u`. -/
def IsUniform (st : ParseState) : Prop :=
  ∀ f ∈ st.frames, f.flags.unicode = st.flags.unicode

theorem isUniform_start (flags : Flags) : IsUniform { flags } := by
  intro f hf
  cases hf

/-- A step leaves it as it is whether code points are read as with `u`. -/
theorem IsUniform.step {scope : Scope} {st st' : ParseState} {c : Char} {cs rest : List Char}
    (huniform : st.IsUniform) (h : step scope st c cs = .ok (st', rest))
    (hhex : st.flags.unicode = true ∨ hexComplete (c :: cs) = true) :
    st'.IsUniform ∧ st'.flags.unicode = st.flags.unicode := by
  obtain ⟨-, rfl, -⟩ | ⟨-, hopen⟩ | ⟨-, hclose⟩ | ⟨n, allowed, groups, mid, -, -, hterm⟩ :=
    step_cases h hhex
  · exact ⟨huniform, rfl⟩
  · obtain ⟨-, kind, flags, names, rfl, hunicode, -⟩ := openGroup_cases hopen
    refine ⟨fun g hg => ?_, hunicode⟩
    change g.flags.unicode = flags.unicode
    rw [hunicode]
    rcases List.mem_cons.1 hg with rfl | hg
    · rfl
    · exact huniform g hg
  · obtain ⟨f, frames, allowed, groups, hframes, hterm⟩ := closeGroup_cases hclose
    obtain ⟨m, rfl, -⟩ := term_cases hterm
    have hf : f.flags.unicode = st.flags.unicode := huniform f (hframes ▸ .head _)
    refine ⟨fun g hg => ?_, hf⟩
    exact (huniform g (hframes ▸ .tail _ hg)).trans hf.symm
  · obtain ⟨m, rfl, -⟩ := term_cases hterm
    exact ⟨huniform, rfl⟩

end ParseState

/-- What follows an opener is complete if all of the text is. -/
theorem hexComplete_scanOpener {cs : List Char} (h : hexComplete cs = true) :
    hexComplete (Opener.scan cs).2 = true := by
  have hskip {c : Char} {cs : List Char} (hc : c ≠ '\\') (h : hexComplete (c :: cs) = true) :
      hexComplete cs = true := by
    rwa [hexComplete_cons hc] at h
  unfold Opener.scan
  split
  iterate 2 exact hskip (by decide) (hskip (by decide) h)
  iterate 2 exact hskip (by decide) (hskip (by decide) (hskip (by decide) h))
  · exact hskip (by decide) (hskip (by decide) h)
  · split
    · next name rest hscan =>
      obtain ⟨rfl, hname⟩ := Opener.eq_of_scanName? hscan
      have hbackslash := Opener.notMem_name (Opener.isName_iff.1 hname).2
        (by decide : '\\' ∈ ['>', '=', '!', '\\', ')'])
      have hrest := hskip (by decide) h
      rw [List.cons_append, hexComplete_cons (by decide), hexComplete_append hbackslash] at hrest
      exact hskip (by decide) hrest
    · exact hskip (by decide) h
  · exact h

namespace ParseState

/-- What a step leaves is complete if all of the text is. -/
theorem hexComplete_of_step {scope : Scope} {st st' : ParseState} {c : Char} {cs rest : List Char}
    (h : step scope st c cs = .ok (st', rest)) (hhex : hexComplete (c :: cs) = true) :
    hexComplete rest = true := by
  have hterm {st st' : ParseState} {allowed : Bool} {groups : GroupRange} {n : Node}
      {cs : List Char} (h : st.term allowed groups n cs = .ok (st', rest))
      (hcs : hexComplete cs = true) : hexComplete rest = true := by
    obtain ⟨m, -, ⟨-, rfl⟩ | ⟨-, hquantified⟩⟩ := term_cases h
    · exact hcs
    · exact hquantified.hexComplete hcs
  obtain ⟨rfl, -, rfl⟩ | ⟨rfl, hopen⟩ | ⟨rfl, hclose⟩ | ⟨n, allowed, groups, mid, -, hatom, h⟩ :=
    step_cases h (.inr hhex)
  · rwa [hexComplete_cons (by decide)] at hhex
  · rw [hexComplete_cons (by decide)] at hhex
    exact (openGroup_cases hopen).1.hexComplete (hexComplete_scanOpener hhex)
  · rw [hexComplete_cons (by decide)] at hhex
    obtain ⟨f, frames, allowed, groups, -, h⟩ := closeGroup_cases hclose
    exact hterm h hhex
  · exact hterm h (hatom.hexComplete hhex)

end ParseState

/-- A regular expression is read from the start of its pattern, with no group open. -/
theorem exists_finish_of_compile {pattern flags : String} {re : Regex}
    (h : compile pattern flags = .ok re) : ∃ groups, ParseState.finish
      ⟨Flags.ofString flags, groups⟩ { flags := Flags.ofString flags } pattern.toList = .ok re := by
  unfold compile ofPattern ofChars at h
  cases hnames : captureNames [] pattern.toList with
  | error e => rw [hnames] at h; cases h
  | ok groups =>
    rw [hnames] at h
    dsimp only at h
    split at h
    · next hfinish =>
      cases h
      exact ⟨groups, hfinish⟩
    · cases h

end Regex

end PatternProse
