import PatternProse.Proofs.Block.Reading

/-!
# Which blocks have valid patterns

The pattern of a block is valid under all flags or under none, which shows in the tree: it is not
valid just if some repetition in it has its counts reversed or applies to a bare anchor. An anchor
is bare if it is all that the repetition holds, so that no group is written around it. A valid
pattern stands for the regular expression that the blocks are read as.

## Main definitions

* `Block.isSound` — whether a block has no such repetition.
* `Block.HasOutcome` — texts that come out in one way wherever they stand, unless they are
  quantified.

The main statements are `Block.isValid_formatAll`, `Block.ofPattern_formatAll` and, for the pattern
of one block, `Block.compile_pattern`.
-/

namespace PatternProse

namespace Block

open Regex ParseState

/-- Wherever the characters stand, unless they are quantified there, they come out as `ok`, and if
they are read it is with the reading `r`. -/
structure HasOutcome (ok : Bool) (r : Reading) (text : List Char) : Prop where
  names : ∀ names rest, startsQuantifier rest = false →
    captureNames names (text ++ rest) = captureNames (names ++ List.replicate r.groups none) rest
  finish : ∀ scope st rest, startsQuantifier rest = false →
    Outcome scope (st.read r) rest ok (finish scope st (text ++ rest))

theorem hasOutcome_nil : HasOutcome true .nil [] where
  names names _ _ := by simp [Reading.nil]
  finish scope st rest _ := outcome_finish scope st rest

theorem HasOutcome.append {a b : Bool} {r t : Reading} {text text' : List Char}
    (hr : HasOutcome a r text) (ht : HasOutcome b t text')
    (hstart : startsQuantifier text' = false) :
    HasOutcome (a && b) (r.append t) (text ++ text') where
  names names rest hrest := by
    rw [List.append_assoc, hr.names names _ (startsQuantifier_append hstart hrest),
      ht.names _ rest hrest, List.append_assoc, List.replicate_append_replicate]
    rfl
  finish scope st rest hrest := by
    rw [List.append_assoc, read_append]
    obtain ⟨rfl, h⟩ | ⟨rfl, e, h⟩ :=
      hr.finish scope st (text' ++ rest) (startsQuantifier_append hstart hrest)
    · rw [h]
      exact ht.finish scope (st.read r) rest hrest
    · rw [h]
      exact outcome_error e

/-- A text that is read as one term. -/
theorem hasOutcome_of_step {c : Char} {cs : List Char} {n : Flags → Regex.Node}
    (hnames : ∀ names rest, captureNames names (c :: (cs ++ rest)) = captureNames names rest)
    (hstep : ∀ scope st rest, ∃ allowed groups,
      step scope st c (cs ++ rest) = st.term allowed groups (n st.flags) rest) :
    HasOutcome true (.term n) (c :: cs) where
  names names rest _ := by simpa [Reading.term] using hnames names rest
  finish scope st rest hrest := by
    obtain ⟨allowed, groups, h⟩ := hstep scope st rest
    rw [List.cons_append, finish_cons, h, term_of_startsQuantifier hrest]
    exact outcome_finish scope (st.push (n st.flags)) rest

theorem hasOutcome_ordinary {c : Char} (h : c ∉ literalSpecials) :
    HasOutcome true (readingOfChars [c]) [c] := by
  have hsub : captureMarks ⊆ literalSpecials := by decide
  refine hasOutcome_of_step (n := fun flags => .char flags.casing c.toNat) (fun names rest => ?_)
    fun scope st rest => ?_
  · exact captureNames_of_notMem (fun hc => h (hsub hc)) names rest
  · exact ⟨_, _, step_ordinary h scope st rest⟩

theorem hasOutcome_escaped {c : Char} (h : c ∈ literalSpecials) :
    HasOutcome true (readingOfChars [c]) ['\\', c] := by
  refine hasOutcome_of_step (n := fun flags => .char flags.casing c.toNat) (captureNames_escaped c)
    fun scope st rest => ?_
  have hstep : step scope st '\\' (c :: rest) = st.atom (.char st.flags.casing c.toNat) rest := by
    simp only [step, ParseState.escape, atomEscape_special h]
  exact ⟨_, _, hstep⟩

theorem hasOutcome_escape (cs : List Char) :
    HasOutcome true (readingOfChars cs) (escape literalSpecials cs) := by
  induction cs with
  | nil => exact hasOutcome_nil
  | cons c cs ih =>
    have hreading : readingOfChars (c :: cs) =
        (readingOfChars [c]).append (readingOfChars cs) := rfl
    rw [hreading]
    by_cases hc : c ∈ literalSpecials
    · rw [escape_cons_of_mem hc]
      exact (hasOutcome_escaped hc).append ih (startsQuantifier_escape cs)
    · rw [escape_cons_of_notMem hc]
      exact (hasOutcome_ordinary hc).append ih (startsQuantifier_escape cs)

theorem hasOutcome_symbol (s : Symbol) : HasOutcome true (.term s.node) s.chars := by
  cases s with
  | anyChar | startOfLine | endOfLine =>
    exact hasOutcome_of_step (captureNames_of_notMem (by decide)) fun _ _ _ => ⟨_, _, rfl⟩
  | _ => exact hasOutcome_of_step (captureNames_escaped _) fun _ _ _ => ⟨_, _, rfl⟩

theorem hasOutcome_bar : HasOutcome true .bar ['|'] where
  names names rest _ := by
    simpa [Reading.bar] using captureNames_of_notMem (by decide) names rest
  finish scope st rest _ := by
    rw [List.singleton_append, finish_cons]
    exact outcome_finish scope st.nextAlternative rest

theorem hasOutcome_characterClass (negated : Bool) (characters : String) :
    HasOutcome true (characterClass negated characters).reading
      (characterClass negated characters).chars := by
  rw [chars_characterClass, reading]
  refine hasOutcome_of_step (fun names rest => ?_) fun scope st rest => ?_
  · rw [captureNames_bracket]
    have hskip := skipClass_escape (classContents characters) rest
    cases negated <;> simpa [skipClass] using congrArg (captureNames names) hskip
  · have h := bracket_escape negated (classContents characters) rest st
    exact ⟨true, _, by simpa [step, atom] using h⟩

/-! ### Groups -/

/-- After an opening parenthesis the characters make up the mark of a group, whose kind may depend
on the number of capture groups before it and which is counted as `groups` of them itself. -/
structure Opens (mark : List Char) (kind : Nat → GroupKind) (groups : Nat) : Prop where
  names : ∀ names cs, startsQuantifier cs = false →
    captureNames names ('(' :: (mark ++ cs)) =
      captureNames (names ++ List.replicate groups none) cs
  openGroup : ∀ (st : ParseState) (cs : List Char), startsQuantifier cs = false →
    st.openGroup (mark ++ cs) = .ok (st.enter (kind st.names.length) st.flags
      (List.replicate groups none ++ st.names), cs)

theorem opens_capture : Opens [] .capture 1 where
  names names _ hcs := captureNames_capture (head?_ne_of_startsQuantifier (by decide) hcs) names
  openGroup st _ hcs := openGroup_capture (head?_ne_of_startsQuantifier (by decide) hcs) st

theorem opens_nonCapturing : Opens ['?', ':'] (fun _ => .plain) 0 where
  names names cs _ := by simpa using captureNames_nonCapturing names cs
  openGroup _ _ _ := rfl

theorem opens_lookaround (k : Lookaround) : Opens k.mark (fun _ => .look k) 0 where
  names names cs _ := by simpa using captureNames_lookaround k names cs
  openGroup st cs _ := openGroup_lookaround k st cs

section Enclosed

variable {mark content : List Char} {kind : Nat → GroupKind} {groups : Nat} {ok : Bool}
  {r : Reading}

theorem names_enclosed (hopens : Opens mark kind groups) (hcontent : HasOutcome ok r content)
    (hstart : startsQuantifier content = false) (names : List (Option String))
    (rest : List Char) :
    captureNames names ('(' :: (mark ++ (content ++ ')' :: rest))) =
      captureNames (names ++ List.replicate (groups + r.groups) none) rest := by
  have hstart' : startsQuantifier (content ++ ')' :: rest) = false :=
    startsQuantifier_append hstart rfl
  rw [hopens.names names _ hstart', hcontent.names _ (')' :: rest) rfl,
    captureNames_of_notMem (by decide), List.append_assoc, List.replicate_append_replicate]

/-- What a group holds comes out as it does elsewhere, and then the group is a term. -/
theorem finish_enclosed (hopens : Opens mark kind groups) (hcontent : HasOutcome ok r content)
    (hstart : startsQuantifier content = false) (scope : Scope) (st : ParseState)
    (rest : List Char) :
    (ok = true ∧ finish scope st ('(' :: (mark ++ (content ++ ')' :: rest))) =
      resume scope ((st.addGroups (groups + r.groups)).term
        ((kind st.names.length).isQuantifiable st.flags.unicode)
        ⟨st.names.length, st.names.length + (groups + r.groups)⟩
        ((kind st.names.length).node (r.node st.flags (st.names.length + groups))) rest)) ∨
    (ok = false ∧ ∃ e, finish scope st ('(' :: (mark ++ (content ++ ')' :: rest))) = .error e) := by
  have hstart' : startsQuantifier (content ++ ')' :: rest) = false :=
    startsQuantifier_append hstart rfl
  have hstep : step scope st '(' (mark ++ (content ++ ')' :: rest)) =
      .ok (st.enter (kind st.names.length) st.flags (List.replicate groups none ++ st.names),
        content ++ ')' :: rest) := hopens.openGroup st _ hstart'
  have hclose (st : ParseState) : step scope st ')' rest = st.closeGroup rest := rfl
  rw [finish_cons, hstep, resume]
  obtain ⟨hok, h⟩ | ⟨hok, e, h⟩ := hcontent.finish scope _ (')' :: rest) rfl
  · exact .inl ⟨hok, by rw [h, finish_cons, hclose, closeGroup_read_enter]⟩
  · exact .inr ⟨hok, e, h⟩

theorem HasOutcome.enclosed (hcontent : HasOutcome ok r content) (hopens : Opens mark kind groups)
    (hstart : startsQuantifier content = false) :
    HasOutcome ok (.enclosed kind groups r) ('(' :: (mark ++ (content ++ [')']))) where
  names names rest _ := by
    simpa [Reading.enclosed] using names_enclosed hopens hcontent hstart names rest
  finish scope st rest hrest := by
    simp only [List.cons_append, List.append_assoc, List.nil_append]
    obtain ⟨rfl, h⟩ | ⟨rfl, e, h⟩ := finish_enclosed hopens hcontent hstart scope st rest
    · rw [h, term_of_startsQuantifier hrest]
      exact outcome_finish scope (st.read (.enclosed kind groups r)) rest
    · rw [h]
      exact outcome_error e

end Enclosed

/-! ### Sound blocks -/

/-- Whether some characters are an anchor that no group stands around. -/
def isBareAnchor (content : List Char) : Bool := content == ['^'] || content == ['$']

theorem not_isBareAnchor_of_isWrapped {content : List Char} (h : isWrapped content = true) :
    isBareAnchor content = false := by
  cases hanchor : isBareAnchor content with
  | false => rfl
  | true =>
    rw [isBareAnchor, Bool.or_eq_true, beq_iff_eq, beq_iff_eq] at hanchor
    rcases hanchor with rfl | rfl <;> cases h

mutual

/-- Whether no repetition in a block has its counts reversed or applies to a bare anchor. -/
def isSound : Block → Bool
  | literal _ | symbol _ | characterClass _ _ => true
  | repetition q body => !isBareAnchor (charsOfBody body) && !q.isReversed && isSoundBody body
  | group bs | alternatives bs | lookaround _ bs => isSoundEach bs

/-- Whether what a repetition holds is sound. -/
def isSoundBody : Option Block → Bool
  | none => true
  | some b => b.isSound

/-- Whether several blocks are sound. -/
def isSoundEach : List Block → Bool
  | [] => true
  | b :: bs => b.isSound && isSoundEach bs

end

theorem isSoundEach_eq_all (bs : List Block) : isSoundEach bs = bs.all isSound := by
  induction bs with
  | nil => rfl
  | cons b bs ih => rw [isSoundEach, ih, List.all_cons]

theorem Brief.isSound_eq_true {b : Block} {cs : List Char} (h : Brief b cs) :
    b.isSound = true := by
  induction h with
  | blank | literal | symbol => rw [isSound]
  | alternatives _ ih => rw [isSound, isSoundEach, ih]; rfl

theorem Brief.notMem {b : Block} {c : Char} (h : Brief b [c]) : c ∉ captureMarks := by
  generalize hcs : [c] = ds at h
  induction h with
  | blank => cases hcs
  | literal _ hc =>
    cases hcs
    have hsub : captureMarks ⊆ literalSpecials := by decide
    exact fun hc' => hc (hsub hc')
  | @symbol s d hs =>
    cases hcs
    cases s <;> cases hs <;> decide
  | alternatives _ ih => exact ih hcs

/-- The one character of a brief block is a term, which may be quantified unless it is an
anchor. -/
theorem Brief.exists_term {b : Block} {c : Char} (h : Brief b [c]) : ∃ n, b.reading = .term n ∧
    ∀ scope st cs, step scope st c cs = st.term (!isBareAnchor [c])
      ⟨st.names.length, st.names.length⟩ (n st.flags) cs := by
  generalize hcs : [c] = ds at h
  induction h with
  | blank => cases hcs
  | @literal text d htext hc =>
    cases hcs
    have hanchor : isBareAnchor [c] = false := by
      have hsub : ['^', '$'] ⊆ literalSpecials := by decide
      simpa [isBareAnchor] using fun hc' => hc (hsub hc')
    refine ⟨fun flags => .char flags.casing c.toNat, ?_, fun scope st cs => ?_⟩
    · rw [reading, htext]
      rfl
    · rw [hanchor]
      exact step_ordinary hc scope st cs
  | @symbol s d hs =>
    cases hcs
    refine ⟨s.node, by rw [reading], ?_⟩
    cases s <;> cases hs <;> exact fun _ _ _ => rfl
  | alternatives _ ih => exact ih hcs

theorem hasOutcome_flatMap {bs : List Block}
    (h : ∀ b ∈ bs, HasOutcome b.isSound b.reading b.chars) :
    HasOutcome (isSoundEach bs) (.concat (readings bs)) (bs.flatMap chars) := by
  induction bs with
  | nil => exact hasOutcome_nil
  | cons b bs ih =>
    rw [List.flatMap_cons]
    exact (h b List.mem_cons_self).append (ih fun b hb => h b (.tail _ hb))
      (startsQuantifier_flatMap fun b _ => startsQuantifier_chars b)

theorem hasOutcome_intercalate {bs : List Block}
    (h : ∀ b ∈ bs, HasOutcome b.isSound b.reading b.chars) :
    HasOutcome (isSoundEach bs) (.alternatives (readings bs))
      (['|'].intercalate (bs.map chars)) := by
  match bs with
  | [] => exact hasOutcome_nil
  | [b] => simpa [isSoundEach, readings, Reading.alternatives] using h b List.mem_cons_self
  | b :: b' :: bs =>
    have htail := hasOutcome_intercalate fun b hb => h b (.tail _ hb)
    have hstart : startsQuantifier (['|'].intercalate ((b' :: bs).map chars)) = false :=
      startsQuantifier_intercalate fun b _ => startsQuantifier_chars b
    rw [List.map_cons, List.map_cons, List.intercalate_cons_cons, List.append_assoc]
    exact (h b List.mem_cons_self).append (hasOutcome_bar.append htail hstart) rfl

theorem hasOutcome_group {bs : List Block}
    (h : ∀ b ∈ bs, HasOutcome b.isSound b.reading b.chars) :
    HasOutcome (group bs).isSound (group bs).reading (group bs).chars := by
  rw [chars_group, isSound, reading]
  exact (hasOutcome_flatMap h).enclosed opens_capture
    (startsQuantifier_flatMap fun b _ => startsQuantifier_chars b)

theorem isSoundEach_eq_true {bs : List Block} (h : bs.flatMap chars = []) :
    isSoundEach bs = true := by
  rw [isSoundEach_eq_all, List.all_eq_true]
  intro b hb
  exact (brief_of_flatMap_eq_nil h hb).isSound_eq_true

theorem hasOutcome_lookaround {k : Lookaround} {bs : List Block}
    (h : ∀ b ∈ bs, HasOutcome b.isSound b.reading b.chars) :
    HasOutcome (lookaround k bs).isSound (lookaround k bs).reading (lookaround k bs).chars := by
  rw [chars_lookaround, isSound, reading]
  split
  · next hempty =>
    have hstandIn : HasOutcome true (readingOfChars lookaroundStandIn) lookaroundStandIn :=
      hasOutcome_escape lookaroundStandIn
    rw [isSoundEach_eq_true (List.isEmpty_iff.1 hempty)]
    exact hstandIn.enclosed (opens_lookaround k) rfl
  · exact (hasOutcome_flatMap h).enclosed (opens_lookaround k)
      (startsQuantifier_flatMap fun b _ => startsQuantifier_chars b)

/-- What is quantified in a group comes out as it does elsewhere, unless the counts are
reversed. -/
theorem HasOutcome.wrapped {content : List Char} {ok : Bool} {r : Reading}
    (hcontent : HasOutcome ok r content) (hstart : startsQuantifier content = false)
    (q : Quantifier) :
    HasOutcome (!q.isReversed && ok) (.quantified (.ofQuantifier q) r)
      (('(' :: '?' :: ':' :: (content ++ [')'])) ++ q.chars) where
  names names rest _ := by
    have h := names_enclosed opens_nonCapturing hcontent hstart names (q.chars ++ rest)
    rw [captureNames_quantifier, Nat.zero_add] at h
    simpa [Reading.quantified] using h
  finish scope st rest hrest := by
    have htext : ('(' :: '?' :: ':' :: (content ++ [')'])) ++ q.chars ++ rest =
        '(' :: (['?', ':'] ++ (content ++ ')' :: (q.chars ++ rest))) := by simp
    rw [htext]
    obtain ⟨rfl, h⟩ | ⟨rfl, e, h⟩ :=
      finish_enclosed opens_nonCapturing hcontent hstart scope st (q.chars ++ rest)
    · rw [h, Bool.and_true, Nat.zero_add]
      exact outcome_term_quantifier hrest scope (st.addGroups r.groups) true _ _
    · rw [h, Bool.and_false]
      exact outcome_error e

/-- What is quantified without a group comes out unless it is an anchor or the counts are
reversed. -/
theorem Brief.hasOutcome {b : Block} {c : Char} (h : Brief b [c]) (q : Quantifier) :
    HasOutcome (!isBareAnchor [c] && !q.isReversed) (.quantified (.ofQuantifier q) b.reading)
      (c :: q.chars) := by
  obtain ⟨n, hreading, hstep⟩ := h.exists_term
  rw [hreading]
  refine ⟨fun names rest _ => ?_, fun scope st rest hrest => ?_⟩
  · rw [List.cons_append, captureNames_of_notMem h.notMem, captureNames_quantifier]
    simp [Reading.quantified, Reading.term]
  · rw [List.cons_append, finish_cons, hstep]
    exact outcome_term_quantifier hrest scope st _ _ (n st.flags)

theorem isSoundBody_eq_true {body : Option Block} (h : isWrapped (charsOfBody body) = false) :
    isSoundBody body = true := by
  cases body with
  | none => rfl
  | some b => exact (brief_of_not_isWrapped h).isSound_eq_true

theorem hasOutcome_repetition {q : Quantifier} {body : Option Block}
    (h : ∀ b ∈ body, HasOutcome b.isSound b.reading b.chars) :
    HasOutcome (repetition q body).isSound (repetition q body).reading
      (repetition q body).chars := by
  rw [chars, isSound, reading_repetition]
  cases hwrapped : isWrapped (charsOfBody body) with
  | true =>
    cases body with
    | none => cases hwrapped
    | some b =>
      have hne : (charsOfBody (some b)).isEmpty = false := by
        cases hchars : charsOfBody (some b) with
        | nil => rw [hchars] at hwrapped; cases hwrapped
        | cons => rfl
      rw [repeated_of_isWrapped hwrapped, not_isBareAnchor_of_isWrapped hwrapped, repeatedReading,
        hne]
      exact (h b rfl).wrapped (startsQuantifier_chars b) q
  | false =>
    obtain ⟨b, c, hbrief, hrepeated, hbody⟩ := exists_brief_repeated hwrapped
    have hsame : isBareAnchor (charsOfBody body) = isBareAnchor [c] ∧
        repeatedReading body = b.reading := by
      rcases hbody with ⟨hchars, rfl, rfl⟩ | ⟨hchars, rfl⟩
      · simp [repeatedReading, hchars, reading, isBareAnchor]
      · simp [repeatedReading, hchars, readingOfBody]
    rw [hrepeated, hsame.1, hsame.2, isSoundBody_eq_true hwrapped, Bool.and_true]
    exact hbrief.hasOutcome q

theorem hasOutcome_alternativesStandIn :
    HasOutcome true (.alternatives [readingOfChars ['a'], readingOfChars ['b']])
      alternativesStandIn :=
  (hasOutcome_escape ['a']).append (hasOutcome_bar.append (hasOutcome_escape ['b']) rfl) rfl

/-- The pattern of a block comes out if the block is sound, and fails if it is not. -/
theorem hasOutcome_chars (b : Block) : HasOutcome b.isSound b.reading b.chars := by
  induction b with
  | literal text => exact hasOutcome_escape text.toList
  | symbol s => exact hasOutcome_symbol s
  | repetition q body ih => exact hasOutcome_repetition ih
  | group bs ih => exact hasOutcome_group ih
  | alternatives bs ih =>
    by_cases hbs : bs = []
    · subst hbs
      exact hasOutcome_alternativesStandIn
    · rw [chars_alternatives hbs, reading, if_neg (by simpa using hbs)]
      exact hasOutcome_intercalate ih
  | characterClass negated characters => exact hasOutcome_characterClass negated characters
  | lookaround k bs ih => exact hasOutcome_lookaround ih

/-- Of a whole pattern either the reading is known or there is a problem. -/
theorem HasOutcome.ofChars {ok : Bool} {r : Reading} {text : List Char}
    (h : HasOutcome ok r text) (flags : Flags) :
    (ok = true ∧ Regex.ofChars flags text = .ok ⟨r.node flags 0, List.replicate r.groups none⟩) ∨
      (ok = false ∧ ∃ e, Regex.ofChars flags text = .error e) := by
  have hnames := h.names [] [] rfl
  rw [List.append_nil, captureNames, List.nil_append] at hnames
  rw [Regex.ofChars, hnames]
  have hbody := @body_read { flags } rfl rfl r
  have hgroups : (ParseState.read { flags } r).names = List.replicate r.groups none :=
    List.append_nil _
  obtain ⟨rfl, hfinish⟩ | ⟨rfl, e, hfinish⟩ := h.finish ⟨flags, _⟩ { flags } [] rfl
  · rw [List.append_nil, ParseState.finish, frames_read, hbody, hgroups,
      List.reverse_replicate] at hfinish
    exact .inl ⟨rfl, hfinish⟩
  · rw [List.append_nil] at hfinish
    exact .inr ⟨rfl, e, hfinish⟩

/-- The pattern of a list of blocks is valid, under any flags, just if all blocks are sound. -/
theorem isValid_formatAll (bs : List Block) (flags : String) :
    isValid (formatAll bs) flags = bs.all isSound := by
  have hlist := hasOutcome_flatMap fun b (_ : b ∈ bs) => hasOutcome_chars b
  rw [← isSoundEach_eq_all, isValid, validate, compile, Regex.ofPattern, formatAll,
    String.toList_ofList]
  obtain ⟨hok, h⟩ | ⟨hok, e, h⟩ := hlist.ofChars (Flags.ofString flags)
  · rw [hok, h]
    rfl
  · rw [hok, h]
    rfl

/-- The pattern of sound blocks stands for the regular expression that the blocks are read as. -/
theorem ofPattern_formatAll {bs : List Block} (h : bs.all isSound = true) (flags : String) :
    Regex.ofPattern (formatAll bs) flags =
      .ok ⟨(Reading.concat (readings bs)).node (Flags.ofString flags) 0,
        List.replicate (Reading.concat (readings bs)).groups none⟩ := by
  have hlist := hasOutcome_flatMap fun b (_ : b ∈ bs) => hasOutcome_chars b
  rw [isSoundEach_eq_all, h] at hlist
  rw [Regex.ofPattern, formatAll, String.toList_ofList]
  obtain ⟨-, h⟩ | ⟨hok, -⟩ := hlist.ofChars (Flags.ofString flags)
  · exact h
  · cases hok

/-- The pattern of a sound block stands for the regular expression that the block is read as. -/
theorem compile_pattern {b : Block} (h : b.isSound = true) (flags : String) :
    compile b.pattern flags =
      .ok ⟨b.reading.node (Flags.ofString flags) 0, List.replicate b.reading.groups none⟩ := by
  rw [compile, Regex.ofPattern, pattern, String.toList_ofList]
  obtain ⟨-, hread⟩ | ⟨hok, -⟩ := (hasOutcome_chars b).ofChars (Flags.ofString flags)
  · rw [hread]
  · rw [h] at hok
    cases hok

example : (group [repetition .oneOrMore (some (symbol .startOfLine))]).isSound = false := by decide

end Block

end PatternProse
