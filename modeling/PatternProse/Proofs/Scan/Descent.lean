import PatternProse.Proofs.Scan.Layout

/-!
# Scanning by recursive descent

The levels of a pattern can also be scanned by a function that calls itself after each opener and
returns at a closing parenthesis or at the end of the pattern. A closing parenthesis that ends the
outermost level is stepped over, and the scan starts again behind it.

## Main definitions

* `level` — the fragments of one level, and where it ends.
* `descend` — the fragments of a pattern, level by level.

The main statement is `descend_eq_explainPattern`: the open levels of a scan do the same as the
calls that have not returned.
-/

namespace PatternProse

/-- The text of the last of some fragments. -/
def lastText (fs : List Fragment) : Option (List Char) :=
  fs.getLast?.map fun f => f.sourceText.toList

theorem lastText_append (fs gs : List Fragment) :
    lastText (fs ++ gs) = (lastText gs).or (lastText fs) := by
  simp only [lastText, List.getLast?_append]
  cases gs.getLast? <;> rfl

theorem lastText_cons (f : Fragment) (fs : List Fragment) :
    lastText (f :: fs) = (lastText fs).or (some f.sourceText.toList) :=
  lastText_append [f] fs

/-- One level of the characters `cs`: its fragments, those of the levels inside of it included,
and the offset and the characters after it. -/
structure Level (cs : List Char) where
  fragments : List Fragment
  stop : Nat
  rest : List Char
  length_rest_le : rest.length ≤ cs.length - 1

theorem Level.length_rest_le_of_le {cs : List Char} (l : Level cs) {n : Nat}
    (h : cs.length ≤ n) : l.rest.length ≤ n :=
  Nat.le_trans l.length_rest_le (Nat.le_trans (Nat.sub_le _ _) h)

/-- The level that starts, or goes on after the text `item`, at a byte offset. -/
def level (depth offset : Nat) (item : Option (List Char)) : (cs : List Char) → Level cs
  | [] => ⟨[], offset, [], Nat.zero_le _⟩
  | c :: cs =>
    let token := (Token.scan c cs).1
    let rest := (Token.scan c cs).2
    have hrest : rest.length ≤ cs.length := Nat.le_of_lt_succ (Token.length_scan_lt c cs)
    let stop := offset + utf8Length token.text
    match token.explain? item with
    | none => ⟨[], stop, rest, hrest⟩
    | some (kind, sentence) =>
      let f : Fragment := ⟨String.ofList token.text, sentence, depth, ⟨offset, stop⟩, kind⟩
      if kind.isContainer then
        let inside := level (depth + 1) stop none rest
        have hinside := inside.length_rest_le_of_le hrest
        let after :=
          level depth inside.stop ((lastText inside.fragments).or (some token.text)) inside.rest
        ⟨f :: (inside.fragments ++ after.fragments), after.stop, after.rest,
          after.length_rest_le_of_le hinside⟩
      else
        let after := level depth stop (some token.text) rest
        ⟨f :: after.fragments, after.stop, after.rest, after.length_rest_le_of_le hrest⟩
termination_by cs => cs.length
decreasing_by
  · exact Token.length_scan_lt c cs
  · exact Nat.lt_succ_of_le hinside
  · exact Token.length_scan_lt c cs

/-- A level takes some characters off the text, and stops behind them. -/
theorem level_append (depth offset : Nat) (item : Option (List Char)) (cs : List Char) :
    ∃ text, cs = text ++ (level depth offset item cs).rest ∧
      (level depth offset item cs).stop = offset + utf8Length text := by
  fun_induction level depth offset item cs with
  | case1 => exact ⟨[], rfl, rfl⟩
  | case2 depth offset item c cs token rest hrest stop hexplain =>
    exact ⟨token.text, (Token.text_append_scan c cs).symm, rfl⟩
  | case3 depth offset item c cs token rest hrest stop kind sentence hexplain f hkind inside
      hinside after ihinside _ ihafter _ =>
    obtain ⟨within, hwithin, hinsideStop⟩ := ihinside
    obtain ⟨behind, hbehind, hafterStop⟩ := ihafter
    refine ⟨token.text ++ (within ++ behind), ?_, ?_⟩
    · dsimp only
      rw [List.append_assoc, List.append_assoc, ← hbehind, ← hwithin]
      exact (Token.text_append_scan c cs).symm
    · dsimp only
      rw [hafterStop, hinsideStop]
      simp [stop, Nat.add_assoc]
  | case4 depth offset item c cs token rest hrest stop kind sentence hexplain f hkind after
      ihafter _ =>
    obtain ⟨behind, hbehind, hafterStop⟩ := ihafter
    refine ⟨token.text ++ behind, ?_, ?_⟩
    · dsimp only
      rw [List.append_assoc, ← hbehind]
      exact (Token.text_append_scan c cs).symm
    · dsimp only
      rw [hafterStop]
      simp [stop, Nat.add_assoc]

/-- The levels that follow one another from a byte offset on, each behind a closing parenthesis
that closes nothing. -/
def descendFrom (offset : Nat) : List Char → List Fragment
  | [] => []
  | c :: cs =>
    let outermost := level 0 offset none (c :: cs)
    outermost.fragments ++ descendFrom outermost.stop outermost.rest
termination_by cs => cs.length
decreasing_by exact Nat.lt_succ_of_le outermost.length_rest_le

/-- The fragments of a pattern, level by level. -/
def descend (pattern : String) : List Fragment := descendFrom 0 pattern.toList

/-- The fragments from some point on are those up to the end of the level, and then those after
it with the level closed. -/
theorem fragmentsFrom_eq_level (item : Option (List Char)) (outer : List (Option (List Char)))
    (offset : Nat) (cs : List Char) :
    fragmentsFrom ⟨item, outer⟩ offset (Token.list cs) =
      (level outer.length offset item cs).fragments ++
        fragmentsFrom
          (Levels.close ⟨(lastText (level outer.length offset item cs).fragments).or item, outer⟩)
          (level outer.length offset item cs).stop
          (Token.list (level outer.length offset item cs).rest) := by
  generalize hdepth : outer.length = depth
  -- along the calls of `level`; what is open around a call never matters inside of it
  fun_induction level depth offset item cs generalizing outer with
  | case1 => simp [Token.list, fragmentsFrom]
  | case2 depth offset item c cs token rest hrest stop hexplain =>
    have hclose : (Token.scan c cs).1 = .close := Token.eq_close_of_explain? hexplain
    rw [Token.list, hclose, fragmentsFrom_close_cons]
    simp only [stop, token, hclose]
    rfl
  | case3 depth offset item c cs token rest hrest stop kind sentence hexplain f hkind inside
      hinside after ihinside _ ihafter _ =>
    have hitem : token.explain? (Levels.item ⟨item, outer⟩) = some (kind, sentence) := hexplain
    have hlevels : Levels.after ⟨item, outer⟩ token = ⟨none, some token.text :: outer⟩ := by
      rw [Levels.after_of_explain? _ hexplain, if_pos hkind]
    rw [Token.list, fragmentsFrom_cons_of_explain? hitem, hlevels,
      ihinside (some token.text :: outer) (by rw [List.length_cons, hdepth])]
    have hclose : Levels.close ⟨(lastText inside.fragments).or none, some token.text :: outer⟩ =
        ⟨(lastText inside.fragments).or (some token.text), outer⟩ := by
      rw [Option.or_none, Levels.close]
    have hlast : lastText (f :: (inside.fragments ++ after.fragments)) =
        (lastText after.fragments).or ((lastText inside.fragments).or (some token.text)) := by
      rw [lastText_cons, lastText_append, Option.or_assoc, String.toList_ofList]
    rw [hclose, ihafter outer hdepth, hlast, Option.or_assoc, Option.or_assoc, Option.some_or]
    subst hdepth
    simp only [List.cons_append, List.append_assoc]
    rfl
  | case4 depth offset item c cs token rest hrest stop kind sentence hexplain f hkind after
      ihafter _ =>
    have hitem : token.explain? (Levels.item ⟨item, outer⟩) = some (kind, sentence) := hexplain
    have hlevels : Levels.after ⟨item, outer⟩ token = ⟨some token.text, outer⟩ := by
      rw [Levels.after_of_explain? _ hexplain, if_neg hkind]
    rw [Token.list, fragmentsFrom_cons_of_explain? hitem, hlevels, ihafter outer hdepth]
    have hlast : lastText (f :: after.fragments) =
        (lastText after.fragments).or (some token.text) := by
      rw [lastText_cons, String.toList_ofList]
    rw [hlast, Option.or_assoc, Option.some_or]
    subst hdepth
    rfl

theorem descendFrom_eq (offset : Nat) (cs : List Char) :
    descendFrom offset cs = fragmentsFrom {} offset (Token.list cs) := by
  fun_induction descendFrom offset cs with
  | case1 => simp [Token.list, fragmentsFrom]
  | case2 offset c cs outermost ih =>
    rw [ih]
    exact (fragmentsFrom_eq_level none [] offset (c :: cs)).symm

/-- The scan by recursive descent finds the fragments that the scan with open levels does. -/
theorem descend_eq_explainPattern (pattern : String) :
    descend pattern = explainPattern pattern := descendFrom_eq 0 pattern.toList

end PatternProse
