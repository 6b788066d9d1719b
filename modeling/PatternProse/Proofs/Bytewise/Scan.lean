import PatternProse.Proofs.Bytewise.Tokens
import PatternProse.Proofs.Scan.Descent

/-!
# Scanning by byte offsets

The scan by recursive descent also goes through the pattern by byte offsets alone. A fragment cuts
its text out of the pattern, and so does a quantifier the item that it repeats. A level and the scan
of all levels stop with a fault where a turn does not move on.

## Main definitions

* `Bytewise.scanLevel` — the fragments of one level, and where it ends.
* `Bytewise.explainPattern` — the fragments of a pattern.

The main statement is `Bytewise.explainPattern_eq`: there is no fault, whatever the pattern, and the
fragments are those of the scan with open levels.
-/

namespace PatternProse

namespace Bytewise

section Scanners

variable (source : String)

/-- The text of the last of some fragments, as its span cuts it out. -/
def readItem (fs : List Fragment) : Except Fault (Option (List Char)) := do
  match fs.getLast? with
  | none => return none
  | some f =>
    let text ← slice source f.span
    return some text.toList

/-- What the token at an offset becomes on a level that has some fragments, and the offset behind
it. The item is cut out whether or not the token repeats it. -/
def readFragment (depth : Nat) (fs : List Fragment) (c : Char) (offset : Nat) :
    Except Fault (Option Fragment × Nat) := do
  let item ← readItem source fs
  let (token, next) ← readToken source c offset
  match token.explain? item with
  | none => return (none, next)
  | some (kind, sentence) =>
    let text ← slice source ⟨offset, next⟩
    return (some ⟨text, sentence, depth, ⟨offset, next⟩, kind⟩, next)

/-- The fragments of a level, those of the levels inside of it included, and where it ends. -/
def scanLevel (depth : Nat) (fs : List Fragment) (offset : Nat) :
    Except Fault (List Fragment × Nat) := do
  match ← peek source offset with
  | none => return (fs, offset)
  | some c =>
    match ← readFragment source depth fs c offset with
    | (none, next) => return (fs, next)
    | (some f, next) =>
      let ⟨next, _⟩ ← moved source offset next
      if f.kind.isContainer then
        let (inside, stop) ← scanLevel (depth + 1) [] next
        let ⟨behind, _⟩ ← moved source offset stop
        scanLevel depth (fs ++ f :: inside) behind
      else
        scanLevel depth (fs ++ [f]) next
termination_by source.utf8ByteSize - offset

/-- The fragments of the levels that follow one another from an offset on. -/
def scanLevels (fs : List Fragment) (offset : Nat) : Except Fault (List Fragment) := do
  if offset < source.utf8ByteSize then
    let (level, next) ← scanLevel source 0 [] offset
    let ⟨next, _⟩ ← moved source offset next
    scanLevels (fs ++ level) next
  else
    return fs
termination_by source.utf8ByteSize - offset

/-- The fragments of a pattern. -/
def explainPattern : Except Fault (List Fragment) := scanLevels source [] 0

end Scanners

variable {source : String} {offset : Nat} {cs : List Char}

/-- The texts of some fragments are what their spans cut out. -/
def Sliced (source : String) (fs : List Fragment) : Prop :=
  ∀ f ∈ fs, slice source f.span = .ok f.sourceText

theorem At.stop_level (h : At source offset cs) (depth : Nat) (item : Option (List Char)) :
    At source (level depth offset item cs).stop (level depth offset item cs).rest := by
  obtain ⟨text, hcs, hstop⟩ := level_append depth offset item cs
  rw [hstop]
  rw [hcs] at h
  exact h.append

theorem At.text_scan {c : Char} (h : At source offset (c :: cs)) :
    At source offset ((Token.scan c cs).1.text ++ (Token.scan c cs).2) := by
  rwa [Token.text_append_scan]

theorem sliced_level (h : At source offset cs) (depth : Nat) (item : Option (List Char)) :
    Sliced source (level depth offset item cs).fragments := by
  fun_induction level depth offset item cs with
  | case1 => exact List.forall_mem_nil _
  | case2 => exact List.forall_mem_nil _
  | case3 depth offset item c cs token rest hrest stop kind sentence hexplain f hkind inside
      hinside after ihinside _ ihafter _ =>
    have hinside := h.text_scan.append
    refine List.forall_mem_cons.2 ⟨h.text_scan.slice_eq, List.forall_mem_append.2 ⟨?_, ?_⟩⟩
    · exact ihinside hinside
    · exact ihafter (hinside.stop_level _ _)
  | case4 depth offset item c cs token rest hrest stop kind sentence hexplain f hkind after
      ihafter _ =>
    exact List.forall_mem_cons.2 ⟨h.text_scan.slice_eq, ihafter h.text_scan.append⟩

theorem readItem_eq {fs : List Fragment} (h : Sliced source fs) :
    readItem source fs = .ok (lastText fs) := by
  unfold readItem lastText
  cases hlast : fs.getLast? with
  | none => rfl
  | some f =>
    have hf := h f (List.mem_of_getLast? hlast)
    simp [hf]

section Fragments

variable {c : Char} {fs : List Fragment} {item : Option (List Char)}

theorem readFragment_close (h : At source offset (c :: cs)) (hfs : Sliced source fs)
    (hitem : lastText fs = item) (hexplain : (Token.scan c cs).1.explain? item = none)
    (depth : Nat) :
    readFragment source depth fs c offset =
      .ok (none, offset + utf8Length (Token.scan c cs).1.text) := by
  rw [readFragment, readItem_eq hfs, ok_bind, readToken_eq h, ok_bind, hitem]
  simp [hexplain]

theorem readFragment_some {kind : FragmentKind} {sentence : String}
    (h : At source offset (c :: cs)) (hfs : Sliced source fs) (hitem : lastText fs = item)
    (hexplain : (Token.scan c cs).1.explain? item = some (kind, sentence)) (depth : Nat) :
    readFragment source depth fs c offset =
      .ok (some ⟨String.ofList (Token.scan c cs).1.text, sentence, depth,
          ⟨offset, offset + utf8Length (Token.scan c cs).1.text⟩, kind⟩,
        offset + utf8Length (Token.scan c cs).1.text) := by
  rw [readFragment, readItem_eq hfs, ok_bind, readToken_eq h, ok_bind, hitem]
  simp [hexplain, h.text_scan.slice_eq]

end Fragments

/-- The step over a token moves on and stays in the text. -/
theorem At.lt_add_scan {c : Char} (h : At source offset (c :: cs)) :
    offset < offset + utf8Length (Token.scan c cs).1.text ∧
      offset + utf8Length (Token.scan c cs).1.text ≤ source.utf8ByteSize :=
  h.text_scan.lt_add (Token.text_scan_ne_nil c cs)

/-- A level does not end before it starts, nor behind the end of the text. -/
theorem At.le_stop_level (h : At source offset cs) (depth : Nat) (item : Option (List Char)) :
    offset ≤ (level depth offset item cs).stop ∧
      (level depth offset item cs).stop ≤ source.utf8ByteSize := by
  obtain ⟨text, -, hstop⟩ := level_append depth offset item cs
  have hsize := (h.stop_level depth item).utf8ByteSize_eq
  omega

/-- The scan moves on by a level, even by one that is closed at once. -/
theorem At.lt_stop_level {c : Char} (h : At source offset (c :: cs)) (depth : Nat)
    (item : Option (List Char)) :
    offset < (level depth offset item (c :: cs)).stop ∧
      (level depth offset item (c :: cs)).stop ≤ source.utf8ByteSize := by
  obtain ⟨text, hcs, hstop⟩ := level_append depth offset item (c :: cs)
  have htext : text ≠ [] := by
    rintro rfl
    have hlength := (level depth offset item (c :: cs)).length_rest_le
    rw [← List.nil_append (Level.rest _), ← hcs] at hlength
    exact Nat.not_succ_le_self cs.length hlength
  have hpos := utf8Length_pos htext
  have hsize := (h.stop_level depth item).utf8ByteSize_eq
  omega

section Turns

variable {depth next : Nat} {c : Char} {f : Fragment} {fs : List Fragment}

theorem scanLevel_close (h : At source offset (c :: cs))
    (hread : readFragment source depth fs c offset = .ok (none, next)) :
    scanLevel source depth fs offset = .ok (fs, next) := by
  rw [scanLevel, h.peek_eq]
  simp [hread]

theorem scanLevel_again (h : At source offset (c :: cs))
    (hread : readFragment source depth fs c offset = .ok (some f, next))
    (hnext : offset < next ∧ next ≤ source.utf8ByteSize) (hkind : f.kind.isContainer = false) :
    scanLevel source depth fs offset = scanLevel source depth (fs ++ [f]) next := by
  rw [scanLevel, h.peek_eq]
  simp [hread, moved_eq hnext, hkind]

theorem scanLevel_inside {inside : List Fragment} {stop : Nat} (h : At source offset (c :: cs))
    (hread : readFragment source depth fs c offset = .ok (some f, next))
    (hnext : offset < next ∧ next ≤ source.utf8ByteSize) (hkind : f.kind.isContainer = true)
    (hinside : scanLevel source (depth + 1) [] next = .ok (inside, stop))
    (hstop : next ≤ stop ∧ stop ≤ source.utf8ByteSize) :
    scanLevel source depth fs offset = scanLevel source depth (fs ++ f :: inside) stop := by
  have hbehind : offset < stop ∧ stop ≤ source.utf8ByteSize := by omega
  rw [scanLevel, h.peek_eq]
  simp [hread, moved_eq hnext, hkind, hinside, moved_eq hbehind]

end Turns

theorem Sliced.append {fs gs : List Fragment} (hfs : Sliced source fs) (hgs : Sliced source gs) :
    Sliced source (fs ++ gs) := List.forall_mem_append.2 ⟨hfs, hgs⟩

/-- A level that has some fragments is scanned to its end. -/
theorem scanLevel_eq {item : Option (List Char)} {fs : List Fragment} (h : At source offset cs)
    (hfs : Sliced source fs) (hitem : lastText fs = item) (depth : Nat) :
    scanLevel source depth fs offset = .ok (fs ++ (level depth offset item cs).fragments,
      (level depth offset item cs).stop) := by
  -- along the calls of `level`; the fragments so far grow by those that a call finds
  fun_induction level depth offset item cs generalizing fs with
  | case1 =>
    rw [scanLevel, h.peek_eq]
    simp
  | case2 depth offset item c cs token rest hrest stop =>
    next hexplain =>
    rw [scanLevel_close h (readFragment_close h hfs hitem hexplain depth), List.append_nil]
  | case3 depth offset item c cs token rest hrest stop kind sentence =>
    next hexplain f hkind inside hinside after ihinside _ ihafter _ =>
    have hat : At source stop rest := h.text_scan.append
    have hread : readFragment source depth fs c offset = .ok (some f, stop) :=
      readFragment_some h hfs hitem hexplain depth
    have hsliced : Sliced source (f :: inside.fragments) :=
      List.forall_mem_cons.2 ⟨h.text_scan.slice_eq, sliced_level hat _ _⟩
    have hlast : lastText (fs ++ f :: inside.fragments) =
        (lastText inside.fragments).or (some token.text) := by
      rw [lastText_append, lastText_cons, Option.or_assoc, Option.some_or, String.toList_ofList]
    have hinside : scanLevel source (depth + 1) [] stop = .ok (inside.fragments, inside.stop) :=
      ihinside hat (List.forall_mem_nil _) rfl
    rw [scanLevel_inside h hread h.lt_add_scan hkind hinside (hat.le_stop_level _ _),
      ihafter (hat.stop_level _ _) (hfs.append hsliced) hlast, List.append_assoc]
    rfl
  | case4 depth offset item c cs token rest hrest stop kind sentence =>
    next hexplain f hkind after ihafter _ =>
    have hread : readFragment source depth fs c offset = .ok (some f, stop) :=
      readFragment_some h hfs hitem hexplain depth
    have hsliced : Sliced source [f] := List.forall_mem_singleton.2 h.text_scan.slice_eq
    have hlast : lastText (fs ++ [f]) = some token.text := by
      rw [lastText_append, lastText_cons]
      simp [lastText, f]
    rw [scanLevel_again h hread h.lt_add_scan (Bool.eq_false_iff.2 hkind),
      ihafter h.text_scan.append (hfs.append hsliced) hlast, List.append_assoc]
    rfl

theorem scanLevels_eq (h : At source offset cs) (fs : List Fragment) :
    scanLevels source fs offset = .ok (fs ++ descendFrom offset cs) := by
  fun_induction descendFrom offset cs generalizing fs with
  | case1 offset =>
    have hsize := h.utf8ByteSize_eq
    rw [scanLevels, if_neg (by simp at hsize; omega), List.append_nil]
    rfl
  | case2 offset c cs outermost ih =>
    have hlevel : scanLevel source 0 [] offset = .ok (outermost.fragments, outermost.stop) :=
      scanLevel_eq h (List.forall_mem_nil _) rfl 0
    have hstop : offset < outermost.stop ∧ outermost.stop ≤ source.utf8ByteSize :=
      h.lt_stop_level 0 none
    rw [scanLevels, if_pos (by omega), hlevel, ok_bind]
    dsimp only
    rw [moved_eq hstop, ok_bind, ih (h.stop_level 0 none), List.append_assoc]

/-- A pattern is scanned without a fault. -/
theorem explainPattern_eq (pattern : String) :
    explainPattern pattern = .ok (PatternProse.explainPattern pattern) := by
  rw [← descend_eq_explainPattern]
  exact scanLevels_eq (at_zero pattern) []

end Bytewise

end PatternProse
