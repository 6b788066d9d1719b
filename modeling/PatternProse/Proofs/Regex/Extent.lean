import PatternProse.Proofs.Match
import PatternProse.Proofs.Regex.Positions
import PatternProse.Proofs.Regex.Running

/-!
# Where matches lie

No move of a run leaves the text, neither with its position nor with what the groups hold, and a
run from left to right ends behind the position where it starts. A search goes on behind the match
that it has found, and after an empty one at least one character further on. So the matches of a
pattern lie in the text one behind the other.

## Main definitions

* `Regex.MatchState.IsWithin` — states whose positions lie in a text of some size.
* `MatchesIn` — matches that lie in a text one behind the other.

The main statement is `matchesIn_findMatches`.
-/

namespace PatternProse

namespace Regex

/-! ### Moves -/

namespace MatchState

variable {text : Array Char} {back : Bool} {st st' : MatchState}

theorem read?_cases {p : Nat → Bool} (h : st.read? text back p = some st') :
    st'.captures = st.captures ∧ (back = true ∧ st'.position + 1 = st.position ∨
      back = false ∧ st'.position = st.position + 1 ∧ st.position < text.size) := by
  unfold read? at h
  grind

theorem readCopy?_cases {casing : Casing} {held : Nat × Nat}
    (h : st.readCopy? text back casing held = some st') :
    st'.captures = st.captures ∧ (back = true ∧ st'.position ≤ st.position ∨
      back = false ∧ st.position ≤ st'.position ∧
        (st.position ≤ text.size → st'.position ≤ text.size)) := by
  unfold readCopy? at h
  grind [remaining]

theorem mem_captures_of_clear {groups : GroupRange} {held : Nat × Nat}
    (h : some held ∈ (st.clear groups).captures) : some held ∈ st.captures := by
  unfold clear at h
  split at h
  · obtain ⟨i, hi, hheld⟩ := Array.mem_mapIdx.1 h
    split at hheld
    · cases hheld
    · rw [← hheld]
      exact Array.getElem_mem hi
  · exact h

/-- The position and what the groups hold lie in a text of some size. -/
structure IsWithin (size : Nat) (st : MatchState) : Prop where
  position_le : st.position ≤ size
  held_le : ∀ held, some held ∈ st.captures → held.1 ≤ held.2 ∧ held.2 ≤ size

theorem IsWithin.of_captures_eq {size : Nat} (h : st.IsWithin size)
    (hcaptures : st'.captures = st.captures) (hposition : st'.position ≤ size) :
    st'.IsWithin size where
  position_le := hposition
  held_le := by
    rw [hcaptures]
    exact h.held_le

end MatchState

/-- No move leaves the text. -/
theorem isInvariant_isWithin (text : Array Char) :
    IsInvariant text (MatchState.IsWithin text.size) where
  read := by
    intro st st' back p hst h
    obtain ⟨hcaptures, hposition⟩ := MatchState.read?_cases h
    have := hst.position_le
    exact hst.of_captures_eq hcaptures (by omega)
  copy := by
    intro st st' back casing index held hst _ h
    obtain ⟨hcaptures, hposition⟩ := MatchState.readCopy?_cases h
    have := hst.position_le
    exact hst.of_captures_eq hcaptures (by omega)
  capture := by
    intro index st st' hst hst'
    refine ⟨hst'.position_le, fun held hheld => ?_⟩
    have := hst.position_le
    have := hst'.position_le
    obtain hheld | hheld := Array.mem_or_eq_of_mem_setIfInBounds hheld
    · exact hst'.held_le held hheld
    · cases hheld
      dsimp only
      omega
  clear := by
    intro groups st hst
    refine ⟨?_, fun held hheld => hst.held_le held (MatchState.mem_captures_of_clear hheld)⟩
    rw [position_clear]
    exact hst.position_le
  restore := by
    intro st st' hst hst'
    exact hst'.of_captures_eq rfl hst.position_le

/-- A run from left to right does not move back. What an assertion does inside does not matter, as
it is left where it was entered. -/
theorem Moves.le_position {text : Array Char} {st st' : MatchState}
    (h : Moves text false st st') : st.position ≤ st'.position := by
  generalize hback : false = back at h
  induction h with
  | refl => exact Nat.le_refl _
  | trans _ _ ih ih' => exact Nat.le_trans (ih hback) (ih' hback)
  | read hread =>
    have := MatchState.read?_cases hread
    grind
  | copy _ hcopy =>
    have := MatchState.readCopy?_cases hcopy
    grind
  | capture _ _ ih => exact ih hback
  | clear _ groups st => exact Nat.le_of_eq (position_clear st groups).symm
  | look => exact Nat.le_refl _

/-! ### Searches -/

variable {re : Regex} {text : Array Char}

theorem extent_of_matchAt? {start : Nat} {final : MatchState}
    (h : re.matchAt? text start = some final) (hstart : start ≤ text.size) :
    start ≤ final.position ∧ final.IsWithin text.size := by
  have hmoves := moves_of_matchAt? h
  refine ⟨hmoves.le_position, (isInvariant_isWithin text).of_moves hmoves ⟨hstart, ?_⟩⟩
  intro held hheld
  cases (Array.mem_replicate.1 hheld).2

/-- A match that a search finds lies in the text. -/
theorem extent_of_mem_matchesFrom {global sticky : Bool} {expected start : Nat} {f : Found}
    (h : f ∈ re.matchesFrom text global sticky expected start) :
    f.start ≤ f.final.position ∧ f.final.IsWithin text.size := by
  obtain ⟨hmatch, -, hsize⟩ := matchAt?_of_mem_matchesFrom h
  exact extent_of_matchAt? hmatch hsize

/-- A search goes on behind each match. -/
theorem pairwise_matchesFrom (re : Regex) (text : Array Char) (global sticky : Bool)
    (expected start : Nat) :
    (re.matchesFrom text global sticky expected start).Pairwise fun f g =>
      f.final.position ≤ g.start ∧ f.start < g.start := by
  fun_induction matchesFrom re text global sticky expected start with
  | case1 => exact .nil
  | case2 => exact .nil
  | case3 expected start f hf _ _ ih =>
    refine .cons (fun g hg => ?_) ih
    obtain ⟨-, hresume, -⟩ := matchAt?_of_mem_matchesFrom hg
    simp only [Found.resume] at hresume
    omega
  | case4 => exact List.pairwise_singleton _ _

/-- There is at most one match for each position that is left. -/
theorem length_matchesFrom_le (re : Regex) (text : Array Char) (global sticky : Bool)
    (expected start : Nat) :
    (re.matchesFrom text global sticky expected start).length ≤ text.size + 1 - start := by
  fun_induction matchesFrom re text global sticky expected start with
  | case1 => exact Nat.zero_le _
  | case2 => exact Nat.zero_le _
  | case3 expected start f hf _ _ ih =>
    have hstart := start_nextMatch? hf
    simp only [Found.resume] at ih
    simp only [List.length_cons, Found.resume]
    omega
  | case4 expected start f hf =>
    have hstart := start_nextMatch? hf
    simp only [List.length_singleton]
    omega

/-- Byte offsets tell as well as positions whether a match starts where one is expected. -/
theorem start_toMatch_eq_iff {re : Regex} {text : String} {start expected : Nat} {f : Found}
    (hf : re.nextMatch? (Subject.ofString text).chars start = some f)
    (hexpected : expected ≤ text.length) :
    (f.toMatch (Subject.ofString text)).span.start = (Subject.ofString text).offset expected ↔
      f.start = expected := by
  have hstart : f.start ≤ text.length := by
    rw [← Subject.size_chars_ofString]
    exact (start_nextMatch? hf).2
  exact Subject.offset_inj hstart hexpected

end Regex

/-! ### Matches in a text -/

/-- The matches lie in the text one behind the other. -/
structure MatchesIn (text : String) (ms : List Match) : Prop where
  inBounds : ∀ m ∈ ms, m.span.start ≤ m.span.stop ∧ m.span.stop ≤ text.utf8ByteSize
  /-- The spans start and stop between two characters. -/
  aligned : ∀ m ∈ ms, String.Pos.Raw.IsValid text ⟨m.span.start⟩ ∧
    String.Pos.Raw.IsValid text ⟨m.span.stop⟩
  text_eq : ∀ m ∈ ms, m.span.slice? text = some m.text
  /-- No two matches overlap, and each starts behind the start of those before it. -/
  ordered : ms.Pairwise fun m n => m.span.stop ≤ n.span.start ∧ m.span.start < n.span.start
  length_le : ms.length ≤ text.length + 1
  /-- What a group holds stands somewhere in the text. -/
  groups : ∀ m ∈ ms, ∀ group, some group ∈ m.groups →
    ∃ span : Span, span.slice? text = some group

/-- The matches of a search in a text, reported in bytes, lie in the text one behind the other. -/
theorem matchesIn_map_toMatch (re : Regex) (text : String) (global sticky : Bool) :
    MatchesIn text ((re.matchesFrom (Subject.ofString text).chars global sticky 0 0).map
      (·.toMatch (Subject.ofString text))) := by
  have hsize := Subject.size_chars_ofString text
  have hextent {f : Regex.Found}
      (hf : f ∈ re.matchesFrom (Subject.ofString text).chars global sticky 0 0) :
      f.start ≤ f.final.position ∧ f.final.IsWithin text.length := by
    rw [← hsize]
    exact Regex.extent_of_mem_matchesFrom hf
  refine ⟨?inBounds, ?aligned, ?text_eq, ?ordered, ?length_le, ?groups⟩
  case inBounds =>
    refine List.forall_mem_map.2 fun f hf => ?_
    obtain ⟨hle, hwithin⟩ := hextent hf
    exact ⟨Subject.offset_le_offset hle hwithin.position_le,
      Subject.offset_le_utf8ByteSize hwithin.position_le⟩
  case aligned =>
    refine List.forall_mem_map.2 fun f hf => ?_
    obtain ⟨hle, hwithin⟩ := hextent hf
    exact ⟨Subject.isValid_offset (Nat.le_trans hle hwithin.position_le),
      Subject.isValid_offset hwithin.position_le⟩
  case text_eq =>
    refine List.forall_mem_map.2 fun f hf => ?_
    obtain ⟨hle, hwithin⟩ := hextent hf
    exact Subject.slice?_offset hle hwithin.position_le
  case ordered =>
    refine List.pairwise_map.2 ?_
    refine (Regex.pairwise_matchesFrom re _ global sticky 0 0).imp_of_mem ?_
    intro f g hf hg hfg
    obtain ⟨hle, hwithin⟩ := hextent hg
    have hstart := Nat.le_trans hle hwithin.position_le
    exact ⟨Subject.offset_le_offset hfg.1 hstart, Subject.offset_lt_offset hfg.2 hstart⟩
  case length_le =>
    have hlength := Regex.length_matchesFrom_le re (Subject.ofString text).chars global sticky 0 0
    rw [hsize] at hlength
    simpa using hlength
  case groups =>
    refine List.forall_mem_map.2 fun f hf => ?_
    intro group hgroup
    obtain ⟨held, hheld, hsome⟩ := List.mem_map.1 hgroup
    obtain ⟨⟨start, stop⟩, rfl, rfl⟩ := Option.map_eq_some_iff.1 hsome
    obtain ⟨hle, hstop⟩ := (hextent hf).2.held_le _ (Array.mem_toList_iff.1 hheld)
    exact ⟨_, Subject.slice?_offset hle hstop⟩

/-- The matches of a valid pattern lie in the text one behind the other. -/
theorem matchesIn_findMatches {pattern flags : String} (h : isValid pattern flags = true)
    (text : String) : ∃ ms, findMatches pattern flags text = .ok ms ∧ MatchesIn text ms := by
  obtain ⟨re, hre⟩ := isValid_iff.1 h
  exact ⟨_, findMatches_of_compile hre text, matchesIn_map_toMatch re text _ _⟩

theorem matchesIn_findMatches_lookbehind :
    isValid "(?<=(.)\\1|^)b*" "gi" = true ∧
      ∃ ms, findMatches "(?<=(.)\\1|^)b*" "gi" "Bbéé🙂🙂b" = .ok ms ∧
        MatchesIn "Bbéé🙂🙂b" ms := by
  have h : isValid "(?<=(.)\\1|^)b*" "gi" = true := by decide +kernel
  exact ⟨h, matchesIn_findMatches h "Bbéé🙂🙂b"⟩

end PatternProse
