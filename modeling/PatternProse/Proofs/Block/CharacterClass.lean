import PatternProse.Proofs.Block.Validity
import PatternProse.Proofs.Regex.Positions

/-!
# What classes of characters match

A class of characters matches a text of one character just if that character is among those that
the block lists, or for a negated class if it is not. Every character of the list stands for
itself, wherever it stands in the list, with one exception: a caret at the front of a list that is
not negated is read as the mark of negation.

## Main definitions

* `Block.admits` — whether a class of characters matches a character.

The main statement is `Block.findMatches_characterClass`.
-/

namespace PatternProse

namespace Regex

theorem ClassItem.contains_point (c d : Char) :
    (ClassItem.point c.toNat).contains d.toNat = (c == d) := by
  have heq : (c.toNat ≤ d.toNat ∧ d.toNat ≤ c.toNat) ↔ c = d := by
    rw [← Nat.le_antisymm_iff, Char.toNat_inj]
  simp [ClassItem.point, ClassItem.contains, Unicode.CodeRange.anyContains,
    Unicode.CodeRange.contains, ← Bool.decide_and, heq, beq_eq_decide]

theorem CharClass.hasItemWith_map_point (cs : List Char) (negated : Bool) (d : Char) :
    (⟨cs.map fun c => .point c.toNat, negated, false⟩ : CharClass).hasItemWith d.toNat =
      cs.contains d := by
  rw [hasItemWith, List.any_map, List.contains_eq_any_beq]
  congr 1
  funext c
  simp [ClassItem.contains_point, Bool.beq_comm]

/-- A class by itself matches a text of one character with that character, or not at all. -/
theorem matchesFrom_set_singleton (k : CharClass) (c : Char) :
    matchesFrom ⟨.set k, []⟩ #[c] false false 0 0 =
      if k.contains c.toNat then [⟨0, ⟨1, #[]⟩⟩] else [] := by
  have hfirst : matchAt? ⟨.set k, []⟩ #[c] 0 =
      if k.contains c.toNat then some ⟨1, #[]⟩ else none := by
    simp only [matchAt?, Node.run, MatchState.read?]
    cases h : k.contains c.toNat <;> simp [h]
  have hsecond : matchAt? ⟨.set k, []⟩ #[c] 1 = none := rfl
  cases h : k.contains c.toNat with
  | true =>
    have hnext : nextMatch? ⟨.set k, []⟩ #[c] 0 = some ⟨0, ⟨1, #[]⟩⟩ := by
      rw [nextMatch?, hfirst, h]
      rfl
    rw [matchesFrom_some hnext]
    rfl
  | false =>
    have hnext : nextMatch? ⟨.set k, []⟩ #[c] 0 = none := by
      rw [nextMatch?, hfirst, h, nextMatch?, hsecond, nextMatch?]
      rfl
    exact matchesFrom_none hnext false false 0

end Regex

namespace Block

open Regex

/-- Whether a class of characters matches a character. A caret at the front of a class that is not
negated negates it. -/
def admits (negated : Bool) (cs : List Char) (c : Char) : Bool :=
  match negated, cs with
  | false, '^' :: cs => !cs.contains c
  | negated, cs => cs.contains c != negated

theorem contains_ofChars (negated : Bool) (cs : List Char) (c : Char) :
    (CharClass.ofChars negated false cs).contains c.toNat = admits negated cs c := by
  unfold CharClass.ofChars admits
  split <;> simp [CharClass.contains, CharClass.hasItemWith_map_point]

theorem compile_characterClass (negated : Bool) (characters : String) :
    compile (characterClass negated characters).pattern "" =
      .ok ⟨.set (.ofChars negated false (classContents characters)), []⟩ := by
  rw [compile_pattern (by rw [isSound]), reading]
  rfl

/-- A class of characters matches a text of one character as a whole, or else not at all. -/
theorem findMatches_characterClass (negated : Bool) {characters : String} (h : characters ≠ "")
    (c : Char) :
    findMatches (characterClass negated characters).pattern "" (String.singleton c) =
      .ok (if admits negated characters.toList c then
        [⟨⟨0, c.utf8Size⟩, String.singleton c, []⟩] else []) := by
  have hcontents : classContents characters = characters.toList := by
    rw [classContents, if_neg]
    simpa [String.isEmpty_iff] using h
  have htext : (Subject.ofString (String.singleton c)).chars = #[c] := by
    simp [Subject.ofString]
  rw [findMatches, compile_characterClass, hcontents]
  have hflags : Flag.global.isIn "" = false ∧ Flag.sticky.isIn "" = false := ⟨rfl, rfl⟩
  have hmatch : (⟨0, ⟨1, #[]⟩⟩ : Regex.Found).toMatch (Subject.ofString (String.singleton c)) =
      ⟨⟨0, c.utf8Size⟩, String.singleton c, []⟩ := by
    simp [Regex.Found.toMatch, Subject.ofString, Subject.offset, Subject.slice, byteOffsets]
  simp only [htext, hflags, matchesFrom_set_singleton, contains_ofChars]
  split
  · simp [hmatch]
  · rfl

theorem findMatches_characterClass_caret :
    "^a" ≠ "" ∧ findMatches (characterClass false "^a").pattern "" (String.singleton 'b') =
      .ok [⟨⟨0, 1⟩, "b", []⟩] :=
  ⟨by decide, findMatches_characterClass false (by decide) 'b'⟩

end Block

end PatternProse
