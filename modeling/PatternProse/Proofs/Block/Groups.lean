import PatternProse.Proofs.Block.Validity
import PatternProse.Proofs.Regex.Running

/-!
# Capture groups of blocks

The capture groups of a pattern of blocks are those that its group blocks stand for. The other
parentheses that blocks are written with capture nothing, and no text of a block makes a group or
hides one.

## Main definitions

* `Block.groupCount` — the number of group blocks in a tree.

The main statement is `Block.length_groups_of_findMatches_formatAll`.
-/

namespace PatternProse

namespace Regex.Reading

theorem groups_append (r s : Reading) : (r.append s).groups = r.groups + s.groups := rfl

/-- The bars between alternatives are no groups. -/
theorem groups_alternatives (rs : List Reading) :
    (alternatives rs).groups = (concat rs).groups := by
  fun_induction alternatives rs with
  | case1 => rfl
  | case2 r => rfl
  | case3 r s rs ih =>
    have hbar : bar.groups = 0 := rfl
    simp only [concat, groups_append, hbar, ih]
    omega

end Regex.Reading

open Regex

namespace Block

mutual

/-- The number of group blocks in a block, itself included. -/
def groupCount : Block → Nat
  | literal _ | symbol _ | characterClass _ _ => 0
  | repetition _ body => groupCountOfBody body
  | group bs => groupCountOfEach bs + 1
  | alternatives bs | lookaround _ bs => groupCountOfEach bs

/-- The number of group blocks in what a repetition holds. -/
def groupCountOfBody : Option Block → Nat
  | none => 0
  | some b => b.groupCount

/-- The number of group blocks in several blocks. -/
def groupCountOfEach : List Block → Nat
  | [] => 0
  | b :: bs => b.groupCount + groupCountOfEach bs

end

theorem Brief.groupCount_eq_zero {b : Block} {cs : List Char} (h : Brief b cs) :
    b.groupCount = 0 := by
  induction h with
  | blank | literal | symbol => simp [groupCount]
  | alternatives _ ih => simp [groupCount, groupCountOfEach, ih]

theorem groupCountOfEach_eq_zero {bs : List Block} (h : bs.flatMap chars = []) :
    groupCountOfEach bs = 0 := by
  induction bs with
  | nil => rfl
  | cons b bs ih =>
    have hbrief : Brief b [] := brief_of_flatMap_eq_nil h (.head _)
    rw [List.flatMap_cons, List.append_eq_nil_iff] at h
    rw [groupCountOfEach, hbrief.groupCount_eq_zero, ih h.2]

theorem groups_concat_readings {bs : List Block}
    (h : ∀ b ∈ bs, b.reading.groups = b.groupCount) :
    (Reading.concat (readings bs)).groups = groupCountOfEach bs := by
  induction bs with
  | nil => rfl
  | cons b bs ih =>
    obtain ⟨hb, hbs⟩ := List.forall_mem_cons.1 h
    rw [readings, Reading.concat, Reading.groups_append, groupCountOfEach, hb, ih hbs]

/-- What a repetition stands before without a body of its own has no groups either. -/
theorem groups_repeatedReading {body : Option Block}
    (h : ∀ b ∈ body, b.reading.groups = b.groupCount) :
    (repeatedReading body).groups = groupCountOfBody body := by
  cases body with
  | none => rfl
  | some b =>
    rw [repeatedReading, charsOfBody, groupCountOfBody]
    split
    · next hempty =>
      have hbrief : Brief b b.chars := by
        apply brief_of_not_isWrapped
        rw [List.isEmpty_iff.1 hempty]
        rfl
      exact hbrief.groupCount_eq_zero.symm
    · exact h b rfl

/-- What a block is read as has a group for each group block in it. -/
theorem groups_reading (b : Block) : b.reading.groups = b.groupCount := by
  induction b with
  | literal text => rfl
  | symbol s => rfl
  | repetition q body ih =>
    rw [reading_repetition]
    exact groups_repeatedReading ih
  | group bs ih =>
    have hgroups : (group bs).reading.groups = 1 + (Reading.concat (readings bs)).groups := by
      rw [reading]
      rfl
    rw [hgroups, groups_concat_readings ih, groupCount, Nat.add_comm]
  | alternatives bs ih =>
    rw [reading, groupCount]
    split
    · next hempty =>
      rw [List.isEmpty_iff.1 hempty]
      rfl
    · rw [Reading.groups_alternatives, groups_concat_readings ih]
  | characterClass negated characters => rfl
  | lookaround k bs ih =>
    rw [reading, groupCount, Reading.enclosed, Nat.zero_add]
    split
    · next hempty => exact (groupCountOfEach_eq_zero (List.isEmpty_iff.1 hempty)).symm
    · exact groups_concat_readings ih

/-- Every match of the pattern of some blocks has a group for each group block in their trees, if
the pattern is valid. -/
theorem length_groups_of_findMatches_formatAll {bs : List Block} {flags : String}
    (h : isValid (formatAll bs) flags = true) (text : String) :
    ∃ ms, findMatches (formatAll bs) flags text = .ok ms ∧
      ∀ m ∈ ms, m.groups.length = groupCountOfEach bs := by
  rw [isValid_formatAll] at h
  have hcompile : compile (formatAll bs) flags =
      .ok ⟨(Reading.concat (readings bs)).node (Flags.ofString flags) 0,
        List.replicate (Reading.concat (readings bs)).groups none⟩ := by
    rw [compile, ofPattern_formatAll h]
  obtain ⟨ms, hms, hgroups⟩ := length_groups_of_findMatches hcompile text
  refine ⟨ms, hms, fun m hm => ?_⟩
  rw [hgroups m hm, List.length_replicate]
  exact groups_concat_readings fun b _ => groups_reading b

theorem length_groups_of_findMatches_formatAll_nested :
    isValid (formatAll
        [repetition .zeroOrOne (some (group [characterClass true "(]", group []]))]) "u" = true ∧
      ∃ ms, findMatches (formatAll
          [repetition .zeroOrOne (some (group [characterClass true "(]", group []]))])
          "u" "ab" = .ok ms ∧
        ∀ m ∈ ms, m.groups.length = groupCountOfEach
          [repetition .zeroOrOne (some (group [characterClass true "(]", group []]))] := by
  have h : isValid (formatAll
      [repetition .zeroOrOne (some (group [characterClass true "(]", group []]))]) "u" = true := by
    rw [isValid_formatAll]
    decide
  exact ⟨h, length_groups_of_findMatches_formatAll h "ab"⟩

example : groupCountOfEach
    [repetition .zeroOrOne (some (group [characterClass true "(]", group []]))] = 2 := by
  decide

end Block

end PatternProse
