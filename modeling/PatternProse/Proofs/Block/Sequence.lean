import PatternProse.Proofs.Block.Validity
import PatternProse.Proofs.Regex.Positions

/-!
# Blocks in sequence

The patterns of blocks are written one after the other. This matches what the blocks match one
after the other as long as no block lets a bar stand outside of a group: such a bar takes all that
stands before it, and all that stands behind it, into its alternatives.

## Main definitions

* `Block.hasOuterBar` — whether a bar stands outside of a group in the pattern of a block.
* `Regex.Reading.IsUniform` — readings that depend on the groups before them in the numbers of
  their own groups only.

The main statement is `Block.map_span_findMatches_group`: a capture group around each block does
not change where a pattern matches.
-/

namespace PatternProse

namespace Regex

/-! ### Sequences of nodes -/

namespace Node

variable (text : Array Char)

theorem run_sequence_cons (n : Node) (ns : List Node) (st : MatchState) (k : Continuation) :
    (sequence (n :: ns)).run text false st k =
      n.run text false st fun st => (sequence ns).run text false st k := by
  cases ns <;> rfl

theorem run_sequence_append (ns ms : List Node) (st : MatchState) (k : Continuation) :
    (sequence (ns ++ ms)).run text false st k =
      (sequence ns).run text false st fun st => (sequence ms).run text false st k := by
  induction ns generalizing st with
  | nil => rfl
  | cons n ns ih =>
    rw [List.cons_append, run_sequence_cons, run_sequence_cons]
    congr 1
    funext st
    exact ih st

/-- A capture group around a node does not change where the node ends. -/
theorem agree_group {n m : Node} {back : Bool}
    (h : Runs.Agree (n.run text back) (m.run text back)) (i : Nat) :
    Runs.Agree (n.run text back) ((group i m).run text back) := by
  intro st st' k k' hst hk
  rw [run]
  exact h st st' _ _ hst fun s s' hs => hk _ _ hs

/-- Sequences whose parts end at the same positions do so themselves. -/
theorem agree_sequence_append {ns ns' ms ms' : List Node}
    (hn : Runs.Agree ((sequence ns).run text false) ((sequence ns').run text false))
    (hm : Runs.Agree ((sequence ms).run text false) ((sequence ms').run text false)) :
    Runs.Agree ((sequence (ns ++ ms)).run text false) ((sequence (ns' ++ ms')).run text false) := by
  intro st st' k k' hst hk
  rw [run_sequence_append, run_sequence_append]
  exact hn st st' _ _ hst fun s s' hs => hm s s' k k' hs hk

theorem similar_sequence {ns ms : List Node} (h : List.Forall₂ Similar ns ms) :
    Similar (sequence ns) (sequence ms) := by
  induction h with
  | nil => exact .empty
  | cons h hs ih =>
    cases hs with
    | nil => exact h
    | cons => exact .seq h ih

theorem similar_ofAlternatives {ns ms : List Node} (h : List.Forall₂ Similar ns ms) :
    Similar (ofAlternatives ns) (ofAlternatives ms) := by
  induction h with
  | nil => exact .empty
  | cons h hs ih =>
    cases hs with
    | nil => exact h
    | cons => exact .alt h ih

theorem similar_ofBranches {ts us : List (List Node)}
    (h : List.Forall₂ (List.Forall₂ Similar) ts us) : Similar (ofBranches ts) (ofBranches us) :=
  similar_ofAlternatives (List.forall₂_map_left_iff.2 (List.forall₂_map_right_iff.2
    (h.imp fun _ _ => similar_sequence)))

end Node

/-! ### Readings -/

namespace Reading

/-- The groups before a text matter for the numbers of its groups only. -/
def IsUniform (r : Reading) : Prop :=
  ∀ flags i j, List.Forall₂ (List.Forall₂ Node.Similar) (r.branches flags i) (r.branches flags j)

theorem forall₂_joinBranches {R : Node → Node → Prop} {ts ts' us us' : List (List Node)}
    (ht : List.Forall₂ (List.Forall₂ R) ts ts') (hu : List.Forall₂ (List.Forall₂ R) us us') :
    List.Forall₂ (List.Forall₂ R) (joinBranches ts us) (joinBranches ts' us') := by
  induction ht with
  | nil => exact hu
  | cons h hs ih =>
    cases hs with
    | nil =>
      cases hu with
      | nil => exact .cons h .nil
      | cons hu hus => exact .cons (List.rel_append h hu) hus
    | cons => exact .cons h ih

theorem isUniform_nil : nil.IsUniform := fun _ _ _ => .cons .nil .nil

theorem isUniform_bar : bar.IsUniform := fun _ _ _ => .cons .nil (.cons .nil .nil)

theorem isUniform_term {n : Flags → Node} (h : ∀ flags, (n flags).Similar (n flags)) :
    (term n).IsUniform := fun flags _ _ => .cons (.cons (h flags) .nil) .nil

variable {r s : Reading}

theorem IsUniform.append (hr : r.IsUniform) (hs : s.IsUniform) : (r.append s).IsUniform :=
  fun flags _ _ => forall₂_joinBranches (hr flags _ _) (hs flags _ _)

theorem isUniform_concat {rs : List Reading} (h : ∀ r ∈ rs, r.IsUniform) :
    (concat rs).IsUniform := by
  induction rs with
  | nil => exact isUniform_nil
  | cons r rs ih =>
    exact (h r (.head _)).append (ih fun s hs => h s (.tail _ hs))

theorem isUniform_alternatives {rs : List Reading} (h : ∀ r ∈ rs, r.IsUniform) :
    (alternatives rs).IsUniform := by
  fun_induction alternatives rs with
  | case1 => exact isUniform_nil
  | case2 r => exact h r (.head _)
  | case3 r s rs ih =>
    exact (h r (.head _)).append (isUniform_bar.append (ih fun t ht => h t (.tail _ ht)))

theorem IsUniform.similar_node (h : r.IsUniform) (flags : Flags) (i j : Nat) :
    (r.node flags i).Similar (r.node flags j) := Node.similar_ofBranches (h flags i j)

theorem IsUniform.enclosed (h : r.IsUniform) (kind : Nat → GroupKind)
    (hkind : ∀ {n m} i j, Node.Similar n m → ((kind i).node n).Similar ((kind j).node m))
    (groups : Nat) : (enclosed kind groups r).IsUniform :=
  fun flags i j => .cons (.cons (hkind i j (h.similar_node flags _ _)) .nil) .nil

theorem IsUniform.quantified (h : r.IsUniform) (repetition : Repetition) :
    (quantified repetition r).IsUniform :=
  fun flags i j => .cons (.cons (.quantified repetition _ _ (h.similar_node flags i j)) .nil) .nil

/-- A text that stands alone. -/
theorem node_append_nil (r : Reading) (flags : Flags) (first : Nat) :
    (r.append nil).node flags first = r.node flags first := by
  have hjoin (ts : List (List Node)) :
      Node.ofBranches (joinBranches ts [[]]) = .ofBranches ts := by
    cases ts with
    | nil => rfl
    | cons t ts =>
      congr 1
      induction ts generalizing t with
      | nil => rw [joinBranches, List.append_nil]
      | cons t' ts ih => rw [joinBranches, ih]
  exact hjoin (r.branches flags first)

/-- No bar stands outside of a group in the text. -/
def IsStraight (r : Reading) : Prop := ∀ flags first, ∃ ts, r.branches flags first = [ts]

theorem IsStraight.append (hr : r.IsStraight) (hs : s.IsStraight) : (r.append s).IsStraight := by
  intro flags first
  obtain ⟨ts, ht⟩ := hr flags first
  obtain ⟨us, hu⟩ := hs flags (first + r.groups)
  exact ⟨ts ++ us, by rw [branches_append, ht, hu, joinBranches]⟩

theorem isStraight_concat {rs : List Reading} (h : ∀ r ∈ rs, r.IsStraight) :
    (concat rs).IsStraight := by
  induction rs with
  | nil => exact fun _ _ => ⟨[], rfl⟩
  | cons r rs ih =>
    exact (h r (.head _)).append (ih fun s hs => h s (.tail _ hs))

/-- Texts without outer bars match one after the other. -/
theorem agree_append {r r' s s' : Reading} (hr : r.IsStraight) (hr' : r'.IsStraight)
    (hs : s.IsStraight) (hs' : s'.IsStraight) {text : Array Char} {flags : Flags} {i j : Nat}
    (hfirst : Runs.Agree ((r.node flags i).run text false) ((r'.node flags j).run text false))
    (hsecond : Runs.Agree ((s.node flags (i + r.groups)).run text false)
      ((s'.node flags (j + r'.groups)).run text false)) :
    Runs.Agree (((r.append s).node flags i).run text false)
      (((r'.append s').node flags j).run text false) := by
  obtain ⟨ts, ht⟩ := hr flags i
  obtain ⟨ts', ht'⟩ := hr' flags j
  obtain ⟨us, hu⟩ := hs flags (i + r.groups)
  obtain ⟨us', hu'⟩ := hs' flags (j + r'.groups)
  rw [node, ht] at hfirst
  rw [node, ht'] at hfirst
  rw [node, hu] at hsecond
  rw [node, hu'] at hsecond
  rw [node, node, branches_append, branches_append, ht, ht', hu, hu']
  exact Node.agree_sequence_append text hfirst hsecond

end Reading

end Regex

open Regex

namespace Block

/-! ### Blocks -/

mutual

/-- Whether a bar stands outside of a group in the pattern of a block. -/
def hasOuterBar : Block → Bool
  | alternatives bs => hasOuterBarAmong bs
  | _ => false

/-- Whether a bar stands outside of a group in the pattern of some alternatives. -/
def hasOuterBarAmong : List Block → Bool
  | [] => true
  | [b] => b.hasOuterBar
  | _ :: _ :: _ => true

end

theorem isUniform_readingOfChars (cs : List Char) : (readingOfChars cs).IsUniform := by
  intro flags i j
  refine .cons (List.forall₂_same.2 fun n hn => ?_) .nil
  obtain ⟨c, -, rfl⟩ := List.mem_map.1 hn
  exact .char _ _

theorem similar_node_symbol (flags : Flags) (s : Symbol) :
    (s.node flags).Similar (s.node flags) := by
  cases s <;> first | exact .set _ | exact .assertion _

/-- Nothing that a block is read as refers to a group by its number. -/
theorem isUniform_reading (b : Block) : b.reading.IsUniform := by
  induction b with
  | literal text => exact isUniform_readingOfChars text.toList
  | symbol s => exact Reading.isUniform_term fun flags => similar_node_symbol flags s
  | repetition q body ih =>
    rw [reading_repetition, repeatedReading]
    refine Reading.IsUniform.quantified ?_ _
    split
    · exact Reading.isUniform_term fun flags => similar_node_symbol flags .anyChar
    · cases body with
      | none => exact Reading.isUniform_nil
      | some b => exact ih b rfl
  | group bs ih =>
    rw [reading, readings_eq_map]
    exact (Reading.isUniform_concat (List.forall_mem_map.2 ih)).enclosed .capture
      (fun i j h => .group i j h) 1
  | alternatives bs ih =>
    rw [reading]
    split
    · exact Reading.isUniform_alternatives (by simp [isUniform_readingOfChars])
    · rw [readings_eq_map]
      exact Reading.isUniform_alternatives (List.forall_mem_map.2 ih)
  | characterClass => exact Reading.isUniform_term fun flags => .set _
  | lookaround k bs ih =>
    rw [reading, readings_eq_map]
    refine Reading.IsUniform.enclosed ?_ (fun _ => .look k) (fun _ _ h => .look k h) 0
    split
    · exact isUniform_readingOfChars lookaroundStandIn
    · exact Reading.isUniform_concat (List.forall_mem_map.2 ih)

theorem isStraight_reading {b : Block} (h : b.hasOuterBar = false) : b.reading.IsStraight := by
  induction b with
  | repetition q body =>
    rw [reading_repetition]
    exact fun _ _ => ⟨_, rfl⟩
  | alternatives bs ih =>
    match bs with
    | [] => cases h
    | [b] => exact ih b (.head _) h
    | _ :: _ :: _ => cases h
  | _ => exact fun _ _ => ⟨_, rfl⟩

/-- A block matches what a capture group around it does. -/
theorem agree_node_group (b : Block) (text : Array Char) (flags : Flags) (i j : Nat) :
    Runs.Agree ((b.reading.node flags i).run text false)
      (((group [b]).reading.node flags j).run text false) := by
  have hgroup : (group [b]).reading.node flags j = .group j (b.reading.node flags (j + 1)) :=
    congrArg (Regex.Node.group j) (Reading.node_append_nil b.reading flags (j + 1))
  rw [hgroup]
  have hsimilar := (isUniform_reading b).similar_node flags i (j + 1)
  exact Regex.Node.agree_group text (hsimilar.agree text false) j

/-- Each block in a capture group of its own. -/
def groupEach (bs : List Block) : List Block := bs.map fun b => group [b]

theorem agree_node_groupEach {bs : List Block} (h : ∀ b ∈ bs, b.hasOuterBar = false)
    (text : Array Char) (flags : Flags) (i j : Nat) :
    Runs.Agree (((Reading.concat (readings bs)).node flags i).run text false)
      (((Reading.concat (readings (groupEach bs))).node flags j).run text false) := by
  induction bs generalizing i j with
  | nil => exact fun st st' k k' hst hk => hk st st' hst
  | cons b bs ih =>
    have hbs : ∀ b ∈ bs, b.hasOuterBar = false := fun c hc => h c (.tail _ hc)
    have hstraight : (Reading.concat (readings bs)).IsStraight := by
      rw [readings_eq_map]
      exact Reading.isStraight_concat
        (List.forall_mem_map.2 fun c hc => isStraight_reading (hbs c hc))
    have hstraight' : (Reading.concat (readings (groupEach bs))).IsStraight := by
      rw [readings_eq_map, groupEach, List.map_map]
      exact Reading.isStraight_concat (List.forall_mem_map.2 fun _ _ => isStraight_reading rfl)
    exact Reading.agree_append (isStraight_reading (h b (.head _))) (isStraight_reading rfl)
      hstraight hstraight' (agree_node_group b text flags i j) (ih hbs _ _)

theorem isSound_groupEach (bs : List Block) : (groupEach bs).all isSound = bs.all isSound := by
  rw [groupEach, List.all_map]
  congr 1
  funext b
  exact Bool.and_true _

/-- Where the matches of a list of blocks are, if its pattern is valid. -/
theorem map_span_findMatches_formatAll (bs : List Block) (flags text : String) :
    (findMatches (formatAll bs) flags text).toOption.map (·.map Match.span) =
      if bs.all isSound then
        some (((Regex.matchesFrom
          ⟨(Reading.concat (readings bs)).node (Flags.ofString flags) 0,
            List.replicate (Reading.concat (readings bs)).groups none⟩
          (Subject.ofString text).chars (Flag.global.isIn flags) (Flag.sticky.isIn flags) 0 0).map
          Regex.Found.place).map fun (start, stop) =>
            ⟨(Subject.ofString text).offset start, (Subject.ofString text).offset stop⟩)
      else none := by
  cases hsound : bs.all isSound with
  | false =>
    have hvalid := isValid_formatAll bs flags
    rw [hsound, isValid, validate] at hvalid
    rw [findMatches]
    cases hcompile : compile (formatAll bs) flags with
    | error e => rfl
    | ok re => rw [hcompile] at hvalid; cases hvalid
  | true =>
    rw [findMatches, compile, ofPattern_formatAll hsound, if_pos rfl]
    simp only [Except.toOption, Option.map_some, List.map_map]
    rfl

/-- A capture group around each block does not change where the pattern of the blocks matches, if
no bar of one block can take in another block. -/
theorem map_span_findMatches_groupEach {bs : List Block}
    (h : bs.length ≤ 1 ∨ ∀ b ∈ bs, b.hasOuterBar = false) (flags text : String) :
    (findMatches (formatAll bs) flags text).toOption.map (·.map Match.span) =
      (findMatches (formatAll (groupEach bs)) flags text).toOption.map (·.map Match.span) := by
  have hagree : ∀ text flags,
      Runs.Agree (((Reading.concat (readings bs)).node flags 0).run text false)
        (((Reading.concat (readings (groupEach bs))).node flags 0).run text false) := by
    intro text flags
    obtain hlength | hbar := h
    · match bs with
      | [] => exact fun st st' k k' hst hk => hk st st' hst
      | [b] =>
        have hsingle : ∀ b : Block, (Reading.concat (readings [b])).node flags 0 =
            b.reading.node flags 0 := fun b => Reading.node_append_nil b.reading flags 0
        rw [groupEach, List.map_singleton, hsingle, hsingle]
        exact agree_node_group b text flags 0 0
    · exact agree_node_groupEach hbar text flags 0 0
  rw [map_span_findMatches_formatAll, map_span_findMatches_formatAll, isSound_groupEach]
  congr 3
  refine map_place_matchesFrom (fun i => ?_) _ _ 0 0
  exact hagree _ _ ⟨i, _⟩ ⟨i, _⟩ some some rfl fun st st' hst => congrArg some hst

theorem map_span_findMatches_groupEach_alternatives :
    (∀ b ∈ [literal "c", group [alternatives [literal "a", literal "b"]]], b.hasOuterBar = false) ∧
      (findMatches (formatAll [literal "c", group [alternatives [literal "a", literal "b"]]])
          "g" "cacb").toOption.map (·.map Match.span) =
        (findMatches (formatAll (groupEach
          [literal "c", group [alternatives [literal "a", literal "b"]]]))
          "g" "cacb").toOption.map (·.map Match.span) := by
  have h : ∀ b ∈ [literal "c", group [alternatives [literal "a", literal "b"]]],
      b.hasOuterBar = false := by
    intro b hb
    simp only [List.mem_cons, List.not_mem_nil, or_false] at hb
    rcases hb with rfl | rfl <;> rfl
  exact ⟨h, map_span_findMatches_groupEach (.inr h) "g" "cacb"⟩

end Block

end PatternProse
