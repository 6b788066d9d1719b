import PatternProse.Block.Document
import PatternProse.Proofs.Block.Rendering
import PatternProse.Proofs.Json.Document

/-!
# Documents of blocks read back

The document that a list of blocks is written as is read as the same blocks, unless a block nests
deeper than the reader goes: a document takes an array, an object for each level, and another array
or object for what a block of that level holds.

## Main definitions

* `Block.levels` — how many levels of blocks there are in a block.
* `Block.Fits` — what a reader makes of something that has a number of levels.

The main statement is `Block.ofDocument?_compact_documentOf`.
-/

namespace PatternProse.Block

open Json (Tree Items Members IsPlain)

mutual

/-- The number of levels of a block: its own and those of the blocks that it holds. -/
def levels : Block → Nat
  | repetition _ body => levelsOfBody body + 1
  | group bs => levelsOfEach bs + 1
  | alternatives bs => levelsOfEach bs + 1
  | lookaround _ bs => levelsOfEach bs + 1
  | _ => 1

/-- The number of levels of what a repetition holds. -/
def levelsOfBody : Option Block → Nat
  | none => 0
  | some b => b.levels

/-- The number of levels of the deepest one of several blocks. -/
def levelsOfEach : List Block → Nat
  | [] => 0
  | b :: bs => max b.levels (levelsOfEach bs)

end

theorem levels_eq (b : Block) : b.levels = levelsOfEach b.children + 1 := by
  cases b with
  | repetition q body => cases body <;> simp [levels, levelsOfBody, levelsOfEach, children]
  | _ => simp [levels, children, levelsOfEach]

theorem nodes_eq_map (bs : List Block) : nodes bs = bs.map toNode := by
  induction bs with
  | nil => rfl
  | cons b bs ih => rw [nodes, ih, List.map_cons]

theorem toJsonEach_eq_map (ns : List Node) : Node.toJsonEach ns = ns.map Node.toJson := by
  induction ns with
  | nil => rfl
  | cons n ns ih => rw [Node.toJsonEach, ih, List.map_cons]

/-- The node of a block lists its kind, its parameters and the blocks that it holds. -/
theorem toNode_eq (b : Block) : b.toNode = .mk b.kind.name b.params (nodes b.children) := by
  cases b with
  | repetition q body => cases body <;> simp [toNode, bodyNodes, kind, children, nodes]
  | _ => simp [toNode, kind, params, children, nodes]

/-- Induction over a block and the blocks that it holds, whatever its kind. -/
theorem children_induction {motive : Block → Prop}
    (h : ∀ b, (∀ c ∈ b.children, motive c) → motive b) (b : Block) : motive b := by
  induction b with
  | literal | symbol | characterClass => exact h _ fun c hc => nomatch hc
  | repetition q body ih => exact h _ fun c hc => ih c (Option.mem_toList.1 hc)
  | group bs ih | alternatives bs ih | lookaround k bs ih => exact h _ ih

/-! ### Nodes and blocks -/

theorem countOf?_countParam (n : UInt32) : countOf? (countParam n) = some n := by
  simp [countParam, countOf?, n.toNat_lt_size]

/-- A kind makes the block that it has been taken from out of its settings. -/
theorem ofKind_ofParams (b : Block) : ofKind (.ofParams b.params) b.children b.kind = b := by
  cases b with
  | repetition q body =>
    have hbody : body.toList.head? = body := by cases body <;> rfl
    cases q <;>
      simp [ofKind, Settings.ofParams, params, children, kind, Quantifier.form,
        Quantifier.Form.quantifier, hbody, List.lookup_cons, countOf?_countParam]
  | _ => simp [ofKind, Settings.ofParams, params, children, kind, List.lookup_cons, textOf?]

/-- Only as many blocks are held as the kind has room for. -/
theorem length_children_le {b : Block} (h : b.kind.nesting = .singleChild) :
    b.children.length ≤ 1 := by
  cases b with
  | repetition q body => cases body <;> simp [children]
  | _ => cases h

theorem assemble_eq (b : Block) : assemble b.kind.name (.ofParams b.params) b.children = .ok b := by
  have hroom : (b.kind.nesting == .singleChild && decide (b.children.length > 1)) = false := by
    by_cases h : b.kind.nesting = .singleChild
    · simpa [h] using length_children_le h
    · simp [h]
  rw [assemble, Kind.ofName?_name]
  simp only [hroom, Bool.false_eq_true, if_false, ofKind_ofParams]

theorem ofNodes?_nodes {bs : List Block} (h : ∀ b ∈ bs, ofNode? b.toNode = .ok b) :
    ofNodes? (nodes bs) = .ok bs := by
  induction bs with
  | nil => rfl
  | cons b bs ih =>
    rw [nodes, ofNodes?, h b (.head _), ih fun c hc => h c (.tail _ hc)]
    rfl

/-- The node of a block stands for it. -/
theorem ofNode?_toNode (b : Block) : ofNode? b.toNode = .ok b := by
  induction b using children_induction with
  | h b ih =>
    rw [toNode_eq, ofNode?, ofNodes?_nodes ih]
    exact assemble_eq b

/-! ### Documents -/

/-- The parameters of a block are texts and counts. -/
theorem eq_string_or_eq_countParam {b : Block} {p : String × Json} (h : p ∈ b.params) :
    (∃ text, p.2 = .string text) ∨ ∃ n, p.2 = countParam n := by
  cases b with
  | literal text | characterClass _ text =>
    obtain rfl := List.mem_singleton.1 h
    exact .inl ⟨text, rfl⟩
  | repetition q body =>
    cases q with
    | exactly n | atLeast n =>
      obtain rfl := List.mem_singleton.1 h
      exact .inr ⟨n, rfl⟩
    | between n m =>
      rcases List.mem_cons.1 h with rfl | h
      · exact .inr ⟨m, rfl⟩
      · obtain rfl := List.mem_singleton.1 h
        exact .inr ⟨n, rfl⟩
    | _ => cases h
  | _ => cases h

theorem isPlain_of_mem_params {b : Block} {p : String × Json} (h : p ∈ b.params) :
    IsPlain p.2 := by
  obtain ⟨text, hp⟩ | ⟨n, hp⟩ := eq_string_or_eq_countParam h
  · exact hp ▸ .string text
  · exact hp ▸ .natural (Nat.le_trans (Nat.le_of_lt n.toNat_lt_size) (by decide))

theorem isPlain_toJson (b : Block) : IsPlain b.toNode.toJson := by
  induction b using children_induction with
  | h b ih =>
    have hchildren : IsPlain (.array (Node.toJsonEach (nodes b.children))) := by
      refine .array fun v hv => ?_
      rw [toJsonEach_eq_map, nodes_eq_map, List.map_map] at hv
      obtain ⟨c, hc, rfl⟩ := List.mem_map.1 hv
      exact ih c hc
    rw [toNode_eq, Node.toJson]
    refine .object fun m hm => ?_
    rcases List.mem_append.1 hm with hm | hm
    · rcases List.mem_cons.1 hm with rfl | hm
      · exact .string _
      · split at hm
        · cases hm
        · obtain rfl := List.mem_singleton.1 hm
          exact .object fun p hp => isPlain_of_mem_params hp
    · split at hm
      · cases hm
      · obtain rfl := List.mem_singleton.1 hm
        exact hchildren

theorem isPlain_documentOf (bs : List Block) : IsPlain (documentOf bs) := by
  rw [documentOf, toJsonEach_eq_map, nodes_eq_map, List.map_map]
  refine .array fun v hv => ?_
  obtain ⟨b, -, rfl⟩ := List.mem_map.1 hv
  exact isPlain_toJson b

/-! ### Reading nodes -/

/-- What a reader makes of something that is `a` and has a number of levels: it takes it in, unless
it has more levels than there may be. -/
def Fits {α : Type} (levels : Nat) (a : α) (r : Reads α) : Prop :=
  (levels ≤ 63 ∧ r = .ok a) ∨ (63 < levels ∧ ∃ offset, r = .error ⟨.text .tooDeep, offset⟩)

theorem descend_of_le {depth : Nat} (h : depth ≤ 126) (start : Nat) :
    lift (Json.descend depth start) = .ok (depth + 1) := by
  have : depth + 1 < Json.depthLimit := Nat.lt_succ_of_le (Nat.succ_le_succ h)
  rw [Json.descend, if_pos this]
  rfl

theorem descend_of_lt {depth : Nat} (h : 126 < depth) (start : Nat) :
    lift (Json.descend depth start) = .error ⟨.text .tooDeep, start + 1⟩ := by
  have : ¬depth + 1 < Json.depthLimit := by
    simp only [Json.depthLimit]
    omega
  rw [Json.descend, if_neg this]
  rfl

theorem readText_of_denotes {t : Tree} {text : String} (h : t.Denotes (.string text)) :
    readText t = .ok text := by
  obtain ⟨stop, rfl⟩ := Tree.Denotes.eq_scalar (s := .string text) h
  rfl

/-- Members that are scalars are taken in one after the other. -/
theorem take_members {members : Members} {ps : List (String × Json)} (h : members.Denote ps)
    (hscalar : ∀ p ∈ ps, ∃ s : Json.Scalar, p.2 = s.toJson) (depth : Nat)
    (taken : List (String × Json)) :
    members.take depth taken =
      .ok (ps.foldl (fun taken p => Json.insert p.1 p.2 taken) taken) := by
  induction ps generalizing members taken with
  | nil =>
    cases h
    rfl
  | cons p ps ih =>
    cases h with
    | @more name closing t v rest values ht hrest =>
      obtain ⟨s, hs⟩ := hscalar _ (.head _)
      obtain rfl : v = s.toJson := hs
      obtain ⟨stop, rfl⟩ := ht.eq_scalar
      exact ih hrest (fun q hq => hscalar q (.tail _ hq)) (Json.insert name s.toJson taken)

/-- The parameters of a block are in the order of their names. -/
theorem foldl_insert_params (b : Block) :
    b.params.foldl (fun taken p => Json.insert p.1 p.2 taken) [] = b.params := by
  have horder : ¬"min" < "max" ∧ ("min" == "max") = false := by decide
  cases b with
  | repetition q body => cases q <;> simp [params, Json.insert, horder]
  | _ => rfl

theorem readParams_of_denotes {b : Block} {t : Tree} (h : t.Denotes (.object b.params))
    {depth : Nat} (hdepth : depth ≤ 126) : readParams depth t = .ok b.params := by
  obtain ⟨start, members, rfl, hmembers⟩ := h.eq_object
  have hscalar : ∀ p ∈ b.params, ∃ s : Json.Scalar, p.2 = s.toJson := by
    intro p hp
    obtain ⟨text, hp⟩ | ⟨n, hp⟩ := eq_string_or_eq_countParam hp
    · exact ⟨.string text, hp⟩
    · exact ⟨.number (.natural n.toNat), hp⟩
  have hdescend : Json.descend depth start = .ok (depth + 1) :=
    if_pos (Nat.lt_succ_of_le (Nat.succ_le_succ hdepth))
  have htake := take_members hmembers hscalar (depth + 1) []
  rw [foldl_insert_params] at htake
  rw [readParams, hdescend]
  exact congrArg lift htake

/-- Nodes of several blocks, where each is read from one level on. -/
theorem fits_readNodes {bs : List Block} {level : Nat}
    (h : ∀ b ∈ bs, ∀ t : Tree, t.Denotes b.toNode.toJson →
      Fits (level + b.levels) b.toNode (readNode (2 * level + 1) t))
    {items : Items} (hitems : items.Denote (Node.toJsonEach (nodes bs))) (hlevel : level ≤ 63) :
    Fits (level + levelsOfEach bs) (nodes bs) (readNodes (2 * level + 1) items) := by
  induction bs generalizing items with
  | nil =>
    cases hitems
    exact .inl ⟨hlevel, rfl⟩
  | cons b bs ih =>
    cases hitems with
    | more start closing ht hrest =>
      rw [readNodes, levelsOfEach, nodes]
      obtain ⟨hb, hnode⟩ | ⟨hb, offset, hnode⟩ := h b (.head _) _ ht
      · obtain ⟨hbs, hnodes⟩ | ⟨hbs, offset, hnodes⟩ := ih (fun c hc => h c (.tail _ hc)) hrest
        · rw [hnode, hnodes]
          exact .inl ⟨by omega, rfl⟩
        · rw [hnode, hnodes]
          exact .inr ⟨by omega, offset, rfl⟩
      · rw [hnode]
        exact .inr ⟨by omega, offset, rfl⟩

section Members

variable {depth closing : Nat} {draft : Draft} {t : Tree} {rest : Members}

theorem readMembers_type {name : String} (hdraft : draft.kind = none)
    (ht : readText t = .ok name) :
    readMembers depth draft (.more (.ok "type") closing t rest) =
      readMembers depth { draft with kind := some name } rest := by
  rw [readMembers]
  simp [lift, Field.ofName?, hdraft, ht, bind, Except.bind]

theorem readMembers_params {params : List (String × Json)} (hdraft : draft.params = none)
    (ht : readParams depth t = .ok params) :
    readMembers depth draft (.more (.ok "params") closing t rest) =
      readMembers depth { draft with params := some params } rest := by
  rw [readMembers]
  simp [lift, Field.ofName?, hdraft, ht, bind, Except.bind]

theorem readMembers_children (hdraft : draft.children = none) (stop : Nat) :
    readMembers depth draft (.more (.ok "children") closing t (.done stop)) =
      (do
        let children ← readChildren depth t
        { draft with children := some children }.toNode stop) := by
  rw [readMembers]
  simp [lift, Field.ofName?, hdraft, readMembers, bind, Except.bind]

end Members

/-- Members that give the kind, the parameters and the children of a node, where the latter two may
be left out. -/
theorem readMembers_eq {depth : Nat} {members : Members} {b : Block} {children : List Node}
    (h : members.Denote (("type", .string b.kind.name) ::
      (if b.params.isEmpty then [] else [("params", .object b.params)]) ++
      (if children.isEmpty then [] else [("children", .array (Node.toJsonEach children))])))
    (hdepth : depth ≤ 126) :
    (children = [] ∧ readMembers depth {} members = .ok (.mk b.kind.name b.params [])) ∨
      ∃ t : Tree, t.Denotes (.array (Node.toJsonEach children)) ∧
        readMembers depth {} members =
          (readChildren depth t).map fun children => .mk b.kind.name b.params children := by
  have hparams : ∃ (params : Option (List (String × Json))) (rest : Members),
      params.getD [] = b.params ∧
      rest.Denote
        (if children.isEmpty then [] else [("children", .array (Node.toJsonEach children))]) ∧
      readMembers depth {} members =
        readMembers depth { kind := some b.kind.name, params := params } rest := by
    rw [List.cons_append] at h
    cases h with
    | more _ closing ht hrest =>
      rw [readMembers_type rfl (readText_of_denotes ht)]
      by_cases hempty : b.params.isEmpty
      · rw [if_pos hempty] at hrest
        exact ⟨none, _, (List.isEmpty_iff.1 hempty).symm, hrest, rfl⟩
      · rw [if_neg hempty, List.cons_append] at hrest
        cases hrest with
        | more _ closing ht hrest =>
          rw [readMembers_params rfl (readParams_of_denotes ht hdepth)]
          exact ⟨some b.params, _, rfl, hrest, rfl⟩
  obtain ⟨params, rest, hget, hrest, heq⟩ := hparams
  by_cases hempty : children.isEmpty
  · rw [if_pos hempty] at hrest
    cases hrest
    refine .inl ⟨List.isEmpty_iff.1 hempty, ?_⟩
    rw [heq, readMembers, Draft.toNode, ← hget]
    rfl
  · rw [if_neg hempty] at hrest
    cases hrest with
    | more _ closing ht hrest =>
      cases hrest
      refine .inr ⟨_, ht, ?_⟩
      rw [heq, readMembers_children rfl, ← hget]
      cases readChildren depth _ <;> rfl

theorem Fits.map {α β : Type} {levels : Nat} {a : α} {r : Reads α} (h : Fits levels a r)
    (f : α → β) : Fits levels (f a) (r.map f) := by
  obtain ⟨hle, rfl⟩ | ⟨hlt, offset, rfl⟩ := h
  · exact .inl ⟨hle, rfl⟩
  · exact .inr ⟨hlt, offset, rfl⟩

/-- The node of a block is read at any level, unless there are too many levels around the block and
in it. -/
theorem fits_readNode (b : Block) (level : Nat) {t : Tree} (h : t.Denotes b.toNode.toJson) :
    Fits (level + b.levels) b.toNode (readNode (2 * level + 1) t) := by
  induction b using children_induction generalizing level t with
  | h b ih =>
    rw [toNode_eq, Node.toJson] at h
    obtain ⟨start, members, rfl, hmembers⟩ := h.eq_object
    rw [readNode, levels_eq, toNode_eq]
    by_cases hlevel : level ≤ 62
    · have hdepth : 2 * level + 1 + 1 ≤ 126 := by omega
      rw [descend_of_le (by omega)]
      change Fits _ _ (readMembers (2 * level + 1 + 1) {} members)
      obtain ⟨hchildren, hread⟩ | ⟨t, ht, hread⟩ := readMembers_eq hmembers hdepth
      · have hnone : b.children = [] := by
          rw [nodes_eq_map] at hchildren
          exact List.map_eq_nil_iff.1 hchildren
        rw [hread, hchildren, hnone]
        exact .inl ⟨by rw [levelsOfEach]; omega, rfl⟩
      · obtain ⟨start, items, rfl, hitems⟩ := ht.eq_array
        have hnodes : Fits (level + 1 + levelsOfEach b.children) (nodes b.children)
            (readNodes (2 * (level + 1) + 1) items) :=
          fits_readNodes (fun c hc t ht => ih c hc (level + 1) ht) hitems (by omega)
        have hsum : level + (levelsOfEach b.children + 1) =
            level + 1 + levelsOfEach b.children := by omega
        rw [hread, readChildren, descend_of_le hdepth, hsum]
        exact hnodes.map _
    · rw [descend_of_lt (by omega)]
      exact .inr ⟨by omega, start + 1, rfl⟩

/-- The nodes of a document become the blocks that it has been written for. -/
theorem fits_readBlocks (bs : List Block) {items : Items}
    (h : items.Denote (Node.toJsonEach (nodes bs))) :
    Fits (levelsOfEach bs) bs (readBlocks 1 items) := by
  induction bs generalizing items with
  | nil =>
    cases h
    exact .inl ⟨by decide, rfl⟩
  | cons b bs ih =>
    cases h with
    | more start closing ht hrest =>
      rw [readBlocks, levelsOfEach]
      obtain ⟨hb, hnode⟩ | ⟨hb, offset, hnode⟩ := fits_readNode b 0 ht
      · rw [Nat.mul_zero, Nat.zero_add] at hnode
        obtain ⟨hbs, hblocks⟩ | ⟨hbs, offset, hblocks⟩ := ih hrest
        · rw [hnode, hblocks]
          refine .inl ⟨by omega, ?_⟩
          simp only [bind, Except.bind, ofNode?_toNode]
          rfl
        · rw [hnode, hblocks]
          refine .inr ⟨by omega, offset, ?_⟩
          simp only [bind, Except.bind, ofNode?_toNode]
      · rw [Nat.mul_zero, Nat.zero_add] at hnode
        rw [hnode]
        exact .inr ⟨by omega, offset, rfl⟩

/-- The document of blocks is read as these blocks, unless there are more than 63 levels in some
block of it. -/
theorem ofDocument?_compact_documentOf (bs : List Block) :
    ∃ line column, ofDocument? (documentOf bs).compact =
      if levelsOfEach bs ≤ 63 then .ok bs else .error ⟨.text .tooDeep, line, column⟩ := by
  obtain ⟨t, ht, htext⟩ := Json.exists_ofText_compact (isPlain_documentOf bs)
  obtain ⟨start, items, rfl, hitems⟩ := ht.eq_array
  have hread : ofDocument?.read (.array start items) = readBlocks 1 items := by
    rw [ofDocument?.read, descend_of_le (by decide)]
    rfl
  simp only [ofDocument?, readDocument, htext, hread]
  obtain ⟨hle, hblocks⟩ | ⟨hlt, offset, hblocks⟩ := fits_readBlocks bs hitems
  · refine ⟨0, 0, ?_⟩
    rw [hblocks, if_pos hle]
  · let place := Json.lineAndColumn offset (documentOf bs).compact.toList
    refine ⟨place.1, place.2, ?_⟩
    rw [hblocks, if_neg (Nat.not_le.2 hlt)]
    rfl

end PatternProse.Block
