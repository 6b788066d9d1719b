import Mathlib.Data.List.Pairwise
import Mathlib.Data.List.Perm.Basic
import Mathlib.Data.String.Basic
import Mathlib.Logic.Relation
import PatternProse.Proofs.Block.Places
import PatternProse.Proofs.Json.Document

/-!
# Rearranged documents

A document stands for the same blocks whichever of their two names its fields have, in whatever
order its nodes list their members and their parameters, and whatever other members they have. So
two documents of which one comes from the other by such changes are read alike.

## Main definitions

* `Block.Rearranged` — a change to the members of a node or of a node below it.
* `Block.Change` — such a change to a node of a document.

The main statement is `Block.ofDocument?_of_changes`.
-/

namespace PatternProse

/-! ### Members of an object -/

namespace Json

theorem insert_of_lt {m k : String} (h : m < k) (v u : Json) (ms : List (String × Json)) :
    insert m v ((k, u) :: ms) = (m, v) :: (k, u) :: ms := by
  simp only [insert, h, if_true]

theorem insert_self (m : String) (v u : Json) (ms : List (String × Json)) :
    insert m v ((m, u) :: ms) = (m, v) :: ms := by
  simp [insert]

theorem insert_of_gt {m k : String} (h : k < m) (v u : Json) (ms : List (String × Json)) :
    insert m v ((k, u) :: ms) = (k, u) :: insert m v ms := by
  simp [insert, h.asymm, h.ne']

/-- The order in which two members with different names are put in does not matter. -/
theorem insert_comm_of_lt {m n : String} (h : m < n) (v w : Json) (ms : List (String × Json)) :
    insert n w (insert m v ms) = insert m v (insert n w ms) := by
  induction ms with
  | nil => exact (insert_of_gt h w v []).trans (insert_of_lt h v w []).symm
  | cons p ms ih =>
    obtain ⟨k, u⟩ := p
    rcases lt_trichotomy m k with hm | rfl | hm
    · rw [insert_of_lt hm, insert_of_gt h]
      rcases lt_trichotomy n k with hn | rfl | hn
      · rw [insert_of_lt hn, insert_of_lt h]
      · rw [insert_self, insert_of_lt h]
      · rw [insert_of_gt hn, insert_of_lt hm]
    · rw [insert_self, insert_of_gt h, insert_of_gt h, insert_self]
    · rw [insert_of_gt hm, insert_of_gt (hm.trans h), insert_of_gt (hm.trans h), insert_of_gt hm,
        ih]

theorem insert_comm {m n : String} (h : m ≠ n) (v w : Json) (ms : List (String × Json)) :
    insert n w (insert m v ms) = insert m v (insert n w ms) := by
  rcases lt_or_gt_of_ne h with hlt | hlt
  · exact insert_comm_of_lt hlt v w ms
  · exact (insert_comm_of_lt hlt w v ms).symm

end Json

namespace Block

open Json (Tree Items Members Source Spells IsPlain nameOf toOption_bind toOption_descend
  toOption_unplaced)

/-! ### Changes -/

/-- The text spells one of the names. -/
def SpellsOneOf (names : List String) (text : List Char) : Prop :=
  ∃ name ∈ names, Spells text name.toList

/-- The names of two members are not the same. -/
def HaveTwoNames (m m' : List Char × Source) : Prop :=
  ∃ name name' : String, name ≠ name' ∧ Spells m.1 name.toList ∧ Spells m'.1 name'.toList

/-- A change to the members of a node, or of a node among its children and theirs. -/
inductive Rearranged : List (List Char × Source) → List (List Char × Source) → Prop
  /-- One name of a field is written for the other one. -/
  | rename {names : List String} {before after : List (List Char × Source)} {old new : List Char}
    {value : Source} : names = ["type", "kind"] ∨ names = ["params", "parameters"] →
    SpellsOneOf names old → SpellsOneOf names new →
    Rearranged (before ++ (old, value) :: after) (before ++ (new, value) :: after)
  | reorder {ms ms' : List (List Char × Source)} : ms.Perm ms' → Rearranged ms ms'
  | reorderParams {before after ps ps' : List (List Char × Source)} {name : List Char} :
    SpellsOneOf ["params", "parameters"] name → ps.Pairwise HaveTwoNames → ps.Perm ps' →
    Rearranged (before ++ (name, .object ps) :: after) (before ++ (name, .object ps') :: after)
  /-- A member that is none of the fields is added. -/
  | add {before after : List (List Char × Source)} {text : List Char} {name : String}
    (value : Source) : Spells text name.toList →
    name ∉ ["type", "kind", "params", "parameters", "children"] →
    Rearranged (before ++ after) (before ++ (text, value) :: after)
  /-- One of the children is changed. -/
  | child {before after ms ms' : List (List Char × Source)} {left right : List Source}
    {name : List Char} : Spells name "children".toList → Rearranged ms ms' →
    Rearranged (before ++ (name, .array (left ++ .object ms :: right)) :: after)
      (before ++ (name, .array (left ++ .object ms' :: right)) :: after)

/-- A change to one of the nodes of a document. -/
inductive Change : Source → Source → Prop
  | node {left right : List Source} {ms ms' : List (List Char × Source)} : Rearranged ms ms' →
    Change (.array (left ++ .object ms :: right)) (.array (left ++ .object ms' :: right))

/-! ### Parameters -/

/-- Takes in a parameter after those in `taken`. -/
def takeParam (depth : Nat) (taken : Option (List (String × Json))) (p : List Char × Source) :
    Option (List (String × Json)) :=
  taken.bind fun taken => (nameOf p.1).toOption.bind fun name =>
    (p.2.tree.take depth).toOption.bind fun value => some (Json.insert name value taken)

theorem foldl_takeParam_none (depth : Nat) (ps : List (List Char × Source)) :
    ps.foldl (takeParam depth) none = none := by
  induction ps with
  | nil => rfl
  | cons p ps ih => exact ih

theorem toOption_take_members (depth : Nat) (taken : List (String × Json))
    (ps : List (List Char × Source)) :
    ((Source.members ps).take depth taken).toOption =
      ps.foldl (takeParam depth) (some taken) := by
  induction ps generalizing taken with
  | nil => rfl
  | cons p ps ih =>
    obtain ⟨name, s⟩ := p
    simp only [Source.members, Members.take, toOption_bind, ih, List.foldl_cons, takeParam,
      Option.bind_some]
    cases (nameOf name).toOption with
    | none => exact (foldl_takeParam_none depth ps).symm
    | some name =>
      cases (s.tree.take depth).toOption with
      | none => exact (foldl_takeParam_none depth ps).symm
      | some value => rfl

theorem toOption_nameOf {text : List Char} {name : String} (h : Spells text name.toList) :
    (nameOf text).toOption = some name := by
  rw [h.nameOf_eq]
  rfl

instance : Std.Symm HaveTwoNames where
  symm _ _ := fun ⟨name, name', hne, hname, hname'⟩ => ⟨name', name, hne.symm, hname', hname⟩

theorem takeParam_comm (depth : Nat) {p q : List Char × Source} (h : HaveTwoNames p q)
    (taken : Option (List (String × Json))) :
    takeParam depth (takeParam depth taken p) q = takeParam depth (takeParam depth taken q) p := by
  obtain ⟨name, name', hne, hname, hname'⟩ := h
  cases taken with
  | none => rfl
  | some taken =>
    simp only [takeParam, toOption_nameOf hname, toOption_nameOf hname', Option.bind_some]
    cases (p.2.tree.take depth).toOption with
    | none => cases (q.2.tree.take depth).toOption <;> rfl
    | some v =>
      cases (q.2.tree.take depth).toOption with
      | none => rfl
      | some w => exact congrArg some (Json.insert_comm hne v w taken)

/-- Parameters with different names are taken in alike in any order. -/
theorem toOption_readParams_perm (depth : Nat) {ps ps' : List (List Char × Source)}
    (hnames : ps.Pairwise HaveTwoNames) (h : ps.Perm ps') :
    (readParams depth (Source.object ps).tree).toOption =
      (readParams depth (Source.object ps').tree).toOption := by
  have hcomm (depth : Nat) : ∀ p ∈ ps, ∀ q ∈ ps, ∀ taken,
      takeParam depth (takeParam depth taken p) q =
        takeParam depth (takeParam depth taken q) p := by
    intro p hp q hq taken
    by_cases hpq : p = q
    · rw [hpq]
    · exact takeParam_comm depth (hnames.forall hp hq hpq) taken
  simp only [Source.tree, readParams, toOption_lift, toOption_bind, toOption_descend,
    toOption_take_members, h.foldl_eq' (hcomm _)]

/-! ### Members of nodes -/

/-- What a member of a node says. -/
inductive Entry
  | kind (name : String)
  | params (params : List (String × Json))
  | children (children : List Node)
  | other

/-- Reads a member of a node. -/
def entryOf? (depth : Nat) (m : List Char × Source) : Option Entry :=
  (nameOf m.1).toOption.bind fun name =>
    match Field.ofName? name with
    | none => some .other
    | some .kind => (readText m.2.tree).toOption.map .kind
    | some .params => (readParams depth m.2.tree).toOption.map .params
    | some .children => (readChildren depth m.2.tree).toOption.map .children

/-- Adds what a member says, which each field can do once. -/
def Draft.add? (draft : Draft) : Entry → Option Draft
  | .kind kind => if draft.kind.isSome then none else some { draft with kind }
  | .params params => if draft.params.isSome then none else some { draft with params }
  | .children children => if draft.children.isSome then none else some { draft with children }
  | .other => some draft

theorem Draft.add?_comm (draft : Draft) (e e' : Entry) :
    (draft.add? e).bind (·.add? e') = (draft.add? e').bind (·.add? e) := by
  obtain ⟨kind, params, children⟩ := draft
  cases e <;> cases e' <;> cases kind <;> cases params <;> cases children <;> rfl

/-- Reads a member of a node after those in the draft. -/
def addMember (depth : Nat) (draft : Option Draft) (m : List Char × Source) : Option Draft :=
  draft.bind fun draft => (entryOf? depth m).bind draft.add?

theorem foldl_addMember_none (depth : Nat) (ms : List (List Char × Source)) :
    ms.foldl (addMember depth) none = none := by
  induction ms with
  | nil => rfl
  | cons m ms ih => exact ih

theorem addMember_comm (depth : Nat) (draft : Option Draft) (m m' : List Char × Source) :
    addMember depth (addMember depth draft m) m' = addMember depth (addMember depth draft m') m := by
  cases draft with
  | none => rfl
  | some draft =>
    simp only [addMember, Option.bind_some]
    cases entryOf? depth m with
    | none => cases (entryOf? depth m').bind draft.add? <;> rfl
    | some e =>
      cases entryOf? depth m' with
      | none =>
        rw [Option.bind_some, Option.bind_none]
        cases draft.add? e <;> rfl
      | some e' => exact draft.add?_comm e e'

mutual

/-- Any value can be skipped. -/
theorem skip_tree : (s : Source) → s.tree.skip = .ok ()
  | .scalar _ => rfl
  | .array items => skip_items items
  | .object members => skip_members members

theorem skip_items : (ss : List Source) → (Source.items ss).skip = .ok ()
  | [] => rfl
  | s :: ss => by
    rw [Source.items, Items.skip, skip_tree s]
    exact skip_items ss

theorem skip_members : (ms : List (List Char × Source)) → (Source.members ms).skip = .ok ()
  | [] => rfl
  | (_, s) :: ms => by
    rw [Source.members, Members.skip, skip_tree s]
    exact skip_members ms

end

theorem toOption_error {ε α : Type} (e : ε) : (.error e : Except ε α).toOption = none := rfl

theorem toOption_readMembers (depth : Nat) (draft : Draft) (ms : List (List Char × Source)) :
    (readMembers depth draft (Source.members ms)).toOption =
      (ms.foldl (addMember depth) (some draft)).bind fun draft => (draft.toNode 0).toOption := by
  induction ms generalizing draft with
  | nil => rfl
  | cons m ms ih =>
    obtain ⟨name, s⟩ := m
    have hnone := foldl_addMember_none depth ms
    simp only [Source.members, readMembers, toOption_bind, toOption_lift, List.foldl_cons,
      addMember, entryOf?, Option.bind_some]
    cases (nameOf name).toOption with
    | none => simp only [Option.bind_none, hnone]
    | some name =>
      simp only [Option.bind_some]
      cases Field.ofName? name with
      | none =>
        simp only [skip_tree, toOption_bind, toOption_lift, ih]
        rfl
      | some field =>
        cases field with
        | kind =>
          cases h : draft.kind.isSome <;> cases hread : (readText s.tree).toOption <;>
            simp [toOption_error, toOption_bind, hread, h, hnone, ih, Draft.add?]
        | params =>
          cases h : draft.params.isSome <;> cases hread : (readParams depth s.tree).toOption <;>
            simp [toOption_error, toOption_bind, hread, h, hnone, ih, Draft.add?]
        | children =>
          cases h : draft.children.isSome <;> cases hread : (readChildren depth s.tree).toOption <;>
            simp [toOption_error, toOption_bind, hread, h, hnone, ih, Draft.add?]

/-- The nodes of an array are read one by one. -/
theorem toOption_readNodes (depth : Nat) (ss : List Source) :
    (readNodes depth (Source.items ss)).toOption =
      ss.mapM fun s => (readNode depth s.tree).toOption := by
  induction ss with
  | nil => rfl
  | cons s ss ih =>
    simp only [Source.items, readNodes, toOption_bind, ih, List.mapM_cons]
    rfl

theorem toOption_readBlocks (depth : Nat) (ss : List Source) :
    (readBlocks depth (Source.items ss)).toOption =
      ss.mapM fun s => (readNode depth s.tree).toOption.bind fun n => (ofNode? n).toOption := by
  induction ss with
  | nil => rfl
  | cons s ss ih =>
    simp only [Source.items, readBlocks, toOption_bind, List.mapM_cons]
    cases (readNode depth s.tree).toOption with
    | none => rfl
    | some node =>
      simp only [Option.bind_some]
      cases ofNode? node with
      | error p => rfl
      | ok b =>
        simp only [toOption_bind, ih]
        rfl

/-! ### Changed nodes -/

/-- A member in place of one that says the same makes no difference. -/
theorem foldl_addMember_congr {depth : Nat} {m m' : List Char × Source}
    (h : entryOf? depth m = entryOf? depth m') (before after : List (List Char × Source))
    (draft : Option Draft) :
    (before ++ m :: after).foldl (addMember depth) draft =
      (before ++ m' :: after).foldl (addMember depth) draft := by
  simp only [List.foldl_append, List.foldl_cons, addMember, h]

theorem entryOf?_of_spells {depth : Nat} {text : List Char} {name : String}
    (h : Spells text name.toList) (s : Source) :
    entryOf? depth (text, s) =
      match Field.ofName? name with
      | none => some .other
      | some .kind => (readText s.tree).toOption.map .kind
      | some .params => (readParams depth s.tree).toOption.map .params
      | some .children => (readChildren depth s.tree).toOption.map .children := by
  rw [entryOf?, toOption_nameOf h, Option.bind_some]

theorem entryOf?_rename {names : List String} {old new : List Char}
    (hnames : names = ["type", "kind"] ∨ names = ["params", "parameters"])
    (hold : SpellsOneOf names old) (hnew : SpellsOneOf names new) (depth : Nat) (s : Source) :
    entryOf? depth (old, s) = entryOf? depth (new, s) := by
  obtain ⟨name, hname, hspells⟩ := hold
  obtain ⟨name', hname', hspells'⟩ := hnew
  have hfield : Field.ofName? name = Field.ofName? name' := by
    rcases hnames with rfl | rfl <;>
      simp only [List.mem_cons, List.not_mem_nil, or_false] at hname hname' <;>
      rcases hname with rfl | rfl <;> rcases hname' with rfl | rfl <;> rfl
  rw [entryOf?_of_spells hspells, entryOf?_of_spells hspells', hfield]

theorem entryOf?_reorderParams {name : List Char} {ps ps' : List (List Char × Source)}
    (hname : SpellsOneOf ["params", "parameters"] name) (hps : ps.Pairwise HaveTwoNames)
    (h : ps.Perm ps') (depth : Nat) :
    entryOf? depth (name, .object ps) = entryOf? depth (name, .object ps') := by
  obtain ⟨own, hown, hspells⟩ := hname
  have hfield : Field.ofName? own = some .params := by
    simp only [List.mem_cons, List.not_mem_nil, or_false] at hown
    rcases hown with rfl | rfl <;> rfl
  simp only [entryOf?_of_spells hspells, hfield, toOption_readParams_perm depth hps h]

theorem addMember_other {text : List Char} {name : String} (h : Spells text name.toList)
    (hname : name ∉ ["type", "kind", "params", "parameters", "children"]) (value : Source)
    (depth : Nat) (draft : Option Draft) : addMember depth draft (text, value) = draft := by
  have hfield : Field.ofName? name = none := by
    simp only [List.mem_cons, List.not_mem_nil, or_false, not_or] at hname
    simp [Field.ofName?, hname]
  cases draft with
  | none => rfl
  | some draft => simp only [addMember, entryOf?_of_spells h, hfield, Option.bind_some, Draft.add?]

/-- A node is read alike if its members say the same. -/
theorem toOption_readNode_congr {ms ms' : List (List Char × Source)}
    (h : ∀ depth draft, ms.foldl (addMember depth) draft = ms'.foldl (addMember depth) draft)
    (depth : Nat) :
    (readNode depth (Source.object ms).tree).toOption =
      (readNode depth (Source.object ms').tree).toOption := by
  simp only [Source.tree, readNode, toOption_bind, toOption_lift, toOption_descend,
    toOption_readMembers, h]

/-- The members of a node say the same after a change. -/
theorem Rearranged.foldl_eq {ms ms' : List (List Char × Source)} (h : Rearranged ms ms')
    (depth : Nat) (draft : Option Draft) :
    ms.foldl (addMember depth) draft = ms'.foldl (addMember depth) draft := by
  induction h generalizing depth draft with
  | rename hnames hold hnew =>
    exact foldl_addMember_congr (entryOf?_rename hnames hold hnew depth _) _ _ draft
  | reorder h =>
    exact h.foldl_eq' (fun m _ m' _ draft => addMember_comm depth draft m m') draft
  | reorderParams hname hps h =>
    exact foldl_addMember_congr (entryOf?_reorderParams hname hps h depth) _ _ draft
  | add value hspells hname =>
    simp only [List.foldl_append, List.foldl_cons, addMember_other hspells hname value depth]
  | child hname _ ih =>
    refine foldl_addMember_congr ?_ _ _ draft
    have hfield : Field.ofName? "children" = some .children := rfl
    simp only [entryOf?_of_spells hname, hfield, Source.tree_array, readChildren, toOption_bind,
      toOption_lift, toOption_descend, toOption_readNodes, List.mapM_append, List.mapM_cons,
      toOption_readNode_congr ih]

/-- The blocks of a document are the same after a change to a node. -/
theorem Change.toOption_read_eq {d d' : Source} (h : Change d d') :
    (ofDocument?.read d.tree).toOption = (ofDocument?.read d'.tree).toOption := by
  cases h with
  | node h =>
    simp only [Source.tree_array, ofDocument?.read, toOption_bind, toOption_lift,
      toOption_descend, toOption_readBlocks, List.mapM_append, List.mapM_cons,
      toOption_readNode_congr h.foldl_eq]

/-- A document stands for the same blocks after any changes to its nodes, in any of its texts. -/
theorem ofDocument?_of_changes {d d' : Source} (h : Relation.ReflTransGen Change d d')
    {text text' : String} (htext : d.IsDocument text) (htext' : d'.IsDocument text')
    (bs : List Block) : ofDocument? text = .ok bs ↔ ofDocument? text' = .ok bs := by
  have hread : (ofDocument?.read d.tree).toOption = (ofDocument?.read d'.tree).toOption := by
    clear htext'
    induction h with
    | refl => rfl
    | tail _ hchange ih => exact ih.trans hchange.toOption_read_eq
  rw [ofDocument?_eq_ok_iff htext, ofDocument?_eq_ok_iff htext', hread]

theorem ofDocument?_of_changes_label :
    let params : Json := .object [("value", .string "a")]
    let old : Json := .array [.object [("type", .string "group"),
      ("children", .array [.object [("type", .string "literal"), ("params", params)]])]]
    let new : Json := .array [.object [("label", .array [params]),
      ("children", .array [.object [("parameters", params), ("kind", .string "literal")]]),
      ("type", .string "group")]]
    Relation.ReflTransGen Change old.source new.source ∧
      old.source.IsDocument old.compact ∧ new.source.IsDocument new.compact ∧
      ofDocument? old.compact = .ok [.group [.literal "a"]] ∧
      ofDocument? new.compact = .ok [.group [.literal "a"]] := by
  intro params old new
  have hspells (name : String) : Spells (name.toList.flatMap Json.escapeChar) name.toList :=
    Json.spells_escaped _
  have hone {names : List String} (name : String) (h : name ∈ names) :
      SpellsOneOf names (name.toList.flatMap Json.escapeChar) := ⟨name, h, hspells name⟩
  have hkind : Rearranged (Json.memberSources [("type", .string "literal"), ("params", params)])
      (Json.memberSources [("kind", .string "literal"), ("params", params)]) :=
    @Rearranged.rename _ [] _ _ _ _ (.inl rfl) (hone "type" (by simp)) (hone "kind" (by simp))
  have hparams : Rearranged
      (Json.memberSources [("kind", .string "literal"), ("params", params)])
      (Json.memberSources [("kind", .string "literal"), ("parameters", params)]) :=
    @Rearranged.rename _ [_] _ _ _ _ (.inr rfl) (hone "params" (by simp))
      (hone "parameters" (by simp))
  have hchild {ms ms' : List (List Char × Source)} (h : Rearranged ms ms') :
      Rearranged [("type".toList.flatMap Json.escapeChar, (Json.string "group").source),
          ("children".toList.flatMap Json.escapeChar, .array [.object ms])]
        [("type".toList.flatMap Json.escapeChar, (Json.string "group").source),
          ("children".toList.flatMap Json.escapeChar, .array [.object ms'])] :=
    @Rearranged.child [_] [] _ _ [] [] _ (hspells "children") h
  have hlabel (ms : List (List Char × Source)) :
      Rearranged ms (("label".toList.flatMap Json.escapeChar, (Json.array [params]).source) :: ms) :=
    @Rearranged.add [] ms _ _ _ (hspells "label") (by simp)
  have hnode {ms ms' : List (List Char × Source)} (h : Rearranged ms ms') :
      Change (.array [.object ms]) (.array [.object ms']) := @Change.node [] [] _ _ h
  have hchanges : Relation.ReflTransGen Change old.source new.source :=
    .head (hnode (hchild hkind)) (.head (hnode (hchild hparams))
      (.head (hnode (hchild (.reorder (.swap _ _ _)))) (.head (hnode (.reorder (.swap _ _ _)))
        (.single (hnode (hlabel _))))))
  have hold : old.source.IsDocument old.compact := IsPlain.isDocument (by simp [old, params])
  have hnew : new.source.IsDocument new.compact := IsPlain.isDocument (by simp [new, params])
  have hread : ofDocument? old.compact = .ok [.group [.literal "a"]] := by
    have hname (name : String) := (hspells name).nameOf_eq
    rw [ofDocument?_eq_ok_iff hold]
    simp only [old, params, Json.source, Json.sources, Json.memberSources, Source.tree,
      Source.items, Source.members, Json.scalarOf_string, hname]
    rfl
  exact ⟨hchanges, hold, hnew, hread, (ofDocument?_of_changes hchanges hold hnew _).1 hread⟩

end Block

end PatternProse
