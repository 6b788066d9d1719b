import PatternProse.Block.Document
import PatternProse.Proofs.Json.Source

/-!
# Blocks of a document without places

The blocks that a document stands for are read from the tree of its value without the places of its
parts, so they are the same for all texts of the value.

The main statement is `Block.ofDocument?_eq_ok_iff`.
-/

namespace PatternProse.Block

open Json (Tree Items Members Source toOption_bind toOption_descend toOption_unplaced)

theorem toOption_lift {α : Type} (r : Except (Json.Problem Json.SyntaxProblem) α) :
    (lift r).toOption = r.toOption := by
  cases r <;> rfl

theorem toOption_readText_unplaced (t : Tree) :
    (readText t.unplaced).toOption = (readText t).toOption := by
  cases t with
  | scalar taken stop =>
    cases taken with
    | error p => rfl
    | ok s => cases s <;> rfl
  | _ => rfl

theorem toOption_readParams_unplaced (depth : Nat) (t : Tree) :
    (readParams depth t.unplaced).toOption = (readParams depth t).toOption := by
  cases t with
  | object start members =>
    simp only [Tree.unplaced, readParams, toOption_lift, toOption_bind, toOption_descend,
      Json.toOption_take_unplaced_members]
  | _ => rfl

theorem toOption_toNode (draft : Draft) (stop : Nat) :
    (draft.toNode stop).toOption = (draft.toNode 0).toOption := by
  unfold Draft.toNode
  split <;> rfl

mutual

/-- A node is read alike wherever it stands. -/
theorem toOption_readNode_unplaced (depth : Nat) : (t : Tree) →
    (readNode depth t.unplaced).toOption = (readNode depth t).toOption
  | .scalar _ _ => rfl
  | .array start items => by
    simp only [Tree.unplaced, readNode, toOption_bind, toOption_lift, toOption_descend,
      toOption_readItems_unplaced _ items]
  | .object start members => by
    simp only [Tree.unplaced, readNode, toOption_bind, toOption_lift, toOption_descend,
      toOption_readMembers_unplaced _ _ members]
  | .broken _ => rfl

theorem toOption_readMembers_unplaced (depth : Nat) (draft : Draft) : (members : Members) →
    (readMembers depth draft members.unplaced).toOption =
      (readMembers depth draft members).toOption
  | .done stop => (toOption_toNode draft stop).symm
  | .broken _ => rfl
  | .more name closing value rest => by
    simp only [Members.unplaced, readMembers, toOption_bind, toOption_lift, toOption_unplaced]
    congr 1
    funext name
    cases Field.ofName? name with
    | none =>
      simp only [toOption_bind, toOption_lift, Json.toOption_skip_unplaced,
        toOption_readMembers_unplaced _ _ rest]
    | some field =>
      cases field with
      | kind =>
        dsimp only
        split
        · rfl
        · simp only [toOption_bind, toOption_readText_unplaced,
            toOption_readMembers_unplaced _ _ rest]
      | params =>
        dsimp only
        split
        · rfl
        · simp only [toOption_bind, toOption_readParams_unplaced,
            toOption_readMembers_unplaced _ _ rest]
      | children =>
        dsimp only
        split
        · rfl
        · simp only [toOption_bind, toOption_readChildren_unplaced _ value,
            toOption_readMembers_unplaced _ _ rest]

theorem toOption_readItems_unplaced (depth : Nat) : (items : Items) →
    (readItems depth items.unplaced).toOption = (readItems depth items).toOption
  | .done _ => rfl
  | .broken _ => rfl
  | .more _ kind _ (.done _) => by
    simp only [Items.unplaced, readItems, toOption_bind, toOption_readText_unplaced]
  | .more _ kind _ (.broken _) => by
    simp only [Items.unplaced, readItems, toOption_bind, toOption_readText_unplaced]
    rfl
  | .more _ kind _ (.more _ params _ (.done _)) => by
    simp only [Items.unplaced, readItems, toOption_bind, toOption_readText_unplaced,
      toOption_readParams_unplaced]
  | .more _ kind _ (.more _ params _ (.broken _)) => by
    simp only [Items.unplaced, readItems, toOption_bind, toOption_readText_unplaced,
      toOption_readParams_unplaced]
    rfl
  | .more _ kind _ (.more _ params _ (.more _ children _ rest)) => by
    simp only [Items.unplaced, readItems, toOption_bind, toOption_readText_unplaced,
      toOption_readParams_unplaced, toOption_readChildren_unplaced depth children]
    cases rest <;> rfl

theorem toOption_readChildren_unplaced (depth : Nat) : (t : Tree) →
    (readChildren depth t.unplaced).toOption = (readChildren depth t).toOption
  | .scalar _ _ => rfl
  | .array start items => by
    simp only [Tree.unplaced, readChildren, toOption_bind, toOption_lift, toOption_descend,
      toOption_readNodes_unplaced _ items]
  | .object _ _ => rfl
  | .broken _ => rfl

theorem toOption_readNodes_unplaced (depth : Nat) : (items : Items) →
    (readNodes depth items.unplaced).toOption = (readNodes depth items).toOption
  | .done _ => rfl
  | .broken _ => rfl
  | .more _ value _ rest => by
    simp only [Items.unplaced, readNodes, toOption_bind, toOption_readNode_unplaced depth value,
      toOption_readNodes_unplaced depth rest]

end

theorem toOption_readBlocks_unplaced (depth : Nat) : (items : Items) →
    (readBlocks depth items.unplaced).toOption = (readBlocks depth items).toOption
  | .done _ => rfl
  | .broken _ => rfl
  | .more _ value _ rest => by
    simp only [Items.unplaced, readBlocks, toOption_bind, toOption_readNode_unplaced depth value]
    congr 1
    funext node
    cases ofNode? node with
    | error p => rfl
    | ok b => simp only [toOption_bind, toOption_readBlocks_unplaced depth rest]

theorem toOption_read_unplaced (t : Tree) :
    (ofDocument?.read t.unplaced).toOption = (ofDocument?.read t).toOption := by
  cases t with
  | array start items =>
    simp only [Tree.unplaced, ofDocument?.read, toOption_bind, toOption_lift, toOption_descend,
      toOption_readBlocks_unplaced]
  | _ => rfl

/-- The blocks of a document are those of its value. -/
theorem ofDocument?_eq_ok_iff {d : Source} {text : String} (h : d.IsDocument text)
    (bs : List Block) :
    ofDocument? text = .ok bs ↔ (ofDocument?.read d.tree).toOption = some bs := by
  obtain ⟨t, ht, htext⟩ := d.exists_ofText h
  rw [← ht, toOption_read_unplaced, ofDocument?, readDocument, htext]
  cases ofDocument?.read t <;> simp [Except.toOption]

end PatternProse.Block
