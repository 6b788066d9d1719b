import PatternProse.Block.Node

/-!
# Nodes that stand for no block

Whether a tree of nodes stands for a block is decided node by node, and every node of the tree
counts, also one below a node that has no room for children. Parameters never matter. Of several
faults the one is reported that a walk through the tree meets first, which comes to a node only
after all that is below it.

## Main definitions

* `Node.postorder` — the nodes of a tree in the order of this walk.
* `Node.Fault` — what is wrong with a node by itself.

The main statement is `ofNode?_refused_iff`.
-/

namespace PatternProse.Block

mutual

/-- The nodes of a tree: those below each child, the children from left to right, and then the
node itself. -/
def Node.postorder : Node → List Node
  | .mk kind params children => Node.postorderEach children ++ [.mk kind params children]

/-- The nodes of several trees, one tree after the other. -/
def Node.postorderEach : List Node → List Node
  | [] => []
  | n :: ns => n.postorder ++ Node.postorderEach ns

end

/-- What is wrong with a node, whatever its parameters and the nodes below it are, and how this is
worded: its kind has a name that no kind has, or it is a repetition with several children. -/
inductive Node.Fault (n : Node) : NodeProblem → (wording : String) → Prop
  | unknownKind : (∀ kind : Kind, kind.name ≠ n.kind) →
    Fault n (.unknownKind n.kind) ("unknown block type \"" ++ n.kind ++ "\"")
  | severalChildren (form : Quantifier.Form) : n.kind = (Kind.repetition form).name →
    1 < n.children.length →
    Fault n (.severalChildren (.repetition form) n.children.length)
      (n.kind ++ " takes a single child, found " ++ Decimal.text n.children.length)

/-! ### Faults of one node -/

theorem Kind.nesting_eq_singleChild_iff {kind : Kind} :
    kind.nesting = .singleChild ↔ ∃ form, kind = .repetition form := by
  cases kind <;> simp [nesting]

/-- The problem that a node has by itself. -/
def Node.fault? (n : Node) : Option NodeProblem :=
  match Kind.ofName? n.kind with
  | none => some (.unknownKind n.kind)
  | some kind =>
    if kind.nesting = .singleChild ∧ 1 < n.children.length then
      some (.severalChildren kind n.children.length)
    else none

theorem Kind.ofName?_eq_none_iff {name : String} :
    ofName? name = none ↔ ∀ kind : Kind, kind.name ≠ name := by
  constructor
  · rintro h kind rfl
    rw [ofName?_name] at h
    cases h
  · intro h
    cases hkind : ofName? name with
    | none => rfl
    | some kind => exact absurd (name_of_ofName? hkind) (h kind)

theorem Node.fault_of_fault? {n : Node} {p : NodeProblem} (h : n.fault? = some p) :
    n.Fault p p.message := by
  unfold fault? at h
  split at h
  · next hnone =>
    cases h
    exact .unknownKind (Kind.ofName?_eq_none_iff.1 hnone)
  · next kind hkind =>
    split at h
    · next hseveral =>
      obtain rfl := Option.some.inj h
      obtain ⟨hsingle, hlength⟩ := hseveral
      obtain ⟨form, rfl⟩ := Kind.nesting_eq_singleChild_iff.1 hsingle
      have hname := Kind.name_of_ofName? hkind
      have hfault := Fault.severalChildren form hname.symm hlength
      rwa [← hname] at hfault
    · cases h

theorem Node.Fault.fault?_eq {n : Node} {p : NodeProblem} {wording : String}
    (h : n.Fault p wording) : n.fault? = some p := by
  cases h with
  | unknownKind hkind => simp only [fault?, Kind.ofName?_eq_none_iff.2 hkind]
  | severalChildren form hkind hlength =>
    have hsingle : (Kind.repetition form).nesting = .singleChild := rfl
    simp only [fault?, hkind, Kind.ofName?_name, hsingle, hlength, and_self, if_true]

theorem Node.fault?_eq_none_iff {n : Node} :
    n.fault? = none ↔ ∀ p wording, ¬ n.Fault p wording := by
  constructor
  · intro h p wording hfault
    rw [hfault.fault?_eq] at h
    cases h
  · intro h
    cases hproblem : n.fault? with
    | none => rfl
    | some p => exact absurd (fault_of_fault? hproblem) (h p _)

/-! ### The problem that is reported -/

/-- The problem for which there is no result. -/
def problem? {α : Type} : Except NodeProblem α → Option NodeProblem
  | .ok _ => none
  | .error p => some p

theorem problem?_eq_some_iff {α : Type} {r : Except NodeProblem α} {p : NodeProblem} :
    problem? r = some p ↔ r = .error p := by
  cases r <;> simp [problem?]

theorem length_ofNodes? {ns : List Node} {bs : List Block} (h : ofNodes? ns = .ok bs) :
    bs.length = ns.length := by
  induction ns generalizing bs with
  | nil =>
    cases h
    rfl
  | cons n ns ih =>
    cases hfirst : ofNode? n with
    | error p =>
      rw [ofNodes?, hfirst] at h
      cases h
    | ok b =>
      cases hrest : ofNodes? ns with
      | error p =>
        rw [ofNodes?, hfirst, hrest] at h
        cases h
      | ok cs =>
        rw [ofNodes?, hfirst, hrest] at h
        cases h
        exact congrArg (· + 1) (ih hrest)

theorem problem?_assemble (kind : String) (params : List (String × Json)) {children : List Node}
    {bs : List Block} (h : bs.length = children.length) (settings : Settings) :
    problem? (assemble kind settings bs) = (Node.mk kind params children).fault? := by
  have hkind : (Node.mk kind params children).kind = kind := rfl
  have hchildren : (Node.mk kind params children).children = children := rfl
  simp only [assemble, Node.fault?, hkind, hchildren, h]
  cases Kind.ofName? kind with
  | none => rfl
  | some kind =>
    simp only [Bool.and_eq_true, beq_iff_eq, decide_eq_true_eq, gt_iff_lt]
    split <;> rfl

mutual

/-- The problem that is reported is the first one on a walk through the tree. -/
theorem problem?_ofNode? : (n : Node) →
    problem? (ofNode? n) = n.postorder.findSome? Node.fault?
  | .mk kind params children => by
    have hchildren := problem?_ofNodes? children
    rw [Node.postorder, List.findSome?_append, ← hchildren, ofNode?]
    cases hblocks : ofNodes? children with
    | error p => rfl
    | ok bs =>
      have hown := problem?_assemble kind params (length_ofNodes? hblocks) (.ofParams params)
      exact hown.trans List.findSome?_singleton.symm

theorem problem?_ofNodes? : (ns : List Node) →
    problem? (ofNodes? ns) = (Node.postorderEach ns).findSome? Node.fault?
  | [] => rfl
  | n :: ns => by
    have hfirst := problem?_ofNode? n
    have hrest := problem?_ofNodes? ns
    rw [Node.postorderEach, List.findSome?_append, ← hfirst, ← hrest, ofNodes?]
    cases ofNode? n with
    | error p => rfl
    | ok b => cases ofNodes? ns <;> rfl

end

/-- A tree stands for no block just if one of its nodes has a fault, and the fault that is reported
is that of the first such node. -/
theorem ofNode?_refused_iff (n : Node) :
    ((∃ p, ofNode? n = .error p) ↔ ∃ m ∈ n.postorder, ∃ p wording, m.Fault p wording) ∧
      ∀ p, ofNode? n = .error p ↔ ∃ before m after, n.postorder = before ++ m :: after ∧
        (∀ k ∈ before, ∀ q wording, ¬ k.Fault q wording) ∧ m.Fault p p.message := by
  have hproblem (p : NodeProblem) :
      ofNode? n = .error p ↔ n.postorder.findSome? Node.fault? = some p := by
    rw [← problem?_ofNode?, problem?_eq_some_iff]
  have hfirst (p : NodeProblem) : ofNode? n = .error p ↔ ∃ before m after,
      n.postorder = before ++ m :: after ∧ (∀ k ∈ before, ∀ q wording, ¬ k.Fault q wording) ∧
        m.Fault p p.message := by
    rw [hproblem, List.findSome?_eq_some_iff]
    constructor
    · rintro ⟨before, m, after, heq, hfault, hbefore⟩
      exact ⟨before, m, after, heq, fun k hk => Node.fault?_eq_none_iff.1 (hbefore k hk),
        Node.fault_of_fault? hfault⟩
    · rintro ⟨before, m, after, heq, hbefore, hfault⟩
      exact ⟨before, m, after, heq, hfault.fault?_eq, fun k hk =>
        Node.fault?_eq_none_iff.2 (hbefore k hk)⟩
  refine ⟨⟨?_, ?_⟩, hfirst⟩
  · rintro ⟨p, hp⟩
    obtain ⟨before, m, after, heq, -, hfault⟩ := (hfirst p).1 hp
    exact ⟨m, by simp [heq], p, p.message, hfault⟩
  · rintro ⟨m, hm, p, wording, hfault⟩
    cases hresult : ofNode? n with
    | error q => exact ⟨q, rfl⟩
    | ok b =>
      have hnone : n.postorder.findSome? Node.fault? = none := by
        rw [← problem?_ofNode?, hresult, problem?]
      have hown := List.findSome?_eq_none_iff.1 hnone m hm
      rw [hfault.fault?_eq] at hown
      cases hown

/-- A node below a leaf is refused too, and before the repetition with several children. -/
example : ofNode? (.mk "oneOrMore" [] [.mk "digit" [] [.mk "digits" [] []], .mk "word" [] []]) =
    .error (.unknownKind "digits") := by rfl

end PatternProse.Block
