import PatternProse.Proofs.Json.Scalar
import PatternProse.Proofs.Json.Source

/-!
# Documents read back

The text that a value is written as on one line is read into a tree of that value.

## Main definitions

* `Json.IsPlain` — values whose numbers are natural numbers of 64 bits.
* `Json.Tree.Denotes` — what a tree is the tree of.
* `Json.source` — a value as it is written on one line.

The main statement is `Json.exists_ofText_compact`.
-/

namespace PatternProse.Json

/-- A value in which all numbers are natural numbers of 64 bits. -/
inductive IsPlain : Json → Prop
  | null : IsPlain .null
  | bool (b : Bool) : IsPlain (.bool b)
  | natural {n : Nat} (h : n ≤ maxNatural) : IsPlain (.number (.natural n))
  | string (s : String) : IsPlain (.string s)
  | array {items : List Json} (h : ∀ v ∈ items, IsPlain v) : IsPlain (.array items)
  | object {members : List (String × Json)} (h : ∀ m ∈ members, IsPlain m.2) :
    IsPlain (.object members)

attribute [simp] IsPlain.string

@[simp] theorem isPlain_array {items : List Json} :
    IsPlain (.array items) ↔ ∀ v ∈ items, IsPlain v :=
  ⟨fun h => by cases h; assumption, .array⟩

@[simp] theorem isPlain_object {members : List (String × Json)} :
    IsPlain (.object members) ↔ ∀ m ∈ members, IsPlain m.2 :=
  ⟨fun h => by cases h; assumption, .object⟩

mutual

/-- A tree of a value, wherever its parts stand. -/
inductive Tree.Denotes : Tree → Json → Prop
  | scalar (s : Scalar) (stop : Nat) : Tree.Denotes (.scalar (.ok s) stop) s.toJson
  | array (start : Nat) {items : Items} {values : List Json} (h : items.Denote values) :
    Tree.Denotes (.array start items) (.array values)
  | object (start : Nat) {members : Members} {values : List (String × Json)}
    (h : members.Denote values) : Tree.Denotes (.object start members) (.object values)

/-- Items of some values, up to the end of an array. -/
inductive Items.Denote : Items → List Json → Prop
  | done (stop : Nat) : Items.Denote (.done stop) []
  | more (start closing : Nat) {t : Tree} {v : Json} {rest : Items} {values : List Json}
    (h : t.Denotes v) (hrest : rest.Denote values) :
    Items.Denote (.more start t closing rest) (v :: values)

/-- Members with some names and values, up to the end of an object. -/
inductive Members.Denote : Members → List (String × Json) → Prop
  | done (stop : Nat) : Members.Denote (.done stop) []
  | more (name : String) (closing : Nat) {t : Tree} {v : Json} {rest : Members}
    {values : List (String × Json)} (h : t.Denotes v) (hrest : rest.Denote values) :
    Members.Denote (.more (.ok name) closing t rest) ((name, v) :: values)

end

theorem Tree.Denotes.eq_scalar {t : Tree} {s : Scalar} (h : t.Denotes s.toJson) :
    ∃ stop, t = .scalar (.ok s) stop := by
  generalize hv : s.toJson = v at h
  cases h with
  | scalar s' stop =>
    have : s' = s := by cases s <;> cases s' <;> cases hv <;> rfl
    exact ⟨stop, by rw [this]⟩
  | array => cases s <;> cases hv
  | object => cases s <;> cases hv

theorem Tree.Denotes.eq_array {t : Tree} {values : List Json} (h : t.Denotes (.array values)) :
    ∃ start items, t = .array start items ∧ items.Denote values := by
  generalize hv : Json.array values = v at h
  cases h with
  | scalar s stop => cases s <;> cases hv
  | array start h => cases hv; exact ⟨start, _, rfl, h⟩
  | object => cases hv

theorem Tree.Denotes.eq_object {t : Tree} {values : List (String × Json)}
    (h : t.Denotes (.object values)) :
    ∃ start members, t = .object start members ∧ members.Denote values := by
  generalize hv : Json.object values = v at h
  cases h with
  | scalar s stop => cases s <;> cases hv
  | array => cases hv
  | object start h => cases hv; exact ⟨start, _, rfl, h⟩

/-! ### Written values -/

mutual

/-- A value as it is written on one line. -/
def source : Json → Source
  | .array items => .array (sources items)
  | .object members => .object (memberSources members)
  | v => .scalar v.compactChars

/-- Items as they are written. -/
def sources : List Json → List Source
  | [] => []
  | v :: vs => v.source :: sources vs

/-- Members as they are written. -/
def memberSources : List (String × Json) → List (List Char × Source)
  | [] => []
  | (name, v) :: ms => (name.toList.flatMap escapeChar, v.source) :: memberSources ms

end

/-- A member as it is written. -/
def written (m : String × Json) : Written where
  name := m.1.toList.flatMap escapeChar
  before := []
  behind := []
  value := m.2.source
  text := m.2.compactChars

theorem sources_eq_map (vs : List Json) :
    sources vs = (vs.map fun v => (v.source, v.compactChars)).map Prod.fst := by
  induction vs with
  | nil => rfl
  | cons v vs ih => rw [sources, ih, List.map_cons, List.map_cons]

theorem memberSources_eq_map (ms : List (String × Json)) :
    memberSources ms = (ms.map written).map fun m => (m.name, m.value) := by
  induction ms with
  | nil => rfl
  | cons m ms ih => rw [memberSources, ih]; rfl

theorem isBlank_nil : IsBlank [] := fun _ hc => nomatch hc

theorem listed_compactItems : (vs : List Json) → Listed (vs.map compactChars) (compactItems vs)
  | [] => .nil isBlank_nil
  | [v] => by
    have h : Listed [v.compactChars] ([] ++ (v.compactChars ++ [])) :=
      .last isBlank_nil isBlank_nil
    rwa [List.nil_append, List.append_nil] at h
  | v :: w :: vs => .more isBlank_nil isBlank_nil (listed_compactItems (w :: vs))

theorem listed_compactMembers : (ms : List (String × Json)) →
    Listed (ms.map fun m => (written m).chars) (compactMembers ms)
  | [] => .nil isBlank_nil
  | [m] => by
    have h : Listed [(written m).chars] ([] ++ ((written m).chars ++ [])) :=
      .last isBlank_nil isBlank_nil
    simpa [compactMembers, written, Written.chars, quoted] using h
  | m :: m' :: ms => by
    have h : Listed ((written m).chars :: (written m').chars :: _)
        ([] ++ ((written m).chars ++ ([] ++ ',' :: compactMembers (m' :: ms)))) :=
      .more isBlank_nil isBlank_nil (listed_compactMembers (m' :: ms))
    simpa [compactMembers, written, Written.chars, quoted] using h

theorem compactChars_natural (n : Nat) :
    (Json.number (.natural n)).compactChars = Decimal.digits n := by
  rw [compactChars, Number.text, Decimal.text, String.toList_ofList]

/-- The text of a value on one line is a text of it. -/
theorem IsPlain.isText {v : Json} (h : IsPlain v) : v.source.IsText v.compactChars := by
  induction h with
  | null => exact .scalar (.word (by decide))
  | bool b => cases b <;> exact .scalar (.word (by decide))
  | @natural n h =>
    have htext := numberText_digits n
    rw [← compactChars_natural] at htext
    exact .scalar (.number htext)
  | string s => exact .scalar (.string (spells_escaped s.toList).stringText)
  | @array items _ ih =>
    have hitems : ∀ i ∈ items.map fun v => (v.source, v.compactChars), i.1.IsText i.2 := by
      simpa using ih
    have hlisted : Listed ((items.map fun v => (v.source, v.compactChars)).map Prod.snd)
        (compactItems items) := by
      simpa [Function.comp_def] using listed_compactItems items
    have htext := Source.IsText.array hitems hlisted
    rwa [← sources_eq_map] at htext
  | @object members _ ih =>
    have hnames : ∀ m ∈ members.map written,
        StringText m.name ∧ IsBlank m.before ∧ IsBlank m.behind := by
      intro m hm
      obtain ⟨m, -, rfl⟩ := List.mem_map.1 hm
      exact ⟨(spells_escaped m.1.toList).stringText, isBlank_nil, isBlank_nil⟩
    have hvalues : ∀ m ∈ members.map written, m.value.IsText m.text := by
      intro m hm
      obtain ⟨m, hmem, rfl⟩ := List.mem_map.1 hm
      exact ih m hmem
    have hlisted : Listed ((members.map written).map Written.chars) (compactMembers members) := by
      simpa [Function.comp_def] using listed_compactMembers members
    have htext := Source.IsText.object hnames hvalues hlisted
    rwa [← memberSources_eq_map] at htext

theorem IsPlain.isDocument {v : Json} (h : IsPlain v) : v.source.IsDocument v.compact :=
  ⟨[], v.compactChars, [], isBlank_nil, isBlank_nil, h.isText, by simp [compact]⟩

/-! ### Trees of written values -/

theorem eq_ok_of_unplaced {α : Type} {r : Except (Problem SyntaxProblem) α} {a : α}
    (h : unplaced r = .ok a) : r = .ok a := by
  cases r with
  | error p => cases h
  | ok b => exact h

theorem denotes_scalar {text : List Char} {s : Scalar} (h : scalarOf text = .ok s) {t : Tree}
    (ht : t.unplaced = (Source.scalar text).tree) : t.Denotes s.toJson := by
  rw [Source.tree, h] at ht
  cases t with
  | scalar taken stop =>
    have htaken := (Tree.scalar.inj ht).1
    rw [eq_ok_of_unplaced htaken]
    exact .scalar s stop
  | _ => cases ht

theorem scalarOf_string (s : String) : scalarOf (Json.string s).compactChars = .ok (.string s) := by
  obtain ⟨stop, htake, hskip⟩ := (spells_escaped s.toList).exists_string (0 + 1) []
  rw [compactChars, quoted, List.cons_append, scalarOf, readScalar_string hskip, htake]
  simp [Except.map, unplaced]

theorem scalarOf_natural {n : Nat} (h : n ≤ maxNatural) :
    scalarOf (Json.number (.natural n)).compactChars = .ok (.number (.natural n)) := by
  obtain ⟨stop, htake⟩ := takeNumber_digits h 0
  obtain ⟨stop', hskip⟩ := (numberText_digits n).exists_skipNumber (rfl : endsNumber [] = true) 0
  obtain ⟨d, ds, hds, hdigits, -⟩ := exists_digits n
  rw [List.append_nil] at hskip
  rw [hds] at htake hskip
  rw [compactChars_natural, hds, scalarOf, readScalar_number (.inr (hdigits d (.head _))) hskip,
    htake]
  rfl

/-- The trees of items are trees of them wherever their parts stand. -/
theorem denote_of_unplaced_items {vs : List Json} {items : Items}
    (h : ∀ v ∈ vs, ∀ {t : Tree}, t.unplaced = v.source.tree → t.Denotes v)
    (hitems : items.unplaced = Source.items (sources vs)) : items.Denote vs := by
  induction vs generalizing items with
  | nil =>
    cases items with
    | done stop => exact .done stop
    | _ => cases hitems
  | cons v vs ih =>
    cases items with
    | more start t closing rest =>
      obtain ⟨-, ht, -, hrest⟩ := Items.more.inj hitems
      exact .more start closing (h v (.head _) ht) (ih (fun w hw => h w (.tail _ hw)) hrest)
    | _ => cases hitems

/-- The trees of members are trees of them wherever their parts stand. -/
theorem denote_of_unplaced_members {ms : List (String × Json)} {members : Members}
    (h : ∀ m ∈ ms, ∀ {t : Tree}, t.unplaced = m.2.source.tree → t.Denotes m.2)
    (hmembers : members.unplaced = Source.members (memberSources ms)) : members.Denote ms := by
  induction ms generalizing members with
  | nil =>
    cases members with
    | done stop => exact .done stop
    | _ => cases hmembers
  | cons m ms ih =>
    cases members with
    | more name closing t rest =>
      obtain ⟨hname, -, ht, hrest⟩ := Members.more.inj hmembers
      rw [(spells_escaped m.1.toList).nameOf_eq] at hname
      rw [eq_ok_of_unplaced hname]
      exact .more m.1 closing (h m (.head _) ht) (ih (fun k hk => h k (.tail _ hk)) hrest)
    | _ => cases hmembers

/-- The tree of a value is a tree of it wherever its parts stand. -/
theorem IsPlain.denotes {v : Json} (h : IsPlain v) {t : Tree}
    (ht : t.unplaced = v.source.tree) : t.Denotes v := by
  induction h generalizing t with
  | null => exact denotes_scalar (s := .null) rfl ht
  | bool b => cases b <;> exact denotes_scalar (s := .bool _) rfl ht
  | natural h => exact denotes_scalar (scalarOf_natural h) ht
  | string s => exact denotes_scalar (scalarOf_string s) ht
  | array _ ih =>
    cases t with
    | array start items => exact .array start (denote_of_unplaced_items ih (Tree.array.inj ht).2)
    | _ => cases ht
  | object _ ih =>
    cases t with
    | object start members =>
      exact .object start (denote_of_unplaced_members ih (Tree.object.inj ht).2)
    | _ => cases ht

/-- The text of a value is a document with a tree of the value. -/
theorem exists_ofText_compact {v : Json} (h : IsPlain v) :
    ∃ t : Tree, t.Denotes v ∧ Document.ofText v.compact = { tree := t } := by
  obtain ⟨t, ht, htext⟩ := Source.exists_ofText h.isDocument
  exact ⟨t, h.denotes ht, htext⟩

end PatternProse.Json
