import PatternProse.Cli.Arguments
import PatternProse.Proofs.Answers
import PatternProse.Proofs.Cli.StyledText

/-!
# Escape characters in command lines

The texts of a command are arguments of the command line or the ends of some: the operands, and
the values of options.

## Main statements

* `answers_readArguments` — what is given in the arguments of a command.
* `isInertCommand_of_ofArguments?` — the texts of the command that a command line asks for.
-/

namespace PatternProse.Cli

/-- Whether no text of a command has an escape character. The name of a file is none of these, as
it is not written anywhere. -/
def IsInertCommand : Command → Prop
  | .explain input flags _ => IsInert input ∧ IsInert flags
  | .flags letters => IsInert letters
  | .build _ _ => True
  | .test input text flags => IsInert input ∧ IsInert text ∧ IsInert flags
  | .blocks => True

/-! ### Options and operands -/

/-- Whether nothing that has been given has an escape character. -/
structure IsInertGiven (g : Given) : Prop where
  switches : ∀ s ∈ g.switches, IsInert s.2
  operands : ∀ operand ∈ g.operands, IsInert operand

namespace IsInertGiven

variable {g : Given}

theorem empty : IsInertGiven {} := ⟨by simp, by simp⟩

theorem value (h : IsInertGiven g) (s : Switch) : IsInert (g.value s) := by
  rw [Given.value]
  cases hlookup : g.switches.lookup s with
  | none => exact isInert_literal rfl
  | some value =>
    obtain ⟨before, after, heq, -⟩ := List.lookup_eq_some_iff.1 hlookup
    exact h.switches (s, value) (heq ▸ List.mem_append_right _ (.head _))

theorem add (h : IsInertGiven g) (s : Switch) {value : String} (hvalue : IsInert value) :
    Answers (fun _ => True) IsInertGiven (g.add s value) := by
  unfold Given.add
  split
  · exact .error trivial
  · exact .error trivial
  · split
    · exact .error trivial
    · exact .ok ⟨List.forall_mem_cons.2 ⟨hvalue, h.switches⟩, h.operands⟩

theorem addOperand (h : IsInertGiven g) (arity : Nat) {operand : String}
    (hoperand : IsInert operand) :
    Answers (fun _ => True) IsInertGiven (g.addOperand arity operand) := by
  unfold Given.addOperand
  split
  · refine .ok ⟨h.switches, ?_⟩
    exact List.forall_mem_append.2 ⟨h.operands, List.forall_mem_singleton.2 hoperand⟩
  · exact .error trivial

end IsInertGiven

/-! ### Arguments -/

variable {g : Given} {switches : List Switch}

/-- An answer of what has been given, with the option that waits for its value. -/
abbrev AnswersGiven (r : Except Stop (Given × Option Switch)) : Prop :=
  Answers (fun _ => True) (fun read => IsInertGiven read.1) r

theorem IsInertGiven.answersGiven_add (h : IsInertGiven g) (s : Switch) {value : String}
    (hvalue : IsInert value) : AnswersGiven (do return (← g.add s value, none)) :=
  .bind (h.add s hvalue) fun _ hg => .ok hg

theorem IsInertGiven.readLetters (h : IsInertGiven g) {cs : List Char}
    (hcs : escapeCharacter ∉ cs) : AnswersGiven (readLetters switches g cs) := by
  induction cs generalizing g with
  | nil => exact .ok h
  | cons c cs ih =>
    rw [List.mem_cons, not_or] at hcs
    unfold Cli.readLetters
    split
    · exact .error trivial
    · next s _ =>
      split
      · split
        · exact .ok h
        · exact h.answersGiven_add s (isInert_ofList fun hmem => hcs.2 (.tail _ hmem))
        · exact h.answersGiven_add s (isInert_ofList hcs.2)
      · exact .bind (h.add s (isInert_literal rfl)) fun g hg => ih hg hcs.2

theorem IsInertGiven.readName (h : IsInertGiven g) {cs : List Char}
    (hcs : escapeCharacter ∉ cs) : AnswersGiven (readName switches g cs) := by
  simp only [Cli.readName]
  split
  · exact .error trivial
  · next s _ _ =>
    split
    · exact .ok h
    · exact h.answersGiven_add s (isInert_literal rfl)
  · next s c value _ hrest =>
    split
    · refine h.answersGiven_add s (isInert_ofList fun hmem => hcs ?_)
      have hmem' : escapeCharacter ∈ cs.dropWhile (· != '=') := hrest ▸ List.mem_cons_of_mem _ hmem
      exact (List.dropWhile_sublist _).subset hmem'
    · exact .error trivial

theorem IsInertGiven.addAwaited (h : IsInertGiven g) (s : Switch) {next : String}
    (hnext : IsInert next) : Answers (fun _ => True) IsInertGiven (addAwaited g s next) := by
  unfold Cli.addAwaited
  split
  · exact h.add s hnext
  · exact .error trivial

/-- The letters or the name in an argument are characters of it. -/
theorem subset_of_ofChars {cs ds : List Char}
    (h : Argument.ofChars cs = .named ds ∨ Argument.ofChars cs = .letters ds) : ds ⊆ cs := by
  unfold Argument.ofChars at h
  split at h
  · rcases h with h | h <;> cases h
  · rcases h with h | h <;> cases h
    exact List.subset_cons_of_subset _ (List.subset_cons_self _ _)
  · rcases h with h | h <;> cases h
    exact List.subset_cons_self _ _
  · rcases h with h | h <;> cases h

theorem IsInertGiven.answers_foldlM (h : IsInertGiven g) (arity : Nat) {operands : List String}
    (hoperands : ∀ operand ∈ operands, IsInert operand) :
    Answers (fun _ => True) IsInertGiven (operands.foldlM (Given.addOperand arity) g) := by
  induction operands generalizing g with
  | nil => exact .ok h
  | cons operand operands ih =>
    obtain ⟨hoperand, hoperands⟩ := List.forall_mem_cons.1 hoperands
    rw [List.foldlM_cons]
    exact .bind (h.addOperand arity hoperand) fun g hg => ih hg hoperands

theorem answers_readArguments (switches : List Switch) (arity : Nat) : (args : List String) →
    {g : Given} → IsInertGiven g → (∀ arg ∈ args, IsInert arg) →
      Answers (fun _ => True) IsInertGiven (readArguments switches arity g args)
  | [], _, h, _ => .ok h
  | arg :: rest, g, h, hargs => by
    obtain ⟨harg, hrest⟩ := List.forall_mem_cons.1 hargs
    simp only [readArguments]
    split
    case h_1 => exact h.answers_foldlM arity hrest
    case h_4 =>
      have hadd := h.addOperand arity harg
      split
      · next g hg => exact answers_readArguments switches arity rest (hadd.of_ok hg) hrest
      · exact .error trivial
    case' h_2 cs hcs =>
      have hread : AnswersGiven (readName switches g cs) :=
        h.readName fun hmem => harg (subset_of_ofChars (.inl hcs) hmem)
      generalize readName switches g cs = read at hread ⊢
    case' h_3 cs hcs =>
      have hread : AnswersGiven (readLetters switches g cs) :=
        h.readLetters fun hmem => harg (subset_of_ofChars (.inr hcs) hmem)
      generalize readLetters switches g cs = read at hread ⊢
    -- After an option, its value may have to be taken from the next argument.
    all_goals
      split
      · exact .error trivial
      · next g =>
        have hg : IsInertGiven g := hread.of_ok rfl
        exact answers_readArguments switches arity _ hg hrest
      · exact .error trivial
      · next g s next rest =>
        have hg : IsInertGiven g := hread.of_ok rfl
        obtain ⟨hnext, hrest⟩ := List.forall_mem_cons.1 hrest
        have hadd := hg.addAwaited s hnext
        split
        · next g hadded => exact answers_readArguments switches arity rest (hadd.of_ok hadded) hrest
        · exact .error trivial

/-! ### Commands -/

theorem IsInertGiven.isInertCommand (h : IsInertGiven g) {verb : Verb} {command : Command}
    (hcommand : verb.command? g = some command) : IsInertCommand command := by
  cases verb with
  | explain =>
    simp only [Verb.command?] at hcommand
    split at hcommand
    · next hoperands =>
      cases hcommand
      exact ⟨h.operands _ (hoperands ▸ .head _), h.value _⟩
    · cases hcommand
  | flags =>
    simp only [Verb.command?] at hcommand
    split at hcommand
    · next hoperands =>
      cases hcommand
      exact h.operands _ (hoperands ▸ .head _)
    · cases hcommand
  | build =>
    simp only [Verb.command?] at hcommand
    split at hcommand
    · cases hcommand
      trivial
    · cases hcommand
  | test =>
    simp only [Verb.command?] at hcommand
    split at hcommand
    · next hoperands =>
      cases hcommand
      exact ⟨h.operands _ (hoperands ▸ .head _), h.operands _ (hoperands ▸ .tail _ (.head _)),
        h.value _⟩
    · cases hcommand
  | blocks =>
    cases hcommand
    trivial

/-- Whether the command that is asked for, if there is one, has no escape character. -/
def IsInertRequest (request : Request) : Prop :=
  ∀ command noColor, request = .run command noColor → IsInertCommand command

theorem answers_readCommand (program : Given) (verb : Verb) {args : List String}
    (hargs : ∀ arg ∈ args, IsInert arg) :
    Answers (fun _ => True) IsInertRequest (readCommand program verb args) := by
  rw [readCommand]
  refine .bind (answers_readArguments _ _ args .empty hargs) fun g hg => ?_
  split
  · next command hcommand =>
    refine .ok ?_
    rintro _ _ ⟨⟩
    exact hg.isInertCommand hcommand
  · exact .error trivial

theorem answers_readProgram : (program : Given) → (args : List String) →
    (∀ arg ∈ args, IsInert arg) →
      Answers (fun _ => True) IsInertRequest (readProgram program args)
  | _, [], _ => .error trivial
  | program, arg :: rest, hargs => by
    have hrest := (List.forall_mem_cons.1 hargs).2
    simp only [readProgram]
    split
    · exact .error trivial
    · split
      · exact .error trivial
      · exact answers_readProgram _ rest hrest
    · split
      · exact .error trivial
      · exact answers_readProgram _ rest hrest
    · split
      · split
        · exact .error trivial
        · split <;> exact .error trivial
        · exact .error trivial
      · split
        · exact answers_readCommand _ _ hrest
        · exact .error trivial

theorem isInertCommand_of_ofArguments? {args : List String} {command : Command} {noColor : Bool}
    (h : Request.ofArguments? args = some (.run command noColor))
    (hargs : ∀ arg ∈ args, IsInert arg) : IsInertCommand command := by
  have hread := answers_readProgram {} args hargs
  rw [Request.ofArguments?] at h
  split at h
  · next request hrequest =>
    cases h
    exact hread.of_ok hrequest command noColor rfl
  all_goals cases h

end PatternProse.Cli
