import PatternProse.Cli.Report
import PatternProse.Proofs.Cli.Arguments
import PatternProse.Proofs.Cli.BlockDocument
import PatternProse.Proofs.Cli.Explanation
import PatternProse.Proofs.PatternInput

/-!
# Escape characters in reports

What a command writes is put together from its arguments, from what it reads, and from words. None
of its pieces has an escape character if the arguments and the texts that are read have none.

## Main definitions

* `IsInertReport` — reports that have no escape characters in any piece.
* `IsInertFile` — files that neither hold nor are refused with an escape character.

The main statement is `isInertReport_report`.
-/

namespace PatternProse.Cli

open StyledText (plain styled colored newline isInert_plain isInert_styled isInert_colored
  isInert_newline isInert_flatMap)

/-- Whether no piece of a report has an escape character. -/
structure IsInertReport (r : Report) : Prop where
  output : r.output.IsInert
  failure : ∀ message ∈ r.failure, IsInert message

namespace IsInertReport

theorem written {output : StyledText} (h : output.IsInert) : IsInertReport { output } :=
  ⟨h, by simp⟩

theorem fail {message : String} (h : IsInert message) : IsInertReport (.fail message) := by
  refine ⟨StyledText.isInert_nil, ?_⟩
  rintro _ ⟨⟩
  exact h

theorem after {written : StyledText} (h : written.IsInert) {r : Report} (hr : IsInertReport r) :
    IsInertReport (.after written r) := ⟨h.append hr.output, hr.failure⟩

end IsInertReport

theorem isInert_blanks (n : Nat) : IsInert (String.ofList (List.replicate n ' ')) :=
  isInert_ofList (escapeCharacter_notMem_replicate (by decide) n)

/-! ### Explanations -/

theorem IsInertFragment.lines {f : Fragment} (h : IsInertFragment f) :
    (fragmentLines f).IsInert := by
  have hindent := isInert_blanks (2 * (f.depth + 1))
  refine .append (.append (.append (.append (isInert_plain hindent) (isInert_styled _ h.sourceText))
    isInert_newline) ?_) isInert_newline
  exact isInert_plain (.append (.append hindent (isInert_literal rfl)) h.explanation)

theorem isInert_titled {title : String} (htitle : IsInert title) {fs : List Fragment}
    (hfs : ∀ f ∈ fs, IsInertFragment f) : (titled title fs).IsInert :=
  .append (.append (isInert_styled _ htitle) isInert_newline)
    (isInert_flatMap fun f hf => (hfs f hf).lines)

theorem IsInertExplanation.literal {e : Explanation} (h : IsInertExplanation e) :
    IsInert e.literal :=
  .append (.append (.append (isInert_literal rfl) h.pattern) (isInert_literal rfl)) h.flags

theorem IsInertExplanation.lines {e : Explanation} (h : IsInertExplanation e) :
    (explanationLines e).IsInert := by
  refine .append (.append (.append (.append (.append (.append
    (isInert_styled _ (isInert_literal rfl)) isInert_newline) (isInert_plain (isInert_literal rfl)))
    (isInert_colored _ h.literal)) isInert_newline) isInert_newline) ?_
  split
  · exact .append (isInert_styled _ (isInert_literal rfl)) isInert_newline
  · refine .append (isInert_titled (isInert_literal rfl) h.fragments) ?_
    split
    · exact StyledText.isInert_nil
    · exact .append isInert_newline (isInert_titled (isInert_literal rfl) h.flagFragments)

/-- A text is read as a pattern and flags that are parts of it. -/
theorem isInert_ofText {text flags : String} (htext : IsInert text) (hflags : IsInert flags) :
    IsInert (PatternInput.ofText text flags).pattern ∧
      IsInert (PatternInput.ofText text flags).flags := by
  simp only [PatternInput.ofText]
  split
  · next rest hrest =>
    split
    · next pattern after hcut =>
      obtain ⟨rfl, -⟩ := PatternInput.cutAtLastSlash?_eq_some_iff.1 hcut
      constructor
      · exact htext.ofList fun c hc => by simp [hrest, hc]
      · exact htext.ofList fun c hc => by simp [hrest, hc]
    · exact ⟨htext, hflags⟩
  · exact ⟨htext, hflags⟩

theorem isInertReport_explain {input flags : String} (hinput : IsInert input)
    (hflags : IsInert flags) (json : Bool) : IsInertReport (explainReport input flags json) := by
  obtain ⟨hpattern, hflags⟩ := isInert_ofText hinput hflags
  have hexplain := answers_explain hpattern hflags
  rw [explainReport, explainInput]
  split
  · next e he => exact .fail (hexplain.of_error he)
  · next e he =>
    refine .written ?_
    split
    · exact .append (isInert_plain (isInert_pretty _)) isInert_newline
    · exact (hexplain.of_ok he).lines

theorem isInertReport_flags {flags : String} (h : IsInert flags) :
    IsInertReport (flagsReport flags) := by
  refine .written ?_
  split
  · exact .append (isInert_styled _ (isInert_literal rfl)) isInert_newline
  · exact isInert_titled (isInert_literal rfl) (isInert_explainFlags h)

/-! ### Blocks -/

/-- Whether the texts of a file have no escape character. If the file cannot be read, the system's
wording of the failure must have none. -/
def IsInertFile : Except String String → Prop :=
  Answers IsInert IsInertDocument

theorem isInert_patternLines {pattern : String} (h : IsInert pattern) :
    (patternLines pattern).IsInert :=
  .append (.append (.append (.append (isInert_styled _ (isInert_literal rfl)) isInert_newline)
    (isInert_plain (isInert_literal rfl))) (isInert_colored _ h)) isInert_newline

theorem isInertReport_build {document : Except String String} (h : IsInertFile document)
    (explains : Bool) : IsInertReport (buildReport document explains) := by
  cases h with
  | error h => exact .fail h
  | @ok document h =>
    simp only [buildReport]
    split
    · next p hp => exact .fail (h.answers.of_error hp)
    · next bs hbs =>
      have hpattern := h.answers.of_ok hbs
      refine .after (isInert_patternLines hpattern) ?_
      split
      · refine .after isInert_newline ?_
        have hflags : IsInert "" := isInert_literal rfl
        have hexplain := answers_explain hpattern hflags
        split
        · next e he => exact .fail (hexplain.of_error he)
        · next e he => exact .written (hexplain.of_ok he).lines
      · exact .written StyledText.isInert_nil

theorem isInert_padded {s : String} (h : IsInert s) (width : Nat) : IsInert (padded width s) :=
  h.append (isInert_blanks _)

theorem isInert_blockLine {b : Block} (h : IsInert b.pattern) : (blockLine b).IsInert := by
  obtain ⟨hname, hlabel, hdescription⟩ := isInert_kind b.kind
  refine .append (.append (.append (.append (.append (.append (isInert_plain (isInert_literal rfl))
    (isInert_colored _ (isInert_padded hname 22))) ?_) (isInert_colored _ (isInert_padded h 10)))
    (isInert_plain (isInert_literal rfl))) (isInert_styled _ hdescription)) isInert_newline
  exact isInert_plain (.append (.append (isInert_literal rfl) (isInert_padded hlabel 20))
    (isInert_literal rfl))

theorem isInertReport_blocks : IsInertReport blocksReport := by
  refine .written (.append (.append (isInert_styled _ (isInert_literal rfl)) isInert_newline)
    (isInert_flatMap fun b hb => isInert_blockLine ?_))
  obtain ⟨kind, -, rfl⟩ := List.mem_map.1 hb
  have hfresh : IsInertSettings {} := ⟨isInert_literal rfl, isInert_literal rfl⟩
  exact isInert_ofList (hfresh.escapeCharacter_notMem_chars (by simp) kind)

/-! ### Matches -/

/-- Whether what is shown of a match has no escape character. -/
structure IsInertMatch (m : Match) : Prop where
  text : IsInert m.text
  groups : ∀ group ∈ m.groups, ∀ text ∈ group, IsInert text

theorem isInert_slice {text : String} (h : IsInert text) (start stop : Nat) :
    IsInert ((Subject.ofString text).slice start stop) := by
  refine h.ofList fun c hc => ?_
  rw [Subject.ofString, Array.toList_extract] at hc
  exact List.mem_of_mem_drop (List.mem_of_mem_take hc)

theorem answers_findMatches {pattern flags text : String} (hpattern : IsInert pattern)
    (hflags : IsInert flags) (htext : IsInert text) :
    Answers (fun e => IsInert e.message) (fun found => ∀ m ∈ found, IsInertMatch m)
      (findMatches pattern flags text) := by
  unfold findMatches
  split
  · next e he => exact .error (isInert_message_of_compile he hpattern hflags)
  · refine .ok fun m hm => ?_
    obtain ⟨found, -, rfl⟩ := List.mem_map.1 hm
    refine ⟨isInert_slice htext _ _, fun group hgroup s hs => ?_⟩
    obtain ⟨capture, -, rfl⟩ := List.mem_map.1 hgroup
    obtain ⟨span, -, rfl⟩ := Option.map_eq_some_iff.1 hs
    exact isInert_slice htext _ _

theorem isInert_groupLine (number : Nat) {group : Option String}
    (h : ∀ text ∈ group, IsInert text) : (groupLine number group).IsInert := by
  refine .append (.append (isInert_plain (.append (.append (isInert_literal rfl)
    (isInert_decimal number)) (isInert_literal rfl))) ?_) isInert_newline
  cases group with
  | none => exact isInert_styled _ (isInert_literal rfl)
  | some text => exact isInert_colored _ (h text rfl)

theorem IsInertMatch.lines {m : Match} (h : IsInertMatch m) (number : Nat) :
    (matchLines number m).IsInert := by
  refine .append (.append (.append (isInert_plain ?_) (isInert_colored _ h.text)) isInert_newline)
    (isInert_flatMap fun entry hentry => ?_)
  · exact .append (.append (.append (.append (.append (.append (isInert_literal rfl)
      (isInert_decimal number)) (isInert_literal rfl)) (isInert_decimal _)) (isInert_literal rfl))
      (isInert_decimal _)) (isInert_literal rfl)
  · exact isInert_groupLine _ (h.groups _ (List.fst_mem_of_mem_zipIdx hentry))

theorem isInert_foundLines {found : List Match} (h : ∀ m ∈ found, IsInertMatch m) :
    (foundLines found).IsInert := by
  rw [foundLines]
  split
  · exact .append (isInert_styled _ (isInert_literal rfl)) isInert_newline
  · refine .append (.append (.append (.append (.append
      (isInert_styled _ (isInert_literal rfl)) (isInert_plain (isInert_literal rfl)))
      (isInert_colored _ ?_)) isInert_newline) isInert_newline)
      (isInert_flatMap fun entry hentry => ?_)
    · exact .append (isInert_decimal _) (isInert_literal rfl)
    · exact (h _ (List.fst_mem_of_mem_zipIdx hentry)).lines _

/-- What is written before the search. -/
theorem isInert_announcement {pattern flags text : String} (hpattern : IsInert pattern)
    (hflags : IsInert flags) (htext : IsInert text) :
    (styled .bold "Testing pattern..." ++ newline ++
      plain "  Pattern: " ++ colored .cyan ("/" ++ pattern ++ "/" ++ flags) ++ newline ++
      plain "  Input:   " ++ colored .yellow text ++ newline ++ newline).IsInert := by
  have hliteral : IsInert ("/" ++ pattern ++ "/" ++ flags) :=
    .append (.append (.append (isInert_literal rfl) hpattern) (isInert_literal rfl)) hflags
  exact .append (.append (.append (.append (.append (.append (.append (.append
    (isInert_styled _ (isInert_literal rfl)) isInert_newline) (isInert_plain (isInert_literal rfl)))
    (isInert_colored _ hliteral)) isInert_newline) (isInert_plain (isInert_literal rfl)))
    (isInert_colored _ htext)) isInert_newline) isInert_newline

theorem isInertReport_test {input text flags : String} (hinput : IsInert input)
    (htext : IsInert text) (hflags : IsInert flags) :
    IsInertReport (testReport input text flags) := by
  obtain ⟨hpattern, hflags⟩ := isInert_ofText hinput hflags
  have hfound := answers_findMatches hpattern hflags htext
  rw [testReport]
  refine .after (isInert_announcement hpattern hflags htext) ?_
  split
  · next e he => exact .fail (hfound.of_error he)
  · next found h => exact .written (isInert_foundLines (hfound.of_ok h))

/-! ### Commands -/

/-- A report has no escape character if the command and the file that it is about have none. -/
theorem isInertReport_report {files : String → Except String String} {command : Command}
    (hcommand : IsInertCommand command)
    (hfile : ∀ file explains, command = .build file explains → IsInertFile (files file)) :
    IsInertReport (command.report files) := by
  cases command with
  | explain input flags json => exact isInertReport_explain hcommand.1 hcommand.2 json
  | flags letters => exact isInertReport_flags hcommand
  | build file explains => exact isInertReport_build (hfile file explains rfl) explains
  | test input text flags => exact isInertReport_test hcommand.1 hcommand.2.1 hcommand.2.2
  | blocks => exact isInertReport_blocks

end PatternProse.Cli
