import PatternProse.Cli.Run
import PatternProse.Proofs.Cli.Report

/-!
# Runs with and without colors

Colors change nothing but color: without its escape sequences, what a run with colors writes is
what the run without colors writes. This takes texts without escape characters of their own, in
the arguments and in the document that is built from, and notices of the parser of the command line
that keep to it.

## Main definitions

* `Notices.AreErasable` — notices that colors change nothing in but color.

The main statement is `erase_run`.
-/

namespace PatternProse.Cli

theorem erase_of_isInert {s : String} (h : IsInert s) : erase s = s := by
  have herase := eraseChars_append h []
  rw [List.append_nil, eraseChars_nil, List.append_nil] at herase
  rw [erase, herase, String.ofList_toList]

/-- Whether what the parser of the command line writes for some arguments with colors is what it
writes without them, but for escape sequences. -/
structure Notices.AreErasable (notices : Notices) (args : List String) : Prop where
  help : erase (notices.help true args) = notices.help false args
  misuse : erase (notices.misuse true args) = notices.misuse false args

theorem IsInertReport.erase_ofReport {r : Report} (h : IsInertReport r) (colors : Bool) :
    (Outcome.ofReport colors r).code = (Outcome.ofReport false r).code ∧
      erase (Outcome.ofReport colors r).output = (Outcome.ofReport false r).output ∧
      erase (Outcome.ofReport colors r).errors = (Outcome.ofReport false r).errors := by
  have houtput := StyledText.erase_render h.output colors
  unfold Outcome.ofReport
  split
  · exact ⟨rfl, houtput, erase_of_isInert (isInert_literal rfl)⟩
  · next message hmessage =>
    refine ⟨rfl, houtput, StyledText.erase_render ?_ colors⟩
    have hmessage := h.failure message hmessage
    have htext : IsInert (" " ++ message) := .append (isInert_literal rfl) hmessage
    exact .append (.append (StyledText.isInert_styled _ (isInert_literal rfl))
      (StyledText.isInert_plain htext)) StyledText.isInert_newline

/-- The run of a command line with colors exits as the run without colors does, and it writes the
same but for escape sequences. -/
theorem erase_run {files : String → Except String String} {args : List String} {notices : Notices}
    (hargs : ∀ arg ∈ args, IsInert arg)
    (hfile : ∀ file explains noColor,
      Request.ofArguments? args = some (.run (.build file explains) noColor) →
        IsInertFile (files file))
    (hnotices : notices.AreErasable args) :
    (run true files args notices).code = (run false files args notices).code ∧
      erase (run true files args notices).output = (run false files args notices).output ∧
      erase (run true files args notices).errors = (run false files args notices).errors := by
  unfold run
  split
  · next command noColor hrequest =>
    have hreport := isInertReport_report (isInertCommand_of_ofArguments? hrequest hargs)
      fun file explains hbuild => hfile file explains noColor (hbuild ▸ hrequest)
    exact hreport.erase_ofReport (true && !noColor)
  · exact ⟨rfl, erase_of_isInert (isInert_literal rfl), erase_of_isInert (isInert_literal rfl)⟩
  · exact ⟨rfl, hnotices.help, erase_of_isInert (isInert_literal rfl)⟩
  · exact ⟨rfl, erase_of_isInert (isInert_literal rfl), hnotices.misuse⟩

/-- The pattern of a document is shown before its explanation fails. The parser of the command line
has nothing to say here; its notice for a misuse would be in color. -/
theorem erase_run_build :
    let document := "[[\"oneOrMore\", \x7b\x7d, [[\"startOfLine\"]]]]"
    let files : String → Except String String := fun _ => .ok document
    let args := ["build", "blocks.json", "-e"]
    let notices : Notices :=
      { misuse := fun colors _ => (StyledText.styled (.boldColor .red) "error:").render colors }
    (Json.Document.ofText document).tree.texts = ["oneOrMore", "startOfLine"] ∧
      (run false files args notices).code = 1 ∧
      (run false files args notices).output = "Pattern:\n  ^+\n\n" ∧
      (run true files args notices).code = (run false files args notices).code ∧
      erase (run true files args notices).output = (run false files args notices).output ∧
      erase (run true files args notices).errors = (run false files args notices).errors := by
  have htexts :
      (Json.Document.ofText "[[\"oneOrMore\", \x7b\x7d, [[\"startOfLine\"]]]]").tree.texts =
        ["oneOrMore", "startOfLine"] := by decide +kernel
  refine ⟨htexts, by decide +kernel, by decide +kernel,
    erase_run ?args (fun _ _ _ _ => .ok ?document) ?notices⟩
  case args =>
    simp only [List.forall_mem_cons]
    exact ⟨isInert_literal rfl, isInert_literal rfl, isInert_literal rfl, List.forall_mem_nil _⟩
  case document =>
    rw [IsInertDocument, htexts]
    simp only [List.forall_mem_cons]
    exact ⟨isInert_literal rfl, isInert_literal rfl, List.forall_mem_nil _⟩
  case notices =>
    have herror : IsInert "error:" := isInert_literal rfl
    exact { help := erase_of_isInert (isInert_literal rfl)
            misuse := StyledText.erase_render (StyledText.isInert_styled _ herror) true }

end PatternProse.Cli
