import SqlDialects.CommandLine.Display
import SqlDialects.Proofs.Console.Escaping
import SqlDialects.Proofs.Json.Numbers

/-!
# Messages and reports can be shown

What the command line shows is markup in order, so that showing never gets in the way of an exit
code.

**Results.**
* `exists_printMarkup_message`: a message is shown, whatever its text is.
* `exists_printIssues`: the table of a report is shown if no code of an issue holds an opening
  bracket.
-/

namespace SqlDialects
namespace CommandLine

open Console.Markup

/-! ## Messages -/

/-- The tag that messages stand in, when it is open. -/
def messageTag : OpenTag :=
  ⟨Console.Style.normal ['r', 'e', 'd'], []⟩

theorem applyTag_message (place : Nat) :
    applyTag [] place ['r', 'e', 'd'] = .ok [messageTag] := by
  rfl

theorem applyTag_messageEnd (place : Nat) :
    applyTag [messageTag] place ['/', 'r', 'e', 'd'] = .ok [] := by
  have hname : tagName ['/', 'r', 'e', 'd'] = ['/', 'r', 'e', 'd'] := by decide
  have htrim : Text.trim Text.isSpace ['r', 'e', 'd'] = ['r', 'e', 'd'] := by decide +kernel
  have hplain : messageTag.style.startsWith "@" = false := by decide +kernel
  have hclose : close? (Console.Style.normal ['r', 'e', 'd']) [messageTag] =
      some (messageTag, []) := if_pos rfl
  simp only [applyTag, hname, htrim, hclose, closed, hplain, Bool.false_eq_true, if_false]

/-- Names of classes are words. -/
theorem isNameChar_of_mem_label
    (cls : ErrorClass)
    {c : Char}
    (hc : c ∈ cls.label.toList) :
    isNameChar c = true := by
  revert c
  rw [← List.all_eq_true]
  cases cls with
  | library l => cases l <;> decide +kernel
  | general g => cases g <;> decide +kernel
  | own o => exact o.name.isName
  | _ => decide +kernel

/-- A message in its tag, after a text without brackets and backslashes. -/
theorem inOrder_message
    {head : List Char}
    (hhead : ∀ c ∈ head, c ≠ '\\' ∧ c ≠ '[')
    (message : List Char) :
    InOrder [] ("[red]".toList ++ head ++ escape message ++ "[/red]".toList) := by
  have hopen : IsTag ['r', 'e', 'd'] := ⟨'r', ['e', 'd'], rfl, by decide, by simp⟩
  have hclose : IsTag ['/', 'r', 'e', 'd'] := ⟨'/', ['r', 'e', 'd'], rfl, by decide, by simp⟩
  have hmessage : InOrder [messageTag] (escape message ++ bracketed ['/', 'r', 'e', 'd']) :=
    inOrder_escape (.inr ⟨_, rfl⟩) (inOrder_closing hclose applyTag_messageEnd) message
  have h := inOrder_opening hopen applyTag_message (inOrder_append_of_letters hhead hmessage)
  rwa [← List.append_assoc, ← List.append_assoc] at h

/-- A message is shown, alone or after the name of its class. -/
theorem exists_printMarkup_message
    (width : Nat)
    (cls : Option ErrorClass)
    (message : String) :
    ∃ s, printMarkup width (messageMarkup (cls.map ErrorClass.label) message) = .ok s := by
  have horder : InOrder [] (messageMarkup (cls.map ErrorClass.label) message) := by
    cases cls with
    | none =>
        exact inOrder_message (by simp) message.toList
    | some cls =>
        refine inOrder_message (fun c hc => ?_) message.toList
        rcases List.mem_append.mp hc with hletter | hcolon
        · have hname := isNameChar_of_mem_label cls hletter
          constructor <;> rintro rfl <;> exact absurd hname (by decide)
        · simp only [List.mem_cons, List.not_mem_nil, or_false] at hcolon
          rcases hcolon with rfl | rfl <;> decide
  obtain ⟨t, ht⟩ := exists_plain_of_inOrder horder
  exact ⟨printText width t, by rw [printMarkup, ht]⟩

/-! ## Reports -/

/-- The texts of cells can be taken one by one. -/
theorem exists_cellTexts
    {cells : List (List Char)}
    (h : ∀ c ∈ cells, ∃ t, plain c = .ok t) :
    ∃ ts, cellTexts cells = .ok ts := by
  induction cells with
  | nil =>
      exact ⟨[], rfl⟩
  | cons c cells ih =>
      obtain ⟨t, ht⟩ := h c (by simp)
      obtain ⟨ts, hts⟩ := ih fun d hd => h d (by simp [hd])
      exact ⟨t :: ts, by rw [cellTexts, ht, hts]; rfl⟩

theorem exists_rowTexts
    {rows : List (List (List Char))}
    (h : ∀ r ∈ rows, ∃ ts, cellTexts r = .ok ts) :
    ∃ ts, rowTexts rows = .ok ts := by
  induction rows with
  | nil =>
      exact ⟨[], rfl⟩
  | cons r rows ih =>
      obtain ⟨t, ht⟩ := h r (by simp)
      obtain ⟨ts, hts⟩ := ih fun d hd => h d (by simp [hd])
      exact ⟨t :: ts, by rw [rowTexts, ht, hts]; rfl⟩

/-- The name of a severity stands between tags that match. -/
theorem plain_severity (s : Severity) :
    plain ("[" ++ severityColour s ++ "]" ++ s.label ++ "[/" ++ severityColour s ++ "]").toList =
      .ok s.label.toList := by
  cases s with
  | error => decide +kernel
  | warning => decide +kernel

/-- Positions are digits, perhaps after a hyphen. -/
theorem of_mem_positionText
    {position : Option Int} {c : Char}
    (hc : c ∈ positionText position) :
    c = '-' ∨ Json.isDigit c = true := by
  cases position with
  | none =>
      exact .inl (List.mem_singleton.mp hc)
  | some n =>
      rw [positionText, Decimal.intChars] at hc
      split at hc
      · exact (List.mem_cons.mp hc).imp id Decimal.isDigit_of_mem_natChars
      · exact .inr (Decimal.isDigit_of_mem_natChars hc)

theorem not_mem_positionText (position : Option Int) :
    '[' ∉ positionText position :=
  fun h => (of_mem_positionText h).elim (by decide) (by decide)

/-- A text without an opening bracket is its own markup. -/
theorem exists_plain_of_no_bracket
    {cs : List Char}
    (h : '[' ∉ cs) :
    ∃ t, plain cs = .ok t :=
  exists_plain_of_inOrder (inOrder_of_no_bracket h)

/-- The table of a report is shown if no code opens a bracket. -/
theorem exists_printIssues
    (width : Nat)
    {r : Report}
    (hcodes : ∀ i ∈ r.issues, '[' ∉ i.code.toList) :
    ∃ s, printIssues width r = .ok s := by
  unfold printIssues
  split
  · exact ⟨_, rfl⟩
  · obtain ⟨ts, hts⟩ : ∃ ts, rowTexts (r.issues.map issueRow) = .ok ts := by
      refine exists_rowTexts fun row hrow => exists_cellTexts fun cell hcell => ?_
      obtain ⟨i, hi, rfl⟩ := List.mem_map.mp hrow
      simp only [issueRow, List.mem_cons, List.not_mem_nil, or_false] at hcell
      rcases hcell with rfl | rfl | rfl | rfl | rfl
      · exact exists_plain_of_no_bracket (hcodes i hi)
      · exact ⟨_, plain_severity i.severity⟩
      · exact exists_plain_of_no_bracket (not_mem_positionText i.line)
      · exact exists_plain_of_no_bracket (not_mem_positionText i.column)
      · exact exists_plain_escape i.message.toList
    exact ⟨_, by rw [hts]; rfl⟩

end CommandLine
end SqlDialects
