import SqlDialects.Proofs.CommandLine.GivenDialect
import SqlDialects.Proofs.Console.Verbatim

/-!
# Messages are shown as they are

What the command line shows of a failure of the bridge: the message, letter by letter, in red, after the
name of the class if the exit code is 1.

**Input.**  A failure whose text has no backslash and no shortcode, with brackets, slashes and line
ends in any order; an operation that fails with it, or settings that do.

**Results.**
* `styled_messageMarkup`: the markup of a message is the message in one part, in red.  Only the five
  control characters are missing that no console shows.
* `message_verbatim`: so it is shown, by operations and for settings, and the run ends.
* `not_verbatim_of_ringing`: a bell in a message is not shown.
-/

namespace SqlDialects
namespace CommandLine

open Console.Markup

variable {σ α β : Type}

/-! ## Messages as markup -/

/-- What a message says: perhaps the name of a class, and a text. -/
def messageText (label : Option String) (message : String) : List Char :=
  (match label with
    | some l => l.toList ++ [':', ' ']
    | none => [])
    ++ message.toList

/-- A text that is red all through. -/
def reddened (cs : List Char) : Styled :=
  ⟨cs, [⟨0, cs.length, messageTag⟩]⟩

/-- The tag of a message opens at the end of the text before it. -/
theorem applyTagAt_message (length place : Nat) :
    applyTagAt [] length place ['r', 'e', 'd'] = .ok ([⟨length, messageTag⟩], none) := by
  rw [applyTagAt, List.map_nil, applyTag_message]
  rfl

/-- The closing tag of a message ends the part that the tag of the message has opened. -/
theorem applyTagAt_messageEnd (start length place : Nat) :
    applyTagAt [⟨start, messageTag⟩] length place ['/', 'r', 'e', 'd'] =
      .ok ([], some ⟨start, length, messageTag⟩) := by
  have htrim : Text.trim Text.isSpace ['r', 'e', 'd'] = ['r', 'e', 'd'] := by decide +kernel
  have hindex : closingIndex [⟨start, messageTag⟩] ['r', 'e', 'd'] = 0 :=
    closingIndex_of_last (by decide) htrim rfl []
  have hname : tagName ['/', 'r', 'e', 'd'] = ['/', 'r', 'e', 'd'] := by decide
  rw [applyTagAt, List.map_singleton, applyTag_messageEnd, hname]
  simp only [hindex]
  rfl

/-- Names of classes begin no tag and no shortcode. -/
theorem ne_of_mem_label
    (cls : ErrorClass)
    {c : Char}
    (hc : c ∈ cls.label.toList) :
    c ≠ '\\' ∧ c ≠ '[' ∧ c ≠ ':' := by
  have hname := isNameChar_of_mem_label cls hc
  refine ⟨?_, ?_, ?_⟩ <;> rintro rfl <;> exact absurd hname (by decide)

theorem verbatim_messageText
    (cls : Option ErrorClass)
    {message : String}
    (h : Verbatim message.toList) :
    Verbatim (messageText (cls.map ErrorClass.label) message) := by
  cases cls with
  | none =>
      exact h
  | some cls =>
      have htext := h.colon_blank.append_of_letters fun c hc =>
        ⟨(ne_of_mem_label cls hc).1, (ne_of_mem_label cls hc).2.2⟩
      simpa [messageText] using htext

/-- A message in its tags is the escaped text in its tags. -/
theorem messageMarkup_eq
    (cls : Option ErrorClass)
    {message : String}
    (h : '\\' ∉ message.toList) :
    messageMarkup (cls.map ErrorClass.label) message =
      bracketed ['r', 'e', 'd'] ++
        (escape (messageText (cls.map ErrorClass.label) message) ++
          bracketed ['/', 'r', 'e', 'd']) := by
  cases cls with
  | none =>
      rfl
  | some cls =>
      have hletters : ∀ c ∈ cls.label.toList ++ [':', ' '], c ≠ '\\' ∧ c ≠ '[' := by
        intro c hc
        rcases List.mem_append.mp hc with hname | hrest
        · exact ⟨(ne_of_mem_label cls hname).1, (ne_of_mem_label cls hname).2.1⟩
        · simp only [List.mem_cons, List.not_mem_nil, or_false] at hrest
          rcases hrest with rfl | rfl <;> decide
      have hescape := escape_append_of_letters hletters h
      have hmarkup : messageMarkup (some cls.label) message =
          "[red]".toList ++ (cls.label.toList ++ [':', ' '] ++ escape message.toList) ++
            "[/red]".toList := by
        rw [← List.append_assoc]
        rfl
      simp only [messageText, Option.map_some]
      rw [hescape, hmarkup, List.append_assoc]
      rfl

/-- The markup of a message is its text in red, without the control characters that no console
shows. -/
theorem styled_messageMarkup
    (cls : Option ErrorClass)
    {message : String}
    (h : Verbatim message.toList) :
    styled (messageMarkup (cls.map ErrorClass.label) message) =
      .ok (reddened (shown (messageText (cls.map ErrorClass.label) message))) := by
  have hopen : IsTag ['r', 'e', 'd'] := ⟨'r', ['e', 'd'], rfl, by decide, by simp⟩
  have hclose : IsTag ['/', 'r', 'e', 'd'] := ⟨'/', ['r', 'e', 'd'], rfl, by decide, by simp⟩
  rw [messageMarkup_eq cls h.backslash]
  exact styled_escape_between hopen hclose applyTagAt_message applyTagAt_messageEnd
    (verbatim_messageText cls h)

/-! ## Messages on the error stream -/

theorem printMarkup_of_verbatim
    (width : Nat)
    (cls : Option ErrorClass)
    {message : String}
    (h : Verbatim message.toList) :
    printMarkup width (messageMarkup (cls.map ErrorClass.label) message) =
      .ok (printText width (shown (messageText (cls.map ErrorClass.label) message))) := by
  have hplain : plain (messageMarkup (cls.map ErrorClass.label) message) =
      .ok (shown (messageText (cls.map ErrorClass.label) message)) := by
    rw [← styled_chars, styled_messageMarkup cls h]
    rfl
  rw [printMarkup, hplain]

/-- The session after a failure has been shown. -/
def afterMessage (p : Session σ α) (width : Nat) (f : Failure) : Session σ α :=
  p.withJournal (p.journal.write .terminal
    (printText width (shown (messageText ((messageClass? f).map ErrorClass.label) f.text))))

/--
A failure of the bridge whose text has no backslash and no shortcode is shown letter by letter, but for
the control characters that no console shows, whatever brackets it holds.

The markup that is made of its text, after the name of its class unless the failure is misuse, has no
fault and is that text in one part, in red.  An operation that fails with it writes the text to the
error stream and ends the run with exit code 2 or 1; so do settings, with exit code 2.
-/
theorem message_verbatim
    {f : Failure}
    (hbridge : f.isA .bridge = true)
    (hverbatim : Verbatim f.text.toList) :
    styled (messageMarkup ((messageClass? f).map ErrorClass.label) f.text) =
      .ok (reddened (shown (messageText ((messageClass? f).map ErrorClass.label) f.text))) ∧
    (∀ (a : Action σ α β) (p q : Session σ α) (width : Nat) (go : β → Action σ α Nat),
      Action.run a p = (.error f, q) →
        Action.run (withOperation width a go) p =
          (.ok (if f.isAnyOf usageClasses then 2 else 1), afterMessage q width f)) ∧
    ∀ (g : Globals) (p : Session σ α) (i : Invocation) (name : String) (words : List String),
      loaded p g.overrides = .error f →
        Action.run (runNamed i g name words) p =
          (.ok 2, afterMessage p i.width f) := by
  refine ⟨styled_messageMarkup (messageClass? f) hverbatim, ?_, ?_⟩
  · intro a p q width go hfails
    exact run_withOperation_of_shown hfails hbridge
      (printMarkup_of_verbatim width (messageClass? f) hverbatim) go
  · intro g p i name words hfails
    have husage : f.isAnyOf usageClasses = true := by
      rw [Failure.isAnyOf, Settings.cls_of_load hfails]
      rfl
    rw [afterMessage, messageClass?, if_pos husage]
    exact run_runNamed_of_shown hfails (printMarkup_of_verbatim i.width none hverbatim) name words

/-- A failure whose text looks like markup. -/
def bracketing : Failure :=
  .of .parse "expected [/red]\n[red][b near x::int [[/] or ["

theorem message_verbatim_bracketing :
    bracketing.isA .bridge = true ∧
    Verbatim bracketing.text.toList ∧
    styled (messageMarkup ((messageClass? bracketing).map ErrorClass.label) bracketing.text) =
      .ok (reddened "ParseError: expected [/red]\n[red][b near x::int [[/] or [".toList) := by
  have hverbatim : Verbatim bracketing.text.toList := by decide +kernel
  have hshown : shown (messageText ((messageClass? bracketing).map ErrorClass.label) bracketing.text) =
      "ParseError: expected [/red]\n[red][b near x::int [[/] or [".toList := by
    decide +kernel
  refine ⟨rfl, hverbatim, ?_⟩
  rw [← hshown]
  exact (@message_verbatim Unit Unit Unit _ rfl hverbatim).1

/-! ## Control characters -/

/-- A failure whose text rings a bell. -/
def ringing : Failure :=
  .of .parse (String.ofList ['b', 'e', 'l', 'l', Char.ofNat 7])

/-- The bell is missing from what is shown. -/
theorem not_verbatim_of_ringing :
    ringing.isA .bridge = true ∧
    Verbatim ringing.text.toList ∧
    styled (messageMarkup ((messageClass? ringing).map ErrorClass.label) ringing.text) =
      .ok (reddened "ParseError: bell".toList) ∧
    messageText ((messageClass? ringing).map ErrorClass.label) ringing.text ≠
      "ParseError: bell".toList := by
  have hverbatim : Verbatim ringing.text.toList := by decide +kernel
  have hshown : shown (messageText ((messageClass? ringing).map ErrorClass.label) ringing.text) =
      "ParseError: bell".toList := by
    decide +kernel
  refine ⟨rfl, hverbatim, ?_, by decide +kernel⟩
  rw [← hshown]
  exact styled_messageMarkup (messageClass? ringing) hverbatim

end CommandLine
end SqlDialects
