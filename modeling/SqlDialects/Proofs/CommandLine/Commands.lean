import SqlDialects.CommandLine.Run
import SqlDialects.Proofs.CommandLine.Showing
import SqlDialects.Proofs.Session.Failing
import SqlDialects.Proofs.Settings.Loading
import SqlDialects.Proofs.Validation.Faithful

/-!
# How commands end

What a command does with the operation that it performs, from what the operation gives.

**Input.**  A session with the standard error classes in which a disciplined engine can be obtained.

**Specification.**  `Command.operation?` is the operation of a command, and `Ends` gives the ending of a
run and what it writes from the result of the operation.

**Results.**
* `run_withOperation`: a run with an operation ends as the operation does, in the session that the
  operation leaves, apart from the log and the output.
* `run_runCommand`: so does every command that performs an operation, once its dialect is known,
  whatever has been logged and written before.
* `run_runCommand_of_undecided`: without a default dialect a command that needs one asks for nothing.
-/

namespace SqlDialects
namespace CommandLine

variable {σ α β : Type}

/-! ## The operation of a command -/

/-- Whether a dialect option leaves the choice to the settings. -/
def isOpen : Option String → Bool
  | none => true
  | some d => d.isEmpty

/-- The name of the dialect that an option gives, or else the default. -/
def chosen (fallback : String) (option : Option String) : String :=
  if isOpen option then fallback else option.getD ""

namespace Command

/-- Whether the command performs an operation in the default dialect. -/
def usesDefault : Command → Bool
  | .parse _ d | .parseOne _ d | .generate _ d | .format _ d | .validate _ d => isOpen d
  | .transpile _ _ _ | .dialects | .version => false

/-- The operation that the command performs, given the text on the input and the name of the default
dialect. -/
def operation? (input fallback : String) : Command → Option Operation
  | .transpile sql source target => some (.transpile (givenText input sql) source target)
  | .parse sql d => some (.parse (givenText input sql) (chosen fallback d))
  | .parseOne sql d => some (.parseOne (givenText input sql) (chosen fallback d))
  | .generate payload d => some (.generate (givenText input payload) (chosen fallback d))
  | .format sql d => some (.format (givenText input sql) (chosen fallback d))
  | .validate sql d => some (.validate (givenText input sql) (chosen fallback d))
  | .dialects | .version => none

/-- All commands but two perform an operation. -/
theorem exists_operation
    {c : Command}
    (h : c ≠ .dialects ∧ c ≠ .version)
    (input fallback : String) :
    ∃ op, c.operation? input fallback = some op := by
  cases c with
  | dialects => exact absurd rfl h.1
  | version => exact absurd rfl h.2
  | _ => exact ⟨_, rfl⟩

end Command

/-! ## The specification -/

/-- The settings that the environment of a session and its file define, with overrides. -/
def loaded (p : Session σ α) (overrides : List (String × Value)) : Except Failure Settings :=
  Settings.load ⟨overrides, p.environment, p.file⟩

/-- How a run that performs an operation ends and what it writes, from what the operation gives: with
an exit code, or with a failure if a report is not read back. -/
inductive Ends (json : Bool) :
    Operation → Except Failure Answer → Except Failure Nat → (output : String) → Prop where
  | misused (op : Operation) (f : Failure)
      (h : f.isAnyOf usageClasses = true) :
      Ends json op (.error f) (.ok 2) ""
  | failed (op : Operation) (f : Failure)
      (hbridge : f.isA .bridge = true)
      (h : f.isAnyOf usageClasses = false) :
      Ends json op (.error f) (.ok 1) ""
  | statements (sql source target : String) (l : List String) :
      Ends json (.transpile sql source target) (.ok (.texts l)) (.ok 0) (listOutput json l)
  | text (op : Operation) (s : String)
      (hop : ∀ sql d, op ≠ .validate sql d) :
      Ends json op (.ok (.text s)) (.ok 0) (s ++ "\n")
  | report (sql dialect : String) (r : Report)
      (hread : Report.read r.render = .ok r) :
      Ends json (.validate sql dialect) (.ok (.text r.render)) (.ok (if r.valid then 0 else 3))
        (if json then r.render ++ "\n" else "")
  | unread (sql dialect : String) (r : Report) (f : Failure)
      (hlong : ∃ issue ∈ r.issues, ¬ issue.PositionsFit)
      (hread : Report.read r.render = .error f) :
      Ends json (.validate sql dialect) (.ok (.text r.render)) (.error f) ""

/-- Unless output is JSON, the engine reports only issues that can be shown. -/
def Presents (json : Bool) (e : Engine σ α) : Prop :=
  ∀ sql d scene r, (Task.run (e.validate sql d) scene).1 = .ok r →
    json = false → ∀ issue ∈ r.issues, '[' ∉ issue.code.toList

/-! ## Messages and settings -/

/-- A message that ends a run with an exit code, from how it is shown. -/
theorem run_showMessage_code_of_shown
    {width : Nat} {label : Option String} {message shown : String}
    (hshown : printMarkup width (messageMarkup label message) = .ok shown)
    (exitCode : Nat)
    (p : Session σ α) :
    Action.run (do
        showMessage width label message
        return exitCode) p =
      (.ok exitCode, p.withJournal (p.journal.write .terminal shown)) := by
  rw [showMessage, hshown]
  rfl

/-- Every message can be shown, alone or after the name of its class. -/
theorem run_showMessage_code
    (width : Nat)
    (cls : Option ErrorClass)
    (message : String)
    (exitCode : Nat)
    (p : Session σ α) :
    ∃ j, Action.run (do
        showMessage width (cls.map ErrorClass.label) message
        return exitCode) p =
      (.ok exitCode, p.withJournal j) := by
  obtain ⟨shown, hshown⟩ := exists_printMarkup_message width cls message
  exact ⟨_, run_showMessage_code_of_shown hshown exitCode p⟩

theorem run_loadSettings_of_ok
    {overrides : List (String × Value)} {p : Session σ α} {s : Settings}
    (h : loaded p overrides = .ok s) :
    Action.run (Action.loadSettings overrides) p =
      (.ok s, p.withJournal (p.journal.logAll s.loadingRecords)) := by
  unfold loaded at h
  simp only [Action.loadSettings, Action.run_bind, Action.run_get, Action.run_ofExcept, h]
  rfl

theorem run_loadSettings_of_error
    {overrides : List (String × Value)} {p : Session σ α} {f : Failure}
    (h : loaded p overrides = .error f) :
    Action.run (Action.loadSettings overrides) p = (.error f, p) := by
  unfold loaded at h
  simp only [Action.loadSettings, Action.run_bind, Action.run_get, Action.run_ofExcept, h]

/-- A given dialect is taken as it is; the default dialect comes from settings that are loaded for
it. -/
theorem run_inDialect
    (operation : String → String → Action σ α β)
    (text : String)
    {option : Option String} {fallback : String} {p : Session σ α}
    (h : isOpen option = true → ∃ t, loaded p [] = .ok t ∧ t.defaultDialect.name = fallback) :
    ∃ j, Action.run (inDialect operation text option) p =
      Action.run (operation text (chosen fallback option)) (p.withJournal j) := by
  have hopen : isOpen option = true →
      ∃ j, Action.run (do return (← Action.loadSettings []).defaultDialect.name) p =
        (.ok fallback, p.withJournal j) := by
    intro hoption
    obtain ⟨t, ht, rfl⟩ := h hoption
    exact ⟨_, by rw [Action.run_bind_of_ok (run_loadSettings_of_ok ht)]; rfl⟩
  cases option with
  | none =>
      obtain ⟨j, hj⟩ := hopen rfl
      exact ⟨j, by rw [inDialect, givenDialect, Action.run_bind_of_ok hj]; rfl⟩
  | some d =>
      rw [inDialect, givenDialect]
      cases hd : d.isEmpty with
      | true =>
          obtain ⟨j, hj⟩ := hopen hd
          refine ⟨j, ?_⟩
          rw [if_pos rfl, Action.run_bind_of_ok hj, chosen, isOpen, hd]
          rfl
      | false =>
          refine ⟨p.journal, ?_⟩
          rw [if_neg Bool.false_ne_true, chosen, isOpen, hd]
          rfl

/-- What has been written before plays no part in it. -/
theorem run_inDialect_beside
    (operation : String → String → Action σ α β)
    (text : String)
    {option : Option String} {fallback : String} {p : Session σ α}
    (h : isOpen option = true → ∃ t, loaded p [] = .ok t ∧ t.defaultDialect.name = fallback)
    (o : Output)
    (j : Log.Journal) :
    ∃ j', Action.run (inDialect operation text option) (p.beside o j) =
      Action.run (operation text (chosen fallback option)) (p.beside o j') := by
  obtain ⟨j', hj'⟩ := run_inDialect (p := p.beside o j) operation text h
  exact ⟨j', by rw [hj', Session.beside_withJournal]⟩

theorem run_inDialect_of_error
    (operation : String → String → Action σ α β)
    (text : String)
    {option : Option String} {p : Session σ α} {f : Failure}
    (hoption : isOpen option = true)
    (h : loaded p [] = .error f) :
    Action.run (inDialect operation text option) p = (.error f, p) := by
  have hload : Action.run (do return (← Action.loadSettings []).defaultDialect.name) p =
      (.error f, p) := Action.run_bind_of_error (run_loadSettings_of_error h) _
  cases option with
  | none =>
      rw [inDialect, givenDialect, Action.run_bind_of_error hload]
  | some d =>
      have hempty : d.isEmpty = true := hoption
      rw [inDialect, givenDialect, if_pos hempty, Action.run_bind_of_error hload]

/-! ## Operations -/

/-- An operation that gives a value goes on with it. -/
theorem run_withOperation_of_ok
    {a : Action σ α β} {p q : Session σ α} {b : β}
    (h : Action.run a p = (.ok b, q))
    (width : Nat)
    (go : β → Action σ α Nat) :
    Action.run (withOperation width a go) p = Action.run (go b) q := by
  rw [withOperation, Action.run_bind, Action.run_outcome, h]

/-- The class whose name a message begins with, if it does: misuse is told without one. -/
def messageClass? (f : Failure) : Option ErrorClass :=
  if f.isAnyOf usageClasses then none else some f.cls

/-- A failure of the bridge ends the run, from how it is shown. -/
theorem run_withOperation_of_shown
    {a : Action σ α β} {p q : Session σ α} {f : Failure} {width : Nat} {shown : String}
    (h : Action.run a p = (.error f, q))
    (hbridge : f.isA .bridge = true)
    (hshown : printMarkup width (messageMarkup ((messageClass? f).map ErrorClass.label) f.text) =
      .ok shown)
    (go : β → Action σ α Nat) :
    Action.run (withOperation width a go) p =
      (.ok (if f.isAnyOf usageClasses then 2 else 1),
        q.withJournal (q.journal.write .terminal shown)) := by
  rw [withOperation, Action.run_bind, Action.run_outcome, h]
  rw [messageClass?] at hshown
  cases husage : f.isAnyOf usageClasses with
  | true =>
      rw [if_pos husage] at hshown
      dsimp only
      rw [if_pos husage]
      exact run_showMessage_code_of_shown hshown 2 q
  | false =>
      rw [if_neg (by simp [husage])] at hshown
      dsimp only
      rw [if_neg (by simp [husage]), if_pos hbridge]
      exact run_showMessage_code_of_shown hshown 1 q

/-- A failure of the bridge is shown and ends the run. -/
theorem run_withOperation_of_error
    {a : Action σ α β} {p q : Session σ α} {f : Failure}
    (h : Action.run a p = (.error f, q))
    (hbridge : f.isA .bridge = true)
    (width : Nat)
    (go : β → Action σ α Nat) :
    ∃ j, Action.run (withOperation width a go) p =
      (.ok (if f.isAnyOf usageClasses then 2 else 1), q.withJournal j) := by
  obtain ⟨shown, hshown⟩ := exists_printMarkup_message width (messageClass? f) f.text
  exact ⟨_, run_withOperation_of_shown h hbridge hshown go⟩

theorem run_writeStatements (l : List String) (p : Session σ α) (o : Output) (j : Log.Journal) :
    Action.run (writeStatements l) (p.beside o j) =
      (.ok 0, p.beside (o.append (listOutput o.json l)) j) := rfl

theorem run_writeText (s : String) (p : Session σ α) (o : Output) (j : Log.Journal) :
    Action.run (writeText s) (p.beside o j) = (.ok 0, p.beside (o.append (s ++ "\n")) j) := rfl

/-- A report is presented: its text is written if output is JSON, and else it is shown. -/
theorem run_presentReport
    (i : Invocation)
    (payload : String)
    {r : Report} {o : Output}
    (hcodes : o.json = false → ∀ issue ∈ r.issues, '[' ∉ issue.code.toList)
    (p : Session σ α)
    (j : Log.Journal) :
    ∃ j', Action.run (presentReport i payload r) (p.beside o j) =
      (.ok (), p.beside (o.append (if o.json then payload ++ "\n" else "")) j') := by
  obtain ⟨json, written⟩ := o
  cases json with
  | true =>
      exact ⟨j, rfl⟩
  | false =>
      obtain ⟨s, hs⟩ := exists_printIssues i.width (hcodes rfl)
      have hjson : Action.run writesJson (p.beside ⟨false, written⟩ j) =
          (.ok false, p.beside ⟨false, written⟩ j) := rfl
      rw [presentReport, Action.run_bind_of_ok hjson, hs]
      simp only [Bool.false_eq_true, if_false, Output.append_empty]
      exact ⟨_, rfl⟩

/-- A report that is read back is presented, and the exit code says whether it is valid. -/
theorem run_showReport
    (i : Invocation)
    {r : Report} {o : Output}
    (hread : Report.read r.render = .ok r)
    (hcodes : o.json = false → ∀ issue ∈ r.issues, '[' ∉ issue.code.toList)
    (p : Session σ α)
    (j : Log.Journal) :
    ∃ j', Action.run (showReport i r.render) (p.beside o j) =
      (.ok (if r.valid then 0 else 3),
        p.beside (o.append (if o.json then r.render ++ "\n" else "")) j') := by
  obtain ⟨j', hj'⟩ := run_presentReport i r.render hcodes p j
  have hback : Action.run (Action.ofExcept (Report.read r.render)) (p.beside o j) =
      (.ok r, p.beside o j) := by rw [Action.run_ofExcept, hread]
  exact ⟨j', by rw [showReport, Action.run_bind_of_ok hback, Action.run_bind_of_ok hj',
    Action.run_pure]⟩

/-- A report that is not read back ends the run with a failure of another kind. -/
theorem run_showReport_of_unread
    (i : Invocation)
    {payload : String} {f : Failure}
    (hread : Report.read payload = .error f)
    (p : Session σ α) :
    Action.run (showReport i payload) p = (.error f, p) := by
  rw [showReport, Action.run_bind, Action.run_ofExcept, hread]

/-- However checking a text goes on with the text of a report, it ends as it is to end. -/
theorem exists_ends_of_report
    (i : Invocation)
    (sql dialect : String)
    {r : Report} {o : Output}
    (hcodes : o.json = false → ∀ issue ∈ r.issues, '[' ∉ issue.code.toList)
    (p : Session σ α)
    (j : Log.Journal) :
    ∃ ending out j', Action.run (showReport i r.render) (p.beside o j) =
        (ending, p.beside (o.append out) j') ∧
      Ends o.json (.validate sql dialect) (.ok (.text r.render)) ending out := by
  cases hread : Report.read r.render with
  | ok r' =>
      obtain rfl := Report.eq_of_read_render hread
      obtain ⟨j', hj'⟩ := run_showReport i hread hcodes p j
      exact ⟨_, _, j', hj', .report sql dialect r' hread⟩
  | error f =>
      have hlong : ∃ issue ∈ r.issues, ¬ issue.PositionsFit := by
        by_contra hfits
        push Not at hfits
        rw [Report.read_render hfits] at hread
        cases hread
      refine ⟨_, "", j, ?_, .unread sql dialect r f hlong hread⟩
      rw [run_showReport_of_unread i hread, Output.append_empty]

theorem Ends.of_error
    {json : Bool} {op : Operation} {f : Failure}
    (hbridge : f.isA .bridge = true) :
    Ends json op (.error f) (.ok (if f.isAnyOf usageClasses then 2 else 1)) "" := by
  cases husage : f.isAnyOf usageClasses with
  | true => exact .misused op f husage
  | false => exact .failed op f hbridge husage

/-- A command that needs a default dialect fails without one, before the engine is asked for. -/
theorem run_runCommand_of_undecided
    {p : Session σ α} {i : Invocation} {c : Command} {f : Failure}
    (huses : c.usesDefault = true)
    (hdefault : loaded p [] = .error f) :
    ∃ j, Action.run (runCommand i c) p = (.ok 2, p.withJournal j) := by
  have hcls := Settings.cls_of_load hdefault
  have hbridge : f.isA .bridge = true := by
    rw [Failure.isA, hcls]
    rfl
  have husage : f.isAnyOf usageClasses = true := by
    rw [Failure.isAnyOf, hcls]
    rfl
  have hfails : ∀ {operation : String → String → Action σ α String} {text : String}
      {option : Option String} (go : String → Action σ α Nat), isOpen option = true →
      ∃ j, Action.run (withOperation i.width (inDialect operation text option) go) p =
        (.ok 2, p.withJournal j) := by
    intro operation text option go hopen
    have hfail := run_inDialect_of_error operation text hopen hdefault
    obtain ⟨j, hj⟩ := run_withOperation_of_error hfail hbridge i.width go
    rw [if_pos husage] at hj
    exact ⟨j, hj⟩
  cases c with
  | transpile sql source target | dialects | version =>
      cases huses
  | parse sql d | parseOne sql d | generate sql d | format sql d | validate sql d =>
      exact hfails _ huses

section Served

variable {p q : Session σ α} {e : Engine σ α}
  (herrors : p.errors = some .standard)
  (hserves : Action.run Action.engine p = (.ok e, q))
  (he : e.Disciplined)
include herrors hserves he

/-- A command that performs an operation, perhaps after it has logged something: the run ends as the
operation does. -/
theorem run_withOperation
    {op : Operation} {tag : β → Answer} {a b : Action σ α β} {p' : Session σ α} {o : Output}
    {j : Log.Journal}
    (hop : op.action = tag <$> a)
    (hb : Action.run b p' = Action.run a (p.beside o j))
    (width : Nat)
    {go : β → Action σ α Nat}
    (hgo : ∀ x j, (Action.run op.action p).1 = .ok (tag x) →
      ∃ ending out j', Action.run (go x) ((Action.run op.action p).2.beside o j) =
          (ending, (Action.run op.action p).2.beside (o.append out) j') ∧
        Ends o.json op (.ok (tag x)) ending out) :
    ∃ ending out j', Action.run (withOperation width b go) p' =
        (ending, (Action.run op.action p).2.beside (o.append out) j') ∧
      Ends o.json op (Action.run op.action p).1 ending out := by
  -- what has been logged and written before plays no part in what the operation gives
  obtain ⟨j₁, hj₁⟩ := Operation.run_beside hserves op o j
  have hrun : Action.run (tag <$> a) (p.beside o j) =
      ((Action.run op.action p).1, (Action.run op.action p).2.beside o j₁) := by
    rw [← hop]
    exact hj₁
  rw [Action.run_map] at hrun
  rcases ha : Action.run a (p.beside o j) with ⟨f | x, r⟩
  · rw [ha] at hrun
    obtain ⟨hfails, rfl⟩ := Prod.mk.inj hrun
    have hbridge := Operation.isA_bridge_of_run herrors hserves he op hfails.symm
    obtain ⟨j₂, hj₂⟩ := run_withOperation_of_error (hb.trans ha) hbridge width go
    refine ⟨.ok (if f.isAnyOf usageClasses then 2 else 1), "", j₂, ?_, ?_⟩
    · rw [hj₂, Output.append_empty, Session.beside_withJournal]
    · rw [← hfails]
      exact .of_error hbridge
  · rw [ha] at hrun
    obtain ⟨hgives, rfl⟩ := Prod.mk.inj hrun
    obtain ⟨ending, out, j₂, hj₂, hends⟩ := hgo x j₁ hgives.symm
    refine ⟨ending, out, j₂, ?_, ?_⟩
    · rw [run_withOperation_of_ok (hb.trans ha), hj₂]
    · rw [← hgives]
      exact hends

/-- An operation that gives a text which is written. -/
theorem run_withOperation_text
    {op : Operation} {a b : Action σ α String} {p' : Session σ α} {o : Output} {j : Log.Journal}
    (hop : op.action = Answer.text <$> a)
    (hnot : ∀ sql d, op ≠ .validate sql d)
    (hb : Action.run b p' = Action.run a (p.beside o j))
    (width : Nat) :
    ∃ ending out j', Action.run (withOperation width b writeText) p' =
        (ending, (Action.run op.action p).2.beside (o.append out) j') ∧
      Ends o.json op (Action.run op.action p).1 ending out :=
  run_withOperation herrors hserves he hop hb width fun s j _ =>
    ⟨_, _, j, run_writeText s _ o j, .text op s hnot⟩

/-- A command that has its dialect performs its operation and ends as that does, whatever has been
logged and written before. -/
theorem run_runCommand
    {i : Invocation} {c : Command} {op : Operation} {fallback : String} {o : Output}
    (hreports : ∀ sql d, c = .validate sql d → Presents o.json e)
    (hdefault : c.usesDefault = true →
      ∃ t, loaded p [] = .ok t ∧ t.defaultDialect.name = fallback)
    (hop : c.operation? i.input fallback = some op)
    (j : Log.Journal) :
    ∃ ending out j', Action.run (runCommand i c) (p.beside o j) =
        (ending, (Action.run op.action p).2.beside (o.append out) j') ∧
      Ends o.json op (Action.run op.action p).1 ending out := by
  cases c with
  | dialects | version =>
      cases hop
  | transpile sql source target =>
      cases hop
      exact run_withOperation herrors hserves he rfl rfl i.width fun l j _ =>
        ⟨_, _, j, run_writeStatements l _ o j, .statements _ _ _ l⟩
  | parse sql d | parseOne sql d | generate sql d | format sql d =>
      cases hop
      obtain ⟨j', hj'⟩ := run_inDialect_beside _ (givenText i.input sql) hdefault o j
      exact run_withOperation_text herrors hserves he rfl (by simp) hj' i.width
  | validate sql d =>
      cases hop
      obtain ⟨j', hj'⟩ := run_inDialect_beside _ (givenText i.input sql) hdefault o j
      refine run_withOperation herrors hserves he rfl hj' i.width fun s j hs => ?_
      obtain ⟨d', scene, r, hr, rfl⟩ := Operation.exists_report_of_validate hserves hs
      exact exists_ends_of_report i _ _ (hreports sql d rfl _ d' scene r hr) _ j

end Served

end CommandLine
end SqlDialects
