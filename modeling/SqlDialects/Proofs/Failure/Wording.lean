import Mathlib.Data.List.Basic
import SqlDialects.Failure.Registry

/-!
# The class and the text of what callers get

A report of an engine becomes a failure of a registered class.  The class is called with the report's
text and with nothing else, but it is the class that words the text for whoever reads it, and a class
that cannot be called in this way raises something else.

**Input.**  Any registered classes or none, any code of hosts' classes, a category of reports and a
text.

**Specification.**  `ErrorClass.Refuses` says what classes raise instead of making a failure, and
`ErrorClass.Verbatim` which of them word a text as it is.

**Results.**
* `Failure.emerges_emerging`: what callers get of a report has the class of the report's category, the
  text of the report, and the report as its cause, unless the class raises something else.
* `Failure.Emerges.cls_ne_engine`: in no case it is a report.
* `translate_words`: callers read the text of the report exactly if the class words it as it is.
-/

namespace SqlDialects

/-- The class that is registered for a category of failures. -/
def ErrorRegistry.assigned : Option ErrorRegistry → FaultKind → ErrorClass
  | none, _ => .runtime
  | some r, kind => r.classFor kind

theorem translate_eq_make
    (hosts : HostClasses)
    (errors : Option ErrorRegistry)
    (kind : FaultKind)
    (message : String) :
    translate hosts errors kind message =
      Failure.make hosts (ErrorRegistry.assigned errors kind) message := by
  cases errors <;> rfl

/-! ## Classes that are called with a text -/

/-- What a class raises if it is called with a text and does not make a failure: what is said of a
class that needs more, or what the code of a host raises. -/
inductive ErrorClass.Refuses (hosts : HostClasses) (message : String) :
    ErrorClass → Failure → Prop
  | short {cls : ErrorClass} {reason : String}
      (h : cls.shortfall? = some reason) :
      Refuses hosts message cls (.of .type reason)
  | host {c : OwnClass} {refusal : Refusal}
      (h : hosts c message = .error refusal) :
      Refuses hosts message (.own c) refusal.failure

namespace Failure

variable {hosts : HostClasses} {cls : ErrorClass} {message : String} {f : Failure}

theorem make_own (c : OwnClass) :
    make hosts (.own c) message =
      match hosts c message with
      | .ok worded => .ok { of (.own c) message with worded := some worded }
      | .error refusal => .error refusal.failure := rfl

theorem make_eq_error_iff :
    make hosts cls message = .error f ↔ cls.Refuses hosts message f := by
  constructor
  · intro h
    unfold make at h
    split at h
    · rename_i reason hshort
      cases h
      exact .short hshort
    · split at h
      · cases h
      · rename_i refusal hrefused
        cases h
        exact .host hrefused
    · cases h
  · rintro (hshort | hrefused)
    · simp only [make, hshort]
    · simp only [make, ErrorClass.shortfall?, hrefused]

/-- What a class raises instead of a failure is no report. -/
theorem cls_ne_engine_of_refuses
    (h : cls.Refuses hosts message f) :
    f.cls ≠ .engine := by
  cases h with
  | short h =>
      rintro ⟨⟩
  | host h =>
      exact Refusal.not_report _

/-- What a class makes is of the class and has the text, and nothing has caused it. -/
theorem of_make
    (h : make hosts cls message = .ok f) :
    f.cls = cls ∧ f.argument = message ∧ f.cause = none ∧ f.kind = none ∧ f.records = [] := by
  unfold make at h
  split at h
  · cases h
  · split at h
    · cases h
      exact ⟨rfl, rfl, rfl, rfl, rfl⟩
    · cases h
  · cases h
    exact ⟨rfl, rfl, rfl, rfl, rfl⟩

/-- The class of reports needs more than a text. -/
theorem cls_ne_engine_of_make
    (h : make hosts cls message = .ok f) :
    f.cls ≠ .engine := by
  rw [(of_make h).1]
  rintro rfl
  cases h

end Failure

/-- The bridge's own classes make a failure of every text. -/
theorem translate_standard
    (hosts : HostClasses)
    (kind : FaultKind)
    (message : String) :
    translate hosts (some .standard) kind message =
      .ok (.of (ErrorRegistry.standard.classFor kind) message) := by
  cases kind <;> rfl

/-! ## What callers get -/

/--
A failure `g` of the class that is registered for the category of a report `f`, made with the text of
the report and with nothing else, and caused by the report.
-/
structure Failure.IsTranslation
    (hosts : HostClasses) (errors : Option ErrorRegistry) (kind : FaultKind) (f g : Failure) :
    Prop where
  cls : g.cls = ErrorRegistry.assigned errors kind
  argument : g.argument = f.argument
  cause : g.cause = some f
  /-- Only reports have a category. -/
  kind : g.kind = none
  records : g.records = []
  /-- Its cause apart, it is what the class makes of the text. -/
  made : Failure.make hosts g.cls g.argument = .ok { g with cause := none }

/-- What callers get of a report `f` of a category: its translation, or what the registered class
raises when it is called with the text of the report. -/
inductive Failure.Emerges
    (hosts : HostClasses) (errors : Option ErrorRegistry) (kind : FaultKind) (f : Failure) :
    Failure → Prop
  | translated {g : Failure}
      (h : f.IsTranslation hosts errors kind g) :
      Emerges hosts errors kind f g
  | refused {g : Failure}
      (h : (ErrorRegistry.assigned errors kind).Refuses hosts f.argument g) :
      Emerges hosts errors kind f g

namespace Failure

/-- The failure that callers get of a report. -/
def emerging (hosts : HostClasses) (errors : Option ErrorRegistry) (f : Failure) : Failure :=
  match translate hosts errors (f.kind.getD .internal) f.argument with
  | .ok g => g.causedBy f
  | .error g => g

theorem emerges_emerging
    (hosts : HostClasses)
    (errors : Option ErrorRegistry)
    (f : Failure) :
    f.Emerges hosts errors (f.kind.getD .internal) (f.emerging hosts errors) := by
  unfold emerging
  rw [translate_eq_make]
  cases hmade : make hosts (ErrorRegistry.assigned errors (f.kind.getD .internal)) f.argument with
  | error g =>
      exact .refused (make_eq_error_iff.mp hmade)
  | ok g =>
      obtain ⟨hcls, hargument, hcause, hkind, hrecords⟩ := of_make hmade
      refine .translated ⟨hcls, hargument, rfl, hkind, hrecords, ?_⟩
      have huncaused : { g.causedBy f with cause := none } = g := by
        cases g
        cases hcause
        rfl
      rw [huncaused]
      exact (congrArg₂ (make hosts) hcls hargument).trans hmade

/-- It is never a report. -/
theorem Emerges.cls_ne_engine
    {hosts : HostClasses} {errors : Option ErrorRegistry} {kind : FaultKind} {f g : Failure}
    (h : f.Emerges hosts errors kind g) :
    g.cls ≠ .engine := by
  cases h with
  | translated h =>
      have hmade := cls_ne_engine_of_make h.made
      exact hmade
  | refused h =>
      exact cls_ne_engine_of_refuses h

/-- With the bridge's own classes it is of one of them. -/
theorem emerging_standard (hosts : HostClasses) (f : Failure) :
    f.emerging hosts (some .standard) =
      (of (ErrorRegistry.standard.classFor (f.kind.getD .internal)) f.argument).causedBy f := by
  rw [emerging, translate_standard]

end Failure

/-! ## Texts that are quoted -/

namespace Text

theorem quoteChar_ne_nil (mark c : Char) :
    quoteChar mark c ≠ [] := by
  unfold quoteChar
  split_ifs <;> simp

/-- No character is lost. -/
theorem length_le_flatMap_quoteChar (mark : Char) (cs : List Char) :
    cs.length ≤ (cs.flatMap (quoteChar mark)).length := by
  induction cs with
  | nil =>
      exact Nat.le_refl 0
  | cons c cs ih =>
      have hc := List.length_pos_iff.mpr (quoteChar_ne_nil mark c)
      rw [List.flatMap_cons, List.length_append, List.length_cons]
      omega

/-- And two marks are gained. -/
theorem length_lt_length_quoted (s : String) :
    s.length < (quoted s).length := by
  have hle := length_le_flatMap_quoteChar (quoteMark s.toList) s.toList
  rw [String.length_toList] at hle
  simp only [quoted, quotedChars, String.length_ofList, List.length_append, List.length_cons]
  omega

end Text

/-! ## How classes word their texts -/

/-- A failure of the class that is made with a text is reported by this very text. -/
def ErrorClass.Verbatim (hosts : HostClasses) (message : String) : ErrorClass → Prop
  | .unknownDialect => False
  | .general c => c ≠ .key
  | .own c => hosts c message = .ok message
  | _ => True

/-- The sentence about a dialect name is longer than the name. -/
theorem Failure.text_unknownDialect_ne (name : String) :
    (Failure.unknownDialect name).text ≠ name := by
  intro h
  have hlength := congrArg String.length h
  simp only [unknownDialect, of, text, String.length_append] at hlength
  have hpositive : 0 < "unknown dialect: '".length := by decide
  omega

/-- A key in quotes is longer than the key. -/
theorem Failure.text_key_ne (name : String) :
    (Failure.of .key name).text ≠ name := by
  intro h
  have hlt := Text.length_lt_length_quoted name
  rw [show Text.quoted name = name from h] at hlt
  exact Nat.lt_irrefl _ hlt

theorem Failure.text_eq_iff_of_make
    {hosts : HostClasses} {cls : ErrorClass} {message : String} {f : Failure}
    (h : make hosts cls message = .ok f) :
    f.text = message ↔ cls.Verbatim hosts message := by
  cases cls with
  | own c =>
      rw [make_own] at h
      cases hworded : hosts c message with
      | error refusal =>
          rw [hworded] at h
          cases h
      | ok worded =>
          rw [hworded] at h
          cases h
          rw [ErrorClass.Verbatim, hworded, Except.ok.injEq]
          rfl
  | engine | jsonDecode | validation =>
      cases h
  | unknownDialect =>
      cases h
      exact ⟨fun htext => text_unknownDialect_ne message htext, False.elim⟩
  | general c =>
      cases h
      by_cases hkey : c = .key
      · subst hkey
        exact ⟨fun htext => absurd htext (text_key_ne message), fun hne => absurd rfl hne⟩
      · refine ⟨fun _ => hkey, fun _ => ?_⟩
        cases c <;> first | rfl | exact absurd rfl hkey
  | _ =>
      cases h
      exact ⟨fun _ => trivial, fun _ => rfl⟩

/--
What translation gives has the class of the report's category and is made with the report's text alone,
and callers read this text exactly if the class words it as it is.  Translation fails exactly if the
class raises something when it is called with a text, and then with that.
-/
theorem translate_words
    (hosts : HostClasses)
    (errors : Option ErrorRegistry)
    (kind : FaultKind)
    (message : String) :
    (∀ g, translate hosts errors kind message = .ok g →
      g.cls = ErrorRegistry.assigned errors kind ∧
      g.argument = message ∧
      (g.text = message ↔ (ErrorRegistry.assigned errors kind).Verbatim hosts message)) ∧
    ∀ f, translate hosts errors kind message = .error f ↔
      (ErrorRegistry.assigned errors kind).Refuses hosts message f := by
  rw [translate_eq_make]
  refine ⟨fun g hg => ?_, fun f => Failure.make_eq_error_iff⟩
  obtain ⟨hcls, hargument, -⟩ := Failure.of_make hg
  exact ⟨hcls, hargument, Failure.text_eq_iff_of_make hg⟩

/-- Reports themselves may be registered, but it takes more than a text to make one. -/
example :
    ErrorRegistry.install none ⟨.exception, .engine, .exception, .exception⟩ =
      .ok ⟨.exception, .engine, .exception, .exception⟩ ∧
    translate .plain (some ⟨.exception, .engine, .exception, .exception⟩) .parse "no table" =
      .error (.of .type
        "EngineError.__init__() missing 1 required positional argument: 'message'") :=
  ⟨rfl, rfl⟩

/-- Classes that may be registered: the one for parsing is that of missing keys. -/
def ErrorRegistry.keyed : ErrorRegistry :=
  ⟨.exception, .key, .exception, .exception⟩

/-- It quotes what it is made with. -/
theorem text_translate_keyed :
    ErrorRegistry.install none .keyed = .ok .keyed ∧
    ∃ g, translate .plain (some .keyed) .parse "no table" = .ok g ∧
      g.text = "'no table'" ∧
      g.text ≠ "no table" := by
  have htext : (Failure.of .key "no table").text = "'no table'" := by
    decide +kernel
  refine ⟨rfl, .of .key "no table", rfl, htext, ?_⟩
  rw [htext]
  decide

end SqlDialects
