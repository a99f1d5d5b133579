import SqlDialects.Settings.Loading

/-!
# Loading settings

When settings load, and what two loads from the same environment and the same file have in common
when only one of them is told to turn debugging on.

**Results.**
* `Settings.load_eq_ok_iff`: settings load if every field reads and nothing else is defined.
* `Settings.cls_of_load`: settings that do not load fail in one class.
* `Settings.defaultDialect_of_load`: whether debugging is turned on makes no difference to the
  default dialect.
-/

namespace SqlDialects
namespace Settings

open Validation

/-- Settings that do not load fail as a configuration. -/
theorem cls_of_load
    {s : Sources} {f : Failure}
    (h : load s = .error f) :
    f.cls = .configuration := by
  rw [load] at h
  split at h
  · cases h
  · cases h
    rfl

theorem map_eq_ok_iff
    {α β : Type} {a : Checked α} {g : α → β} {y : β} :
    a.map g = .ok y ↔ ∃ x, a = .ok x ∧ g x = y := by
  cases a with
  | error cs => simp [Except.map]
  | ok x => simp [Except.map]

theorem both_eq_ok_iff
    {α β : Type} {a : Checked α} {b : Checked β} {x : α} {y : β} :
    both a b = .ok (x, y) ↔ a = .ok x ∧ b = .ok y := by
  cases a <;> cases b <;> simp [both]

theorem load_eq_ok_iff_check
    {s : Sources} {t : Settings} :
    load s = .ok t ↔ check s = .ok t := by
  rw [load]
  cases check s with
  | ok u => simp
  | error cs => simp

/-- Settings load if every field reads and nothing else is defined. -/
theorem load_eq_ok_iff
    {s : Sources} {t : Settings} :
    load s = .ok t ↔
      setting s "debug" standard.debug asBool = .ok t.debug ∧
      setting s "log_level" standard.logLevel asLogLevel = .ok t.logLevel ∧
      setting s "structured_logging" standard.structuredLogging asBool = .ok t.structuredLogging ∧
      setting s "default_dialect" standard.defaultDialect asDialect = .ok t.defaultDialect ∧
      setting s "unsupported_level" standard.unsupportedLevel (asOneOf UnsupportedLevel.names) =
        .ok t.unsupportedLevel ∧
      s.extras = [] := by
  rw [load_eq_ok_iff_check, check, map_eq_ok_iff]
  constructor
  · rintro ⟨⟨⟨debug, level, structured, dialect, unsupported⟩, ⟨⟩⟩, hfields, rfl⟩
    simp only [both_eq_ok_iff] at hfields
    obtain ⟨⟨hdebug, hlevel, hstructured, hdialect, hunsupported⟩, hextras⟩ := hfields
    refine ⟨hdebug, hlevel, hstructured, hdialect, hunsupported, ?_⟩
    split at hextras
    · assumption
    · cases hextras
  · rintro ⟨hdebug, hlevel, hstructured, hdialect, hunsupported, hextras⟩
    refine ⟨((t.debug, t.logLevel, t.structuredLogging, t.defaultDialect, t.unsupportedLevel), ()),
      ?_, rfl⟩
    simp only [both_eq_ok_iff, hextras]
    exact ⟨⟨hdebug, hlevel, hstructured, hdialect, hunsupported⟩, trivial⟩

/-- The default dialect of settings that load is the one that its field reads. -/
theorem setting_of_load
    {s : Sources} {settings : Settings}
    (h : load s = .ok settings) :
    setting s "default_dialect" standard.defaultDialect asDialect =
      .ok settings.defaultDialect :=
  (load_eq_ok_iff.mp h).2.2.2.1

/-- Turning debugging on leaves the value of any other field as it is. -/
theorem value?_of_debug
    (environment : List (String × String))
    (file : Option String)
    {name : String}
    (hname : name ≠ "debug") :
    Sources.value? ⟨[("debug", .bool true)], environment, file⟩ name =
      Sources.value? ⟨[], environment, file⟩ name := by
  -- the override concerns no search, so variables are found as without it
  have hadjust : Search.adjust? .standard "debug" (.bool true) = none := by
    decide +kernel
  have hsearch : Sources.search ⟨[("debug", .bool true)], environment, file⟩ = .standard := by
    rw [Sources.search, List.foldl_cons, hadjust]
    rfl
  have hvalues : Sources.values ⟨[("debug", .bool true)], environment, file⟩ =
      [("debug", .bool true)] := by
    simp only [Sources.values, List.filter_cons, hadjust, Option.isNone_none, if_true,
      List.filter_nil]
  have hother : (Text.lower "debug" == name) = false := by
    have hlower : Text.lower "debug" = "debug" := by decide +kernel
    rw [hlower, beq_eq_false_iff_ne]
    exact hname.symm
  have hfind : [("debug", Value.bool true)].find? (fun o => Text.lower o.1 == name) = none := by
    rw [List.find?_cons_of_neg (by simp [hother]), List.find?_nil]
  rw [Sources.value?, hvalues, hfind]
  unfold Sources.fileBindings Sources.environment? Sources.valueOf
  rw [hsearch]
  rfl

/-- Whether debugging is turned on makes no difference to the default dialect. -/
theorem defaultDialect_of_load
    {environment : List (String × String)} {file : Option String} {s t : Settings}
    (hs : load ⟨[("debug", .bool true)], environment, file⟩ = .ok s)
    (ht : load ⟨[], environment, file⟩ = .ok t) :
    s.defaultDialect = t.defaultDialect := by
  have hread := setting_of_load hs
  rw [setting, value?_of_debug environment file (by decide)] at hread
  exact Except.ok.inj (hread.symm.trans (setting_of_load ht))

end Settings
end SqlDialects
