import SqlDialects.Proofs.Dialect.Table
import SqlDialects.Proofs.Settings.Loading

/-!
# Loading settings once more

Settings that have been loaded load as themselves.

**View.**  `Settings.overrides` gives settings as overrides of all their fields.  Of the overrides of a
load some concern the search for variables (`Sources.searching`); loading once more begins with them,
since without them other variables may be found.

**Results.**
* `Settings.isSome_level?_of_load`: the level of the log has a name that is known.
* `Settings.load_settledAs`: all fields of loaded settings as overrides give the same settings.
* `Settings.not_load_overrides`: without the overrides that concern the search they may be refused.
-/

namespace SqlDialects
namespace Settings

open Validation

/-! ## Fields -/

theorem setting_of_value?
    {α : Type} {s : Sources} {name : String} {v : Value} {a : α}
    {read : Value → Except Problem α}
    (hvalue : s.value? name = some v)
    (hread : read v = .ok a)
    (fallback : α) :
    setting s name fallback read = .ok a := by
  rw [setting, hvalue]
  dsimp only
  rw [hread]

/-! ## Overrides -/

/-- The fields of settings, as overrides. -/
def overrides (t : Settings) : List (String × Value) :=
  [("debug", .bool t.debug), ("log_level", .text t.logLevel),
    ("structured_logging", .bool t.structuredLogging),
    ("default_dialect", .text t.defaultDialect.name),
    ("unsupported_level", .text t.unsupportedLevel.label)]

/-- The overrides that concern the search. -/
def Sources.searching (s : Sources) : List (String × Value) :=
  s.overrides.filter fun o => (Search.standard.adjust? o.1 o.2).isSome

/-- The sources with settings in place of the overrides that do not concern the search. -/
def Sources.settledAs (s : Sources) (t : Settings) : Sources :=
  { s with overrides := s.searching ++ t.overrides }

/-- Whether an override concerns the search is a matter of its name. -/
theorem Search.isSome_adjust?
    (s t : Search)
    (name : String)
    (v w : Value) :
    (s.adjust? name v).isSome = (t.adjust? name w).isSome := by
  simp only [adjust?, apply_ite Option.isSome, Option.isSome_some, Option.isSome_none]

theorem Search.adjust?_fieldName
    {name : String}
    (h : name ∈ fieldNames)
    (s : Search)
    (v : Value) :
    s.adjust? name v = none := by
  have hall : ∀ name ∈ fieldNames, Search.standard.adjust? name .null = none := by decide +kernel
  rw [← Option.isNone_iff_eq_none, ← Option.not_isSome, isSome_adjust? s .standard name v .null,
    hall name h]
  rfl

theorem mem_fieldNames_of_mem_overrides
    {t : Settings} {o : String × Value}
    (h : o ∈ t.overrides) :
    o.1 ∈ fieldNames := by
  simp only [overrides, List.mem_cons, List.not_mem_nil, or_false] at h
  rcases h with rfl | rfl | rfl | rfl | rfl <;> simp [fieldNames]

namespace Sources

variable (s : Sources) (t : Settings)

/-- Only the overrides that concern the search make a difference to it. -/
theorem search_eq_foldl_searching :
    s.search =
      s.searching.foldl (fun acc o => (acc.adjust? o.1 o.2).getD acc) Search.standard := by
  rw [search, searching, List.foldl_filter]
  congr
  funext acc o
  rw [Search.isSome_adjust? .standard acc o.1 o.2 o.2]
  cases acc.adjust? o.1 o.2 <;> rfl

theorem searching_settledAs :
    (s.settledAs t).searching = s.searching := by
  have hfields : t.overrides.filter (fun o => (Search.standard.adjust? o.1 o.2).isSome) = [] := by
    rw [List.filter_eq_nil_iff]
    intro o ho
    rw [Search.adjust?_fieldName (mem_fieldNames_of_mem_overrides ho)]
    simp
  rw [searching, settledAs, List.filter_append, hfields, List.append_nil, searching,
    List.filter_filter]
  simp only [Bool.and_self]

theorem search_settledAs :
    (s.settledAs t).search = s.search := by
  rw [search_eq_foldl_searching, search_eq_foldl_searching, searching_settledAs]

theorem values_settledAs :
    (s.settledAs t).values = t.overrides := by
  have hsearching : s.searching.filter (fun o => (Search.standard.adjust? o.1 o.2).isNone) = [] := by
    rw [List.filter_eq_nil_iff]
    intro o ho
    rw [searching, List.mem_filter] at ho
    rw [← Option.not_isSome, ho.2]
    simp
  have hfields : t.overrides.filter (fun o => (Search.standard.adjust? o.1 o.2).isNone) =
      t.overrides := by
    rw [List.filter_eq_self]
    intro o ho
    rw [Search.adjust?_fieldName (mem_fieldNames_of_mem_overrides ho)]
    rfl
  rw [values, settledAs, List.filter_append, hsearching, hfields, List.nil_append]

/-- The names of fields are as they are compared. -/
theorem lower_fieldName
    {name : String}
    (h : name ∈ fieldNames) :
    Text.lower name = name := by
  have hall : ∀ name ∈ fieldNames, Text.lower name = name := by decide +kernel
  exact hall name h

/-- A field has the value that it has in the settings. -/
theorem value?_settledAs
    {name : String} {v : Value}
    (h : (name, v) ∈ t.overrides) :
    (s.settledAs t).value? name = some v := by
  have hfind : t.overrides.find? (fun o => Text.lower o.1 == name) = some (name, v) := by
    have hlower : ∀ o ∈ t.overrides, Text.lower o.1 = o.1 :=
      fun o ho => lower_fieldName (mem_fieldNames_of_mem_overrides ho)
    simp only [Settings.overrides, List.forall_mem_cons] at hlower
    obtain ⟨h₁, h₂, h₃, h₄, h₅, -⟩ := hlower
    simp only [Settings.overrides, List.mem_cons, List.not_mem_nil, or_false, Prod.mk.injEq] at h
    rcases h with ⟨rfl, rfl⟩ | ⟨rfl, rfl⟩ | ⟨rfl, rfl⟩ | ⟨rfl, rfl⟩ | ⟨rfl, rfl⟩ <;>
      simp only [Settings.overrides, List.find?_cons, h₁, h₂, h₃, h₄, h₅] <;> rfl
  rw [value?, values_settledAs, hfind]

theorem setMember_ne_nil
    (name : String)
    (v : Value)
    (ms : List (String × Value)) :
    Json.setMember name v ms ≠ [] := by
  cases ms with
  | nil =>
      simp [Json.setMember]
  | cons m ms =>
      rw [Json.setMember]
      split <;> simp

theorem eq_nil_of_foldl_setMember
    {l ms : List (String × Value)}
    (h : l.foldl (fun acc o => Json.setMember o.1 o.2 acc) ms = []) :
    ms = [] := by
  induction l generalizing ms with
  | nil => exact h
  | cons o l ih => exact absurd (ih h) (setMember_ne_nil o.1 o.2 ms)

/-- Variables of the file that are refused are so with any overrides. -/
theorem extras_settledAs
    (h : s.extras = []) :
    (s.settledAs t).extras = [] := by
  have hfile : (s.settledAs t).fileBindings = s.fileBindings := by
    rw [fileBindings, fileBindings, search_settledAs]
    rfl
  have hhandled : (s.settledAs t).isHandled = s.isHandled := by
    funext name value
    rw [isHandled, isHandled, search_settledAs]
  have hfields : t.overrides.filter (fun o => !fieldNames.contains (Text.lower o.1)) = [] := by
    rw [List.filter_eq_nil_iff]
    intro o ho
    have hname := mem_fieldNames_of_mem_overrides ho
    rw [lower_fieldName hname, List.contains_iff_mem.mpr hname]
    simp
  rw [extras] at h ⊢
  rw [hfile, hhandled, values_settledAs, hfields]
  exact eq_nil_of_foldl_setMember h

end Sources

/-! ## Loading once more -/

theorem isSome_level?_of_asLogLevel
    {v : Value} {level : String}
    (h : asLogLevel v = .ok level) :
    (Log.level? level).isSome := by
  cases htext : asString v with
  | error p =>
      simp only [asLogLevel, htext, bind, Except.bind] at h
      cases h
  | ok s =>
      simp only [asLogLevel, htext, bind, Except.bind] at h
      split at h
      · cases h
        assumption
      · cases h

/-- The log level of settings that load is known by its name. -/
theorem isSome_level?_of_load
    {s : Sources} {t : Settings}
    (h : load s = .ok t) :
    (Log.level? t.logLevel).isSome := by
  obtain ⟨-, hlevel, -⟩ := load_eq_ok_iff.mp h
  rw [setting] at hlevel
  split at hlevel
  · rw [← Except.ok.inj hlevel]
    rfl
  · split at hlevel
    · rename_i hread
      rw [← Except.ok.inj hlevel]
      exact isSome_level?_of_asLogLevel hread
    · cases hlevel

/-- A known name of a log level reads as itself. -/
theorem asLogLevel_of_isSome_level?
    {level : String}
    (h : (Log.level? level).isSome) :
    asLogLevel (.text level) = .ok level := by
  obtain ⟨e, he, hname⟩ : ∃ e ∈ Log.levelNames, e.1 = level := by
    rw [Log.level?, Option.isSome_map, List.find?_isSome] at h
    obtain ⟨e, he, hname⟩ := h
    exact ⟨e, he, beq_iff_eq.mp hname⟩
  have hcapitals : ∀ e ∈ Log.levelNames, Text.upper e.1 = e.1 := by decide +kernel
  have hupper : Text.upper level = level := hname ▸ hcapitals e he
  have htext : asString (.text level) = .ok level := rfl
  simp only [asLogLevel, htext, bind, Except.bind, hupper, if_pos h]

/-- The name of a dialect reads as the dialect. -/
theorem asDialect_name (d : Dialect) :
    asDialect (.text d.name) = .ok d := by
  have htext : asString (.text d.name) = .ok d.name := rfl
  simp only [asDialect, htext, bind, Except.bind, d.resolve?_name]

theorem asBool_bool (b : Bool) :
    asBool (.bool b) = .ok b := rfl

theorem asOneOf_label (l : UnsupportedLevel) :
    asOneOf UnsupportedLevel.names (.text l.label) = .ok l := by
  cases l <;> rfl

/-- Settings that load do so once more when all their fields are given as overrides. -/
theorem load_settledAs
    {s : Sources} {t : Settings}
    (h : load s = .ok t) :
    load (s.settledAs t) = .ok t := by
  obtain ⟨-, -, -, -, -, hextras⟩ := load_eq_ok_iff.mp h
  have hvalue : ∀ o ∈ t.overrides, (s.settledAs t).value? o.1 = some o.2 :=
    fun o ho => s.value?_settledAs t ho
  simp only [overrides, List.forall_mem_cons] at hvalue
  obtain ⟨hdebug, hlevel, hstructured, hdialect, hunsupported, -⟩ := hvalue
  exact load_eq_ok_iff.mpr ⟨setting_of_value? hdebug (asBool_bool t.debug) _,
    setting_of_value? hlevel (asLogLevel_of_isSome_level? (isSome_level?_of_load h)) _,
    setting_of_value? hstructured (asBool_bool t.structuredLogging) _,
    setting_of_value? hdialect (asDialect_name t.defaultDialect) _,
    setting_of_value? hunsupported (asOneOf_label t.unsupportedLevel) _,
    s.extras_settledAs t hextras⟩

/-- Whether settings load is decided by what loads. -/
theorem load_eq_ok_of_toOption
    {src : Sources} {s : Settings}
    (h : (load src).toOption = some s) :
    load src = .ok s := by
  cases hload : load src with
  | error f =>
      rw [hload] at h
      cases h
  | ok t =>
      rw [hload] at h
      cases h
      rfl

/-- Without the overrides that concern the search the fields of loaded settings may be refused: the
file is read that was left out before. -/
theorem not_load_overrides :
    ¬ ∀ (src : Sources) (s : Settings), load src = .ok s →
      load ⟨s.overrides, src.environment, src.file⟩ = .ok s := by
  intro h
  have hload : load ⟨[("_env_file", .null)], [], some "nonsense=1\n"⟩ = .ok standard :=
    load_eq_ok_of_toOption (by decide +kernel)
  have hrefused : (load ⟨standard.overrides, [], some "nonsense=1\n"⟩).toOption = none := by
    decide +kernel
  rw [h _ _ hload] at hrefused
  cases hrefused

end Settings
end SqlDialects
