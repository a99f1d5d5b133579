import SqlDialects.Proofs.Settings.Files
import SqlDialects.Proofs.Settings.Reloading

/-!
# Precedence of sources

Every field of the settings is taken from the first source that defines it, and no other source has a
say in it: a value that is shadowed is not even looked at.

**Input.**  Overrides of fields, an environment without names that are equal up to case, and an
environment file that gives values to variables of fields only (`Sources.Plain`).

**Specification.**  `Sources.first?` is the value that the first source gives a field, `Sources.Takes`
says what settings come of these values, and `Sources.complaints` what is wrong with them.
`Reworded` sources differ in values that are shadowed.

**Results.**
* `Sources.Plain.value?_eq_first?`: a field is taken from the first source that defines it.
* `Sources.Plain.exists_load_iff` and `Sources.Plain.load_of_complaints`: settings load if nothing is
  wrong with any value that is taken, and otherwise all that is wrong is reported.
* `load_of_reworded`: values that are shadowed play no part in what loads.
* `precedence`: all of them.
* `load_referring`: a value that is shadowed has a part if a value of the file refers to it.
-/

namespace SqlDialects
namespace Settings

open Validation Dotenv

/-! ## The specification -/

namespace Sources

variable (s : Sources)

/-- The lines of the environment file. -/
def lines : List Binding :=
  (s.file.map Dotenv.lines).getD []

/-- The variables of the environment file: each name once, in the order of the file. -/
def written : List (String × Option String) :=
  bindLines s.environment s.lines []

/-- Whether a variable is that of a field: case does not matter. -/
def names (field name : String) : Bool :=
  Text.lower name == Text.lower ("POLYGLOT_" ++ field)

/-- The value that an override gives a field. -/
def overridden? (field : String) : Option Value :=
  (s.overrides.find? fun o => o.1 == field).map (·.2)

/-- The value that the environment gives a field. -/
def exported? (field : String) : Option Value :=
  (s.environment.find? fun b => names field b.1).map fun b => .text b.2

/-- The value that the environment file gives a field: of variables whose names differ in case the last
one counts, and a variable that is bound to nothing gives none. -/
def written? (field : String) : Option Value :=
  ((s.written.reverse.find? fun b => names field b.1).bind (·.2)).map .text

/-- The value that the first source gives that defines a field. -/
def first? (field : String) : Option Value :=
  ((s.overridden? field).or (s.exported? field)).or (s.written? field)

/-- Sources that define fields and nothing else. -/
structure Plain : Prop where
  overrides : ∀ o ∈ s.overrides, o.1 ∈ fieldNames
  /-- No two names of the environment are equal up to case. -/
  environment : (s.environment.map fun b => Text.lower b.1).Nodup
  file : ∀ l ∈ s.lines, l.2.isSome → ∃ field ∈ fieldNames, names field (String.ofList l.1) = true

/-- A field has the value that the first source gives, or its default. -/
def Gives {α : Type} (field : String) (fallback : α) (read : Value → Except Problem α) (a : α) :
    Prop :=
  match s.first? field with
  | none => a = fallback
  | some v => read v = .ok a

/-- Every field has the value that the first source gives, or its default. -/
structure Takes (t : Settings) : Prop where
  debug : s.Gives "debug" standard.debug asBool t.debug
  logLevel : s.Gives "log_level" standard.logLevel asLogLevel t.logLevel
  structuredLogging :
    s.Gives "structured_logging" standard.structuredLogging asBool t.structuredLogging
  defaultDialect : s.Gives "default_dialect" standard.defaultDialect asDialect t.defaultDialect
  unsupportedLevel :
    s.Gives "unsupported_level" standard.unsupportedLevel (asOneOf UnsupportedLevel.names)
      t.unsupportedLevel

/-- What is wrong with the value that the first source gives a field. -/
def complaint? {α : Type} (field : String) (read : Value → Except Problem α) : Option Complaint :=
  match s.first? field with
  | none => none
  | some v =>
    match read v with
    | .ok _ => none
    | .error p => some ⟨[field], p, v⟩

/-- What is wrong with the values that the first sources give, in the order of the fields. -/
def complaints : List Complaint :=
  [s.complaint? "debug" asBool, s.complaint? "log_level" asLogLevel,
    s.complaint? "structured_logging" asBool, s.complaint? "default_dialect" asDialect,
    s.complaint? "unsupported_level" (asOneOf UnsupportedLevel.names)].flatMap Option.toList

end Sources

/-- The failure that reports complaints about settings. -/
def refusal (cs : List Complaint) : Failure :=
  (Failure.of .configuration
    ("invalid polyglot settings: " ++ (Validation.failure "Settings" cs).text)).causedBy
      (Validation.failure "Settings" cs)

/-- Sources of which some values are replaced by others that no field is taken from.  The names that
are stale at the beginning are those of the environment; those that are stale at the end are bound to
other values by the environment or its file. -/
structure Reworded (before after : Set String) (s s' : Sources) : Prop where
  overrides : s'.overrides = s.overrides
  environment : List.Forall₂ (Same before) s.environment s'.environment
  lines : Rewritten before s.lines s'.lines after
  /-- A variable of the environment is shadowed by an override. -/
  hidden : ∀ name ∈ before, ∀ field ∈ fieldNames, Sources.names field name = true →
    (s.overridden? field).isSome
  /-- A variable of the file is shadowed by an override or a variable of the environment. -/
  shadowed : ∀ name ∈ after, ∀ field ∈ fieldNames, Sources.names field name = true →
    (s.overridden? field).isSome ∨ (s.exported? field).isSome

/-! ## What sources define -/

namespace Sources

variable {s : Sources}

/-- Overrides of fields concern no search. -/
theorem Plain.adjust?
    (h : s.Plain)
    {o : String × Value}
    (ho : o ∈ s.overrides) :
    Search.standard.adjust? o.1 o.2 = none :=
  Search.adjust?_fieldName (h.overrides o ho) .standard o.2

theorem Plain.search
    (h : s.Plain) :
    s.search = .standard := by
  have hnone : s.searching = [] := by
    rw [searching, List.filter_eq_nil_iff]
    intro o ho
    rw [h.adjust? ho]
    simp
  rw [search_eq_foldl_searching, hnone]
  rfl

theorem Plain.values
    (h : s.Plain) :
    s.values = s.overrides := by
  rw [Sources.values, List.filter_eq_self]
  intro o ho
  rw [h.adjust? ho]
  rfl

theorem Plain.fileBindings
    (h : s.Plain) :
    s.fileBindings = s.written.foldl (fun acc b => assign (Text.lower b.1) b.2 acc) [] := by
  have hform : Search.form .standard = Text.lower := rfl
  rw [Sources.fileBindings, h.search, hform, written, lines]
  cases s.file with
  | none =>
      rfl
  | some text =>
      have hall : (Dotenv.bindings s.environment text).filter (fun b =>
          !(Search.standard.skipEmpty && b.2 = some "")) = Dotenv.bindings s.environment text :=
        List.filter_eq_self.mpr fun _ _ => rfl
      dsimp only
      rw [if_pos (show Search.standard.withFile = true from rfl), hall, bindings_eq_bindLines]
      rfl

theorem names_iff
    {field name : String} :
    names field name = true ↔ Text.lower name = Search.standard.variableOf field :=
  beq_iff_eq

/-- Of names that are different up to case at most one is that of a field. -/
theorem find?_reverse_names
    {l : List (String × String)}
    (hnodup : (l.map fun b => Text.lower b.1).Nodup)
    (field : String) :
    l.reverse.find? (fun b => names field b.1) = l.find? fun b => names field b.1 := by
  induction l with
  | nil =>
      rfl
  | cons b l ih =>
      rw [List.map_cons, List.nodup_cons] at hnodup
      rw [List.reverse_cons, List.find?_append, ih hnodup.2, List.find?_cons]
      cases hb : names field b.1 with
      | false =>
          simp [hb]
      | true =>
          -- no later name is that of the field
          have hnone : l.find? (fun b => names field b.1) = none := by
            rw [List.find?_eq_none]
            intro c hc hname
            refine hnodup.1 (List.mem_map.mpr ⟨c, hc, ?_⟩)
            rw [names_iff.mp hname, names_iff.mp hb]
          simp [hnone, hb]

/-- Overrides of fields have the names of fields. -/
theorem find?_lower
    {l : List (String × Value)}
    (h : ∀ o ∈ l, o.1 ∈ fieldNames)
    (field : String) :
    l.find? (fun o => Text.lower o.1 == field) = l.find? fun o => o.1 == field := by
  induction l with
  | nil =>
      rfl
  | cons o l ih =>
      rw [List.forall_mem_cons] at h
      rw [List.find?_cons, List.find?_cons, lower_fieldName h.1, ih h.2]

theorem Plain.valueOf
    (h : s.Plain)
    (field text : String) :
    s.valueOf field text = .text text := by
  rw [Sources.valueOf, h.search]
  rfl

theorem Plain.environment?
    (h : s.Plain)
    (field : String) :
    s.environment? (Search.standard.variableOf field) =
      (s.environment.find? fun b => names field b.1).map (·.2) := by
  rw [Sources.environment?, h.search, ← find?_reverse_names h.environment]
  simp only [Search.standard, Bool.false_and, Bool.not_false, Bool.and_true]
  rfl

/-- The value that defines a field is the value that the first source gives. -/
theorem Plain.value?_eq_first?
    (h : s.Plain)
    (field : String) :
    s.value? field = s.first? field := by
  have hfile := find?_foldl_assign Text.lower (Search.standard.variableOf field) s.written []
  have hnames : (fun b : String × Option String =>
      Text.lower b.1 == Search.standard.variableOf field) = fun b => names field b.1 := rfl
  rw [hnames, List.find?_nil, Option.or_none] at hfile
  rw [value?, h.values, h.search, h.environment?, h.fileBindings, hfile, find?_lower h.overrides,
    first?, overridden?, exported?, written?]
  cases s.overrides.find? fun o => o.1 == field with
  | some o =>
      rfl
  | none =>
      cases s.environment.find? fun b => names field b.1 with
      | some b =>
          exact congrArg some (h.valueOf field b.2)
      | none =>
          generalize s.written.reverse.find? (fun b => names field b.1) = found
          rcases found with _ | ⟨name, _ | text⟩
          · rfl
          · rfl
          · exact congrArg some (h.valueOf field text)

/-- A variable of the file sets a field, or it has no value. -/
theorem Plain.isHandled
    (h : s.Plain)
    {b : String × Option String}
    (hb : b ∈ s.fileBindings) :
    s.isHandled b.1 b.2 = true := by
  rw [h.fileBindings] at hb
  rcases exists_of_mem_foldl_assign (fun b : String × Option String => Text.lower b.1)
    (fun _ b => b.2) hb with hb | ⟨c, hc, -, rfl⟩
  · cases hb
  · obtain ⟨l, hl, hname, hvalue⟩ := exists_line_of_mem_bindLines hc
    cases htext : c.2 with
    | none =>
        rw [Sources.isHandled]
        simp
    | some text =>
        rw [htext] at hvalue
        obtain ⟨field, hfield, hnames⟩ := h.file l hl hvalue
        rw [hname] at hnames
        have hany : (fieldNames.any fun f => Text.lower c.1 == s.search.variableOf f) = true := by
          rw [List.any_eq_true, h.search]
          exact ⟨field, hfield, hnames⟩
        rw [Sources.isHandled, hany, Bool.or_true]

/-- No source defines anything but fields. -/
theorem Plain.extras
    (h : s.Plain) :
    s.extras = [] := by
  have hoverrides : s.overrides.filter (fun o => !fieldNames.contains (Text.lower o.1)) = [] := by
    rw [List.filter_eq_nil_iff]
    intro o ho
    have hname := h.overrides o ho
    rw [lower_fieldName hname, List.contains_iff_mem.mpr hname]
    simp
  rw [Sources.extras, h.values, hoverrides]
  exact List.filterMap_eq_nil_iff.mpr fun b hb => if_pos (h.isHandled hb)

end Sources

/-! ## Complaints -/

/-- What is wrong with data that have been checked. -/
def faults {α : Type} : Checked α → List Complaint
  | .ok _ => []
  | .error cs => cs

theorem faults_both
    {α β : Type}
    (a : Checked α)
    (b : Checked β) :
    faults (both a b) = faults a ++ faults b := by
  cases a <;> cases b <;> simp [both, faults]

theorem faults_map
    {α β : Type}
    (a : Checked α)
    (f : α → β) :
    faults (a.map f) = faults a := by
  cases a <;> rfl

namespace Sources

variable {s : Sources} {α : Type}

theorem Plain.setting_eq_ok_iff
    (h : s.Plain)
    {field : String} {fallback a : α} {read : Value → Except Problem α} :
    setting s field fallback read = .ok a ↔ s.Gives field fallback read a := by
  rw [setting, h.value?_eq_first?, Gives]
  cases s.first? field with
  | none =>
      simp [eq_comm]
  | some v =>
      dsimp only
      cases read v <;> simp

theorem Plain.faults_setting
    (h : s.Plain)
    (field : String)
    (fallback : α)
    (read : Value → Except Problem α) :
    faults (setting s field fallback read) = (s.complaint? field read).toList := by
  rw [setting, h.value?_eq_first?, complaint?]
  cases s.first? field with
  | none =>
      rfl
  | some v =>
      dsimp only
      cases read v <;> rfl

/-- A field without a complaint has a value. -/
theorem exists_gives_of_complaint?
    {field : String} {read : Value → Except Problem α}
    (h : s.complaint? field read = none)
    (fallback : α) :
    ∃ a, s.Gives field fallback read a := by
  rw [complaint?] at h
  unfold Gives
  cases hv : s.first? field with
  | none =>
      exact ⟨fallback, rfl⟩
  | some v =>
      rw [hv] at h
      dsimp only at h ⊢
      cases hread : read v with
      | ok a => exact ⟨a, rfl⟩
      | error p => simp [hread] at h

theorem Plain.faults_check
    (h : s.Plain) :
    faults (check s) = s.complaints := by
  rw [check, faults_map, h.extras]
  simp only [faults_both, h.faults_setting, complaints, List.flatMap_cons, List.flatMap_nil]
  simp [faults]

theorem Plain.load_eq_ok_iff_takes
    (h : s.Plain)
    (t : Settings) :
    load s = .ok t ↔ s.Takes t := by
  rw [load_eq_ok_iff]
  simp only [h.setting_eq_ok_iff, h.extras, and_true]
  constructor
  · rintro ⟨hdebug, hlevel, hstructured, hdialect, hunsupported⟩
    exact ⟨hdebug, hlevel, hstructured, hdialect, hunsupported⟩
  · rintro ⟨hdebug, hlevel, hstructured, hdialect, hunsupported⟩
    exact ⟨hdebug, hlevel, hstructured, hdialect, hunsupported⟩

/-- Fields without complaints can be taken together. -/
theorem exists_takes
    (h : s.complaints = []) :
    ∃ t, s.Takes t := by
  simp only [complaints, List.flatMap_cons, List.flatMap_nil, List.append_eq_nil_iff, and_true,
    Option.toList_eq_nil_iff] at h
  obtain ⟨hdebug, hlevel, hstructured, hdialect, hunsupported⟩ := h
  obtain ⟨debug, hdebug⟩ := exists_gives_of_complaint? hdebug standard.debug
  obtain ⟨level, hlevel⟩ := exists_gives_of_complaint? hlevel standard.logLevel
  obtain ⟨structured, hstructured⟩ :=
    exists_gives_of_complaint? hstructured standard.structuredLogging
  obtain ⟨dialect, hdialect⟩ := exists_gives_of_complaint? hdialect standard.defaultDialect
  obtain ⟨unsupported, hunsupported⟩ :=
    exists_gives_of_complaint? hunsupported standard.unsupportedLevel
  exact ⟨⟨debug, level, structured, dialect, unsupported⟩, hdebug, hlevel, hstructured, hdialect,
    hunsupported⟩

/-- Settings load exactly if there is nothing to complain about. -/
theorem Plain.exists_load_iff
    (h : s.Plain) :
    (∃ t, load s = .ok t) ↔ s.complaints = [] := by
  constructor
  · rintro ⟨t, ht⟩
    rw [← h.faults_check, load_eq_ok_iff_check.mp ht]
    rfl
  · intro hnone
    obtain ⟨t, ht⟩ := exists_takes hnone
    exact ⟨t, (h.load_eq_ok_iff_takes t).mpr ht⟩

/-- Otherwise the failure reports all complaints. -/
theorem Plain.load_of_complaints
    (h : s.Plain)
    (hsome : s.complaints ≠ []) :
    load s = .error (refusal s.complaints) := by
  have hfaults := h.faults_check
  rw [load]
  cases hcheck : check s with
  | ok t =>
      rw [hcheck] at hfaults
      exact absurd hfaults.symm hsome
  | error cs =>
      rw [hcheck] at hfaults
      rw [← hfaults]
      rfl

end Sources

/-! ## Values that are shadowed -/

namespace Reworded

variable {before after : Set String} {s s' : Sources}

/-- The sources that are reworded define the same names. -/
theorem plain
    (hs : s.Plain)
    (h : Reworded before after s s') :
    s'.Plain where
  overrides := h.overrides ▸ hs.overrides
  environment := by
    have hnames := congrArg (List.map Text.lower) (map_fst_of_same h.environment)
    rw [List.map_map, List.map_map] at hnames
    have hnodup := hs.environment
    unfold Function.comp at hnames
    rw [← hnames] at hnodup
    exact hnodup
  file := by
    intro l' hl' hvalue
    obtain ⟨l, hl, hname, hsome⟩ := h.lines.exists_line l' hl'
    rw [← hname]
    exact hs.file l hl (hsome ▸ hvalue)

theorem overridden?_eq
    (h : Reworded before after s s')
    (field : String) :
    s'.overridden? field = s.overridden? field := by
  rw [Sources.overridden?, h.overrides]
  rfl

/-- What no override shadows in the environment stays as it is. -/
theorem exported?_eq
    (h : Reworded before after s s')
    {field : String}
    (hfield : field ∈ fieldNames)
    (hoverridden : s.overridden? field = none) :
    s'.exported? field = s.exported? field := by
  have hfind := find?_of_same h.environment (Sources.names field) fun name hname hstale => by
    have hsome := h.hidden name hstale field hfield hname
    rw [hoverridden] at hsome
    cases hsome
  rw [Sources.exported?, Sources.exported?, hfind]

/-- What neither an override nor the environment shadows in the file stays as it is. -/
theorem written?_eq
    (h : Reworded before after s s')
    {field : String}
    (hfield : field ∈ fieldNames)
    (hoverridden : s.overridden? field = none)
    (hexported : s.exported? field = none) :
    s'.written? field = s.written? field := by
  have hsame : List.Forall₂ (Same after) s.written.reverse s'.written.reverse :=
    List.forall₂_reverse_iff.mpr (forall₂_bindLines h.environment h.lines)
  have hfind := find?_of_same hsame (Sources.names field) fun name hname hstale => by
    have hsome := h.shadowed name hstale field hfield hname
    rw [hoverridden, hexported] at hsome
    simp at hsome
  rw [Sources.written?, Sources.written?, hfind]

/-- Every field is given the same value. -/
theorem first?_eq
    (h : Reworded before after s s')
    {field : String}
    (hfield : field ∈ fieldNames) :
    s'.first? field = s.first? field := by
  rw [Sources.first?, Sources.first?, h.overridden?_eq]
  cases hoverridden : s.overridden? field with
  | some v =>
      rw [Option.some_or, Option.some_or, Option.some_or, Option.some_or]
  | none =>
      rw [h.exported?_eq hfield hoverridden]
      cases hexported : s.exported? field with
      | some v => rw [Option.none_or, Option.some_or, Option.some_or]
      | none => rw [h.written?_eq hfield hoverridden hexported]

end Reworded

/-- What loads depends on the values of the fields and on what names no field. -/
theorem load_congr
    {s s' : Sources}
    (hvalue : ∀ field ∈ fieldNames, s'.value? field = s.value? field)
    (hextras : s'.extras = s.extras) :
    load s' = load s := by
  simp only [fieldNames, List.forall_mem_cons] at hvalue
  obtain ⟨hdebug, hlevel, hstructured, hdialect, hunsupported, -⟩ := hvalue
  have hcheck : check s' = check s := by
    simp only [check, setting, hextras, hdebug, hlevel, hstructured, hdialect, hunsupported]
  rw [load, load, hcheck]

/-- Values that are shadowed play no part in what loads. -/
theorem load_of_reworded
    {before after : Set String} {s s' : Sources}
    (hs : s.Plain)
    (h : Reworded before after s s') :
    load s' = load s := by
  have hs' := h.plain hs
  refine load_congr (fun field hfield => ?_) (hs'.extras.trans hs.extras.symm)
  rw [hs'.value?_eq_first?, hs.value?_eq_first?, h.first?_eq hfield]

/--
What loads from overrides of fields, an environment without names that are equal up to case, and a file
that gives values to variables of fields only.

Every field has the value that the first of overrides, environment and file gives, or its default.
Settings load exactly if all values that are so chosen are taken; otherwise the failure reports those
that are not, in the order of the fields.  Replacing values that are shadowed changes neither the
settings nor the failure, as long as no value of the file that is kept refers to them.
-/
theorem precedence
    {s : Sources}
    (h : s.Plain) :
    (∀ t, load s = .ok t ↔ s.Takes t) ∧
    ((∃ t, load s = .ok t) ↔ s.complaints = []) ∧
    (s.complaints ≠ [] → load s = .error (refusal s.complaints)) ∧
    ∀ before after s', Reworded before after s s' → load s' = load s :=
  ⟨h.load_eq_ok_iff_takes, h.exists_load_iff, h.load_of_complaints,
    fun _ _ _ => load_of_reworded h⟩

/-- A dialect that an override shadows, and a level of the file that the environment shadows.  Of the
values that are left one is refused. -/
def layered (dialect level : String) : Sources :=
  ⟨[("default_dialect", .text "mysql")],
    [("POLYGLOT_DEFAULT_DIALECT", dialect), ("polyglot_log_level", "Info")],
    some ("POLYGLOT_LOG_LEVEL=" ++ level ++ "\npolyglot_debug=perhaps\n")⟩

theorem lines_layered :
    (layered "nowhere" "loud").lines =
      [("POLYGLOT_LOG_LEVEL".toList, some "loud".toList),
        ("polyglot_debug".toList, some "perhaps".toList)] ∧
    (layered "oracle" "quiet").lines =
      [("POLYGLOT_LOG_LEVEL".toList, some "quiet".toList),
        ("polyglot_debug".toList, some "perhaps".toList)] := by
  decide +kernel

theorem plain_layered :
    (layered "nowhere" "loud").Plain where
  overrides := by
    intro o ho
    obtain rfl := List.mem_singleton.mp ho
    simp [fieldNames]
  environment := by decide +kernel
  file := by
    rw [lines_layered.1]
    decide +kernel

theorem reworded_layered :
    Reworded {"POLYGLOT_DEFAULT_DIALECT"} {"POLYGLOT_DEFAULT_DIALECT", "POLYGLOT_LOG_LEVEL"}
      (layered "nowhere" "loud") (layered "oracle" "quiet") where
  overrides := rfl
  environment :=
    .cons ⟨rfl, fun h => absurd rfl h⟩ (.cons ⟨rfl, fun _ => rfl⟩ .nil)
  lines := by
    rw [lines_layered.1, lines_layered.2]
    refine .replaced (.kept (by decide +kernel) (.nil fun name hname => ?_))
    rcases hname.1 with rfl | rfl
    · exact .inr rfl
    · exact .inl rfl
  hidden := by
    rintro name rfl
    decide +kernel
  shadowed := by
    rintro name (rfl | rfl)
    · decide +kernel
    · decide +kernel

theorem precedence_layered :
    (layered "nowhere" "loud").Plain ∧
    Reworded {"POLYGLOT_DEFAULT_DIALECT"} {"POLYGLOT_DEFAULT_DIALECT", "POLYGLOT_LOG_LEVEL"}
      (layered "nowhere" "loud") (layered "oracle" "quiet") ∧
    (layered "nowhere" "loud").complaints = [⟨["debug"], .unclearBool, .text "perhaps"⟩] ∧
    load (layered "nowhere" "loud") =
      .error (refusal [⟨["debug"], .unclearBool, .text "perhaps"⟩]) ∧
    load (layered "oracle" "quiet") = load (layered "nowhere" "loud") := by
  have hcomplaints : (layered "nowhere" "loud").complaints =
      [⟨["debug"], .unclearBool, .text "perhaps"⟩] := by rfl
  obtain ⟨-, -, hfails, hreworded⟩ := precedence plain_layered
  rw [hcomplaints] at hfails
  exact ⟨plain_layered, reworded_layered, hcomplaints, hfails (by simp),
    hreworded _ _ _ reworded_layered⟩

/-- A value of the file may refer to a variable of the environment. -/
def referring (dialect : String) : Sources :=
  ⟨[("default_dialect", .text "mysql")], [("POLYGLOT_DEFAULT_DIALECT", dialect)],
    some "POLYGLOT_LOG_LEVEL=$\x7bPOLYGLOT_DEFAULT_DIALECT\x7d\n"⟩

/-- An override shadows the variable, and still what loads depends on its value. -/
theorem load_referring :
    (∀ dialect, (referring dialect).Plain ∧
      (referring dialect).overridden? "default_dialect" = some (.text "mysql")) ∧
    load (referring "INFO") = .ok ⟨false, "INFO", false, .mysql, .refuse⟩ ∧
    load (referring "ERROR") = .ok ⟨false, "ERROR", false, .mysql, .refuse⟩ := by
  have hlines : ((Dotenv.lines "POLYGLOT_LOG_LEVEL=$\x7bPOLYGLOT_DEFAULT_DIALECT\x7d\n").map
      fun l => String.ofList l.1) = ["POLYGLOT_LOG_LEVEL"] := by decide +kernel
  have hname : Sources.names "log_level" "POLYGLOT_LOG_LEVEL" = true := by decide +kernel
  refine ⟨fun dialect => ⟨⟨?_, ?_, ?_⟩, rfl⟩, load_eq_ok_of_toOption (by decide +kernel),
    load_eq_ok_of_toOption (by decide +kernel)⟩
  · intro o ho
    obtain rfl := List.mem_singleton.mp ho
    simp [fieldNames]
  · exact List.nodup_singleton _
  · intro l hl hvalue
    have hmem : String.ofList l.1 ∈ ["POLYGLOT_LOG_LEVEL"] :=
      hlines ▸ List.mem_map.mpr ⟨l, hl, rfl⟩
    rw [List.mem_singleton.mp hmem]
    exact ⟨"log_level", by simp [fieldNames], hname⟩

end Settings
end SqlDialects
