import SqlDialects.Proofs.Dialect.Table
import SqlDialects.Proofs.Session.Resolution
import SqlDialects.Proofs.Text.Lowering

/-!
# Which names are accepted

A name is compared in lower case and without separators, in this order: a capital sigma is lowered by
its neighbours, separators among them, and what is compared may depend on a hyphen.  Whether the name
is accepted does not.

**Input.**  Any name.

**Specification.**  The `core` of a name is read off character by character: separators are left out,
and ASCII capitals and the Kelvin sign become small letters.  A dialect `IsCalled` what the table
holds for it.

**Invariant.**  The names in the table are within ASCII, and `normalizeChars_eq_iff` says that there
a name arrives exactly with its core.

**Results.**
* `resolve?_eq_some_iff`: a name stands for the dialect that is called as its core.
* `Respelled.coreChars_eq`: separators and the case of ASCII letters play no part in the core.
* `run_resolve_exact`: what comes of resolving a name in a session.
-/

namespace SqlDialects
namespace Dialect

/-! ## Cores -/

/-- The characters of a name that decide which dialect it stands for. -/
def coreChars (cs : List Char) : List Char :=
  (cs.filter fun c => !isSeparator c).map Text.plainLower

/-- The text that decides which dialect a name stands for. -/
def core (name : String) : String :=
  String.ofList (coreChars name.toList)

theorem isSeparator_asciiLower (c : Char) :
    isSeparator (Text.asciiLower c) = isSeparator c := by
  by_cases h : 'A' ≤ c ∧ c ≤ 'Z'
  · have hle : 'A'.toNat ≤ c.toNat := h.1
    have hge : c.toNat ≤ 'Z'.toNat := h.2
    have hlower := Text.toNat_asciiLower_of_capital h
    have hfree : ∀ d : Char, d.toNat ≠ '-'.toNat → d.toNat ≠ '_'.toNat → isSeparator d = false := by
      intro d hhyphen hunderscore
      simp only [isSeparator, Bool.or_eq_false_iff, decide_eq_false_iff_not]
      exact ⟨fun heq => hhyphen (heq ▸ rfl), fun heq => hunderscore (heq ▸ rfl)⟩
    simp only [Char.reduceToNat] at hle hge hfree
    rw [hfree c (by omega) (by omega), hfree _ (by omega) (by omega)]
  · rw [Text.asciiLower_of_not_capital h]

theorem isSeparator_plainLower (c : Char) :
    isSeparator (Text.plainLower c) = isSeparator c := by
  by_cases h : c = Text.kelvinSign
  · subst h
    decide
  · rw [Text.plainLower, if_neg h, isSeparator_asciiLower]

theorem toNat_lt_of_isSeparator
    {c : Char}
    (h : isSeparator c = true) :
    c.toNat < 128 := by
  simp only [isSeparator, Bool.or_eq_true, decide_eq_true_eq] at h
  rcases h with rfl | rfl <;> decide

/-- A name of plain characters is compared by its core. -/
theorem normalizeChars_of_isPlain
    {cs : List Char}
    (h : ∀ c ∈ cs, Text.IsPlain c) :
    normalizeChars cs = coreChars cs := by
  rw [normalizeChars, Text.lowerChars, Text.lowerFrom_of_isPlain h, List.filter_map, coreChars]
  congr 1
  refine List.filter_congr fun c _ => ?_
  rw [Function.comp_apply, isSeparator_plainLower]

/-- A name arrives within ASCII exactly with its core. -/
theorem normalizeChars_eq_iff
    {cs t : List Char}
    (ht : ∀ x ∈ t, x.toNat < 128) :
    normalizeChars cs = t ↔ coreChars cs = t := by
  constructor
  · rintro rfl
    -- what the lower case holds is in the result or a separator, so all of it is within ASCII
    have hlower : ∀ x ∈ Text.lowerFrom [] cs, x.toNat < 128 := by
      intro x hx
      by_cases hsep : isSeparator x = true
      · exact toNat_lt_of_isSeparator hsep
      · exact ht x (List.mem_filter.mpr ⟨hx, by simpa using hsep⟩)
    exact (normalizeChars_of_isPlain (Text.isPlain_of_lowerFrom hlower)).symm
  · rintro rfl
    refine normalizeChars_of_isPlain fun c hc => ?_
    by_cases hsep : isSeparator c = true
    · exact Or.inl (toNat_lt_of_isSeparator hsep)
    · rw [← Text.toNat_plainLower_lt_iff]
      exact ht _ (List.mem_map_of_mem (List.mem_filter.mpr ⟨hc, by simpa using hsep⟩))

theorem normalize_eq_iff
    {name t : String}
    (ht : ∀ x ∈ t.toList, x.toNat < 128) :
    normalize name = t ↔ core name = t := by
  rw [← String.toList_inj, ← String.toList_inj, normalize, core, String.toList_ofList,
    String.toList_ofList, normalizeChars_eq_iff ht]

/-! ## The table -/

/-- Whether the table has a text as a name of a dialect. -/
def IsCalled (d : Dialect) (text : String) : Prop :=
  ∃ s ∈ table, s.dialect = d ∧ (text = s.canonical ∨ text ∈ s.aliases)

theorem isCalled_iff {d : Dialect} {text : String} :
    d.IsCalled text ↔ ∃ s ∈ table, s.dialect = d ∧ text ∈ s.names := by
  simp only [IsCalled, Spec.names, List.mem_cons]

/-- The entries of the table. -/
def tableEntries : List (Dialect × List String) :=
  all.map fun d => (d, d.aliases)

/-- No two names of dialects are equal as they are compared. -/
theorem nodup_tableEntries : (allNames tableEntries).Nodup := by decide +kernel

theorem buildTable_tableEntries :
    buildTable tableEntries = .ok (tableEntries.map Spec.ofEntry) := by
  have hnodup : ([] ++ allNames tableEntries).Nodup := by
    rw [List.nil_append]
    exact nodup_tableEntries
  exact buildFrom_eq_ok hnodup

theorem table_eq : table = tableEntries.map Spec.ofEntry := by
  delta table
  rw [← tableEntries, buildTable_tableEntries]

theorem name_ascii (d : Dialect) :
    ∀ n ∈ d.name :: d.aliases, ∀ c ∈ n.toList, c.toNat < 128 := by
  have hall : ((d.name :: d.aliases).all fun n => n.toList.all fun c => c.toNat < 128) = true := by
    cases d <;> decide
  simpa only [List.all_eq_true, decide_eq_true_eq] using hall

/-- What the table compares with is within ASCII. -/
theorem names_ascii
    {s : Spec}
    (hs : s ∈ table)
    {text : String}
    (htext : text ∈ s.names) :
    ∀ x ∈ text.toList, x.toNat < 128 := by
  rw [table_eq, tableEntries, List.map_map] at hs
  obtain ⟨d, -, rfl⟩ := List.mem_map.mp hs
  rw [Function.comp_apply, names_ofEntry, entryNames] at htext
  obtain ⟨n, hn, rfl⟩ := List.mem_map.mp htext
  have hplain : ∀ c ∈ n.toList, Text.IsPlain c := fun c hc => Or.inl (name_ascii d n hn c hc)
  rw [normalize, String.toList_ofList, normalizeChars_of_isPlain hplain, coreChars]
  intro x hx
  obtain ⟨c, hc, rfl⟩ := List.mem_map.mp hx
  exact (Text.toNat_plainLower_lt_iff c).mpr (hplain c (List.mem_of_mem_filter hc))

/-- A text is a name of one row at most. -/
theorem eq_of_mem_names
    {s t : Spec}
    (hs : s ∈ table)
    (ht : t ∈ table)
    {text : String}
    (htexts : text ∈ s.names)
    (htextt : text ∈ t.names) :
    s = t := by
  rw [table_eq] at hs ht
  exact eq_of_mem_rows nodup_tableEntries hs ht htexts htextt

theorem IsCalled.eq
    {d e : Dialect} {text : String}
    (hd : d.IsCalled text)
    (he : e.IsCalled text) :
    d = e := by
  obtain ⟨s, hs, rfl, htexts⟩ := isCalled_iff.mp hd
  obtain ⟨t, ht, rfl, htextt⟩ := isCalled_iff.mp he
  rw [eq_of_mem_names hs ht htexts htextt]

/-- A name stands for the dialect that is called as its core. -/
theorem resolve?_eq_some_iff {name : String} {d : Dialect} :
    resolve? name = some d ↔ d.IsCalled (core name) := by
  rw [resolve?, lookup?, Option.map_eq_some_iff, isCalled_iff]
  constructor
  · rintro ⟨s, hfound, hd⟩
    have hs : s ∈ table := List.mem_of_find?_eq_some hfound
    have hname : normalize name ∈ s.names :=
      Spec.answersTo_iff.mp (by simpa using List.find?_some hfound)
    have hcore : core name = normalize name :=
      (normalize_eq_iff (names_ascii hs hname)).mp rfl
    exact ⟨s, hs, hd, hcore ▸ hname⟩
  · rintro ⟨s, hs, hd, hcore⟩
    have hname : normalize name = core name := (normalize_eq_iff (names_ascii hs hcore)).mpr rfl
    rw [table_eq] at hs ⊢
    exact ⟨s, find?_of_mem_rows nodup_tableEntries hs (hname ▸ hcore), hd⟩

/-! ## Spellings -/

/-- Spellings that differ in separators and in the case of ASCII letters only. -/
inductive Respelled : List Char → List Char → Prop
  | nil : Respelled [] []
  | inserted {c : Char} {cs ds : List Char} :
      isSeparator c = true → Respelled cs ds → Respelled cs (c :: ds)
  | deleted {c : Char} {cs ds : List Char} :
      isSeparator c = true → Respelled cs ds → Respelled (c :: cs) ds
  | kept {c d : Char} {cs ds : List Char} :
      Text.asciiLower c = Text.asciiLower d → Respelled cs ds → Respelled (c :: cs) (d :: ds)

theorem coreChars_cons_of_isSeparator
    {c : Char}
    (h : isSeparator c = true)
    (cs : List Char) :
    coreChars (c :: cs) = coreChars cs := by
  rw [coreChars, List.filter_cons_of_neg (by simpa using h), coreChars]

/-- The core is the same for all spellings of a name. -/
theorem Respelled.coreChars_eq
    {cs ds : List Char}
    (h : Respelled cs ds) :
    coreChars cs = coreChars ds := by
  induction h with
  | nil =>
      rfl
  | inserted hc _ ih =>
      rw [coreChars_cons_of_isSeparator hc, ih]
  | deleted hc _ ih =>
      rw [coreChars_cons_of_isSeparator hc, ih]
  | @kept c d cs ds hcd _ ih =>
      have hsep : isSeparator c = isSeparator d := by
        rw [← isSeparator_asciiLower c, hcd, isSeparator_asciiLower]
      by_cases hc : isSeparator c = true
      · rw [coreChars_cons_of_isSeparator hc, coreChars_cons_of_isSeparator (hsep ▸ hc), ih]
      · have hd : ¬ isSeparator d = true := hsep ▸ hc
        rw [coreChars, List.filter_cons_of_pos (by simpa using hc), List.map_cons, ← coreChars, ih,
          coreChars, coreChars, List.filter_cons_of_pos (by simpa using hd), List.map_cons,
          Text.plainLower_congr hcd]

theorem Respelled.core_eq
    {a b : String}
    (h : Respelled a.toList b.toList) :
    core a = core b := by
  rw [core, core, h.coreChars_eq]

/-! ## Acceptance -/

/-- What comes of resolving a name in a session. -/
structure ExactlyAccepted {σ α : Type} (name : String) (p : Session σ α) : Prop where
  accepted : ∀ d, Action.run (Action.resolve name) p = (.ok d, p) ↔ d.IsCalled (core name)
  unique : ∀ d e : Dialect, d.IsCalled (core name) → e.IsCalled (core name) → d = e
  refused : (∀ d : Dialect, ¬ d.IsCalled (core name)) →
    ∃ f, Action.run (Action.resolve name) p = (.error f, p) ∧
      f.cls = .unknownDialect ∧
      f.argument = name ∧
      f.text = "unknown dialect: '" ++ name
        ++ "'. Use polyglot_bridge.dialects() to see supported dialects"
  respelled : ∀ other : String, Respelled name.toList other.toList →
    (Action.run (Action.resolve name) p).1.toOption =
      (Action.run (Action.resolve other) p).1.toOption

theorem exactlyAccepted
    {σ α : Type}
    (name : String)
    (p : Session σ α) :
    ExactlyAccepted name p where
  accepted := by
    intro d
    rw [Action.run_resolve, ← resolve?_eq_some_iff]
    cases resolve? name <;> simp
  unique := fun d e hd he => hd.eq he
  refused := by
    intro h
    have hnone : resolve? name = none :=
      Option.eq_none_iff_forall_ne_some.mpr fun d hd => h d (resolve?_eq_some_iff.mp hd)
    refine ⟨.unknownDialect name, ?_, rfl, rfl, rfl⟩
    rw [Action.run_resolve, hnone]
    rfl
  respelled := by
    intro other h
    have hsame : resolve? name = resolve? other := by
      ext d
      rw [resolve?_eq_some_iff, resolve?_eq_some_iff, h.core_eq]
    rw [Action.run_resolve, Action.run_resolve, hsame]
    cases resolve? other <;> rfl

/-- A hyphen may turn a small sigma into one that ends a word. -/
theorem normalizeChars_insert :
    normalizeChars ('Α' :: 'Σ' :: '-' :: ['Α']) ≠ normalizeChars ('Α' :: 'Σ' :: ['Α']) := by
  decide +kernel

/--
Resolving a name gives a dialect exactly if the core of the name is the canonical name or an alias of
it in the table; the dialect is then the only one.  Otherwise it fails with the name as it was given,
which the text of the failure holds as it is.  Separators that are put in or left out, and the case of
ASCII letters, make no difference to the dialect.  To the text that is compared they do.
-/
theorem run_resolve_exact {σ α : Type} :
    (∀ (name : String) (p : Session σ α), ExactlyAccepted name p) ∧
      ∃ (before after : List Char) (c : Char), isSeparator c = true ∧
        normalizeChars (before ++ c :: after) ≠ normalizeChars (before ++ after) :=
  ⟨exactlyAccepted, ['Α', 'Σ'], ['Α'], '-', by decide, normalizeChars_insert⟩

end Dialect
end SqlDialects
