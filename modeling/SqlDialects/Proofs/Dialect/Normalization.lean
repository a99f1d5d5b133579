import SqlDialects.Proofs.Dialect.Acceptance
import SqlDialects.Proofs.Text.Lowered

/-!
# Names as they are compared

Separators are left out after the name has been lowered, so what is compared has not been lowered as it
stands: a capital sigma before a hyphen became a final one, which then stands in the middle of a word.
Normalizing once more keeps it there.

**Input.**  Any name, and any list of entries that has a table.

**Invariant.**  A name `IsNormal` if each of its characters is its own lower case and no separator.  These
are the names that normalizing keeps (`normalize_eq_self_iff`), and all that it gives.

**Results.**
* `isNormal_normalize`: what is compared is normal, so normalizing it again changes nothing.
* `Held.of_mem`: a name in a table is compared as it is, and found in the row that has it.
* `normalize_settles`: both of them.
-/

namespace SqlDialects
namespace Dialect

/-! ## Normal names -/

/-- Each character is its own lower case and none separates parts. -/
def IsNormal (name : String) : Prop :=
  ∀ c ∈ name.toList, Text.IsLowered c ∧ isSeparator c = false

theorem isNormal_normalize (name : String) :
    IsNormal (normalize name) := by
  intro c hc
  rw [normalize, String.toList_ofList] at hc
  obtain ⟨hlower, hkept⟩ := List.mem_filter.mp hc
  exact ⟨Text.isLowered_of_mem_lowerFrom hlower, by simpa using hkept⟩

/-- Normalizing keeps the names that are normal, and no others. -/
theorem normalize_eq_self_iff {name : String} :
    normalize name = name ↔ IsNormal name := by
  constructor
  · intro h
    exact h ▸ isNormal_normalize name
  · intro h
    have hlower : Text.lowerChars name.toList = name.toList :=
      Text.lowerFrom_of_isLowered (fun c hc => (h c hc).1) []
    have hkept : name.toList.filter (fun c => !isSeparator c) = name.toList :=
      List.filter_eq_self.mpr fun c hc => by simpa using (h c hc).2
    rw [normalize, normalizeChars, hlower, hkept, String.ofList_toList]

/-- A normal name has no hyphen, no underscore and no capital of ASCII. -/
theorem IsNormal.free
    {name : String}
    (h : IsNormal name) :
    ∀ c ∈ name.toList, c ≠ '-' ∧ c ≠ '_' ∧ ¬ ('A' ≤ c ∧ c ≤ 'Z') := by
  intro c hc
  obtain ⟨hlowered, hkept⟩ := h c hc
  simp only [isSeparator, Bool.or_eq_false_iff, decide_eq_false_iff_not] at hkept
  exact ⟨hkept.1, hkept.2, hlowered.not_capital⟩

/-! ## Names in tables -/

/-- A row of a table holds a name: the name is compared as it is, and looking it up finds the row. -/
structure Held (t : List Spec) (s : Spec) (name : String) : Prop where
  fixed : normalize name = name
  found : t.find? (fun r => r.answersTo (normalize name)) = some s
  dialect : lookup? t name = some s.dialect

theorem isNormal_of_mem_rows
    {entries : List (Dialect × List String)} {s : Spec}
    (hs : s ∈ entries.map Spec.ofEntry)
    {name : String}
    (hname : name ∈ s.names) :
    IsNormal name := by
  obtain ⟨entry, -, rfl⟩ := List.mem_map.mp hs
  rw [names_ofEntry, entryNames] at hname
  obtain ⟨n, -, rfl⟩ := List.mem_map.mp hname
  exact isNormal_normalize n

theorem Held.of_mem
    {entries : List (Dialect × List String)} {t : List Spec}
    (hbuilt : buildTable entries = .ok t)
    {s : Spec}
    (hs : s ∈ t)
    {name : String}
    (hname : name = s.canonical ∨ name ∈ s.aliases) :
    Held t s name := by
  obtain ⟨hnodup, rfl⟩ := eq_map_of_buildTable hbuilt
  have hname : name ∈ s.names := List.mem_cons.mpr hname
  have hfixed : normalize name = name := normalize_eq_self_iff.mpr (isNormal_of_mem_rows hs hname)
  have hfound : (entries.map Spec.ofEntry).find? (fun r => r.answersTo (normalize name)) = some s := by
    rw [hfixed]
    exact find?_of_mem_rows hnodup hs hname
  exact ⟨hfixed, hfound, by rw [lookup?, hfound]; rfl⟩

/--
Normalizing a name twice is normalizing it once, and what it gives has no hyphen, no underscore and no
capital of ASCII.  The names that are kept are those whose characters are all their own lower case and
no separators.

So the names in a table that is built, canonical ones and aliases, are compared as they are, and looking
one up finds the row that has it; a name in the table of all dialects stands for the dialect of its row.
-/
theorem normalize_settles :
    (∀ name, normalize (normalize name) = normalize name ∧
      ∀ c ∈ (normalize name).toList, c ≠ '-' ∧ c ≠ '_' ∧ ¬ ('A' ≤ c ∧ c ≤ 'Z')) ∧
    (∀ name, normalize name = name ↔ IsNormal name) ∧
    (∀ entries t, buildTable entries = .ok t →
      ∀ s ∈ t, ∀ name, name = s.canonical ∨ name ∈ s.aliases → Held t s name) ∧
    ∀ s ∈ table, ∀ name, name = s.canonical ∨ name ∈ s.aliases →
      resolve? name = some s.dialect := by
  refine ⟨fun name => ?_, fun name => normalize_eq_self_iff, ?_, ?_⟩
  · have hnormal : IsNormal (normalize name) := isNormal_normalize name
    exact ⟨normalize_eq_self_iff.mpr hnormal, hnormal.free⟩
  · intro entries t hbuilt s hs name hname
    exact .of_mem hbuilt hs hname
  · intro s hs name hname
    rw [table_eq] at hs
    rw [resolve?, table_eq]
    exact (Held.of_mem buildTable_tableEntries hs hname).dialect

/-- A row of MySQL with an alias in Greek letters. -/
def greekRow : Spec :=
  ⟨"mysql", .mysql, ["αςdb"]⟩

/-- The row of PostgreSQL. -/
def postgresRow : Spec :=
  ⟨"postgres", .postgres, ["postgresql"]⟩

/-- A sigma that ended a word before its hyphen was left out stays final. -/
theorem normalize_settles_greek :
    buildTable [(.postgres, ["Postgre-SQL"]), (.mysql, ["ΑΣ-DB"])] = .ok [postgresRow, greekRow] ∧
    Held [postgresRow, greekRow] greekRow "αςdb" ∧
    postgresRow ∈ table ∧
    resolve? "postgresql" = some .postgres := by
  have hbuilt : buildTable [(.postgres, ["Postgre-SQL"]), (.mysql, ["ΑΣ-DB"])] =
      .ok [postgresRow, greekRow] := by
    decide +kernel
  have hrow : postgresRow ∈ table := by
    rw [table_eq]
    exact List.mem_map.mpr ⟨(.postgres, ["postgresql"]), by decide, by decide +kernel⟩
  obtain ⟨-, -, hheld, hresolves⟩ := normalize_settles
  exact ⟨hbuilt,
    hheld _ _ hbuilt greekRow (by simp) "αςdb" (.inr (by simp [greekRow])),
    hrow,
    hresolves postgresRow hrow "postgresql" (.inr (by simp [postgresRow]))⟩

end Dialect
end SqlDialects
