import Mathlib.Data.List.Nodup
import SqlDialects.Dialect.Table

/-!
# Tables without collisions

Names that differ as they are written may be one name as they are compared, within an entry or in
entries far apart.  A table is built exactly if this happens nowhere.

**Input.**  Any list of entries, each a dialect with its aliases.

**Invariant.**  The names that have been taken are those of the entries before, and no two of them
are equal.  `buildFrom_cons_of_nodup` and `buildFrom_cons_of_clash` are the two ways in which an entry
can go on from there.

**Specification.**  `TableOf` says what a table of entries is, and `FirstClash` which clash is
reported.

**Results.**
* `buildFrom_eq_ok` and `buildFrom_eq_error`: what is built of entries after others.
* `eq_of_answersTo`: in a built table no two rows answer to one name.
* `buildTable_checks`: which lists of entries have a table, what it is, and what is reported of the
  others.
* `resolve?_name`: in the table of all dialects each is known by its canonical name.
-/

namespace SqlDialects
namespace Dialect

/-! ## Names -/

/-- The names of an entry as they are compared, the canonical one first. -/
def entryNames (entry : Dialect × List String) : List String :=
  (entry.1.name :: entry.2).map normalize

/-- The names of entries in order, as often as they occur. -/
def allNames (entries : List (Dialect × List String)) : List String :=
  entries.flatMap entryNames

theorem names_ofEntry (entry : Dialect × List String) :
    (Spec.ofEntry entry).names = entryNames entry := rfl

theorem Spec.answersTo_iff {s : Spec} {name : String} :
    s.answersTo name = true ↔ name ∈ s.names := by
  simp [answersTo, names]

theorem allDistinct_iff (l : List String) :
    allDistinct l = true ↔ l.Nodup := by
  induction l with
  | nil => simp [allDistinct]
  | cons a l ih => simp [allDistinct, ih]

theorem mem_dedup_iff {a : String} {l : List String} :
    a ∈ dedup l ↔ a ∈ l := by
  induction l with
  | nil => simp [dedup]
  | cons b l ih => by_cases h : a = b <;> simp [dedup, ih, h]

theorem nodup_dedup (l : List String) :
    (dedup l).Nodup := by
  induction l with
  | nil => exact List.nodup_nil
  | cons a l ih => exact List.nodup_cons.mpr ⟨by simp, ih.filter _⟩

theorem mem_sorted_iff {a : String} {l : List String} :
    a ∈ sorted l ↔ a ∈ l :=
  List.mem_mergeSort

/-- Strings that are all different are sorted strictly. -/
theorem pairwise_sorted
    {l : List String}
    (h : l.Nodup) :
    (sorted l).Pairwise (· < ·) := by
  have hle : (sorted l).Pairwise (· ≤ ·) := by
    have hsort : (sorted l).Pairwise fun a b => decide (a ≤ b) = true := List.pairwise_mergeSort
      (fun a b c hab hbc => by simpa using String.le_trans (by simpa using hab) (by simpa using hbc))
      (fun a b => by simpa using String.le_total a b) l
    simpa only [decide_eq_true_eq] using hsort
  have hne : (sorted l).Nodup := (List.mergeSort_perm l _).nodup_iff.mpr h
  refine (hle.and hne).imp fun hab => ?_
  exact String.not_le.mp fun hba => hab.2 (String.le_antisymm hab.1 hba)

/-! ## One entry -/

/-- The clash of an entry with names that are taken. -/
def clashWith (taken : List String) (entry : Dialect × List String) : NameClash :=
  ⟨entry.1, sorted (dedup ((entryNames entry).filter taken.contains)), entryNames entry⟩

/-- Taken names that are all different stay so exactly if an entry passes both tests. -/
theorem nodup_append_iff
    {taken : List String}
    (htaken : taken.Nodup)
    (names : List String) :
    (taken ++ names).Nodup ↔ names.filter taken.contains = [] ∧ allDistinct names = true := by
  rw [allDistinct_iff, List.filter_eq_nil_iff, List.nodup_append]
  constructor
  · rintro ⟨-, hnames, hdisjoint⟩
    exact ⟨fun n hn hmem => hdisjoint n (by simpa using hmem) n hn rfl, hnames⟩
  · rintro ⟨hfree, hnames⟩
    refine ⟨htaken, hnames, ?_⟩
    rintro n hn m hm rfl
    exact hfree n hm (by simpa using hn)

section Step

variable {taken : List String} {entry : Dialect × List String}

/-- An entry whose names are new and all different gets its row. -/
theorem buildFrom_cons_of_nodup
    (h : (taken ++ entryNames entry).Nodup)
    (entries : List (Dialect × List String)) :
    buildFrom taken (entry :: entries) =
      (buildFrom (taken ++ entryNames entry) entries).map (Spec.ofEntry entry :: ·) := by
  obtain ⟨hshared, hown⟩ := (nodup_append_iff h.of_append_left _).mp h
  simp only [buildFrom, names_ofEntry, hshared, hown, List.isEmpty_nil, Bool.not_true, Bool.or_self,
    Bool.false_eq_true, if_false]

/-- Any other entry is refused. -/
theorem buildFrom_cons_of_clash
    (htaken : taken.Nodup)
    (h : ¬ (taken ++ entryNames entry).Nodup)
    (entries : List (Dialect × List String)) :
    buildFrom taken (entry :: entries) = .error (clashWith taken entry) := by
  rw [nodup_append_iff htaken, not_and_or] at h
  have hrefused : (!((entryNames entry).filter taken.contains).isEmpty ||
      !allDistinct (entryNames entry)) = true := by
    simpa using h
  simp only [buildFrom, names_ofEntry, hrefused, if_true]
  rfl

end Step

/-! ## All entries -/

/-- Entries without collisions have their rows. -/
theorem buildFrom_eq_ok
    {taken : List String} {entries : List (Dialect × List String)}
    (h : (taken ++ allNames entries).Nodup) :
    buildFrom taken entries = .ok (entries.map Spec.ofEntry) := by
  induction entries generalizing taken with
  | nil =>
      rfl
  | cons entry entries ih =>
      rw [allNames, List.flatMap_cons, ← List.append_assoc] at h
      rw [buildFrom_cons_of_nodup h.of_append_left, ih h]
      rfl

/-- The first entry that collides with what is before it, or with itself, is refused. -/
theorem buildFrom_eq_error
    {taken : List String} {before : List (Dialect × List String)} {entry : Dialect × List String}
    (h : (taken ++ allNames before).Nodup)
    (hclash : ¬ (taken ++ allNames before ++ entryNames entry).Nodup)
    (after : List (Dialect × List String)) :
    buildFrom taken (before ++ entry :: after) =
      .error (clashWith (taken ++ allNames before) entry) := by
  induction before generalizing taken with
  | nil =>
      rw [allNames, List.flatMap_nil, List.append_nil] at *
      exact buildFrom_cons_of_clash h hclash after
  | cons first before ih =>
      rw [allNames, List.flatMap_cons, ← List.append_assoc] at *
      rw [List.cons_append, buildFrom_cons_of_nodup h.of_append_left, ih h hclash]
      rfl

/-- Where there is a collision there is a first one. -/
theorem exists_first_clash
    {taken : List String}
    (htaken : taken.Nodup)
    {entries : List (Dialect × List String)}
    (h : ¬ (taken ++ allNames entries).Nodup) :
    ∃ before entry after, entries = before ++ entry :: after ∧
      (taken ++ allNames before).Nodup ∧
      ¬ (taken ++ allNames before ++ entryNames entry).Nodup := by
  induction entries generalizing taken with
  | nil =>
      rw [allNames, List.flatMap_nil, List.append_nil] at h
      exact absurd htaken h
  | cons entry entries ih =>
      by_cases hentry : (taken ++ entryNames entry).Nodup
      · rw [allNames, List.flatMap_cons, ← List.append_assoc] at h
        obtain ⟨before, clashing, after, rfl, hbefore, hclash⟩ := ih hentry h
        refine ⟨entry :: before, clashing, after, rfl, ?_, ?_⟩
        · rwa [allNames, List.flatMap_cons, ← List.append_assoc]
        · rwa [allNames, List.flatMap_cons, ← List.append_assoc]
      · exact ⟨[], entry, entries, rfl, by simpa [allNames] using htaken,
          by simpa [allNames] using hentry⟩

/-- A table that is built has the rows of its entries, no two of which share a name. -/
theorem eq_map_of_buildTable
    {entries : List (Dialect × List String)} {t : List Spec}
    (h : buildTable entries = .ok t) :
    (allNames entries).Nodup ∧ t = entries.map Spec.ofEntry := by
  by_cases hnodup : (allNames entries).Nodup
  · have hbuilt : buildTable entries = .ok (entries.map Spec.ofEntry) := buildFrom_eq_ok hnodup
    exact ⟨hnodup, Except.ok.inj (h.symm.trans hbuilt)⟩
  · obtain ⟨before, entry, after, rfl, hbefore, hclash⟩ :=
      exists_first_clash (List.nodup_nil : ([] : List String).Nodup) hnodup
    cases h.symm.trans (buildFrom_eq_error hbefore hclash after)

/-! ## The specification -/

/-- The row of an entry: its names are those of the entry as they are compared. -/
structure RowOf (entry : Dialect × List String) (s : Spec) : Prop where
  canonical : s.canonical = normalize entry.1.name
  dialect : s.dialect = entry.1
  aliases : ∀ n, n ∈ s.aliases ↔ ∃ a ∈ entry.2, normalize a = n

/-- A table of entries: a row for each entry in order, and for each name at most one row. -/
structure TableOf (entries : List (Dialect × List String)) (t : List Spec) : Prop where
  rows : List.Forall₂ RowOf entries t
  unique : ∀ (i j : Nat) (hi : i < t.length) (hj : j < t.length) (text : String),
    t[i].answersTo text = true → t[j].answersTo text = true → i = j
  found : ∀ (i : Nat) (entry : Dialect × List String) (s : Spec), entries[i]? = some entry →
    t[i]? = some s → ∀ n ∈ entryNames entry, s.answersTo n = true

/-- The clash to report: that of the first entry one of whose names repeats or is that of an earlier
entry, with the names that it shares with earlier entries, sorted. -/
structure FirstClash (entries : List (Dialect × List String)) (e : NameClash) : Prop where
  first : ∃ before entry after, entries = before ++ entry :: after ∧
    (allNames before).Nodup ∧
    (¬ (entryNames entry).Nodup ∨ ∃ n ∈ entryNames entry, n ∈ allNames before) ∧
    e.dialect = entry.1 ∧
    e.own = entryNames entry ∧
    e.shared.Pairwise (· < ·) ∧
    ∀ n, n ∈ e.shared ↔ n ∈ entryNames entry ∧ n ∈ allNames before
  cls : e.failure.cls = .value
  text : e.failure.text = "Duplicate dialect name(s) for " ++ e.dialect.name ++ ": " ++
    Text.quotedList (if e.shared = [] then e.own else e.shared)

/-- What comes of building the table of entries. -/
structure CollisionChecked (entries : List (Dialect × List String)) : Prop where
  accepts : (∃ t, buildTable entries = .ok t) ↔ (allNames entries).Nodup
  table : ∀ t, buildTable entries = .ok t → TableOf entries t
  clash : ∀ e, buildTable entries = .error e → FirstClash entries e

/-! ## What is built -/

theorem NameClash.failure_cls (e : NameClash) :
    e.failure.cls = .value := rfl

theorem NameClash.failure_text (e : NameClash) :
    e.failure.text = "Duplicate dialect name(s) for " ++ e.dialect.name ++ ": " ++
      Text.quotedList (if e.shared = [] then e.own else e.shared) := by
  have htext : ∀ s, (Failure.of .value s).text = s := fun _ => rfl
  rw [failure, htext]
  unfold message
  cases e.shared <;> rfl

theorem rowOf_ofEntry (entry : Dialect × List String) :
    RowOf entry (Spec.ofEntry entry) :=
  ⟨rfl, rfl, fun _ => List.mem_map⟩

/-- Rows of different entries have no name in common. -/
theorem eq_of_answersTo
    {entries : List (Dialect × List String)}
    (h : (allNames entries).Nodup)
    {i j : Nat}
    (hi : i < (entries.map Spec.ofEntry).length)
    (hj : j < (entries.map Spec.ofEntry).length)
    {text : String}
    (htexti : (entries.map Spec.ofEntry)[i].answersTo text = true)
    (htextj : (entries.map Spec.ofEntry)[j].answersTo text = true) :
    i = j := by
  have hpairs := List.pairwise_iff_getElem.mp (List.nodup_flatMap.mp h).2
  rw [List.length_map] at hi hj
  rw [List.getElem_map, Spec.answersTo_iff, names_ofEntry] at htexti htextj
  rcases Nat.lt_trichotomy i j with hlt | heq | hgt
  · exact absurd htextj (hpairs i j hi hj hlt htexti)
  · exact heq
  · exact absurd htexti (hpairs j i hj hi hgt htextj)

/-- A text is a name of one row at most. -/
theorem eq_of_mem_rows
    {entries : List (Dialect × List String)}
    (h : (allNames entries).Nodup)
    {s t : Spec}
    (hs : s ∈ entries.map Spec.ofEntry)
    (ht : t ∈ entries.map Spec.ofEntry)
    {text : String}
    (htexts : text ∈ s.names)
    (htextt : text ∈ t.names) :
    s = t := by
  obtain ⟨i, hi, rfl⟩ := List.mem_iff_getElem.mp hs
  obtain ⟨j, hj, rfl⟩ := List.mem_iff_getElem.mp ht
  obtain rfl : i = j := eq_of_answersTo h hi hj (Spec.answersTo_iff.mpr htexts)
    (Spec.answersTo_iff.mpr htextt)
  rfl

/-- A name is found in the row that has it. -/
theorem find?_of_mem_rows
    {entries : List (Dialect × List String)}
    (h : (allNames entries).Nodup)
    {s : Spec}
    (hs : s ∈ entries.map Spec.ofEntry)
    {text : String}
    (htext : text ∈ s.names) :
    (entries.map Spec.ofEntry).find? (fun r => r.answersTo text) = some s := by
  cases hfound : (entries.map Spec.ofEntry).find? fun r => r.answersTo text with
  | none =>
      exact absurd (Spec.answersTo_iff.mpr htext) (List.find?_eq_none.mp hfound s hs)
  | some t =>
      have ht : t ∈ entries.map Spec.ofEntry := List.mem_of_find?_eq_some hfound
      have htextt : text ∈ t.names := Spec.answersTo_iff.mp (by simpa using List.find?_some hfound)
      rw [eq_of_mem_rows h ht hs htextt htext]

theorem tableOf_map
    {entries : List (Dialect × List String)}
    (h : (allNames entries).Nodup) :
    TableOf entries (entries.map Spec.ofEntry) where
  rows := by
    rw [List.forall₂_map_right_iff]
    exact List.forall₂_same.mpr fun entry _ => rowOf_ofEntry entry
  unique := fun i j hi hj text => eq_of_answersTo h hi hj
  found := by
    intro i entry s hentry hs n hn
    rw [List.getElem?_map, hentry] at hs
    cases hs
    exact Spec.answersTo_iff.mpr hn

theorem firstClash_clashWith
    {before : List (Dialect × List String)} {entry : Dialect × List String}
    (hbefore : (allNames before).Nodup)
    (hclash : ¬ (allNames before ++ entryNames entry).Nodup)
    (after : List (Dialect × List String)) :
    FirstClash (before ++ entry :: after) (clashWith (allNames before) entry) where
  first := by
    refine ⟨before, entry, after, rfl, hbefore, ?_, rfl, rfl, pairwise_sorted (nodup_dedup _), ?_⟩
    · by_contra hfree
      push Not at hfree
      exact hclash (List.nodup_append.mpr ⟨hbefore, hfree.1,
        fun n hn m hm heq => hfree.2 m hm (heq ▸ hn)⟩)
    · intro n
      simp [clashWith, mem_sorted_iff, mem_dedup_iff]
  cls := NameClash.failure_cls _
  text := NameClash.failure_text _

/--
A list of entries has a table exactly if no two of all their names, as they are compared, are equal.
The table then has a row for each entry in order, with the names of the entry; a text is the name of
at most one row, and each name of an entry is one of its row.  Otherwise the first entry is reported
one of whose names repeats or is that of an earlier entry: with the names that it shares with earlier
ones, sorted, or with all its own names if it shares none.
-/
theorem buildTable_checks (entries : List (Dialect × List String)) :
    CollisionChecked entries := by
  by_cases h : (allNames entries).Nodup
  · have hbuilt : buildTable entries = .ok (entries.map Spec.ofEntry) := buildFrom_eq_ok h
    refine ⟨iff_of_true ⟨_, hbuilt⟩ h, ?_, ?_⟩
    · intro t ht
      cases hbuilt.symm.trans ht
      exact tableOf_map h
    · intro e he
      cases hbuilt.symm.trans he
  · obtain ⟨before, entry, after, rfl, hbefore, hclash⟩ :=
      exists_first_clash (List.nodup_nil : ([] : List String).Nodup) h
    have hbuilt : buildTable (before ++ entry :: after) =
        .error (clashWith (allNames before) entry) := buildFrom_eq_error hbefore hclash after
    refine ⟨iff_of_false ?_ h, ?_, ?_⟩
    · rintro ⟨t, ht⟩
      cases hbuilt.symm.trans ht
    · intro t ht
      cases hbuilt.symm.trans ht
    · intro e he
      obtain rfl := Except.error.inj (hbuilt.symm.trans he)
      exact firstClash_clashWith hbefore hclash after

/-! ## The table of all dialects -/

theorem mem_all (d : Dialect) :
    d ∈ all := by
  cases d <;> decide

/-- A dialect is known by its canonical name. -/
theorem resolve?_name (d : Dialect) :
    resolve? d.name = some d := by
  have hall : ∀ d ∈ all, resolve? d.name = some d := by decide +kernel
  exact hall d d.mem_all

end Dialect
end SqlDialects
