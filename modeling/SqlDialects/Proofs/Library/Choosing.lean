import SqlDialects.Library.Candidates
import SqlDialects.Library.Scripted
import SqlDialects.Proofs.Session.Runs

/-!
# Which dialect of a library is chosen

A library need not have every dialect.  So there are several candidates for each, and the choice goes
on from one that is missing to the next, and at last to the base dialect.

**Input.**  Any dialect, and a library that knows of each name whether it has a dialect of that name
(`Library.Knows`).

**Specification.**  `Library.Selects` says which name is to be chosen, and `Library.Settled` also what
is logged about the choice.

**Results.**
* `Library.run_chooseFrom`: what comes of the candidates that remain.
* `Library.choose_settled`: a choice is always made, it is the right one, and a choice other than the
  first candidate is logged once, unless it is a base dialect among the candidates.
* `Library.run_choose_dremio`: such a base dialect is a choice that goes unnoticed.
-/

namespace SqlDialects
namespace Library

variable {τ ε : Type}

/-- The library tells for every name whether it has a dialect of it: telling does not fail and logs
nothing. -/
def Knows (lib : Library τ ε) (has : String → Bool) : Prop :=
  ∀ name s, ∃ state, Task.run (lib.hasDialect name) s = (.ok (has name), ⟨state, s.records⟩)

/-- The choice among names, in order: the first one that is the base dialect's or of which there is a
dialect, and the base dialect if there is none. -/
inductive Selects (has : String → Bool) (names : List String) : String → Prop
  | candidate {before after : List String} {name : String}
      (hnames : names = before ++ name :: after)
      (hmissing : ∀ n ∈ before, n ≠ "" ∧ has n = false)
      (husable : name = "" ∨ has name = true) :
      Selects has names name
  | base
      (hmissing : ∀ n ∈ names, n ≠ "" ∧ has n = false) :
      Selects has names ""

/-- What is chosen for a dialect with some candidates, and what is logged about it. -/
structure Settled (has : String → Bool) (d : Dialect) (first : String) (rest : List String)
    (chosen : String) (logged : List Log.Record) : Prop where
  selected : Selects has (first :: rest) chosen
  silent : chosen = first → logged = []
  reported : chosen ≠ first → (chosen = "" → "" ∉ rest) →
    ∃ r, logged = [r] ∧ r.level = Log.debug ∧
      r = if chosen = "" then exhaustion d else substitution first chosen d
  /-- A base dialect that stands among the further candidates is chosen without a record. -/
  unreported : chosen = "" → "" ∈ rest → logged = []

/-! ## Going through the candidates -/

/-- Whether a name can be chosen. -/
def usable (has : String → Bool) (name : String) : Bool :=
  name.isEmpty || has name

theorem usable_iff {has : String → Bool} {name : String} :
    usable has name = true ↔ name = "" ∨ has name = true := by
  simp [usable]

theorem not_usable_iff {has : String → Bool} {name : String} :
    ¬ usable has name = true ↔ name ≠ "" ∧ has name = false := by
  simp [usable]

/-- What is logged about a choice, given the first name that can be chosen. -/
def noted (d : Dialect) (first : String) : Option String → List Log.Record
  | none => [exhaustion d]
  | some name => if name = "" ∨ name = first then [] else [substitution first name d]

section Knowing

variable {lib : Library τ ε} {has : String → Bool} (hknows : lib.Knows has)
include hknows

/-- A candidate that can be chosen is chosen. -/
theorem run_chooseFrom_of_usable
    {name : String}
    (h : usable has name = true)
    (d : Dialect)
    (first : String)
    (names : List String)
    (s : Scene τ) :
    ∃ state, Task.run (lib.chooseFrom d first (name :: names)) s =
      (.ok name, ⟨state, s.records ++ noted d first (some name)⟩) := by
  rw [chooseFrom]
  by_cases hbase : name = ""
  · -- the base dialect is chosen without asking the library
    exact ⟨s.state, by simp [noted, hbase]⟩
  · obtain ⟨state, hlookup⟩ := hknows name s
    have hhas : has name = true := (usable_iff.mp h).resolve_left hbase
    refine ⟨state, ?_⟩
    rw [if_neg (by simpa using hbase), Task.run_bind_of_ok hlookup, hhas]
    by_cases hfirst : name = first
    · simp [noted, hfirst]
    · simp [noted, hbase, hfirst, Task.run_bind, -bind_pure_comp]

/-- A candidate that cannot be chosen is passed over in silence. -/
theorem run_chooseFrom_of_not_usable
    {name : String}
    (h : ¬ usable has name = true)
    (d : Dialect)
    (first : String)
    (names : List String)
    (s : Scene τ) :
    ∃ state, Task.run (lib.chooseFrom d first (name :: names)) s =
      Task.run (lib.chooseFrom d first names) ⟨state, s.records⟩ := by
  obtain ⟨hbase, hhas⟩ := not_usable_iff.mp h
  obtain ⟨state, hlookup⟩ := hknows name s
  refine ⟨state, ?_⟩
  rw [chooseFrom, if_neg (by simpa using hbase), Task.run_bind_of_ok hlookup, hhas]
  rfl

theorem run_chooseFrom
    (d : Dialect)
    (first : String)
    (names : List String)
    (s : Scene τ) :
    ∃ state, Task.run (lib.chooseFrom d first names) s =
      (.ok ((names.find? (usable has)).getD ""),
        ⟨state, s.records ++ noted d first (names.find? (usable has))⟩) := by
  induction names generalizing s with
  | nil =>
      exact ⟨s.state, rfl⟩
  | cons name names ih =>
      by_cases h : usable has name = true
      · rw [List.find?_cons_of_pos h]
        exact run_chooseFrom_of_usable hknows h d first names s
      · obtain ⟨state, hpassed⟩ := run_chooseFrom_of_not_usable hknows h d first names s
        rw [List.find?_cons_of_neg h, hpassed]
        exact ih ⟨state, s.records⟩

end Knowing

/-! ## The choice -/

theorem selects_find?
    (has : String → Bool)
    (names : List String) :
    Selects has names ((names.find? (usable has)).getD "") := by
  cases hfound : names.find? (usable has) with
  | none =>
      exact .base fun n hn => not_usable_iff.mp (List.find?_eq_none.mp hfound n hn)
  | some name =>
      obtain ⟨husable, before, after, hnames, hmissing⟩ := List.find?_eq_some_iff_append.mp hfound
      exact .candidate hnames (fun n hn => not_usable_iff.mp (by simpa using hmissing n hn))
        (usable_iff.mp husable)

theorem settled_find?
    (has : String → Bool)
    (d : Dialect)
    (first : String)
    (rest : List String) :
    Settled has d first rest (((first :: rest).find? (usable has)).getD "")
      (noted d first ((first :: rest).find? (usable has))) := by
  have hselected := selects_find? has (first :: rest)
  cases hfound : (first :: rest).find? (usable has) with
  | none =>
      rw [hfound] at hselected
      -- none of the candidates is the base dialect's
      have hmissing : ∀ n ∈ first :: rest, n ≠ "" := fun n hn =>
        (not_usable_iff.mp (List.find?_eq_none.mp hfound n hn)).1
      obtain ⟨hfirst, hrest⟩ := List.forall_mem_cons.mp hmissing
      exact {
        selected := hselected
        silent := fun heq => absurd heq.symm hfirst
        reported := fun _ _ => ⟨exhaustion d, rfl, rfl, rfl⟩
        unreported := fun _ hmem => absurd rfl (hrest "" hmem) }
  | some name =>
      rw [hfound] at hselected
      have hmem : name ∈ first :: rest := List.mem_of_find?_eq_some hfound
      exact {
        selected := hselected
        silent := fun heq => if_pos (.inr heq)
        reported := by
          intro hother hbase
          have hnonempty : name ≠ "" := by
            intro hempty
            have hrest : name ∈ rest := (List.mem_cons.mp hmem).resolve_left hother
            exact hbase hempty (hempty ▸ hrest)
          have hnone : ¬ (name = "" ∨ name = first) := not_or.mpr ⟨hnonempty, hother⟩
          exact ⟨substitution first name d, if_neg hnone, rfl, (if_neg hnonempty).symm⟩
        unreported := fun hempty _ => if_pos (.inl hempty) }

/-- Every dialect has a candidate; four have the base dialect as a further one. -/
theorem exists_candidates (d : Dialect) :
    ∃ first rest, d.candidates = first :: rest ∧
      ("" ∈ rest ↔ d ∈ [Dialect.dremio, .druid, .exasol, .solr]) := by
  cases d <;> exact ⟨_, _, rfl, by decide⟩

/--
Choosing a library's dialect never fails.  The first candidate is chosen that is the base dialect or
that the library has, and the base dialect if there is none.  If that is the first candidate of all,
nothing is logged; otherwise one record for debugging says what is used in its place.  A base dialect
among the further candidates is an exception: it is chosen without a record.  Four dialects have one.
-/
theorem choose_settled
    {lib : Library τ ε} {has : String → Bool}
    (hknows : lib.Knows has)
    (d : Dialect)
    (s : Scene τ) :
    ∃ first rest chosen state logged,
      d.candidates = first :: rest ∧
      Task.run (lib.choose d) s = (.ok chosen, ⟨state, s.records ++ logged⟩) ∧
      Settled has d first rest chosen logged ∧
      ("" ∈ rest ↔ d ∈ [Dialect.dremio, .druid, .exasol, .solr]) := by
  obtain ⟨first, rest, hcandidates, hbase⟩ := exists_candidates d
  obtain ⟨state, hrun⟩ := run_chooseFrom hknows d first (first :: rest) s
  refine ⟨first, rest, _, state, _, hcandidates, ?_, settled_find? has d first rest, hbase⟩
  rw [choose, hcandidates]
  exact hrun

/-- A scripted library knows which dialects it has. -/
theorem knows_scripted
    (version : String)
    (available : Option (List String)) :
    (ScriptedLibrary.library version available).Knows fun name =>
      (available.map fun names => names.contains name).getD true :=
  fun _ _ => ⟨_, rfl⟩

/-- A library that has Trino's dialect only serves Athena with it, and says so. -/
theorem choose_settled_athena :
    (ScriptedLibrary.library "1.0" (some ["trino"])).Knows (fun name => ["trino"].contains name) ∧
    Dialect.athena.candidates = ["athena", "trino"] ∧
    Task.run ((ScriptedLibrary.library "1.0" (some ["trino"])).choose .athena) ⟨⟨[], []⟩, []⟩ =
      (.ok "trino", ⟨⟨[], [.lookup "athena", .lookup "trino"]⟩,
        [substitution "athena" "trino" .athena]⟩) ∧
    Settled (fun name => ["trino"].contains name) .athena "athena" ["trino"] "trino"
      [substitution "athena" "trino" .athena] := by
  have hknows := knows_scripted "1.0" (some ["trino"])
  have hathena : Task.run ((ScriptedLibrary.library "1.0" (some ["trino"])).choose .athena)
      ⟨⟨[], []⟩, []⟩ = (.ok "trino", ⟨⟨[], [.lookup "athena", .lookup "trino"]⟩,
        [substitution "athena" "trino" .athena]⟩) := rfl
  obtain ⟨first, rest, chosen, state, logged, hcandidates, hrun, hsettled, -⟩ :=
    choose_settled hknows .athena ⟨⟨[], []⟩, []⟩
  obtain ⟨rfl, rfl⟩ := List.cons.inj hcandidates
  obtain ⟨hchosen, hscene⟩ := Prod.mk.inj (hathena.symm.trans hrun)
  obtain rfl := Except.ok.inj hchosen
  obtain rfl := (Scene.mk.inj hscene).2
  exact ⟨hknows, rfl, hathena, hsettled⟩

/-- A library without dialects works in the base dialect for Dremio, which is not the first candidate,
and nothing is logged. -/
theorem run_choose_dremio :
    (ScriptedLibrary.library "1.0" (some [])).Knows (fun _ => false) ∧
    Dialect.dremio.candidates = ["dremio", ""] ∧
    Task.run ((ScriptedLibrary.library "1.0" (some [])).choose .dremio) ⟨⟨[], []⟩, []⟩ =
      (.ok "", ⟨⟨[], [.lookup "dremio"]⟩, []⟩) :=
  ⟨knows_scripted "1.0" (some []), rfl, rfl⟩

end Library
end SqlDialects
