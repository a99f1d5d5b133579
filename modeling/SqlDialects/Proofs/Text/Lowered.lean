import SqlDialects.Proofs.Text.Lowering

/-!
# Lower case is left alone

Lowering once more changes nothing, and it does not matter what has become of the text in between: of
characters that are small letters already each is kept by itself, whatever stands beside it.  Only the
capital sigma looks at its neighbours, and lowering leaves none.

**Input.**  Any text, with any text before it.

**Invariant.**  A character `IsLowered` if it is its own lower case.  What a run of the table leads to
lies on no run, which `lowerRuns_missed` checks for all pairs of runs by their ends and their steps.

**Results.**
* `isLowered_of_mem_lowerFrom`: lower case holds such characters only.
* `lowerFrom_of_isLowered`: a text of such characters is its own lower case in every context.
* `IsLowered.not_capital`: none of them is a capital of ASCII.
-/

namespace SqlDialects
namespace Text

/-- The character is its own lower case. -/
def IsLowered (c : Char) : Prop :=
  lowerChar c = [c]

instance (c : Char) : Decidable (IsLowered c) :=
  inferInstanceAs (Decidable (_ = _))

theorem not_isLowered_capitalSigma : ¬ IsLowered 'Σ' := by decide +kernel

theorem isLowered_sigma : IsLowered 'σ' := by decide +kernel

theorem isLowered_finalSigma : IsLowered 'ς' := by decide +kernel

/-! ## ASCII -/

theorem asciiLower_not_capital (c : Char) :
    ¬ ('A' ≤ asciiLower c ∧ asciiLower c ≤ 'Z') := by
  by_cases h : 'A' ≤ c ∧ c ≤ 'Z'
  · rintro ⟨-, hle⟩
    have hge : 'A'.toNat ≤ c.toNat := h.1
    have hle : (asciiLower c).toNat ≤ 'Z'.toNat := hle
    rw [toNat_asciiLower_of_capital h] at hle
    simp only [Char.reduceToNat] at hge hle
    omega
  · rwa [asciiLower_of_not_capital h]

theorem isLowered_asciiLower
    {c : Char}
    (h : c.toNat < 128) :
    IsLowered (asciiLower c) := by
  rw [IsLowered, lowerChar, if_pos ((toNat_asciiLower_lt_iff c).mpr h),
    asciiLower_of_not_capital (asciiLower_not_capital c)]

theorem IsLowered.not_capital
    {c : Char}
    (h : IsLowered c) :
    ¬ ('A' ≤ c ∧ c ≤ 'Z') := by
  intro hcapital
  have hle : c.toNat ≤ 'Z'.toNat := hcapital.2
  have hZ : 'Z'.toNat = 90 := rfl
  rw [IsLowered, lowerChar, if_pos (by omega)] at h
  exact asciiLower_not_capital c ((List.cons.inj h).1.symm ▸ hcapital)

/-! ## The table -/

/-- The code point to which the first one of the run leads. -/
def CaseRun.imageFirst (r : CaseRun) : Nat :=
  ((r.first : Int) + r.offset).toNat

/-- The code point to which the last one of the run leads. -/
def CaseRun.imageLast (r : CaseRun) : Nat :=
  ((r.last : Int) + r.offset).toNat

/-- Whether no code point to which the run leads lies on the other one: they are apart, or the other one
goes in steps of two and passes between them. -/
def CaseRun.misses (r other : CaseRun) : Bool :=
  r.imageLast.blt other.first || other.last.blt r.imageFirst ||
    other.step == 2 && (r.step == 2 || r.first == r.last) && (r.imageFirst + other.first) % 2 == 1

/-- What a run leads to lies on no run. -/
theorem lowerRuns_missed :
    ∀ r ∈ lowerRuns, ∀ other ∈ lowerRuns, r.misses other = true := by
  -- checking all pairs as a Boolean is several times faster than deciding the statement
  have hall : (lowerRuns.all fun r => lowerRuns.all fun other => r.misses other) = true := by
    decide +kernel
  simpa only [List.all_eq_true] using hall

/-- The run of a single code point. -/
def CaseRun.single (n : Nat) : CaseRun :=
  ⟨n, n, 1, 0⟩

theorem CaseRun.covers_single (n : Nat) :
    (single n).covers n = true := by
  simp [single, covers]

/-- Nor has it several characters as its lower case. -/
theorem lowerRuns_missed_special :
    ∀ r ∈ lowerRuns, ∀ e ∈ lowerSpecial, r.misses (.single e.1) = true := by
  decide +kernel

theorem lowerSpecial_lowered : ∀ e ∈ lowerSpecial, ∀ n ∈ e.2, IsLowered (Char.ofNat n) := by
  decide +kernel

theorem CaseRun.not_covers_of_misses
    {r other : CaseRun} {n : Nat}
    (h : r.misses other = true)
    (hcovers : r.covers n = true)
    (hpositive : 0 ≤ r.first + r.offset) :
    ¬ other.covers ((n : Int) + r.offset).toNat = true := by
  intro hother
  simp only [covers, Bool.and_eq_true, decide_eq_true_eq, beq_iff_eq] at hcovers hother
  obtain ⟨⟨hfirst, hlast⟩, hstep⟩ := hcovers
  obtain ⟨⟨hfirst', hlast'⟩, hstep'⟩ := hother
  simp only [misses, imageFirst, imageLast, Bool.or_eq_true, Bool.and_eq_true, beq_iff_eq,
    Nat.blt_eq] at h
  rcases h with (hbefore | hafter) | ⟨⟨htwo, hsteps⟩, hodd⟩
  · omega
  · omega
  · rw [htwo] at hstep'
    have heven : (n - r.first) % 2 = 0 := by
      rcases hsteps with hsteps | hsingle
      · rwa [hsteps] at hstep
      · omega
    omega

/-- A character beyond ASCII about which the table says nothing is its own lower case. -/
theorem isLowered_of_not_covers
    {c : Char}
    (hbeyond : ¬ c.toNat < 128)
    (hspecial : ∀ e ∈ lowerSpecial, ¬ (e.1 == c.toNat) = true)
    (hruns : ∀ r ∈ lowerRuns, ¬ r.covers c.toNat = true) :
    IsLowered c := by
  rw [IsLowered, lowerChar, if_neg hbeyond, caseImage, List.find?_eq_none.mpr hspecial,
    List.find?_eq_none.mpr hruns]

/-- What a run leads to is its own lower case. -/
theorem CaseRun.LeadsBeyond.isLowered_image
    {r : CaseRun} {n : Nat}
    (h : r.LeadsBeyond)
    (hr : r ∈ lowerRuns)
    (hcovers : r.covers n = true) :
    IsLowered (Char.ofNat ((n : Int) + r.offset).toNat) := by
  have hpositive : 0 ≤ r.first + r.offset := by
    rcases h with h | h <;> omega
  refine isLowered_of_not_covers (Nat.not_lt.mpr (h.image hcovers)) ?_ ?_
  · intro e he hspecial
    rw [h.toNat_image hcovers, beq_iff_eq] at hspecial
    have hmisses := not_covers_of_misses (lowerRuns_missed_special r hr e he) hcovers hpositive
    exact hmisses (hspecial ▸ covers_single e.1)
  · intro other hother
    rw [h.toNat_image hcovers]
    exact not_covers_of_misses (lowerRuns_missed r hr other hother) hcovers hpositive

/-! ## Characters -/

theorem isLowered_plainLower
    {c : Char}
    (h : IsPlain c) :
    IsLowered (plainLower c) := by
  by_cases hk : c = kelvinSign
  · rw [hk]
    decide +kernel
  · rw [plainLower, if_neg hk]
    exact isLowered_asciiLower (h.resolve_right hk)

theorem isLowered_of_mem_lowerChar
    {c x : Char}
    (hx : x ∈ lowerChar c) :
    IsLowered x := by
  by_cases hplain : IsPlain c
  · rw [lowerChar_of_isPlain hplain, List.mem_singleton] at hx
    exact hx ▸ isLowered_plainLower hplain
  have hbeyond : ¬ c.toNat < 128 := (not_or.mp hplain).1
  have hlowered := loweredBy_lowerChar hplain
  generalize lowerChar c = cs at hlowered hx
  cases hlowered with
  | @special e he =>
      obtain ⟨n, hn, rfl⟩ := List.mem_map.mp hx
      exact lowerSpecial_lowered e he n hn
  | run hr hleads hcovers =>
      obtain rfl := List.mem_singleton.mp hx
      exact hleads.isLowered_image hr hcovers
  | kept hspecial hruns =>
      obtain rfl := List.mem_singleton.mp hx
      exact isLowered_of_not_covers hbeyond hspecial hruns

/-! ## Texts -/

/-- Lower case holds characters that are their own lower case only. -/
theorem isLowered_of_mem_lowerFrom
    {before cs : List Char} {x : Char}
    (hx : x ∈ lowerFrom before cs) :
    IsLowered x := by
  induction cs generalizing before with
  | nil =>
      cases hx
  | cons c cs ih =>
      rw [lowerFrom] at hx
      split at hx
      · rcases List.mem_cons.mp hx with rfl | hx
        · -- either small sigma may stand for the capital one
          split
          · exact isLowered_finalSigma
          · exact isLowered_sigma
        · exact ih hx
      · rcases List.mem_append.mp hx with hx | hx
        · exact isLowered_of_mem_lowerChar hx
        · exact ih hx

/-- A text of characters that are their own lower case is not changed, whatever stands before it. -/
theorem lowerFrom_of_isLowered
    {cs : List Char}
    (h : ∀ c ∈ cs, IsLowered c)
    (before : List Char) :
    lowerFrom before cs = cs := by
  induction cs generalizing before with
  | nil =>
      rfl
  | cons c cs ih =>
      obtain ⟨hc, hcs⟩ := List.forall_mem_cons.mp h
      have hsigma : c ≠ 'Σ' := fun heq => not_isLowered_capitalSigma (heq ▸ hc)
      rw [lowerFrom, if_neg hsigma, hc, ih hcs]
      rfl

end Text
end SqlDialects
