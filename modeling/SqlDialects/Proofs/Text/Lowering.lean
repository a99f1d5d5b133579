import Mathlib.Data.List.Basic
import SqlDialects.Text.Case

/-!
# Lower case and ASCII

Which texts have a lower case of ASCII characters only.  One character may become several, and a
capital sigma is lowered by its neighbours, so this is not plain from the tables: a text far from
ASCII could end up there.

**Input.**  Any text, with any text before it.

**Classes.**  A character is `IsPlain` if it is an ASCII one or the Kelvin sign; `plainLower` is the
lower case of such a character.

**Results.**
* `loweredBy_lowerChar`: the three ways in which the tables give a character its lower case.
* `exists_beyond_lowerChar`: the lower case of any other character holds one beyond ASCII.
* `lowerFrom_of_isPlain` and `isPlain_of_lowerFrom`: a text has a lower case within ASCII exactly if
  all its characters are plain, and each of them is then lowered by itself.
-/

namespace SqlDialects
namespace Text

/-! ## Plain characters -/

/-- The sign of the unit of temperature, a letter of its own beside the capital `K`. -/
def kelvinSign : Char := '\u212A'

/-- An ASCII character or the Kelvin sign. -/
def IsPlain (c : Char) : Prop :=
  c.toNat < 128 ∨ c = kelvinSign

/-- The small letter of an ASCII capital and of the Kelvin sign; any other character is kept. -/
def plainLower (c : Char) : Char :=
  if c = kelvinSign then 'k' else asciiLower c

theorem toNat_ofNat_of_isValidChar
    {n : Nat}
    (h : n.isValidChar) :
    (Char.ofNat n).toNat = n := by
  rw [Char.ofNat, dif_pos h]
  rfl

theorem asciiLower_of_not_capital
    {c : Char}
    (h : ¬ ('A' ≤ c ∧ c ≤ 'Z')) :
    asciiLower c = c :=
  if_neg h

theorem toNat_asciiLower_of_capital
    {c : Char}
    (h : 'A' ≤ c ∧ c ≤ 'Z') :
    (asciiLower c).toNat = c.toNat + 32 := by
  have hle : c.toNat ≤ 'Z'.toNat := h.2
  have hZ : 'Z'.toNat = 90 := rfl
  rw [asciiLower, if_pos h]
  exact toNat_ofNat_of_isValidChar (Or.inl (by omega))

/-- ASCII is kept apart from the rest by its own lower case. -/
theorem toNat_asciiLower_lt_iff (c : Char) :
    (asciiLower c).toNat < 128 ↔ c.toNat < 128 := by
  by_cases h : 'A' ≤ c ∧ c ≤ 'Z'
  · have hle : c.toNat ≤ 'Z'.toNat := h.2
    have hZ : 'Z'.toNat = 90 := rfl
    rw [toNat_asciiLower_of_capital h]
    omega
  · rw [asciiLower_of_not_capital h]

theorem toNat_plainLower_lt_iff (c : Char) :
    (plainLower c).toNat < 128 ↔ IsPlain c := by
  by_cases h : c = kelvinSign
  · subst h
    exact iff_of_true (by decide) (Or.inr rfl)
  · rw [plainLower, if_neg h, toNat_asciiLower_lt_iff, IsPlain, or_iff_left h]

theorem asciiLower_eq_kelvinSign_iff (c : Char) :
    asciiLower c = kelvinSign ↔ c = kelvinSign := by
  by_cases h : 'A' ≤ c ∧ c ≤ 'Z'
  · have hle : c.toNat ≤ 'Z'.toNat := h.2
    have hlower := toNat_asciiLower_of_capital h
    have hkelvin : kelvinSign.toNat = 8490 := rfl
    have hZ : 'Z'.toNat = 90 := rfl
    refine iff_of_false (fun heq => ?_) (fun heq => ?_)
    · rw [heq] at hlower
      omega
    · rw [heq] at hle
      omega
  · rw [asciiLower_of_not_capital h]

/-- The case of an ASCII letter plays no part in its plain lower case. -/
theorem plainLower_congr
    {c d : Char}
    (h : asciiLower c = asciiLower d) :
    plainLower c = plainLower d := by
  have hkelvin : c = kelvinSign ↔ d = kelvinSign := by
    rw [← asciiLower_eq_kelvinSign_iff c, h, asciiLower_eq_kelvinSign_iff]
  rw [plainLower, plainLower, h, if_congr hkelvin rfl rfl]

theorem lowerChar_kelvinSign : lowerChar kelvinSign = ['k'] := by decide +kernel

theorem lowerChar_of_isPlain
    {c : Char}
    (h : IsPlain c) :
    lowerChar c = [plainLower c] := by
  by_cases hk : c = kelvinSign
  · rw [hk, lowerChar_kelvinSign]
    rfl
  · rw [lowerChar, if_pos (h.resolve_right hk), plainLower, if_neg hk]

/-! ## The tables -/

/-- Whether a run leads to characters beyond ASCII only. -/
def CaseRun.LeadsBeyond (r : CaseRun) : Prop :=
  128 ≤ r.first + r.offset ∧ r.last + r.offset < 0xD800 ∨
    0xE000 ≤ r.first + r.offset ∧ r.last + r.offset < 0x110000

instance (r : CaseRun) : Decidable r.LeadsBeyond :=
  inferInstanceAs (Decidable (_ ∨ _))

/-- The Kelvin sign is a run of its own, and no other run leads to ASCII. -/
theorem lowerRuns_leadBeyond :
    ∀ r ∈ lowerRuns, (r.first = kelvinSign.toNat ∧ r.last = kelvinSign.toNat) ∨ r.LeadsBeyond := by
  decide +kernel

theorem lowerSpecial_beyond :
    ∀ e ∈ lowerSpecial, ∃ n ∈ e.2, 128 ≤ (Char.ofNat n).toNat := by
  decide +kernel

theorem CaseRun.le_of_covers
    {r : CaseRun} {n : Nat}
    (h : r.covers n = true) :
    r.first ≤ n ∧ n ≤ r.last := by
  simp only [covers, Bool.and_eq_true, decide_eq_true_eq] at h
  exact h.1

theorem CaseRun.LeadsBeyond.toNat_image
    {r : CaseRun} {n : Nat}
    (h : r.LeadsBeyond)
    (hcovers : r.covers n = true) :
    (Char.ofNat ((n : Int) + r.offset).toNat).toNat = ((n : Int) + r.offset).toNat := by
  obtain ⟨hfirst, hlast⟩ := le_of_covers hcovers
  refine toNat_ofNat_of_isValidChar ?_
  rcases h with h | h
  · exact Or.inl (by omega)
  · exact Or.inr ⟨by omega, by omega⟩

theorem CaseRun.LeadsBeyond.image
    {r : CaseRun} {n : Nat}
    (h : r.LeadsBeyond)
    (hcovers : r.covers n = true) :
    128 ≤ (Char.ofNat ((n : Int) + r.offset).toNat).toNat := by
  obtain ⟨hfirst, hlast⟩ := le_of_covers hcovers
  rw [h.toNat_image hcovers]
  rcases h with h | h <;> omega

/-- How the tables give a character its lower case. -/
inductive LoweredBy (c : Char) : List Char → Prop
  | special {e : Nat × List Nat}
      (he : e ∈ lowerSpecial) :
      LoweredBy c (e.2.map Char.ofNat)
  | run {r : CaseRun}
      (hr : r ∈ lowerRuns)
      (hleads : r.LeadsBeyond)
      (hcovers : r.covers c.toNat = true) :
      LoweredBy c [Char.ofNat ((c.toNat : Int) + r.offset).toNat]
  | kept
      (hspecial : ∀ e ∈ lowerSpecial, ¬ (e.1 == c.toNat) = true)
      (hruns : ∀ r ∈ lowerRuns, ¬ r.covers c.toNat = true) :
      LoweredBy c [c]

theorem loweredBy_lowerChar
    {c : Char}
    (h : ¬ IsPlain c) :
    LoweredBy c (lowerChar c) := by
  obtain ⟨hbeyond, hkelvin⟩ := not_or.mp h
  rw [lowerChar, if_neg hbeyond, caseImage]
  cases hspecial : lowerSpecial.find? fun e => e.1 == c.toNat with
  | some e =>
      exact .special (List.mem_of_find?_eq_some hspecial)
  | none =>
      cases hrun : lowerRuns.find? fun r => r.covers c.toNat with
      | some r =>
          have hr : r ∈ lowerRuns := List.mem_of_find?_eq_some hrun
          have hcovers : r.covers c.toNat = true := by simpa using List.find?_some hrun
          rcases lowerRuns_leadBeyond r hr with ⟨hfirst, hlast⟩ | hleads
          · obtain ⟨hle, hge⟩ := r.le_of_covers hcovers
            exact absurd (Char.toNat_inj.mp (by omega)) hkelvin
          · exact .run hr hleads hcovers
      | none =>
          exact .kept (List.find?_eq_none.mp hspecial) (List.find?_eq_none.mp hrun)

/-- A character that is not plain has a lower case with a character beyond ASCII. -/
theorem exists_beyond_lowerChar
    {c : Char}
    (h : ¬ IsPlain c) :
    ∃ x ∈ lowerChar c, 128 ≤ x.toNat := by
  have hbeyond : ¬ c.toNat < 128 := (not_or.mp h).1
  have hlowered := loweredBy_lowerChar h
  generalize lowerChar c = cs at hlowered
  cases hlowered with
  | @special e he =>
      obtain ⟨n, hn, hle⟩ := lowerSpecial_beyond e he
      exact ⟨Char.ofNat n, List.mem_map_of_mem hn, hle⟩
  | run hr hleads hcovers =>
      exact ⟨_, List.mem_singleton_self _, hleads.image hcovers⟩
  | kept hspecial hruns =>
      exact ⟨c, List.mem_singleton_self c, Nat.not_lt.mp hbeyond⟩

/-! ## Texts -/

/-- The capital sigma is not plain, and neither of its small letters is. -/
theorem not_isPlain_sigma : ¬ IsPlain 'Σ' := by
  rintro (h | h)
  · exact absurd h (by decide)
  · exact absurd h (by decide)

/-- In a text of plain characters each is lowered by itself. -/
theorem lowerFrom_of_isPlain
    {cs : List Char}
    (h : ∀ c ∈ cs, IsPlain c)
    (before : List Char) :
    lowerFrom before cs = cs.map plainLower := by
  induction cs generalizing before with
  | nil =>
      rfl
  | cons c cs ih =>
      obtain ⟨hc, hcs⟩ := List.forall_mem_cons.mp h
      have hsigma : c ≠ 'Σ' := fun heq => not_isPlain_sigma (heq ▸ hc)
      rw [lowerFrom, if_neg hsigma, lowerChar_of_isPlain hc, ih hcs]
      rfl

/-- A text whose lower case is within ASCII has plain characters only. -/
theorem isPlain_of_lowerFrom
    {before cs : List Char}
    (h : ∀ x ∈ lowerFrom before cs, x.toNat < 128) :
    ∀ c ∈ cs, IsPlain c := by
  induction cs generalizing before with
  | nil =>
      simp
  | cons c cs ih =>
      rw [lowerFrom] at h
      split at h
      · -- either small sigma is beyond ASCII
        have hsmall := (List.forall_mem_cons.mp h).1
        split at hsmall <;> exact absurd hsmall (by decide)
      · obtain ⟨hc, hcs⟩ := List.forall_mem_append.mp h
        refine List.forall_mem_cons.mpr ⟨?_, ih hcs⟩
        by_contra hplain
        obtain ⟨x, hx, hle⟩ := exists_beyond_lowerChar hplain
        exact absurd (hc x hx) (Nat.not_lt.mpr hle)

end Text
end SqlDialects
