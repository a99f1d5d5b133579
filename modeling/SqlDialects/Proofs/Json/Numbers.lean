import Mathlib.Algebra.Group.Nat.Defs
import SqlDialects.Json.Printer
import SqlDialects.Json.Reader

/-!
# Integers that are read back

The decimal text of an integer, followed by anything into which no number goes on, is read as that
integer and as nothing more.

**Results.**
* `Decimal.digitsValue_natChars` and `Decimal.natChars_length_le_iff`: digits denote the natural
  that they were made from, and a bound on their number is a bound on the natural.
* `Json.readAtom_intChars`: an integer within the limit of digits is read back, and what follows it
  is left over.
-/

namespace SqlDialects

namespace Decimal

theorem digitsValue_natChars (n : Nat) :
    digitsValue (natChars n) = n := by
  have h := Nat.ofDigitChars_ten_toDigits (n := n)
  rw [Nat.ofDigitChars_eq_foldl] at h
  exact h

theorem natChars_length_le_iff
    (n : Nat)
    {k : Nat}
    (hk : 0 < k) :
    (natChars n).length ≤ k ↔ n < 10 ^ k :=
  Nat.length_toDigits_le_iff (by omega) hk

theorem lt_length_natChars_pow (k : Nat) :
    k < (natChars (10 ^ k)).length := by
  rcases Nat.eq_zero_or_pos k with rfl | hk
  · decide
  · exact Nat.lt_of_not_le fun h => Nat.lt_irrefl _ ((natChars_length_le_iff _ hk).mp h)

theorem isDigit_of_mem_natChars
    {n : Nat} {c : Char}
    (hc : c ∈ natChars n) :
    Json.isDigit c = true := by
  have h : c.isDigit = true := Nat.isDigit_of_mem_toDigits (by omega) (by omega) hc
  simpa [Json.isDigit, Char.isDigit, Char.le_def] using h

/-- The text of a natural starts with a digit. -/
theorem natChars_starts (n : Nat) :
    ∃ d ds, natChars n = d :: ds ∧ Json.isDigit d = true := by
  obtain ⟨d, ds, hds⟩ := List.exists_cons_of_ne_nil (Nat.toDigits_ne_nil (b := 10) (n := n))
  have hd : d ∈ natChars n := by
    rw [natChars, hds]
    exact List.mem_cons_self
  exact ⟨d, ds, hds, isDigit_of_mem_natChars hd⟩

/-- Only zero is written with a zero in front. -/
theorem natChars_eq_cons
    {n : Nat}
    (hn : 0 < n) :
    ∃ d ds, natChars n = d :: ds ∧ d ≠ '0' := by
  induction n using Nat.strongRecOn with
  | ind n ih =>
      unfold natChars at *
      rw [Nat.toDigits_eq_if (by omega)]
      split
      · have hdigit : ∀ m < 10, 0 < m → Nat.digitChar m ≠ '0' := by
          decide
        exact ⟨n.digitChar, [], rfl, hdigit n ‹n < 10› hn⟩
      · obtain ⟨d, ds, hds, hd⟩ := ih (n / 10) (by omega) (by omega)
        exact ⟨d, ds ++ [(n % 10).digitChar], by rw [hds, List.cons_append], hd⟩

end Decimal

namespace Json

/-- Whether no number goes on into what follows. -/
def endsNumber : List Char → Bool
  | [] => true
  | c :: _ => !isDigit c && c != '.' && c != 'e' && c != 'E'

theorem takeDigits_append
    {ds rest : List Char}
    (hds : ∀ d ∈ ds, isDigit d = true)
    (hrest : endsNumber rest = true) :
    takeDigits (ds ++ rest) = (ds, rest) := by
  induction ds with
  | nil =>
      cases rest with
      | nil =>
          rfl
      | cons c cs =>
          have hc : isDigit c = false := by
            simp only [endsNumber, Bool.and_eq_true, Bool.not_eq_true'] at hrest
            exact hrest.1.1.1
          simp [takeDigits, hc]
  | cons d ds ih =>
      have hd : isDigit d = true := hds d (by simp)
      have htail := ih fun x hx => hds x (by simp [hx])
      simp [takeDigits, hd, htail]

theorem takeWhole_natChars
    (n : Nat)
    {rest : List Char}
    (hrest : endsNumber rest = true) :
    takeWhole (Decimal.natChars n ++ rest) = some (Decimal.natChars n, rest) := by
  have hdigits := takeDigits_append (fun d => Decimal.isDigit_of_mem_natChars (n := n)) hrest
  rcases Nat.eq_zero_or_pos n with rfl | hn
  · rfl
  · obtain ⟨d, ds, hds, hd⟩ := Decimal.natChars_eq_cons hn
    rw [hds] at hdigits ⊢
    rw [List.cons_append] at hdigits ⊢
    unfold takeWhole
    split
    · simp_all
    · simp [hdigits]

theorem takeFraction_of_endsNumber
    {rest : List Char}
    (hrest : endsNumber rest = true) :
    takeFraction rest = none := by
  unfold takeFraction
  split
  · simp [endsNumber] at hrest
  · rfl

theorem takeExponent_of_endsNumber
    {rest : List Char}
    (hrest : endsNumber rest = true) :
    takeExponent rest = none := by
  cases rest with
  | nil =>
      rfl
  | cons c cs =>
      have hc : ¬ (c = 'e' ∨ c = 'E') := by
        simp only [endsNumber, Bool.and_eq_true, bne_iff_ne] at hrest
        simp [hrest.1.2, hrest.2]
      unfold takeExponent
      exact if_neg hc

theorem readInteger_natChars
    (negative : Bool)
    {n : Nat}
    (hn : n < 10 ^ digitLimit) :
    readInteger negative (Decimal.natChars n) =
      .ok (.int (if negative then -(n : Int) else n)) := by
  have hlength : ¬ digitLimit < (Decimal.natChars n).length := by
    rw [Nat.not_lt]
    exact (Decimal.natChars_length_le_iff n (by decide)).mpr hn
  rw [readInteger, if_neg hlength, Decimal.digitsValue_natChars]

/-- Digits that nothing continues are an integer. -/
theorem readNumber_natChars
    (start : Nat)
    (negative : Bool)
    (place : Nat)
    {n : Nat} {rest : List Char}
    (hn : n < 10 ^ digitLimit)
    (hrest : endsNumber rest = true) :
    readNumber start negative place (Decimal.natChars n ++ rest) =
      .ok ⟨.int (if negative then -(n : Int) else n), place + (Decimal.natChars n).length, rest⟩ := by
  simp only [readNumber, takeWhole_natChars n hrest, takeFraction_of_endsNumber hrest,
    takeExponent_of_endsNumber hrest, readInteger_natChars negative hn]
  rfl

/-- A digit opens a number. -/
theorem readAtom_of_isDigit
    (place : Nat)
    {d : Char}
    (hd : isDigit d = true)
    (cs : List Char) :
    readAtom place (d :: cs) = readNumber place false place (d :: cs) := by
  rw [readAtom]
  all_goals
    intro cs' h
    cases h
    exact absurd hd (by decide)

/-- So does a minus sign in front of a digit. -/
theorem readAtom_minus_of_isDigit
    (place : Nat)
    {d : Char}
    (hd : isDigit d = true)
    (cs : List Char) :
    readAtom place ('-' :: d :: cs) = readNumber place true (place + 1) (d :: cs) := by
  rw [readAtom]
  intro cs' h
  cases h
  exact absurd hd (by decide)

/-- The text of an integer that nothing continues is the integer. -/
theorem readAtom_intChars
    (place : Nat)
    {i : Int} {rest : List Char}
    (hi : i.natAbs < 10 ^ digitLimit)
    (hrest : endsNumber rest = true) :
    readAtom place (Decimal.intChars i ++ rest) =
      .ok ⟨.int i, place + (Decimal.intChars i).length, rest⟩ := by
  obtain ⟨d, ds, hds, hd⟩ := Decimal.natChars_starts i.natAbs
  have hnumber := fun negative p => readNumber_natChars place negative p hi hrest
  rw [hds, List.cons_append] at hnumber
  unfold Decimal.intChars
  rw [hds]
  split
  · have hvalue : -(i.natAbs : Int) = i := by omega
    have hplace : place + 1 + (d :: ds).length = place + ('-' :: d :: ds).length := by
      simp only [List.length_cons]
      omega
    rw [List.cons_append, List.cons_append, readAtom_minus_of_isDigit place hd, hnumber true,
      hplace]
    simp only [if_true, hvalue]
  · have hvalue : (i.natAbs : Int) = i := by omega
    rw [List.cons_append, readAtom_of_isDigit place hd, hnumber false]
    simp only [Bool.false_eq_true, if_false, hvalue]

end Json
end SqlDialects
