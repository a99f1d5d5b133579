import SqlDialects.Proofs.Json.Numbers

/-!
# Digits in a fixed number of places

Naturals that are filled up with zeros to a number of places.

**Input.**  A number of places, at least one, and naturals that fit into them.

**Results.**
* `Decimal.length_padded`: every place is taken.
* `Decimal.digitsValue_padded`: the digits denote the natural.
* `Decimal.padded_lt_padded`: texts of greater naturals come later in the order of texts.
* `Decimal.append_lt_append`: of texts with beginnings of one length the beginnings decide.
-/

namespace SqlDialects
namespace Decimal

/-! ## Places -/

theorem padded_of_lt_ten
    {n : Nat}
    (h : n < 10)
    (size : Nat) :
    padded (size + 1) n = List.replicate size '0' ++ [n.digitChar] := by
  rw [padded, natChars, Nat.toDigits_eq_if (by decide), if_pos h]
  rfl

/-- The last digit stands in the last place, and the others in the places before it. -/
theorem padded_succ
    {size : Nat}
    (hsize : 0 < size)
    (n : Nat) :
    padded (size + 1) n = padded size (n / 10) ++ [(n % 10).digitChar] := by
  by_cases h : n < 10
  · obtain ⟨size, rfl⟩ : ∃ s, size = s + 1 := ⟨size - 1, by omega⟩
    rw [padded_of_lt_ten h, Nat.div_eq_of_lt h, Nat.mod_eq_of_lt h, padded_of_lt_ten (by decide),
      List.replicate_succ']
    rfl
  · rw [padded, padded, natChars, Nat.toDigits_eq_if (by decide), if_neg h]
    simp only [natChars, List.length_append, List.length_singleton, List.append_assoc]
    congr 2
    omega

theorem length_padded
    {size n : Nat}
    (hsize : 0 < size)
    (h : n < 10 ^ size) :
    (padded size n).length = size := by
  have hlength := (natChars_length_le_iff n hsize).mpr h
  simp only [padded, List.length_append, List.length_replicate]
  omega

theorem isDigit_of_mem_padded
    {size n : Nat} {c : Char}
    (hc : c ∈ padded size n) :
    Json.isDigit c = true := by
  rcases List.mem_append.mp hc with hzero | hdigit
  · rw [List.eq_of_mem_replicate hzero]
    rfl
  · exact isDigit_of_mem_natChars hdigit

/-- Zeros in front make no difference to what digits denote. -/
theorem digitsValue_padded (size n : Nat) :
    digitsValue (padded size n) = n := by
  have hzeros : ∀ k, digitsValue (List.replicate k '0' ++ natChars n) = digitsValue (natChars n) := by
    intro k
    induction k with
    | zero => rfl
    | succ k ih => rw [← ih, List.replicate_succ]; rfl
  rw [padded, hzeros, digitsValue_natChars]

/-! ## Order -/

/-- Of texts with beginnings of one length the beginnings decide, where they differ. -/
theorem append_lt_append
    {xs ys : List Char}
    (hlength : xs.length = ys.length)
    (h : xs < ys)
    (us vs : List Char) :
    xs ++ us < ys ++ vs := by
  induction xs generalizing ys with
  | nil =>
      rw [List.eq_nil_of_length_eq_zero hlength.symm] at h
      exact absurd h (List.lt_irrefl [])
  | cons x xs ih =>
      cases ys with
      | nil =>
          cases hlength
      | cons y ys =>
          rw [List.cons_append, List.cons_append, List.cons_lt_cons_iff]
          rcases List.cons_lt_cons_iff.mp h with hlt | ⟨heq, hlt⟩
          · exact .inl hlt
          · exact .inr ⟨heq, ih (by simpa using hlength) hlt⟩

theorem digitChar_lt_digitChar
    {m n : Nat}
    (h : m < n)
    (hn : n < 10) :
    m.digitChar < n.digitChar := by
  have hall : ∀ b < 10, ∀ a < b, a.digitChar < b.digitChar := by
    decide
  exact hall n hn m h

/-- In a fixed number of places the order of texts is that of the naturals. -/
theorem padded_lt_padded
    {size m n : Nat}
    (hsize : 0 < size)
    (h : m < n)
    (hn : n < 10 ^ size) :
    padded size m < padded size n := by
  obtain ⟨k, rfl⟩ : ∃ k, size = k + 1 := ⟨size - 1, by omega⟩
  clear hsize
  induction k generalizing m n with
  | zero =>
      rw [padded_of_lt_ten (by omega), padded_of_lt_ten (by omega)]
      exact List.cons_lt_cons_iff.mpr (.inl (digitChar_lt_digitChar h (by omega)))
  | succ k ih =>
      have htens : n / 10 < 10 ^ (k + 1) := by omega
      rw [padded_succ (Nat.succ_pos k), padded_succ (Nat.succ_pos k)]
      rcases Nat.lt_or_eq_of_le (Nat.div_le_div_right (c := 10) (Nat.le_of_lt h)) with hlt | heq
      · refine append_lt_append ?_ (ih hlt htens) _ _
        rw [length_padded (Nat.succ_pos k) (by omega), length_padded (Nat.succ_pos k) htens]
      · rw [heq]
        refine List.append_left_lt (List.cons_lt_cons_iff.mpr (.inl ?_))
        exact digitChar_lt_digitChar (by omega) (Nat.mod_lt n (by decide))

end Decimal
end SqlDialects
