import SqlDialects.Json.Printer
import SqlDialects.Json.Reader

/-!
# Strings that are read back

A string that is written between quotation marks, with or without the characters beyond ASCII
escaped, is read as that string, and the reader stops right after the closing mark.

**Step.**  `Json.readString_charEscape` is about one character in front of something: the reader goes
past exactly what the character was written as.  Something has to follow, because the reader looks
at the character after an escape before it takes the escape.

**Results.**
* `Json.readString_flatMap_charEscape`: a whole string, by induction on its characters.
-/

namespace SqlDialects
namespace Json

/-! ## Units -/

theorem hexValue_hexDigit
    {n : Nat}
    (hn : n < 16) :
    hexValue? (Text.hexDigit n) = some n := by
  have hall : ∀ m < 16, hexValue? (Text.hexDigit m) = some m := by
    decide
  exact hall n hn

/-- A unit is written by four digits that denote it. -/
theorem unitEscape_digits
    {n : Nat}
    (hn : n < 65536) :
    ∃ h₁ h₂ h₃ h₄,
      unitEscape n = ['\\', 'u', h₁, h₂, h₃, h₄] ∧
      unitValue? h₁ h₂ h₃ h₄ = some n := by
  refine ⟨_, _, _, _, rfl, ?_⟩
  have hdigit : ∀ m, hexValue? (Text.hexDigit (m % 16)) = some (m % 16) := by
    intro m
    exact hexValue_hexDigit (Nat.mod_lt m (by omega))
  have hvalue :
      ((n / 16 / 16 / 16 % 16 * 16 + n / 16 / 16 % 16) * 16 + n / 16 % 16) * 16 + n % 16 = n := by
    omega
  simp [unitValue?, hdigit, hvalue]

/-- A character is no half of a surrogate pair. -/
theorem unit_of_char (c : Char) :
    isHighUnit c.toNat = false ∧ isLowUnit c.toNat = false := by
  have hvalid : c.toNat < 55296 ∨ 57343 < c.toNat ∧ c.toNat < 1114112 := c.valid
  constructor
  · simp only [isHighUnit, Bool.and_eq_false_iff, decide_eq_false_iff_not]
    omega
  · simp only [isLowUnit, Bool.and_eq_false_iff, decide_eq_false_iff_not]
    omega

theorem unitChar_of_char (c : Char) :
    unitChar c.toNat = c := by
  obtain ⟨hhigh, hlow⟩ := unit_of_char c
  simp [unitChar, hhigh, hlow]

theorem partner_of_char
    (c : Char)
    (cs : List Char) :
    partner c.toNat cs = .absent := by
  unfold partner
  split
  · simp [(unit_of_char c).1]
  · rfl

/-! ## One character -/

/-- An escaped unit of its own is read as its character. -/
theorem readString_unitEscape
    (start place : Nat)
    {c : Char}
    (hc : c.toNat < 65536)
    (after : Char)
    (cs : List Char) :
    readString start place (unitEscape c.toNat ++ after :: cs) =
      (readString start (place + (unitEscape c.toNat).length) (after :: cs)).map (.cons c) := by
  obtain ⟨h₁, h₂, h₃, h₄, hescape, hvalue⟩ := unitEscape_digits hc
  rw [hescape]
  simp only [List.cons_append, List.nil_append]
  rw [readString]
  simp only [hvalue, partner_of_char, unitChar_of_char]
  rfl

/-- Two escaped units that form a pair are read as the character of the pair. -/
theorem readString_unitEscape_pair
    (start place : Nat)
    {hi lo : Nat}
    (hhi : isHighUnit hi = true)
    (hlo : isLowUnit lo = true)
    (after : Char)
    (cs : List Char) :
    readString start place (unitEscape hi ++ unitEscape lo ++ after :: cs) =
      (readString start (place + (unitEscape hi ++ unitEscape lo).length) (after :: cs)).map
        (.cons (pairChar hi lo)) := by
  simp only [isHighUnit, isLowUnit, Bool.and_eq_true, decide_eq_true_eq] at hhi hlo
  obtain ⟨h₁, h₂, h₃, h₄, hescape, hvalue⟩ := unitEscape_digits (n := hi) (by omega)
  obtain ⟨l₁, l₂, l₃, l₄, lescape, lvalue⟩ := unitEscape_digits (n := lo) (by omega)
  rw [hescape, lescape]
  simp only [List.cons_append, List.nil_append]
  rw [readString]
  simp only [hvalue, lvalue, partner, isHighUnit, isLowUnit, hhi, hlo]
  rfl

/-- The two units of a character beyond the sixteen-bit range form a pair that denotes it. -/
theorem pair_of_char
    {c : Char}
    (hc : 65536 ≤ c.toNat) :
    isHighUnit (55296 + (c.toNat - 65536) / 1024) = true ∧
    isLowUnit (56320 + (c.toNat - 65536) % 1024) = true ∧
    pairChar (55296 + (c.toNat - 65536) / 1024) (56320 + (c.toNat - 65536) % 1024) = c := by
  have hvalid : c.toNat < 55296 ∨ 57343 < c.toNat ∧ c.toNat < 1114112 := c.valid
  have hunits :
      65536 + (55296 + (c.toNat - 65536) / 1024 - 55296) * 1024
        + (56320 + (c.toNat - 65536) % 1024 - 56320) = c.toNat := by
    omega
  refine ⟨?_, ?_, ?_⟩
  · simp only [isHighUnit, Bool.and_eq_true, decide_eq_true_eq]
    omega
  · simp only [isLowUnit, Bool.and_eq_true, decide_eq_true_eq]
    omega
  · rw [pairChar, hunits, Char.ofNat_toNat]

/-- A character by its units, one or two, is read as the character. -/
theorem readString_utf16Escape
    (start place : Nat)
    (c after : Char)
    (cs : List Char) :
    readString start place (utf16Escape c ++ after :: cs) =
      (readString start (place + (utf16Escape c).length) (after :: cs)).map (.cons c) := by
  simp only [utf16Escape]
  split
  · exact readString_unitEscape start place ‹_› after cs
  · obtain ⟨hhi, hlo, hpair⟩ := pair_of_char (c := c) (by omega)
    rw [readString_unitEscape_pair start place hhi hlo, hpair]

/-- A letter after a backslash is read as what it stands for. -/
theorem readString_shortEscape
    (start place : Nat)
    {e c : Char}
    (he : e ≠ 'u')
    (hc : shortEscape? e = some c)
    (cs : List Char) :
    readString start place ('\\' :: e :: cs) =
      (readString start (place + 2) cs).map (.cons c) := by
  rw [readString]
  · simp only [hc]
  all_goals simp_all

/-- A character that needs no escape is read as it is. -/
theorem readString_self
    (start place : Nat)
    {c : Char}
    (hquote : c ≠ '"')
    (hbackslash : c ≠ '\\')
    (hcontrol : 32 ≤ c.toNat)
    (cs : List Char) :
    readString start place (c :: cs) =
      (readString start (place + 1) cs).map (.cons c) := by
  have hnot : ¬ c.toNat < 32 := by omega
  rw [readString, if_neg hnot]
  all_goals simp_all

/-- What a character is written as is read as the character, and nothing more is taken. -/
theorem readString_charEscape
    (asciiOnly : Bool)
    (start place : Nat)
    (c after : Char)
    (cs : List Char) :
    readString start place (charEscape asciiOnly c ++ after :: cs) =
      (readString start (place + (charEscape asciiOnly c).length) (after :: cs)).map (.cons c) := by
  unfold charEscape
  -- the seven characters that have an escape of their own
  iterate 7
    split
    · subst c
      exact readString_shortEscape start place (by decide) (by decide) _
  split
  · exact readString_unitEscape start place (by omega) after cs
  split
  · exact readString_utf16Escape start place c after cs
  · exact readString_self start place ‹_› ‹_› (by omega) _

/-! ## Whole strings -/

/-- The characters of a string and the closing mark are read as the string. -/
theorem readString_flatMap_charEscape
    (asciiOnly : Bool)
    (start place : Nat)
    (cs rest : List Char) :
    readString start place (cs.flatMap (charEscape asciiOnly) ++ '"' :: rest) =
      .ok ⟨cs, place + (cs.flatMap (charEscape asciiOnly)).length + 1, rest⟩ := by
  induction cs generalizing place with
  | nil =>
      rw [List.flatMap_nil, List.nil_append, readString]
      rfl
  | cons c cs ih =>
      have hnext : ∃ after more,
          cs.flatMap (charEscape asciiOnly) ++ '"' :: rest = after :: more :=
        List.exists_cons_of_ne_nil (by simp)
      obtain ⟨after, more, hmore⟩ := hnext
      rw [List.flatMap_cons, List.append_assoc, hmore, readString_charEscape, ← hmore, ih,
        List.length_append]
      simp only [Except.map, Read.cons, Nat.add_assoc]

theorem stringChars_append
    (asciiOnly : Bool)
    (s : String)
    (rest : List Char) :
    stringChars asciiOnly s ++ rest =
      '"' :: (s.toList.flatMap (charEscape asciiOnly) ++ '"' :: rest) := by
  simp [stringChars]

/-- A string that is written is read back. -/
theorem readString_string
    (asciiOnly : Bool)
    (place : Nat)
    (s : String)
    (rest : List Char) :
    readString place (place + 1) (s.toList.flatMap (charEscape asciiOnly) ++ '"' :: rest) =
      .ok ⟨s.toList, place + (stringChars asciiOnly s).length, rest⟩ := by
  rw [readString_flatMap_charEscape]
  simp only [stringChars, List.length_cons, List.length_append, List.length_nil]
  congr 2
  omega

end Json
end SqlDialects
