import SqlDialects.Proofs.Json.RoundTrip
import SqlDialects.Text.Blank

/-!
# Written values hold no control characters

Strings escape control characters, and nothing else that is written contains any.  The text of a
value is thus a single line, and reading lines with any ends leaves it as it is.

**View.**  `Json.Visible` texts hold no control characters.

**Results.**
* `Json.visible_chars`: the text of a value is visible, by induction on how the value is built.
* `Text.universalNewlines_of_visible`: a visible text with a line end behind it comes unaltered from
  an input.
-/

namespace SqlDialects
namespace Json

/-- No character is a control character. -/
def Visible (cs : List Char) : Prop :=
  ∀ c ∈ cs, 32 ≤ c.toNat

-- the list is gone through; characters in general are too many
instance (cs : List Char) : Decidable (Visible cs) :=
  List.decidableBAll _ cs

theorem Visible.append
    {cs ds : List Char}
    (hcs : Visible cs)
    (hds : Visible ds) :
    Visible (cs ++ ds) := by
  intro c hc
  exact (List.mem_append.mp hc).elim (hcs c) (hds c)

/-! ## Strings and integers -/

theorem visible_charEscape (c : Char) :
    Visible (charEscape false c) := by
  have hescape : ∀ n < 32, Visible (unitEscape n) := by decide
  unfold charEscape
  -- the seven characters that have an escape of their own
  iterate 7
    split
    · decide
  split
  · exact hescape c.toNat ‹_›
  · rw [Bool.false_and, if_neg Bool.false_ne_true]
    intro d hd
    rw [List.mem_singleton.mp hd]
    omega

theorem visible_stringChars (s : String) :
    Visible (stringChars false s) := by
  have hquote : Visible ['"'] := by decide
  have hinside : Visible (s.toList.flatMap (charEscape false)) := by
    intro c hc
    obtain ⟨d, -, hd⟩ := List.mem_flatMap.mp hc
    exact visible_charEscape d c hd
  exact (hquote.append hinside).append hquote

theorem visible_intChars (i : Int) :
    Visible (Decimal.intChars i) := by
  have hdigits : Visible (Decimal.natChars i.natAbs) := by
    intro c hc
    have hdigit := Decimal.isDigit_of_mem_natChars hc
    simp only [isDigit, Bool.and_eq_true, decide_eq_true_eq] at hdigit
    have hzero : '0'.toNat ≤ c.toNat := UInt32.le_iff_toNat_le.mp hdigit.1
    exact Nat.le_trans (by decide) hzero
  have hsign : Visible ['-'] := by decide
  unfold Decimal.intChars
  split
  · exact hsign.append hdigits
  · exact hdigits

/-! ## Values -/

theorem visible_itemChars
    {items : List Json}
    (h : ∀ v ∈ items, Visible (chars plain v)) :
    Visible (itemChars plain items) := by
  have hcomma : Visible plain.comma := by decide
  induction items with
  | nil =>
      exact fun c hc => absurd hc List.not_mem_nil
  | cons v vs ih =>
      have hv := h v (by simp)
      have hvs := ih fun w hw => h w (List.mem_cons_of_mem v hw)
      cases vs with
      | nil =>
          exact hv
      | cons w ws =>
          rw [itemChars]
          exact (hv.append hcomma).append hvs

theorem visible_memberChars
    {members : List (String × Json)}
    (h : ∀ m ∈ members, Visible (chars plain m.2)) :
    Visible (memberChars plain members) := by
  have hcomma : Visible plain.comma := by decide
  have hcolon : Visible plain.colon := by decide
  induction members with
  | nil =>
      exact fun c hc => absurd hc List.not_mem_nil
  | cons m ms ih =>
      obtain ⟨n, v⟩ := m
      have hv := h (n, v) (by simp)
      have hms := ih fun m hm => h m (List.mem_cons_of_mem _ hm)
      have hmember := ((visible_stringChars n).append hcolon).append hv
      cases ms with
      | nil =>
          exact hmember
      | cons m' ms =>
          rw [memberChars]
          exact (hmember.append hcomma).append hms

/-- The text of an exact value is visible. -/
theorem visible_chars
    {depth : Nat} {v : Json}
    (h : ExactWithin depth v) :
    Visible (chars plain v) := by
  induction h with
  | null depth =>
      decide
  | bool depth b =>
      cases b <;> decide
  | int depth i h =>
      exact visible_intChars i
  | text depth s =>
      exact visible_stringChars s
  | array depth items h ih =>
      have hopen : Visible ['['] := by decide
      have hclose : Visible [']'] := by decide
      exact (hopen.append (visible_itemChars ih)).append hclose
  | object depth members h ih =>
      have hopen : Visible ['\x7b'] := by decide
      have hclose : Visible ['\x7d'] := by decide
      exact (hopen.append (visible_memberChars ih)).append hclose

end Json

namespace Text

/-- A visible text with a line end behind it comes unaltered from an input. -/
theorem universalNewlines_of_visible
    {cs : List Char}
    (h : Json.Visible cs) :
    universalNewlines (cs ++ ['\n']) = cs ++ ['\n'] := by
  induction cs with
  | nil =>
      rfl
  | cons c cs ih =>
      have hc : c ≠ '\r' := by
        rintro rfl
        exact absurd (h '\r' (by simp)) (by decide)
      have hrest := ih fun d hd => h d (List.mem_cons_of_mem c hd)
      rw [List.cons_append, universalNewlines, hrest, if_neg hc]
      rintro _ rfl
      exact absurd rfl hc

end Text
end SqlDialects
