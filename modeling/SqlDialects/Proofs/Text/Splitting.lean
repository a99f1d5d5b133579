import Mathlib.Algebra.GroupWithZero.Nat
import Mathlib.Data.List.Infix

/-!
# Joining texts and splitting them again

Texts joined with a separator between them are found again by splitting at the separator, although a
text may end in a part of it.

**Specification.**  `Text.split` goes through a text from the left and ends a piece wherever the
separator stands.

**Invariant.**  The first character of the separator does not occur in it again, so an occurrence that
begins in a text ends there too (`Text.not_prefix_append`).

**Results.**
* `Text.split_intercalate`: the pieces of joined texts are the texts, if none of them holds the
  separator.
* `Text.length_intercalate`: how long joined texts are.
* `Text.exists_intercalate_cons` and `Text.exists_intercalate_concat`: they begin with the first text
  and end with the last.
-/

namespace SqlDialects
namespace Text

/-- The pieces between the occurrences of the separator `s :: ss`, found from the left. -/
def pieces (s : Char) (ss : List Char) : List Char → List (List Char)
  | [] => [[]]
  | c :: cs =>
    if s :: ss <+: c :: cs then [] :: pieces s ss (cs.drop ss.length)
    else (pieces s ss cs).modifyHead (c :: ·)
termination_by cs => cs.length
decreasing_by all_goals simp only [List.length_drop, List.length_cons]; omega

/-- The pieces of a text between the occurrences of a separator; an empty one separates nothing. -/
def split (sep text : String) : List String :=
  match sep.toList with
  | [] => [text]
  | s :: ss => (pieces s ss text.toList).map String.ofList

/-! ## Splitting -/

section Pieces

variable {s : Char} {ss : List Char}

/-- A text that does not hold the separator is a single piece. -/
theorem pieces_of_not_infix
    {cs : List Char}
    (h : ¬ s :: ss <:+: cs) :
    pieces s ss cs = [cs] := by
  induction cs with
  | nil =>
      rw [pieces]
  | cons c cs ih =>
      have hrest : ¬ s :: ss <:+: cs := fun hinfix => h (List.infix_cons hinfix)
      rw [pieces, if_neg fun hprefix => h hprefix.isInfix, ih hrest, List.modifyHead_cons]

variable (hs : s ∉ ss)
include hs

/-- Where a separator follows a text that does not hold it, none begins in the text. -/
theorem not_prefix_append
    {c : Char} {cs : List Char}
    (h : ¬ s :: ss <:+: c :: cs)
    (rest : List Char) :
    ¬ s :: ss <+: c :: cs ++ s :: rest := by
  rintro ⟨after, hafter⟩
  rcases List.append_eq_append_iff.mp hafter with ⟨inside, hinside, -⟩ | ⟨beyond, hbeyond, hrest⟩
  · exact h (hinside ▸ (List.prefix_append _ _).isInfix)
  · cases beyond with
    | nil =>
        rw [List.append_nil] at hbeyond
        exact h (hbeyond ▸ List.infix_rfl)
    | cons b beyond =>
        -- the occurrence would hold its own first character twice
        obtain ⟨rfl, -⟩ := List.cons.inj hrest
        obtain ⟨-, hss⟩ := List.cons.inj hbeyond
        exact hs (hss ▸ by simp)

/-- A piece ends at the first separator behind it. -/
theorem pieces_append
    {cs : List Char}
    (h : ¬ s :: ss <:+: cs)
    (rest : List Char) :
    pieces s ss (cs ++ (s :: ss) ++ rest) = cs :: pieces s ss rest := by
  induction cs with
  | nil =>
      have hprefix : s :: ss <+: s :: (ss ++ rest) := List.prefix_append (s :: ss) rest
      rw [List.nil_append, List.cons_append, pieces, if_pos hprefix, List.drop_left]
  | cons c cs ih =>
      have hrest : ¬ s :: ss <:+: cs := fun hinfix => h (List.infix_cons hinfix)
      have hnot := not_prefix_append hs h (ss ++ rest)
      rw [List.append_assoc, List.cons_append] at ih ⊢
      rw [List.cons_append] at hnot ⊢
      rw [pieces, if_neg hnot, ih hrest, List.modifyHead_cons]

theorem pieces_intercalate
    {texts : List (List Char)}
    (hne : texts ≠ [])
    (h : ∀ t ∈ texts, ¬ s :: ss <:+: t) :
    pieces s ss ((s :: ss).intercalate texts) = texts := by
  induction texts with
  | nil =>
      exact absurd rfl hne
  | cons t texts ih =>
      cases texts with
      | nil =>
          rw [List.intercalate_singleton, pieces_of_not_infix (h t (by simp))]
      | cons u texts =>
          rw [List.intercalate_cons_cons, pieces_append hs (h t (by simp)),
            ih (by simp) fun v hv => h v (List.mem_cons_of_mem t hv)]

end Pieces

/-- The pieces of joined texts are the texts, if none of them holds the separator and the separator
does not hold its first character again. -/
theorem split_intercalate
    {sep : String} {s : Char} {ss : List Char} {texts : List String}
    (hsep : sep.toList = s :: ss)
    (hs : s ∉ ss)
    (hne : texts ≠ [])
    (h : ∀ t ∈ texts, ¬ sep.toList <:+: t.toList) :
    split sep (sep.intercalate texts) = texts := by
  have hpieces : pieces s ss ((s :: ss).intercalate (texts.map String.toList)) =
      texts.map String.toList := by
    refine pieces_intercalate hs (by simpa using hne) fun t ht => ?_
    obtain ⟨u, hu, rfl⟩ := List.mem_map.mp ht
    exact hsep ▸ h u hu
  rw [split, hsep]
  dsimp only
  rw [String.toList_intercalate, hsep, hpieces, List.map_map]
  simp

/-! ## Joining -/

/-- Joined texts are as long as the texts and a separator between each two of them. -/
theorem length_intercalate
    (sep : String)
    {texts : List String}
    (hne : texts ≠ []) :
    (sep.intercalate texts).length =
      (texts.map String.length).sum + sep.length * (texts.length - 1) := by
  induction texts with
  | nil =>
      exact absurd rfl hne
  | cons t texts ih =>
      cases texts with
      | nil =>
          simp
      | cons u texts =>
          have hrest := ih (by simp)
          simp only [String.intercalate_cons_cons, String.length_append, hrest, List.map_cons,
            List.sum_cons, List.length_cons, Nat.add_sub_cancel, Nat.mul_succ]
          omega

theorem exists_intercalate_cons (sep t : String) (texts : List String) :
    ∃ rest, sep.intercalate (t :: texts) = t ++ rest := by
  cases texts with
  | nil =>
      exact ⟨"", by simp⟩
  | cons u texts =>
      exact ⟨_, by rw [String.intercalate_cons_cons, String.append_assoc]⟩

theorem exists_intercalate_concat (sep t : String) (texts : List String) :
    ∃ before, sep.intercalate (texts ++ [t]) = before ++ t := by
  induction texts with
  | nil =>
      exact ⟨"", by simp⟩
  | cons u texts ih =>
      obtain ⟨before, hbefore⟩ := ih
      obtain ⟨v, vs, hvs⟩ : ∃ v vs, texts ++ [t] = v :: vs := List.exists_cons_of_ne_nil (by simp)
      rw [hvs] at hbefore
      refine ⟨u ++ sep ++ before, ?_⟩
      rw [List.cons_append, hvs, String.intercalate_cons_cons, hbefore, String.append_assoc,
        String.append_assoc, String.append_assoc]

end Text
end SqlDialects
