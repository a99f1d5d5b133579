import Mathlib.Data.List.TakeWhile
import SqlDialects.Console.Markup

/-!
# Escaped text is markup in order

Whatever a text is, its escaped form is markup without a tag that is at fault, on its own and in
front of a closing tag.

**View.**  `Markup.InOrder` says of markup that it has a text wherever it stands and whatever tags
are open before it.  It is built up from the front: a character that starts no tag, a tag that is
escaped, a tag that can be applied.

**Invariant.**  Reading an escaped text meets no tag until only backslashes are left of it
(`Markup.match?_escapeTags`); these join with what follows.

**Results.**
* `Markup.inOrder_escape`: an escaped text in front of a tag, or of nothing, is in order if
  backslashes in front of the tag are.
* `Markup.exists_plain_escape`: an escaped text has a text.
* `Markup.inOrder_opening` and `Markup.inOrder_closing`: a tag around an escaped text.
-/

namespace SqlDialects
namespace Console
namespace Markup

/-! ## Tags at the front -/

/-- What may stand between the brackets of a tag. -/
def IsTag (tag : List Char) : Prop :=
  ∃ c ds, tag = c :: ds ∧ isTagStart c = true ∧ ∀ d ∈ ds, d ≠ '[' ∧ d ≠ ']'

/-- No closing bracket is the first bracket of a text. -/
def Unclosed (cs : List Char) : Prop :=
  ∀ rest, cs.dropWhile (fun d => d ≠ '[' && d ≠ ']') ≠ ']' :: rest

theorem takeWhile_dropWhile_tag
    {ds : List Char}
    (h : ∀ d ∈ ds, d ≠ '[' ∧ d ≠ ']')
    (rest : List Char) :
    (ds ++ ']' :: rest).takeWhile (fun d => d ≠ '[' && d ≠ ']') = ds ∧
    (ds ++ ']' :: rest).dropWhile (fun d => d ≠ '[' && d ≠ ']') = ']' :: rest := by
  induction ds with
  | nil =>
      simp
  | cons d ds ih =>
      have hd : (decide (d ≠ '[') && decide (d ≠ ']')) = true := by
        simpa using h d (by simp)
      have hds := ih fun x hx => h x (by simp [hx])
      simp only [List.cons_append, List.takeWhile_cons, List.dropWhile_cons, hd, if_true, hds,
        and_self]

theorem tagAt?_bracketed
    {tag : List Char}
    (h : IsTag tag)
    (rest : List Char) :
    tagAt? (bracketed tag ++ rest) = some (tag, rest) := by
  obtain ⟨c, ds, rfl, hc, hds⟩ := h
  obtain ⟨htake, hdrop⟩ := takeWhile_dropWhile_tag hds rest
  simp only [bracketed, List.cons_append, List.append_assoc, List.nil_append, tagAt?, hc, if_true,
    hdrop, htake]

theorem eq_of_tagAt?
    {cs tag rest : List Char}
    (h : tagAt? cs = some (tag, rest)) :
    IsTag tag ∧ cs = bracketed tag ++ rest := by
  unfold tagAt? at h
  split at h
  · rename_i c cs
    split at h
    · rename_i hc
      split at h
      · rename_i rest' hdrop
        cases h
        refine ⟨⟨c, _, rfl, hc, ?_⟩, ?_⟩
        · intro d hd
          simpa using List.mem_takeWhile_imp hd
        · have hsplit := List.takeWhile_append_dropWhile
            (p := fun d : Char => d ≠ '[' && d ≠ ']') (l := cs)
          rw [hdrop] at hsplit
          simp only [bracketed, List.cons_append, List.append_assoc, List.nil_append, hsplit]
      · cases h
    · cases h
  · cases h

theorem tagAt?_of_unclosed
    {cs : List Char}
    (h : Unclosed cs)
    (c : Char) :
    tagAt? ('[' :: c :: cs) = none := by
  rw [tagAt?]
  split
  · split
    · rename_i rest hdrop
      exact absurd hdrop (h rest)
    · rfl
  · rfl

theorem tagAt?_of_not_start
    {c : Char}
    (h : isTagStart c = false)
    (cs : List Char) :
    tagAt? ('[' :: c :: cs) = none := by
  rw [tagAt?, h]
  rfl

theorem unclosed_of_tagAt?
    {c : Char} {cs : List Char}
    (h : tagAt? ('[' :: c :: cs) = none)
    (hc : isTagStart c = true) :
    Unclosed cs := by
  intro rest hdrop
  rw [tagAt?, hc, if_pos rfl, hdrop] at h
  cases h

theorem match?_replicate
    (k : Nat)
    {tag : List Char}
    (h : IsTag tag)
    (rest : List Char) :
    match? (List.replicate k '\\' ++ (bracketed tag ++ rest)) = some ⟨k, tag, rest⟩ := by
  have hdrop : (List.replicate k '\\' ++ (bracketed tag ++ rest)).dropWhile (· = '\\') =
      bracketed tag ++ rest := by
    rw [List.dropWhile_append_of_pos (by simp)]
    rfl
  have htake : (List.replicate k '\\' ++ (bracketed tag ++ rest)).takeWhile (· = '\\') =
      List.replicate k '\\' := by
    rw [List.takeWhile_append_of_pos (by simp)]
    simp [bracketed]
  rw [match?, hdrop, htake, tagAt?_bracketed h, List.length_replicate]
  rfl

theorem eq_of_match?
    {cs : List Char} {m : Match}
    (h : match? cs = some m) :
    IsTag m.tag ∧
    cs = List.replicate m.backslashes '\\' ++ (bracketed m.tag ++ m.rest) := by
  rw [match?, Option.map_eq_some_iff] at h
  obtain ⟨⟨tag, rest⟩, htag, rfl⟩ := h
  obtain ⟨histag, hdrop⟩ := eq_of_tagAt? htag
  refine ⟨histag, ?_⟩
  have hslashes : cs.takeWhile (· = '\\') =
      List.replicate (cs.takeWhile (· = '\\')).length '\\' := by
    refine List.eq_replicate_of_mem fun c hc => ?_
    simpa using List.mem_takeWhile_imp hc
  rw [← hslashes, ← hdrop, List.takeWhile_append_dropWhile]

theorem length_rest_lt
    {cs : List Char} {m : Match}
    (h : match? cs = some m) :
    m.rest.length < cs.length := by
  rw [(eq_of_match? h).2]
  simp only [bracketed, List.length_append, List.length_replicate, List.length_cons]
  omega

/-- A backslash in front makes no difference to whether there is a tag. -/
theorem match?_backslash (cs : List Char) :
    match? ('\\' :: cs) = none ↔ match? cs = none := by
  simp [match?]

theorem match?_bracket (cs : List Char) :
    match? ('[' :: cs) = none ↔ tagAt? ('[' :: cs) = none := by
  simp [match?]

theorem match?_of_other
    {c : Char}
    (hbackslash : c ≠ '\\')
    (hbracket : c ≠ '[')
    (cs : List Char) :
    match? (c :: cs) = none := by
  have htag : tagAt? (c :: cs) = none := by
    unfold tagAt?
    split
    · simp_all
    · rfl
  simp [match?, hbackslash, htag]

/-! ## Markup in order -/

/-- The markup has a text, wherever it stands, if these tags are open before it. -/
def InOrder (stack : List OpenTag) (cs : List Char) : Prop :=
  ∀ fuel place pending, cs.length < fuel →
    ∃ t, textOf stack (piecesFrom fuel place pending cs) = .ok t

theorem exists_textOf_append
    {stack : List OpenTag} {ps : List Piece}
    (texts : List (List Char))
    (h : ∃ t, textOf stack ps = .ok t) :
    ∃ t, textOf stack (texts.map .text ++ ps) = .ok t := by
  induction texts with
  | nil =>
      exact h
  | cons cs texts ih =>
      obtain ⟨t, ht⟩ := ih
      exact ⟨pieceText cs ++ t, by rw [List.map_cons, List.cons_append, textOf, ht]; rfl⟩

theorem inOrder_nil (stack : List OpenTag) :
    InOrder stack [] := by
  intro fuel place pending hfuel
  obtain ⟨fuel, rfl⟩ : ∃ f, fuel = f + 1 := ⟨fuel - 1, by simp at hfuel; omega⟩
  rw [piecesFrom]
  split
  · exact ⟨[], rfl⟩
  · exact ⟨_, rfl⟩

/-- A character that starts no tag. -/
theorem inOrder_cons
    {stack : List OpenTag} {c : Char} {cs : List Char}
    (hnone : match? (c :: cs) = none)
    (h : InOrder stack cs) :
    InOrder stack (c :: cs) := by
  intro fuel place pending hfuel
  obtain ⟨fuel, rfl⟩ : ∃ f, fuel = f + 1 := ⟨fuel - 1, by omega⟩
  rw [piecesFrom, hnone]
  exact h fuel _ _ (by simpa using hfuel)

/-- The texts that come before a tag: the text before it and half of its backslashes. -/
def textsBefore (pending : List Char) (backslashes : Nat) : List (List Char) :=
  (if pending.isEmpty then [] else [pending.reverse]) ++
    if backslashes < 2 then [] else [List.replicate (backslashes / 2) '\\']

/-- Where a tag is met, the text before it and its backslashes come first. -/
theorem piecesFrom_of_match?
    {cs : List Char} {m : Match}
    (hm : match? cs = some m)
    (fuel place : Nat)
    (pending : List Char) :
    piecesFrom (fuel + 1) place pending cs =
      (textsBefore pending m.backslashes).map .text ++
        (if m.backslashes % 2 = 1 then .text (bracketed m.tag)
          else .tag (place + m.backslashes) m.tag) ::
        piecesFrom fuel (place + m.backslashes + m.tag.length + 2) [] m.rest := by
  cases cs with
  | nil =>
      cases hm
  | cons c cs =>
      have hbefore : ∀ (b : Prop) [Decidable b] (t : List Char),
          (if b then [] else [t]).map Piece.text = if b then [] else [.text t] := by
        intro b _ t
        split <;> rfl
      rw [piecesFrom, hm, textsBefore, List.map_append, hbefore, hbefore]
      dsimp only
      split <;> rfl

/-- A tag that is escaped. -/
theorem inOrder_literal
    {stack : List OpenTag} {cs : List Char} {m : Match}
    (hm : match? cs = some m)
    (hodd : m.backslashes % 2 = 1)
    (h : InOrder stack m.rest) :
    InOrder stack cs := by
  intro fuel place pending hfuel
  obtain ⟨fuel, rfl⟩ : ∃ f, fuel = f + 1 := ⟨fuel - 1, by omega⟩
  have hlength := length_rest_lt hm
  rw [piecesFrom_of_match? hm, if_pos hodd]
  refine exists_textOf_append _ ?_
  exact exists_textOf_append [bracketed m.tag] (h fuel _ [] (by omega))

/-- A tag that can be applied. -/
theorem inOrder_tag
    {stack stack' : List OpenTag} {cs : List Char} {m : Match}
    (hm : match? cs = some m)
    (heven : m.backslashes % 2 = 0)
    (happly : ∀ place, applyTag stack place m.tag = .ok stack')
    (h : InOrder stack' m.rest) :
    InOrder stack cs := by
  intro fuel place pending hfuel
  obtain ⟨fuel, rfl⟩ : ∃ f, fuel = f + 1 := ⟨fuel - 1, by omega⟩
  have hlength := length_rest_lt hm
  rw [piecesFrom_of_match? hm, if_neg (by omega)]
  refine exists_textOf_append _ ?_
  rw [textOf, happly]
  exact h fuel _ [] (by omega)

/-- Text without brackets and backslashes. -/
theorem inOrder_append_of_letters
    {stack : List OpenTag} {cs rest : List Char}
    (hcs : ∀ c ∈ cs, c ≠ '\\' ∧ c ≠ '[')
    (h : InOrder stack rest) :
    InOrder stack (cs ++ rest) := by
  induction cs with
  | nil =>
      exact h
  | cons c cs ih =>
      have hc := hcs c (by simp)
      exact inOrder_cons (match?_of_other hc.1 hc.2 _) (ih fun x hx => hcs x (by simp [hx]))

/-- Text without an opening bracket holds no tag. -/
theorem inOrder_of_no_bracket
    {stack : List OpenTag} {cs : List Char}
    (hcs : '[' ∉ cs) :
    InOrder stack cs := by
  induction cs with
  | nil =>
      exact inOrder_nil stack
  | cons c cs ih =>
      refine inOrder_cons ?_ (ih fun h => hcs (List.mem_cons_of_mem c h))
      rcases hm : match? (c :: cs) with _ | m
      · rfl
      · refine absurd ?_ hcs
        rw [(eq_of_match? hm).2]
        simp [bracketed]

theorem exists_plain_of_inOrder
    {cs : List Char}
    (h : InOrder [] cs) :
    ∃ t, plain cs = .ok t :=
  h (cs.length + 1) 0 [] (Nat.lt_succ_self _)

/-! ## Escaped text -/

section Escaping

/-- What may follow an escaped text: nothing, or something that opens with a bracket. -/
def Opens (tail : List Char) : Prop :=
  tail = [] ∨ ∃ cs, tail = '[' :: cs

variable {tail : List Char} (htail : Opens tail)
include htail

theorem unclosed_backslashes (m : Nat) :
    Unclosed (List.replicate m '\\' ++ tail) := by
  intro rest hrest
  rw [List.dropWhile_append_of_pos (by simp)] at hrest
  rcases htail with rfl | ⟨cs, rfl⟩
  · cases hrest
  · simp at hrest

theorem tagAt?_backslashes (m : Nat) :
    tagAt? ('[' :: (List.replicate m '\\' ++ tail)) = none := by
  cases m with
  | zero =>
      rcases htail with rfl | ⟨cs, rfl⟩
      · rfl
      · exact tagAt?_of_not_start (by decide) cs
  | succ m =>
      exact tagAt?_of_not_start (by decide) _

/-- Escaping closes no bracket. -/
theorem unclosed_escapeTags
    (m : Nat)
    {fuel : Nat} {cs : List Char}
    (hfuel : cs.length < fuel)
    (h : Unclosed cs) :
    Unclosed (escapeTags fuel cs ++ (List.replicate m '\\' ++ tail)) := by
  induction fuel generalizing cs with
  | zero =>
      omega
  | succ fuel ih =>
      cases cs with
      | nil =>
          exact unclosed_backslashes htail m
      | cons c cs =>
          rw [escapeTags]
          rcases hm : match? (c :: cs) with _ | match'
          · dsimp only
            by_cases hopen : c = '['
            · subst hopen
              intro rest hdrop
              simp at hdrop
            · by_cases hclose : c = ']'
              · subst hclose
                exact absurd (by simp) (h cs)
              · have hcs : Unclosed cs := fun rest hrest => h rest (by simpa [hopen, hclose] using hrest)
                have hrest := ih (by simpa using hfuel) hcs
                intro rest hdrop
                exact hrest rest (by simpa [hopen, hclose] using hdrop)
          · dsimp only
            intro rest hdrop
            rw [List.append_assoc, List.append_assoc,
              List.dropWhile_append_of_pos (by simp)] at hdrop
            simp [bracketed] at hdrop

/-- Escaping makes no tag of a bracket that opens none. -/
theorem tagAt?_escapeTags
    (m : Nat)
    {fuel : Nat} {cs : List Char}
    (hfuel : cs.length < fuel)
    (h : tagAt? ('[' :: cs) = none) :
    tagAt? ('[' :: (escapeTags fuel cs ++ (List.replicate m '\\' ++ tail))) = none := by
  obtain ⟨fuel, rfl⟩ : ∃ f, fuel = f + 1 := ⟨fuel - 1, by omega⟩
  cases cs with
  | nil =>
      exact tagAt?_backslashes htail m
  | cons c cs =>
      rw [escapeTags]
      rcases hm : match? (c :: cs) with _ | match'
      · dsimp only
        cases hc : isTagStart c with
        | false =>
            exact tagAt?_of_not_start hc _
        | true =>
            exact tagAt?_of_unclosed
              (unclosed_escapeTags htail m (by simpa using hfuel) (unclosed_of_tagAt? h hc)) c
      · exact tagAt?_of_not_start (by decide) _

/-- An escaped text starts no tag where the text starts none, unless only backslashes are left. -/
theorem match?_escapeTags
    (m : Nat)
    {fuel : Nat} {cs : List Char}
    (hfuel : cs.length < fuel)
    (h : match? cs = none) :
    match? (escapeTags fuel cs ++ (List.replicate m '\\' ++ tail)) = none ∨
    ∃ k, escapeTags fuel cs ++ (List.replicate m '\\' ++ tail) = List.replicate k '\\' ++ tail := by
  induction fuel generalizing cs with
  | zero =>
      omega
  | succ fuel ih =>
      cases cs with
      | nil =>
          exact .inr ⟨m, rfl⟩
      | cons c cs =>
          rw [escapeTags, h]
          dsimp only
          by_cases hbackslash : c = '\\'
          · subst hbackslash
            rcases ih (by simpa using hfuel) ((match?_backslash cs).mp h) with hnone | ⟨k, hk⟩
            · exact .inl ((match?_backslash _).mpr hnone)
            · exact .inr ⟨k + 1, by rw [List.cons_append, hk]; rfl⟩
          · by_cases hbracket : c = '['
            · subst hbracket
              refine .inl ((match?_bracket _).mpr ?_)
              exact tagAt?_escapeTags htail m (by simpa using hfuel) ((match?_bracket cs).mp h)
            · exact .inl (match?_of_other hbackslash hbracket _)

theorem inOrder_escapeTags
    {stack : List OpenTag}
    (hend : ∀ k, InOrder stack (List.replicate k '\\' ++ tail))
    (m : Nat)
    {fuel : Nat} {cs : List Char}
    (hfuel : cs.length < fuel) :
    InOrder stack (escapeTags fuel cs ++ (List.replicate m '\\' ++ tail)) := by
  induction fuel generalizing cs with
  | zero =>
      omega
  | succ fuel ih =>
      cases cs with
      | nil =>
          exact hend m
      | cons c cs =>
          rcases hm : match? (c :: cs) with _ | m'
          · -- a character of text: either reading goes on behind it, or only backslashes are left
            rcases match?_escapeTags htail m hfuel hm with hnone | ⟨k, hk⟩
            · rw [escapeTags, hm] at hnone ⊢
              exact inOrder_cons hnone (ih (by simpa using hfuel))
            · rw [hk]
              exact hend k
          · have hlength := length_rest_lt hm
            have hmatch := match?_replicate (2 * m'.backslashes + 1) (eq_of_match? hm).1
              (escapeTags fuel m'.rest ++ (List.replicate m '\\' ++ tail))
            rw [escapeTags, hm]
            dsimp only
            rw [List.append_assoc, List.append_assoc]
            exact inOrder_literal hmatch (by dsimp only; omega) (ih (by omega))

/-- An escaped text in front of a tail. -/
theorem inOrder_escape
    {stack : List OpenTag}
    (hend : ∀ k, InOrder stack (List.replicate k '\\' ++ tail))
    (cs : List Char) :
    InOrder stack (escape cs ++ tail) := by
  have h := fun m => inOrder_escapeTags htail hend m (Nat.lt_succ_self cs.length)
  rw [escape]
  split
  · exact h 0
  · rw [List.append_assoc]
    exact h 1
  · exact h 0

end Escaping

/-! ## Uses -/

/-- An escaped text has a text. -/
theorem exists_plain_escape (cs : List Char) :
    ∃ t, plain (escape cs) = .ok t := by
  refine exists_plain_of_inOrder ?_
  have h : InOrder [] (escape cs ++ []) :=
    inOrder_escape (.inl rfl) (fun k => inOrder_of_no_bracket (by simp)) cs
  rwa [List.append_nil] at h

/-- Text behind a tag that can be applied. -/
theorem inOrder_opening
    {stack stack' : List OpenTag} {tag rest : List Char}
    (htag : IsTag tag)
    (happly : ∀ place, applyTag stack place tag = .ok stack')
    (h : InOrder stack' rest) :
    InOrder stack (bracketed tag ++ rest) :=
  inOrder_tag (match?_replicate 0 htag rest) rfl happly h

/-- Backslashes in front of a tag that can be applied. -/
theorem inOrder_closing
    {stack stack' : List OpenTag} {tag : List Char}
    (htag : IsTag tag)
    (happly : ∀ place, applyTag stack place tag = .ok stack')
    (k : Nat) :
    InOrder stack (List.replicate k '\\' ++ bracketed tag) := by
  have hmatch := match?_replicate k htag []
  rw [List.append_nil] at hmatch
  rcases Nat.mod_two_eq_zero_or_one k with heven | hodd
  · exact inOrder_tag hmatch heven happly (inOrder_nil stack')
  · exact inOrder_literal hmatch hodd (inOrder_nil stack)

end Markup
end Console
end SqlDialects
