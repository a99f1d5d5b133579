import Mathlib.Data.List.InsertIdx
import SqlDialects.Console.Styled
import SqlDialects.Proofs.Console.Escaping

/-!
# Escaped text is shown as it is

A text without backslashes and without shortcodes comes back from its escaped form, whatever brackets
it holds.  Only the control characters are missing that no console shows.

**Input.**  A text that is `Markup.Verbatim`, on its own or between a tag and the tag that closes it.

**View.**  The pieces of the escaped text are texts, and these are the text, cut up where it holds tags
(`Markup.piecesFrom_escapeTags`).  No piece gains a meaning by the cuts, since a part of such a text is
such a text (`Markup.Verbatim.of_infix`).

**Results.**
* `Markup.styled_chars`: styled text is the text of the markup, or the same report.
* `Markup.plain_escape`: the text of an escaped text is the text.
* `Markup.styled_escape_between`: between tags it is one part, in the style of the tag.
* `Markup.plain_of_untagged`: a text that holds no tag is its own markup.
-/

namespace SqlDialects
namespace Console
namespace Markup

/-! ## Styled text as text -/

theorem eraseIdx_of_close?
    {style : String} {stack stack' : List OpenTag} {t : OpenTag}
    (h : close? style stack = some (t, stack')) :
    stack' = stack.eraseIdx (stack.findIdx fun t => t.style = style) := by
  induction stack generalizing stack' with
  | nil =>
      cases h
  | cons u us ih =>
      rw [close?] at h
      by_cases hu : u.style = style
      · rw [if_pos hu] at h
        cases h
        simp [List.findIdx_cons, hu]
      · rw [if_neg hu, Option.map_eq_some_iff] at h
        obtain ⟨⟨c, rest⟩, hrest, hc⟩ := h
        cases hc
        simp [List.findIdx_cons, hu, ← ih hrest]

theorem eq_of_closed
    {t : OpenTag} {stack stack' : List OpenTag}
    (h : closed t stack = .ok stack') :
    stack' = stack := by
  unfold closed at h
  split at h
  · split at h
    · cases h
    · cases h
      rfl
  · cases h
    rfl

/-- A closing tag takes the tag away that it closes. -/
theorem eraseIdx_of_applyTag
    {openings : List Opening} {place : Nat} {content name : List Char} {stack : List OpenTag}
    (hname : tagName content = '/' :: name)
    (h : applyTag (openings.map Opening.tag) place content = .ok stack) :
    stack = (openings.eraseIdx (closingIndex openings name)).map Opening.tag := by
  rw [closingIndex, ← List.eraseIdx_map]
  rcases htrim : Text.trim Text.isSpace name with _ | ⟨c, cs⟩
  · simp only [applyTag, hname, htrim] at h
    cases openings with
    | nil => cases h
    | cons o openings => exact eq_of_closed h
  · simp only [applyTag, hname, htrim] at h
    rcases hclose : close? (Style.normal (c :: cs)) (openings.map Opening.tag) with _ | ⟨t, ts⟩
    · rw [hclose] at h
      cases h
    · rw [hclose] at h
      rw [eq_of_closed h, eraseIdx_of_close? hclose, List.findIdx_map]
      rfl

/-- A name closes the last open tag if that has its style. -/
theorem closingIndex_of_last
    {o : Opening} {name : List Char}
    (hname : name ≠ [])
    (htrim : Text.trim Text.isSpace name = name)
    (hstyle : o.tag.style = Style.normal name)
    (openings : List Opening) :
    closingIndex (o :: openings) name = 0 := by
  rw [closingIndex, htrim]
  cases name with
  | nil => exact absurd rfl hname
  | cons c cs => simp [List.findIdx_cons, hstyle]

/-- The tags that are open do not depend on where they stand. -/
theorem applyTagAt_tags
    (openings : List Opening)
    (length place : Nat)
    (content : List Char) :
    (applyTagAt openings length place content).map (fun r => r.1.map Opening.tag) =
      applyTag (openings.map Opening.tag) place content := by
  unfold applyTagAt
  rcases h : applyTag (openings.map Opening.tag) place content with e | stack
  · rfl
  · dsimp only
    split
    · rename_i name hname
      rw [eraseIdx_of_applyTag hname h]
      rfl
    · rename_i hopens
      unfold applyTag at h
      split at h
      · rename_i name hname
        exact absurd hname (hopens name)
      · cases h
        rfl

theorem styledOf_chars
    (openings : List Opening)
    (length : Nat)
    (ps : List Piece) :
    (styledOf openings length ps).map Prod.fst = textOf (openings.map Opening.tag) ps := by
  induction ps generalizing openings length with
  | nil =>
      rfl
  | cons p ps ih =>
      cases p with
      | text cs =>
          rw [styledOf, textOf, ← ih openings (length + (pieceText cs).length)]
          cases styledOf openings (length + (pieceText cs).length) ps <;> rfl
      | tag place content =>
          rw [styledOf, textOf, ← applyTagAt_tags openings length place content]
          rcases applyTagAt openings length place content with e | ⟨openings', ended⟩
          · rfl
          · have hrest := ih openings' length
            simp only [Except.map] at hrest ⊢
            rw [← hrest]
            cases styledOf openings' length ps <;> rfl

/-- Styled text is the text of the markup. -/
theorem styled_chars (markup : List Char) :
    (styled markup).map Styled.chars = plain markup := by
  have h := styledOf_chars [] 0 (pieces markup)
  rw [plain, styled]
  rw [List.map_nil] at h
  rw [← h]
  cases styledOf [] 0 (pieces markup) <;> rfl

/-! ## Text that is shown as it is -/

/-- A text as a console shows it: control characters are left out. -/
def shown (cs : List Char) : List Char :=
  cs.filter fun c => !isDropped c

/-- A text begins with what may be a name, up to a colon. -/
def BeginsName (cs : List Char) : Prop :=
  ∃ name rest, cs = name ++ ':' :: rest ∧ name ≠ [] ∧ ∀ c ∈ name, c ≠ ':' ∧ Text.isSpace c = false

/-- A text holds two colons with characters between them none of which is a blank. -/
def HoldsShortcode (cs : List Char) : Prop :=
  ∃ before after, cs = before ++ ':' :: after ∧ BeginsName after

/-- A text without backslashes and shortcodes. -/
structure Verbatim (cs : List Char) : Prop where
  backslash : '\\' ∉ cs
  shortcode : ¬ HoldsShortcode cs

theorem not_holdsShortcode_nil :
    ¬ HoldsShortcode [] := by
  rintro ⟨before, after, heq, -⟩
  simp at heq

theorem verbatim_nil :
    Verbatim [] :=
  ⟨List.not_mem_nil, not_holdsShortcode_nil⟩

theorem holdsShortcode_cons
    (c : Char)
    (cs : List Char) :
    HoldsShortcode (c :: cs) ↔ (c = ':' ∧ BeginsName cs) ∨ HoldsShortcode cs := by
  constructor
  · rintro ⟨before, after, heq, hname⟩
    cases before with
    | nil =>
        obtain ⟨rfl, rfl⟩ := List.cons.inj heq
        exact .inl ⟨rfl, hname⟩
    | cons b before =>
        obtain ⟨-, rfl⟩ := List.cons.inj heq
        exact .inr ⟨before, after, rfl, hname⟩
  · rintro (⟨rfl, hname⟩ | ⟨before, after, rfl, hname⟩)
    · exact ⟨[], cs, rfl, hname⟩
    · exact ⟨c :: before, after, rfl, hname⟩

theorem HoldsShortcode.of_infix
    {cs ds : List Char}
    (h : HoldsShortcode cs)
    (hpart : cs <:+: ds) :
    HoldsShortcode ds := by
  obtain ⟨before, after, rfl, name, rest, rfl, hname⟩ := h
  obtain ⟨front, back, rfl⟩ := hpart
  exact ⟨front ++ before, name ++ ':' :: (rest ++ back), by simp, name, rest ++ back, rfl, hname⟩

theorem Verbatim.of_infix
    {cs ds : List Char}
    (h : Verbatim ds)
    (hpart : cs <:+: ds) :
    Verbatim cs :=
  ⟨fun hc => h.backslash (hpart.subset hc), fun hc => h.shortcode (hc.of_infix hpart)⟩

/-- Letters in front, a colon and a blank begin no shortcode. -/
theorem Verbatim.append_of_letters
    {cs : List Char}
    (h : Verbatim cs)
    {letters : List Char}
    (hletters : ∀ c ∈ letters, c ≠ '\\' ∧ c ≠ ':') :
    Verbatim (letters ++ cs) := by
  induction letters with
  | nil =>
      exact h
  | cons c letters ih =>
      have hc := hletters c (by simp)
      have hrest := ih fun d hd => hletters d (by simp [hd])
      refine ⟨?_, ?_⟩
      · simpa [hc.1.symm] using hrest.backslash
      · rw [List.cons_append, holdsShortcode_cons]
        rintro (⟨hcolon, -⟩ | hmore)
        · exact hc.2 hcolon
        · exact hrest.shortcode hmore

theorem Verbatim.colon_blank
    {cs : List Char}
    (h : Verbatim cs) :
    Verbatim (':' :: ' ' :: cs) := by
  refine ⟨by simpa using h.backslash, ?_⟩
  simp only [holdsShortcode_cons]
  rintro (⟨-, name, rest, heq, hne, hname⟩ | ⟨hblank, -⟩ | hmore)
  · obtain ⟨c, name, rfl⟩ := List.exists_cons_of_ne_nil hne
    obtain ⟨rfl, -⟩ := List.cons.inj heq
    exact absurd (hname ' ' (by simp)).2 (by decide)
  · exact absurd hblank (by decide)
  · exact h.shortcode hmore

theorem dropEscapes_of_no_backslash
    {cs : List Char}
    (h : '\\' ∉ cs) :
    dropEscapes cs = cs := by
  induction cs with
  | nil =>
      rfl
  | cons c cs ih =>
      rw [List.mem_cons, not_or] at h
      rw [dropEscapes, ih h.2]
      rintro ds rfl
      exact absurd rfl h.1

theorem eq_of_emojiName?
    {cs name rest : List Char}
    (h : emojiName? cs = some (name, rest)) :
    cs = name ++ ':' :: rest ∧ ∀ c ∈ name, c ≠ ':' ∧ Text.isSpace c = false := by
  induction cs generalizing name with
  | nil =>
      cases h
  | cons c cs ih =>
      by_cases hcolon : c = ':'
      · subst hcolon
        cases h
        simp
      · rw [emojiName?] at h
        · split at h
          · cases h
          · rename_i hblank
            rw [Option.map_eq_some_iff] at h
            obtain ⟨⟨name', rest'⟩, hname, heq⟩ := h
            cases heq
            obtain ⟨rfl, hchars⟩ := ih hname
            refine ⟨rfl, fun d hd => ?_⟩
            rcases List.mem_cons.mp hd with rfl | hd
            · exact ⟨hcolon, by simpa using hblank⟩
            · exact hchars d hd
        · exact hcolon

theorem emojiName?_append
    {name : List Char}
    (h : ∀ c ∈ name, c ≠ ':' ∧ Text.isSpace c = false)
    (rest : List Char) :
    emojiName? (name ++ ':' :: rest) = some (name, rest) := by
  induction name with
  | nil =>
      rfl
  | cons c name ih =>
      obtain ⟨hc, hname⟩ := List.forall_mem_cons.mp h
      rw [List.cons_append, emojiName?, hc.2, ih hname]
      · rfl
      · exact hc.1

theorem beginsName_iff (cs : List Char) :
    BeginsName cs ↔ ∃ r ∈ emojiName? cs, r.1 ≠ [] := by
  constructor
  · rintro ⟨name, rest, rfl, hne, hchars⟩
    exact ⟨(name, rest), emojiName?_append hchars rest, hne⟩
  · rintro ⟨⟨name, rest⟩, hname, hne⟩
    obtain ⟨rfl, hchars⟩ := eq_of_emojiName? hname
    exact ⟨name, rest, rfl, hne, hchars⟩

instance decidableBeginsName : DecidablePred BeginsName :=
  fun cs => decidable_of_iff _ (beginsName_iff cs).symm

instance decidableHoldsShortcode : DecidablePred HoldsShortcode
  | [] => .isFalse not_holdsShortcode_nil
  | c :: cs =>
    have := decidableHoldsShortcode cs
    decidable_of_iff _ (holdsShortcode_cons c cs).symm

instance decidableVerbatim : DecidablePred Verbatim :=
  fun cs => decidable_of_iff ('\\' ∉ cs ∧ ¬ HoldsShortcode cs)
    ⟨fun h => ⟨h.1, h.2⟩, fun h => ⟨h.backslash, h.shortcode⟩⟩

/-- A name that no picture has is left with its colons. -/
theorem replaceEmoji_of_unnamed
    (fuel : Nat)
    {cs name rest : List Char}
    (hname : emojiName? cs = some (name, rest))
    (hnone : emojiWithForm? name = none) :
    replaceEmoji (fuel + 1) (':' :: cs) = ':' :: (name ++ ':' :: replaceEmoji fuel rest) := by
  rw [replaceEmoji, hname]
  dsimp only
  rw [hnone]
  rfl

/-- No picture goes without a name. -/
theorem emojiWithForm?_nil :
    emojiWithForm? [] = none := by
  decide +kernel

/-- Without a shortcode no name is replaced; two colons side by side are no name of a picture. -/
theorem replaceEmoji_of_no_shortcode
    (fuel : Nat)
    {cs : List Char}
    (h : ¬ HoldsShortcode cs) :
    replaceEmoji fuel cs = cs := by
  induction fuel generalizing cs with
  | zero =>
      rfl
  | succ fuel ih =>
      cases cs with
      | nil =>
          rfl
      | cons c cs =>
          rw [holdsShortcode_cons, not_or, not_and] at h
          obtain ⟨hname, hrest⟩ := h
          by_cases hcolon : c = ':'
          · subst hcolon
            rcases hnamed : emojiName? cs with _ | ⟨name, rest⟩
            · rw [replaceEmoji, hnamed, ih hrest]
            · obtain ⟨rfl, hchars⟩ := eq_of_emojiName? hnamed
              obtain rfl : name = [] := by
                by_contra hne
                exact hname rfl ⟨name, rest, rfl, hne, hchars⟩
              rw [List.nil_append, holdsShortcode_cons, not_or] at hrest
              rw [replaceEmoji_of_unnamed fuel hnamed emojiWithForm?_nil, ih hrest.2]
          · rw [replaceEmoji, ih hrest]
            exact fun heq => hcolon heq

theorem pieceText_of_verbatim
    {cs : List Char}
    (h : Verbatim cs) :
    pieceText cs = shown cs := by
  unfold pieceText
  simp only [dropEscapes_of_no_backslash h.backslash, replaceEmoji_of_no_shortcode _ h.shortcode]
  rfl

/-! ## Pieces of an escaped text -/

theorem flatten_textsBefore
    (pending : List Char)
    {backslashes : Nat}
    (h : backslashes < 2) :
    (textsBefore pending backslashes).flatten = pending.reverse := by
  rw [textsBefore, if_pos h, List.append_nil]
  split
  · simp_all
  · simp

theorem piecesFrom_nil
    (fuel place : Nat)
    (pending : List Char) :
    piecesFrom (fuel + 1) place pending [] = (textsBefore pending 0).map .text := by
  rw [piecesFrom, textsBefore, if_pos Nat.zero_lt_two, List.append_nil]
  split <;> rfl

/-- A tag that is not escaped. -/
theorem piecesFrom_tag
    {tag : List Char}
    (htag : IsTag tag)
    (fuel place : Nat)
    (pending rest : List Char) :
    piecesFrom (fuel + 1) place pending (bracketed tag ++ rest) =
      (textsBefore pending 0).map .text ++
        .tag place tag :: piecesFrom fuel (place + tag.length + 2) [] rest :=
  piecesFrom_of_match? (match?_replicate 0 htag rest) fuel place pending

/-- A tag that is escaped by a single backslash. -/
theorem piecesFrom_escaped
    {tag : List Char}
    (htag : IsTag tag)
    (fuel place : Nat)
    (pending rest : List Char) :
    piecesFrom (fuel + 1) place pending (List.replicate 1 '\\' ++ (bracketed tag ++ rest)) =
      (textsBefore pending 1).map .text ++
        .text (bracketed tag) :: piecesFrom fuel (place + 1 + tag.length + 2) [] rest :=
  piecesFrom_of_match? (match?_replicate 1 htag rest) fuel place pending

/-- A text without backslashes has none before a tag. -/
theorem backslashes_of_match?
    {cs : List Char} {m : Match}
    (hm : match? cs = some m)
    (h : '\\' ∉ cs) :
    m.backslashes = 0 := by
  by_contra hne
  refine h ?_
  rw [(eq_of_match? hm).2]
  exact List.mem_append_left _ (List.mem_replicate.mpr ⟨hne, rfl⟩)

theorem match?_escapeTags_of_no_backslash
    {tail : List Char}
    (htail : Opens tail)
    {limit : Nat} {c : Char} {cs : List Char}
    (hlimit : (c :: cs).length < limit)
    (hbackslash : '\\' ∉ c :: cs)
    (h : match? (c :: cs) = none) :
    match? (escapeTags limit (c :: cs) ++ tail) = none := by
  rcases match?_escapeTags htail 0 hlimit h with hnone | ⟨k, hk⟩
  · exact hnone
  · obtain ⟨limit, rfl⟩ : ∃ l, limit = l + 1 := ⟨limit - 1, by omega⟩
    rw [escapeTags, h] at hk
    cases k with
    | zero =>
        have hlength := congrArg List.length hk
        simp only [List.replicate_zero, List.nil_append, List.cons_append, List.length_cons,
          List.length_append] at hlength
        omega
    | succ k =>
        exact absurd (by simp [(List.cons.inj hk).1]) hbackslash

/-- Reading an escaped text in front of a tail gives the text, in parts, and comes to the tail. -/
theorem piecesFrom_escapeTags
    {tail : List Char}
    (htail : Opens tail)
    {limit fuel : Nat} {cs : List Char}
    (hlimit : cs.length < limit)
    (hfuel : (escapeTags limit cs ++ tail).length < fuel)
    (hbackslash : '\\' ∉ cs)
    (place : Nat)
    (pending : List Char) :
    ∃ (texts : List (List Char)) (fuel' place' : Nat) (pending' : List Char),
      tail.length < fuel' ∧
      texts.flatten ++ pending'.reverse = pending.reverse ++ cs ∧
      piecesFrom fuel place pending (escapeTags limit cs ++ tail) =
        texts.map .text ++ piecesFrom fuel' place' pending' tail := by
  induction limit generalizing fuel cs place pending with
  | zero =>
      omega
  | succ limit ih =>
      cases cs with
      | nil =>
          exact ⟨[], fuel, place, pending, hfuel, by simp, rfl⟩
      | cons c cs =>
          obtain ⟨fuel, rfl⟩ : ∃ f, fuel = f + 1 := ⟨fuel - 1, by omega⟩
          rcases hm : match? (c :: cs) with _ | m
          · -- a character of text waits for the next tag
            have hnone := match?_escapeTags_of_no_backslash htail hlimit hbackslash hm
            rw [escapeTags, hm] at hfuel hnone ⊢
            have hlength : cs.length < limit := by simpa using hlimit
            have hroom : (escapeTags limit cs ++ tail).length < fuel := by simpa using hfuel
            obtain ⟨texts, fuel', place', pending', hfuel', htexts, hpieces⟩ :=
              ih hlength hroom (fun h => hbackslash (List.mem_cons_of_mem c h)) (place + 1)
                (c :: pending)
            refine ⟨texts, fuel', place', pending', hfuel', by simpa using htexts, ?_⟩
            rw [List.cons_append, piecesFrom]
            rw [List.cons_append] at hnone
            rw [hnone]
            exact hpieces
          · -- a tag gets a backslash and is a text of its own
            obtain ⟨htag, heq⟩ := eq_of_match? hm
            have hzero := backslashes_of_match? hm hbackslash
            have hlength : m.rest.length < limit := by
              have hshorter := length_rest_lt hm
              omega
            rw [hzero, List.replicate_zero, List.nil_append] at heq
            have hrest : '\\' ∉ m.rest := by
              rw [heq] at hbackslash
              exact fun h => hbackslash (List.mem_append_right _ h)
            have hescaped : escapeTags (limit + 1) (c :: cs) ++ tail =
                List.replicate 1 '\\' ++ (bracketed m.tag ++ (escapeTags limit m.rest ++ tail)) := by
              rw [escapeTags, hm]
              simp only [hzero, List.append_assoc]
            rw [hescaped] at hfuel ⊢
            have hroom : (escapeTags limit m.rest ++ tail).length < fuel := by
              simp only [List.length_append, List.length_replicate] at hfuel ⊢
              omega
            obtain ⟨texts, fuel', place', pending', hfuel', htexts, hpieces⟩ :=
              ih hlength hroom hrest (place + 1 + m.tag.length + 2) []
            refine ⟨textsBefore pending 1 ++ bracketed m.tag :: texts, fuel', place', pending',
              hfuel', ?_, ?_⟩
            · rw [List.flatten_append, List.flatten_cons, flatten_textsBefore pending (by decide),
                List.append_assoc, List.append_assoc, htexts, heq]
              rfl
            · rw [piecesFrom_escaped htag, hpieces]
              simp only [List.map_append, List.map_cons, List.append_assoc, List.cons_append]

/-! ## Escaped text as it is written -/

theorem getLast?_escapeTags
    {limit : Nat} {cs : List Char}
    (h : '\\' ∉ cs) :
    (escapeTags limit cs).getLast? ≠ some '\\' := by
  induction limit generalizing cs with
  | zero =>
      exact fun hlast => h (List.mem_of_getLast? hlast)
  | succ limit ih =>
      cases cs with
      | nil =>
          simp [escapeTags]
      | cons c cs =>
          rw [escapeTags]
          rcases hm : match? (c :: cs) with _ | m
          · have hlast := ih fun hmem => h (List.mem_cons_of_mem c hmem)
            rw [List.mem_cons, not_or] at h
            simp only [List.getLast?_cons]
            cases hrest : (escapeTags limit cs).getLast? with
            | none => simpa using Ne.symm h.1
            | some d => simpa [hrest] using hlast
          · have hrest : '\\' ∉ m.rest := by
              rw [(eq_of_match? hm).2] at h
              exact fun hmem => h (List.mem_append_right _ (List.mem_append_right _ hmem))
            have hlast := ih hrest
            have hbracket : (bracketed m.tag).getLast? = some ']' := List.getLast?_concat
            simp only [List.getLast?_append, hbracket]
            cases hend : (escapeTags limit m.rest).getLast? with
            | none => simp
            | some d => simpa [hend] using hlast

/-- Without backslashes nothing is doubled at the end. -/
theorem escape_of_no_backslash
    {cs : List Char}
    (h : '\\' ∉ cs) :
    escape cs = escapeTags (cs.length + 1) cs := by
  have hlast : (escapeTags (cs.length + 1) cs).getLast? ≠ some '\\' := getLast?_escapeTags h
  rw [escape]
  split
  · rfl
  · rename_i hreverse
    rw [List.getLast?_eq_head?_reverse, hreverse] at hlast
    exact absurd rfl hlast
  · rfl

/-- Letters before a text are not changed. -/
theorem escape_append_of_letters
    {letters cs : List Char}
    (hletters : ∀ c ∈ letters, c ≠ '\\' ∧ c ≠ '[')
    (h : '\\' ∉ cs) :
    escape (letters ++ cs) = letters ++ escape cs := by
  have hall : '\\' ∉ letters ++ cs := by
    rw [List.mem_append, not_or]
    exact ⟨fun hmem => (hletters _ hmem).1 rfl, h⟩
  rw [escape_of_no_backslash hall, escape_of_no_backslash h]
  clear hall
  induction letters with
  | nil =>
      rfl
  | cons c letters ih =>
      have hc := hletters c (by simp)
      have hrest := ih fun d hd => hletters d (by simp [hd])
      rw [List.cons_append, List.length_cons, escapeTags, match?_of_other hc.1 hc.2]
      dsimp only
      rw [hrest, List.cons_append]

/-- A text holds a tag. -/
def HoldsTag (cs : List Char) : Prop :=
  ∃ tag, IsTag tag ∧ bracketed tag <:+: cs

theorem holdsTag_cons
    (c : Char)
    (cs : List Char) :
    HoldsTag (c :: cs) ↔ (tagAt? (c :: cs)).isSome = true ∨ HoldsTag cs := by
  constructor
  · rintro ⟨tag, htag, hpart⟩
    rcases List.infix_cons_iff.mp hpart with ⟨rest, hrest⟩ | hmore
    · refine .inl ?_
      rw [← hrest, tagAt?_bracketed htag]
      rfl
    · exact .inr ⟨tag, htag, hmore⟩
  · rintro (hfront | ⟨tag, htag, hpart⟩)
    · obtain ⟨⟨tag, rest⟩, hat⟩ := Option.isSome_iff_exists.mp hfront
      obtain ⟨htag, heq⟩ := eq_of_tagAt? hat
      exact ⟨tag, htag, List.IsPrefix.isInfix ⟨rest, heq.symm⟩⟩
    · exact ⟨tag, htag, hpart.trans (List.suffix_cons c cs).isInfix⟩

theorem not_holdsTag_nil :
    ¬ HoldsTag [] := by
  rintro ⟨tag, -, hpart⟩
  simp [bracketed] at hpart

instance decidableHoldsTag : DecidablePred HoldsTag
  | [] => .isFalse not_holdsTag_nil
  | c :: cs =>
    have := decidableHoldsTag cs
    decidable_of_iff _ (holdsTag_cons c cs).symm

theorem escapeTags_of_no_tag
    (limit : Nat)
    {cs : List Char}
    (h : ¬ HoldsTag cs) :
    escapeTags limit cs = cs := by
  induction limit generalizing cs with
  | zero =>
      rfl
  | succ limit ih =>
      cases cs with
      | nil =>
          rfl
      | cons c cs =>
          rw [escapeTags]
          rcases hm : match? (c :: cs) with _ | m
          · dsimp only
            rw [ih fun hmore => h ((holdsTag_cons c cs).mpr (.inr hmore))]
          · obtain ⟨htag, heq⟩ := eq_of_match? hm
            refine absurd ⟨m.tag, htag, ?_⟩ h
            rw [heq]
            exact ⟨List.replicate m.backslashes '\\', m.rest, by rw [List.append_assoc]⟩

/-- A text without tags and backslashes is its own escaped form. -/
theorem escape_of_no_tag
    {cs : List Char}
    (hbackslash : '\\' ∉ cs)
    (htag : ¬ HoldsTag cs) :
    escape cs = cs := by
  rw [escape_of_no_backslash hbackslash, escapeTags_of_no_tag _ htag]

/-! ## Texts of an escaped text -/

theorem styledOf_texts
    (openings : List Opening)
    (length : Nat)
    (texts : List (List Char))
    (ps : List Piece) :
    styledOf openings length (texts.map .text ++ ps) =
      (styledOf openings (length + (texts.flatMap pieceText).length) ps).map fun r =>
        (texts.flatMap pieceText ++ r.1, r.2) := by
  induction texts generalizing length with
  | nil =>
      simp only [List.map_nil, List.flatMap_nil, List.nil_append, List.length_nil, Nat.add_zero]
      cases styledOf openings length ps <;> rfl
  | cons cs texts ih =>
      rw [List.map_cons, List.cons_append, styledOf, ih, List.flatMap_cons, List.length_append,
        Nat.add_assoc]
      cases styledOf openings (length + ((pieceText cs).length + (texts.flatMap pieceText).length)) ps
      · rfl
      · simp only [Except.map, List.append_assoc]

/-- The texts of the parts of a text that is shown as it is. -/
theorem flatMap_pieceText
    {texts : List (List Char)}
    (h : Verbatim texts.flatten) :
    texts.flatMap pieceText = shown texts.flatten := by
  have hparts : ∀ cs ∈ texts, pieceText cs = shown cs := fun cs hcs =>
    pieceText_of_verbatim (h.of_infix (List.infix_of_mem_flatten hcs))
  rw [shown, List.filter_flatten, List.flatMap_def, List.map_congr_left hparts]
  rfl

/-- The pieces of an escaped text are texts. -/
theorem pieces_escape
    {cs : List Char}
    (h : '\\' ∉ cs) :
    ∃ texts : List (List Char), texts.flatten = cs ∧ pieces (escape cs) = texts.map .text := by
  rw [escape_of_no_backslash h, pieces]
  have hnothing : Opens [] := .inl rfl
  obtain ⟨texts, fuel, place, pending, hfuel, htexts, hpieces⟩ := piecesFrom_escapeTags hnothing
    (Nat.lt_succ_self cs.length) (Nat.lt_succ_self _) h 0 []
  obtain ⟨fuel, rfl⟩ : ∃ f, fuel = f + 1 := ⟨fuel - 1, by simp at hfuel; omega⟩
  rw [List.append_nil, piecesFrom_nil, ← List.map_append] at hpieces
  refine ⟨_, ?_, hpieces⟩
  rw [List.flatten_append, flatten_textsBefore pending (by decide), htexts]
  rfl

/-- Between two tags they are texts between the tags. -/
theorem pieces_escape_between
    {tag closing : List Char}
    (htag : IsTag tag)
    (hclosing : IsTag closing)
    {cs : List Char}
    (h : '\\' ∉ cs) :
    ∃ (texts : List (List Char)) (place : Nat), texts.flatten = cs ∧
      pieces (bracketed tag ++ (escape cs ++ bracketed closing)) =
        .tag 0 tag :: (texts.map .text ++ [.tag place closing]) := by
  rw [escape_of_no_backslash h, pieces, piecesFrom_tag htag]
  have hopens : Opens (bracketed closing) := .inr ⟨_, rfl⟩
  have hroom : (escapeTags (cs.length + 1) cs ++ bracketed closing).length <
      (bracketed tag ++ (escapeTags (cs.length + 1) cs ++ bracketed closing)).length := by
    simp only [bracketed, List.length_append, List.length_cons]
    omega
  obtain ⟨texts, fuel, place, pending, hfuel, htexts, hpieces⟩ := piecesFrom_escapeTags hopens
    (Nat.lt_succ_self cs.length) hroom h (0 + tag.length + 2) []
  obtain ⟨fuel, rfl⟩ : ∃ f, fuel = f + 2 := ⟨fuel - 2, by simp [bracketed] at hfuel; omega⟩
  have hend := piecesFrom_tag hclosing (fuel + 1) place pending []
  rw [List.append_nil, piecesFrom_nil] at hend
  rw [hend, ← List.append_assoc (texts.map Piece.text), ← List.map_append] at hpieces
  rw [hpieces]
  refine ⟨_, place, ?_, rfl⟩
  rw [List.flatten_append, flatten_textsBefore pending (by decide), htexts]
  rfl

/-- An escaped text is shown as the text. -/
theorem plain_escape
    {cs : List Char}
    (h : Verbatim cs) :
    plain (escape cs) = .ok (shown cs) := by
  obtain ⟨texts, rfl, hpieces⟩ := pieces_escape h.backslash
  have htexts := styledOf_texts [] 0 texts []
  rw [List.append_nil, ← hpieces, flatMap_pieceText h] at htexts
  rw [← styled_chars, styled, htexts]
  simp [styledOf, Except.map]

/-- A text without tags is its own markup. -/
theorem plain_of_untagged
    {cs : List Char}
    (h : Verbatim cs)
    (htag : ¬ HoldsTag cs) :
    plain cs = .ok (shown cs) := by
  have hplain := plain_escape h
  rwa [escape_of_no_tag h.backslash htag] at hplain

/-- An escaped text between a tag and the tag that closes it is shown as the text, and that is one part,
which the tag styles. -/
theorem styled_escape_between
    {tag closing : List Char} {t : OpenTag}
    (htag : IsTag tag)
    (hclosing : IsTag closing)
    (hopens : ∀ length place, applyTagAt [] length place tag = .ok ([⟨length, t⟩], none))
    (hcloses : ∀ start length place, applyTagAt [⟨start, t⟩] length place closing =
      .ok ([], some ⟨start, length, t⟩))
    {cs : List Char}
    (h : Verbatim cs) :
    styled (bracketed tag ++ (escape cs ++ bracketed closing)) =
      .ok ⟨shown cs, [⟨0, (shown cs).length, t⟩]⟩ := by
  obtain ⟨texts, place, rfl, hpieces⟩ := pieces_escape_between htag hclosing h.backslash
  rw [styled, hpieces, styledOf, hopens]
  dsimp only
  rw [styledOf_texts, flatMap_pieceText h, styledOf, hcloses]
  simp [styledOf, Except.map]

end Markup
end Console
end SqlDialects
