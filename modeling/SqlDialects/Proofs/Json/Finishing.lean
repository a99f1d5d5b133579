import SqlDialects.Json.Reader

/-!
# Reading comes to an end

The reader goes down into a text with a bound on its steps.  A step goes past a character, or stands
in front of one that does, so a bound beyond twice the length of the text is never reached: what is
read of a text, and what is wrong with a text that is not read, does not depend on the bound.

**Input.**  Any text, well formed or not, however deep it is nested and however long its numbers
are.

**View.**  `Json.Readers` are the readers of values, items and members, and `Json.Readers.nextValue`
and its like are one step of theirs.  `Json.readWithin` reads a whole text with a bound on the
steps.

**Invariant.**  `Json.LeavesLess` says that what follows a value is shorter than the text from the
first character of the value on.

**Results.**
* `Json.Readers.leaving_within`: so it is behind values, items and members.
* `Json.Readers.agree_within`: two bounds that are large enough agree.
* `Json.readWithin_eq_readChars`: every bound beyond twice the length gives what `Json.readChars`
  gives.
-/

namespace SqlDialects
namespace Json

/-! ## What is left is shorter -/

/-- Whatever is read leaves fewer characters than these. -/
def LeavesLess {α : Type} (n : Nat) (e : Except Fault (Read α)) : Prop :=
  ∀ r, e = .ok r → r.rest.length < n

namespace LeavesLess

variable {α β : Type} {n m : Nat} {e : Except Fault (Read α)}

theorem error (fault : Fault) :
    LeavesLess n (.error fault : Except Fault (Read α)) := by
  intro r h
  cases h

theorem ok
    {r : Read α}
    (h : r.rest.length < n) :
    LeavesLess n (.ok r) := by
  intro r' h'
  cases h'
  exact h

theorem mono
    (h : LeavesLess n e)
    (hle : n ≤ m) :
    LeavesLess m e :=
  fun r hr => Nat.lt_of_lt_of_le (h r hr) hle

/-- What is left does not depend on what is made of the value. -/
theorem map
    (h : LeavesLess n e)
    (hle : n ≤ m)
    {f : Read α → Read β}
    (hf : ∀ r, (f r).rest = r.rest) :
    LeavesLess m (e.map f) := by
  intro r hr
  cases e with
  | error fault =>
      cases hr
  | ok r' =>
      cases hr
      rw [hf]
      exact Nat.lt_of_lt_of_le (h r' rfl) hle

/-- What is read after another thing leaves less than there was behind that one. -/
theorem bind
    {f : Read α → Except Fault (Read β)}
    (h : LeavesLess n e)
    (hf : ∀ r, LeavesLess r.rest.length (f r)) :
    LeavesLess n (e.bind f) := by
  cases e with
  | error fault =>
      exact .error fault
  | ok r =>
      exact (hf r).mono (Nat.le_of_lt (h r rfl))

end LeavesLess

theorem length_skipBlanks_le
    (place : Nat)
    (cs : List Char) :
    (skipBlanks place cs).2.length ≤ cs.length := by
  induction cs generalizing place with
  | nil =>
      exact Nat.le_refl _
  | cons c cs ih =>
      rw [skipBlanks]
      split
      · exact Nat.le_succ_of_le (ih _)
      · exact Nat.le_refl _

theorem leavesLess_readString
    (start place : Nat)
    (cs : List Char) :
    LeavesLess cs.length (readString start place cs) := by
  fun_induction readString start place cs with
  | case2 place cs =>
      exact .ok (Nat.lt_succ_self _)
  | case6 place h₁ h₂ h₃ h₄ after cs hi hunit lo hpartner ih =>
      refine ih.map ?_ fun r => rfl
      simp only [List.length_drop, List.length_cons]
      omega
  | case7 place h₁ h₂ h₃ h₄ after cs hi hunit hpartner ih =>
      refine ih.map ?_ fun r => rfl
      simp only [List.length_cons]
      omega
  | case9 place e cs _ _ c hescape ih =>
      refine ih.map ?_ fun r => rfl
      simp only [List.length_cons]
      omega
  | case12 place c cs _ _ _ _ _ hvisible ih =>
      exact ih.map (Nat.le_succ _) fun r => rfl
  | _ =>
      exact .error _

/-! ## Numbers -/

theorem length_takeDigits (cs : List Char) :
    (takeDigits cs).1.length + (takeDigits cs).2.length = cs.length := by
  induction cs with
  | nil =>
      rfl
  | cons c cs ih =>
      rw [takeDigits]
      split
      · simp only [List.length_cons]
        omega
      · simp

theorem length_of_takeDigits
    {cs ds rest : List Char}
    (h : takeDigits cs = (ds, rest)) :
    ds.length + rest.length = cs.length := by
  have hlength := length_takeDigits cs
  rwa [h] at hlength

/-- The integer part of a number has a digit. -/
theorem length_of_takeWhole
    {cs ds rest : List Char}
    (h : takeWhole cs = some (ds, rest)) :
    rest.length < cs.length := by
  unfold takeWhole at h
  split at h
  · cases h
    exact Nat.lt_succ_self _
  · split at h
    · cases h
    · rename_i hnil hdigits
      cases h
      have hlength := length_of_takeDigits hdigits
      have hpos : 0 < ds.length := List.length_pos_iff.mpr hnil
      omega

theorem length_of_takeFraction
    {cs ds rest : List Char}
    (h : takeFraction cs = some (ds, rest)) :
    rest.length ≤ cs.length := by
  unfold takeFraction at h
  split at h
  · split at h
    · cases h
    · rename_i hdigits
      cases h
      have hlength := length_of_takeDigits hdigits
      simp only [List.length_cons]
      omega
  · cases h

theorem length_of_takeExponent
    {cs : List Char} {e : Exponent}
    (h : takeExponent cs = some e) :
    e.rest.length ≤ cs.length := by
  unfold takeExponent at h
  split at h
  · split at h
    · dsimp only at h
      split at h
      · cases h
      · rename_i hdigits
        cases h
        have hlength := length_of_takeDigits hdigits
        -- Whether or not a sign stands in front of the digits.
        split at hlength <;> simp only [List.length_cons] at hlength ⊢ <;> omega
    · cases h
  · cases h

theorem leavesLess_readInteger
    {n : Nat}
    (negative : Bool)
    (ds : List Char)
    (place : Nat)
    {rest : List Char}
    (h : rest.length < n) :
    LeavesLess n ((readInteger negative ds).map fun v => (⟨v, place, rest⟩ : Read Json)) := by
  intro r hr
  cases hread : readInteger negative ds with
  | error fault =>
      rw [hread] at hr
      cases hr
  | ok v =>
      rw [hread] at hr
      cases hr
      exact h

theorem leavesLess_readNumber
    (start : Nat)
    (negative : Bool)
    (place : Nat)
    (cs : List Char) :
    LeavesLess cs.length (readNumber start negative place cs) := by
  unfold readNumber
  split
  · exact .error _
  · rename_i whole rest hwhole
    have hlength := length_of_takeWhole hwhole
    cases hfraction : takeFraction rest with
    | none =>
        dsimp only
        split
        · rename_i hexponent
          exact .ok (Nat.lt_of_le_of_lt (length_of_takeExponent hexponent) hlength)
        · exact leavesLess_readInteger negative whole _ hlength
    | some fraction =>
        have hless := Nat.lt_of_le_of_lt (length_of_takeFraction hfraction) hlength
        dsimp only
        split
        · rename_i hexponent
          exact .ok (Nat.lt_of_le_of_lt (length_of_takeExponent hexponent) hless)
        · exact .ok hless

theorem leavesLess_readAtom
    (place : Nat)
    (cs : List Char) :
    LeavesLess cs.length (readAtom place cs) := by
  unfold readAtom
  split
  case h_7 =>
    exact (leavesLess_readNumber _ _ _ _).mono (Nat.le_succ _)
  case h_8 =>
    exact leavesLess_readNumber _ _ _ _
  all_goals
    refine .ok ?_
    simp only [List.length_cons]
    omega

/-! ## One step -/

/-- A reader of something that stands at a place. -/
abbrev Reader (α : Type) : Type :=
  (depth place : Nat) → List Char → Except Fault (Read α)

/-- Reads what follows the opening character of a container. -/
def behindOpening {α : Type} (c : Container) (close : Char) (make : List α → Json)
    (inner : Reader (List α)) : Reader Json
  | 0, _, _ => .error (.tooDeep c)
  | depth + 1, place, cs =>
    match skipBlanks place cs with
    | (p, []) => (inner depth p []).map fun v => ⟨make v.value, v.place, v.rest⟩
    | (p, x :: rest) =>
      if x = close then .ok ⟨make [], p + 1, rest⟩
      else (inner depth p (x :: rest)).map fun v => ⟨make v.value, v.place, v.rest⟩

/-- Reads what follows the first of several things in a container. -/
def behindFirst {α : Type} (close : Char) (inner : Reader (List α)) (depth : Nat) (first : α)
    (place : Nat) (cs : List Char) : Except Fault (Read (List α)) :=
  match skipBlanks place cs with
  | (p, []) => .error (.malformed .expectedComma p)
  | (p, x :: rest) =>
    if x = close then .ok ⟨[first], p + 1, rest⟩
    else if x = ',' then
      (inner depth (skipBlanks (p + 1) rest).1 (skipBlanks (p + 1) rest).2).map fun v =>
        ⟨first :: v.value, v.place, v.rest⟩
    else .error (.malformed .expectedComma p)

section Container

variable {α : Type} {c : Container} {close : Char} {make : List α → Json} {inner : Reader (List α)}
  {place p : Nat} {cs rest : List Char}

theorem behindOpening_of_close
    (depth : Nat)
    (h : skipBlanks place cs = (p, close :: rest)) :
    behindOpening c close make inner (depth + 1) place cs = .ok ⟨make [], p + 1, rest⟩ := by
  rw [behindOpening, h]
  exact if_pos rfl

theorem behindOpening_of_open
    (depth : Nat)
    (h : skipBlanks place cs = (p, rest))
    (hopen : ∀ rest', rest = close :: rest' → False) :
    behindOpening c close make inner (depth + 1) place cs =
      (inner depth p rest).map fun v => ⟨make v.value, v.place, v.rest⟩ := by
  rw [behindOpening, h]
  cases rest with
  | nil =>
      rfl
  | cons x rest =>
      exact if_neg fun hx => hopen rest (by rw [hx])

theorem behindFirst_of_close
    (depth : Nat)
    (first : α)
    (h : skipBlanks place cs = (p, close :: rest)) :
    behindFirst close inner depth first place cs = .ok ⟨[first], p + 1, rest⟩ := by
  rw [behindFirst, h]
  exact if_pos rfl

theorem behindFirst_of_comma
    (depth : Nat)
    (first : α)
    (h : skipBlanks place cs = (p, ',' :: rest))
    (hclose : ',' ≠ close) :
    behindFirst close inner depth first place cs =
      (inner depth (skipBlanks (p + 1) rest).1 (skipBlanks (p + 1) rest).2).map fun v =>
        ⟨first :: v.value, v.place, v.rest⟩ := by
  rw [behindFirst, h]
  exact (if_neg hclose).trans (if_pos rfl)

theorem behindFirst_of_open
    (depth : Nat)
    (first : α)
    (h : skipBlanks place cs = (p, rest))
    (hopen : ∀ rest', rest = close :: rest' → False)
    (hcomma : ∀ rest', rest = ',' :: rest' → False) :
    behindFirst close inner depth first place cs = .error (.malformed .expectedComma p) := by
  rw [behindFirst, h]
  cases rest with
  | nil =>
      rfl
  | cons x rest =>
      exact (if_neg fun hx => hopen rest (by rw [hx])).trans
        (if_neg fun hx => hcomma rest (by rw [hx]))

end Container

/-- Readers of what a text may hold. -/
structure Readers where
  value : Reader Json
  items : Reader (List Json)
  members : Reader (List (String × Json))

namespace Readers

/-- The readers with a bound on their steps. -/
def within (fuel : Nat) : Readers :=
  ⟨readValue fuel, readItems fuel, readMembers fuel⟩

variable (r : Readers)

/-- Reads a value, and what is in it by the readers. -/
def nextValue : Reader Json
  | _, place, '"' :: cs =>
    (readString place (place + 1) cs).map fun v => ⟨.text (String.ofList v.value), v.place, v.rest⟩
  | depth, place, '[' :: cs => behindOpening .array ']' .array r.items depth (place + 1) cs
  | depth, place, '\x7b' :: cs =>
    behindOpening .object '\x7d' (fun ms => .object (mergeMembers ms)) r.members depth
      (place + 1) cs
  | _, place, cs => readAtom place cs

/-- Reads what follows an item. -/
def afterItem (depth : Nat) (first : Read Json) : Except Fault (Read (List Json)) :=
  behindFirst ']' r.items depth first.value first.place first.rest

/-- Reads what follows the name of a member. -/
def afterName (depth : Nat) (name : Read (List Char)) :
    Except Fault (Read (List (String × Json))) :=
  match skipBlanks name.place name.rest with
  | (p, []) => .error (.malformed .expectedColon p)
  | (p, x :: rest) =>
    if x = ':' then
      (r.value depth (skipBlanks (p + 1) rest).1 (skipBlanks (p + 1) rest).2).bind fun v =>
        behindFirst '\x7d' r.members depth (String.ofList name.value, v.value) v.place v.rest
    else .error (.malformed .expectedColon p)

variable (fuel depth place : Nat)

theorem value_within_succ (cs : List Char) :
    (within (fuel + 1)).value depth place cs = (within fuel).nextValue depth place cs := by
  unfold nextValue within
  dsimp only
  -- the first character decides: a quote, a bracket, a brace, or something else
  split
  · rw [readValue]
  · cases depth with
    | zero =>
        rw [readValue]
        rfl
    | succ depth =>
        rw [readValue]
        split
        · rename_i hskip
          rw [behindOpening_of_close depth hskip]
        · rename_i hopen hskip
          rw [behindOpening_of_open depth hskip hopen]
  · cases depth with
    | zero =>
        rw [readValue]
        rfl
    | succ depth =>
        rw [readValue]
        split
        · rename_i hskip
          rw [behindOpening_of_close depth hskip]
          rfl
        · rename_i hopen hskip
          rw [behindOpening_of_open depth hskip hopen]
  · rw [readValue] <;> assumption

theorem items_within_succ (cs : List Char) :
    (within (fuel + 1)).items depth place cs =
      ((within fuel).value depth place cs).bind ((within fuel).afterItem depth) := by
  unfold afterItem within
  dsimp only
  rw [readItems]
  cases readValue fuel depth place cs with
  | error fault =>
      rfl
  | ok first =>
      dsimp only [Except.bind]
      split
      · rename_i hskip
        rw [behindFirst_of_close depth _ hskip]
      · rename_i hskip
        rw [behindFirst_of_comma depth _ hskip (by decide)]
      · rename_i hopen hcomma hskip
        rw [behindFirst_of_open depth _ hskip hopen hcomma]

theorem members_within_succ (cs : List Char) :
    (within (fuel + 1)).members depth place ('"' :: cs) =
      (readString place (place + 1) cs).bind ((within fuel).afterName depth) := by
  unfold within
  dsimp only
  rw [readMembers]
  cases readString place (place + 1) cs with
  | error fault =>
      rfl
  | ok name =>
      dsimp only [Except.bind]
      rw [afterName]
      split
      · rename_i p rest hskip
        rw [hskip]
        dsimp only
        rw [if_pos rfl]
        cases readValue fuel depth (skipBlanks (p + 1) rest).1 (skipBlanks (p + 1) rest).2 with
        | error fault =>
            rfl
        | ok v =>
            dsimp only [Except.bind]
            split
            · rename_i hskip
              rw [behindFirst_of_close depth _ hskip]
            · rename_i hskip
              rw [behindFirst_of_comma depth _ hskip (by decide)]
            · rename_i hopen hcomma hskip
              rw [behindFirst_of_open depth _ hskip hopen hcomma]
      · rename_i p rest hcolon hskip
        rw [hskip]
        cases rest with
        | nil =>
            rfl
        | cons x rest =>
            exact (if_neg fun hx => hcolon rest (by rw [hx])).symm

/-- Where no name opens there are no members. -/
theorem members_within_of_ne
    {cs : List Char}
    (h : ∀ cs', cs = '"' :: cs' → False) :
    (within fuel).members depth place cs = .error (.malformed .expectedName place) := by
  unfold within
  cases fuel with
  | zero =>
      dsimp only
      rw [readMembers]
  | succ fuel =>
      dsimp only
      rw [readMembers]
      exact h

/-! ## What the readers leave -/

/-- The readers leave less of a text than there was. -/
structure Leaving (r : Readers) : Prop where
  value : ∀ depth place cs, LeavesLess cs.length (r.value depth place cs)
  items : ∀ depth place cs, LeavesLess cs.length (r.items depth place cs)
  members : ∀ depth place cs, LeavesLess cs.length (r.members depth place cs)

end Readers

/-- What is read behind an opening character leaves less than there was with the character. -/
theorem leavesLess_behindOpening
    {α : Type} {inner : Reader (List α)}
    (h : ∀ depth place cs, LeavesLess cs.length (inner depth place cs))
    (c : Container)
    (close : Char)
    (make : List α → Json)
    (depth place : Nat)
    (cs : List Char) :
    LeavesLess (cs.length + 1) (behindOpening c close make inner depth place cs) := by
  unfold behindOpening
  split
  · exact .error _
  · have hle := length_skipBlanks_le place cs
    split
    · exact (h _ _ _).map (Nat.zero_le _) fun _ => rfl
    · rename_i hskip
      rw [hskip, List.length_cons] at hle
      split
      · exact .ok (Nat.lt_succ_of_le (Nat.le_of_lt hle))
      · exact (h _ _ _).map (by rw [List.length_cons]; omega) fun _ => rfl

theorem leavesLess_behindFirst
    {α : Type} {inner : Reader (List α)}
    (h : ∀ depth place cs, LeavesLess cs.length (inner depth place cs))
    (close : Char)
    (depth : Nat)
    (first : α)
    (place : Nat)
    (cs : List Char) :
    LeavesLess cs.length (behindFirst close inner depth first place cs) := by
  unfold behindFirst
  have hle := length_skipBlanks_le place cs
  split
  · exact .error _
  · rename_i p x rest hskip
    rw [hskip, List.length_cons] at hle
    split
    · exact .ok hle
    · split
      · have hafter := length_skipBlanks_le (p + 1) rest
        exact (h _ _ _).map (by omega) fun _ => rfl
      · exact .error _

namespace Readers

variable {r s : Readers}

theorem leavesLess_nextValue
    (h : r.Leaving)
    (depth place : Nat)
    (cs : List Char) :
    LeavesLess cs.length (r.nextValue depth place cs) := by
  unfold nextValue
  split
  · exact (leavesLess_readString _ _ _).map (Nat.le_succ _) fun _ => rfl
  · exact leavesLess_behindOpening h.items _ _ _ _ _ _
  · exact leavesLess_behindOpening h.members _ _ _ _ _ _
  · exact leavesLess_readAtom _ _

theorem leavesLess_afterName
    (h : r.Leaving)
    (depth : Nat)
    (name : Read (List Char)) :
    LeavesLess name.rest.length (r.afterName depth name) := by
  unfold afterName
  have hle := length_skipBlanks_le name.place name.rest
  split
  · exact .error _
  · rename_i p x rest hskip
    rw [hskip, List.length_cons] at hle
    have hafter := length_skipBlanks_le (p + 1) rest
    split
    · exact ((h.value _ _ _).mono (by omega)).bind fun v =>
        leavesLess_behindFirst h.members _ _ _ _ _
    · exact .error _

theorem leaving_within (fuel : Nat) :
    (within fuel).Leaving := by
  induction fuel with
  | zero =>
      constructor
      · intro depth place cs
        dsimp only [within]
        rw [readValue]
        exact .error _
      · intro depth place cs
        dsimp only [within]
        rw [readItems]
        exact .error _
      · intro depth place cs
        dsimp only [within]
        rw [readMembers]
        exact .error _
  | succ fuel ih =>
      constructor
      · intro depth place cs
        rw [value_within_succ]
        exact leavesLess_nextValue ih depth place cs
      · intro depth place cs
        rw [items_within_succ]
        exact (ih.value depth place cs).bind fun v => leavesLess_behindFirst ih.items _ _ _ _ _
      · intro depth place cs
        by_cases hname : ∃ cs', cs = '"' :: cs'
        · obtain ⟨cs, rfl⟩ := hname
          rw [members_within_succ]
          exact ((leavesLess_readString _ _ _).mono (Nat.le_succ _)).bind
            (leavesLess_afterName ih depth)
        · rw [members_within_of_ne _ _ _ fun cs' h => hname ⟨cs', h⟩]
          exact .error _

/-! ## Bounds that are large enough -/

/-- The readers agree wherever a bound on steps is large enough. -/
structure Agree (n : Nat) (r s : Readers) : Prop where
  value : ∀ depth place cs, 2 * cs.length + 1 ≤ n → r.value depth place cs = s.value depth place cs
  items : ∀ depth place cs, 2 * cs.length + 2 ≤ n → r.items depth place cs = s.items depth place cs
  members : ∀ depth place cs, 2 * cs.length + 2 ≤ n →
    r.members depth place cs = s.members depth place cs

end Readers

section Agreement

variable {α : Type} {n : Nat} {inner inner' : Reader (List α)}

theorem behindOpening_congr
    (h : ∀ depth place cs, 2 * cs.length + 2 ≤ n → inner depth place cs = inner' depth place cs)
    (c : Container)
    (close : Char)
    (make : List α → Json)
    (depth place : Nat)
    {cs : List Char}
    (hn : 2 * cs.length + 2 ≤ n) :
    behindOpening c close make inner depth place cs =
      behindOpening c close make inner' depth place cs := by
  cases depth with
  | zero =>
      rfl
  | succ depth =>
      have hle := length_skipBlanks_le place cs
      have hinner := h depth (skipBlanks place cs).1 (skipBlanks place cs).2 (by omega)
      rw [behindOpening, behindOpening]
      split
      · rename_i hskip
        rw [hskip] at hinner
        rw [hinner]
      · rename_i hskip
        rw [hskip] at hinner
        rw [hinner]

theorem behindFirst_congr
    (h : ∀ depth place cs, 2 * cs.length + 2 ≤ n → inner depth place cs = inner' depth place cs)
    (close : Char)
    (depth : Nat)
    (first : α)
    (place : Nat)
    {cs : List Char}
    (hn : 2 * cs.length ≤ n) :
    behindFirst close inner depth first place cs =
      behindFirst close inner' depth first place cs := by
  have hle := length_skipBlanks_le place cs
  unfold behindFirst
  split
  · rfl
  · rename_i p x rest hskip
    rw [hskip, List.length_cons] at hle
    have hafter := length_skipBlanks_le (p + 1) rest
    rw [h depth (skipBlanks (p + 1) rest).1 (skipBlanks (p + 1) rest).2 (by omega)]

end Agreement

namespace Readers

variable {r s : Readers} {n : Nat}

theorem nextValue_congr
    (h : Agree n r s)
    (depth place : Nat)
    {cs : List Char}
    (hn : 2 * cs.length ≤ n) :
    r.nextValue depth place cs = s.nextValue depth place cs := by
  unfold nextValue
  split
  · rfl
  · exact behindOpening_congr h.items _ _ _ _ _ hn
  · exact behindOpening_congr h.members _ _ _ _ _ hn
  · rfl

theorem afterName_congr
    (h : Agree n r s)
    (hr : r.Leaving)
    (depth : Nat)
    {name : Read (List Char)}
    (hn : 2 * name.rest.length ≤ n) :
    r.afterName depth name = s.afterName depth name := by
  unfold afterName
  have hle := length_skipBlanks_le name.place name.rest
  split
  · rfl
  · rename_i p x rest hskip
    rw [hskip, List.length_cons] at hle
    have hafter := length_skipBlanks_le (p + 1) rest
    rw [← h.value depth (skipBlanks (p + 1) rest).1 (skipBlanks (p + 1) rest).2 (by omega)]
    have hleaves := hr.value depth (skipBlanks (p + 1) rest).1 (skipBlanks (p + 1) rest).2
    cases hvalue : r.value depth (skipBlanks (p + 1) rest).1 (skipBlanks (p + 1) rest).2 with
    | error fault =>
        rfl
    | ok v =>
        have hless := hleaves v hvalue
        rw [Except.bind, Except.bind, behindFirst_congr h.members _ _ _ _ (by omega)]

/-- Two bounds agree wherever both are large enough. -/
theorem agree_within
    (n k l : Nat) :
    Agree n (within (n + k)) (within (n + l)) := by
  induction n with
  | zero =>
      constructor <;> (intros; omega)
  | succ n ih =>
      have hleaving := leaving_within (n + k)
      rw [Nat.add_right_comm n 1 k, Nat.add_right_comm n 1 l]
      constructor
      · intro depth place cs hn
        rw [value_within_succ, value_within_succ]
        exact nextValue_congr ih depth place (by omega)
      · intro depth place cs hn
        rw [items_within_succ, items_within_succ, ← ih.value depth place cs (by omega)]
        cases hfirst : (within (n + k)).value depth place cs with
        | error fault =>
            rfl
        | ok first =>
            have hless := hleaving.value depth place cs first hfirst
            exact behindFirst_congr ih.items _ _ _ _ (by omega)
      · intro depth place cs hn
        by_cases hname : ∃ cs', cs = '"' :: cs'
        · obtain ⟨cs, rfl⟩ := hname
          rw [members_within_succ, members_within_succ]
          cases hstring : readString place (place + 1) cs with
          | error fault =>
              rfl
          | ok name =>
              have hless := leavesLess_readString place (place + 1) cs name hstring
              rw [List.length_cons] at hn
              exact afterName_congr ih hleaving depth (by omega)
        · have hne : ∀ cs', cs = '"' :: cs' → False := fun cs' h => hname ⟨cs', h⟩
          rw [members_within_of_ne _ _ _ hne, members_within_of_ne _ _ _ hne]

end Readers

/-! ## Whole texts -/

/-- Reads a whole text with a bound on the steps. -/
def readWithin (fuel : Nat) (cs : List Char) : Except Fault Json :=
  match cs with
  | '\ufeff' :: _ => .error (.malformed .byteOrderMark 0)
  | _ =>
    match readValue fuel nestingLimit (skipBlanks 0 cs).1 (skipBlanks 0 cs).2 with
    | .error e => .error e
    | .ok r =>
      match skipBlanks r.place r.rest with
      | (_, []) => .ok r.value
      | (place, _) => .error (.malformed .extraData place)

/-- Every bound that is large enough for a text gives what is read of the text. -/
theorem readWithin_eq_readChars
    {fuel : Nat} {cs : List Char}
    (h : 2 * cs.length < fuel) :
    readWithin fuel cs = readChars cs := by
  have hle := length_skipBlanks_le 0 cs
  obtain ⟨k, hk⟩ : ∃ k, fuel = 2 * cs.length + 1 + k := ⟨_, (Nat.add_sub_cancel' h).symm⟩
  have hvalue := (Readers.agree_within (2 * cs.length + 1) k 1).value nestingLimit
    (skipBlanks 0 cs).1 (skipBlanks 0 cs).2 (by omega)
  dsimp only [Readers.within] at hvalue
  unfold readWithin
  rw [hk, hvalue]
  rfl

end Json
end SqlDialects
