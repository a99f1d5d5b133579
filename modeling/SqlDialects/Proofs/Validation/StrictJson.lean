import SqlDialects.Proofs.Json.RoundTrip
import SqlDialects.Validation.StrictJson

/-!
# Compact texts that the strict reader takes

A value without doubles and without long integers, written compactly, is read by the strict reader
as its normal form, just as by the reader of interchange texts.

**Invariant.**  `StrictJson.ReadsBack` says of a value that it is read wherever it stands, and that
what follows it is left.  A step of the reader uses up a third of a character at least, so fuel
three times the length of the text is enough.

**Results.**
* `StrictJson.number_natChars` and `StrictJson.number_of_long`: an integer of at most 4300
  characters is read back, and a longer one is refused.
* `StrictJson.readsBack_of_fits`: the invariant holds of every value that fits, by induction on how
  it is built.
* `StrictJson.read_render`: a whole text is read as the normal form of the value it was written from.
-/

namespace SqlDialects
namespace Validation
namespace StrictJson

open Json (chars itemChars memberChars stringChars charEscape compact normal normalItems
  normalMembers mergeMembers endsNumber startsValue)

/-- A value of at most `depth` nested containers that holds no double, and no integer with more
digits than are read. -/
inductive Fits : (depth : Nat) → Json → Prop where
  | null (depth : Nat) : Fits depth .null
  | bool (depth : Nat) (b : Bool) : Fits depth (.bool b)
  | int (depth : Nat) (i : Int) (h : (Decimal.natChars i.natAbs).length ≤ wholeLimit) :
      Fits depth (.int i)
  | text (depth : Nat) (s : String) : Fits depth (.text s)
  | array (depth : Nat) (items : List Json) (h : ∀ v ∈ items, Fits depth v) :
      Fits (depth + 1) (.array items)
  | object (depth : Nat) (members : List (String × Json)) (h : ∀ m ∈ members, Fits depth m.2) :
      Fits (depth + 1) (.object members)

/-- Integers that fit are not too long for the other reader. -/
theorem natAbs_lt_of_length_le
    {i : Int}
    (h : (Decimal.natChars i.natAbs).length ≤ wholeLimit) :
    i.natAbs < 10 ^ Json.digitLimit :=
  (Decimal.natChars_length_le_iff i.natAbs (by decide)).mp h

/-- What fits is exact. -/
theorem Fits.exactWithin
    {depth : Nat} {v : Json}
    (h : Fits depth v) :
    Json.ExactWithin depth v := by
  induction h with
  | null depth =>
      exact .null depth
  | bool depth b =>
      exact .bool depth b
  | int depth i hi =>
      exact .int depth i (natAbs_lt_of_length_le hi)
  | text depth s =>
      exact .text depth s
  | array depth items h ih =>
      exact .array depth items ih
  | object depth members h ih =>
      exact .object depth members ih

/-! ## Strings -/

/-- Puts a character in front of a string that is read. -/
def consChar (c : Char) (r : List Char × List Char) : List Char × List Char :=
  (c :: r.1, r.2)

theorem string_unitEscape
    (fuel : Nat)
    {c : Char}
    (hc : c.toNat < 32)
    (cs : List Char) :
    string (fuel + 1) (Json.unitEscape c.toNat ++ cs) = (string fuel cs).map (consChar c) := by
  obtain ⟨h₁, h₂, h₃, h₄, hescape, hvalue⟩ := Json.unitEscape_digits (n := c.toNat) (by omega)
  obtain ⟨hhigh, hlow⟩ := Json.unit_of_char c
  have hunit : unitEscape (h₁ :: h₂ :: h₃ :: h₄ :: cs) = .ok (c, cs) := by
    simp only [unitEscape, unit, hvalue, bind, Except.bind, hhigh, hlow, Bool.false_eq_true,
      if_false, Char.ofNat_toNat]
  rw [hescape]
  simp only [List.cons_append, List.nil_append]
  rw [string, hunit]
  simp only [bind, Except.bind]
  cases string fuel cs <;> rfl

theorem string_shortEscape
    (fuel : Nat)
    {e c : Char}
    (he : e ≠ 'u')
    (hc : Json.shortEscape? e = some c)
    (cs : List Char) :
    string (fuel + 1) ('\\' :: e :: cs) = (string fuel cs).map (consChar c) := by
  rw [string]
  · simp only [hc]
    cases string fuel cs <;> rfl
  all_goals simp_all

theorem string_self
    (fuel : Nat)
    {c : Char}
    (hquote : c ≠ '"')
    (hbackslash : c ≠ '\\')
    (hcontrol : 32 ≤ c.toNat)
    (cs : List Char) :
    string (fuel + 1) (c :: cs) = (string fuel cs).map (consChar c) := by
  have hnot : ¬ c.toNat < 32 := by omega
  rw [string, if_neg hnot]
  · cases string fuel cs <;> rfl
  all_goals simp_all

/-- What a character is written as is read as the character. -/
theorem string_charEscape
    (fuel : Nat)
    (c : Char)
    (cs : List Char) :
    string (fuel + 1) (charEscape false c ++ cs) = (string fuel cs).map (consChar c) := by
  unfold charEscape
  -- the seven characters that have an escape of their own
  iterate 7
    split
    · subst c
      exact string_shortEscape fuel (by decide) (by decide) _
  split
  · exact string_unitEscape fuel ‹_› cs
  rw [Bool.false_and, if_neg Bool.false_ne_true]
  exact string_self fuel ‹_› ‹_› (by omega) _

theorem string_flatMap_charEscape
    {fuel : Nat} {cs : List Char}
    (hfuel : cs.length < fuel)
    (rest : List Char) :
    string fuel (cs.flatMap (charEscape false) ++ '"' :: rest) = .ok (cs, rest) := by
  obtain ⟨fuel, rfl⟩ : ∃ f, fuel = f + 1 := ⟨fuel - 1, by omega⟩
  induction cs generalizing fuel with
  | nil =>
      rw [List.flatMap_nil, List.nil_append, string]
  | cons c cs ih =>
      obtain ⟨fuel, rfl⟩ : ∃ f, fuel = f + 1 := ⟨fuel - 1, by simp at hfuel; omega⟩
      rw [List.flatMap_cons, List.append_assoc, string_charEscape, ih fuel (by simpa using hfuel)]
      rfl

theorem charEscape_length_pos (c : Char) :
    0 < (charEscape false c).length := by
  unfold charEscape
  repeat' split
  all_goals simp_all [Json.unitEscape]

theorem length_le_flatMap (cs : List Char) :
    cs.length ≤ (cs.flatMap (charEscape false)).length := by
  induction cs with
  | nil =>
      exact Nat.le_refl 0
  | cons c cs ih =>
      have hc := charEscape_length_pos c
      rw [List.flatMap_cons, List.length_append, List.length_cons]
      omega

/-- A string that is written is read back. -/
theorem string_string
    (s : String)
    (rest : List Char) :
    string ((s.toList.flatMap (charEscape false) ++ '"' :: rest).length + 1)
      (s.toList.flatMap (charEscape false) ++ '"' :: rest) = .ok (s.toList, rest) := by
  refine string_flatMap_charEscape ?_ rest
  have h := length_le_flatMap s.toList
  rw [List.length_append]
  omega

/-! ## Integers -/

theorem isDigit_eq (c : Char) :
    c.isDigit = Json.isDigit c := by
  simp only [Char.isDigit, Json.isDigit, Char.le_def]

theorem fraction_of_endsNumber
    {rest : List Char}
    (hrest : endsNumber rest = true) :
    fraction rest = .ok (none, rest) := by
  unfold fraction
  split
  · simp [endsNumber] at hrest
  · rfl

theorem exponent_of_endsNumber
    {rest : List Char}
    (hrest : endsNumber rest = true) :
    exponent rest = .ok (none, rest) := by
  cases rest with
  | nil =>
      rfl
  | cons c cs =>
      have hc : ¬ (c = 'e' ∨ c = 'E') := by
        simp only [endsNumber, Bool.and_eq_true, bne_iff_ne] at hrest
        simp [hrest.1.2, hrest.2]
      unfold exponent
      exact if_neg hc

theorem finish_of_endsNumber
    (negative : Bool)
    (whole : List Char)
    {rest : List Char}
    (hrest : endsNumber rest = true) :
    number.finish negative whole rest =
      .ok (.int (if negative then -(Decimal.digitsValue whole : Int)
        else Decimal.digitsValue whole), rest) := by
  simp only [number.finish, fraction_of_endsNumber hrest, exponent_of_endsNumber hrest, bind,
    Except.bind]

/-- Digits that nothing continues are an integer. -/
theorem number_natChars
    (negative : Bool)
    {n : Nat} {rest : List Char}
    (hn : (Decimal.natChars n).length ≤ wholeLimit)
    (hrest : endsNumber rest = true) :
    number negative (Decimal.natChars n ++ rest) =
      .ok (.int (if negative then -(n : Int) else n), rest) := by
  have hfinish := finish_of_endsNumber negative (Decimal.natChars n) hrest
  rw [Decimal.digitsValue_natChars] at hfinish
  have hdigits := Json.takeDigits_append (fun d => Decimal.isDigit_of_mem_natChars (n := n)) hrest
  obtain ⟨d, ds, hds, hd⟩ := Decimal.natChars_starts n
  rw [hds] at hn hfinish hdigits ⊢
  rw [List.cons_append] at hdigits ⊢
  have hnot : ¬ wholeLimit < (d :: ds).length := by omega
  unfold number
  split
  · simp_all
  · -- a zero in front of more is the whole number
    rename_i d' r heq
    obtain ⟨rfl, htail⟩ := List.cons.inj heq
    have hzero : n = 0 := by
      rcases Nat.eq_zero_or_pos n with hzero | hpos
      · exact hzero
      · obtain ⟨d₀, ds₀, hds₀, hne⟩ := Decimal.natChars_eq_cons hpos
        rw [hds] at hds₀
        exact absurd (List.cons.inj hds₀).1.symm hne
    subst hzero
    obtain rfl : ds = [] := (List.cons.inj hds).2.symm
    obtain rfl : rest = d' :: r := htail
    have hd' : d'.isDigit = false := by
      simp only [endsNumber, Bool.and_eq_true, Bool.not_eq_true'] at hrest
      rw [isDigit_eq, hrest.1.1.1]
    rw [hd']
    exact hfinish
  · rename_i r heq
    obtain ⟨rfl, -⟩ := List.cons.inj heq
    exact absurd hd (by decide)
  · rename_i c r _ _ heq
    obtain ⟨rfl, rfl⟩ := List.cons.inj heq
    rw [isDigit_eq, hd, if_pos rfl, hdigits]
    simp only [if_neg hnot, hfinish]

/-- Digits that are too many are refused, whatever follows them. -/
theorem number_of_long
    (negative : Bool)
    {n : Nat} {rest : List Char}
    (hn : wholeLimit < (Decimal.natChars n).length)
    (hrest : endsNumber rest = true) :
    ∃ r, number negative (Decimal.natChars n ++ rest) = .error (.numberTooLong, r) := by
  have hpos : 0 < n := by
    rcases Nat.eq_zero_or_pos n with rfl | hpos
    · exact absurd hn (by decide)
    · exact hpos
  have hdigits := Json.takeDigits_append (fun d => Decimal.isDigit_of_mem_natChars (n := n)) hrest
  obtain ⟨d, ds, hds, hne⟩ := Decimal.natChars_eq_cons hpos
  have hd : Json.isDigit d = true := Decimal.isDigit_of_mem_natChars (by rw [hds]; simp)
  rw [hds] at hn hdigits ⊢
  rw [List.cons_append] at hdigits ⊢
  refine ⟨(d :: (ds ++ rest)).drop (wholeLimit + 1), ?_⟩
  rw [number]
  · rw [isDigit_eq, hd, if_pos rfl, hdigits]
    simp only [if_pos hn]
  · rintro - - heq
    exact absurd heq hne
  · rintro rfl
    exact absurd hd (by decide)

/-- The text of an integer that fits is the integer. -/
theorem atom_intChars
    {i : Int} {rest : List Char}
    (hi : (Decimal.natChars i.natAbs).length ≤ wholeLimit)
    (hrest : endsNumber rest = true) :
    atom (Decimal.intChars i ++ rest) = .ok (.int i, rest) := by
  unfold Decimal.intChars
  split
  · rw [List.cons_append, atom, number_natChars true hi hrest]
    have hvalue : -(i.natAbs : Int) = i := by omega
    rw [if_pos rfl, hvalue]
  · have hnumber := number_natChars false hi hrest
    have hvalue : (i.natAbs : Int) = i := by omega
    obtain ⟨d, ds, hds, hd⟩ := Decimal.natChars_starts i.natAbs
    rw [if_neg Bool.false_ne_true, hvalue, hds, List.cons_append] at hnumber
    rw [hds, List.cons_append, atom]
    · rw [isDigit_eq, hd, Bool.true_or, if_pos rfl, hnumber]
    all_goals
      rintro rfl
      exact absurd hd (by decide)

/-! ## What the reader does with a value -/

/-- The value is read as its normal form wherever it stands, and what follows it is left. -/
def ReadsBack (depth : Nat) (v : Json) : Prop :=
  ∀ (fuel : Nat) (rest : List Char),
    3 * (chars compact v).length ≤ fuel →
    endsNumber rest = true →
    value fuel depth (chars compact v ++ rest) = .ok (normal v, rest)

theorem skip_cons
    {c : Char}
    (hc : Json.isBlank c = false)
    (cs : List Char) :
    skip (c :: cs) = c :: cs := by
  simp [skip, hc]

theorem value_text
    (fuel depth : Nat)
    (s : String)
    (rest : List Char) :
    value (fuel + 1) depth (stringChars false s ++ rest) = .ok (.text s, rest) := by
  rw [Json.stringChars_append, value, skip_cons (by decide)]
  simp only [string_string, bind, Except.bind, String.ofList_toList]

/-- A value that opens neither a string nor a container is an atom. -/
theorem value_atom
    (fuel depth : Nat)
    {c : Char}
    (hc : startsValue c = true)
    (hquote : c ≠ '"')
    (hbracket : c ≠ '[')
    (hbrace : c ≠ '\x7b')
    (cs : List Char) :
    value (fuel + 1) depth (c :: cs) = atom (c :: cs) := by
  rw [value, skip_cons (Json.isBlank_of_startsValue hc)]
  split
  all_goals simp_all

theorem value_int
    (fuel depth : Nat)
    {i : Int} {rest : List Char}
    (hi : (Decimal.natChars i.natAbs).length ≤ wholeLimit)
    (hrest : endsNumber rest = true) :
    value (fuel + 1) depth (Decimal.intChars i ++ rest) = .ok (.int i, rest) := by
  rw [← atom_intChars hi hrest]
  obtain ⟨d, ds, hds, hd⟩ := Decimal.natChars_starts i.natAbs
  unfold Decimal.intChars
  rw [hds]
  split
  · exact value_atom fuel depth (by decide) (by decide) (by decide) (by decide) _
  · have hstarts : startsValue d = true := by simp [startsValue, hd]
    have hopens : ∀ c, Json.isDigit c = false → d ≠ c := by
      rintro c hc rfl
      rw [hc] at hd
      cases hd
    exact value_atom fuel depth hstarts (hopens _ (by decide)) (hopens _ (by decide))
      (hopens _ (by decide)) _

/-! ## Items -/

/-- Items that are read back one by one are read back together. -/
theorem items_itemChars
    {depth : Nat} {v : Json} {vs : List Json}
    (hfits : ∀ w ∈ v :: vs, Fits depth w)
    (hback : ∀ w ∈ v :: vs, ReadsBack depth w)
    {fuel : Nat}
    (hfuel : 3 * (itemChars compact (v :: vs)).length + 1 ≤ fuel)
    (rest : List Char) :
    items fuel depth (itemChars compact (v :: vs) ++ ']' :: rest) =
      .ok (normalItems (v :: vs), rest) := by
  obtain ⟨fuel, rfl⟩ : ∃ f, fuel = f + 1 := ⟨fuel - 1, by omega⟩
  induction vs generalizing v fuel with
  | nil =>
      rw [itemChars] at hfuel ⊢
      have hv := hback v (by simp) fuel (']' :: rest) (by omega) rfl
      rw [items, hv]
      simp only [bind, Except.bind, skip_cons (c := ']') (by decide)]
      rfl
  | cons w ws ih =>
      obtain ⟨c, cs, hcs, hc⟩ := Json.itemChars_starts (hfits w (by simp)).exactWithin compact ws
      rw [itemChars] at hfuel ⊢
      simp only [compact, List.length_append, List.length_cons, List.length_nil] at hfuel
      have hv := hback v (by simp) fuel
        (compact.comma ++ itemChars compact (w :: ws) ++ ']' :: rest) (by unfold compact; omega) rfl
      -- the comma pays for the step of the loop
      obtain ⟨fuel, rfl⟩ : ∃ f, fuel = f + 1 := ⟨fuel - 1, by omega⟩
      have hitems := ih (v := w) (fun x hx => hfits x (List.mem_cons_of_mem v hx))
        (fun x hx => hback x (List.mem_cons_of_mem v hx)) fuel (by unfold compact; omega)
      have hskip : skip (itemChars compact (w :: ws) ++ ']' :: rest) =
          itemChars compact (w :: ws) ++ ']' :: rest := by
        rw [hcs]
        exact skip_cons (Json.isBlank_of_startsValue hc) _
      have hcomma : compact.comma = [','] := rfl
      simp only [hcomma, List.append_assoc, List.cons_append, List.nil_append] at hv ⊢
      rw [items, hv]
      simp only [bind, Except.bind, skip_cons (c := ',') (by decide), hskip]
      rw [hcs] at hitems ⊢
      rw [List.cons_append] at hitems ⊢
      split
      · rename_i heq
        cases heq
      · rename_i heq
        obtain ⟨rfl, -⟩ := List.cons.inj heq
        exact absurd rfl (Json.ne_of_startsValue hc).1
      · rw [hitems]
        rfl

/-! ## Members -/

/-- What the reader does behind a member: it ends the object, or goes on to the next member. -/
def afterMember (fuel depth : Nat) (m : String × Json) :
    List Char → Reading (List (String × Json) × List Char)
  | [] => .error (.endInObject, [])
  | '\x7d' :: rest => .ok ([m], rest)
  | ',' :: rest =>
    match skip rest with
    | [] => .error (.endInValue, [])
    | '\x7d' :: r => .error (.trailingComma, '\x7d' :: r)
    | rest => do
      let (ms, rest) ← members fuel depth rest
      .ok (m :: ms, rest)
  | r => .error (.expectedObjectComma, r)

/-- One member: the reader takes its name and its value and looks at what follows. -/
theorem members_member
    {depth : Nat} {v : Json}
    (hfits : Fits depth v)
    (hback : ReadsBack depth v)
    (n : String)
    (fuel : Nat)
    (rest : List Char)
    (hfuel : 3 * (chars compact v).length + 1 ≤ fuel)
    (hrest : endsNumber rest = true) :
    members (fuel + 1) (depth + 1)
        (stringChars false n ++ (':' :: (chars compact v ++ rest))) =
      afterMember fuel (depth + 1) (n, normal v) (skip rest) := by
  obtain ⟨fuel, rfl⟩ : ∃ f, fuel = f + 1 := ⟨fuel - 1, by omega⟩
  obtain ⟨c, cs, hcs, hc⟩ := Json.chars_starts hfits.exactWithin compact
  have hvalue := hback fuel rest (by omega) hrest
  have hmember : memberValue (fuel + 1) (depth + 1) (chars compact v ++ rest) =
      .ok (normal v, rest) := by
    rw [hcs, List.cons_append] at hvalue ⊢
    unfold memberValue
    simp only [skip_cons (Json.isBlank_of_startsValue hc)]
    exact hvalue
  rw [Json.stringChars_append, members, string_string]
  simp only [bind, Except.bind, skip_cons (c := ':') (by decide), hmember, String.ofList_toList]
  unfold afterMember
  rfl

/-- Members whose values are read back one by one are read back together. -/
theorem members_memberChars
    {depth : Nat} {m : String × Json} {ms : List (String × Json)}
    (hfits : ∀ m' ∈ m :: ms, Fits depth m'.2)
    (hback : ∀ m' ∈ m :: ms, ReadsBack depth m'.2)
    {fuel : Nat}
    (hfuel : 3 * (memberChars compact (m :: ms)).length + 1 ≤ fuel)
    (rest : List Char) :
    members fuel (depth + 1) (memberChars compact (m :: ms) ++ '\x7d' :: rest) =
      .ok (normalMembers (m :: ms), rest) := by
  have hascii : compact.ascii = false := rfl
  have hcolon : compact.colon = [':'] := rfl
  have hcomma : compact.comma = [','] := rfl
  obtain ⟨fuel, rfl⟩ : ∃ f, fuel = f + 1 := ⟨fuel - 1, by omega⟩
  obtain ⟨n, v⟩ := m
  induction ms generalizing n v fuel with
  | nil =>
      rw [memberChars] at hfuel ⊢
      simp only [hcolon, List.length_append, List.length_cons, List.length_nil] at hfuel
      have hv : Fits depth v := hfits (n, v) (by simp)
      have hread : ReadsBack depth v := hback (n, v) (by simp)
      have hmember := members_member hv hread n fuel ('\x7d' :: rest) (by omega) rfl
      simp only [hascii, hcolon, List.append_assoc, List.cons_append, List.nil_append]
      rw [hmember, skip_cons (by decide), afterMember]
      rfl
  | cons m' ms ih =>
      obtain ⟨n', v'⟩ := m'
      obtain ⟨cs, hcs⟩ := Json.memberChars_starts compact (n', v') ms
      rw [memberChars] at hfuel ⊢
      simp only [hcolon, hcomma, List.length_append, List.length_cons, List.length_nil] at hfuel
      have hv : Fits depth v := hfits (n, v) (by simp)
      have hread : ReadsBack depth v := hback (n, v) (by simp)
      have hmember := members_member hv hread n fuel
        (',' :: (memberChars compact ((n', v') :: ms) ++ '\x7d' :: rest)) (by omega) rfl
      obtain ⟨fuel, rfl⟩ : ∃ f, fuel = f + 1 := ⟨fuel - 1, by omega⟩
      have hmembers := ih fuel n' v' (fun x hx => hfits x (List.mem_cons_of_mem _ hx))
        (fun x hx => hback x (List.mem_cons_of_mem _ hx)) (by omega)
      simp only [hascii, hcolon, hcomma, List.append_assoc, List.cons_append, List.nil_append]
      rw [hmember, skip_cons (by decide), afterMember]
      rw [hcs, List.cons_append] at hmembers ⊢
      rw [skip_cons (by decide)]
      change (members (fuel + 1) (depth + 1) ('"' :: (cs ++ '\x7d' :: rest)) >>= fun r =>
        Except.ok ((n, normal v) :: r.1, r.2)) = _
      rw [hmembers]
      rfl

/-! ## Containers -/

theorem value_array_nil
    (fuel depth : Nat)
    (rest : List Char) :
    value (fuel + 1) depth ('[' :: ']' :: rest) = .ok (.array [], rest) := by
  rw [value, skip_cons (by decide)]
  simp only [skip_cons (c := ']') (by decide)]

theorem value_object_nil
    (fuel depth : Nat)
    (rest : List Char) :
    value (fuel + 1) depth ('\x7b' :: '\x7d' :: rest) = .ok (.object [], rest) := by
  rw [value, skip_cons (by decide)]
  simp only [skip_cons (c := '\x7d') (by decide)]

theorem value_array
    (fuel depth : Nat)
    {c : Char}
    (hc : startsValue c = true)
    (cs : List Char) :
    value (fuel + 1) (depth + 1) ('[' :: c :: cs) =
      (items fuel depth (c :: cs)).map fun r => (.array r.1, r.2) := by
  rw [value, skip_cons (by decide)]
  simp only [skip_cons (Json.isBlank_of_startsValue hc)]
  split
  · rename_i heq
    cases heq
  · rename_i heq
    obtain ⟨rfl, -⟩ := List.cons.inj heq
    exact absurd rfl (Json.ne_of_startsValue hc).1
  · rename_i hzero _ _
    cases hzero
  · rename_i hdepth _ _
    cases hdepth
    cases items fuel depth (c :: cs) <;> rfl

theorem value_object
    (fuel depth : Nat)
    (cs : List Char) :
    value (fuel + 1) depth ('\x7b' :: '"' :: cs) =
      (members fuel depth ('"' :: cs)).map fun r => (.object (mergeMembers r.1), r.2) := by
  rw [value, skip_cons (by decide)]
  simp only [skip_cons (c := '"') (by decide)]
  change (members fuel depth ('"' :: cs) >>= fun r =>
    Except.ok (Json.object (mergeMembers r.1), r.2)) = _
  cases members fuel depth ('"' :: cs) <;> rfl

/-- There is fuel for a first step. -/
theorem ReadsBack.of_succ
    {depth : Nat} {v : Json}
    (hfits : Fits depth v)
    (h : ∀ (fuel : Nat) (rest : List Char),
      3 * (chars compact v).length ≤ fuel + 1 →
      endsNumber rest = true →
      value (fuel + 1) depth (chars compact v ++ rest) = .ok (normal v, rest)) :
    ReadsBack depth v := by
  intro fuel rest hfuel hrest
  have hpos := Json.chars_length_pos hfits.exactWithin compact
  obtain ⟨fuel, rfl⟩ : ∃ f, fuel = f + 1 := ⟨fuel - 1, by omega⟩
  exact h fuel rest hfuel hrest

/-- Every value that fits is read back, wherever it stands. -/
theorem readsBack_of_fits
    {depth : Nat} {v : Json}
    (h : Fits depth v) :
    ReadsBack depth v := by
  have hfits := h
  induction h with
  | null depth =>
      refine .of_succ hfits fun fuel rest hfuel hrest => ?_
      exact value_atom fuel depth (by decide) (by decide) (by decide) (by decide) _
  | bool depth b =>
      refine .of_succ hfits fun fuel rest hfuel hrest => ?_
      cases b with
      | false =>
          exact value_atom fuel depth (by decide) (by decide) (by decide) (by decide) _
      | true =>
          exact value_atom fuel depth (by decide) (by decide) (by decide) (by decide) _
  | int depth i hi =>
      refine .of_succ hfits fun fuel rest hfuel hrest => ?_
      exact value_int fuel depth hi hrest
  | text depth s =>
      refine .of_succ hfits fun fuel rest hfuel hrest => ?_
      exact value_text fuel depth s rest
  | array depth vs h ih =>
      refine .of_succ hfits fun fuel rest hfuel hrest => ?_
      cases vs with
      | nil =>
          exact value_array_nil fuel (depth + 1) rest
      | cons v vs =>
          obtain ⟨c, cs, hcs, hc⟩ :=
            Json.itemChars_starts (h v (by simp)).exactWithin compact vs
          rw [chars] at hfuel ⊢
          simp only [List.length_append, List.length_cons, List.length_nil] at hfuel
          have hback := fun w hw => ih w hw (h w hw)
          have hlength : 3 * (itemChars compact (v :: vs)).length + 1 ≤ fuel := by omega
          have hitems := items_itemChars h hback hlength rest
          have hopen := value_array fuel depth hc (cs ++ ']' :: rest)
          rw [← List.cons_append, ← hcs, hitems] at hopen
          rw [List.cons_append, List.cons_append, List.append_assoc, List.singleton_append, hopen]
          rfl
  | object depth ms h ih =>
      refine .of_succ hfits fun fuel rest hfuel hrest => ?_
      cases ms with
      | nil =>
          exact value_object_nil fuel (depth + 1) rest
      | cons m ms =>
          obtain ⟨cs, hcs⟩ := Json.memberChars_starts compact m ms
          rw [chars] at hfuel ⊢
          simp only [List.length_append, List.length_cons, List.length_nil] at hfuel
          have hback := fun m' hm => ih m' hm (h m' hm)
          have hlength : 3 * (memberChars compact (m :: ms)).length + 1 ≤ fuel := by omega
          have hmembers := members_memberChars h hback hlength rest
          have hopen := value_object fuel (depth + 1) (cs ++ '\x7d' :: rest)
          rw [← List.cons_append, ← hcs, hmembers] at hopen
          rw [List.cons_append, List.cons_append, List.append_assoc, List.singleton_append, hopen]
          rfl

/-! ## Whole texts -/

/-- A compact text of a value that fits is read as the normal form of the value. -/
theorem read_render
    {v : Json}
    (h : Fits nestingLimit v) :
    read (Json.render compact v) = .ok (normal v) := by
  have hvalue := readsBack_of_fits h (3 * (chars compact v).length + 3) [] (by omega) rfl
  rw [List.append_nil] at hvalue
  rw [read, Json.render, String.toList_ofList]
  simp only [hvalue]
  rfl

end StrictJson
end Validation
end SqlDialects
