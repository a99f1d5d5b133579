import SqlDialects.Proofs.Json.Members
import SqlDialects.Proofs.Json.Numbers
import SqlDialects.Proofs.Json.Strings

/-!
# Values that are read back

A value without doubles, written in any style whose separators are a comma and a colon with blanks
behind them, is read as its normal form.

**Invariant.**  `Json.ReadsBack` says of a value what the reader has to do wherever the value stands:
it gives the normal form, ends at the place right after the value, and leaves what follows.  Fuel
twice the length of the text is enough for any value, since a step either takes a character or
hands a shorter text on.

**Results.**
* `Json.readsBack_of_exactWithin`: the invariant holds of every exact value, by induction on how it
  is built; `Json.readItems_itemChars` and `Json.readMembers_memberChars` are its two loops.
* `Json.read_render`: a whole text is read as the normal form of the value that it was written from.
  Blanks behind it make no difference (`Json.read_chars_append`).
* `Json.render_array`: the text of an array is the texts of its items, joined.
-/

namespace SqlDialects
namespace Json

/-- A value of at most `depth` nested containers that holds no double, and no integer with more
digits than are read. -/
inductive ExactWithin : (depth : Nat) → Json → Prop where
  | null (depth : Nat) : ExactWithin depth .null
  | bool (depth : Nat) (b : Bool) : ExactWithin depth (.bool b)
  | int (depth : Nat) (i : Int) (h : i.natAbs < 10 ^ digitLimit) : ExactWithin depth (.int i)
  | text (depth : Nat) (s : String) : ExactWithin depth (.text s)
  | array (depth : Nat) (items : List Json) (h : ∀ v ∈ items, ExactWithin depth v) :
      ExactWithin (depth + 1) (.array items)
  | object (depth : Nat) (members : List (String × Json))
      (h : ∀ m ∈ members, ExactWithin depth m.2) :
      ExactWithin (depth + 1) (.object members)

/-- A value that holds no double. -/
inductive DoubleFree : Json → Prop where
  | null : DoubleFree .null
  | bool (b : Bool) : DoubleFree (.bool b)
  | int (i : Int) : DoubleFree (.int i)
  | text (s : String) : DoubleFree (.text s)
  | array (items : List Json) (h : ∀ v ∈ items, DoubleFree v) : DoubleFree (.array items)
  | object (members : List (String × Json)) (h : ∀ m ∈ members, DoubleFree m.2) :
      DoubleFree (.object members)

theorem ExactWithin.doubleFree
    {depth : Nat} {v : Json}
    (h : ExactWithin depth v) :
    DoubleFree v := by
  induction h with
  | null depth => exact .null
  | bool depth b => exact .bool b
  | int depth i hi => exact .int i
  | text depth s => exact .text s
  | array depth items h ih => exact .array items ih
  | object depth members h ih => exact .object members ih

theorem ExactWithin.mono
    {depth limit : Nat} {v : Json}
    (h : ExactWithin depth v)
    (hle : depth ≤ limit) :
    ExactWithin limit v := by
  induction h generalizing limit with
  | null depth =>
      exact .null limit
  | bool depth b =>
      exact .bool limit b
  | int depth i hi =>
      exact .int limit i hi
  | text depth s =>
      exact .text limit s
  | array depth items h ih =>
      obtain ⟨limit, rfl⟩ : ∃ l, limit = l + 1 := ⟨limit - 1, by omega⟩
      exact .array limit items fun v hv => ih v hv (by omega)
  | object depth members h ih =>
      obtain ⟨limit, rfl⟩ : ∃ l, limit = l + 1 := ⟨limit - 1, by omega⟩
      exact .object limit members fun m hm => ih m hm (by omega)

/-- The normal form of an exact value is exact. -/
theorem ExactWithin.normal
    {depth : Nat} {v : Json}
    (h : ExactWithin depth v) :
    ExactWithin depth v.normal := by
  induction h with
  | null depth =>
      exact .null depth
  | bool depth b =>
      exact .bool depth b
  | int depth i hi =>
      exact .int depth i hi
  | text depth s =>
      exact .text depth s
  | array depth items h ih =>
      refine .array depth _ ?_
      rw [normalItems_eq_map]
      intro w hw
      obtain ⟨v, hv, rfl⟩ := List.mem_map.mp hw
      exact ih v hv
  | object depth members h ih =>
      refine .object depth _ ?_
      rw [normalMembers_eq_map, mergeMembers_eq_distinctMembers]
      intro m hm
      obtain ⟨m', hm', rfl⟩ := List.mem_map.mp (mem_of_mem_distinctMembers hm)
      exact ih m' hm'

/-- A style whose separators are a comma and a colon with blanks behind them. -/
structure Style.Separates (style : Style) : Prop where
  comma : ∃ blanks, style.comma = ',' :: blanks ∧ ∀ b ∈ blanks, isBlank b = true
  colon : ∃ blanks, style.colon = ':' :: blanks ∧ ∀ b ∈ blanks, isBlank b = true

theorem separates_plain : plain.Separates :=
  ⟨⟨[' '], rfl, by simp [isBlank]⟩, ⟨[' '], rfl, by simp [isBlank]⟩⟩

theorem separates_ascii : ascii.Separates :=
  ⟨⟨[' '], rfl, by simp [isBlank]⟩, ⟨[' '], rfl, by simp [isBlank]⟩⟩

/-! ## Blanks -/

theorem skipBlanks_cons
    (place : Nat)
    {c : Char}
    (hc : isBlank c = false)
    (cs : List Char) :
    skipBlanks place (c :: cs) = (place, c :: cs) := by
  rw [skipBlanks, hc]
  rfl

theorem skipBlanks_append
    (place : Nat)
    {blanks : List Char}
    (h : ∀ b ∈ blanks, isBlank b = true)
    {c : Char}
    (hc : isBlank c = false)
    (cs : List Char) :
    skipBlanks place (blanks ++ c :: cs) = (place + blanks.length, c :: cs) := by
  induction blanks generalizing place with
  | nil =>
      exact skipBlanks_cons place hc cs
  | cons b bs ih =>
      have hb : isBlank b = true := h b (by simp)
      have hrest := ih (place + 1) fun x hx => h x (by simp [hx])
      rw [List.cons_append, skipBlanks, hb, if_pos rfl, hrest, List.length_cons]
      congr 1
      omega

/-! ## How a value starts -/

/-- Whether a value may start with a character. -/
def startsValue (c : Char) : Bool :=
  c = 'n' || c = 't' || c = 'f' || c = '-' || isDigit c || c = '"' || c = '[' || c = '\x7b'

theorem isBlank_of_startsValue
    {c : Char}
    (h : startsValue c = true) :
    isBlank c = false := by
  rw [Bool.eq_false_iff]
  intro hblank
  have hcases : c = ' ' ∨ c = '\t' ∨ c = '\n' ∨ c = '\r' := by
    simpa [isBlank, or_assoc] using hblank
  rcases hcases with rfl | rfl | rfl | rfl <;> revert h <;> decide

theorem ne_of_startsValue
    {c : Char}
    (h : startsValue c = true) :
    c ≠ ']' ∧ c ≠ '\ufeff' := by
  constructor
  · rintro rfl
    revert h
    decide
  · rintro rfl
    revert h
    decide

/-- The text of a value without doubles starts as values do. -/
theorem DoubleFree.chars_starts
    {v : Json}
    (h : DoubleFree v)
    (style : Style) :
    ∃ c cs, chars style v = c :: cs ∧ startsValue c = true := by
  cases h with
  | null =>
      exact ⟨_, _, rfl, by decide⟩
  | bool b =>
      cases b
      · exact ⟨_, _, rfl, by decide⟩
      · exact ⟨_, _, rfl, by decide⟩
  | int i =>
      obtain ⟨d, ds, hds, hd⟩ := Decimal.natChars_starts i.natAbs
      rw [chars, Decimal.intChars, hds]
      split
      · exact ⟨_, _, rfl, by decide⟩
      · exact ⟨_, _, rfl, by simp [startsValue, hd]⟩
  | text | array | object =>
      exact ⟨_, _, by rw [chars]; rfl, by decide⟩

theorem chars_starts
    {depth : Nat} {v : Json}
    (h : ExactWithin depth v)
    (style : Style) :
    ∃ c cs, chars style v = c :: cs ∧ startsValue c = true :=
  h.doubleFree.chars_starts style

theorem chars_length_pos
    {depth : Nat} {v : Json}
    (h : ExactWithin depth v)
    (style : Style) :
    0 < (chars style v).length := by
  obtain ⟨c, cs, hcs, -⟩ := chars_starts h style
  rw [hcs]
  exact Nat.succ_pos _

/-! ## What the reader does with a value -/

/-- The value is read as its normal form wherever it stands, and what follows it is left. -/
def ReadsBack (style : Style) (depth : Nat) (v : Json) : Prop :=
  ∀ (fuel place : Nat) (rest : List Char),
    2 * (chars style v).length ≤ fuel →
    endsNumber rest = true →
    readValue fuel depth place (chars style v ++ rest) =
      .ok ⟨normal v, place + (chars style v).length, rest⟩

theorem readValue_text
    (asciiOnly : Bool)
    (fuel depth place : Nat)
    (s : String)
    (rest : List Char) :
    readValue (fuel + 1) depth place (stringChars asciiOnly s ++ rest) =
      .ok ⟨.text s, place + (stringChars asciiOnly s).length, rest⟩ := by
  rw [stringChars_append, readValue, readString_string]
  simp only [Except.map, String.ofList_toList]

/-- A value that opens neither a string nor a container is an atom. -/
theorem readValue_atom
    (fuel depth place : Nat)
    {c : Char}
    (hquote : c ≠ '"')
    (hbracket : c ≠ '[')
    (hbrace : c ≠ '\x7b')
    (cs : List Char) :
    readValue (fuel + 1) depth place (c :: cs) = readAtom place (c :: cs) := by
  rw [readValue]
  all_goals
    intro cs' h
    cases h
    contradiction

theorem readValue_int
    (fuel depth place : Nat)
    {i : Int} {rest : List Char}
    (hi : i.natAbs < 10 ^ digitLimit)
    (hrest : endsNumber rest = true) :
    readValue (fuel + 1) depth place (Decimal.intChars i ++ rest) =
      .ok ⟨.int i, place + (Decimal.intChars i).length, rest⟩ := by
  rw [← readAtom_intChars place hi hrest]
  obtain ⟨d, ds, hds, hd⟩ := Decimal.natChars_starts i.natAbs
  unfold Decimal.intChars
  rw [hds]
  split
  · exact readValue_atom fuel depth place (by decide) (by decide) (by decide) _
  · have hopens : ∀ c, isDigit c = false → d ≠ c := by
      rintro c hc rfl
      rw [hc] at hd
      cases hd
    exact readValue_atom fuel depth place (hopens _ (by decide)) (hopens _ (by decide))
      (hopens _ (by decide)) _

/-! ## Items -/

theorem DoubleFree.itemChars_starts
    {v : Json}
    (h : DoubleFree v)
    (style : Style)
    (vs : List Json) :
    ∃ c cs, itemChars style (v :: vs) = c :: cs ∧ startsValue c = true := by
  obtain ⟨c, cs, hcs, hc⟩ := h.chars_starts style
  cases vs with
  | nil =>
      exact ⟨c, cs, by rw [itemChars, hcs], hc⟩
  | cons w ws =>
      exact ⟨c, _, by rw [itemChars, hcs]; rfl, hc⟩

theorem itemChars_starts
    {depth : Nat} {v : Json}
    (h : ExactWithin depth v)
    (style : Style)
    (vs : List Json) :
    ∃ c cs, itemChars style (v :: vs) = c :: cs ∧ startsValue c = true :=
  h.doubleFree.itemChars_starts style vs

theorem endsNumber_append
    {blanks rest : List Char}
    (h : ∀ b ∈ blanks, isBlank b = true)
    (hrest : endsNumber rest = true) :
    endsNumber (blanks ++ rest) = true := by
  cases blanks with
  | nil =>
      exact hrest
  | cons b bs =>
      have hblank := h b (by simp)
      simp only [isBlank, Bool.or_eq_true, decide_eq_true_eq] at hblank
      rcases hblank with ((rfl | rfl) | rfl) | rfl <;> rfl

/-- Items that are read back one by one are read back together, also with blanks in front of the
bracket. -/
theorem readItems_itemChars_append
    {style : Style}
    (hstyle : style.Separates)
    {depth : Nat} {v : Json} {vs : List Json}
    (hexact : ∀ w ∈ v :: vs, ExactWithin depth w)
    (hback : ∀ w ∈ v :: vs, ReadsBack style depth w)
    {fuel : Nat}
    (hfuel : 2 * (itemChars style (v :: vs)).length + 1 ≤ fuel)
    (place : Nat)
    {after : List Char}
    (hafter : ∀ b ∈ after, isBlank b = true)
    (rest : List Char) :
    readItems fuel depth place (itemChars style (v :: vs) ++ (after ++ ']' :: rest)) =
      .ok ⟨normalItems (v :: vs),
        place + (itemChars style (v :: vs)).length + after.length + 1, rest⟩ := by
  obtain ⟨fuel, rfl⟩ : ∃ f, fuel = f + 1 := ⟨fuel - 1, by omega⟩
  induction vs generalizing v fuel place with
  | nil =>
      rw [itemChars] at hfuel ⊢
      have hv := hback v (by simp) fuel place (after ++ ']' :: rest) (by omega)
        (endsNumber_append hafter rfl)
      rw [readItems, hv]
      simp only [skipBlanks_append _ hafter (c := ']') (by decide)]
      rfl
  | cons w ws ih =>
      obtain ⟨blanks, hcomma, hblanks⟩ := hstyle.comma
      obtain ⟨c, cs, hcs, hc⟩ := itemChars_starts (hexact w (by simp)) style ws
      rw [itemChars, hcomma] at hfuel ⊢
      simp only [List.length_append, List.length_cons] at hfuel
      have hv := hback v (by simp) fuel place
        (',' :: blanks ++ itemChars style (w :: ws) ++ (after ++ ']' :: rest)) (by omega) rfl
      -- the comma is a character more, which pays for the step of the loop
      obtain ⟨fuel, rfl⟩ : ∃ f, fuel = f + 1 := ⟨fuel - 1, by omega⟩
      have hitems := fun p => ih (v := w) (fun x hx => hexact x (List.mem_cons_of_mem v hx))
        (fun x hx => hback x (List.mem_cons_of_mem v hx)) p fuel (by omega)
      have hskip := fun p => skipBlanks_append p hblanks (isBlank_of_startsValue hc)
        (cs ++ (after ++ ']' :: rest))
      rw [← List.cons_append, ← hcs] at hskip
      simp only [List.append_assoc, List.cons_append] at hv ⊢
      rw [readItems, hv]
      simp only [skipBlanks_cons _ (c := ',') (by decide)]
      rw [hskip, hitems]
      simp only [Except.map, normalItems, List.length_append, List.length_cons]
      congr 2
      omega

/-- Items that are read back one by one are read back together. -/
theorem readItems_itemChars
    {style : Style}
    (hstyle : style.Separates)
    {depth : Nat} {v : Json} {vs : List Json}
    (hexact : ∀ w ∈ v :: vs, ExactWithin depth w)
    (hback : ∀ w ∈ v :: vs, ReadsBack style depth w)
    {fuel : Nat}
    (hfuel : 2 * (itemChars style (v :: vs)).length + 1 ≤ fuel)
    (place : Nat)
    (rest : List Char) :
    readItems fuel depth place (itemChars style (v :: vs) ++ ']' :: rest) =
      .ok ⟨normalItems (v :: vs), place + (itemChars style (v :: vs)).length + 1, rest⟩ := by
  have hafter : ∀ b ∈ ([] : List Char), isBlank b = true := by simp
  exact readItems_itemChars_append hstyle hexact hback hfuel place hafter rest

/-! ## Members -/

/-- What the reader does behind a member: it ends the object, or goes on to the next member. -/
def afterMember (fuel depth : Nat) (m : String × Json) :
    Nat × List Char → Except Fault (Read (List (String × Json)))
  | (p, '\x7d' :: rest) => .ok ⟨[m], p + 1, rest⟩
  | (p, ',' :: rest) =>
      let (p, rest) := skipBlanks (p + 1) rest
      (readMembers fuel depth p rest).map fun r => ⟨m :: r.value, r.place, r.rest⟩
  | (p, _) => .error (.malformed .expectedComma p)

/-- One member: the reader takes its name and its value and looks at what follows. -/
theorem readMembers_member
    {style : Style}
    (hstyle : style.Separates)
    {depth : Nat} {v : Json}
    (hexact : ExactWithin depth v)
    (hback : ReadsBack style depth v)
    (n : String)
    {fuel : Nat}
    (hfuel : 2 * (chars style v).length ≤ fuel)
    (place : Nat)
    {rest : List Char}
    (hrest : endsNumber rest = true) :
    readMembers (fuel + 1) depth place
        (stringChars style.ascii n ++ style.colon ++ chars style v ++ rest) =
      afterMember fuel depth (n, normal v) (skipBlanks
        (place + (stringChars style.ascii n ++ style.colon ++ chars style v).length) rest) := by
  obtain ⟨blanks, hcolon, hblanks⟩ := hstyle.colon
  obtain ⟨c, cs, hcs, hc⟩ := chars_starts hexact style
  have hvalue := fun p => hback fuel p rest hfuel hrest
  have hskip := fun p => skipBlanks_append p hblanks (isBlank_of_startsValue hc) (cs ++ rest)
  rw [← List.cons_append, ← hcs] at hskip
  have hplace :
      place + (stringChars style.ascii n).length + 1 + blanks.length + (chars style v).length =
        place + (stringChars style.ascii n ++ ':' :: blanks ++ chars style v).length := by
    simp only [List.length_append, List.length_cons]
    omega
  rw [hcolon, ← hplace]
  rw [List.append_assoc, List.append_assoc, stringChars_append, readMembers, readString_string]
  simp only [List.cons_append, skipBlanks_cons _ (c := ':') (by decide), String.ofList_toList,
    hskip, hvalue]
  rfl

theorem memberChars_starts
    (style : Style)
    (m : String × Json)
    (ms : List (String × Json)) :
    ∃ cs, memberChars style (m :: ms) = '"' :: cs := by
  cases ms with
  | nil =>
      exact ⟨_, by rw [memberChars]; rfl⟩
  | cons m' ms =>
      exact ⟨_, by rw [memberChars]; rfl⟩

/-- Members whose values are read back one by one are read back together. -/
theorem readMembers_memberChars
    {style : Style}
    (hstyle : style.Separates)
    {depth : Nat} {m : String × Json} {ms : List (String × Json)}
    (hexact : ∀ m' ∈ m :: ms, ExactWithin depth m'.2)
    (hback : ∀ m' ∈ m :: ms, ReadsBack style depth m'.2)
    {fuel : Nat}
    (hfuel : 2 * (memberChars style (m :: ms)).length + 1 ≤ fuel)
    (place : Nat)
    (rest : List Char) :
    readMembers fuel depth place (memberChars style (m :: ms) ++ '\x7d' :: rest) =
      .ok ⟨normalMembers (m :: ms), place + (memberChars style (m :: ms)).length + 1, rest⟩ := by
  obtain ⟨fuel, rfl⟩ : ∃ f, fuel = f + 1 := ⟨fuel - 1, by omega⟩
  obtain ⟨n, v⟩ := m
  induction ms generalizing n v fuel place with
  | nil =>
      rw [memberChars] at hfuel ⊢
      simp only [List.length_append] at hfuel
      have hv : ExactWithin depth v := hexact (n, v) (by simp)
      have hread : ReadsBack style depth v := hback (n, v) (by simp)
      rw [readMembers_member hstyle hv hread n (by omega) place rfl]
      rw [skipBlanks_cons _ (c := '\x7d') (by decide), afterMember]
      rfl
  | cons m' ms ih =>
      obtain ⟨n', v'⟩ := m'
      obtain ⟨blanks, hcomma, hblanks⟩ := hstyle.comma
      obtain ⟨cs, hcs⟩ := memberChars_starts style (n', v') ms
      rw [memberChars, hcomma] at hfuel ⊢
      simp only [List.length_append, List.length_cons] at hfuel
      have hv : ExactWithin depth v := hexact (n, v) (by simp)
      have hread : ReadsBack style depth v := hback (n, v) (by simp)
      have hends : endsNumber
          (',' :: blanks ++ memberChars style ((n', v') :: ms) ++ '\x7d' :: rest) = true := rfl
      have hlength : 2 * (chars style v).length ≤ fuel := by omega
      have hmember := readMembers_member hstyle hv hread n hlength place hends
      obtain ⟨fuel, rfl⟩ : ∃ f, fuel = f + 1 := ⟨fuel - 1, by omega⟩
      have hmembers := fun p => ih p fuel n' v' (fun x hx => hexact x (List.mem_cons_of_mem _ hx))
        (fun x hx => hback x (List.mem_cons_of_mem _ hx)) (by omega)
      have hskip := fun p => skipBlanks_append p hblanks (c := '"') (by decide)
        (cs ++ '\x7d' :: rest)
      rw [← List.cons_append, ← hcs] at hskip
      simp only [List.append_assoc, List.cons_append] at hmember ⊢
      rw [hmember]
      rw [skipBlanks_cons _ (c := ',') (by decide), afterMember, hskip]
      simp only [hmembers, Except.map, normalMembers, List.length_append, List.length_cons]
      congr 2
      omega

/-! ## Containers -/

theorem readValue_array_nil
    (fuel depth place : Nat)
    (rest : List Char) :
    readValue (fuel + 1) (depth + 1) place ('[' :: ']' :: rest) =
      .ok ⟨.array [], place + 2, rest⟩ := by
  rw [readValue]
  simp only [skipBlanks_cons _ (c := ']') (by decide)]

/-- An array whose first item has blanks before it. -/
theorem readValue_array_append
    (fuel depth place : Nat)
    {before : List Char}
    (hbefore : ∀ b ∈ before, isBlank b = true)
    {c : Char}
    (hc : startsValue c = true)
    (cs : List Char) :
    readValue (fuel + 1) (depth + 1) place ('[' :: (before ++ c :: cs)) =
      (readItems fuel depth (place + 1 + before.length) (c :: cs)).map fun r =>
        ⟨.array r.value, r.place, r.rest⟩ := by
  rw [readValue]
  simp only [skipBlanks_append _ hbefore (isBlank_of_startsValue hc)]
  split
  · simp_all [ne_of_startsValue hc]
  · simp_all

theorem readValue_array
    (fuel depth place : Nat)
    {c : Char}
    (hc : startsValue c = true)
    (cs : List Char) :
    readValue (fuel + 1) (depth + 1) place ('[' :: c :: cs) =
      (readItems fuel depth (place + 1) (c :: cs)).map fun r =>
        ⟨.array r.value, r.place, r.rest⟩ := by
  have hbefore : ∀ b ∈ ([] : List Char), isBlank b = true := by simp
  exact readValue_array_append fuel depth place hbefore hc cs

theorem readValue_object_nil
    (fuel depth place : Nat)
    (rest : List Char) :
    readValue (fuel + 1) (depth + 1) place ('\x7b' :: '\x7d' :: rest) =
      .ok ⟨.object [], place + 2, rest⟩ := by
  rw [readValue]
  simp only [skipBlanks_cons _ (c := '\x7d') (by decide)]

theorem readValue_object
    (fuel depth place : Nat)
    (cs : List Char) :
    readValue (fuel + 1) (depth + 1) place ('\x7b' :: '"' :: cs) =
      (readMembers fuel depth (place + 1) ('"' :: cs)).map fun r =>
        ⟨.object (mergeMembers r.value), r.place, r.rest⟩ := by
  rw [readValue]
  simp only [skipBlanks_cons _ (c := '"') (by decide)]
  rfl

/-- There is fuel for a first step. -/
theorem ReadsBack.of_succ
    {style : Style} {depth : Nat} {v : Json}
    (hexact : ExactWithin depth v)
    (h : ∀ (fuel place : Nat) (rest : List Char),
      2 * (chars style v).length ≤ fuel + 1 →
      endsNumber rest = true →
      readValue (fuel + 1) depth place (chars style v ++ rest) =
        .ok ⟨normal v, place + (chars style v).length, rest⟩) :
    ReadsBack style depth v := by
  intro fuel place rest hfuel hrest
  have hpos := chars_length_pos hexact style
  obtain ⟨fuel, rfl⟩ : ∃ f, fuel = f + 1 := ⟨fuel - 1, by omega⟩
  exact h fuel place rest hfuel hrest

/-- Every exact value is read back, wherever it stands. -/
theorem readsBack_of_exactWithin
    {style : Style}
    (hstyle : style.Separates)
    {depth : Nat} {v : Json}
    (h : ExactWithin depth v) :
    ReadsBack style depth v := by
  have hexact := h
  induction h with
  | null depth =>
      refine .of_succ hexact fun fuel place rest hfuel hrest => ?_
      exact readValue_atom fuel depth place (by decide) (by decide) (by decide) _
  | bool depth b =>
      refine .of_succ hexact fun fuel place rest hfuel hrest => ?_
      cases b with
      | false =>
          exact readValue_atom fuel depth place (by decide) (by decide) (by decide) _
      | true =>
          exact readValue_atom fuel depth place (by decide) (by decide) (by decide) _
  | int depth i hi =>
      refine .of_succ hexact fun fuel place rest hfuel hrest => ?_
      exact readValue_int fuel depth place hi hrest
  | text depth s =>
      refine .of_succ hexact fun fuel place rest hfuel hrest => ?_
      exact readValue_text style.ascii fuel depth place s rest
  | array depth items h ih =>
      refine .of_succ hexact fun fuel place rest hfuel hrest => ?_
      cases items with
      | nil =>
          exact readValue_array_nil fuel depth place rest
      | cons v vs =>
          obtain ⟨c, cs, hcs, hc⟩ := itemChars_starts (h v (by simp)) style vs
          rw [chars] at hfuel ⊢
          simp only [List.length_append, List.length_cons, List.length_nil] at hfuel
          have hlength : 2 * (itemChars style (v :: vs)).length + 1 ≤ fuel := by omega
          have hback := fun w hw => ih w hw (h w hw)
          have hitems := readItems_itemChars hstyle h hback hlength (place + 1) rest
          have hopen := readValue_array fuel depth place hc (cs ++ ']' :: rest)
          rw [← List.cons_append, ← hcs, hitems] at hopen
          rw [List.cons_append, List.cons_append, List.append_assoc, List.singleton_append, hopen]
          simp only [Except.map, normal, List.length_append, List.length_cons, List.length_nil]
          congr 2
          omega
  | object depth members h ih =>
      refine .of_succ hexact fun fuel place rest hfuel hrest => ?_
      cases members with
      | nil =>
          exact readValue_object_nil fuel depth place rest
      | cons m ms =>
          obtain ⟨cs, hcs⟩ := memberChars_starts style m ms
          rw [chars] at hfuel ⊢
          simp only [List.length_append, List.length_cons, List.length_nil] at hfuel
          have hlength : 2 * (memberChars style (m :: ms)).length + 1 ≤ fuel := by omega
          have hback := fun m' hm => ih m' hm (h m' hm)
          have hmembers := readMembers_memberChars hstyle h hback hlength (place + 1) rest
          have hopen := readValue_object fuel depth place (cs ++ '\x7d' :: rest)
          rw [← List.cons_append, ← hcs, hmembers] at hopen
          rw [List.cons_append, List.cons_append, List.append_assoc, List.singleton_append, hopen]
          simp only [Except.map, normal, List.length_append, List.length_cons, List.length_nil]
          congr 2
          omega

/-! ## Whole texts -/

theorem endsNumber_of_blanks
    {blanks : List Char}
    (h : ∀ b ∈ blanks, isBlank b = true) :
    endsNumber blanks = true := by
  have hends : endsNumber (blanks ++ []) = true := endsNumber_append h rfl
  rwa [List.append_nil] at hends

theorem skipBlanks_blanks
    (place : Nat)
    {blanks : List Char}
    (h : ∀ b ∈ blanks, isBlank b = true) :
    skipBlanks place blanks = (place + blanks.length, []) := by
  induction blanks generalizing place with
  | nil =>
      rfl
  | cons b bs ih =>
      have hrest := ih (place + 1) fun x hx => h x (by simp [hx])
      rw [skipBlanks, h b (by simp), if_pos rfl, hrest, List.length_cons]
      congr 1
      omega

/-- A text that an exact value is written as is read as the normal form of the value, also with blanks
behind it. -/
theorem read_chars_append
    {style : Style}
    (hstyle : style.Separates)
    {v : Json}
    (h : ExactWithin nestingLimit v)
    {blanks : List Char}
    (hblanks : ∀ b ∈ blanks, isBlank b = true) :
    read (String.ofList (chars style v ++ blanks)) = .ok (normal v) := by
  obtain ⟨c, cs, hcs, hc⟩ := chars_starts h style
  have hvalue := readsBack_of_exactWithin hstyle h (2 * (chars style v ++ blanks).length + 2) 0
    blanks (by rw [List.length_append]; omega) (endsNumber_of_blanks hblanks)
  have hmark : ∀ rest, c :: (cs ++ blanks) = '\ufeff' :: rest → False := by
    intro rest heq
    exact (ne_of_startsValue hc).2 (List.cons.inj heq).1
  rw [hcs, List.cons_append] at hvalue ⊢
  rw [read, String.toList_ofList, readChars]
  · rw [skipBlanks_cons 0 (isBlank_of_startsValue hc)]
    simp only [hvalue, skipBlanks_blanks _ hblanks]
  · exact hmark

/-- A text that an exact value is written as is read as the normal form of the value. -/
theorem read_render
    {style : Style}
    (hstyle : style.Separates)
    {v : Json}
    (h : ExactWithin nestingLimit v) :
    read (render style v) = .ok (normal v) := by
  have hread : read (String.ofList (chars style v ++ [])) = .ok (normal v) :=
    read_chars_append hstyle h (by simp)
  rwa [List.append_nil] at hread

/-! ## Arrays as joined texts -/

theorem itemChars_eq_intercalate
    (style : Style)
    (items : List Json) :
    itemChars style items = style.comma.intercalate (items.map (chars style)) := by
  induction items with
  | nil =>
      rfl
  | cons v vs ih =>
      cases vs with
      | nil =>
          simp [itemChars]
      | cons w ws =>
          rw [itemChars, ih]
          simp

/-- The text of an array is the texts of its items, joined, between brackets. -/
theorem render_array
    (style : Style)
    (items : List Json) :
    render style (.array items) =
      "[" ++ (String.ofList style.comma).intercalate (items.map (render style)) ++ "]" := by
  apply String.toList_inj.mp
  have hitems : (items.map (render style)).map String.toList = items.map (chars style) := by
    simp [render]
  simp only [String.toList_append, String.toList_intercalate, String.toList_ofList, hitems, render]
  rw [chars, itemChars_eq_intercalate]
  rfl

end Json
end SqlDialects
