import SqlDialects.Proofs.Diagnostics.Reading

/-!
# The strict reader is faithful

Not every compact text is taken by the strict reader: there are limits to containers and to digits.
What it makes of the text of a value without doubles, if it makes anything of it, is the normal form
of the value.  A report that is read from its text is thus the report.

**Invariant.**  `StrictJson.Faithful` says of a value that wherever it stands nothing but its normal
form is read, and what follows it is left.  Nothing is asked of fuel: without it the reader refuses.

**Results.**
* `StrictJson.faithful_of_doubleFree`: the invariant holds of every value without doubles, by
  induction on how it is built.
* `Report.eq_of_read_render`: a report that is read from its text is the report.
-/

namespace SqlDialects
namespace Validation
namespace StrictJson

open Json (chars itemChars memberChars stringChars compact normal normalItems normalMembers
  mergeMembers endsNumber startsValue DoubleFree)

/-- Nothing but the normal form of the value is read where it stands, and what follows it is left. -/
def Faithful (depth : Nat) (v : Json) : Prop :=
  ∀ (fuel : Nat) (rest : List Char) (r : Json × List Char),
    endsNumber rest = true →
    value fuel depth (chars compact v ++ rest) = .ok r →
    r = (normal v, rest)

theorem of_bind_eq_ok
    {α β : Type} {a : Reading α} {f : α → Reading β} {b : β}
    (h : a >>= f = .ok b) :
    ∃ x, a = .ok x ∧ f x = .ok b := by
  cases a with
  | error r => cases h
  | ok x => exact ⟨x, rfl, h⟩

theorem of_map_eq_ok
    {α β : Type} {a : Reading α} {f : α → β} {b : β}
    (h : a.map f = .ok b) :
    ∃ x, a = .ok x ∧ f x = b := by
  cases a with
  | error r => cases h
  | ok x => exact ⟨x, rfl, Except.ok.inj h⟩

/-- There is fuel for a first step, since something is read. -/
theorem Faithful.of_succ
    {depth : Nat} {v : Json}
    (h : ∀ (fuel : Nat) (rest : List Char) (r : Json × List Char),
      endsNumber rest = true →
      value (fuel + 1) depth (chars compact v ++ rest) = .ok r →
      r = (normal v, rest)) :
    Faithful depth v := by
  intro fuel rest r hrest hr
  cases fuel with
  | zero =>
      rw [value] at hr
      cases hr
  | succ fuel =>
      exact h fuel rest r hrest hr

/-! ## Integers -/

/-- An integer that is too long is refused. -/
theorem value_of_long
    (fuel depth : Nat)
    {i : Int} {rest : List Char}
    (hi : wholeLimit < (Decimal.natChars i.natAbs).length)
    (hrest : endsNumber rest = true) :
    ∃ r, value (fuel + 1) depth (Decimal.intChars i ++ rest) = .error r := by
  unfold Decimal.intChars
  split
  · obtain ⟨r, hr⟩ := number_of_long true hi hrest
    refine ⟨(.numberTooLong, r), ?_⟩
    rw [List.cons_append, value_atom fuel depth (by decide) (by decide) (by decide)
      (by decide), atom, hr]
  · obtain ⟨r, hr⟩ := number_of_long false hi hrest
    obtain ⟨d, ds, hds, hd⟩ := Decimal.natChars_starts i.natAbs
    have hopens : ∀ c, Json.isDigit c = false → d ≠ c := by
      rintro c hc rfl
      rw [hc] at hd
      cases hd
    have hstarts : startsValue d = true := by simp [startsValue, hd]
    refine ⟨(.numberTooLong, r), ?_⟩
    rw [hds, List.cons_append, value_atom fuel depth hstarts (hopens _ (by decide))
      (hopens _ (by decide)) (hopens _ (by decide)), atom]
    · rw [isDigit_eq, hd, Bool.true_or, if_pos rfl, ← List.cons_append, ← hds, hr]
    all_goals
      rintro rfl
      exact absurd hd (by decide)

/-! ## Items -/

/-- What the reader does behind an item: it ends the list, or goes on to the next item. -/
def afterItem (fuel depth : Nat) (v : Json) : List Char → Reading (List Json × List Char)
  | [] => .error (.endInList, [])
  | ']' :: rest => .ok ([v], rest)
  | ',' :: rest =>
    match skip rest with
    | [] => .error (.endInValue, [])
    | ']' :: r => .error (.trailingComma, ']' :: r)
    | rest => do
      let (vs, rest) ← items fuel depth rest
      .ok (v :: vs, rest)
  | r => .error (.expectedListComma, r)

theorem items_succ
    (fuel depth : Nat)
    (cs : List Char) :
    items (fuel + 1) depth cs =
      (value fuel depth cs >>= fun r => afterItem fuel depth r.1 (skip r.2)) := by
  rw [items]
  rfl

/-- Behind a comma the reader goes on with the items that stand there. -/
theorem afterItem_comma
    (fuel depth : Nat)
    (v : Json)
    {c : Char}
    (hc : startsValue c = true)
    (cs : List Char) :
    afterItem fuel depth v (',' :: c :: cs) =
      (items fuel depth (c :: cs)).map fun r => (v :: r.1, r.2) := by
  rw [afterItem, skip_cons (Json.isBlank_of_startsValue hc)]
  split
  · rename_i heq
    cases heq
  · rename_i heq
    obtain ⟨rfl, -⟩ := List.cons.inj heq
    exact absurd rfl (Json.ne_of_startsValue hc).1
  · cases items fuel depth (c :: cs) <;> rfl

/-- Items of which nothing but their normal form is read are read as their normal forms together. -/
theorem eq_of_items
    {depth : Nat} {v : Json} {vs : List Json}
    (hfree : ∀ w ∈ v :: vs, DoubleFree w)
    (hfaithful : ∀ w ∈ v :: vs, Faithful depth w)
    {fuel : Nat} {rest : List Char} {r : List Json × List Char}
    (h : items fuel depth (itemChars compact (v :: vs) ++ ']' :: rest) = .ok r) :
    r = (normalItems (v :: vs), rest) := by
  induction vs generalizing v fuel r with
  | nil =>
      cases fuel with
      | zero =>
          rw [items] at h
          cases h
      | succ fuel =>
          rw [itemChars, items_succ] at h
          obtain ⟨r₁, hvalue, h⟩ := of_bind_eq_ok h
          obtain rfl := hfaithful v (by simp) fuel (']' :: rest) r₁ rfl hvalue
          rw [skip_cons (by decide), afterItem] at h
          cases h
          rfl
  | cons w ws ih =>
      cases fuel with
      | zero =>
          rw [items] at h
          cases h
      | succ fuel =>
          obtain ⟨c, cs, hcs, hc⟩ := (hfree w (by simp)).itemChars_starts compact ws
          have hcomma : compact.comma = [','] := rfl
          rw [itemChars, items_succ] at h
          simp only [hcomma, List.append_assoc, List.cons_append, List.nil_append] at h
          obtain ⟨r₁, hvalue, h⟩ := of_bind_eq_ok h
          obtain rfl := hfaithful v (by simp) fuel _ r₁ rfl hvalue
          rw [skip_cons (by decide), hcs, List.cons_append, afterItem_comma fuel depth _ hc] at h
          obtain ⟨r₂, hitems, rfl⟩ := of_map_eq_ok h
          rw [← List.cons_append, ← hcs] at hitems
          obtain rfl := ih (fun x hx => hfree x (List.mem_cons_of_mem v hx))
            (fun x hx => hfaithful x (List.mem_cons_of_mem v hx)) hitems
          rfl

/-! ## Members -/

theorem members_succ
    (fuel depth : Nat)
    (n : String)
    (cs : List Char) :
    members (fuel + 1) depth (stringChars false n ++ ':' :: cs) =
      (memberValue fuel depth cs >>= fun r => afterMember fuel depth (n, r.1) (skip r.2)) := by
  rw [Json.stringChars_append, members, string_string]
  simp only [bind, Except.bind, skip_cons (c := ':') (by decide), String.ofList_toList]
  unfold afterMember
  rfl

/-- The value of a member is read as any value, one container further down. -/
theorem eq_of_memberValue
    {depth : Nat} {v : Json}
    (hfree : DoubleFree v)
    (hfaithful : ∀ depth, Faithful depth v)
    {fuel : Nat} {rest : List Char} {r : Json × List Char}
    (hrest : endsNumber rest = true)
    (h : memberValue fuel depth (chars compact v ++ rest) = .ok r) :
    r = (normal v, rest) := by
  obtain ⟨c, cs, hcs, hc⟩ := hfree.chars_starts compact
  cases fuel with
  | zero =>
      rw [memberValue] at h
      cases h
  | succ fuel =>
      rw [hcs, List.cons_append] at h
      unfold memberValue at h
      simp only [skip_cons (Json.isBlank_of_startsValue hc)] at h
      cases depth with
      | zero =>
          cases h
      | succ depth =>
          have hvalue : value fuel depth (c :: (cs ++ rest)) = .ok r := h
          rw [← List.cons_append, ← hcs] at hvalue
          exact hfaithful depth fuel rest r hrest hvalue

/-- Behind a comma the reader goes on with the members that stand there. -/
theorem afterMember_comma
    (fuel depth : Nat)
    (m : String × Json)
    (cs : List Char) :
    afterMember fuel depth m (',' :: '"' :: cs) =
      (members fuel depth ('"' :: cs)).map fun r => (m :: r.1, r.2) := by
  rw [afterMember, skip_cons (by decide)]
  change (members fuel depth ('"' :: cs) >>= fun r => Except.ok (m :: r.1, r.2)) = _
  cases members fuel depth ('"' :: cs) <;> rfl

/-- Members of whose values nothing but their normal form is read are read as their normal forms
together. -/
theorem eq_of_members
    {depth : Nat} {m : String × Json} {ms : List (String × Json)}
    (hfree : ∀ m' ∈ m :: ms, DoubleFree m'.2)
    (hfaithful : ∀ m' ∈ m :: ms, ∀ depth, Faithful depth m'.2)
    {fuel : Nat} {rest : List Char} {r : List (String × Json) × List Char}
    (h : members fuel depth (memberChars compact (m :: ms) ++ '\x7d' :: rest) = .ok r) :
    r = (normalMembers (m :: ms), rest) := by
  have hascii : compact.ascii = false := rfl
  have hcolon : compact.colon = [':'] := rfl
  have hcomma : compact.comma = [','] := rfl
  induction ms generalizing m fuel r with
  | nil =>
      obtain ⟨n, v⟩ := m
      cases fuel with
      | zero =>
          rw [members] at h
          cases h
      | succ fuel =>
          rw [memberChars] at h
          simp only [hascii, hcolon, List.append_assoc, List.cons_append, List.nil_append] at h
          rw [members_succ] at h
          obtain ⟨r₁, hvalue, h⟩ := of_bind_eq_ok h
          obtain rfl := eq_of_memberValue (hfree (n, v) (by simp)) (hfaithful (n, v) (by simp)) rfl
            hvalue
          rw [skip_cons (by decide), afterMember] at h
          cases h
          rfl
  | cons m' ms ih =>
      obtain ⟨n, v⟩ := m
      cases fuel with
      | zero =>
          rw [members] at h
          cases h
      | succ fuel =>
          obtain ⟨cs, hcs⟩ := Json.memberChars_starts compact m' ms
          rw [memberChars] at h
          simp only [hascii, hcolon, hcomma, List.append_assoc, List.cons_append,
            List.nil_append] at h
          rw [members_succ] at h
          obtain ⟨r₁, hvalue, h⟩ := of_bind_eq_ok h
          obtain rfl := eq_of_memberValue (hfree (n, v) (by simp)) (hfaithful (n, v) (by simp)) rfl
            hvalue
          rw [skip_cons (by decide), hcs, List.cons_append, afterMember_comma] at h
          obtain ⟨r₂, hmembers, rfl⟩ := of_map_eq_ok h
          rw [← List.cons_append, ← hcs] at hmembers
          obtain rfl := ih (fun x hx => hfree x (List.mem_cons_of_mem _ hx))
            (fun x hx => hfaithful x (List.mem_cons_of_mem _ hx)) hmembers
          rfl

/-! ## Values -/

/-- Where there is no room for a container, one with something in it is refused. -/
theorem value_array_of_full
    (fuel : Nat)
    {c : Char}
    (hc : startsValue c = true)
    (cs : List Char) :
    ∃ r, value (fuel + 1) 0 ('[' :: c :: cs) = .error r := by
  refine ⟨(.tooDeep, c :: cs), ?_⟩
  rw [value, skip_cons (by decide)]
  simp only [skip_cons (Json.isBlank_of_startsValue hc)]
  split
  · rename_i heq
    cases heq
  · rename_i heq
    obtain ⟨rfl, -⟩ := List.cons.inj heq
    exact absurd rfl (Json.ne_of_startsValue hc).1
  · rfl
  · rename_i hzero _ _
    cases hzero

/-- An array is read faithfully if its items are, wherever they stand. -/
theorem Faithful.array
    {items : List Json}
    (hfree : ∀ v ∈ items, DoubleFree v)
    (h : ∀ v ∈ items, ∀ depth, Faithful depth v)
    (depth : Nat) :
    Faithful depth (.array items) := by
  refine .of_succ fun fuel rest r hrest hr => ?_
  rw [chars, List.cons_append, List.cons_append, List.append_assoc, List.singleton_append] at hr
  cases items with
  | nil =>
      rw [itemChars, List.nil_append, value_array_nil] at hr
      cases hr
      rfl
  | cons v vs =>
      obtain ⟨c, cs, hcs, hc⟩ := (hfree v (by simp)).itemChars_starts compact vs
      cases depth with
      | zero =>
          obtain ⟨refusal, hrefused⟩ := value_array_of_full fuel hc (cs ++ ']' :: rest)
          rw [hcs, List.cons_append, hrefused] at hr
          cases hr
      | succ depth =>
          rw [hcs, List.cons_append, value_array fuel depth hc] at hr
          obtain ⟨r₁, hitems, rfl⟩ := of_map_eq_ok hr
          rw [← List.cons_append, ← hcs] at hitems
          obtain rfl := eq_of_items hfree (fun w hw => h w hw depth) hitems
          rfl

/-- An object is read faithfully if its values are, wherever they stand. -/
theorem Faithful.object
    {members : List (String × Json)}
    (hfree : ∀ m ∈ members, DoubleFree m.2)
    (h : ∀ m ∈ members, ∀ depth, Faithful depth m.2)
    (depth : Nat) :
    Faithful depth (.object members) := by
  refine .of_succ fun fuel rest r hrest hr => ?_
  rw [chars, List.cons_append, List.cons_append, List.append_assoc, List.singleton_append] at hr
  cases members with
  | nil =>
      rw [memberChars, List.nil_append, value_object_nil] at hr
      cases hr
      rfl
  | cons m ms =>
      obtain ⟨cs, hcs⟩ := Json.memberChars_starts compact m ms
      rw [hcs, List.cons_append, value_object] at hr
      obtain ⟨r₁, hmembers, rfl⟩ := of_map_eq_ok hr
      rw [← List.cons_append, ← hcs] at hmembers
      obtain rfl := eq_of_members hfree h hmembers
      rfl

/-- Of a value without doubles nothing but its normal form is read, wherever it stands. -/
theorem faithful_of_doubleFree
    {v : Json}
    (h : DoubleFree v)
    (depth : Nat) :
    Faithful depth v := by
  induction h generalizing depth with
  | null =>
      refine .of_succ fun fuel rest r hrest hr => ?_
      have hvalue : value (fuel + 1) depth (chars compact .null ++ rest) = .ok (.null, rest) :=
        value_atom fuel depth (by decide) (by decide) (by decide) (by decide) _
      rw [hvalue] at hr
      cases hr
      rfl
  | bool b =>
      refine .of_succ fun fuel rest r hrest hr => ?_
      have hvalue : value (fuel + 1) depth (chars compact (.bool b) ++ rest) =
          .ok (.bool b, rest) := by
        cases b <;> exact value_atom fuel depth (by decide) (by decide) (by decide) (by decide) _
      rw [hvalue] at hr
      cases hr
      rfl
  | int i =>
      refine .of_succ fun fuel rest r hrest hr => ?_
      rw [chars] at hr
      -- integers with too many digits are refused, so nothing is read of them
      rcases Nat.lt_or_ge wholeLimit (Decimal.natChars i.natAbs).length with hlong | hfits
      · obtain ⟨refusal, hrefused⟩ := value_of_long fuel depth hlong hrest
        rw [hrefused] at hr
        cases hr
      · rw [value_int fuel depth hfits hrest] at hr
        cases hr
        rfl
  | text s =>
      refine .of_succ fun fuel rest r hrest hr => ?_
      have hvalue := value_text fuel depth s rest
      rw [chars, show compact.ascii = false from rfl, hvalue] at hr
      cases hr
      rfl
  | array items h ih =>
      exact .array h ih depth
  | object members h ih =>
      exact .object h ih depth

/-- What is read of a compact text of a value without doubles is the normal form of the value. -/
theorem eq_of_read_render
    {v w : Json}
    (h : DoubleFree v)
    (hread : read (Json.render compact v) = .ok w) :
    w = normal v := by
  rw [read, Json.render, String.toList_ofList] at hread
  have hfaithful := faithful_of_doubleFree h nestingLimit (3 * (chars compact v).length + 3) []
  rw [List.append_nil] at hfaithful
  cases hvalue : value (3 * (chars compact v).length + 3) nestingLimit (chars compact v) with
  | error r =>
      rw [hvalue] at hread
      cases hread
  | ok r =>
      rw [hvalue, hfaithful r rfl hvalue] at hread
      exact (Except.ok.inj hread).symm

end StrictJson
end Validation

/-! ## Reports -/

theorem Issue.doubleFree_toJson (i : Issue) :
    i.toJson.DoubleFree := by
  have hposition : ∀ position, (Issue.positionJson position).DoubleFree := by
    intro position
    cases position with
    | none => exact .null
    | some n => exact .int n
  refine .object _ ?_
  simp only [List.forall_mem_cons]
  exact ⟨.text _, hposition _, hposition _, .text _, .text _, by simp⟩

theorem Report.doubleFree_toJson (r : Report) :
    r.toJson.DoubleFree := by
  refine .object _ ?_
  simp only [List.forall_mem_cons]
  refine ⟨.bool _, .array _ ?_, by simp⟩
  intro v hv
  obtain ⟨i, -, rfl⟩ := List.mem_map.mp hv
  exact i.doubleFree_toJson

/-- A report that is read from its text is the report. -/
theorem Report.eq_of_read_render
    {r r' : Report}
    (h : Report.read r.render = .ok r') :
    r' = r := by
  rw [Report.read, Validation.readModel] at h
  cases hread : Validation.StrictJson.read r.render with
  | error reason =>
      rw [hread] at h
      cases h
  | ok j =>
      have hj := Validation.StrictJson.eq_of_read_render r.doubleFree_toJson hread
      rw [Report.normal_toJson] at hj
      rw [hread, hj] at h
      simp only [Report.check_toJson] at h
      exact (Except.ok.inj h).symm

end SqlDialects
