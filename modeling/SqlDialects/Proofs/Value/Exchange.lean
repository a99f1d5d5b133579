import SqlDialects.Proofs.Json.RoundTrip
import SqlDialects.Value.Encoding

/-!
# Values that can be exchanged

Which values come through writing and reading, and what they have become then.

**Input.**  `Value.Exchangeable` values are built from nothing, truth values, integers within the
limit of digits, texts, lists, tuples, and dictionaries whose keys are texts, integers, truth values
or nothing.  A dialect counts as its text.

**Specification.**  `Value.jsonForm` is what such a value has become: a tuple is an array, a key is
its JSON text, and keys that coincide are one name, which stands where the first one stood and has
the value of the last one.

**Results.**
* `Value.hasForm_of_exchangeable`: an exchangeable value has a JSON form, and the normal form of that
  is `Value.jsonForm`.
* `Value.toJsonWithin_ofJson`: what has been read can be written again as it is.
* `Value.ofJson_jsonForm_of_plain`: lists and dictionaries with text keys stay as they are.
-/

namespace SqlDialects

namespace Decimal

/-- The text of an integer is its decimal representation. -/
theorem intText_eq_toString (i : Int) :
    intText i = toString i := by
  cases i with
  | ofNat n =>
      exact Nat.repr_eq_ofList_toDigits.symm
  | negSucc n =>
      have hnat : (Int.negSucc n).natAbs = n + 1 := rfl
      have hneg : Int.negSucc n < 0 := Int.negSucc_lt_zero n
      change _ = "-" ++ (n + 1).repr
      rw [intText, intChars, if_pos hneg, hnat, natChars, Nat.repr_eq_ofList_toDigits,
        String.ofList_cons]
      rfl

end Decimal

namespace Value

/-- A value that may stand as a key. -/
inductive IsKey : Value → Prop where
  | null : IsKey .null
  | bool (b : Bool) : IsKey (.bool b)
  | int (i : Int) (h : i.natAbs < 10 ^ 4300) : IsKey (.int i)
  | text (s : String) : IsKey (.text s)
  | member : IsKey (.foreign .member)

/-- A value without doubles that the data format can express. -/
inductive Exchangeable : Value → Prop where
  | null : Exchangeable .null
  | bool (b : Bool) : Exchangeable (.bool b)
  | int (i : Int) (h : i.natAbs < 10 ^ 4300) : Exchangeable (.int i)
  | text (s : String) : Exchangeable (.text s)
  | member : Exchangeable (.foreign .member)
  | list (items : List Value) (h : ∀ v ∈ items, Exchangeable v) : Exchangeable (.list items)
  | tuple (items : List Value) (h : ∀ v ∈ items, Exchangeable v) : Exchangeable (.tuple items)
  | dict (entries : List (Value × Value))
      (hkeys : ∀ e ∈ entries, IsKey e.1)
      (h : ∀ e ∈ entries, Exchangeable e.2) :
      Exchangeable (.dict entries)

/-- The name that a key becomes; values that are no keys have none. -/
def keyName : Value → String
  | .null => "null"
  | .bool true => "true"
  | .bool false => "false"
  | .int i => toString i
  | .text s => s
  | .foreign .member => "mysql"
  | _ => ""

mutual

/-- What a value is after it has been written and read.  What cannot be written counts as nothing;
no exchangeable value holds any of it. -/
def jsonForm : Value → Json
  | .bool b => .bool b
  | .int i => .int i
  | .text s => .text s
  | .list items => .array (itemForms items)
  | .tuple items => .array (itemForms items)
  | .dict entries => .object (Json.distinctMembers [] (memberForms entries))
  | .foreign .member => .text "mysql"
  | _ => .null

/-- The forms of items, in order. -/
def itemForms : List Value → List Json
  | [] => []
  | v :: vs => jsonForm v :: itemForms vs

/-- Entries with their keys as names and their values in form, in order. -/
def memberForms : List (Value × Value) → List (String × Json)
  | [] => []
  | (k, v) :: es => (keyName k, jsonForm v) :: memberForms es

end

/-! ## Writing -/

theorem isTooLong_of_lt
    {i : Int}
    (h : i.natAbs < 10 ^ 4300) :
    isTooLong i = false := by
  have hpow : ∀ n : Nat, Nat.pow 10 n = 10 ^ n := fun _ => rfl
  rw [isTooLong, decide_eq_false_iff_not, Nat.not_le]
  calc
    i.natAbs < 10 ^ 4300 := h
    _ = 10 ^ digitLimit := congrArg (10 ^ ·) (rfl : 4300 = digitLimit)
    _ = Nat.pow 10 digitLimit := (hpow digitLimit).symm

theorem lt_digitLimit
    {i : Int}
    (h : i.natAbs < 10 ^ 4300) :
    i.natAbs < 10 ^ Json.digitLimit := by
  rw [Json.digitLimit]
  exact h

theorem keyText_of_isKey
    {k : Value}
    (h : IsKey k) :
    keyText k = .ok (keyName k) := by
  cases h with
  | null | text | member =>
      rfl
  | bool b =>
      cases b <;> rfl
  | int i h =>
      rw [keyText, isTooLong_of_lt h, if_neg (by decide), Decimal.intText_eq_toString, keyName]

/-- The value has a JSON form, the same wherever there is room for `depth` containers: an exact one
whose normal form is the one specified. -/
def HasForm (depth : Nat) (v : Value) : Prop :=
  ∃ j,
    (∀ limit, depth ≤ limit → toJsonWithin none limit v = .ok j) ∧
    j.ExactWithin depth ∧
    j.normal = v.jsonForm

theorem itemsToJson_of_hasForm
    {depth : Nat} {items : List Value}
    (h : ∀ v ∈ items, HasForm depth v) :
    ∃ js,
      (∀ limit, depth ≤ limit → itemsToJson none limit items = .ok js) ∧
      (∀ j ∈ js, Json.ExactWithin depth j) ∧
      Json.normalItems js = itemForms items := by
  induction items with
  | nil =>
      exact ⟨[], fun _ _ => rfl, by simp, rfl⟩
  | cons v vs ih =>
      obtain ⟨j, hj, hexact, hnormal⟩ := h v (by simp)
      obtain ⟨js, hjs, hexacts, hnormals⟩ := ih fun w hw => h w (List.mem_cons_of_mem v hw)
      refine ⟨j :: js, ?_, ?_, ?_⟩
      · intro limit hle
        rw [itemsToJson, hj limit hle, hjs limit hle]
        rfl
      · intro k hk
        rcases List.mem_cons.mp hk with rfl | hk
        · exact hexact
        · exact hexacts k hk
      · rw [Json.normalItems, itemForms, hnormal, hnormals]

theorem entriesToJson_of_hasForm
    {depth : Nat} {entries : List (Value × Value)}
    (hkeys : ∀ e ∈ entries, IsKey e.1)
    (h : ∀ e ∈ entries, HasForm depth e.2) :
    ∃ ms,
      (∀ limit, depth ≤ limit → entriesToJson none limit entries = .ok ms) ∧
      (∀ m ∈ ms, Json.ExactWithin depth m.2) ∧
      Json.normalMembers ms = memberForms entries := by
  induction entries with
  | nil =>
      exact ⟨[], fun _ _ => rfl, by simp, rfl⟩
  | cons e es ih =>
      obtain ⟨k, v⟩ := e
      obtain ⟨j, hj, hexact, hnormal⟩ := h (k, v) (by simp)
      obtain ⟨ms, hms, hexacts, hnormals⟩ := ih
        (fun e he => hkeys e (List.mem_cons_of_mem _ he))
        (fun e he => h e (List.mem_cons_of_mem _ he))
      have hname := keyText_of_isKey (hkeys (k, v) (by simp))
      refine ⟨(keyName k, j) :: ms, ?_, ?_, ?_⟩
      · intro limit hle
        rw [entriesToJson, hname]
        simp only [hj limit hle, hms limit hle]
        rfl
      · intro m hm
        rcases List.mem_cons.mp hm with rfl | hm
        · exact hexact
        · exact hexacts m hm
      · rw [Json.normalMembers, memberForms, hnormal, hnormals]

theorem fitsWithin_of_mem_items
    {depth : Nat} {items : List Value}
    (h : itemsFitWithin depth items = true) :
    ∀ v ∈ items, v.fitsWithin depth = true := by
  induction items with
  | nil =>
      simp
  | cons v vs ih =>
      rw [itemsFitWithin, Bool.and_eq_true] at h
      intro w hw
      rcases List.mem_cons.mp hw with rfl | hw
      · exact h.1
      · exact ih h.2 w hw

theorem fitsWithin_of_mem_entries
    {depth : Nat} {entries : List (Value × Value)}
    (h : entriesFitWithin depth entries = true) :
    ∀ e ∈ entries, e.2.fitsWithin depth = true := by
  induction entries with
  | nil =>
      simp
  | cons e es ih =>
      rw [entriesFitWithin, Bool.and_eq_true, Bool.and_eq_true] at h
      intro e' he'
      rcases List.mem_cons.mp he' with rfl | he'
      · exact h.1.2
      · exact ih h.2 e' he'

theorem hasForm_of_items
    {depth : Nat} {items : List Value}
    (h : ∀ v ∈ items, HasForm depth v) :
    HasForm (depth + 1) (.list items) ∧ HasForm (depth + 1) (.tuple items) := by
  obtain ⟨js, hjs, hexact, hnormal⟩ := itemsToJson_of_hasForm h
  constructor <;> refine ⟨.array js, ?_, .array depth js hexact, by rw [Json.normal, jsonForm, hnormal]⟩
  all_goals
    intro limit hle
    obtain ⟨limit, rfl⟩ : ∃ l, limit = l + 1 := ⟨limit - 1, by omega⟩
    rw [toJsonWithin, hjs limit (by omega)]
    rfl

theorem hasForm_of_entries
    {depth : Nat} {entries : List (Value × Value)}
    (hkeys : ∀ e ∈ entries, IsKey e.1)
    (h : ∀ e ∈ entries, HasForm depth e.2) :
    HasForm (depth + 1) (.dict entries) := by
  obtain ⟨ms, hms, hexact, hnormal⟩ := entriesToJson_of_hasForm hkeys h
  refine ⟨.object ms, ?_, .object depth ms hexact, ?_⟩
  · intro limit hle
    obtain ⟨limit, rfl⟩ : ∃ l, limit = l + 1 := ⟨limit - 1, by omega⟩
    rw [toJsonWithin, hms limit (by omega)]
    rfl
  · rw [Json.normal, jsonForm, hnormal, Json.mergeMembers_eq_distinctMembers]

/-- An exchangeable value has a form, within what it needs. -/
theorem hasForm_of_exchangeable
    {v : Value}
    (h : Exchangeable v)
    {depth : Nat}
    (hdepth : v.fitsWithin depth = true) :
    HasForm depth v := by
  induction h generalizing depth with
  | null =>
      exact ⟨.null, fun _ _ => by rw [toJsonWithin], .null depth, rfl⟩
  | bool b =>
      exact ⟨.bool b, fun _ _ => by rw [toJsonWithin], .bool depth b, rfl⟩
  | int i h =>
      refine ⟨.int i, fun _ _ => ?_, .int depth i (lt_digitLimit h), rfl⟩
      rw [toJsonWithin, isTooLong_of_lt h, if_neg (by decide)]
  | text s =>
      exact ⟨.text s, fun _ _ => by rw [toJsonWithin], .text depth s, rfl⟩
  | member =>
      exact ⟨.text "mysql", fun _ _ => by rw [toJsonWithin], .text depth "mysql", rfl⟩
  | list items h ih =>
      cases depth with
      | zero =>
          simp [fitsWithin] at hdepth
      | succ depth =>
          rw [fitsWithin] at hdepth
          exact (hasForm_of_items fun v hv => ih v hv (fitsWithin_of_mem_items hdepth v hv)).1
  | tuple items h ih =>
      cases depth with
      | zero =>
          simp [fitsWithin] at hdepth
      | succ depth =>
          rw [fitsWithin] at hdepth
          exact (hasForm_of_items fun v hv => ih v hv (fitsWithin_of_mem_items hdepth v hv)).2
  | dict entries hkeys h ih =>
      cases depth with
      | zero =>
          simp [fitsWithin] at hdepth
      | succ depth =>
          rw [fitsWithin] at hdepth
          exact hasForm_of_entries hkeys fun e he =>
            ih e he (fitsWithin_of_mem_entries hdepth e he)

/-! ## What has been read -/

theorem itemsToJson_ofItems
    {depth : Nat} {items : List Json}
    (h : ∀ v ∈ items, toJsonWithin none depth (ofJson v) = .ok v) :
    itemsToJson none depth (ofItems items) = .ok items := by
  induction items with
  | nil =>
      rfl
  | cons v vs ih =>
      have hvs := ih fun w hw => h w (List.mem_cons_of_mem v hw)
      rw [ofItems, itemsToJson, h v (by simp), hvs]
      rfl

theorem entriesToJson_ofMembers
    {depth : Nat} {members : List (String × Json)}
    (h : ∀ m ∈ members, toJsonWithin none depth (ofJson m.2) = .ok m.2) :
    entriesToJson none depth (ofMembers members) = .ok members := by
  induction members with
  | nil =>
      rfl
  | cons m ms ih =>
      obtain ⟨n, v⟩ := m
      have hv := h (n, v) (by simp)
      have hms := ih fun m' hm => h m' (List.mem_cons_of_mem _ hm)
      rw [ofMembers, entriesToJson, keyText, hv, hms]
      rfl

/-- What has been read is written again as it is. -/
theorem toJsonWithin_ofJson
    {depth : Nat} {j : Json}
    (h : j.ExactWithin depth) :
    toJsonWithin none depth (ofJson j) = .ok j := by
  induction h with
  | null | bool | text =>
      rw [ofJson, toJsonWithin]
  | int depth i hi =>
      rw [Json.digitLimit] at hi
      rw [ofJson, toJsonWithin, isTooLong_of_lt hi, if_neg (by decide)]
  | array depth items h ih =>
      rw [ofJson, toJsonWithin, itemsToJson_ofItems ih]
      rfl
  | object depth members h ih =>
      rw [ofJson, toJsonWithin, entriesToJson_ofMembers ih]
      rfl

/-! ## Texts -/

/-- A value that has a form is written as a text that is read as the form. -/
theorem encode_of_hasForm
    {style : Json.Style}
    (hstyle : style.Separates)
    {v : Value} {depth : Nat}
    (h : HasForm depth v)
    (hdepth : depth ≤ nestingLimit) :
    ∃ text, encode style v = .ok text ∧ Json.read text = .ok v.jsonForm := by
  obtain ⟨j, hj, hexact, hnormal⟩ := h
  refine ⟨j.render style, ?_, ?_⟩
  · rw [encode, toJson, hj nestingLimit hdepth]
    rfl
  · rw [Json.read_render hstyle (hexact.mono hdepth), hnormal]

/-- The form, once it has been read, is written as a text that is read as the form again. -/
theorem encode_ofJson_jsonForm
    {style : Json.Style}
    (hstyle : style.Separates)
    {v : Value} {depth : Nat}
    (h : HasForm depth v)
    (hdepth : depth ≤ nestingLimit) :
    ∃ text, encode style (ofJson v.jsonForm) = .ok text ∧ Json.read text = .ok v.jsonForm := by
  obtain ⟨j, -, hexact, hnormal⟩ := h
  have hform : v.jsonForm.ExactWithin nestingLimit := hnormal ▸ (hexact.mono hdepth).normal
  refine ⟨v.jsonForm.render style, ?_, ?_⟩
  · rw [encode, toJson, toJsonWithin_ofJson hform]
    rfl
  · rw [Json.read_render hstyle hform, ← hnormal, Json.normal_normal]

/-! ## Lists of values -/

theorem itemForms_eq_map (items : List Value) :
    itemForms items = items.map jsonForm := by
  induction items with
  | nil =>
      rfl
  | cons v vs ih =>
      rw [itemForms, ih, List.map_cons]

theorem itemsToJson_eq_map
    {depth : Nat} {items : List Value} {f : Value → Json}
    (h : ∀ v ∈ items, toJsonWithin none depth v = .ok (f v)) :
    itemsToJson none depth items = .ok (items.map f) := by
  induction items with
  | nil =>
      rfl
  | cons v vs ih =>
      rw [itemsToJson, h v (by simp), ih fun w hw => h w (List.mem_cons_of_mem v hw)]
      rfl

/-- A list is written as the texts of its items, joined between brackets, and it is read as the
array of their forms. -/
theorem encode_list_of_hasForm
    {style : Json.Style}
    (hstyle : style.Separates)
    {items : List Value} {depth : Nat}
    (h : ∀ v ∈ items, HasForm depth v)
    (hdepth : depth < nestingLimit) :
    ∃ text : Value → String,
      (∀ v ∈ items, encode style v = .ok (text v)) ∧
      encode style (.list items) =
        .ok ("[" ++ (String.ofList style.comma).intercalate (items.map text) ++ "]") ∧
      Json.read ("[" ++ (String.ofList style.comma).intercalate (items.map text) ++ "]") =
        .ok (.array (items.map jsonForm)) := by
  have hform : ∀ v, ∃ j, v ∈ items →
      ∀ limit, depth ≤ limit → toJsonWithin none limit v = .ok j := by
    intro v
    by_cases hv : v ∈ items
    · obtain ⟨j, hj, -⟩ := h v hv
      exact ⟨j, fun _ => hj⟩
    · exact ⟨.null, fun hmem => absurd hmem hv⟩
  obtain ⟨f, hf⟩ := Classical.axiomOfChoice hform
  have hitems : ∀ v ∈ items, encode style v = .ok ((f v).render style) := by
    intro v hv
    rw [encode, toJson, hf v hv nestingLimit (by omega)]
    rfl
  have hlist : encode style (.list items) = .ok ("[" ++ (String.ofList style.comma).intercalate
      (items.map fun v => (f v).render style) ++ "]") := by
    obtain ⟨limit, hlimit⟩ : ∃ l, nestingLimit = l + 1 := ⟨_, rfl⟩
    have hforms := itemsToJson_eq_map fun v hv => hf v hv limit (by omega)
    have htoJson : toJson (.list items) = .ok (.array (items.map f)) := by
      rw [toJson, hlimit, toJsonWithin, hforms]
      rfl
    rw [encode, htoJson, Except.map, Json.render_array, List.map_map]
    rfl
  obtain ⟨text, htext, hread⟩ := encode_of_hasForm hstyle (hasForm_of_items h).1 hdepth
  rw [hlist] at htext
  cases htext
  rw [jsonForm, itemForms_eq_map] at hread
  exact ⟨_, hitems, hlist, hread⟩

/-! ## Values that stay as they are -/

/-- A value made only of lists and of dictionaries with distinct texts as keys; nothing, truth
values, integers and texts stand in them. -/
inductive Plain : Value → Prop where
  | null : Plain .null
  | bool (b : Bool) : Plain (.bool b)
  | int (i : Int) : Plain (.int i)
  | text (s : String) : Plain (.text s)
  | list (items : List Value) (h : ∀ v ∈ items, Plain v) : Plain (.list items)
  | dict (members : List (String × Value))
      (hnames : (members.map Prod.fst).Nodup)
      (h : ∀ m ∈ members, Plain m.2) :
      Plain (.dict (members.map fun m => (.text m.1, m.2)))

theorem ofItems_itemForms
    {items : List Value}
    (h : ∀ v ∈ items, ofJson v.jsonForm = v) :
    ofItems (itemForms items) = items := by
  induction items with
  | nil =>
      rfl
  | cons v vs ih =>
      rw [itemForms, ofItems, h v (by simp), ih fun w hw => h w (List.mem_cons_of_mem v hw)]

theorem memberForms_of_texts (members : List (String × Value)) :
    memberForms (members.map fun m => (.text m.1, m.2)) =
      members.map fun m => (m.1, m.2.jsonForm) := by
  induction members with
  | nil =>
      rfl
  | cons m ms ih =>
      rw [List.map_cons, memberForms, ih]
      rfl

theorem ofMembers_of_texts
    {members : List (String × Value)}
    (h : ∀ m ∈ members, ofJson m.2.jsonForm = m.2) :
    ofMembers (members.map fun m => (m.1, m.2.jsonForm)) =
      members.map fun m => (.text m.1, m.2) := by
  induction members with
  | nil =>
      rfl
  | cons m ms ih =>
      have hms := ih fun m' hm => h m' (List.mem_cons_of_mem m hm)
      rw [List.map_cons, ofMembers, h m (by simp), hms, List.map_cons]

/-- A plain value comes back unchanged. -/
theorem ofJson_jsonForm_of_plain
    {v : Value}
    (h : Plain v) :
    ofJson v.jsonForm = v := by
  induction h with
  | null | bool | int | text =>
      rfl
  | list items h ih =>
      rw [jsonForm, ofJson, ofItems_itemForms ih]
  | dict members hnames h ih =>
      have hdistinct : ((members.map fun m => (m.1, m.2.jsonForm)).map Prod.fst).Nodup := by
        rw [List.map_map]
        exact hnames
      rw [jsonForm, memberForms_of_texts, Json.distinctMembers_of_nodup hdistinct (by simp), ofJson,
        ofMembers_of_texts ih]

end Value
end SqlDialects
