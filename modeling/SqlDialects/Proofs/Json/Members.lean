import SqlDialects.Json.Basic

/-!
# Members that coincide

What becomes of the members of an object when names are repeated.

**Specification.**  `Json.distinctMembers` goes through the members from the front.  A name stands
where it is met first and has the value that it has last (`Json.lastOf`).  Nothing is updated in
place, as it is where objects are built one member after the other.

**Results.**
* `Json.mergeMembers_eq_distinctMembers`: building an object member by member gives exactly that.
* `Json.nodup_distinctMembers` and `Json.distinctMembers_of_nodup`: names are distinct afterwards,
  and members with distinct names stay as they are.
* `Json.normal_normal`: a normal form is its own normal form.
-/

namespace SqlDialects
namespace Json

variable {α : Type}

/-- The value that a name has last among some members, or the one given if it does not occur. -/
def lastOf (name : String) (value : α) : List (String × α) → α
  | [] => value
  | (n, v) :: ms => lastOf name (if n = name then v else value) ms

/-- The members apart from names seen before: each name where it stands first, with the value that
it has last. -/
def distinctMembers (seen : List String) : List (String × α) → List (String × α)
  | [] => []
  | (n, v) :: ms =>
      if n ∈ seen then distinctMembers seen ms
      else (n, lastOf n v ms) :: distinctMembers (seen ++ [n]) ms

/-! ## One member -/

theorem setMember_of_not_mem
    {name : String} {value : α} {ms : List (String × α)}
    (h : name ∉ ms.map Prod.fst) :
    setMember name value ms = ms ++ [(name, value)] := by
  induction ms with
  | nil =>
      rfl
  | cons m ms ih =>
      simp only [List.map_cons, List.mem_cons, not_or] at h
      rw [setMember, if_neg (Ne.symm h.1), ih h.2, List.cons_append]

theorem setMember_of_mem
    {name : String}
    (value : α)
    {ms : List (String × α)}
    (hnodup : (ms.map Prod.fst).Nodup)
    (h : name ∈ ms.map Prod.fst) :
    setMember name value ms = ms.map fun m => (m.1, if name = m.1 then value else m.2) := by
  induction ms with
  | nil =>
      simp at h
  | cons m ms ih =>
      obtain ⟨n, v⟩ := m
      rw [List.map_cons, List.nodup_cons] at hnodup
      rw [setMember]
      split
      · subst n
        have hname : name ∉ ms.map Prod.fst := hnodup.1
        have hrest : ∀ m ∈ ms, (m.1, if name = m.1 then value else m.2) = m := by
          intro m hm
          have hne : name ≠ m.1 := by
            intro he
            exact hname (he ▸ List.mem_map_of_mem hm)
          rw [if_neg hne]
        rw [List.map_cons, if_pos rfl, List.map_congr_left hrest, List.map_id']
      · have hmem : name ∈ ms.map Prod.fst := by
          simpa [Ne.symm ‹¬ n = name›] using h
        rw [ih hnodup.2 hmem, List.map_cons, if_neg (Ne.symm ‹¬ n = name›)]

theorem map_fst_setMember
    {name : String}
    (value : α)
    {ms : List (String × α)}
    (hnodup : (ms.map Prod.fst).Nodup)
    (h : name ∈ ms.map Prod.fst) :
    (setMember name value ms).map Prod.fst = ms.map Prod.fst := by
  rw [setMember_of_mem value hnodup h, List.map_map]
  rfl

/-! ## All members -/

/-- Members that are set one after the other, from members with distinct names on. -/
theorem foldl_setMember
    {acc : List (String × α)}
    (hacc : (acc.map Prod.fst).Nodup)
    (ms : List (String × α)) :
    ms.foldl (fun acc m => setMember m.1 m.2 acc) acc =
      acc.map (fun m => (m.1, lastOf m.1 m.2 ms)) ++ distinctMembers (acc.map Prod.fst) ms := by
  induction ms generalizing acc with
  | nil =>
      simp [lastOf, distinctMembers]
  | cons m ms ih =>
      obtain ⟨n, v⟩ := m
      rw [List.foldl_cons, distinctMembers]
      -- a name that is there keeps its place, any other goes to the end
      split
      · rename_i hn
        have hnames := map_fst_setMember v hacc hn
        rw [ih (by rwa [hnames]), hnames, setMember_of_mem v hacc hn, List.map_map]
        rfl
      · rename_i hn
        have hnames : (acc ++ [(n, v)]).map Prod.fst = acc.map Prod.fst ++ [n] := by
          simp
        have hnodup : (acc.map Prod.fst ++ [n]).Nodup := by
          rw [List.nodup_append]
          refine ⟨hacc, by simp, ?_⟩
          intro a ha b hb hab
          rw [List.mem_singleton.mp hb] at hab
          exact hn (hab ▸ ha)
        have hvalues : ∀ m ∈ acc, (m.1, lastOf m.1 m.2 ms) = (m.1, lastOf m.1 m.2 ((n, v) :: ms)) := by
          intro m hm
          have hne : n ≠ m.1 := by
            intro he
            exact hn (he ▸ List.mem_map_of_mem hm)
          rw [lastOf, if_neg hne]
        rw [setMember_of_not_mem hn, ih (by rwa [hnames]), hnames, List.map_append,
          List.map_congr_left hvalues, List.append_assoc]
        rfl

/-- An object keeps each name where it stands first, with the value that it has last. -/
theorem mergeMembers_eq_distinctMembers (ms : List (String × α)) :
    mergeMembers ms = distinctMembers [] ms := by
  rw [mergeMembers, foldl_setMember (by simp)]
  rfl

/-! ## Names afterwards -/

theorem not_mem_distinctMembers
    {seen : List String} {name : String}
    (hname : name ∈ seen)
    (ms : List (String × α)) :
    name ∉ (distinctMembers seen ms).map Prod.fst := by
  induction ms generalizing seen with
  | nil =>
      simp [distinctMembers]
  | cons m ms ih =>
      obtain ⟨n, v⟩ := m
      rw [distinctMembers]
      split
      · exact ih hname
      · rename_i hn
        have hne : name ≠ n := by
          intro he
          exact hn (he ▸ hname)
        rw [List.map_cons, List.mem_cons, not_or]
        exact ⟨hne, ih (List.mem_append_left [n] hname)⟩

theorem nodup_distinctMembers
    (seen : List String)
    (ms : List (String × α)) :
    ((distinctMembers seen ms).map Prod.fst).Nodup := by
  induction ms generalizing seen with
  | nil =>
      simp [distinctMembers]
  | cons m ms ih =>
      obtain ⟨n, v⟩ := m
      rw [distinctMembers]
      split
      · exact ih seen
      · rw [List.map_cons, List.nodup_cons]
        exact ⟨not_mem_distinctMembers (by simp) ms, ih _⟩

theorem lastOf_of_not_mem
    {name : String}
    (value : α)
    {ms : List (String × α)}
    (h : name ∉ ms.map Prod.fst) :
    lastOf name value ms = value := by
  induction ms with
  | nil =>
      rfl
  | cons m ms ih =>
      simp only [List.map_cons, List.mem_cons, not_or] at h
      rw [lastOf, if_neg (Ne.symm h.1), ih h.2]

/-- Members with distinct names, none of them seen before, stay as they are. -/
theorem distinctMembers_of_nodup
    {seen : List String} {ms : List (String × α)}
    (hnodup : (ms.map Prod.fst).Nodup)
    (hseen : ∀ m ∈ ms, m.1 ∉ seen) :
    distinctMembers seen ms = ms := by
  induction ms generalizing seen with
  | nil =>
      rfl
  | cons m ms ih =>
      obtain ⟨n, v⟩ := m
      rw [List.map_cons, List.nodup_cons] at hnodup
      have hname : n ∉ ms.map Prod.fst := hnodup.1
      have hn : n ∉ seen := hseen (n, v) (by simp)
      have hrest : ∀ m ∈ ms, m.1 ∉ seen ++ [n] := by
        intro m hm hmem
        rcases List.mem_append.mp hmem with h | h
        · exact hseen m (List.mem_cons_of_mem _ hm) h
        · exact hname (List.mem_singleton.mp h ▸ List.mem_map_of_mem hm)
      rw [distinctMembers, if_neg hn, lastOf_of_not_mem v hname, ih hnodup.2 hrest]

theorem mergeMembers_of_nodup
    {ms : List (String × α)}
    (hnodup : (ms.map Prod.fst).Nodup) :
    mergeMembers ms = ms := by
  rw [mergeMembers_eq_distinctMembers]
  exact distinctMembers_of_nodup hnodup (by simp)

/-! ## Values afterwards -/

theorem lastOf_mem
    (name : String)
    (value : α)
    (ms : List (String × α)) :
    (name, lastOf name value ms) ∈ (name, value) :: ms := by
  induction ms generalizing value with
  | nil =>
      simp [lastOf]
  | cons m ms ih =>
      obtain ⟨n, v⟩ := m
      rw [lastOf]
      split
      · subst n
        exact List.mem_cons_of_mem _ (ih v)
      · rcases List.mem_cons.mp (ih value) with h | h
        · rw [h]
          exact List.mem_cons_self
        · exact List.mem_cons_of_mem _ (List.mem_cons_of_mem _ h)

/-- Nothing new comes in: a member that is kept is one of the members. -/
theorem mem_of_mem_distinctMembers
    {seen : List String} {ms : List (String × α)} {m : String × α}
    (h : m ∈ distinctMembers seen ms) :
    m ∈ ms := by
  induction ms generalizing seen with
  | nil =>
      exact h
  | cons m' ms ih =>
      obtain ⟨n, v⟩ := m'
      rw [distinctMembers] at h
      split at h
      · exact List.mem_cons_of_mem _ (ih h)
      · rcases List.mem_cons.mp h with rfl | h
        · exact lastOf_mem n v ms
        · exact List.mem_cons_of_mem _ (ih h)

/-! ## Normal forms -/

theorem normalItems_eq_map (items : List Json) :
    normalItems items = items.map normal := by
  induction items with
  | nil =>
      rfl
  | cons v vs ih =>
      rw [normalItems, ih, List.map_cons]

theorem normalMembers_eq_map (ms : List (String × Json)) :
    normalMembers ms = ms.map fun m => (m.1, normal m.2) := by
  induction ms with
  | nil =>
      rfl
  | cons m ms ih =>
      rw [normalMembers, ih, List.map_cons]

/-- In the normal form of an object every member is in normal form, if those it came from are. -/
theorem normalMembers_mergeMembers
    {ms : List (String × Json)}
    (h : ∀ m ∈ ms, normal m.2 = m.2) :
    normalMembers (mergeMembers ms) = mergeMembers ms := by
  rw [mergeMembers_eq_distinctMembers, normalMembers_eq_map]
  have hfixed : ∀ m ∈ distinctMembers [] ms, (m.1, normal m.2) = m := by
    intro m hm
    rw [h m (mem_of_mem_distinctMembers hm)]
  rw [List.map_congr_left hfixed, List.map_id']

mutual

/-- A normal form is its own normal form. -/
theorem normal_normal : ∀ v : Json, normal (normal v) = normal v
  | .null | .bool _ | .int _ | .float _ | .text _ => rfl
  | .array items => by
      rw [normal, normal, normalItems_normalItems items]
  | .object ms => by
      have hfixed : ∀ m ∈ normalMembers ms, normal m.2 = m.2 := normal_of_mem_normalMembers ms
      have hdistinct : ((mergeMembers (normalMembers ms)).map Prod.fst).Nodup := by
        rw [mergeMembers_eq_distinctMembers]
        exact nodup_distinctMembers [] _
      rw [normal, normal, normalMembers_mergeMembers hfixed, mergeMembers_of_nodup hdistinct]

theorem normalItems_normalItems :
    ∀ items : List Json, normalItems (normalItems items) = normalItems items
  | [] => rfl
  | v :: vs => by
      rw [normalItems, normalItems, normal_normal v, normalItems_normalItems vs]

theorem normal_of_mem_normalMembers :
    ∀ ms : List (String × Json), ∀ m ∈ normalMembers ms, normal m.2 = m.2
  | [], m, hm => by
      simp [normalMembers] at hm
  | (n, v) :: ms, m, hm => by
      rw [normalMembers] at hm
      rcases List.mem_cons.mp hm with rfl | hm
      · exact normal_normal v
      · exact normal_of_mem_normalMembers ms m hm

end

end Json
end SqlDialects
