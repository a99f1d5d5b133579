import Mathlib.Data.List.Forall2
import Mathlib.Data.List.Nodup
import Mathlib.Data.Set.Insert
import SqlDialects.Settings.Dotenv

/-!
# Environment files

What the bindings of an environment file are made of, and which texts play no part in them.

**View.**  `Dotenv.lines` are the bindings as the lines of a text give them, before references are
replaced and before a name that is bound again loses its first value.

**Specification.**  `Dotenv.references` lists the variables that a value refers to.
`Dotenv.Rewritten` says that lines differ in values only, and which names are stale at the end: bound
to values that may differ.  A value that is kept refers to no name that is stale where it stands.

**Results.**
* `Dotenv.expand_congr`: an expansion depends on the variables that are referred to.
* `Dotenv.forall₂_bindLines`: lines that are rewritten give bindings that differ at stale names only.
* `Dotenv.find?_foldl_assign`: of several bindings of one name the last one counts.
-/

namespace SqlDialects
namespace Dotenv

/-! ## References -/

/-- The variables that a value refers to; every step uses up a character. -/
def references : (fuel : Nat) → List Char → List String
  | 0, _ => []
  | _ + 1, [] => []
  | fuel + 1, '$' :: '\x7b' :: cs =>
    match reference? cs with
    | some (name, _, rest) => String.ofList name :: references fuel rest
    | none => references fuel ('\x7b' :: cs)
  | fuel + 1, _ :: cs => references fuel cs

/-- The expansion of a value depends on the variables that it refers to. -/
theorem expand_congr
    {value? value'? : String → Option String} {fuel : Nat} {cs : List Char}
    (h : ∀ name ∈ references fuel cs, value? name = value'? name) :
    expand value? fuel cs = expand value'? fuel cs := by
  induction fuel, cs using references.induct with
  | case1 cs => rfl
  | case2 fuel => rfl
  | case3 fuel cs name fallback rest href ih =>
      simp only [references, href, List.forall_mem_cons] at h
      simp only [expand, href, h.1, ih h.2]
  | case4 fuel cs href ih =>
      simp only [references, href] at h
      simp only [expand, href, ih h]
  | case5 fuel c cs hc ih =>
      rw [references] at h
      · rw [expand, expand, ih h]
        all_goals exact hc
      · exact hc

/-! ## Names that are bound again -/

theorem find?_assign
    (name key : String)
    (value : Option String)
    (bound : List (String × Option String)) :
    (assign name value bound).find? (fun b => b.1 == key) =
      if name = key then some (name, value) else bound.find? fun b => b.1 == key := by
  induction bound with
  | nil =>
      rw [assign]
      split <;> simp_all
  | cons b bound ih =>
      obtain ⟨n, v⟩ := b
      rw [assign]
      by_cases hn : n = name
      · subst hn
        by_cases hkey : n = key <;> simp [hkey]
      · rw [if_neg hn, List.find?_cons, List.find?_cons, ih]
        by_cases hkey : n = key
        · subst hkey
          simp [Ne.symm hn]
        · simp [beq_eq_false_iff_ne.mpr hkey]

theorem mem_of_mem_assign
    {name : String} {value : Option String} {bound : List (String × Option String)}
    {b : String × Option String}
    (h : b ∈ assign name value bound) :
    b = (name, value) ∨ b ∈ bound := by
  induction bound with
  | nil =>
      exact .inl (List.mem_singleton.mp h)
  | cons c bound ih =>
      rw [assign] at h
      split at h
      · rename_i hc
        rcases List.mem_cons.mp h with rfl | hb
        · exact .inl (by rw [hc])
        · exact .inr (List.mem_cons_of_mem c hb)
      · rcases List.mem_cons.mp h with rfl | hb
        · exact .inr (List.mem_cons_self ..)
        · exact (ih hb).imp_right (List.mem_cons_of_mem c)

/-- What is bound in the end has been bound by one of the items. -/
theorem exists_of_mem_foldl_assign
    {ι : Type}
    (name : ι → String)
    (value : List (String × Option String) → ι → Option String)
    {items : List ι} {bound : List (String × Option String)} {b : String × Option String}
    (h : b ∈ items.foldl (fun acc x => assign (name x) (value acc x) acc) bound) :
    b ∈ bound ∨ ∃ x ∈ items, ∃ acc, b = (name x, value acc x) := by
  induction items generalizing bound with
  | nil =>
      exact .inl h
  | cons x items ih =>
      rcases ih h with hb | ⟨y, hy, acc, rfl⟩
      · rcases mem_of_mem_assign hb with rfl | hb
        · exact .inr ⟨x, List.mem_cons_self .., bound, rfl⟩
        · exact .inl hb
      · exact .inr ⟨y, List.mem_cons_of_mem x hy, acc, rfl⟩

/-- Of several bindings of one name the last one counts. -/
theorem find?_foldl_assign
    (form : String → String)
    (key : String)
    (items bound : List (String × Option String)) :
    (items.foldl (fun acc b => assign (form b.1) b.2 acc) bound).find? (fun b => b.1 == key) =
      ((items.reverse.find? fun b => form b.1 == key).map fun b => (key, b.2)).or
        (bound.find? fun b => b.1 == key) := by
  induction items generalizing bound with
  | nil =>
      rfl
  | cons b items ih =>
      rw [List.foldl_cons, ih, find?_assign, List.reverse_cons, List.find?_append]
      cases items.reverse.find? fun b => form b.1 == key with
      | some c => rfl
      | none =>
          by_cases hkey : form b.1 = key <;> simp [hkey]

/-! ## Bindings -/

/-- The bindings of the lines of a text, in order. -/
def lines (text : String) : List Binding :=
  let cs := Text.universalNewlines (dropOrderMark text.toList)
  readLines (cs.length + 1) cs

/-- The value of a line, with its references replaced. -/
def expanded (environment : List (String × String)) (bound : List (String × Option String))
    (value : List Char) : String :=
  String.ofList (expand (boundValue? bound environment) (value.length + 1) value)

/-- Binds the names of lines, one after the other. -/
def bindLines (environment : List (String × String)) (ls : List Binding)
    (bound : List (String × Option String)) : List (String × Option String) :=
  ls.foldl
    (fun bound l => assign (String.ofList l.1) (l.2.map (expanded environment bound)) bound) bound

theorem bindings_eq_bindLines
    (environment : List (String × String))
    (text : String) :
    bindings environment text = bindLines environment (lines text) [] := rfl

/-- What lines bind comes from one of them, and has a value if the line has one. -/
theorem exists_line_of_mem_bindLines
    {environment : List (String × String)} {ls : List Binding} {b : String × Option String}
    (h : b ∈ bindLines environment ls []) :
    ∃ l ∈ ls, String.ofList l.1 = b.1 ∧ l.2.isSome = b.2.isSome := by
  rcases exists_of_mem_foldl_assign (fun l : Binding => String.ofList l.1)
    (fun bound l => l.2.map (expanded environment bound)) h with hb | ⟨l, hl, acc, rfl⟩
  · cases hb
  · exact ⟨l, hl, rfl, by rw [Option.isSome_map]⟩

/-! ## Lines that are rewritten -/

/-- The variables that a line refers to. -/
def Binding.references (l : Binding) : List String :=
  match l.2 with
  | none => []
  | some v => Dotenv.references (v.length + 1) v

/-- Lines that differ in values only.  The names that are stale before the lines and after them are
bound to values that may differ; a line that is kept refers to no name that is stale there. -/
inductive Rewritten : (before : Set String) → (ls ls' : List Binding) → (after : Set String) → Prop
  | nil {before after : Set String} (h : before ⊆ after) : Rewritten before [] [] after
  | kept {before after : Set String} {l : Binding} {ls ls' : List Binding}
      (h : ∀ name ∈ l.references, name ∉ before)
      (hrest : Rewritten (before \ {String.ofList l.1}) ls ls' after) :
      Rewritten before (l :: ls) (l :: ls') after
  | replaced {before after : Set String} {name v v' : List Char} {ls ls' : List Binding}
      (hrest : Rewritten (insert (String.ofList name) before) ls ls' after) :
      Rewritten before ((name, some v) :: ls) ((name, some v') :: ls') after

/-- Lines that are rewritten bind the same names, to values or to nothing. -/
theorem Rewritten.exists_line
    {before after : Set String} {ls ls' : List Binding}
    (h : Rewritten before ls ls' after) :
    ∀ l' ∈ ls', ∃ l ∈ ls, l.1 = l'.1 ∧ l.2.isSome = l'.2.isSome := by
  induction h with
  | nil h =>
      simp
  | @kept before after l ls ls' hl hrest ih =>
      intro l' hl'
      rcases List.mem_cons.mp hl' with rfl | hl'
      · exact ⟨l', List.mem_cons_self .., rfl, rfl⟩
      · obtain ⟨m, hm, hsame⟩ := ih l' hl'
        exact ⟨m, List.mem_cons_of_mem l hm, hsame⟩
  | @replaced before after name v v' ls ls' hrest ih =>
      intro l' hl'
      rcases List.mem_cons.mp hl' with rfl | hl'
      · exact ⟨_, List.mem_cons_self .., rfl, rfl⟩
      · obtain ⟨m, hm, hsame⟩ := ih l' hl'
        exact ⟨m, List.mem_cons_of_mem _ hm, hsame⟩

/-- Bindings of one name, of one value unless the name is stale. -/
def Same {β : Type} (stale : Set String) (b b' : String × β) : Prop :=
  b'.1 = b.1 ∧ (b.1 ∉ stale → b'.2 = b.2)

theorem map_fst_of_same
    {β : Type} {stale : Set String} {l l' : List (String × β)}
    (h : List.Forall₂ (Same stale) l l') :
    l'.map Prod.fst = l.map Prod.fst := by
  induction h with
  | nil => rfl
  | cons hb hrest ih => rw [List.map_cons, List.map_cons, hb.1, ih]

/-- A search for names that are not stale finds the same. -/
theorem find?_of_same
    {β : Type} {stale : Set String} {l l' : List (String × β)}
    (h : List.Forall₂ (Same stale) l l')
    (found : String → Bool)
    (hfound : ∀ name, found name = true → name ∉ stale) :
    l'.find? (fun b => found b.1) = l.find? fun b => found b.1 := by
  induction h with
  | nil =>
      rfl
  | @cons b b' l l' hb hrest ih =>
      rw [List.find?_cons, List.find?_cons, hb.1, ih]
      cases hname : found b.1 with
      | false => rfl
      | true => exact congrArg some (Prod.ext hb.1 (hb.2 (hfound b.1 hname)))

/-- What is bound by lines and by the same lines rewritten, in their environments. -/
structure Tracks (environment environment' : List (String × String)) (stale : Set String)
    (bound bound' : List (String × Option String)) : Prop where
  same : List.Forall₂ (Same stale) bound bound'
  nodup : (bound.map Prod.fst).Nodup
  values : ∀ name, name ∉ stale →
    boundValue? bound environment name = boundValue? bound' environment' name

theorem boundValue?_assign
    (name key : String)
    (value : Option String)
    (bound : List (String × Option String))
    (environment : List (String × String)) :
    boundValue? (assign name value bound) environment key =
      if name = key then some (value.getD "") else boundValue? bound environment key := by
  rw [boundValue?, find?_assign]
  by_cases hname : name = key
  · rw [if_pos hname, if_pos hname]
  · rw [if_neg hname, if_neg hname]
    rfl

theorem map_fst_assign
    (name : String)
    (value : Option String)
    (bound : List (String × Option String)) :
    (assign name value bound).map Prod.fst =
      if name ∈ bound.map Prod.fst then bound.map Prod.fst else bound.map Prod.fst ++ [name] := by
  induction bound with
  | nil =>
      rfl
  | cons b bound ih =>
      rw [assign]
      by_cases hb : b.1 = name
      · simp [hb]
      · rw [if_neg hb, List.map_cons, ih, List.map_cons]
        by_cases hmem : name ∈ bound.map Prod.fst
        · rw [if_pos hmem, if_pos (List.mem_cons_of_mem _ hmem)]
        · have hcons := List.not_mem_cons_of_ne_of_not_mem (Ne.symm hb) hmem
          rw [if_neg hmem, if_neg hcons, List.cons_append]

theorem nodup_assign
    {name : String} {value : Option String} {bound : List (String × Option String)}
    (h : (bound.map Prod.fst).Nodup) :
    ((assign name value bound).map Prod.fst).Nodup := by
  rw [map_fst_assign]
  split
  · exact h
  · rename_i hname
    exact List.nodup_append.mpr ⟨h, List.nodup_singleton name,
      fun n hn m hm heq => hname (List.mem_singleton.mp hm ▸ heq ▸ hn)⟩

section Steps

variable {environment environment' : List (String × String)} {before after : Set String}
  {bound bound' : List (String × Option String)} {name : String} {value value' : Option String}

/-- A name that is not bound may go stale or be fresh again. -/
theorem forall₂_same_of_not_mem
    (hsame : List.Forall₂ (Same before) bound bound')
    (hname : name ∉ bound.map Prod.fst)
    (hafter : ∀ n, n ≠ name → n ∉ after → n ∉ before) :
    List.Forall₂ (Same after) bound bound' := by
  induction hsame with
  | nil =>
      exact .nil
  | @cons b b' bound bound' hb hrest ih =>
      rw [List.map_cons] at hname
      have hne : b.1 ≠ name := fun h => hname (h ▸ List.mem_cons_self ..)
      exact .cons ⟨hb.1, fun h => hb.2 (hafter b.1 hne h)⟩
        (ih fun h => hname (List.mem_cons_of_mem _ h))

theorem forall₂_assign
    (hsame : List.Forall₂ (Same before) bound bound')
    (hnodup : (bound.map Prod.fst).Nodup)
    (hafter : ∀ n, n ≠ name → n ∉ after → n ∉ before)
    (hvalue : name ∉ after → value' = value) :
    List.Forall₂ (Same after) (assign name value bound) (assign name value' bound') := by
  induction hsame with
  | nil =>
      exact .cons ⟨rfl, hvalue⟩ .nil
  | @cons b b' bound bound' hb hrest ih =>
      rw [List.map_cons, List.nodup_cons] at hnodup
      rw [assign, assign, hb.1]
      by_cases hname : b.1 = name
      · rw [if_pos hname, if_pos hname]
        refine .cons ⟨rfl, fun h => hvalue (hname ▸ h)⟩ ?_
        exact forall₂_same_of_not_mem hrest (hname ▸ hnodup.1) hafter
      · rw [if_neg hname, if_neg hname]
        exact .cons ⟨rfl, fun h => hb.2 (hafter b.1 hname h)⟩ (ih hnodup.2)

/-- Binding a name to values that are the same unless it is stale from then on. -/
theorem Tracks.assigned
    (h : Tracks environment environment' before bound bound')
    (hafter : ∀ n, n ≠ name → n ∉ after → n ∉ before)
    (hvalue : name ∉ after → value' = value) :
    Tracks environment environment' after (assign name value bound)
      (assign name value' bound') where
  same := forall₂_assign h.same h.nodup hafter hvalue
  nodup := nodup_assign h.nodup
  values := by
    intro n hn
    rw [boundValue?_assign, boundValue?_assign]
    by_cases hname : name = n
    · subst hname
      rw [if_pos rfl, if_pos rfl, hvalue hn]
    · rw [if_neg hname, if_neg hname, h.values n (hafter n (Ne.symm hname) hn)]

end Steps

/-- A value that refers to no stale name is expanded to the same text. -/
theorem Tracks.map_expanded
    {environment environment' : List (String × String)} {stale : Set String}
    {bound bound' : List (String × Option String)} {l : Binding}
    (h : Tracks environment environment' stale bound bound')
    (hl : ∀ name ∈ l.references, name ∉ stale) :
    l.2.map (expanded environment' bound') = l.2.map (expanded environment bound) := by
  obtain ⟨name, value⟩ := l
  cases value with
  | none =>
      rfl
  | some v =>
      have hexpand := expand_congr fun n hn => h.values n (hl n hn)
      rw [Option.map_some, Option.map_some, expanded, expanded, hexpand]

/-- Lines and the same lines rewritten, bound one after the other. -/
theorem Tracks.bindLines
    {environment environment' : List (String × String)} {before after : Set String}
    {bound bound' : List (String × Option String)} {ls ls' : List Binding}
    (hlines : Rewritten before ls ls' after)
    (h : Tracks environment environment' before bound bound') :
    Tracks environment environment' after (bindLines environment ls bound)
      (bindLines environment' ls' bound') := by
  induction hlines generalizing bound bound' with
  | nil hsubset =>
      exact ⟨h.same.imp fun _ _ hb => ⟨hb.1, fun hn => hb.2 fun hbefore => hn (hsubset hbefore)⟩,
        h.nodup, fun name hname => h.values name fun hbefore => hname (hsubset hbefore)⟩
  | kept hl hrest ih =>
      refine ih (h.assigned ?_ fun _ => h.map_expanded hl)
      intro n hn hafter hbefore
      exact hafter ⟨hbefore, hn⟩
  | replaced hrest ih =>
      refine ih (h.assigned ?_ fun hfresh => absurd (Set.mem_insert _ _) hfresh)
      intro n hn hafter hbefore
      exact hafter (Set.mem_insert_of_mem _ hbefore)

/-- Lines that are rewritten, in environments that differ in stale names only, bind values that differ
in stale names only. -/
theorem forall₂_bindLines
    {environment environment' : List (String × String)} {before after : Set String}
    {ls ls' : List Binding}
    (henvironment : List.Forall₂ (Same before) environment environment')
    (hlines : Rewritten before ls ls' after) :
    List.Forall₂ (Same after) (bindLines environment ls []) (bindLines environment' ls' []) := by
  refine (Tracks.bindLines hlines ⟨.nil, List.nodup_nil, fun name hname => ?_⟩).same
  have hfind := find?_of_same henvironment (· == name) fun n hn => beq_iff_eq.mp hn ▸ hname
  rw [boundValue?, boundValue?, List.find?_nil]
  dsimp only
  rw [hfind]

end Dotenv
end SqlDialects
