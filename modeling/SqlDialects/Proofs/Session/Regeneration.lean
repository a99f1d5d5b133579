import SqlDialects.Proofs.Session.Payload
import SqlDialects.Proofs.Session.Serving
import SqlDialects.Proofs.Session.Translation

/-!
# Parsing and rendering again, element by element

The payload of several trees is an array.  Every element of it is the payload of its own tree, and
rendering the elements one after the other is rendering the parsed trees one after the other.

**Input.**  An engine that serves, the trees that it parses, and the data that it dumps of each tree:
exchangeable, of fewer than ninety-nine nested containers.

**Results.**
* `Action.run_toPayloadMany_of_gives`: the payload of several trees is their payloads, joined.
* `Action.run_generate_of_form`: rendering an element is loading the form of the data and rendering
  what has been loaded.
* `Action.run_regenerate`: rendering all elements is loading and rendering all trees, in order, up to
  the first failure, if the engine loads what it dumps.
* `Action.elementWise_parse`: all of this of the payload that parsing gives.
-/

namespace SqlDialects
namespace Action

variable {σ α : Type}

/-- Writes elements again and renders each of them, in order, up to the first failure. -/
def regenerate (style : Json.Style) (target : String) : List Json → Action σ α (List String)
  | [] => return []
  | item :: items => do
      let element ←
        ofExcept ((Value.encode style (.ofJson item)).mapError Value.EncodeFault.failure)
      let text ← generate element target
      let texts ← regenerate style target items
      return text :: texts

/-- Lets an engine load the data of each tree and render the tree, in order, up to the first
failure. -/
def renderLoaded (e : Engine σ α) (data : α → Json) (d : Dialect) :
    List α → Action σ α (List String)
  | [] => return []
  | tree :: trees => do
      let _ ← engineTask (e.load (data tree))
      let text ← translating "generate" (engineTask (e.generate tree d false))
      let texts ← renderLoaded e data d trees
      return text :: texts

/-! ## Several trees -/

/-- All trees are dumped, in order. -/
theorem run_dumpAll_of_gives
    {e : Engine σ α} {data : α → Value} {trees : List α}
    (hdump : ∀ t ∈ trees, (e.dump t).Gives (data t))
    (p : Session σ α) :
    ∃ q, run (dumpAll e trees) p = (.ok (trees.map data), q) ∧ q.engine = p.engine := by
  induction trees generalizing p with
  | nil =>
      exact ⟨p, rfl, rfl⟩
  | cons t ts ih =>
      have htask := run_engineTask_of_run ((hdump t (by simp)).run_eq p.scene)
      obtain ⟨q, hrest, hengine⟩ := ih (fun u hu => hdump u (List.mem_cons_of_mem t hu))
        (p.resume (Task.run (e.dump t) p.scene).2)
      refine ⟨q, ?_, hengine⟩
      rw [dumpAll, run_bind_of_ok htask, run_bind_of_ok hrest]
      rfl

/-- The payload of several trees is the payloads of the trees, joined between brackets, and it is
read as the array of the forms of their data. -/
theorem run_toPayloadMany_of_gives
    {e : Engine σ α} {data : α → Value} {trees : List α} {depth : Nat}
    (hdump : ∀ t ∈ trees, (e.dump t).Gives (data t))
    (hform : ∀ t ∈ trees, (data t).HasForm depth)
    (hdepth : depth < Value.nestingLimit)
    (p : Session σ α) :
    ∃ (text : α → String) (q : Session σ α),
      (∀ t ∈ trees, ∀ r, (run (toPayload e t) r).1 = .ok (text t)) ∧
      run (toPayloadMany e trees) p = (.ok ("[" ++ ", ".intercalate (trees.map text) ++ "]"), q) ∧
      Json.read ("[" ++ ", ".intercalate (trees.map text) ++ "]") =
        .ok (.array (trees.map fun t => (data t).jsonForm)) ∧
      q.engine = p.engine := by
  have hforms : ∀ v ∈ trees.map data, v.HasForm depth := by
    intro v hv
    obtain ⟨t, ht, rfl⟩ := List.mem_map.mp hv
    exact hform t ht
  obtain ⟨text, htext, hlist, hread⟩ :=
    Value.encode_list_of_hasForm Json.separates_plain hforms hdepth
  obtain ⟨q, hdumps, hengine⟩ := run_dumpAll_of_gives hdump p
  rw [List.map_map] at hlist hread
  rw [List.map_map] at hread
  refine ⟨fun t => text (data t), q, ?_, ?_, hread, hengine⟩
  · intro t ht r
    rw [run_toPayload_of_encode (hdump t ht) (htext _ (List.mem_map_of_mem ht))]
  · exact run_writing_of_ok ((run_bind_of_ok hdumps _).trans (run_encode_of_ok hlist q))

/-! ## One element -/

/-- Loading what is read and rendering what has been loaded; if loading fails, nothing is rendered. -/
theorem run_generate_of_form
    {e : Engine σ α} {payload target : String} {data : Json} {d : Dialect} {p q : Session σ α}
    (hread : Json.read payload = .ok data)
    (hd : Dialect.resolve? target = some d)
    (hserves : run engine p = (.ok e, q)) :
    (∀ tree r, run (engineTask (e.load data)) q = (.ok tree, r) →
      run (generate payload target) p =
        run (translating "generate" (engineTask (e.generate tree d false))) r) ∧
    (∀ f r, run (engineTask (e.load data)) q = (.error f, r) →
      ∃ g j, run (generate payload target) p = (.error g, r.withJournal j)) := by
  constructor
  · intro tree r hload
    have htree := run_fromPayload_of_load hread hload
    rw [run_generate_of_serves payload hd hserves, run_bind_of_ok htree]
  · intro f r hload
    rw [run_generate_of_serves payload hd hserves]
    cases hpayload : f.isA .payload with
    | true =>
        obtain ⟨j, hrejected⟩ := run_fromPayload_of_rejected hread hload hpayload
        exact ⟨_, j, run_bind_of_error hrejected _⟩
    | false =>
        have hother := run_fromPayload_of_other hread hload hpayload
        exact ⟨f, r.journal, run_bind_of_error hother _⟩

/-! ## All elements -/

/-- Rendering the elements is loading and rendering the trees, in order, up to the first failure. -/
theorem run_regenerate
    {style : Json.Style}
    (hstyle : style.Separates)
    {e : Engine σ α} {data : α → Value} {trees : List α} {depth : Nat}
    (hform : ∀ t ∈ trees, (data t).HasForm depth)
    (hdepth : depth ≤ Value.nestingLimit)
    (hload : ∀ t ∈ trees, (e.load (data t).jsonForm).Gives t)
    {target : String} {d : Dialect}
    (hd : Dialect.resolve? target = some d)
    {p : Session σ α}
    (hserves : p.Serves e) :
    run (regenerate style target (trees.map fun t => (data t).jsonForm)) p =
      run (renderLoaded e (fun t => (data t).jsonForm) d trees) p := by
  induction trees generalizing p with
  | nil =>
      rfl
  | cons t ts ih =>
      obtain ⟨element, helement, hread⟩ :=
        Value.encode_ofJson_jsonForm hstyle (hform t (by simp)) hdepth
      have htask := run_engineTask_of_run ((hload t (by simp)).run_eq p.scene)
      have hgenerate := (run_generate_of_form hread hd (run_engine_of_serves hserves)).1 t _ htask
      have hkeeps := run_translating_keeps_engine (engineTask (e.generate t d false))
        (p.resume (Task.run (e.load (data t).jsonForm) p.scene).2) "generate"
      have hencode : run (ofExcept
          ((Value.encode style (.ofJson (data t).jsonForm)).mapError Value.EncodeFault.failure)) p =
            (.ok element, p) := by
        rw [run_ofExcept, helement]
        rfl
      rw [List.map_cons, regenerate, renderLoaded, run_bind_of_ok hencode, run_bind_of_ok htask,
        run_bind, run_bind, hgenerate]
      generalize run (translating "generate" (engineTask (e.generate t d false))) _ = result at *
      rcases result with ⟨f | text, q⟩
      · rfl
      · have hq : q.Serves e := by
          obtain ⟨n, hn⟩ := hserves
          exact ⟨n, hkeeps.trans hn⟩
        have hrest := ih (fun u hu => hform u (List.mem_cons_of_mem t hu))
          (fun u hu => hload u (List.mem_cons_of_mem t hu)) hq
        simp only [run_bind, hrest]

/-- What a payload of several trees is to the engine that has parsed them. -/
structure ElementWise (e : Engine σ α) (data : α → Value) (trees : List α) (payload : String) :
    Prop where
  /-- It is the payloads of the trees, in order, joined between brackets. -/
  joined : ∃ text : α → String,
    (∀ t ∈ trees, ∀ r, (run (toPayload e t) r).1 = .ok (text t)) ∧
    payload = "[" ++ ", ".intercalate (trees.map text) ++ "]"
  /-- It is read as an array with one element for each tree: the form of the data. -/
  decoded : Json.read payload = .ok (.array (trees.map fun t => (data t).jsonForm))
  /-- Each element, written again in any style, is a payload.  Rendering it makes the engine load the
  element and render what it has loaded; if loading fails, nothing is rendered. -/
  generated : ∀ t ∈ trees, ∀ style : Json.Style, style.Separates →
    ∃ element, Value.encode style (.ofJson (data t).jsonForm) = .ok element ∧
      ∀ target d, Dialect.resolve? target = some d →
      ∀ p q, run engine p = (.ok e, q) →
        (∀ tree r, run (engineTask (e.load (data t).jsonForm)) q = (.ok tree, r) →
          run (generate element target) p =
            run (translating "generate" (engineTask (e.generate tree d false))) r) ∧
        (∀ f r, run (engineTask (e.load (data t).jsonForm)) q = (.error f, r) →
          ∃ g j, run (generate element target) p = (.error g, r.withJournal j))
  /-- If the engine loads what it dumps, rendering all elements is rendering all trees in order, each
  one after it has been loaded, up to the first failure. -/
  regenerated : (∀ t ∈ trees, (e.load (data t).jsonForm).Gives t) →
    ∀ style : Json.Style, style.Separates →
    ∀ target d, Dialect.resolve? target = some d →
    ∀ p, p.Serves e →
      run (regenerate style target (trees.map fun t => (data t).jsonForm)) p =
        run (renderLoaded e (fun t => (data t).jsonForm) d trees) p

/--
The payload that parsing gives is made of its elements: it is the payloads of the parsed trees, it is
read as an array with one element for each of them, and rendering the elements is rendering the
trees.  The engine that has parsed serves from then on.
-/
theorem elementWise_parse
    {sql source : String} {d : Dialect} {p q : Session σ α} {e : Engine σ α} {trees : List α}
    {s : Scene σ}
    (hsource : Dialect.resolve? source = some d)
    (hserves : run engine p = (.ok e, q))
    (hparse : Task.run (e.parse sql d) q.scene = (.ok trees, s))
    (data : α → Value)
    (hdump : ∀ t ∈ trees, (e.dump t).Gives (data t))
    (hdata : ∀ t ∈ trees, (data t).Exchangeable)
    (hdepth : ∀ t ∈ trees, (data t).fitsWithin 98 = true) :
    ∃ payload r,
      run (parse sql source) p = (.ok payload, r) ∧
      r.Serves e ∧
      ElementWise e data trees payload := by
  have hform : ∀ t ∈ trees, (data t).HasForm 98 := by
    intro t ht
    exact Value.hasForm_of_exchangeable (hdata t ht) (hdepth t ht)
  have htask := run_translating_of_ok (run_engineTask_of_run hparse) "parse"
  obtain ⟨text, r, htext, hmany, hread, hengine⟩ :=
    run_toPayloadMany_of_gives hdump hform (by decide) (q.resume s)
  refine ⟨_, r, ?_, ?_, ⟨text, htext, rfl⟩, hread, ?_, ?_⟩
  · rw [run_parse_of_serves sql hsource hserves, run_bind_of_ok htask, hmany]
  · obtain ⟨n, hn⟩ := run_engine_serves hserves
    exact ⟨n, hengine.trans hn⟩
  · intro t ht style hstyle
    obtain ⟨element, helement, hread⟩ := Value.encode_ofJson_jsonForm hstyle (hform t ht) (by decide)
    refine ⟨element, helement, ?_⟩
    intro target d' hd' p' q' hserves'
    exact run_generate_of_form hread hd' hserves'
  · intro hload style hstyle target d' hd' p' hserves'
    exact run_regenerate hstyle hform (by decide) hload hd' hserves'

/-- A session whose engine parses two statements, the first of them into tangled data. -/
def parsesTwo : Session Scripted.State Value :=
  .inUse echo ⟨[(.parse, [.ok (.list [tangled, .list [.text "a"]])])], []⟩

theorem elementWise_parse_parsesTwo :
    Dialect.resolve? "mysql" = some .mysql ∧
    run engine parsesTwo = (.ok echo, parsesTwo) ∧
    (∃ s, Task.run (echo.parse "a; b" .mysql) parsesTwo.scene =
      (.ok [tangled, .list [.text "a"]], s)) ∧
    (∀ t, (echo.dump t).Gives t) ∧
    (∀ t ∈ [tangled, .list [.text "a"]], t.Exchangeable ∧ t.fitsWithin 98 = true) ∧
    ∃ payload r,
      run (parse "a; b" "mysql") parsesTwo = (.ok payload, r) ∧
      r.Serves echo ∧
      ElementWise echo id [tangled, .list [.text "a"]] payload := by
  have hsource : Dialect.resolve? "mysql" = some .mysql := by decide +kernel
  have hserves : run engine parsesTwo = (.ok echo, parsesTwo) := run_engine_of_serves ⟨0, rfl⟩
  have hparse : Task.run (echo.parse "a; b" .mysql) parsesTwo.scene =
      (.ok [tangled, .list [.text "a"]], _) := rfl
  have hdump : ∀ t, (echo.dump t).Gives t := fun t => Task.gives_pure t
  have hdata : ∀ t ∈ [tangled, .list [.text "a"]], t.Exchangeable ∧ t.fitsWithin 98 = true := by
    simp only [List.forall_mem_cons]
    refine ⟨⟨exchangeable_tangled, rfl⟩, ⟨.list _ ?_, rfl⟩, by simp⟩
    simp only [List.forall_mem_cons]
    exact ⟨.text "a", by simp⟩
  exact ⟨hsource, hserves, ⟨_, hparse⟩, hdump, hdata,
    elementWise_parse hsource hserves hparse id (fun t _ => hdump t)
      (fun t ht => (hdata t ht).1) (fun t ht => (hdata t ht).2)⟩

end Action
end SqlDialects
