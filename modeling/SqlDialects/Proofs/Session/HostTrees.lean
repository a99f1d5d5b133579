import SqlDialects.Proofs.Session.Payload
import SqlDialects.Proofs.Session.Serving
import SqlDialects.Proofs.Session.Translation
import SqlDialects.Session.Host

/-!
# Trees in the hands of a host

A host that has parsed a statement holds the decoded payload, and not its text.  When it hands the
tree back, the tree is written again, in ASCII and with escapes in place of all other characters.
That is another text than the payload, and it is read alike.

**Input.**  A session in which a single statement is parsed, and the data that the engine dumps of
its tree: exchangeable, of fewer than a hundred nested containers, and no text.  A text would be
taken for a payload and not be written again.

**Results.**
* `Action.run_generate_congr`: of a payload only what is read of it matters.
* `Action.parseOne_hostGenerate`: rendering the decoded payload and rendering the payload are one
  run, with one outcome and one session after it, in every session.
-/

namespace SqlDialects

namespace Value

/-- No text comes of a value that stands for none. -/
theorem text?_ofJson_jsonForm
    {v : Value}
    (h : v.Exchangeable)
    (htext : v.text? = none) :
    (ofJson v.jsonForm).text? = none := by
  cases h with
  | text | member =>
      simp [text?] at htext
  | null | bool | int | list | tuple | dict =>
      simp only [jsonForm, ofJson, text?]

end Value

namespace Action

variable {σ α : Type}

/-- Texts that are read as the same data are payloads of the same tree. -/
theorem fromPayload_congr
    (e : Engine σ α)
    {payload payload' : String} {data : Json}
    (h : Json.read payload = .ok data)
    (h' : Json.read payload' = .ok data) :
    fromPayload e payload = fromPayload e payload' := by
  simp only [fromPayload, h, h']

/-- Texts that are read as the same data are rendered in one way, whatever the dialect and whether
or not there is one of its name. -/
theorem run_generate_congr
    {payload payload' : String} {data : Json}
    (h : Json.read payload = .ok data)
    (h' : Json.read payload' = .ok data)
    (target : String)
    (p : Session σ α) :
    run (generate payload target) p = run (generate payload' target) p := by
  simp only [generate, fromPayload_congr _ h h']

/-- A host's tree that is no text is rendered as the payload that it is written as. -/
theorem run_hostGenerate_of_encode
    {tree : Value} {text : String}
    (hvalue : tree.text? = none)
    (htext : Value.encode Json.ascii tree = .ok text)
    (choice : DialectChoice)
    (p : Session σ α) :
    run (hostGenerate tree choice) p = run (chosenName choice >>= generate text) p := by
  have hpayload : run (hostPayload tree) p = (.ok text, p) := by
    simp only [hostPayload, hvalue, htext, run_ofExcept]
    rfl
  rw [hostGenerate, run_bind_of_ok hpayload]

/-- Reading a payload as a value. -/
theorem run_decode_of_read
    {text : String} {data : Json}
    (h : Json.read text = .ok data)
    (p : Session σ α) :
    run (decode text) p = (.ok (.ofJson data), p) := by
  rw [decode, run_ofExcept, h]

/--
Rendering a decoded tree is, in every session, the same run as rendering a payload: the outcome is
the same, be it a text or a failure, and so is the session that is left, with all that the engine
has been asked to do.
-/
structure RendersAs (σ α : Type) (decoded : Value) (payload : String) : Prop where
  /-- The dialect is given by a name, whether or not there is one of the name. -/
  named : ∀ (target : String) (p : Session σ α),
    run (hostGenerate decoded (.name target)) p = run (generate payload target) p
  /-- The dialect is given as such. -/
  member : ∀ (d : Dialect) (p : Session σ α),
    run (hostGenerate decoded (.member d)) p = run (generate payload d.name) p
  /-- The dialect is left out. -/
  unspecified : ∀ p : Session σ α,
    run (hostGenerate decoded .unspecified) p =
      run (chosenName .unspecified >>= generate payload) p

/-- A statement is parsed and its payload is decoded.  What has been decoded is rendered as the
payload itself. -/
theorem parseOne_hostGenerate
    {sql source : String} {d : Dialect} {p q : Session σ α} {e : Engine σ α} {tree : α}
    {s s' : Scene σ} {v : Value}
    (hsource : Dialect.resolve? source = some d)
    (hserves : run engine p = (.ok e, q))
    (hparse : Task.run (e.parseOne sql d) q.scene = (.ok tree, s))
    (hdump : Task.run (e.dump tree) (q.resume s).scene = (.ok v, s'))
    (hdata : v.Exchangeable)
    (hdepth : v.fitsWithin 99 = true)
    (hvalue : v.text? = none) :
    ∃ payload decoded r,
      run (parseOne sql source) p = (.ok payload, r) ∧
      run (decode payload) r = (.ok decoded, r) ∧
      RendersAs σ α decoded payload := by
  have hform : v.HasForm 99 := Value.hasForm_of_exchangeable hdata hdepth
  obtain ⟨payload, hpayload, hread⟩ :=
    Value.encode_of_hasForm Json.separates_plain hform (by decide)
  obtain ⟨text, htext, hread'⟩ :=
    Value.encode_ofJson_jsonForm Json.separates_ascii hform (by decide)
  have htask := run_translating_of_ok (run_engineTask_of_run hparse) "parse_one"
  have hhost := run_hostGenerate_of_encode (σ := σ) (α := α)
    (Value.text?_ofJson_jsonForm hdata hvalue) htext
  have hsame : ∀ target (r : Session σ α),
      run (generate text target) r = run (generate payload target) r :=
    run_generate_congr hread' hread
  refine ⟨payload, .ofJson v.jsonForm, (q.resume s).resume s', ?_, ?_, ?_, ?_, ?_⟩
  · rw [run_parseOne_of_serves sql hsource hserves, run_bind_of_ok htask,
      run_toPayload_of_run hdump hpayload]
  · exact run_decode_of_read hread _
  · intro target r
    rw [hhost, chosenName, pure_bind, hsame]
  · intro d' r
    rw [hhost, chosenName, pure_bind, hsame]
  · intro r
    rw [hhost, run_bind, run_bind]
    rcases run (chosenName .unspecified) r with ⟨_ | name, r'⟩
    · rfl
    · exact hsame name r'

/-- A session whose engine parses a statement into tangled data, with characters beyond the
sixteen-bit range and keys that coincide. -/
def parsesTangled : Session Scripted.State Value :=
  .inUse echo ⟨[(.parseOne, [.ok tangled])], []⟩

theorem parseOne_hostGenerate_tangled :
    Dialect.resolve? "mysql" = some .mysql ∧
    run engine parsesTangled = (.ok echo, parsesTangled) ∧
    (∃ s, Task.run (echo.parseOne "SELECT 1" .mysql) parsesTangled.scene = (.ok tangled, s) ∧
      ∃ s', Task.run (echo.dump tangled) (parsesTangled.resume s).scene = (.ok tangled, s')) ∧
    tangled.Exchangeable ∧
    tangled.fitsWithin 99 = true ∧
    tangled.text? = none ∧
    ∃ payload decoded r,
      run (parseOne "SELECT 1" "mysql") parsesTangled = (.ok payload, r) ∧
      run (decode payload) r = (.ok decoded, r) ∧
      RendersAs Scripted.State Value decoded payload := by
  have hsource : Dialect.resolve? "mysql" = some .mysql := by decide +kernel
  have hserves : run engine parsesTangled = (.ok echo, parsesTangled) :=
    run_engine_of_serves ⟨0, rfl⟩
  have hparse : Task.run (echo.parseOne "SELECT 1" .mysql) parsesTangled.scene =
      (.ok tangled, _) := rfl
  have hdump : ∀ s, Task.run (echo.dump tangled) s = (.ok tangled, s) := fun _ => rfl
  have hdepth : tangled.fitsWithin 99 = true := rfl
  exact ⟨hsource, hserves, ⟨_, hparse, _, hdump _⟩, exchangeable_tangled, hdepth, rfl,
    parseOne_hostGenerate hsource hserves hparse (hdump _) exchangeable_tangled hdepth rfl⟩

end Action
end SqlDialects
