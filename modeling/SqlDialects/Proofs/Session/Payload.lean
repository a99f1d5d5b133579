import SqlDialects.Proofs.Session.Samples
import SqlDialects.Proofs.Value.Exchange

/-!
# Payloads that come back

What writing a tree as a payload and reading it again does to the data that the engine dumps.

**Input.**  An engine, a tree whose dump is exchangeable, and any session; the engine may change its
own world and log while it dumps and loads.

**Results.**
* `Action.run_toPayload_of_gives`: the payload is there, and it is read as the form of what the
  engine dumps.
* `Action.run_fromPayload_of_load`: a payload becomes the tree that the engine loads from what is
  read.
* `Action.fromPayload_toPayload`: with an engine whose trees are the data themselves, a value comes
  back in its normal form.
-/

namespace SqlDialects
namespace Action

variable {σ α β : Type}

theorem run_writing_of_ok
    {a : Action σ α β} {p q : Session σ α} {b : β}
    (h : run a p = (.ok b, q)) :
    run (writing a) p = (.ok b, q) := by
  simp [writing, run_bind, h]

theorem run_encode_of_ok
    {v : Value} {text : String}
    (h : Value.encode Json.plain v = .ok text)
    (p : Session σ α) :
    run (encode v) p = (.ok text, p) := by
  rw [encode, run_ofExcept, h]
  rfl

/-- What the engine dumps in a session is written. -/
theorem run_toPayload_of_run
    {e : Engine σ α} {tree : α} {v : Value} {text : String} {p : Session σ α} {s : Scene σ}
    (hdump : Task.run (e.dump tree) p.scene = (.ok v, s))
    (htext : Value.encode Json.plain v = .ok text) :
    run (toPayload e tree) p = (.ok text, p.resume s) := by
  have htask := run_engineTask_of_run hdump
  exact run_writing_of_ok ((run_bind_of_ok htask _).trans (run_encode_of_ok htext _))

/-- What the engine dumps in every session is written. -/
theorem run_toPayload_of_encode
    {e : Engine σ α} {tree : α} {v : Value} {text : String}
    (hdump : (e.dump tree).Gives v)
    (htext : Value.encode Json.plain v = .ok text)
    (p : Session σ α) :
    run (toPayload e tree) p = (.ok text, p.resume (Task.run (e.dump tree) p.scene).2) :=
  run_toPayload_of_run (hdump.run_eq p.scene) htext

/-- The payload of a tree is there, and it is read as the form of what the engine dumps. -/
theorem run_toPayload_of_gives
    {e : Engine σ α} {tree : α} {v : Value} {depth : Nat}
    (hdump : (e.dump tree).Gives v)
    (h : v.HasForm depth)
    (hdepth : depth ≤ Value.nestingLimit) :
    ∃ text,
      Json.read text = .ok v.jsonForm ∧
      ∀ p, run (toPayload e tree) p = (.ok text, p.resume (Task.run (e.dump tree) p.scene).2) := by
  obtain ⟨text, htext, hread⟩ := Value.encode_of_hasForm Json.separates_plain h hdepth
  exact ⟨text, hread, run_toPayload_of_encode hdump htext⟩

/-- A payload becomes the tree that the engine loads from what is read. -/
theorem run_fromPayload_of_load
    {e : Engine σ α} {payload : String} {data : Json} {tree : α} {p q : Session σ α}
    (hread : Json.read payload = .ok data)
    (hload : run (engineTask (e.load data)) p = (.ok tree, q)) :
    run (fromPayload e payload) p = (.ok tree, q) := by
  simp [fromPayload, hread, run_bind, hload]

/-- What the engine rejects as a payload is reported as malformed interchange text. -/
theorem run_fromPayload_of_rejected
    {e : Engine σ α} {payload : String} {data : Json} {f : Failure} {p q : Session σ α}
    (hread : Json.read payload = .ok data)
    (hload : run (engineTask (e.load data)) p = (.error f, q))
    (hrejected : f.isA .payload = true) :
    ∃ j, run (fromPayload e payload) p =
      (.error ((boundaryFailure q.errors (deserializationError ++ f.text)).causedBy f),
        q.withJournal j) := by
  simp only [fromPayload, hread, run_bind, run_outcome, hload, hrejected, if_true, run_log]
  exact ⟨_, rfl⟩

/-- Any other failure of loading passes. -/
theorem run_fromPayload_of_other
    {e : Engine σ α} {payload : String} {data : Json} {f : Failure} {p q : Session σ α}
    (hread : Json.read payload = .ok data)
    (hload : run (engineTask (e.load data)) p = (.error f, q))
    (hother : f.isA .payload = false) :
    run (fromPayload e payload) p = (.error f, q) := by
  simp [fromPayload, hread, run_bind, hload, hother]

/--
With an engine that dumps and loads data as they are, every exchangeable value of fewer than a
hundred nested containers has a payload, the same one in every session.  From the payload comes, in
every session, the value in its normal form: tuples have become lists, keys their JSON texts, and of
keys that coincide the first gives the place and the last the value.  A plain value is unchanged.
-/
theorem fromPayload_toPayload
    (e : Engine σ Value)
    (hdump : ∀ v, (e.dump v).Gives v)
    (hload : ∀ j, (e.load j).Gives (.ofJson j))
    (v : Value)
    (h : v.Exchangeable)
    (hdepth : v.fitsWithin 99 = true) :
    ∃ text,
      (∀ p, (run (toPayload e v) p).1 = .ok text) ∧
      (∀ p, (run (fromPayload e text) p).1 = .ok (.ofJson v.jsonForm)) ∧
      (v.Plain → Value.ofJson v.jsonForm = v) := by
  have hform : v.HasForm 99 := Value.hasForm_of_exchangeable h hdepth
  obtain ⟨text, hread, hrun⟩ := run_toPayload_of_gives (hdump v) hform (by decide)
  refine ⟨text, ?_, ?_, Value.ofJson_jsonForm_of_plain⟩
  · intro p
    rw [hrun]
  · intro p
    have htask := run_engineTask_of_run ((hload v.jsonForm).run_eq p.scene)
    rw [run_fromPayload_of_load hread htask]

/-- An engine whose trees are the data themselves. -/
def echo : Engine Scripted.State Value :=
  { Scripted.reportless "1.0" with
    dump := fun v => return v
    load := fun j => return .ofJson j }

/-- A tuple, characters that need escapes and others beyond ASCII, and keys that coincide. -/
def tangled : Value :=
  .dict
    [(.null, .tuple [.int (-10), .text "\"\\\n\x01é😀"]),
      (.bool true, .list []),
      (.int 0, .dict []),
      (.text "null", .foreign .member)]

theorem exchangeable_tangled : tangled.Exchangeable := by
  refine .dict _ ?_ ?_
  · simp only [List.forall_mem_cons]
    exact ⟨.null, .bool true, .int 0 (by decide +kernel), .text "null", by simp⟩
  · simp only [List.forall_mem_cons]
    refine ⟨.tuple _ ?_, .list [] (by simp), .dict [] (by simp) (by simp), .member, by simp⟩
    simp only [List.forall_mem_cons]
    exact ⟨.int (-10) (by decide +kernel), .text _, by simp⟩

theorem fromPayload_toPayload_tangled :
    tangled.Exchangeable ∧
    tangled.fitsWithin 99 = true ∧
    (∀ v, (echo.dump v).Gives v) ∧
    (∀ j, (echo.load j).Gives (.ofJson j)) ∧
    tangled.jsonForm =
      .object [("null", .text "mysql"), ("true", .array []), ("0", .object [])] ∧
    ∃ text,
      (∀ p, (run (toPayload echo tangled) p).1 = .ok text) ∧
      (∀ p, (run (fromPayload echo text) p).1 = .ok (.ofJson tangled.jsonForm)) ∧
      (tangled.Plain → Value.ofJson tangled.jsonForm = tangled) := by
  have hdump : ∀ v, (echo.dump v).Gives v := fun v => Task.gives_pure v
  have hload : ∀ j, (echo.load j).Gives (.ofJson j) := fun j => Task.gives_pure _
  have hdepth : tangled.fitsWithin 99 = true := rfl
  exact ⟨exchangeable_tangled, hdepth, hdump, hload, rfl,
    fromPayload_toPayload echo hdump hload tangled exchangeable_tangled hdepth⟩

end Action
end SqlDialects
