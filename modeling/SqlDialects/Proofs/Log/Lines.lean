import SqlDialects.Log.Record
import SqlDialects.Proofs.Json.Controls
import SqlDialects.Proofs.Value.Exchange

/-!
# Log lines are single lines and lose nothing

What a line of JSON says of its record, once it is read again.

**Input.**  A record whose message can be made, with any texts as logger, label of the level and
message, with an exchangeable operation of fewer than a hundred nested containers and perhaps a
failure, and the time at which it was made.

**Specification.**  `Record.ReadAs` says what an object must hold to be the record: exactly the names in
`Record.names`, and behind each of them what the record says.

**Results.**
* `Value.toJsonWithin_of_exchangeable`: how objects outside the data format are shown makes no
  difference to values that hold none.
* `Record.jsonLine_single_and_lossless`: the line is there, is a single line, and is read as the record.
* `Record.jsonLine_of_beyond`: a time that the calendar does not reach leaves no line.
-/

namespace SqlDialects

/-! ## Values that hold nothing outside the data format -/

namespace Value

variable {fallback : Fallback}

theorem itemsToJson_congr
    {items : List Value}
    (h : ∀ v ∈ items, ∀ depth, toJsonWithin fallback depth v = toJsonWithin none depth v)
    (depth : Nat) :
    itemsToJson fallback depth items = itemsToJson none depth items := by
  induction items with
  | nil =>
      rw [itemsToJson, itemsToJson]
  | cons v vs ih =>
      rw [itemsToJson, itemsToJson, h v (by simp), ih fun w hw => h w (List.mem_cons_of_mem v hw)]

theorem entriesToJson_congr
    {entries : List (Value × Value)}
    (h : ∀ e ∈ entries, ∀ depth, toJsonWithin fallback depth e.2 = toJsonWithin none depth e.2)
    (depth : Nat) :
    entriesToJson fallback depth entries = entriesToJson none depth entries := by
  induction entries with
  | nil =>
      rw [entriesToJson, entriesToJson]
  | cons e es ih =>
      rw [entriesToJson, entriesToJson, h e (by simp), ih fun w hw => h w (List.mem_cons_of_mem e hw)]

/-- How objects outside the data format are shown makes no difference to an exchangeable value. -/
theorem toJsonWithin_of_exchangeable
    {v : Value}
    (h : Exchangeable v)
    (depth : Nat) :
    toJsonWithin fallback depth v = toJsonWithin none depth v := by
  induction h generalizing depth with
  | null | bool | int | text | member =>
      rw [toJsonWithin, toJsonWithin]
  | list items h ih | tuple items h ih =>
      cases depth with
      | zero => rw [toJsonWithin, toJsonWithin]
      | succ depth => rw [toJsonWithin, toJsonWithin, itemsToJson_congr ih]
  | dict entries hkeys h ih =>
      cases depth with
      | zero => rw [toJsonWithin, toJsonWithin]
      | succ depth => rw [toJsonWithin, toJsonWithin, entriesToJson_congr ih]

/-- An exchangeable value is written, with objects shown, as a single line that is read as its
form. -/
theorem toJsonShowing_of_exchangeable
    {v : Value} {depth : Nat}
    (h : Exchangeable v)
    (hfits : v.fitsWithin depth = true)
    (hdepth : depth ≤ nestingLimit) :
    ∃ j, toJsonShowing v = .ok j ∧
      Json.Visible (Json.render Json.plain j).toList ∧
      Json.read (Json.render Json.plain j) = .ok v.jsonForm := by
  obtain ⟨j, hj, hexact, hnormal⟩ := hasForm_of_exchangeable h hfits
  refine ⟨j, ?_, ?_, ?_⟩
  · rw [toJsonShowing, toJsonWithin_of_exchangeable h, hj nestingLimit hdepth]
  · rw [Json.render, String.toList_ofList]
    exact Json.visible_chars hexact
  · rw [Json.read_render Json.separates_plain (hexact.mono hdepth), hnormal]

end Value

namespace Log

/-- The failure that is reported, if there is one. -/
def Incident.failure? : Incident → Option Failure
  | .failure f => some f
  | .none | .missing => .none

namespace Record

/-! ## The specification -/

/-- The names in the object of a record: four always, the operation if it counts as true, and the
failure if there is one. -/
def names (r : Record) : List String :=
  ["timestamp", "level", "logger", "message"]
    ++ (if r.operation.isTruthy then ["operation"] else [])
    ++ (if r.incident.failure?.isSome then ["exc_info"] else [])

/-- The object that a line is read as holds exactly what its record says. -/
structure ReadAs (r : Record) (timestamp message : String) (members : List (String × Json)) :
    Prop where
  /-- The names are those of the record, each of them once. -/
  names : members.map Prod.fst = r.names
  timestamp : Json.member? "timestamp" (.object members) = some (.text timestamp)
  level : Json.member? "level" (.object members) = some (.text r.levelLabel)
  logger : Json.member? "logger" (.object members) = some (.text r.logger)
  message : Json.member? "message" (.object members) = some (.text message)
  /-- The operation has its form. -/
  operation : r.operation.isTruthy = true →
    Json.member? "operation" (.object members) = some r.operation.jsonForm
  failure : ∀ f, r.incident.failure? = some f →
    Json.member? "exc_info" (.object members) = some (.text (report f))

/-! ## The object of a record -/

variable {r : Record}

/-- The dictionary of a record is as exchangeable as its operation. -/
theorem exchangeable_members
    (h : r.operation.Exchangeable)
    (timestamp message : String) :
    (Value.dict (r.members timestamp message)).Exchangeable := by
  have hentry : ∀ e ∈ r.members timestamp message,
      e.1.IsKey ∧ e.2.Exchangeable := by
    intro e he
    rw [members, List.mem_append, List.mem_append] at he
    rcases he with (he | he) | he
    · simp only [List.mem_cons, List.not_mem_nil, or_false] at he
      rcases he with rfl | rfl | rfl | rfl <;> exact ⟨.text _, .text _⟩
    · split at he
      · obtain rfl := List.mem_singleton.mp he
        exact ⟨.text _, h⟩
      · exact absurd he List.not_mem_nil
    · split at he
      · obtain rfl := List.mem_singleton.mp he
        exact ⟨.text _, .text _⟩
      · exact absurd he List.not_mem_nil
  exact .dict _ (fun e he => (hentry e he).1) fun e he => (hentry e he).2

/-- It has one level more than its operation. -/
theorem fitsWithin_members
    {depth : Nat}
    (h : r.operation.fitsWithin depth = true)
    (timestamp message : String) :
    (Value.dict (r.members timestamp message)).fitsWithin (depth + 1) = true := by
  have htext : ∀ s : String, (Value.text s).fitsWithin depth = true := by
    intro s
    cases depth <;> rfl
  rw [Value.fitsWithin, members]
  split <;> split <;> simp [Value.entriesFitWithin, htext, h]

theorem nodup_names (r : Record) :
    r.names.Nodup := by
  rw [names]
  cases r.operation.isTruthy <;> cases r.incident.failure?.isSome <;> decide

/-- The members of the form, one after the other. -/
theorem memberForms_members (r : Record) (timestamp message : String) :
    Value.memberForms (r.members timestamp message) =
      [("timestamp", .text timestamp), ("level", .text r.levelLabel), ("logger", .text r.logger),
        ("message", .text message)]
        ++ (if r.operation.isTruthy then [("operation", r.operation.jsonForm)] else [])
        ++ (r.incident.failure?.map fun f => ("exc_info", .text (report f))).toList := by
  rw [members]
  cases r.operation.isTruthy <;> cases r.incident <;> rfl

/-- The form of the dictionary holds exactly what the record says. -/
theorem readAs_jsonForm (r : Record) (timestamp message : String) :
    ∃ members, (Value.dict (r.members timestamp message)).jsonForm = .object members ∧
      r.ReadAs timestamp message members := by
  have hnames : (Value.memberForms (r.members timestamp message)).map Prod.fst = r.names := by
    rw [memberForms_members, names]
    cases r.operation.isTruthy <;> cases r.incident.failure? <;> rfl
  refine ⟨Value.memberForms (r.members timestamp message), ?_, hnames, ?_, ?_, ?_, ?_, ?_, ?_⟩
  · rw [Value.jsonForm, Json.distinctMembers_of_nodup (hnames ▸ r.nodup_names) (by simp)]
  all_goals rw [memberForms_members]
  · rfl
  · rfl
  · rfl
  · rfl
  · intro htrue
    rw [if_pos htrue]
    rfl
  · intro f hf
    rw [hf]
    cases r.operation.isTruthy <;> rfl

/-! ## Lines -/

/-- What a time within the calendar, a message and the members of a record make: a line. -/
theorem jsonLine_eq
    {created : Value} {instant : Instant} {message : String} {j : Json}
    (hcreated : Instant.ofSeconds created = .ok instant)
    (hyear : 1 ≤ instant.date.year ∧ instant.date.year ≤ 9999)
    (hmessage : r.message = .ok message)
    (hmembers : Value.toJsonShowing
      (.dict (r.members (String.ofList instant.isoChars) message)) = .ok j) :
    r.jsonLine created = .ok (Json.render Json.plain j) := by
  have htimestamp : instant.isoText? = .ok (String.ofList instant.isoChars) := if_pos hyear
  simp only [jsonLine, hcreated, htimestamp, hmessage, bind, Except.bind, hmembers]

/--
A record that is made within the years of the calendar, whose message can be made and whose operation
is exchangeable, of fewer than a hundred nested containers or absent, has a line of JSON.  It is a
single line: it holds no control characters.  It loses nothing: it is read as an object with exactly
the names of the record, in which message, logger and label of the level are texts as they were, and
the operation has its form.
-/
theorem jsonLine_single_and_lossless
    {created : Value} {instant : Instant} {message : String}
    (hcreated : Instant.ofSeconds created = .ok instant)
    (hyear : 1 ≤ instant.date.year ∧ instant.date.year ≤ 9999)
    (hmessage : r.message = .ok message)
    (hoperation : r.operation.Exchangeable)
    (hdepth : r.operation.fitsWithin 99 = true) :
    ∃ line members,
      r.jsonLine created = .ok line ∧
      (∀ c ∈ line.toList, 32 ≤ c.toNat) ∧
      Json.read line = .ok (.object members) ∧
      r.ReadAs (String.ofList instant.isoChars) message members := by
  obtain ⟨j, hj, hvisible, hread⟩ := Value.toJsonShowing_of_exchangeable
    (exchangeable_members hoperation (String.ofList instant.isoChars) message)
    (fitsWithin_members hdepth (String.ofList instant.isoChars) message) (by decide)
  obtain ⟨members, hform, hsays⟩ := r.readAs_jsonForm (String.ofList instant.isoChars) message
  exact ⟨_, members, jsonLine_eq hcreated hyear hmessage hj, hvisible, hform ▸ hread, hsays⟩

/-- A record with control characters in all its texts, an operation with keys that coincide and a
failure with a cause. -/
def broken : Record :=
  { logger := "a\r\"b"
    level := Log.info
    template := "one\ntwo \x7b\"level\": 1\x7d\x00"
    arguments := []
    operation := .dict [(.null, .tuple [.int (-1), .text "\n"]), (.text "null", .list [])]
    incident := .failure ((Failure.of .value "\t").causedBy (.of .key "k\n"))
    levelLabel := "TRACE\x1f" }

theorem jsonLine_single_and_lossless_broken :
    Instant.ofSeconds (.bool true) = .ok ⟨1000000⟩ ∧
    (1 ≤ (Instant.mk 1000000).date.year ∧ (Instant.mk 1000000).date.year ≤ 9999) ∧
    broken.message = .ok "one\ntwo \x7b\"level\": 1\x7d\x00" ∧
    broken.operation.Exchangeable ∧
    broken.operation.fitsWithin 99 = true ∧
    broken.names = ["timestamp", "level", "logger", "message", "operation", "exc_info"] ∧
    broken.operation.jsonForm = .object [("null", .array [])] ∧
    ∃ line members,
      broken.jsonLine (.bool true) = .ok line ∧
      (∀ c ∈ line.toList, 32 ≤ c.toNat) ∧
      Json.read line = .ok (.object members) ∧
      broken.ReadAs (String.ofList (Instant.mk 1000000).isoChars)
        "one\ntwo \x7b\"level\": 1\x7d\x00" members := by
  have hyear : 1 ≤ (Instant.mk 1000000).date.year ∧ (Instant.mk 1000000).date.year ≤ 9999 := by
    decide
  have hoperation : broken.operation.Exchangeable := by
    refine .dict _ ?_ ?_
    · simp only [List.forall_mem_cons]
      exact ⟨.null, .text _, by simp⟩
    · simp only [List.forall_mem_cons]
      refine ⟨.tuple _ ?_, .list [] (by simp), by simp⟩
      simp only [List.forall_mem_cons]
      exact ⟨.int (-1) (by decide +kernel), .text _, by simp⟩
  exact ⟨rfl, hyear, rfl, hoperation, rfl, rfl, rfl,
    jsonLine_single_and_lossless rfl hyear rfl hoperation rfl⟩

/-! ## Times that the calendar does not reach -/

/-- A time that the calendar does not reach leaves no line, whatever the record says. -/
theorem jsonLine_of_beyond
    {created : Value}
    (h : ∀ instant, Instant.ofSeconds created = .ok instant →
      ¬ (1 ≤ instant.date.year ∧ instant.date.year ≤ 9999))
    (r : Record) :
    ∃ f, r.jsonLine created = .error f := by
  cases hcreated : Instant.ofSeconds created with
  | error f =>
      exact ⟨f, by rw [jsonLine, hcreated]; rfl⟩
  | ok instant =>
      obtain ⟨f, hf⟩ : ∃ f, instant.isoText? = .error f := by
        rw [Instant.isoText?, if_neg (h instant hcreated)]
        split
        · exact ⟨_, rfl⟩
        · split <;> exact ⟨_, rfl⟩
      exact ⟨f, by simp only [jsonLine, hcreated, hf, bind, Except.bind]⟩

/-- The first second of the year 10000 is such a time. -/
theorem jsonLine_of_late :
    (plain "test.logger" Log.info "t").message = .ok "t" ∧
    (plain "test.logger" Log.info "t").operation = .null ∧
    ∃ f, (plain "test.logger" Log.info "t").jsonLine (.int 253402300800) = .error f := by
  refine ⟨rfl, rfl, jsonLine_of_beyond (fun instant hinstant => ?_) _⟩
  rw [Instant.ofSeconds] at hinstant
  split at hinstant
  · cases hinstant
    decide
  · cases hinstant

end Record
end Log
end SqlDialects
