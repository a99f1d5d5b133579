import SqlDialects.Diagnostics.Reader
import SqlDialects.Proofs.Validation.StrictJson

/-!
# Reports that are read back

The text of a report is read as the report, as long as no line or column has more digits than numbers
may have.

**Results.**
* `Issue.check_toJson`: the data of an issue describe the issue.
* `Report.read_render`: a report comes back from its text.
* `Report.read_render_of_long`: a report with a longer line does not.
-/

namespace SqlDialects

open Validation

namespace Issue

/-- The line and the column have no more digits than numbers may have. -/
structure PositionsFit (i : Issue) : Prop where
  line : ∀ n, i.line = some n → (Decimal.natChars n.natAbs).length ≤ StrictJson.wholeLimit
  column : ∀ n, i.column = some n → (Decimal.natChars n.natAbs).length ≤ StrictJson.wholeLimit

theorem fits_positionJson
    (depth : Nat)
    {position : Option Int}
    (h : ∀ n, position = some n →
      (Decimal.natChars n.natAbs).length ≤ StrictJson.wholeLimit) :
    StrictJson.Fits depth (positionJson position) := by
  cases position with
  | none =>
      exact .null depth
  | some n =>
      exact .int depth n (h n rfl)

theorem fits_toJson
    (depth : Nat)
    {i : Issue}
    (h : i.PositionsFit) :
    StrictJson.Fits (depth + 1) i.toJson := by
  refine .object depth _ ?_
  intro m hm
  simp only [List.mem_cons, List.not_mem_nil, or_false] at hm
  rcases hm with rfl | rfl | rfl | rfl | rfl
  · exact .text depth _
  · exact fits_positionJson depth h.line
  · exact fits_positionJson depth h.column
  · exact .text depth _
  · exact .text depth _

theorem normal_toJson (i : Issue) :
    i.toJson.normal = i.toJson := by
  have hposition : ∀ position, (positionJson position).normal = positionJson position := by
    intro position
    cases position <;> rfl
  rw [toJson, Json.normal, Json.normalMembers_eq_map, Json.mergeMembers_of_nodup]
  · simp only [List.map_cons, List.map_nil, hposition, Json.normal]
  · simp

/-- An optional integer, taken from its data. -/
theorem asOptional_positionJson (position : Option Int) :
    asOptional asInt (.ofJson (positionJson position)) = .ok position := by
  cases position with
  | none =>
      rfl
  | some n =>
      rfl

theorem asOneOf_severity (s : Severity) :
    asOneOf Severity.names (.text s.label) = .ok s := by
  cases s <;> rfl

/-- The data of an issue describe the issue. -/
theorem check_toJson
    (origin : Origin)
    (place : List String)
    (i : Issue) :
    Issue.check origin place (.ofJson i.toJson) = .ok i := by
  have hline := asOptional_positionJson i.line
  have hcolumn := asOptional_positionJson i.column
  have hseverity := asOneOf_severity i.severity
  simp [Issue.check, toJson, Value.ofJson, Value.ofMembers, field, Value.entry?, Value.text?,
    asString, textOf?, both, hline, hcolumn, hseverity, Except.map]

theorem checkAll_toJson
    (origin : Origin)
    (place : List String)
    (n : Nat)
    (issues : List Issue) :
    Issue.checkAll origin place n (Value.ofItems (issues.map toJson)) = .ok issues := by
  induction issues generalizing n with
  | nil =>
      rfl
  | cons i issues ih =>
      rw [List.map_cons, Value.ofItems, checkAll, check_toJson, ih]
      rfl

end Issue

namespace Report

theorem fits_toJson
    (depth : Nat)
    {r : Report}
    (h : ∀ i ∈ r.issues, i.PositionsFit) :
    StrictJson.Fits (depth + 3) r.toJson := by
  refine .object (depth + 2) _ ?_
  intro m hm
  simp only [List.mem_cons, List.not_mem_nil, or_false] at hm
  rcases hm with rfl | rfl
  · exact .bool _ _
  · refine .array (depth + 1) _ ?_
    intro v hv
    obtain ⟨i, hi, rfl⟩ := List.mem_map.mp hv
    exact Issue.fits_toJson depth (h i hi)

theorem normal_toJson (r : Report) :
    r.toJson.normal = r.toJson := by
  rw [toJson, Json.normal, Json.normalMembers_eq_map, Json.mergeMembers_of_nodup]
  · simp only [List.map_cons, List.map_nil, Json.normal, Json.normalItems_eq_map, List.map_map]
    have hissues : ∀ i ∈ r.issues, (Json.normal ∘ Issue.toJson) i = i.toJson :=
      fun i _ => Issue.normal_toJson i
    rw [List.map_congr_left hissues]
  · simp

/-- The data of a report describe the report. -/
theorem check_toJson
    (origin : Origin)
    (r : Report) :
    Report.check origin (.ofJson r.toJson) = .ok r := by
  have hissues := Issue.checkAll_toJson origin ["errors"] 0 r.issues
  simp [Report.check, Report.checkIssues, toJson, Value.ofJson, Value.ofMembers, field,
    Value.entry?, Value.text?, asBool, both, itemsOf?, hissues, Except.map]

/-- A report comes back from its text. -/
theorem read_render
    {r : Report}
    (h : ∀ i ∈ r.issues, i.PositionsFit) :
    Report.read r.render = .ok r := by
  have hread := StrictJson.read_render (fits_toJson 197 h)
  rw [normal_toJson] at hread
  rw [Report.read, readModel, render, hread]
  simp only [check_toJson]

/-! ## A report that is not read back -/

/-- The report of a warning at a line. -/
def warningAt (line : Int) : Report :=
  ⟨true, [⟨"", some line, none, .warning, ""⟩]⟩

/-- How the text of such a report begins. -/
def warningHead : List Char :=
  ['\x7b', '"', 'v', 'a', 'l', 'i', 'd', '"', ':', 't', 'r', 'u', 'e', ',',
    '"', 'e', 'r', 'r', 'o', 'r', 's', '"', ':', '[',
    '\x7b', '"', 'm', 'e', 's', 's', 'a', 'g', 'e', '"', ':', '"', '"', ',',
    '"', 'l', 'i', 'n', 'e', '"', ':']

theorem render_warningAt (line : Int) :
    ∃ cs, (warningAt line).render =
      String.ofList (warningHead ++ (Decimal.intChars line ++ ',' :: cs)) := by
  refine ⟨"\"column\":null,\"severity\":\"warning\",\"code\":\"\"\x7d]\x7d".toList, ?_⟩
  rw [Report.render, Json.render]
  congr 1
  generalize hdigits : Decimal.intChars line = digits
  simp only [warningAt, Report.toJson, Issue.toJson, Issue.positionJson, Json.chars,
    Json.itemChars, Json.memberChars, List.map_cons, List.map_nil, hdigits, List.append_assoc,
    List.cons_append]
  rfl

/-- The reader gets as far as the line. -/
theorem value_warningHead
    {rest : List Char} {f : StrictJson.Refusal}
    (h : StrictJson.number true rest = .error f)
    (fuel : Nat) :
    StrictJson.value (fuel + 12) 200 (warningHead ++ '-' :: rest) = .error f := by
  simp [warningHead, StrictJson.value, StrictJson.items, StrictJson.members,
    StrictJson.memberValue, StrictJson.string, StrictJson.skip, Json.isBlank, StrictJson.atom,
    StrictJson.word, h, bind, Except.bind]

/-- A report with a line that is too long is refused. -/
theorem read_render_of_long
    {line : Int}
    (hneg : line < 0)
    (hlong : StrictJson.wholeLimit < (Decimal.natChars line.natAbs).length) :
    ∃ f, Report.read (warningAt line).render = .error f := by
  obtain ⟨cs, hcs⟩ := render_warningAt line
  have hdigits : Decimal.intChars line = '-' :: Decimal.natChars line.natAbs := if_pos hneg
  rw [hdigits] at hcs
  obtain ⟨rest, hnumber⟩ := @StrictJson.number_of_long true line.natAbs (',' :: cs) hlong rfl
  obtain ⟨reason, hread⟩ : ∃ reason, StrictJson.read (warningAt line).render = .error reason := by
    rw [hcs, StrictJson.read, String.toList_ofList]
    obtain ⟨fuel, hfuel⟩ : ∃ fuel, 3 * (warningHead ++ ('-' :: Decimal.natChars line.natAbs ++
        ',' :: cs)).length + 3 = fuel + 12 :=
      ⟨3 * (warningHead ++ ('-' :: Decimal.natChars line.natAbs ++ ',' :: cs)).length + 3 - 12, by
        simp only [warningHead, List.cons_append, List.length_cons]
        omega⟩
    rw [hfuel, List.cons_append, StrictJson.nestingLimit, value_warningHead hnumber]
    exact ⟨_, rfl⟩
  rw [Report.read, readModel, hread]
  exact ⟨_, rfl⟩

end Report
end SqlDialects
