import SqlDialects.Log.Record
import SqlDialects.Proofs.Decimal.Padded
import SqlDialects.Proofs.Log.Calendar

/-!
# Timestamps are in the order of time

The texts that lines of JSON give for the instants at which their records were made.

**Input.**  Instants within the years 1 to 9999, for which a text has four digits of the year.

**Specification.**  `CivilTime` is a date with a time of day, which is an instant, and
`CivilTime.read?` reads it from a text.  A text that is read as a time that there is denotes the instant
of that time (`Denotes`).  `Record.Stamped` says which text a line gives.

**Order.**  The numbers of a text have fixed numbers of places, so the first number that differs
decides.  The microseconds, which are left out when there are none, stand before a plus sign, and that
comes before the point.

**Results.**
* `Instant.read?_isoChars` and `Instant.instant_civil`: the text of an instant denotes it.
* `Instant.isoChars_lt_isoChars_iff`: texts are in the order of their instants.
* `Record.timestamps_sort`: so are the timestamps of lines, whatever else the records say.
-/

namespace SqlDialects
namespace Log

/-! ## The specification -/

/-- A date and a time of day in UTC. -/
structure CivilTime where
  date : CivilDate
  hour : Nat
  minute : Nat
  second : Nat
  micros : Nat

namespace CivilTime

/-- A time that there is. -/
structure Valid (c : CivilTime) : Prop where
  date : c.date.Valid
  hour : c.hour < 24
  minute : c.minute < 60
  second : c.second < 60
  micros : c.micros < 1000000

/-- The instant of a time. -/
def instant (c : CivilTime) : Instant :=
  ⟨(((c.date.toDays * 24 + c.hour) * 60 + c.minute) * 60 + c.second) * 1000000 + c.micros⟩

/-- A number of some digits at the front. -/
def number? (size : Nat) (cs : List Char) : Option (Nat × List Char) :=
  if (cs.take size).length = size ∧ (cs.take size).all Json.isDigit then
    some (Decimal.digitsValue (cs.take size), cs.drop size)
  else none

/-- What follows a character at the front. -/
def past? (c : Char) : List Char → Option (List Char)
  | d :: cs => if d = c then some cs else none
  | [] => none

/-- The microseconds behind a point, none without one. -/
def micros? : List Char → Option (Nat × List Char)
  | '.' :: cs => number? 6 cs
  | cs => some (0, cs)

/-- The time that a text denotes: year, month and day with hyphens, a letter, hour, minute and second
with colons, perhaps microseconds, and no distance from UTC. -/
def read? (cs : List Char) : Option CivilTime := do
  let (year, cs) ← number? 4 cs
  let (month, cs) ← number? 2 (← past? '-' cs)
  let (day, cs) ← number? 2 (← past? '-' cs)
  let (hour, cs) ← number? 2 (← past? 'T' cs)
  let (minute, cs) ← number? 2 (← past? ':' cs)
  let (second, cs) ← number? 2 (← past? ':' cs)
  let (micros, cs) ← micros? cs
  if cs = ['+', '0', '0', ':', '0', '0'] then
    some ⟨⟨year, month, day⟩, hour, minute, second, micros⟩
  else none

end CivilTime

/-- An instant of the years that have four digits at most, from the first one on. -/
abbrev Instant.InCalendar (t : Instant) : Prop :=
  1 ≤ t.date.year ∧ t.date.year ≤ 9999

/-- A text denotes an instant: it is read as a time that there is, and the instant is that time. -/
def Denotes (s : String) (t : Instant) : Prop :=
  ∃ c, CivilTime.read? s.toList = some c ∧ c.Valid ∧ c.instant = t

/-! ## Reading -/

namespace CivilTime

theorem number?_padded
    {size n : Nat}
    (hsize : 0 < size)
    (h : n < 10 ^ size)
    (rest : List Char) :
    number? size (Decimal.padded size n ++ rest) = some (n, rest) := by
  have hlength := Decimal.length_padded hsize h
  have htake : (Decimal.padded size n ++ rest).take size = Decimal.padded size n := by
    rw [List.take_append_of_le_length (by omega), List.take_of_length_le (by omega)]
  have hdrop : (Decimal.padded size n ++ rest).drop size = rest := by
    rw [List.drop_append_of_le_length (by omega), List.drop_of_length_le (by omega),
      List.nil_append]
  have hall : (Decimal.padded size n).all Json.isDigit = true :=
    List.all_eq_true.mpr fun c hc => Decimal.isDigit_of_mem_padded hc
  rw [number?, htake, hdrop, if_pos ⟨hlength, hall⟩, Decimal.digitsValue_padded]

theorem micros?_append
    {n : Nat}
    (h : n < 10 ^ 6)
    (rest : List Char) :
    micros? ((if n = 0 then [] else '.' :: Decimal.padded 6 n) ++ '+' :: rest) =
      some (n, '+' :: rest) := by
  split
  · rename_i hnone
    rw [hnone]
    rfl
  · exact number?_padded (by decide) h _

end CivilTime

namespace Instant

/-- The date and time of day of an instant. -/
def civil (t : Instant) : CivilTime :=
  ⟨t.date, t.secondOfDay / 3600, t.secondOfDay / 60 % 60, t.secondOfDay % 60, t.fraction⟩

theorem fraction_eq (t : Instant) :
    (t.fraction : Int) = t.micros - t.seconds * 1000000 ∧ t.fraction < 1000000 := by
  have hfloor : t.seconds = t.micros / 1000000 := Int.fdiv_eq_ediv_of_nonneg _ (by decide)
  unfold fraction
  omega

theorem secondOfDay_eq (t : Instant) :
    (t.secondOfDay : Int) = t.seconds - t.date.toDays * 86400 ∧ t.secondOfDay < 86400 := by
  have hfloor : Int.fdiv t.seconds 86400 = t.seconds / 86400 :=
    Int.fdiv_eq_ediv_of_nonneg _ (by decide)
  rw [date, CivilDate.toDays_ofDays, hfloor, secondOfDay, hfloor]
  omega

theorem valid_civil (t : Instant) :
    t.civil.Valid where
  date := CivilDate.valid_ofDays _
  hour := by
    have := t.secondOfDay_eq.2
    simp only [civil]
    omega
  minute := Nat.mod_lt _ (by decide)
  second := Nat.mod_lt _ (by decide)
  micros := t.fraction_eq.2

theorem instant_civil (t : Instant) :
    t.civil.instant = t := by
  obtain ⟨hseconds, -⟩ := t.secondOfDay_eq
  obtain ⟨hmicros, -⟩ := t.fraction_eq
  obtain ⟨m⟩ := t
  simp only [civil, CivilTime.instant, mk.injEq] at *
  omega

/-- The date of an instant has four places for the year and two for month and day. -/
theorem date_fits
    {t : Instant}
    (h : t.InCalendar) :
    (t.date.year.toNat : Int) = t.date.year ∧
    t.date.year.toNat < 10 ^ 4 ∧ t.date.month < 10 ^ 2 ∧ t.date.day < 10 ^ 2 := by
  have hvalid : t.date.Valid := CivilDate.valid_ofDays _
  have hday := hvalid.day_le
  have hmonth := hvalid.month_le
  have hlength := monthLength_le t.date.year t.date.month
  obtain ⟨hfirst, hlast⟩ := h
  omega

theorem read?_isoChars
    {t : Instant}
    (h : t.InCalendar) :
    CivilTime.read? t.isoChars = some t.civil := by
  obtain ⟨hyear, hyears, hmonths, hdays⟩ := date_fits h
  obtain ⟨-, hhour, hminute, hsecond, hmicros⟩ := t.valid_civil
  simp only [civil] at hhour hminute hsecond hmicros
  have year := CivilTime.number?_padded (by decide) hyears
  have month := CivilTime.number?_padded (by decide) hmonths
  have day := CivilTime.number?_padded (by decide) hdays
  have hour := @CivilTime.number?_padded 2 (t.secondOfDay / 3600) (by decide) (by omega)
  have minute := @CivilTime.number?_padded 2 (t.secondOfDay / 60 % 60) (by decide) (by omega)
  have second := @CivilTime.number?_padded 2 (t.secondOfDay % 60) (by decide) (by omega)
  have micros := CivilTime.micros?_append hmicros
  simp only [isoChars, dateChars, timeChars, List.append_assoc, List.cons_append, CivilTime.read?,
    CivilTime.past?, year, month, day, hour, minute, second, micros, Option.bind_eq_bind,
    Option.bind_some, if_true, hyear]
  rfl

/-! ## Order -/

/-- Three numbers with a mark between them, the first one in some places and the others in two. -/
def joined (size : Nat) (mark : Char) (a b c : Nat) : List Char :=
  Decimal.padded size a ++ mark :: Decimal.padded 2 b ++ mark :: Decimal.padded 2 c

theorem length_joined
    {size a b c : Nat}
    (hsize : 0 < size)
    (ha : a < 10 ^ size)
    (hb : b < 10 ^ 2)
    (hc : c < 10 ^ 2)
    (mark : Char) :
    (joined size mark a b c).length = size + 6 := by
  have hlast : 0 < 2 := by decide
  simp only [joined, List.length_append, List.length_cons, Decimal.length_padded hsize ha,
    Decimal.length_padded hlast hb, Decimal.length_padded hlast hc]

/-- The first of the numbers that differ decides. -/
theorem joined_lt_joined
    {size a b c a' b' c' : Nat}
    (hsize : 0 < size)
    (h : a < a' ∨ a = a' ∧ (b < b' ∨ b = b' ∧ c < c'))
    (ha : a' < 10 ^ size)
    (hb : b' < 10 ^ 2)
    (hc : c' < 10 ^ 2)
    (mark : Char) :
    joined size mark a b c < joined size mark a' b' c' := by
  have hlength : ∀ {k m n}, 0 < k → m < n → n < 10 ^ k →
      (Decimal.padded k m).length = (Decimal.padded k n).length := by
    intro k m n hk hlt hn
    rw [Decimal.length_padded hk (Nat.lt_trans hlt hn), Decimal.length_padded hk hn]
  rw [joined, joined, List.append_assoc, List.append_assoc]
  rcases h with hlt | ⟨rfl, hlt | ⟨rfl, hlt⟩⟩
  · exact Decimal.append_lt_append (hlength hsize hlt ha) (Decimal.padded_lt_padded hsize hlt ha) _ _
  · refine List.append_left_lt (List.cons_lt_cons_iff.mpr (.inr ⟨rfl, ?_⟩))
    exact Decimal.append_lt_append (hlength (by decide) hlt hb)
      (Decimal.padded_lt_padded (by decide) hlt hb) _ _
  · refine List.append_left_lt (List.cons_lt_cons_iff.mpr (.inr ⟨rfl, ?_⟩))
    refine List.append_left_lt (List.cons_lt_cons_iff.mpr (.inr ⟨rfl, ?_⟩))
    exact Decimal.padded_lt_padded (by decide) hlt hc

/-- A time without microseconds comes before the times of its second that have some. -/
theorem micros_lt_micros
    {m n : Nat}
    (h : m < n)
    (hn : n < 10 ^ 6) :
    ((if m = 0 then [] else '.' :: Decimal.padded 6 m) ++ ['+', '0', '0', ':', '0', '0'] : List Char) <
      (if n = 0 then [] else '.' :: Decimal.padded 6 n) ++ ['+', '0', '0', ':', '0', '0'] := by
  rw [if_neg (Nat.ne_of_gt (Nat.lt_of_le_of_lt (Nat.zero_le m) h))]
  split
  · exact List.cons_lt_cons_iff.mpr (.inl (by decide))
  · refine List.cons_lt_cons_iff.mpr (.inr ⟨rfl, ?_⟩)
    refine Decimal.append_lt_append ?_ (Decimal.padded_lt_padded (by decide) h hn) _ _
    rw [Decimal.length_padded (by decide) (Nat.lt_trans h hn), Decimal.length_padded (by decide) hn]

/-- An earlier instant has an earlier date, or an earlier second of the same date, or fewer
microseconds of the same second. -/
theorem parts_lt_of_lt
    {t t' : Instant}
    (h : t.micros < t'.micros) :
    t.date.Precedes t'.date ∨
    t.date = t'.date ∧
      (t.secondOfDay < t'.secondOfDay ∨
        t.secondOfDay = t'.secondOfDay ∧ t.fraction < t'.fraction) := by
  have hvalid : t.date.Valid := CivilDate.valid_ofDays _
  have hvalid' : t'.date.Valid := CivilDate.valid_ofDays _
  obtain ⟨hsecond, hday⟩ := t.secondOfDay_eq
  obtain ⟨hsecond', hday'⟩ := t'.secondOfDay_eq
  obtain ⟨hfraction, hmicros⟩ := t.fraction_eq
  obtain ⟨hfraction', hmicros'⟩ := t'.fraction_eq
  rcases Int.lt_trichotomy t.date.toDays t'.date.toDays with hlt | heq | hgt
  · exact .inl ((CivilDate.toDays_lt_toDays_iff hvalid hvalid').mp hlt)
  · exact .inr ⟨CivilDate.toDays_inj hvalid hvalid' heq, by omega⟩
  · omega

/-- The text of an earlier instant comes first. -/
theorem isoChars_lt_isoChars
    {t t' : Instant}
    (hin : t.InCalendar)
    (hin' : t'.InCalendar)
    (h : t.micros < t'.micros) :
    t.isoChars < t'.isoChars := by
  obtain ⟨hyear, hyears, hmonths, hdays⟩ := date_fits hin
  obtain ⟨hyear', hyears', hmonths', hdays'⟩ := date_fits hin'
  have hsecond := t.secondOfDay_eq.2
  have hsecond' := t'.secondOfDay_eq.2
  have hiso : ∀ t : Instant, t.isoChars =
      joined 4 '-' t.date.year.toNat t.date.month t.date.day ++
        'T' :: (joined 2 ':' (t.secondOfDay / 3600) (t.secondOfDay / 60 % 60) (t.secondOfDay % 60) ++
          ((if t.fraction = 0 then [] else '.' :: Decimal.padded 6 t.fraction)
            ++ ['+', '0', '0', ':', '0', '0'])) := by
    intro t
    rw [isoChars, dateChars, timeChars, joined, joined]
    simp only [List.append_assoc, List.cons_append]
  rw [hiso, hiso]
  rcases parts_lt_of_lt h with hdate | ⟨hdate, hlt | ⟨heq, hlt⟩⟩
  · -- the dates decide
    unfold CivilDate.Precedes at hdate
    refine Decimal.append_lt_append ?_
      (joined_lt_joined (by decide) (by omega) hyears' hmonths' hdays' _) _ _
    rw [length_joined (by decide) hyears hmonths hdays,
      length_joined (by decide) hyears' hmonths' hdays']
  · -- the times of day decide
    rw [hdate]
    refine List.append_left_lt (List.cons_lt_cons_iff.mpr (.inr ⟨rfl, ?_⟩))
    refine Decimal.append_lt_append ?_
      (joined_lt_joined (by decide) (by omega) (by omega) (by omega) (by omega) _) _ _
    rw [length_joined (by decide) (by omega) (by omega) (by omega),
      length_joined (by decide) (by omega) (by omega) (by omega)]
  · -- the microseconds decide
    rw [hdate, heq]
    refine List.append_left_lt (List.cons_lt_cons_iff.mpr (.inr ⟨rfl, ?_⟩))
    exact List.append_left_lt (micros_lt_micros hlt t'.fraction_eq.2)

/-- The texts of instants are in the order of the instants. -/
theorem isoChars_lt_isoChars_iff
    {t t' : Instant}
    (hin : t.InCalendar)
    (hin' : t'.InCalendar) :
    t.isoChars < t'.isoChars ↔ t.micros < t'.micros := by
  refine ⟨fun h => ?_, isoChars_lt_isoChars hin hin'⟩
  rcases Int.lt_trichotomy t.micros t'.micros with hlt | heq | hgt
  · exact hlt
  · rw [show t = t' from congrArg Instant.mk heq] at h
    exact absurd h (List.lt_irrefl _)
  · exact absurd (List.lt_trans h (isoChars_lt_isoChars hin' hin hgt)) (List.lt_irrefl _)

/-- No two instants have one text. -/
theorem isoChars_inj
    {t t' : Instant}
    (hin : t.InCalendar)
    (hin' : t'.InCalendar)
    (h : t.isoChars = t'.isoChars) :
    t = t' := by
  have hcivil : t.civil = t'.civil :=
    Option.some.inj ((read?_isoChars hin).symm.trans (h ▸ read?_isoChars hin'))
  rw [← instant_civil t, ← instant_civil t', hcivil]

/-- The text of an instant denotes it. -/
theorem denotes_isoChars
    {t : Instant}
    (h : t.InCalendar) :
    Denotes (String.ofList t.isoChars) t :=
  ⟨t.civil, by rw [String.toList_ofList, read?_isoChars h], t.valid_civil, t.instant_civil⟩

end Instant

/-! ## Lines -/

namespace Record

/-- A line of JSON gives a text as the time of its record: it is an object whose first member is that
text, named as the time is. -/
def Stamped (line s : String) : Prop :=
  ∃ rest, line.toList =
    '\x7b' :: Json.memberChars Json.plain [("timestamp", .text s)] ++ Json.plain.comma ++ rest

theorem entriesToJson_ne_nil
    {depth : Nat} {e : Value × Value} {es : List (Value × Value)} {ms : List (String × Json)}
    (h : Value.entriesToJson (some Value.display) depth (e :: es) = .ok ms) :
    ms ≠ [] := by
  rintro rfl
  rw [Value.entriesToJson] at h
  split at h
  · cases h
  · split at h
    · cases h
    · cases hrest : Value.entriesToJson (some Value.display) depth es with
      | error f =>
          rw [hrest] at h
          cases h
      | ok ms =>
          rw [hrest] at h
          cases h

/-- The members of a line behind the timestamp. -/
def laterMembers (r : Record) : Except Failure (List (String × Json)) := do
  let message ← r.message
  let entries := (r.members "" message).tail
  match Value.entriesToJson (some Value.display) (Value.nestingLimit - 1) entries with
  | .ok ms => .ok ms
  | .error e => .error e.failure

theorem laterMembers_ne_nil
    {r : Record} {ms : List (String × Json)}
    (h : r.laterMembers = .ok ms) :
    ms ≠ [] := by
  simp only [laterMembers, bind, Except.bind] at h
  split at h
  · cases h
  · split at h
    · rename_i hms
      cases h
      exact entriesToJson_ne_nil hms
    · cases h

/-- The timestamp is the first member of what is written of a record, and makes no difference to the
others. -/
theorem toJsonShowing_members
    (r : Record)
    (timestamp message : String) :
    Value.toJsonShowing (.dict (r.members timestamp message)) =
      (Value.entriesToJson (some Value.display) (Value.nestingLimit - 1)
        (r.members "" message).tail).map fun ms =>
          .object (("timestamp", .text timestamp) :: ms) := by
  obtain ⟨depth, hdepth⟩ : ∃ depth, Value.nestingLimit = depth + 1 := ⟨_, rfl⟩
  rw [Value.toJsonShowing, hdepth, Value.toJsonWithin, members, List.append_assoc, List.cons_append,
    Value.entriesToJson]
  simp only [Value.keyText, Value.toJsonWithin, members, List.cons_append, List.append_assoc,
    List.tail_cons, Nat.add_sub_cancel]
  cases Value.entriesToJson (some Value.display) depth _ <;> rfl

/-- A line is the object of its timestamp and of members that do not depend on it. -/
theorem jsonLine_eq_map
    {created : Value} {t : Instant}
    (hcreated : Instant.ofSeconds created = .ok t)
    (hin : t.InCalendar)
    (r : Record) :
    r.jsonLine created = r.laterMembers.map fun ms =>
      Json.render Json.plain (.object (("timestamp", .text (String.ofList t.isoChars)) :: ms)) := by
  have htimestamp : t.isoText? = .ok (String.ofList t.isoChars) := if_pos hin
  simp only [jsonLine, laterMembers, hcreated, htimestamp, bind, Except.bind]
  cases r.message with
  | error f => rfl
  | ok message =>
      simp only [toJsonShowing_members]
      cases Value.entriesToJson (some Value.display) (Value.nestingLimit - 1)
        (r.members "" message).tail <;> rfl

/-- Every line gives the text of the instant at which its record was made. -/
theorem stamped_of_jsonLine
    {r : Record} {created : Value} {t : Instant} {line : String}
    (hcreated : Instant.ofSeconds created = .ok t)
    (hin : t.InCalendar)
    (hline : r.jsonLine created = .ok line) :
    Stamped line (String.ofList t.isoChars) := by
  rw [jsonLine_eq_map hcreated hin] at hline
  cases hlater : r.laterMembers with
  | error f =>
      rw [hlater] at hline
      cases hline
  | ok ms =>
      rw [hlater] at hline
      cases hline
      obtain ⟨m, ms, rfl⟩ := List.exists_cons_of_ne_nil (laterMembers_ne_nil hlater)
      refine ⟨Json.memberChars Json.plain (m :: ms) ++ ['\x7d'], ?_⟩
      dsimp only
      rw [Json.render, String.toList_ofList, Json.chars, Json.memberChars, Json.memberChars]
      simp only [Json.chars, List.append_assoc, List.cons_append]

/-- Within the calendar a record has a line at all times or at none. -/
theorem exists_jsonLine_iff
    {created : Value} {t : Instant}
    (hcreated : Instant.ofSeconds created = .ok t)
    (hin : t.InCalendar)
    (r : Record) :
    (∃ line, r.jsonLine created = .ok line) ↔ ∃ ms, r.laterMembers = .ok ms := by
  rw [jsonLine_eq_map hcreated hin]
  cases r.laterMembers with
  | error f => simp [Except.map]
  | ok ms => simp [Except.map]

/--
Timestamps of lines of JSON are in the order of time.

Whatever two records say, and whenever within the years of the calendar they are made, the lines of
both give one text each for the instants at which they are made, to whole microseconds; a record that
has a line at one of these times has one at the other.  The texts are equal exactly if the instants
are, and the first comes first in the order of texts exactly if its instant is earlier.  Each of them
is read as a date and time in UTC that there is, and that is the instant.
-/
theorem timestamps_sort
    {created created' : Value} {t t' : Instant}
    (hcreated : Instant.ofSeconds created = .ok t)
    (hcreated' : Instant.ofSeconds created' = .ok t')
    (hin : t.InCalendar)
    (hin' : t'.InCalendar)
    (r r' : Record) :
    ((∃ line, r.jsonLine created = .ok line) ↔ ∃ line, r.jsonLine created' = .ok line) ∧
    ∃ s s',
      (∀ line, r.jsonLine created = .ok line → Stamped line s) ∧
      (∀ line, r'.jsonLine created' = .ok line → Stamped line s') ∧
      (s = s' ↔ t = t') ∧
      (s < s' ↔ t.micros < t'.micros) ∧
      Denotes s t ∧
      Denotes s' t' := by
  refine ⟨(exists_jsonLine_iff hcreated hin r).trans (exists_jsonLine_iff hcreated' hin' r).symm,
    String.ofList t.isoChars, String.ofList t'.isoChars,
    fun line => stamped_of_jsonLine hcreated hin, fun line => stamped_of_jsonLine hcreated' hin',
    ⟨fun h => ?_, fun h => by rw [h]⟩, ?_, Instant.denotes_isoChars hin,
    Instant.denotes_isoChars hin'⟩
  · exact Instant.isoChars_inj hin hin' (String.ofList_inj.mp h)
  · rw [String.lt_iff, String.toList_ofList, String.toList_ofList]
    exact Instant.isoChars_lt_isoChars_iff hin hin'

theorem timestamps_sort_halfSecond :
    Instant.ofSeconds (.int 0) = .ok ⟨0⟩ ∧
    Instant.ofSeconds (.float 0.5) = .ok ⟨500000⟩ ∧
    (Instant.mk 0).InCalendar ∧
    (Instant.mk 500000).InCalendar ∧
    (plain "a" Log.info "t").jsonLine (.int 0) = .ok
      ("\x7b\"timestamp\": \"1970-01-01T00:00:00+00:00\", \"level\": \"INFO\", "
        ++ "\"logger\": \"a\", \"message\": \"t\"\x7d") ∧
    ∃ s s',
      (∀ line, (plain "a" Log.info "t").jsonLine (.int 0) = .ok line → Stamped line s) ∧
      (∀ line, (plain "b" Log.debug "u").jsonLine (.float 0.5) = .ok line → Stamped line s') ∧
      (s = s' ↔ (Instant.mk 0) = ⟨500000⟩) ∧
      (s < s' ↔ (0 : Int) < 500000) ∧
      Denotes s ⟨0⟩ ∧
      Denotes s' ⟨500000⟩ := by
  have hcreated : Instant.ofSeconds (.float 0.5) = .ok ⟨500000⟩ := by
    have h : (Instant.ofSeconds (.float 0.5)).toOption = some ⟨500000⟩ := by decide +kernel
    generalize Instant.ofSeconds (.float 0.5) = result at h ⊢
    cases result with
    | error f => cases h
    | ok t => exact congrArg Except.ok (Option.some.inj h)
  refine ⟨rfl, hcreated, by decide, by decide, rfl, ?_⟩
  exact (timestamps_sort rfl hcreated (by decide) (by decide) _ _).2

end Record
end Log
end SqlDialects
