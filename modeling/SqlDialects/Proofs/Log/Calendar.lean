import Mathlib.Tactic.IntervalCases
import SqlDialects.Log.Timestamp

/-!
# The calendar

What the count of days from the first of January 1970 says about dates, over all years before and after
it.

**Specification.**  `CivilDate.Valid` says which days there are, and `CivilDate.next` goes from a day to
the day after it: to the next day of the month, the next month or the next year.  The calendar is the
sequence of days that `next` runs through.

**View.**  Years are taken to begin in March, so that a leap day is the last day of its year.  The days
before such a year are `marchStart`, and a date is its year and the days before it in that year.

**Results.**
* `CivilDate.toDays_next`: a day has a count one greater than the day before it.
* `CivilDate.valid_ofDays`, `CivilDate.toDays_ofDays` and `CivilDate.ofDays_toDays`: the days of the
  calendar are counted through by the integers.
* `CivilDate.ofDays_zero` and `CivilDate.ofDays_succ`: the count begins on the first of January 1970,
  and the next count is the date of the next day.
* `CivilDate.toDays_lt_toDays_iff`: a day comes before another exactly if its count is smaller.
-/

namespace SqlDialects
namespace Log

/-- Every fourth year has a leap day, of the full centuries only every fourth one. -/
def isLeap (y : Int) : Bool :=
  y % 4 = 0 && (y % 100 != 0 || y % 400 = 0)

/-- The days of a month. -/
def monthLength (y : Int) (m : Nat) : Nat :=
  if m = 2 then if isLeap y then 29 else 28
  else if m = 4 ∨ m = 6 ∨ m = 9 ∨ m = 11 then 30
  else 31

theorem monthLength_le (y : Int) (m : Nat) :
    monthLength y m ≤ 31 := by
  unfold monthLength
  split
  · split <;> decide
  · split <;> decide

theorem monthLength_pos (y : Int) (m : Nat) :
    1 ≤ monthLength y m := by
  unfold monthLength
  split
  · split <;> decide
  · split <;> decide

namespace CivilDate

/-! ## The specification -/

/-- A day that there is. -/
structure Valid (c : CivilDate) : Prop where
  month_pos : 1 ≤ c.month
  month_le : c.month ≤ 12
  day_pos : 1 ≤ c.day
  day_le : c.day ≤ monthLength c.year c.month

/-- The day after a day. -/
def next (c : CivilDate) : CivilDate :=
  if c.day < monthLength c.year c.month then ⟨c.year, c.month, c.day + 1⟩
  else if c.month < 12 then ⟨c.year, c.month + 1, 1⟩
  else ⟨c.year + 1, 1, 1⟩

/-- A date has an earlier year than another, or an earlier month or day in the same. -/
def Precedes (c d : CivilDate) : Prop :=
  c.year < d.year ∨ c.year = d.year ∧ (c.month < d.month ∨ c.month = d.month ∧ c.day < d.day)

theorem precedes_trichotomy (c d : CivilDate) :
    c.Precedes d ∨ c = d ∨ d.Precedes c := by
  obtain ⟨y, m, k⟩ := c
  obtain ⟨y', m', k'⟩ := d
  simp only [Precedes, mk.injEq]
  omega

theorem valid_next
    {c : CivilDate}
    (h : c.Valid) :
    c.next.Valid := by
  obtain ⟨hmonth, hmonth', hday, hday'⟩ := h
  unfold next
  split
  · rename_i hlt
    exact ⟨hmonth, hmonth', Nat.succ_pos _, hlt⟩
  · split
    · rename_i hlt
      exact ⟨Nat.succ_pos _, hlt, Nat.le_refl 1, monthLength_pos _ _⟩
    · exact ⟨Nat.le_refl 1, Nat.le_add_left 1 11, Nat.le_refl 1, monthLength_pos _ _⟩

/-! ## Years that begin in March -/

/-- The days before a year that begins in March, from the year 0 on. -/
def marchStart (y : Int) : Int :=
  365 * y + y / 4 - y / 100 + y / 400

/-- The year of a date that begins in March. -/
def marchYear (c : CivilDate) : Int :=
  if c.month ≤ 2 then c.year - 1 else c.year

/-- The months of that year before the month of a date. -/
def marchMonth (c : CivilDate) : Int :=
  if c.month > 2 then (c.month : Int) - 3 else (c.month : Int) + 9

/-- The days of that year before a date. -/
def marchDay (c : CivilDate) : Int :=
  (153 * c.marchMonth + 2) / 5 + c.day - 1

theorem toDays_eq (c : CivilDate) :
    c.toDays = marchStart c.marchYear + c.marchDay - 719468 := by
  have hfloor : ∀ y, Int.fdiv y 400 = y / 400 := fun y =>
    Int.fdiv_eq_ediv_of_nonneg y (by decide)
  simp only [toDays, marchStart, marchYear, marchDay, marchMonth, hfloor]
  omega

/-- A year that begins in March ends with the leap day of the next year, if that has one. -/
theorem marchStart_succ (y : Int) :
    marchStart (y + 1) = marchStart y + 365 + (if isLeap (y + 1) then 1 else 0) := by
  unfold marchStart isLeap
  split
  · rename_i hleap
    simp only [Bool.and_eq_true, Bool.or_eq_true, decide_eq_true_eq, bne_iff_ne] at hleap
    omega
  · rename_i hleap
    simp only [Bool.and_eq_true, Bool.or_eq_true, decide_eq_true_eq, bne_iff_ne] at hleap
    omega

theorem marchStart_le_marchStart
    {y y' : Int}
    (h : y ≤ y') :
    marchStart y ≤ marchStart y' := by
  unfold marchStart
  omega

/-- Four hundred years are a cycle. -/
theorem marchStart_add_cycles
    {year : Nat}
    (h : year < 400)
    (cycles : Int) :
    marchStart (year + cycles * 400) = 365 * year + year / 4 - year / 100 + cycles * 146097 := by
  unfold marchStart
  omega

theorem Valid.marchDay_bounds
    {c : CivilDate}
    (h : c.Valid) :
    0 ≤ c.marchDay ∧ c.marchDay < 365 + (if isLeap (c.marchYear + 1) then 1 else 0) := by
  obtain ⟨y, m, d⟩ := c
  obtain ⟨hmonth, hmonth', hday, hday'⟩ := h
  simp only [marchDay, marchMonth, marchYear, monthLength] at *
  interval_cases m <;> simp at hday' ⊢ <;> grind

/-- A day comes before the months that follow its own. -/
theorem Valid.marchDay_lt
    {c : CivilDate}
    (h : c.Valid)
    (hlast : c.marchMonth < 11) :
    c.marchDay < (153 * (c.marchMonth + 1) + 2) / 5 := by
  obtain ⟨y, m, d⟩ := c
  obtain ⟨hmonth, hmonth', hday, hday'⟩ := h
  simp only [marchDay, marchMonth, monthLength] at *
  interval_cases m <;> simp at hday' hlast ⊢ <;> grind

/-! ## Counts of dates -/

/-- A day has a count one greater than the day before it. -/
theorem toDays_next
    {c : CivilDate}
    (h : c.Valid) :
    c.next.toDays = c.toDays + 1 := by
  obtain ⟨y, m, d⟩ := c
  obtain ⟨hmonth, hmonth', hday, hday'⟩ := h
  have hyear := marchStart_succ (y - 1)
  rw [Int.sub_add_cancel] at hyear
  rw [toDays_eq, toDays_eq]
  simp only [next, marchYear, marchDay, marchMonth, monthLength] at *
  interval_cases m <;> simp at hday' ⊢ <;> grind

/-- The order of dates is the order of their years from March on, of the months and of the days. -/
theorem march_lt_of_precedes
    {c d : CivilDate}
    (hc : c.Valid)
    (hd : d.Valid)
    (h : c.Precedes d) :
    c.marchYear < d.marchYear ∨ c.marchYear = d.marchYear ∧ c.marchDay < d.marchDay := by
  have hbefore := fun hlast => hc.marchDay_lt hlast
  obtain ⟨hcpos, hcle, hcday, -⟩ := hc
  obtain ⟨hdpos, hdle, hdday, -⟩ := hd
  unfold Precedes at h
  have hmonths : c.marchYear < d.marchYear ∨ c.marchYear = d.marchYear ∧
      (c.marchMonth < d.marchMonth ∨ c.marchMonth = d.marchMonth ∧ c.day < d.day) := by
    unfold marchYear marchMonth
    split <;> split <;> omega
  have hlast : d.marchMonth ≤ 11 := by
    unfold marchMonth
    split <;> omega
  unfold marchDay at *
  omega

theorem toDays_lt_of_precedes
    {c d : CivilDate}
    (hc : c.Valid)
    (hd : d.Valid)
    (h : c.Precedes d) :
    c.toDays < d.toDays := by
  have hcday := hc.marchDay_bounds
  have hdday := hd.marchDay_bounds
  rw [toDays_eq, toDays_eq]
  rcases march_lt_of_precedes hc hd h with hlt | ⟨heq, hlt⟩
  · -- the year of the first has ended when that of the second begins
    have hends : marchStart (c.marchYear + 1) ≤ marchStart d.marchYear :=
      marchStart_le_marchStart hlt
    rw [marchStart_succ] at hends
    omega
  · rw [heq]
    omega

/-- A day comes before another exactly if its count is smaller. -/
theorem toDays_lt_toDays_iff
    {c d : CivilDate}
    (hc : c.Valid)
    (hd : d.Valid) :
    c.toDays < d.toDays ↔ c.Precedes d := by
  refine ⟨fun h => ?_, toDays_lt_of_precedes hc hd⟩
  rcases precedes_trichotomy c d with hlt | rfl | hgt
  · exact hlt
  · exact absurd h (Int.lt_irrefl _)
  · exact absurd (toDays_lt_of_precedes hd hc hgt) (by omega)

theorem toDays_inj
    {c d : CivilDate}
    (hc : c.Valid)
    (hd : d.Valid)
    (h : c.toDays = d.toDays) :
    c = d := by
  rcases precedes_trichotomy c d with hlt | heq | hgt
  · exact absurd (toDays_lt_of_precedes hc hd hlt) (by omega)
  · exact heq
  · exact absurd (toDays_lt_of_precedes hd hc hgt) (by omega)

/-! ## Dates of counts -/

/-- The date of a day of a year that begins in March, from the days of the year before it. -/
def ofMarch (y : Int) (day : Nat) : CivilDate :=
  let m := (5 * day + 2) / 153
  let month := if m < 10 then m + 3 else m - 9
  ⟨if month ≤ 2 then y + 1 else y, month, day - (153 * m + 2) / 5 + 1⟩

/-- A year that begins in March has such a day: the last one only if it is a leap day. -/
def MarchHas (y : Int) (day : Nat) : Prop :=
  day < 365 ∨ day = 365 ∧ isLeap (y + 1) = true

theorem MarchHas.lt
    {y : Int} {day : Nat}
    (h : MarchHas y day) :
    day < 366 := by
  rcases h with h | ⟨rfl, -⟩ <;> omega

theorem toDays_ofMarch
    {y : Int} {day : Nat}
    (h : day < 366) :
    (ofMarch y day).toDays = marchStart y + day - 719468 := by
  have hmonth : (5 * day + 2) / 153 < 12 := by omega
  rw [toDays_eq]
  congr 2
  · simp only [marchYear, ofMarch]
    split <;> exact congrArg marchStart (by omega)
  · simp only [marchDay, marchMonth, ofMarch]
    split <;> omega

theorem valid_ofMarch
    {y : Int} {day : Nat}
    (h : MarchHas y day) :
    (ofMarch y day).Valid := by
  have hday := h.lt
  have hmonth : (5 * day + 2) / 153 < 12 := by omega
  generalize hm : (5 * day + 2) / 153 = m at hmonth
  refine ⟨?_, ?_, ?_, ?_⟩ <;> simp only [ofMarch, hm]
  · split <;> omega
  · split <;> omega
  · omega
  · rcases h with hlt | ⟨rfl, hleap⟩
    · interval_cases m <;> simp [monthLength] <;> (try split) <;> omega
    · obtain rfl : m = 11 := by omega
      simp [monthLength, hleap]

/-- The day `n` of a cycle of four hundred years that begins in March: its year in the cycle, and the
days of that year before it.  The last day of a year is there only if the next year has a leap day. -/
theorem exists_yearOfCycle
    {n : Nat}
    (h : n < 146097) :
    ∃ year day, year < 400 ∧ day < 366 ∧
      (day = 365 → (year + 1) % 4 = 0 ∧ ((year + 1) % 100 ≠ 0 ∨ year = 399)) ∧
      (n - n / 1460 + n / 36524 - n / 146096) / 365 = year ∧
      n = 365 * year + year / 4 - year / 100 + day := by
  -- a cycle has four centuries, the last one with a day more; a century has cycles of four years,
  -- and of these the last year has a day more, if it is not left out
  obtain ⟨c, q, a, t, hc, hq, ha, ht, hlast, rfl⟩ : ∃ c q a t, c < 4 ∧ q < 25 ∧ a < 4 ∧ t < 366 ∧
      (t = 365 → a = 3 ∧ (q < 24 ∨ c = 3)) ∧ n = 36524 * c + 1461 * q + 365 * a + t := by
    refine ⟨min 3 (n / 36524), (n - 36524 * min 3 (n / 36524)) / 1461,
      min 3 ((n - 36524 * min 3 (n / 36524)) % 1461 / 365),
      (n - 36524 * min 3 (n / 36524)) % 1461
        - 365 * min 3 ((n - 36524 * min 3 (n / 36524)) % 1461 / 365), ?_⟩
    omega
  have hfours : (100 * c + 4 * q + a) / 4 = 25 * c + q := by omega
  have hhundreds : (100 * c + 4 * q + a) / 100 = c := by omega
  refine ⟨100 * c + 4 * q + a, t, by omega, ht, by omega, ?_, by omega⟩
  generalize hn : 36524 * c + 1461 * q + 365 * a + t = n at h
  have hquads : n / 1460 = 25 * c + q + (if 24 * c + q + 365 * a + t < 1460 then 0 else 1) := by
    split <;> omega
  have hcenturies : n / 36524 = c + (if 1461 * q + 365 * a + t < 36524 then 0 else 1) := by
    split <;> omega
  have hcycle : n / 146096 = if n < 146096 then 0 else 1 := by
    split <;> omega
  rw [hquads, hcenturies, hcycle]
  split <;> split <;> split <;> omega

/-- The date of a count is that of a day of a year that begins in March. -/
theorem exists_ofMarch (days : Int) :
    ∃ y day, ofDays days = ofMarch y day ∧ MarchHas y day ∧
      days = marchStart y + day - 719468 := by
  obtain ⟨n, hn⟩ : ∃ n : Nat, (n : Int) = (days + 719468) % 146097 :=
    ⟨((days + 719468) % 146097).toNat, by omega⟩
  obtain ⟨year, day, hyear, hday, hlast, heq, hparts⟩ := @exists_yearOfCycle n (by omega)
  have hfloor : Int.fdiv (days + 719468) 146097 = (days + 719468) / 146097 :=
    Int.fdiv_eq_ediv_of_nonneg _ (by decide)
  have hofEra : (days + 719468 - (days + 719468) / 146097 * 146097).toNat = n := by omega
  have hofYear : n - (365 * year + year / 4 - year / 100) = day := by omega
  refine ⟨year + (days + 719468) / 146097 * 400, day, ?_, ?_, ?_⟩
  · simp only [ofDays, ofMarch, hfloor, hofEra, heq, hofYear]
  · by_cases hlt : day < 365
    · exact .inl hlt
    · refine .inr ⟨by omega, ?_⟩
      have hleap := hlast (by omega)
      simp only [isLeap, Bool.and_eq_true, Bool.or_eq_true, decide_eq_true_eq, bne_iff_ne]
      omega
  · rw [marchStart_add_cycles hyear]
    omega

/-- Every count is that of a day. -/
theorem valid_ofDays (days : Int) :
    (ofDays days).Valid := by
  obtain ⟨y, day, h, hhas, -⟩ := exists_ofMarch days
  rw [h]
  exact valid_ofMarch hhas

theorem toDays_ofDays (days : Int) :
    (ofDays days).toDays = days := by
  obtain ⟨y, day, h, hhas, hdays⟩ := exists_ofMarch days
  rw [h, toDays_ofMarch hhas.lt, ← hdays]

/-- Every day has a count. -/
theorem ofDays_toDays
    {c : CivilDate}
    (h : c.Valid) :
    ofDays c.toDays = c :=
  toDays_inj (valid_ofDays _) h (toDays_ofDays _)

/-- The next count is the date of the next day. -/
theorem ofDays_succ (days : Int) :
    ofDays (days + 1) = (ofDays days).next := by
  have hvalid := valid_ofDays days
  have hnext := toDays_next hvalid
  rw [toDays_ofDays] at hnext
  rw [← hnext, ofDays_toDays (valid_next hvalid)]

/-- The count begins on the first of January 1970. -/
theorem ofDays_zero :
    ofDays 0 = ⟨1970, 1, 1⟩ := by
  decide

end CivilDate
end Log
end SqlDialects
