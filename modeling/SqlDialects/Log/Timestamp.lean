import SqlDialects.Decimal.Notation
import SqlDialects.Failure.Basic
import SqlDialects.Text.Blank

/-!
# Timestamps

**Input.** Seconds since the start of 1970, as an integer or a double. Any other value is refused.

**Algorithm.** `Instant.ofSeconds` rounds to whole microseconds, a half to the even neighbour; the
fraction is scaled as a double, so far from 1970 the last digits are those of the double. The
civil date is found from the count of days in cycles of four hundred years that start in March.

**Results.**
* `Instant.isoChars` writes a date and time in UTC. The microseconds are left out when there are
  none.
* `Instant.isoText?` refuses years outside 1 to 9999.
-/

namespace SqlDialects
namespace Log

/-- A point in time: microseconds since the start of 1970. -/
structure Instant where
  micros : Int
deriving DecidableEq, Repr, Inhabited

/-- A day of the calendar. -/
structure CivilDate where
  year : Int
  month : Nat
  day : Nat
deriving DecidableEq, Repr

/-- The date of a count of days since the first of January 1970. -/
def CivilDate.ofDays (days : Int) : CivilDate :=
  let z := days + 719468
  let era := Int.fdiv z 146097
  let ofEra := (z - era * 146097).toNat
  let yearOfEra := (ofEra - ofEra / 1460 + ofEra / 36524 - ofEra / 146096) / 365
  let ofYear := ofEra - (365 * yearOfEra + yearOfEra / 4 - yearOfEra / 100)
  let m := (5 * ofYear + 2) / 153
  let day := ofYear - (153 * m + 2) / 5 + 1
  let month := if m < 10 then m + 3 else m - 9
  let year : Int := yearOfEra + era * 400
  ⟨if month ≤ 2 then year + 1 else year, month, day⟩

/-- The count of days from the first of January 1970 to a date. -/
def CivilDate.toDays (c : CivilDate) : Int :=
  let y := if c.month ≤ 2 then c.year - 1 else c.year
  let era := Int.fdiv y 400
  let yearOfEra := y - era * 400
  let m : Int := if c.month > 2 then (c.month : Int) - 3 else (c.month : Int) + 9
  let ofYear := (153 * m + 2) / 5 + (c.day : Int) - 1
  let ofEra := yearOfEra * 365 + yearOfEra / 4 - yearOfEra / 100 + ofYear
  era * 146097 + ofEra - 719468

/-- A double split at its point: the whole part, toward zero, and the fraction times `scale` as
the nearest double. -/
def splitScaled (b : Decimal.Binary) (scale : Nat) : Int × Option Decimal.Binary :=
  let (n, d) := b.ratio
  let whole : Int := ↑(n / d)
  let fraction := Decimal.Binary.parts (Decimal.Binary.ofRatio b.negative (n % d * scale) d)
  (if b.negative then -whole else whole, fraction)

/-- A finite double rounded to an integer, a half to the even neighbour. -/
def roundHalfEven (b : Decimal.Binary) : Int :=
  let (n, d) := b.ratio
  let m : Int := Decimal.roundDiv n d
  if b.negative then -m else m

/-- A finite double cut to an integer, toward zero. -/
def truncate (b : Decimal.Binary) : Int :=
  let (n, d) := b.ratio
  let m : Int := ↑(n / d)
  if b.negative then -m else m

/-- Whether characters are digits with single underscores between them. -/
def isDigitRun : (afterDigit : Bool) → List Char → Bool
  | afterDigit, [] => afterDigit
  | afterDigit, c :: cs =>
    if '0' ≤ c ∧ c ≤ '9' then isDigitRun true cs
    else c = '_' && afterDigit && isDigitRun false cs

/-- Whether a text denotes an integer: digits, perhaps with a sign and blanks around. -/
def denotesInteger (s : String) : Bool :=
  match Text.trim Text.isSpace s.toList with
  | '-' :: cs => isDigitRun false cs
  | '+' :: cs => isDigitRun false cs
  | cs => isDigitRun false cs

/-- The failure to take one kind of value from another. -/
def noDifference (left right : String) : Failure :=
  .of .type ("unsupported operand type(s) for -: '" ++ left ++ "' and '" ++ right ++ "'")

/-- The failure to read an integer from a value that is shown as `shown`. -/
def noInteger (shown : String) : Failure :=
  .of .value ("invalid literal for int() with base 10: " ++ (shown.take 200).toString)

/-- The failure of a value that is no count of seconds. -/
def notSeconds : Value → Failure
  | .text s => if denotesInteger s then noDifference "str" "int" else noInteger (Text.quoted s)
  | .foreign .member => noInteger (Foreign.inspect .member)
  | .foreign .bytes => noInteger (Foreign.inspect .bytes)
  | .foreign .decimal => noDifference (Foreign.qualifiedName .decimal) "float"
  | v =>
    .of .type ("int() argument must be a string, a bytes-like object or a real number, not '"
      ++ v.qualifiedKind ++ "'")

namespace Instant

/-- The instant of a count of seconds; the latter is an integer or a double. -/
def ofSeconds : Value → Except Failure Instant
  | .bool b => .ok ⟨if b then 1000000 else 0⟩
  | .int i =>
    if (Decimal.Binary.parts (Decimal.floatOf (i < 0) i.natAbs 0)).isSome then
      .ok ⟨i * 1000000⟩
    else .error (.of (.general .overflow) "int too large to convert to float")
  | .float x =>
    match Decimal.Binary.parts x with
    | none =>
      if Decimal.isNaN x then .error (.of .value "cannot convert float NaN to integer")
      else .error (.of (.general .overflow) "cannot convert float infinity to integer")
    | some b =>
      let (whole, fraction) := splitScaled b 1000000
      .ok ⟨whole * 1000000 + (fraction.map roundHalfEven).getD 0⟩
  | v => .error (notSeconds v)

/-- Whole seconds since the start of 1970. -/
def seconds (t : Instant) : Int :=
  Int.fdiv t.micros 1000000

/-- Microseconds of the second. -/
def fraction (t : Instant) : Nat :=
  (t.micros - t.seconds * 1000000).toNat

/-- The date in UTC. -/
def date (t : Instant) : CivilDate :=
  .ofDays (Int.fdiv t.seconds 86400)

/-- Seconds of the day. -/
def secondOfDay (t : Instant) : Nat :=
  (t.seconds - Int.fdiv t.seconds 86400 * 86400).toNat

end Instant

/-- Year, month and day with hyphens. -/
def dateChars (c : CivilDate) : List Char :=
  Decimal.padded 4 c.year.toNat ++ '-' :: Decimal.padded 2 c.month ++ '-' :: Decimal.padded 2 c.day

/-- Hour, minute and second with colons. -/
def timeChars (secondOfDay : Nat) : List Char :=
  Decimal.padded 2 (secondOfDay / 3600) ++ ':' :: Decimal.padded 2 (secondOfDay / 60 % 60)
    ++ ':' :: Decimal.padded 2 (secondOfDay % 60)

/-- Date and time in UTC, with microseconds unless there are none. -/
def Instant.isoChars (t : Instant) : List Char :=
  dateChars t.date ++ 'T' :: timeChars t.secondOfDay
    ++ (if t.fraction = 0 then [] else '.' :: Decimal.padded 6 t.fraction)
    ++ ['+', '0', '0', ':', '0', '0']

/-- Date and time in UTC, for the years 1 to 9999. Instants that the calendar cannot reach at all
are refused in words of their own. -/
def Instant.isoText? (t : Instant) : Except Failure String :=
  let y := t.date.year
  if 1 ≤ y ∧ y ≤ 9999 then .ok (String.ofList t.isoChars)
  else if t.seconds < -Nat.pow 2 63 ∨ Nat.pow 2 63 ≤ t.seconds then
    .error (.of (.general .overflow) "timestamp out of range for platform time_t")
  else if y < 1900 - Nat.pow 2 31 ∨ 1900 + Nat.pow 2 31 ≤ y then
    .error (.of (.general .os) "[Errno 75] Value too large for defined data type")
  else .error (.of .value ("year " ++ Decimal.intText y ++ " is out of range"))

/-- The whole seconds of a count of seconds, toward the past, and its milliseconds, toward zero and
with the sign of the count. -/
def secondsAndMillis : Value → Int × Int
  | .float x =>
    match Decimal.Binary.parts x with
    | none => (0, 0)
    | some b =>
      let (n, d) := b.ratio
      (if b.negative then -↑((n + d - 1) / d) else ↑(n / d),
        ((splitScaled b 1000).2.map truncate).getD 0)
  | .int i => (i, 0)
  | .bool b => (if b then 1 else 0, 0)
  | _ => (0, 0)

/-- Date and time with milliseconds after a comma, as lines of text show them. The year is not
filled up, and of a time before 1970 the milliseconds have a sign within their three places. -/
def lineTime (created : Value) : Except Failure String := do
  let _ ← Instant.ofSeconds created
  let (seconds, millis) := secondsAndMillis created
  let t : Instant := ⟨seconds * 1000000⟩
  let date := t.date
  let shown :=
    if millis < 0 then '-' :: Decimal.padded 2 millis.natAbs else Decimal.padded 3 millis.natAbs
  .ok (String.ofList (Decimal.intChars date.year ++ '-' :: Decimal.padded 2 date.month
    ++ '-' :: Decimal.padded 2 date.day ++ ' ' :: timeChars t.secondOfDay ++ ',' :: shown))

end Log
end SqlDialects
