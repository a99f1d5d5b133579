import SqlDialects.Text.Blank
import SqlDialects.Text.Case
import SqlDialects.Validation.Complaint

/-!
# Fields

How a value is taken as a truth value, an integer, a text or one of some names.

**Rules.**
* The texts for truth values are compared without regard to case; numbers count if they are zero
  or one.
* A text is taken as an integer if it has decimal digits only, a sign, blanks around them, zeros
  and underscores among them and a fraction of zeros aside.
* Nothing but a text is taken as a text.
-/

namespace SqlDialects
namespace Validation

/-- Texts for true. -/
def trueWords : List String :=
  ["1", "on", "t", "true", "y", "yes"]

/-- Texts for false. -/
def falseWords : List String :=
  ["0", "off", "f", "false", "n", "no"]

/-- The truth value that an integer is taken as. Integers beyond 64 bits are not looked at. -/
def boolOfInt (i : Int) : Except Problem Bool :=
  if i < -Nat.pow 2 63 ∨ Nat.pow 2 63 ≤ i then .error .notBool
  else if i = 0 then .ok false
  else if i = 1 then .ok true
  else .error .unclearBool

/-- The text that a value is, if it may stand for one: a text or bytes. -/
def textOf? : Value → Option String
  | .foreign .bytes => some "ab"
  | v => v.text?

/-- The integer that a double is taken as: the double has no fraction and is strictly within the
range of 64 bits. -/
def integerOfFloat (x : Float) : Except Problem Int :=
  match Decimal.Binary.parts x with
  | none => .error .infiniteInteger
  | some b =>
    match b.toInt? with
    | none => .error .fractionalInteger
    | some i => if -Nat.pow 2 63 < i ∧ i < Nat.pow 2 63 then .ok i else .error .longInteger

/-- A value as a truth value. -/
def asBool (v : Value) : Except Problem Bool :=
  match v with
  | .bool b => .ok b
  | .int i => boolOfInt i
  | .float x =>
    match integerOfFloat x with
    | .ok i => boolOfInt i
    | .error _ => .error .notBool
  | v =>
    match textOf? v with
    | none => .error .notBool
    | some s =>
      let s := String.ofList (s.toList.map Text.asciiLower)
      if trueWords.contains s then .ok true
      else if falseWords.contains s then .ok false
      else .error .unclearBool

/-- How a plain integer is misspelt. -/
inductive Misspelling where
  | tooLong
  | other
deriving DecidableEq, Repr

/-- The most characters of a plain integer, its sign included. -/
def integerLimit : Nat :=
  4300

/-- A plain integer: a minus sign perhaps, and digits without a zero in front. -/
def plainInteger (cs : List Char) : Except Misspelling Int :=
  let (negative, ds) :=
    match cs with
    | '-' :: r => (true, r)
    | r => (false, r)
  match ds with
  | [] => .error .other
  | ['0'] => .ok 0
  | '0' :: _ => .error .other
  | ds =>
    let digits := ds.takeWhile Char.isDigit
    let size := digits.length + (if negative then 1 else 0)
    if digits.isEmpty then .error .other
    else if integerLimit < size then .error .tooLong
    else if digits.length = ds.length then
      let n : Int := Decimal.digitsValue digits
      .ok (if negative then -n else n)
    else .error .other

/-- What follows zeros and underscores behind a first zero; `last` is the character before. It is
the rest from a digit or minus sign on, the last zero with the point behind it, or, if nothing
else follows, the last character. -/
def afterZeros (last : Char) : List Char → Option (List Char)
  | [] => some [last]
  | c :: cs =>
    if c = '0' ∨ c = '_' then afterZeros c cs
    else if c.isDigit ∨ c = '-' then some (c :: cs)
    else if c = '.' then some (last :: c :: cs)
    else none

/-- A number without the zeros in front. -/
def dropLeadingZeros : List Char → Option (List Char)
  | '0' :: cs => afterZeros '0' cs
  | c :: cs => if c.isDigit ∨ c = '-' then some (c :: cs) else none
  | [] => none

/-- The text before a point that only zeros follow; a text without such a point is kept. -/
def dropZeroFraction (cs : List Char) : List Char :=
  match cs.dropWhile (· ≠ '.') with
  | '.' :: zs => if zs.all (· = '0') then cs.takeWhile (· ≠ '.') else cs
  | _ => cs

/-- Whether two underscores stand side by side. -/
def hasDoubleUnderscore : List Char → Bool
  | '_' :: '_' :: _ => true
  | _ :: cs => hasDoubleUnderscore cs
  | [] => false

/-- A number without its underscores, if they are single and inside. -/
def dropUnderscores (cs : List Char) : List Char :=
  if cs.head? = some '_' ∨ cs.getLast? = some '_' ∨ hasDoubleUnderscore cs then cs
  else cs.filter (· ≠ '_')

/-- A plain integer from a text with blanks around, a plus sign, zeros in front, a fraction of
zeros or underscores. -/
def plainForm (cs : List Char) : Option (List Char) :=
  let trimmed := Text.trim Text.isBlank cs
  match trimmed with
  | '+' :: '-' :: _ => none
  | '+' :: r => (dropLeadingZeros r).map fun r => dropUnderscores (dropZeroFraction r)
  | r => (dropLeadingZeros r).map fun r => dropUnderscores (dropZeroFraction r)

/-- The integer that a text is taken as. -/
def integerOfText (s : String) : Except Problem Int :=
  match plainInteger s.toList with
  | .ok i => .ok i
  | .error .tooLong => .error .longInteger
  | .error .other =>
    match (plainForm s.toList).map plainInteger with
    | some (.ok i) => .ok i
    | _ => .error .unclearInteger

/-- A value as an integer. -/
def asInt (v : Value) : Except Problem Int :=
  match v with
  | .bool b => .ok (if b then 1 else 0)
  | .int i => .ok i
  | .float x => integerOfFloat x
  | .foreign .decimal => .error .fractionalInteger
  | v =>
    match textOf? v with
    | some s => integerOfText s
    | none => .error .notInteger

/-- A value as a text. -/
def asString (v : Value) : Except Problem String :=
  match textOf? v with
  | some s => .ok s
  | none => .error .notString

/-- A value as one of some named values. -/
def asOneOf {α : Type} (names : List (String × α)) (v : Value) : Except Problem α :=
  match v.text? with
  | none => .error (.notOneOf (names.map (·.1)))
  | some s =>
    match names.find? fun n => n.1 == s with
    | some n => .ok n.2
    | none => .error (.notOneOf (names.map (·.1)))

/-- The items of a value that is taken as a list. -/
def itemsOf? : Value → Option (List Value)
  | .list items => some items
  | .tuple items => some items
  | .foreign .set => some [.int 1]
  | .foreign .frozenset => some [.int 1]
  | .foreign .range => some [.int 0, .int 1, .int 2]
  | .endless .list => some [.int 1, .endless .list]
  | _ => none

/-- An absent value, or one taken by a reader. -/
def asOptional {α : Type} (read : Value → Except Problem α) (v : Value) :
    Except Problem (Option α) :=
  match v with
  | .null => .ok none
  | v => (read v).map some

/-- What checking gives: the value if there are no complaints. -/
abbrev Checked (α : Type) := Except (List Complaint) α

/-- A checked field of a model; a field that is not there has a default or is required. -/
def field {α : Type} (place : List String) (whole : Value) (name : String) (fallback : Option α)
    (read : Value → Except Problem α) : Checked α :=
  match whole.entry? name with
  | none =>
    match fallback with
    | some a => .ok a
    | none => .error [⟨place ++ [name], .missing, whole⟩]
  | some v =>
    match read v with
    | .ok a => .ok a
    | .error p => .error [⟨place ++ [name], p, v⟩]

/-- Two checks together: all complaints of both, in order. -/
def both {α β : Type} (a : Checked α) (b : Checked β) : Checked (α × β) :=
  match a, b with
  | .ok x, .ok y => .ok (x, y)
  | .error cs, .ok _ => .error cs
  | .ok _, .error ds => .error ds
  | .error cs, .error ds => .error (cs ++ ds)

end Validation
end SqlDialects
