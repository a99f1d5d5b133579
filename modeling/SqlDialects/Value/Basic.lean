import SqlDialects.Decimal.Notation
import SqlDialects.Json.Basic

/-!
# Dynamic values

What hosts hand in and engines hand out: JSON-like data together with tuples, dictionaries with
keys of any kind, and objects that no data format knows.

**Results.**
* `Value.ofJson` embeds the JSON values.
* `Value.isTruthy` and `Value.kindName` are the two views that messages and settings rely on.
-/

namespace SqlDialects

/-- An object outside the data format. -/
inductive Foreign where
  | set
  | frozenset
  | bytes
  | complex
  | decimal
  | date
  | range
  | member
  | type
  | ellipsis
deriving DecidableEq, Repr

/-- A container that holds itself. -/
inductive Endless where
  | list
  | dict
deriving DecidableEq, Repr

/-- A dynamic value. -/
inductive Value where
  | null
  | bool (b : Bool)
  | int (i : Int)
  | float (x : Float)
  | text (s : String)
  | list (items : List Value)
  | tuple (items : List Value)
  | dict (entries : List (Value × Value))
  | foreign (f : Foreign)
  | endless (e : Endless)
deriving Inhabited

namespace Foreign

/-- The name of the object's kind. -/
def kindName : Foreign → String
  | set => "set"
  | frozenset => "frozenset"
  | bytes => "bytes"
  | complex => "complex"
  | decimal => "Decimal"
  | date => "date"
  | range => "range"
  | member => "DialectType"
  | type => "type"
  | ellipsis => "ellipsis"

/-- The name of the object's kind together with the module that defines it. -/
def qualifiedName : Foreign → String
  | decimal => "decimal.Decimal"
  | date => "datetime.date"
  | f => f.kindName

/-- The object as text for people. -/
def display : Foreign → String
  | set => "\x7b1\x7d"
  | frozenset => "frozenset(\x7b1\x7d)"
  | bytes => "b'ab'"
  | complex => "(1+2j)"
  | decimal => "1.50"
  | date => "2024-02-29"
  | range => "range(0, 3)"
  | member => "DialectType.MYSQL"
  | type => "<class 'int'>"
  | ellipsis => "Ellipsis"

/-- The object as text for programmers. -/
def inspect : Foreign → String
  | decimal => "Decimal('1.50')"
  | date => "datetime.date(2024, 2, 29)"
  | member => "<DialectType.MYSQL: 'mysql'>"
  | f => f.display

end Foreign

namespace Value

mutual

/-- A JSON value as a dynamic value. -/
def ofJson : Json → Value
  | .null => .null
  | .bool b => .bool b
  | .int i => .int i
  | .float x => .float x
  | .text s => .text s
  | .array items => .list (ofItems items)
  | .object members => .dict (ofMembers members)

/-- JSON items as dynamic values. -/
def ofItems : List Json → List Value
  | [] => []
  | v :: vs => ofJson v :: ofItems vs

/-- JSON members as entries of a dictionary. -/
def ofMembers : List (String × Json) → List (Value × Value)
  | [] => []
  | (n, v) :: ms => (.text n, ofJson v) :: ofMembers ms

end

/-- The text that stands for a value wherever texts are taken. -/
def text? : Value → Option String
  | .text s => some s
  | .foreign .member => some "mysql"
  | _ => none

/-- The name of the value's kind. -/
def kindName : Value → String
  | .null => "NoneType"
  | .bool _ => "bool"
  | .int _ => "int"
  | .float _ => "float"
  | .text _ => "str"
  | .list _ => "list"
  | .tuple _ => "tuple"
  | .dict _ => "dict"
  | .foreign f => f.kindName
  | .endless .list => "list"
  | .endless .dict => "dict"

/-- The name of the value's kind together with the module that defines it. -/
def qualifiedKind : Value → String
  | .foreign f => f.qualifiedName
  | v => v.kindName

/-- Whether the value counts as true: it is not empty, zero, false or absent. -/
def isTruthy : Value → Bool
  | .null => false
  | .bool b => b
  | .int i => i != 0
  | .float x => !(x == 0.0)
  | .text s => !s.isEmpty
  | .list items => !items.isEmpty
  | .tuple items => !items.isEmpty
  | .dict entries => !entries.isEmpty
  | .foreign _ => true
  | .endless _ => true

/-- The integer that a number or truth value equals, if any. -/
def integral? : Value → Option Int
  | .bool b => some (if b then 1 else 0)
  | .int i => some i
  | .float x => (Decimal.Binary.parts x).bind Decimal.Binary.toInt?
  | _ => none

mutual

/-- Whether two values are one key of a dictionary: numbers are compared by value. -/
def sameKey : Value → Value → Bool
  | .null, .null => true
  | .tuple a, .tuple b => sameKeys a b
  | .foreign f, .foreign g => f == g
  | a, b =>
    match a.text?, b.text? with
    | some s, some t => s == t
    | none, none =>
      match a.integral?, b.integral? with
      | some i, some j => i == j
      | none, none =>
        match a, b with
        | .float x, .float y => x == y
        | _, _ => false
      | _, _ => false
    | _, _ => false

/-- Whether two lists of keys are equal one by one. -/
def sameKeys : List Value → List Value → Bool
  | [], [] => true
  | a :: as, b :: bs => sameKey a b && sameKeys as bs
  | _, _ => false

end

/-- Gives a key a value: an equal key keeps its place, a new one goes to the end. -/
def setEntry (key value : Value) : List (Value × Value) → List (Value × Value)
  | [] => [(key, value)]
  | (k, v) :: es => if sameKey k key then (k, value) :: es else (k, v) :: setEntry key value es

/-- A dictionary from entries in which keys may be repeated. -/
def dictOf (entries : List (Value × Value)) : Value :=
  .dict (entries.foldl (fun acc e => setEntry e.1 e.2 acc) [])

/-- The value at a text key of a dictionary. -/
def entry? (name : String) : Value → Option Value
  | .dict entries => (entries.find? fun e => e.1.text? == some name).map (·.2)
  | _ => none

end Value
end SqlDialects
