import SqlDialects.Json.Printer
import SqlDialects.Value.Display

/-!
# Values as JSON

**Input.** A dynamic value, and perhaps a way to write objects outside the data format as text.

**Rules.**
* A tuple becomes an array; a key that is no text becomes the JSON text of its value.
* The first thing that has no JSON form, in the order of writing, is the fault that is reported.

**Results.**
* `Value.toJson` keeps all entries of a dictionary, also those whose keys become equal.
* `Value.normalForm` is what reading the written text gives back.
-/

namespace SqlDialects
namespace Value

/-- Why a value has no JSON form. -/
inductive EncodeFault where
  | unknownObject (kind : String)
  | unusableKey (kind : String)
  | circular
  | tooDeep
  | tooManyDigits
deriving DecidableEq, Repr

/-- The text that reports a fault. -/
def EncodeFault.message : EncodeFault → String
  | .unknownObject kind => "Object of type " ++ kind ++ " is not JSON serializable"
  | .unusableKey kind => "keys must be str, int, float, bool or None, not " ++ kind
  | .circular => "Circular reference detected"
  | .tooDeep => "maximum recursion depth exceeded while encoding a JSON object"
  | .tooManyDigits =>
    "Exceeds the limit (4300 digits) for integer string conversion; "
      ++ "use sys.set_int_max_str_digits() to increase the limit"

/-- The most digits that a written integer may have. -/
def digitLimit : Nat :=
  4300

/-- Whether an integer has too many digits to be written. -/
def isTooLong (i : Int) : Bool :=
  Nat.pow 10 digitLimit ≤ i.natAbs

/-- The text of a key. -/
def keyText : Value → Except EncodeFault String
  | .text s => .ok s
  | .null => .ok "null"
  | .bool true => .ok "true"
  | .bool false => .ok "false"
  | .int i => if isTooLong i then .error .tooManyDigits else .ok (Decimal.intText i)
  | .float x => .ok (Json.floatText x)
  | .foreign .member => .ok "mysql"
  | v => .error (.unusableKey v.qualifiedKind)

/-- How objects outside the data format are written, if they are. -/
abbrev Fallback := Option (Value → String)

mutual

/-- The JSON form of a value that stands under at most `depth` further containers. -/
def toJsonWithin (fallback : Fallback) : (depth : Nat) → Value → Except EncodeFault Json
  | _, .null => .ok .null
  | _, .bool b => .ok (.bool b)
  | _, .int i => if isTooLong i then .error .tooManyDigits else .ok (.int i)
  | _, .float x => .ok (.float x)
  | _, .text s => .ok (.text s)
  | 0, .list _ => .error .tooDeep
  | 0, .tuple _ => .error .tooDeep
  | 0, .dict _ => .error .tooDeep
  | depth + 1, .list items => (itemsToJson fallback depth items).map .array
  | depth + 1, .tuple items => (itemsToJson fallback depth items).map .array
  | depth + 1, .dict entries => (entriesToJson fallback depth entries).map .object
  | _, .foreign .member => .ok (.text "mysql")
  | _, .foreign f =>
    match fallback with
    | some write => .ok (.text (write (.foreign f)))
    | none => .error (.unknownObject f.kindName)
  | _, .endless _ => .error .circular

/-- The JSON forms of items. -/
def itemsToJson (fallback : Fallback) : (depth : Nat) → List Value → Except EncodeFault (List Json)
  | _, [] => .ok []
  | depth, v :: vs =>
    match toJsonWithin fallback depth v with
    | .error e => .error e
    | .ok j => (itemsToJson fallback depth vs).map (j :: ·)

/-- The JSON forms of entries; a key is looked at before its value. -/
def entriesToJson (fallback : Fallback) :
    (depth : Nat) → List (Value × Value) → Except EncodeFault (List (String × Json))
  | _, [] => .ok []
  | depth, (k, v) :: es =>
    match keyText k with
    | .error e => .error e
    | .ok name =>
      match toJsonWithin fallback depth v with
      | .error e => .error e
      | .ok j => (entriesToJson fallback depth es).map ((name, j) :: ·)

end

/-- The JSON form of a value. -/
def toJson (v : Value) : Except EncodeFault Json :=
  toJsonWithin none nestingLimit v

/-- The JSON form of a value in which objects outside the data format are shown as text. -/
def toJsonShowing (v : Value) : Except EncodeFault Json :=
  toJsonWithin (some display) nestingLimit v

/-- The text of a value. -/
def encode (style : Json.Style) (v : Value) : Except EncodeFault String :=
  (toJson v).map (Json.render style)

/-- The JSON form of a value with equal names merged. -/
def normalForm (v : Value) : Except EncodeFault Json :=
  (toJson v).map Json.normal

end Value
end SqlDialects
