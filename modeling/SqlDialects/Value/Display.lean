import SqlDialects.Text.Quoted
import SqlDialects.Value.Basic

/-!
# Showing values

A value as text: `Value.inspect` for programmers, with texts quoted, and `Value.display` for
people, which differs on the outermost level only.
-/

namespace SqlDialects
namespace Value

/-- Words for doubles that are not finite. -/
def floatWords : Decimal.FloatWords :=
  ⟨"nan", "inf"⟩

mutual

/-- The value as text for programmers. -/
def inspect : Value → String
  | .null => "None"
  | .bool true => "True"
  | .bool false => "False"
  | .int i => Decimal.intText i
  | .float x => Decimal.floatText floatWords x
  | .text s => Text.quoted s
  | .list items => "[" ++ inspectItems items ++ "]"
  | .tuple [v] => "(" ++ inspect v ++ ",)"
  | .tuple items => "(" ++ inspectItems items ++ ")"
  | .dict entries => "\x7b" ++ inspectEntries entries ++ "\x7d"
  | .foreign f => f.inspect
  | .endless .list => "[1, [...]]"
  | .endless .dict => "\x7b'a': 1, 'self': \x7b...\x7d\x7d"

/-- Items with commas between them. -/
def inspectItems : List Value → String
  | [] => ""
  | [v] => inspect v
  | v :: w :: vs => inspect v ++ ", " ++ inspectItems (w :: vs)

/-- Entries with commas between them. -/
def inspectEntries : List (Value × Value) → String
  | [] => ""
  | [(k, v)] => inspect k ++ ": " ++ inspect v
  | (k, v) :: e :: es => inspect k ++ ": " ++ inspect v ++ ", " ++ inspectEntries (e :: es)

end

/-- The most containers that may be nested in a value that is written as text. -/
def nestingLimit : Nat :=
  900

mutual

/-- Whether at most `depth` containers of the value are nested. -/
def fitsWithin : (depth : Nat) → Value → Bool
  | 0, .list _ => false
  | 0, .tuple _ => false
  | 0, .dict _ => false
  | depth + 1, .list items => itemsFitWithin depth items
  | depth + 1, .tuple items => itemsFitWithin depth items
  | depth + 1, .dict entries => entriesFitWithin depth entries
  | _, _ => true

/-- Whether each item fits. -/
def itemsFitWithin : (depth : Nat) → List Value → Bool
  | _, [] => true
  | depth, v :: vs => fitsWithin depth v && itemsFitWithin depth vs

/-- Whether each key and each value fits. -/
def entriesFitWithin : (depth : Nat) → List (Value × Value) → Bool
  | _, [] => true
  | depth, (k, v) :: es =>
    fitsWithin depth k && fitsWithin depth v && entriesFitWithin depth es

end

/-- Whether the value is nested too deeply to be written as text. -/
def isTooDeep (v : Value) : Bool :=
  !v.fitsWithin nestingLimit

/-- The value as text for people. -/
def display : Value → String
  | .text s => s
  | .foreign f => f.display
  | v => v.inspect

end Value
end SqlDialects
