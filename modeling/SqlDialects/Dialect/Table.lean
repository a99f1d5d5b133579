import SqlDialects.Dialect.Basic
import SqlDialects.Dialect.Name
import SqlDialects.Failure.Basic

/-!
# The table of dialect names

**Input.** Entries, each a dialect with its aliases.

**Algorithm.** `buildTable` goes through the entries in order and refuses the first whose names
repeat among themselves or were taken by an earlier entry. `resolve?` looks a name up in the table
of all dialects.

**Results.**
* In a table that is built no two names are equal, so a text matches at most one row.
-/

namespace SqlDialects
namespace Dialect

/-- A row of the table; its names are stored as they are compared. -/
structure Spec where
  canonical : String
  dialect : Dialect
  aliases : List String
deriving DecidableEq, Repr

/-- Whether a name, as it is compared, is one of the row. -/
def Spec.answersTo (s : Spec) (name : String) : Bool :=
  name == s.canonical || s.aliases.contains name

/-- All names of a row. -/
def Spec.names (s : Spec) : List String :=
  s.canonical :: s.aliases

/-- An entry that no table can take: the names it shares with earlier entries, and its own. -/
structure NameClash where
  dialect : Dialect
  shared : List String
  own : List String
deriving DecidableEq, Repr

/-- Whether a list has no element twice. -/
def allDistinct : List String → Bool
  | [] => true
  | a :: l => !l.contains a && allDistinct l

/-- The list with each element kept at its first place only. -/
def dedup : List String → List String
  | [] => []
  | a :: l => a :: (dedup l).filter (· ≠ a)

/-- Strings in the order of their code points. -/
def sorted (l : List String) : List String :=
  l.mergeSort fun a b => decide (a ≤ b)

/-- The row of an entry. -/
def Spec.ofEntry (entry : Dialect × List String) : Spec :=
  ⟨normalize entry.1.name, entry.1, entry.2.map normalize⟩

/-- The rows of entries after some names have been taken. -/
def buildFrom (taken : List String) : List (Dialect × List String) → Except NameClash (List Spec)
  | [] => .ok []
  | entry :: entries =>
    let spec := Spec.ofEntry entry
    let shared := spec.names.filter taken.contains
    if !shared.isEmpty || !allDistinct spec.names then
      .error ⟨entry.1, sorted (dedup shared), spec.names⟩
    else (buildFrom (taken ++ spec.names) entries).map (spec :: ·)

/-- The table of a list of entries. -/
def buildTable (entries : List (Dialect × List String)) : Except NameClash (List Spec) :=
  buildFrom [] entries

/-- The text that reports a clash. -/
def NameClash.message (e : NameClash) : String :=
  "Duplicate dialect name(s) for " ++ e.dialect.name ++ ": "
    ++ Text.quotedList (if e.shared.isEmpty then e.own else e.shared)

/-- The failure that reports a clash. -/
def NameClash.failure (e : NameClash) : Failure :=
  .of .value e.message

/-- The table of all dialects. -/
def table : List Spec :=
  match buildTable (all.map fun d => (d, d.aliases)) with
  | .ok t => t
  | .error _ => []

/-- The dialect that a name stands for in a table. -/
def lookup? (t : List Spec) (name : String) : Option Dialect :=
  (t.find? fun s => s.answersTo (normalize name)).map (·.dialect)

/-- The dialect that a name stands for. -/
def resolve? (name : String) : Option Dialect :=
  lookup? table name

/-- The canonical names of all dialects. -/
def names : List String :=
  table.map (·.canonical)

end Dialect
end SqlDialects
