import SqlDialects.Failure.Basic

/-!
# Scripts

Answers that are written down beforehand, for every method of something that is played by a
script. They are used up in order, and the last one is repeated.
-/

namespace SqlDialects
namespace Scripted

/-- An answer that is written down. -/
abbrev Answer := Except Failure Value

/-- The answers that are left for each method; methods have names of the kind `κ`. -/
abbrev Script (κ : Type) := List (κ × List Answer)

/-- The next answer of a method, and the script after it. -/
def next {κ : Type} [DecidableEq κ] (m : κ) : Script κ → Option (Answer × Script κ)
  | [] => none
  | (k, answers) :: rest =>
    if k = m then
      match answers with
      | [] => none
      | [a] => some (a, (k, [a]) :: rest)
      | a :: b :: more => some (a, (k, b :: more) :: rest)
    else (next m rest).map fun (a, s) => (a, (k, answers) :: s)

/-- The next answer of a method or its default, and the script after it. -/
def nextOr {κ : Type} [DecidableEq κ] (m : κ) (fallback : Value) (s : Script κ) :
    Answer × Script κ :=
  (next m s).getD (.ok fallback, s)

/-- The items of a list. -/
def asList : Value → List Value
  | .list items => items
  | .tuple items => items
  | _ => []

end Scripted
end SqlDialects
