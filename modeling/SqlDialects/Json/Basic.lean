/-!
# JSON values

The values of the interchange format. Integers are exact and apart from doubles, and an object is
a list of members in the order in which they stand.

**Results.**
* `Json.normal` keeps one member for each name of an object: the place of the first and the value
  of the last.
-/

namespace SqlDialects

/-- A JSON value. -/
inductive Json where
  | null
  | bool (b : Bool)
  | int (i : Int)
  | float (x : Float)
  | text (s : String)
  | array (items : List Json)
  | object (members : List (String × Json))
deriving Inhabited

namespace Json

/-- Gives a member a value: an existing name keeps its place, a new one goes to the end. -/
def setMember {α : Type} (name : String) (value : α) : List (String × α) → List (String × α)
  | [] => [(name, value)]
  | (n, v) :: ms => if n = name then (n, value) :: ms else (n, v) :: setMember name value ms

/-- Members with each name kept once: the place of the first and the value of the last. -/
def mergeMembers {α : Type} (ms : List (String × α)) : List (String × α) :=
  ms.foldl (fun acc m => setMember m.1 m.2 acc) []

mutual

/-- The value with every object reduced to one member for each name. -/
def normal : Json → Json
  | .array items => .array (normalItems items)
  | .object members => .object (mergeMembers (normalMembers members))
  | v => v

/-- The normal forms of the items of an array. -/
def normalItems : List Json → List Json
  | [] => []
  | v :: vs => normal v :: normalItems vs

/-- The members of an object with the values in normal form. -/
def normalMembers : List (String × Json) → List (String × Json)
  | [] => []
  | (n, v) :: ms => (n, normal v) :: normalMembers ms

end

/-- The value of a member, if the object has one of that name. -/
def member? (name : String) : Json → Option Json
  | .object members => (members.find? fun m => m.1 == name).map (·.2)
  | _ => none

end Json
end SqlDialects
