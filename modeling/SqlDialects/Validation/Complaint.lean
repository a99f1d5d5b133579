import SqlDialects.Failure.Basic
import SqlDialects.Value.Display

/-!
# Complaints about data

What is wrong with data that are to fit a model: where, why, and what stood there.

**Results.**
* `complaintsText` is the report of all complaints about one input, in order. An input whose text
  is long is shown by its beginning and its end, and one that is nested too deeply by its kind.
-/

namespace SqlDialects
namespace Validation

/-- Where data come from: the words of some complaints depend on it. -/
inductive Origin where
  /-- From JSON text. -/
  | text
  /-- From values of a program. -/
  | program
deriving DecidableEq, Repr

/-- Why a value does not fit. -/
inductive Problem where
  | missing
  | notString
  | notBool
  | unclearBool
  | notInteger
  | unclearInteger
  | fractionalInteger
  | infiniteInteger
  | longInteger
  | notList (origin : Origin)
  | notModel (origin : Origin) (model : String)
  | notOneOf (names : List String)
  | refused (reason : String)
  | extra
  | invalidJson (reason : String)
deriving DecidableEq, Repr

/-- The name of a problem. -/
def Problem.label : Problem → String
  | .missing => "missing"
  | .notString => "string_type"
  | .notBool => "bool_type"
  | .unclearBool => "bool_parsing"
  | .notInteger => "int_type"
  | .unclearInteger => "int_parsing"
  | .fractionalInteger => "int_from_float"
  | .infiniteInteger => "finite_number"
  | .longInteger => "int_parsing_size"
  | .notList _ => "list_type"
  | .notModel _ _ => "model_type"
  | .notOneOf _ => "enum"
  | .refused _ => "value_error"
  | .extra => "extra_forbidden"
  | .invalidJson _ => "json_invalid"

/-- Names, each in single marks, with commas and a final `or`. -/
def alternatives : List String → String
  | [] => ""
  | [a] => "'" ++ a ++ "'"
  | [a, b] => "'" ++ a ++ "' or '" ++ b ++ "'"
  | a :: l => "'" ++ a ++ "', " ++ alternatives l

/-- The sentence about a problem. -/
def Problem.message : Problem → String
  | .missing => "Field required"
  | .notString => "Input should be a valid string"
  | .notBool => "Input should be a valid boolean"
  | .unclearBool => "Input should be a valid boolean, unable to interpret input"
  | .notInteger => "Input should be a valid integer"
  | .unclearInteger => "Input should be a valid integer, unable to parse string as an integer"
  | .fractionalInteger => "Input should be a valid integer, got a number with a fractional part"
  | .infiniteInteger => "Input should be a finite number"
  | .longInteger => "Unable to parse input string as an integer, exceeded maximum size"
  | .notList .text => "Input should be a valid array"
  | .notList .program => "Input should be a valid list"
  | .notModel .text _ => "Input should be an object"
  | .notModel .program model => "Input should be a valid dictionary or instance of " ++ model
  | .notOneOf names => "Input should be " ++ alternatives names
  | .refused reason => "Value error, " ++ reason
  | .extra => "Extra inputs are not permitted"
  | .invalidJson reason => "Invalid JSON: " ++ reason

/-- A complaint about a value at a place of the input. -/
structure Complaint where
  place : List String
  problem : Problem
  input : Value

/-- The longest prefix of at most `size` bytes. -/
def takeBytes : (size : Nat) → List Char → List Char
  | _, [] => []
  | size, c :: cs =>
    let n := c.utf8Size
    if n ≤ size then c :: takeBytes (size - n) cs else []

/-- The most bytes that are shown of an input in full, and how many of its beginning and of its
end are shown otherwise. -/
structure Abridgement where
  limit : Nat
  head : Nat
  tail : Nat

/-- Inputs of more than fifty bytes are abridged. -/
def abridgement : Abridgement :=
  ⟨50, 25, 24⟩

/-- A text, abridged if it is long; no character is split. -/
def abridge (s : String) : String :=
  if s.utf8ByteSize ≤ abridgement.limit then s
  else
    let cs := s.toList
    String.ofList (takeBytes abridgement.head cs ++ ['.', '.', '.']
      ++ (takeBytes abridgement.tail cs.reverse).reverse)

/-- A value as complaints show it. -/
def shown (v : Value) : String :=
  if v.isTooDeep then "<unprintable " ++ v.kindName ++ " object>" else abridge v.inspect

/-- The lines of one complaint, each after a line end. -/
def Complaint.text (c : Complaint) : String :=
  (if c.place.isEmpty then "" else "\n" ++ ".".intercalate c.place)
    ++ "\n  " ++ c.problem.message ++ " [type=" ++ c.problem.label ++ ", input_value="
    ++ shown c.input ++ ", input_type=" ++ c.input.kindName
    ++ "]\n    For further information visit https://errors.pydantic.dev/2.14/v/"
    ++ c.problem.label

/-- The report of all complaints about an input for a model. -/
def complaintsText (model : String) (cs : List Complaint) : String :=
  toString cs.length ++ (if cs.length = 1 then " validation error for " else
    " validation errors for ") ++ model ++ String.join (cs.map Complaint.text)

/-- The failure that reports complaints. -/
def failure (model : String) (cs : List Complaint) : Failure :=
  .of .validation (complaintsText model cs)

end Validation
end SqlDialects
