import SqlDialects.Sql.Tree

/-!
# Types in trees

The types of values, as far as literals, conversions and functions tell.

**Results.**
* `Tree.isCastTo` says whether a tree is a conversion to one of some types.
* `Tree.isText` and `Tree.isInexact` say whether a tree is known to be a text or a number with a
  floating point.
-/

namespace SqlDialects
namespace Sql

namespace DataType

/-- Types of texts. -/
def texts : List String :=
  ["BPCHAR", "CHAR", "NAME", "NCHAR", "NVARCHAR", "TEXT", "VARCHAR"]

/-- Types whose values are integers. -/
def integers : List String :=
  ["BIGINT", "BIT", "INT", "INT128", "INT256", "MEDIUMINT", "SMALLINT", "TINYINT", "UBIGINT",
    "UINT", "UINT128", "UINT256", "UMEDIUMINT", "USMALLINT", "UTINYINT"]

/-- Types whose values are no integers. -/
def reals : List String :=
  ["DOUBLE", "FLOAT", "DECIMAL", "UDECIMAL", "BIGDECIMAL", "DECIMAL32", "DECIMAL64", "DECIMAL128",
    "DECIMAL256", "DECFLOAT", "MONEY", "SMALLMONEY", "UDOUBLE"]

/-- Types whose values are numbers. -/
def numbers : List String :=
  integers ++ reals

/-- Types of texts that may have a size. -/
def sizedTexts : List String :=
  ["CHAR", "NCHAR", "NVARCHAR", "VARCHAR"]

/-- How many bits an inexact number of the smaller type has. -/
def floatBits : Nat :=
  32

/-- Types of dates and times. -/
def times : List String :=
  ["DATE", "DATETIME", "DATETIME2", "SMALLDATETIME", "TIME", "TIMESTAMP", "TIMESTAMPLTZ",
    "TIMESTAMPNTZ", "TIMESTAMPTZ", "TIMETZ"]

/-- Types of times with a zone. -/
def zonedTimes : List String :=
  ["TIMESTAMPTZ", "TIMETZ"]

/-- Types of integers without a sign. -/
def unsigned : List String :=
  ["UBIGINT", "UINT", "UMEDIUMINT", "USMALLINT", "UTINYINT"]

/-- Types that are other names for texts of any size. -/
def anyTexts : List String :=
  ["TEXT", "LONGTEXT", "MEDIUMTEXT", "TINYTEXT"]

end DataType

/-- What is known of a number. -/
inductive NumberForm where
  | unknown
  | whole
  | inexact
deriving DecidableEq, Repr

/-- What is known of a sum or a product of two numbers. -/
def NumberForm.join : NumberForm → NumberForm → NumberForm
  | .unknown, _ | _, .unknown => .unknown
  | .whole, .whole => .whole
  | _, _ => .inexact

namespace Tree

/-- The name of the type that a tree converts to. -/
def castType? (t : Tree) : Option String :=
  if (t.kind?.map Kind.isCast).getD false then
    match (t.field? "to").bind fun target => target.field? "this" with
    | some (.typeName s) => some s
    | _ => none
  else none

/-- Whether a tree is a conversion to one of some types. -/
def isCastTo (types : List String) (t : Tree) : Bool :=
  t.castType?.any fun s => types.contains s

/-- A conversion of a tree to a type. -/
def castTo (type : String) (t : Tree) : Tree :=
  of .cast [("this", t), ("to", of .dataType [("this", typeName type)])]

/-- Functions whose values are texts. -/
def textFunctions : List Function :=
  [.initcap, .lower, .trim, .upper]

/-- Whether a tree is known to be a text. -/
def isText (t : Tree) : Bool :=
  (t.isA .literal && t.holds "is_string") || t.isCastTo DataType.texts
    || textFunctions.any fun f => t.isA (.function f)

/-- Functions whose values are numbers with a floating point. -/
def inexactFunctions : List Function :=
  [.avg, .exp, .ln, .log, .pow, .round, .sqrt, .stddev, .stddevPop, .stddevSamp, .variance,
    .variancePop]

mutual

/-- What is known of the number that a tree stands for. -/
def numberForm : Tree → NumberForm
  | node .literal fs _ _ =>
    match fs.lookup "is_string", fs.lookup "this" with
    | some (.scalar (.bool false)), some (.scalar (.text s)) =>
      if s.all Char.isDigit then .whole else .inexact
    | _, _ => .unknown
  | node .paren fs _ _ | node .neg fs _ _ => numberFormIn "this" fs
  | node .add fs _ _ | node .sub fs _ _ | node .mul fs _ _ =>
    (numberFormIn "this" fs).join (numberFormIn "expression" fs)
  | node (.function f) _ _ _ => if inexactFunctions.contains f then .inexact else .unknown
  | node .cast fs cs o =>
    let t := node .cast fs cs o
    if t.isCastTo DataType.integers then .whole
    else if t.isCastTo ["DOUBLE"] then .inexact
    else .unknown
  | _ => .unknown

/-- What is known of the number in a field. -/
def numberFormIn (name : String) : List (String × Tree) → NumberForm
  | [] => .unknown
  | (n, t) :: fs => if n == name then numberForm t else numberFormIn name fs

end

/-- Whether a tree is known to be a number with a floating point. -/
def isInexact (t : Tree) : Bool :=
  t.numberForm == .inexact

/-- A tree as a text of any size. -/
def asText (t : Tree) : Tree :=
  if t.isCastTo DataType.anyTexts then t else castTo "TEXT" t

end Tree
end Sql
end SqlDialects
