import SqlDialects.Sql.Tree

/-!
# Building trees

Trees that are not read from a text: names, literals, conditions and small queries.

**Rules.**
* A name that is no plain word is in quotes.
* An operator is no operand of another one without parentheses.
-/

namespace SqlDialects
namespace Sql
namespace Tree

/-- Whether a character may stand in a plain name after its first one. -/
def isNameChar (c : Char) : Bool :=
  c.isAlphanum || c = '_' || c.toNat ≥ 128

/-- Whether a text is a plain name, which needs no quotes. -/
def isPlainName (s : String) : Bool :=
  match s.toList with
  | [] => false
  | c :: cs => (c.isAlpha || c = '_') && cs.all isNameChar

/-- A name. -/
def identifier (s : String) (quoted : Bool) : Tree :=
  of .identifier [("this", text s), ("quoted", flag quoted)]

/-- A name, in quotes if need be. -/
def nameOf (s : String) : Tree :=
  identifier s (!isPlainName s)

/-- A column of a table. -/
def column (this table : Tree) : Tree :=
  of .column [("this", this), ("table", table)]

/-- A number. -/
def number (n : Nat) : Tree :=
  of .literal [("this", text (toString n)), ("is_string", flag false)]

/-- An integer; a negative one has a sign. -/
def integer (i : Int) : Tree :=
  if i < 0 then of .neg [("this", number i.natAbs)] else number i.natAbs

/-- A text. -/
def string (s : String) : Tree :=
  of .literal [("this", text s), ("is_string", flag true)]

/-- A truth value. -/
def boolean (b : Bool) : Tree :=
  of .boolean [("this", flag b)]

/-- Null. -/
def null : Tree :=
  of .null []

/-- All columns. -/
def star : Tree :=
  of .star []

/-- A tree in parentheses. -/
def paren (t : Tree) : Tree :=
  of .paren [("this", t)]

/-- A tree in parentheses if its kind passes a test. -/
def parenIf (p : Kind → Bool) (t : Tree) : Tree :=
  if (t.kind?.map p).getD false then paren t else t

/-- A tree without the parentheses around it. -/
def unparen : Tree → Tree
  | node .paren fs cs origin =>
    match inner fs with
    | some t => t
    | none => node .paren fs cs origin
  | t => t
where
  /-- What is in the innermost parentheses. -/
  inner : List (String × Tree) → Option Tree
    | [] => none
    | (name, t) :: fs => if name == "this" then some (unparen t) else inner fs

/-- An operator between two operands. -/
def operation (k : Kind) (left right : Tree) : Tree :=
  of k [("this", left), ("expression", right)]

/-- An operator between two operands, which are put in parentheses if they are operators. -/
def comparison (k : Kind) (left right : Tree) : Tree :=
  operation k (parenIf Kind.isBinary left) (parenIf Kind.isBinary right)

/-- The negation of a condition. -/
def negation (t : Tree) : Tree :=
  of .negation [("this", parenIf Kind.isConnector t)]

/-- A condition with further ones, all of which have to hold. -/
def allOf (t : Tree) (more : List Tree) : Tree :=
  match more with
  | [] => t
  | _ =>
    more.foldl (fun c u => operation .both c (parenIf Kind.isConnector u))
      (parenIf Kind.isConnector t)

/-- A name for a tree. A tree that has a place for an alias takes it there. -/
def aliased (t name : Tree) : Tree :=
  match t.kind? with
  | some .aliasOf | some .subquery | some .table | some .values => t.set "alias" name
  | _ => of .aliasOf [("this", t), ("alias", name)]

/-- The alias of a table. -/
def tableAlias (name : Tree) : Tree :=
  of .tableAlias [("this", name)]

/-- A query in parentheses with an alias. -/
def subquery (t : Tree) (name : Option Tree) : Tree :=
  of .subquery [("this", t), ("alias", ofOption (name.map tableAlias))]

/-- A query for some expressions. -/
def select (items : List Tree) : Tree :=
  of .select [("expressions", many items)]

/-- A query that takes its rows from a source. -/
def fromSource (source t : Tree) : Tree :=
  t.set "from_" (of .fromClause [("this", source)])

/-- A query with one more condition on its rows. -/
def filtered (t condition : Tree) : Tree :=
  let conditions :=
    match (t.field? "where").bind fun w => w.field? "this" with
    | some c => allOf c [condition]
    | none => condition
  t.set "where" (of .whereClause [("this", conditions)])

/-- A query that is no combination with the equal rows kept. -/
def unionAll (left right : Tree) : Tree :=
  of .unionOf [("this", left), ("distinct", flag false), ("expression", right)]

end Tree
end Sql
end SqlDialects
