import SqlDialects.Failure.Basic
import SqlDialects.Library.Basic
import SqlDialects.Sql.Exchange.Dump
import SqlDialects.Sql.Exchange.TypeName
import SqlDialects.Value.Display

/-!
# Records as trees

The tree that a list of records describes.

**Algorithm.** Each record is read by itself: what it stands for, and which earlier record it
belongs to. Then the tree grows from the first record down; the number of records bounds its depth.

**Rules.**
* Nothing at all describes nothing.
* A null removes the field it is given for, and a first item replaces what is no list.
* The type of a node is checked, but not kept: a conversion has a field for it.

**Results.**
* `load` gives the tree, or what is wrong with the records.
-/

namespace SqlDialects
namespace Sql
namespace Exchange

/-- What can be wrong with records. -/
inductive Fault where
  | notRecords (data : Json)
  | notARecord (v : Json)
  | notSearchable (v : Json)
  | missing (name : String)
  | notAKindName (v : Json)
  | unknownKind (family name : String)
  | unknownFamily (name : String)
  | emptyFamily
  | unknownType (v : Json)
  | notANumber (v : Json)
  | outOfRange
  | notANode (parent : String) (listed : Bool)
  | notAKey (v : Json)
  | notAType (name : String)
  | noExpression (name : String)

/-- What kind of data a value is. -/
def kindOf (v : Json) : String :=
  (Value.ofJson v).kindName

/-- The group of families that all kinds belong to. -/
def root : String :=
  "sqlglot.expressions"

/-- What the group of families belongs to. -/
def top : String :=
  "sqlglot"

/-- A dotted name split before its last part. -/
def splitName (s : String) : Option (String × String) :=
  match (s.splitOn ".").reverse with
  | last :: p :: ps => some (".".intercalate (p :: ps).reverse, last)
  | _ => none

/-- The families that names of kinds may start with. -/
def families : List String :=
  top :: root :: (Kind.all.map fun k => root ++ "." ++ k.family).eraseDups

/-- The first part of a dotted name that names no family. -/
def unknownPart (family : String) : String :=
  let parts := family.splitOn "."
  let fronts := (List.range parts.length).map fun n => ".".intercalate (parts.take (n + 1))
  (fronts.find? fun f => !families.contains f).getD family

/-- What is added where the unknown part of a name belongs to a family: families have no parts but
kinds. -/
def withinFamily (name : String) : String :=
  match splitName name with
  | some (family, _) =>
    if families.contains family && family != root && family != top then
      "; " ++ Text.quoted family ++ " is not a package"
    else ""
  | none => ""

/-- A fault as a failure. -/
def Fault.failure : Fault → Failure
  | notRecords data =>
    .of (.general .type) ("cannot unpack non-iterable " ++ kindOf data ++ " object")
  | notARecord (.text _) => .of (.general .type) "string indices must be integers, not 'str'"
  | notARecord (.array _) =>
    .of (.general .type) "list indices must be integers or slices, not str"
  | notARecord v => .of (.general .type) ("'" ++ kindOf v ++ "' object is not subscriptable")
  | notSearchable v =>
    .of (.general .type) ("argument of type '" ++ kindOf v ++ "' is not iterable")
  | missing name => .of (.general .key) name
  | notAKindName v =>
    .of (.general .type) ("attribute name must be string, not '" ++ kindOf v ++ "'")
  | unknownKind family name =>
    .of (.general .missingAttribute)
      ("module '" ++ family ++ "' has no attribute '" ++ name ++ "'")
  | unknownFamily name =>
    .of (.general .moduleNotFound) ("No module named " ++ Text.quoted name ++ withinFamily name)
  | emptyFamily => .of (.general .value) "Empty module name"
  | unknownType v =>
    .of (.general .value) ((Value.ofJson v).inspect ++ " is not a valid DType")
  | notANumber v =>
    .of (.general .type) ("list indices must be integers or slices, not " ++ kindOf v)
  | outOfRange => .of (.general .index) "list index out of range"
  | notANode parent listed =>
    .of (.general .missingAttribute)
      ("'" ++ parent ++ "' object has no attribute '" ++ (if listed then "append" else "set")
        ++ "'")
  | notAKey v => .of (.general .type) ("unhashable type: '" ++ kindOf v ++ "'")
  | notAType name =>
    .of (.general .value)
      ("Invalid data type: <class '" ++ name ++ "'>. Expected str or DataType.Type")
  | noExpression name =>
    .of .payload ("payload does not describe a SQL expression (got " ++ name ++ ")")

/-- Whether a family shares a kind of another one: queries are made of the kinds that belong to no
special family. -/
def isShared (family : String) (k : Kind) : Bool :=
  family == root ++ ".query" && k.family == "core"

/-- The kind of a name, which may start with a family. -/
def kindOfName (s : String) : Except Fault Kind :=
  let (family, name) := (splitName s).getD (root, s)
  if family.isEmpty then .error .emptyFamily
  else if !families.contains family then .error (.unknownFamily (unknownPart family))
  else
    match Kind.ofName? name with
    | some k =>
      if family == root || k.path == s || isShared family k then .ok k
      else .error (.unknownKind family name)
    | none => .error (.unknownKind family name)

/-- What records give for comments: a list, a text for its characters, or an object for its
names. -/
def givenComments : Json → Option (List Json)
  | .array vs => some vs
  | .text s => some (s.toList.map fun c => .text c.toString)
  | .object ms => some (ms.map fun m => .text m.1)
  | v => if (Value.ofJson v).isTruthy then none else some []

/-- The comments that a record carries. -/
def commentsOf (record : Json) : List String :=
  ((record.member? "o").bind givenComments).getD [] |>.filterMap fun v =>
    match v with
    | .text s => some s
    | _ => none

/-- What goes wrong where a comment that is no text is written. -/
def commentFault (v : Json) : Option String :=
  match v with
  | .text _ => none
  | .array (.text s :: _) =>
    if s.all Text.isSpace then some "'list' object has no attribute 'replace'"
    else some "can only concatenate str (not \"list\") to str"
  | .array (u :: _) => some ("'" ++ kindOf u ++ "' object has no attribute 'strip'")
  | .object (_ :: _) => some "0"
  | v =>
    if (Value.ofJson v).isTruthy then some ("'" ++ kindOf v ++ "' object is not subscriptable")
    else none

/-- What goes wrong where the comments of a record are written. -/
def badCommentOf (record : Json) : Option String := do
  let v ← record.member? "o"
  match givenComments v with
  | none => some ("'" ++ kindOf v ++ "' object is not iterable")
  | some vs => vs.findSome? commentFault

/-- The place that a record gives for its node. -/
def placeOf (m : Json) : Option Place := do
  let number (name : String) : Option Nat :=
    match m.member? name with
    | some (.int i) => some i.toNat
    | _ => none
  return ⟨← number "line", ← number "col", ← number "start", ← number "end"⟩

/-- How a record says its node came about. -/
def originOf (record : Json) : Option Origin :=
  let bad := badCommentOf record
  match record.member? "m" with
  | none => bad.map fun _ => ⟨none, none, false, bad⟩
  | some m =>
    let spelling :=
      match m.member? "name" with
      | some (.text s) => some s
      | _ => none
    let leading := (m.member? "top").any fun v => (Value.ofJson v).isTruthy
    some ⟨placeOf m, spelling, leading, bad⟩

/-- A member of a record that has to be there. -/
def need (name : String) (record : Json) : Except Fault Json :=
  match record.member? name with
  | some v => .ok v
  | none => .error (.missing name)

/-- What a record with a kind stands for, without any fields; the type that it may have is
checked. -/
def namedPart (checkType : Json → Except Fault Unit) (record kind : Json) : Except Fault Tree :=
  match kind with
  | .text s =>
    if s == typeKind then
      match need "v" record with
      | .error e => .error e
      | .ok (.text t) =>
        if typeNames.contains t then .ok (.typeName t) else .error (.unknownType (.text t))
      | .ok v => .error (.unknownType v)
    else
      match kindOfName s with
      | .error e => .error e
      | .ok k =>
        match checkType ((record.member? "t").getD .null) with
        | .error e => .error e
        | .ok () => .ok (.node k [] (commentsOf record) (originOf record))
  | .array _ | .object _ => .error (.notAKindName kind)
  | v => .error (.notSearchable v)

/-- What the first record stands for. -/
def firstPart (checkType : Json → Except Fault Unit) (record : Json) : Except Fault Tree :=
  match record with
  | .object _ => do namedPart checkType record (← need "c" record)
  | v => .error (.notARecord v)

/-- What a later record stands for. -/
def laterPart (checkType : Json → Except Fault Unit) (record : Json) : Except Fault Tree :=
  match record with
  | .object _ =>
    match record.member? "c" with
    | some kind => namedPart checkType record kind
    | none => do return .scalar (← need "v" record)
  | .text _ | .array _ => .error (.notARecord record)
  | v => .error (.notSearchable v)

/-- A record that has been read. -/
structure Part where
  /-- What it stands for, without any fields. -/
  tree : Tree
  parent : Nat
  /-- The field it belongs to, if there is one of that name. -/
  field : Option String
  listed : Bool

/-- The number of a record among `count` records; negative numbers count from the end. -/
def position (count : Nat) (v : Json) : Except Fault Nat :=
  let at' (i : Int) : Except Fault Nat :=
    let j := if i < 0 then i + count else i
    if 0 ≤ j ∧ j < count then .ok j.toNat else .error .outOfRange
  match v with
  | .int i => at' i
  | .bool b => at' (if b then 1 else 0)
  | v => .error (.notANumber v)

/-- What a part is, if it is no node. -/
def partKind : Tree → Option String
  | .node .. => none
  | .scalar v => some (kindOf v)
  | .typeName _ => some "DType"
  | .many _ => some "list"

/-- Reads a later record, given those before it. -/
def readPart (checkType : Json → Except Fault Unit) (before : Array Part) (record : Json) :
    Except Fault Part := do
  let tree ← laterPart checkType record
  let parent ← position (before.size + 1) (← need "i" record)
  let key ← need "k" record
  let listed := match record.member? "a" with
    | some v => (Value.ofJson v).isTruthy
    | none => false
  let owner := (before[parent]?.map Part.tree).getD tree
  match partKind owner, key with
  | some kind, _ => .error (.notANode kind listed)
  | none, .text s => return ⟨tree, parent, some s, listed⟩
  | none, .array _ | none, .object _ => .error (.notAKey key)
  | none, _ => return ⟨tree, parent, none, listed⟩

/-- Reads later records in order. -/
def readParts (checkType : Json → Except Fault Unit) :
    Array Part → List Json → Except Fault (Array Part)
  | before, [] => .ok before
  | before, r :: rs =>
    match readPart checkType before r with
    | .error e => .error e
    | .ok p => readParts checkType (before.push p) rs

/-- A node with what a record stands for. -/
def attach (p : Part) (value t : Tree) : Tree :=
  match p.field with
  | none => t
  | some name =>
    if p.listed then t.push name value
    else if value.isAbsent then t.drop name
    else t.set name value

/-- The records that belong to a record, with their numbers. -/
def childrenOf (parts : Array Part) (n : Nat) : List (Part × Nat) :=
  parts.toList.zipIdx.filter fun (p, i) => p.parent == n && i != n

/-- The tree that grows from a record. -/
def grow (parts : Array Part) : (fuel n : Nat) → Tree
  | 0, _ => .absent
  | fuel + 1, n =>
    match parts[n]? with
    | none => .absent
    | some p =>
      (childrenOf parts n).foldl (fun t (c, i) => attach c (grow parts fuel i) t) p.tree

/-- The node that records describe. -/
def nodeOf (checkType : Json → Except Fault Unit) (first : Json) (later : List Json) :
    Except Fault Tree := do
  let start ← firstPart checkType first
  let parts ← readParts checkType #[⟨start, 0, none, false⟩] later
  return grow parts parts.size 0

/-- The records in data. -/
def recordsIn : Json → Except Fault (Json × List Json)
  | .array (first :: later) => .ok (first, later)
  | .text s => .error (.notARecord (.text s))
  | .object _ => .error (.notARecord (.text ""))
  | v => .error (.notRecords v)

/-- How deep types may be nested. -/
def typeDepth : Nat :=
  50

/-- Whether data describe a type, or nothing at all. -/
def checkType : (depth : Nat) → Json → Except Fault Unit
  | 0, _ => .ok ()
  | depth + 1, data =>
    if !(Value.ofJson data).isTruthy then .ok ()
    else do
      let (first, later) ← recordsIn data
      match ← nodeOf (checkType depth) first later with
      | .node k _ _ _ => if k == .dataType then .ok () else .error (.notAType k.path)
      | _ => .ok ()

/-- The tree that records describe. -/
def treeOf (first : Json) (later : List Json) : Except Fault (Node Tree) := do
  match ← nodeOf (checkType typeDepth) first later with
  | .typeName _ => .error (.noExpression "DType")
  | .node k fs cs o =>
    if k.isAbstract then .error (.noExpression k.name) else return .tree (.node k fs cs o)
  | t => return .tree t

/-- What data describe. -/
def load (data : Json) : Except Failure (Node Tree) :=
  if !(Value.ofJson data).isTruthy then .ok (.other .null)
  else
    Except.mapError Fault.failure do
      let (first, later) ← recordsIn data
      treeOf first later

end Exchange
end Sql
end SqlDialects
