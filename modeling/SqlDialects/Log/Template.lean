import SqlDialects.Failure.Basic
import SqlDialects.Value.Display

/-!
# Message templates

**Input.** A template with conversions such as `%s`, and the values that take their places.

**Rules.**
* A conversion is `%`, an optional name in parentheses, flags, a width, a precision and a letter.
  Two per cent signs next to each other stand for one; a per cent sign is no letter.
* Unnamed conversions use up the values in order; named ones look into the values when these are
  one dictionary.
* Every value has to be used, unless the values are a dictionary.

**Results.**
* `Template.fill` gives the message or the failure of the first conversion that cannot be made.
-/

namespace SqlDialects
namespace Log
namespace Template

/-- The values that a template is filled with. -/
inductive Arguments where
  /-- One value for each conversion. -/
  | positional (values : List Value)
  /-- A dictionary that conversions may name the keys of. -/
  | mapping (dict : Value)

/-- What the values in a call amount to: a dictionary that stands alone and is not empty is a
mapping. -/
def Arguments.ofValues : List Value → Arguments
  | [.dict (e :: es)] => .mapping (.dict (e :: es))
  | [.endless .dict] => .mapping (.endless .dict)
  | values => .positional values

/-- The flags of a conversion. -/
structure Flags where
  left : Bool
  plus : Bool
  blank : Bool
  alternate : Bool
  zero : Bool

/-- A conversion, its letter aside. -/
structure Conversion where
  flags : Flags
  width : Nat
  precision : Option Nat

/-- The least width or precision at which the text of a conversion is too large to be held. -/
def memoryLimit : Nat :=
  Nat.pow 2 28

/-- What is still to be used of the values. -/
structure Supply where
  /-- Values for unnamed conversions. -/
  next : List Value
  /-- The dictionary for named conversions. -/
  mapping : Option Value

/-- The supply at the start. -/
def Supply.ofArguments : Arguments → Supply
  | .positional values => ⟨values, none⟩
  | .mapping d => ⟨[d], some d⟩

/-- The failure of a conversion that finds no value. -/
def notEnough : Failure :=
  .of .type "not enough arguments for format string"

/-- The failure of a template that ends inside a conversion. -/
def incomplete : Failure :=
  .of .value "incomplete format"

/-- The next value. -/
def Supply.take (s : Supply) : Except Failure (Value × Supply) :=
  match s.next with
  | [] => .error notEnough
  | v :: vs => .ok (v, { s with next := vs })

/-- Text filled up with spaces to a width. -/
def pad (left : Bool) (width : Nat) (cs : List Char) : List Char :=
  let fill := List.replicate (width - cs.length) ' '
  if left then cs ++ fill else fill ++ cs

/-- A number filled up to the width of a conversion: sign, mark of the base and digits. -/
def padNumber (c : Conversion) (negative : Bool) (mark digits : List Char) : List Char :=
  let sign := if negative then ['-'] else if c.flags.plus then ['+']
    else if c.flags.blank then [' '] else []
  let size := sign.length + mark.length + digits.length
  if c.flags.zero && !c.flags.left then
    sign ++ mark ++ List.replicate (c.width - size) '0' ++ digits
  else pad c.flags.left c.width (sign ++ mark ++ digits)

/-- Digits filled up with zeros to the precision of a conversion. -/
def fillDigits (c : Conversion) (ds : List Char) : List Char :=
  List.replicate (c.precision.getD 1 - ds.length) '0' ++ ds

/-- The integer that a value is, exactly. -/
def wholeNumber? : Value → Option Int
  | .int i => some i
  | .bool b => some (if b then 1 else 0)
  | _ => none

/-- The number that a value is, cut to an integer, or nothing if the value is no number. -/
def decimalOf : Value → Except Failure (Option Int)
  | .float x =>
    match Decimal.Binary.parts x with
    | some b =>
      let (n, d) := b.ratio
      let i : Int := ↑(n / d)
      .ok (some (if b.negative then -i else i))
    | none =>
      if Decimal.isNaN x then .error (.of .value "cannot convert float NaN to integer")
      else .error (.of (.general .overflow) "cannot convert float infinity to integer")
  | .foreign .decimal => .ok (some 1)
  | v => .ok (wholeNumber? v)

/-- The base of a letter, for letters that write integers in another base than ten. -/
def base? : Char → Option Nat
  | 'x' => some 16
  | 'X' => some 16
  | 'o' => some 8
  | _ => none

/-- Digits after the point: the point is left out if there are none, unless it is `kept`. -/
def afterPoint (kept : Bool) (ds : List Char) : List Char :=
  if ds.isEmpty && !kept then [] else '.' :: ds

/-- A double with `places` digits after the point, rounded to nearest. -/
def fixedChars (alternate : Bool) (b : Decimal.Binary) (places : Nat) : List Char :=
  let (n, d) := b.ratio
  let m := Decimal.roundDiv (n * Nat.pow 10 places) d
  let ds := Decimal.padded (places + 1) m
  ds.take (ds.length - places) ++ afterPoint alternate (ds.drop (ds.length - places))

/-- The first `size` digits of a double, rounded to nearest, and the power of ten of the first. -/
def leadingDigits (b : Decimal.Binary) (size : Nat) : List Char × Int :=
  let (n, d) := b.ratio
  if n = 0 then (List.replicate size '0', 0)
  else
    let estimate : Int := ((Nat.toDigits 10 n).length : Int) - (Nat.toDigits 10 d).length
    let scaled (e : Int) : Nat :=
      let (p, q) := Decimal.powerOfTen ((size : Int) - 1 - e)
      Decimal.roundDiv (n * p) (d * q)
    -- the power is the estimate or one less, before rounding
    let exact := let (p, q) := Decimal.powerOfTen estimate; decide (d * p ≤ n * q)
    let e := if exact then estimate else estimate - 1
    let m := scaled e
    if m < Nat.pow 10 size then (Decimal.padded size m, e) else (Decimal.padded size (m / 10), e + 1)

/-- The mark and the digits of a power of ten. -/
def exponentChars (e : Int) : List Char :=
  'e' :: (if e < 0 then '-' else '+') :: Decimal.padded 2 e.natAbs

/-- A double in scientific form with `places` digits after the point. -/
def scientificChars (alternate : Bool) (b : Decimal.Binary) (places : Nat) : List Char :=
  let (ds, e) := leadingDigits b (places + 1)
  ds.take 1 ++ afterPoint alternate (ds.drop 1) ++ exponentChars e

/-- Digits without the zeros at their end. -/
def dropZeros (ds : List Char) : List Char :=
  (ds.reverse.dropWhile (· = '0')).reverse

/-- A double with `size` significant digits, positional or scientific. The alternate form keeps
the zeros at the end and the point; else both are left out. -/
def generalChars (alternate : Bool) (b : Decimal.Binary) (size : Nat) : List Char :=
  let size := max size 1
  let (ds, e) := leadingDigits b size
  let tail (ds : List Char) : List Char :=
    afterPoint alternate (if alternate then ds else dropZeros ds)
  if e < -4 ∨ (size : Int) ≤ e then ds.take 1 ++ tail (ds.drop 1) ++ exponentChars e
  else if e < 0 then '0' :: tail (List.replicate (e.natAbs - 1) '0' ++ ds)
  else ds.take (e.toNat + 1) ++ tail (ds.drop (e.toNat + 1))

/-- A value as a double. -/
def realOf : Value → Except Failure Float
  | .float x => .ok x
  | .foreign .decimal => .ok 1.5
  | v =>
    match wholeNumber? v with
    | some i =>
      let x := Decimal.floatOf (i < 0) i.natAbs 0
      if (Decimal.Binary.parts x).isSome then .ok x
      else .error (.of (.general .overflow) "int too large to convert to float")
    | none => .error (.of .type ("must be real number, not " ++ v.qualifiedKind))

/-- A double under a conversion of the letters `e`, `f` and `g`. -/
def realChars (c : Conversion) (letter : Char) (x : Float) : List Char :=
  let negative := Decimal.isNegative x && !Decimal.isNaN x
  let digits :=
    match Decimal.Binary.parts x with
    | none => if Decimal.isNaN x then ['n', 'a', 'n'] else ['i', 'n', 'f']
    | some b =>
      let p := c.precision.getD 6
      let alternate := c.flags.alternate
      if letter = 'f' ∨ letter = 'F' then fixedChars alternate b p
      else if letter = 'e' ∨ letter = 'E' then scientificChars alternate b p
      else generalChars alternate b p
  padNumber c negative [] (if letter.isUpper then digits.map Char.toUpper else digits)

/-- Text with every character beyond ASCII written by its code point. -/
def asciiOnly (cs : List Char) : List Char :=
  cs.flatMap fun c =>
    if c.toNat < 128 then [c]
    else if c.toNat < 256 then '\\' :: 'x' :: Text.hexDigits 2 c.toNat
    else if c.toNat < 65536 then '\\' :: 'u' :: Text.hexDigits 4 c.toNat
    else '\\' :: 'U' :: Text.hexDigits 8 c.toNat

/-- The failure to convert a value that is not of the wanted kind. -/
def wrongKind (letter : Char) (wanted : String) (v : Value) : Failure :=
  .of .type ("%" ++ letter.toString ++ " format: " ++ wanted ++ " is required, not "
    ++ v.qualifiedKind)

/-- The character of a conversion with the letter `c`. -/
def characterOf : Value → Except Failure Char
  | .text s =>
    match s.toList with
    | [c] => .ok c
    | _ => .error (.of .type "%c requires int or char")
  | v =>
    match wholeNumber? v with
    | some i =>
      if 0 ≤ i ∧ i < 1114112 then .ok (Char.ofNat i.toNat)
      else .error (.of (.general .overflow) "%c arg not in range(0x110000)")
    | none => .error (.of .type "%c requires int or char")

/-- The failure of a conversion with a letter that stands for none, at a place. -/
def unsupported (letter : Char) (place : Nat) : Failure :=
  let shown := if 31 ≤ letter.toNat ∧ letter.toNat ≤ 126 then letter else '?'
  .of .value ("unsupported format character '" ++ shown.toString ++ "' (0x"
    ++ String.ofList (Nat.toDigits 16 letter.toNat) ++ ") at index " ++ toString place)

/-- The text of a value under a conversion; `place` is where the letter stands. -/
def convert (c : Conversion) (letter : Char) (place : Nat) (v : Value) :
    Except Failure (List Char) :=
  let shown (v : Value) (s : String) : Except Failure (List Char) :=
    if v.isTooDeep then
      .error (.of .recursion
        "maximum recursion depth exceeded while getting the repr of an object")
    else
      let cs := s.toList
      .ok (pad c.flags.left c.width ((c.precision.map cs.take).getD cs))
  if letter = 's' then shown v v.display
  else if letter = 'r' then shown v v.inspect
  else if letter = 'a' then shown v (String.ofList (asciiOnly v.inspect.toList))
  else if letter = 'd' ∨ letter = 'i' ∨ letter = 'u' then
    match decimalOf v with
    | .error e => .error e
    | .ok (some i) => .ok (padNumber c (i < 0) [] (fillDigits c (Decimal.natChars i.natAbs)))
    | .ok none => .error (wrongKind letter "a real number" v)
  else if letter = 'c' then
    (characterOf v).map fun ch => pad c.flags.left c.width [ch]
  else if letter ∈ ['e', 'E', 'f', 'F', 'g', 'G'] then
    (realOf v).map (realChars c letter)
  else
    match base? letter with
    | some b =>
      match wholeNumber? v with
      | some i =>
        let ds := fillDigits c (Nat.toDigits b i.natAbs)
        let ds := if letter = 'X' then ds.map Char.toUpper else ds
        .ok (padNumber c (i < 0) (if c.flags.alternate then ['0', letter] else []) ds)
      | none => .error (wrongKind letter "an integer" v)
    | none => .error (unsupported letter place)

/-- The name in parentheses: its characters and what follows; `depth` counts open ones. -/
def takeName : Nat → List Char → Option (List Char × List Char)
  | _, [] => none
  | depth, ')' :: cs =>
    match depth with
    | 0 => some ([], cs)
    | d + 1 => (takeName d cs).map fun (n, r) => (')' :: n, r)
  | depth, '(' :: cs => (takeName (depth + 1) cs).map fun (n, r) => ('(' :: n, r)
  | depth, c :: cs => (takeName depth cs).map fun (n, r) => (c :: n, r)

/-- The flags at the front. -/
def takeFlags (f : Flags) : List Char → Flags × List Char
  | '-' :: cs => takeFlags { f with left := true } cs
  | '+' :: cs => takeFlags { f with plus := true } cs
  | ' ' :: cs => takeFlags { f with blank := true } cs
  | '#' :: cs => takeFlags { f with alternate := true } cs
  | '0' :: cs => takeFlags { f with zero := true } cs
  | cs => (f, cs)

/-- What bounds a width or a precision, and what is said of a number beyond. -/
structure Bound where
  /-- The greatest number. -/
  most : Nat
  /-- The report of a written number beyond. -/
  written : String
  /-- The report of a value beyond. -/
  given : String

/-- The bound of widths. -/
def widthBound : Bound :=
  ⟨Nat.pow 2 63 - 1, "width too big", "Python int too large to convert to C ssize_t"⟩

/-- The bound of precisions. -/
def precisionBound : Bound :=
  ⟨Nat.pow 2 31 - 1, "precision too big", "Python int too large to convert to C int"⟩

/-- The number at the front, zero if there is none. -/
def takeNumber (bound : Bound) (n : Nat) : List Char → Except Failure (Nat × List Char)
  | [] => .ok (n, [])
  | c :: cs =>
    if '0' ≤ c ∧ c ≤ '9' then
      let d := c.toNat - 48
      if (bound.most - d) / 10 < n then .error (.of .value bound.written)
      else takeNumber bound (10 * n + d) cs
    else .ok (n, c :: cs)

/-- A width or precision: a number, or a star that takes the next value. -/
def takeSize (bound : Bound) (s : Supply) :
    List Char → Except Failure (Int × Supply × List Char)
  | '*' :: cs =>
    match s.take with
    | .error e => .error e
    | .ok (v, s) =>
      match wholeNumber? v with
      | some i =>
        if -(bound.most : Int) - 1 ≤ i ∧ i ≤ bound.most then .ok (i, s, cs)
        else .error (.of (.general .overflow) bound.given)
      | none => .error (.of .type "* wants int")
  | cs => (takeNumber bound 0 cs).map fun (n, r) => (n, s, r)

/-- The values for a conversion that may begin with a name. -/
def selectNamed (s : Supply) : List Char → Except Failure (Supply × List Char)
  | '(' :: cs =>
    match s.mapping with
    | none => .error (.of .type "format requires a mapping")
    | some d =>
      match takeName 0 cs with
      | none => .error (.of .value "incomplete format key")
      | some (name, rest) =>
        let found :=
          match d with
          | .endless .dict =>
            if name = ['a'] then some (.int 1) else if name = ['s', 'e', 'l', 'f'] then some d
            else none
          | d => d.entry? (String.ofList name)
        match found with
        | some v => .ok ({ s with next := [v] }, rest)
        | none => .error (.of .key (String.ofList name))
  | cs => .ok (s, cs)

/-- Reads the rest of a conversion and makes it. `size` is the length of the template. -/
def conversion (size : Nat) (s : Supply) (cs : List Char) :
    Except Failure (List Char × Supply × List Char) := do
  let (s, cs) ← selectNamed s cs
  let (flags, cs) := takeFlags ⟨false, false, false, false, false⟩ cs
  let (width, s, cs) ← takeSize widthBound s cs
  let flags := if width < 0 then { flags with left := true } else flags
  let (precision, s, cs) ←
    match cs with
    | '.' :: r => (takeSize precisionBound s r).map fun (p, s, r) => (some p.toNat, s, r)
    | r => .ok (none, s, r)
  let cs :=
    match cs with
    | c :: r => if c = 'h' ∨ c = 'l' ∨ c = 'L' then r else c :: r
    | [] => []
  match cs with
  | [] => .error incomplete
  | letter :: r =>
    let (v, s) ← s.take
    let place := size - r.length - 1
    if memoryLimit ≤ max width.natAbs (precision.getD 0) then
      -- a value that cannot be converted at all is reported first
      let _ ← convert ⟨flags, 0, none⟩ letter place v
      .error (.of (.general .memory) "")
    else
      let out ← convert ⟨flags, width.natAbs, precision⟩ letter place v
      .ok (out, s, r)

/-- Fills the rest of a template; every step uses up at least one character. -/
def fillFrom (size : Nat) : (fuel : Nat) → Supply → List Char → Except Failure (List Char)
  | 0, _, _ => .error incomplete
  | _ + 1, s, [] =>
    if s.mapping.isNone && !s.next.isEmpty then
      .error (.of .type "not all arguments converted during string formatting")
    else .ok []
  | fuel + 1, s, '%' :: '%' :: cs => (fillFrom size fuel s cs).map ('%' :: ·)
  | fuel + 1, s, '%' :: cs =>
    match conversion size s cs with
    | .error e => .error e
    | .ok (out, s, rest) => (fillFrom size fuel s rest).map (out ++ ·)
  | fuel + 1, s, c :: cs => (fillFrom size fuel s cs).map (c :: ·)

/-- A template with values in the places of its conversions; without values it is left as it
is. -/
def fill (template : String) (values : List Value) : Except Failure String :=
  match values with
  | [] => .ok template
  | _ =>
    let cs := template.toList
    (fillFrom cs.length (cs.length + 1) (.ofArguments (.ofValues values)) cs).map String.ofList

end Template
end Log
end SqlDialects
