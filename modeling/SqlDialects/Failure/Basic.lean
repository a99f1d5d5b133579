import SqlDialects.Failure.Class
import SqlDialects.Json.Reader
import SqlDialects.Text.Quoted
import SqlDialects.Value.Encoding

/-!
# Failures

What goes wrong, as callers see it: a class, the text it was made with, and perhaps the failure
that caused it.

**Input.** The code of hosts' classes is not known here: `HostClasses` stands for it.

**Results.**
* `Failure.text` is the text that reports a failure. It is the text the failure was made with,
  except for a missing key, which is quoted, and an unknown dialect, which is named in a sentence;
  a class of a host words it as its code does.
* `Failure.make` makes a failure of a class with a text and nothing else. Some classes need more, and
  the code of a host's class may raise something instead.
-/

namespace SqlDialects

/-- The categories of failures that an engine reports. -/
inductive FaultKind where
  | parse
  | tokenize
  | malformed
  | generate
  | unsupported
  | internal
deriving DecidableEq, Repr, Inhabited

namespace FaultKind

/-- Every category. -/
def all : List FaultKind :=
  [.parse, .tokenize, .malformed, .generate, .unsupported, .internal]

/-- The name of a category. -/
def label : FaultKind → String
  | .parse => "parse"
  | .tokenize => "tokenize"
  | .malformed => "syntax"
  | .generate => "generate"
  | .unsupported => "unsupported"
  | .internal => "internal"

/-- The category of a name. -/
def ofLabel? (s : String) : Option FaultKind :=
  all.find? fun k => k.label == s

end FaultKind

/-- A failure. -/
structure Failure where
  cls : ErrorClass
  /-- The text that the failure was made with. -/
  argument : String
  /-- What the code of a host's class has made of this text. -/
  worded : Option String := none
  /-- The category, if an engine reports the failure. -/
  kind : Option FaultKind
  /-- What a parser of the SQL library noted about each error it met. -/
  records : List Value
  cause : Option Failure
deriving Inhabited

namespace Failure

/-- A failure of a class, with its text. -/
def of (cls : ErrorClass) (argument : String) : Failure :=
  { cls := cls, argument := argument, kind := none, records := [], cause := none }

/-- The failure with a cause. -/
def causedBy (f cause : Failure) : Failure :=
  { f with cause := some cause }

/-- What an engine reports. -/
def ofEngine (kind : FaultKind) (message : String) : Failure :=
  { of .engine message with kind := some kind }

/-- A dialect name, as it was given, that stands for no dialect. -/
def unknownDialect (name : String) : Failure :=
  of .unknownDialect name

/-- The text that reports a failure. -/
def text (f : Failure) : String :=
  match f.cls with
  | .own _ => f.worded.getD f.argument
  | .unknownDialect =>
    "unknown dialect: '" ++ f.argument
      ++ "'. Use polyglot_bridge.dialects() to see supported dialects"
  | .general .key => Text.quoted f.argument
  | _ => f.argument

/-- Whether a failure is of a class or of one below it. -/
def isA (f : Failure) (c : ErrorClass) : Bool :=
  f.cls.isA c

/-- Whether a failure is of one of some classes or of one below. -/
def isAnyOf (f : Failure) (cs : List ErrorClass) : Bool :=
  f.cls.isAnyOf cs

end Failure

/-! ## Making failures -/

/-- What the code of a host's class raises instead of making a failure: anything but a report, which
only engines raise. -/
structure Refusal where
  failure : Failure
  not_report : failure.cls ≠ .engine

/-- The code of hosts' classes: how each words the text that it is called with, or what it raises
instead. -/
abbrev HostClasses :=
  OwnClass → String → Except Refusal String

/-- Code that leaves every text as it is. -/
def HostClasses.plain : HostClasses :=
  fun _ s => .ok s

/-- What is said if a class is called with a text and nothing else, but needs more or cannot be called
at all. -/
def ErrorClass.shortfall? : ErrorClass → Option String
  | .engine => some "EngineError.__init__() missing 1 required positional argument: 'message'"
  | .jsonDecode =>
    some "JSONDecodeError.__init__() missing 2 required positional arguments: 'doc' and 'pos'"
  | .validation => some "No constructor defined for ValidationError"
  | _ => none

/-- Makes a failure of a class with a text and nothing else. -/
def Failure.make (hosts : HostClasses) (cls : ErrorClass) (argument : String) :
    Except Failure Failure :=
  match cls.shortfall?, cls with
  | some reason, _ => .error (.of .type reason)
  | none, .own c =>
    match hosts c argument with
    | .ok worded => .ok { of cls argument with worded := some worded }
    | .error refusal => .error refusal.failure
  | none, _ => .ok (.of cls argument)

/-- The failure to read a text as JSON. -/
def Json.Fault.failure (cs : List Char) (e : Json.Fault) : Failure :=
  match e with
  | .malformed _ _ => .of .jsonDecode (e.message cs)
  | .tooManyDigits _ => .of .value (e.message cs)
  | .tooDeep _ => .of .recursion (e.message cs)

/-- The failure to write a value as JSON. -/
def Value.EncodeFault.failure (e : Value.EncodeFault) : Failure :=
  match e with
  | .unknownObject _ | .unusableKey _ => .of .type e.message
  | .circular | .tooManyDigits => .of .value e.message
  | .tooDeep => .of .recursion e.message

end SqlDialects
