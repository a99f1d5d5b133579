import SqlDialects.Failure.Basic

/-!
# The registry of error classes

Which classes callers get for the failures of an engine. A registry is installed once; after that
only the same registry is accepted again, without effect.

**Results.**
* `ErrorRegistry.install` accepts a registry exactly when none or the same one is installed and,
  if none is, all its classes lie below its base.
* `translate` gives the failure that callers see. It is made with the engine's text; without a
  registry its class is the general one of failures of no other class. It fails if the registered
  class cannot be made with a text alone: registries are not asked for that when they are installed.
-/

namespace SqlDialects

/-- The classes that failures of an engine are translated to. -/
structure ErrorRegistry where
  base : ErrorClass
  parse : ErrorClass
  generate : ErrorClass
  unsupported : ErrorClass
deriving DecidableEq, Repr

namespace ErrorRegistry

/-- The bridge's own classes. -/
def standard : ErrorRegistry :=
  ⟨.bridge, .parse, .generate, .unsupported⟩

/-- The first class that does not lie below the base. -/
def offender? (r : ErrorRegistry) : Option ErrorClass :=
  [r.parse, r.generate, r.unsupported].find? fun c => !c.isA r.base

/-- The registry after an attempt to install one. -/
def install (installed : Option ErrorRegistry) (r : ErrorRegistry) :
    Except Failure ErrorRegistry :=
  match installed with
  | some old =>
    if old = r then .ok old
    else .error (.of .runtime "error classes are already registered")
  | none =>
    match r.offender? with
    | some c => .error (.of .type (c.label ++ " must subclass " ++ r.base.label))
    | none => .ok r

/-- The class for a category of failures. -/
def classFor (r : ErrorRegistry) : FaultKind → ErrorClass
  | .parse | .tokenize | .malformed => r.parse
  | .generate => r.generate
  | .unsupported => r.unsupported
  | .internal => r.base

end ErrorRegistry

/-- What callers see of a failure that an engine reports. -/
def translate (hosts : HostClasses) (installed : Option ErrorRegistry) (kind : FaultKind)
    (message : String) : Except Failure Failure :=
  match installed with
  | none => .ok (.of .runtime message)
  | some r => Failure.make hosts (r.classFor kind) message

/-- What callers see of malformed interchange text. -/
def boundaryFailure (installed : Option ErrorRegistry) (message : String) : Failure :=
  match installed with
  | none => .of .runtime message
  | some _ => .of .boundary message

end SqlDialects
