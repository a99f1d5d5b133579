/-!
# Classes of failures

Every failure has a class, and classes form a forest: whoever handles a class handles its
descendants too.

**Groups.**
* The bridge's own classes, under `PolyglotError`.
* `EngineError` and `PayloadError`, which engines report.
* The SQL library's classes, under `SqlglotError`.
* Classes that a host defines, to register them in place of the bridge's own (`OwnClass`). There is
  no end to them: each has a name and a place below other classes. What their code does is no part
  of them.
* The general classes.

**Results.**
* `ErrorClass.ancestors` lists a class and all classes above it, nearest first;
  `ErrorClass.isA_self` says that every class is one of its own.
-/

namespace SqlDialects

/-- The general classes. -/
inductive GeneralClass where
  | baseException
  | systemExit
  | keyboardInterrupt
  | generatorExit
  | exception
  | arithmetic
  | floatingPoint
  | overflow
  | zeroDivision
  | assertion
  | missingAttribute
  | buffer
  | endOfFile
  | importing
  | moduleNotFound
  | lookup
  | index
  | key
  | memory
  | name
  | unboundLocal
  | os
  | wouldBlock
  | childProcess
  | connection
  | brokenPipe
  | connectionAborted
  | connectionRefused
  | connectionReset
  | fileExists
  | fileNotFound
  | interrupted
  | isADirectory
  | notADirectory
  | permission
  | processLookup
  | timeout
  | reference
  | runtime
  | notImplemented
  | recursion
  | stopAsyncIteration
  | stopIteration
  | malformedSource
  | indentation
  | tab
  | system
  | type
  | value
  | unicode
  | warning
  | userWarning
  | deprecationWarning
  | runtimeWarning
deriving DecidableEq, Repr, Inhabited

namespace GeneralClass

/-- Every general class. -/
def all : List GeneralClass :=
  [.baseException, .systemExit, .keyboardInterrupt, .generatorExit, .exception, .arithmetic,
    .floatingPoint, .overflow, .zeroDivision, .assertion, .missingAttribute, .buffer, .endOfFile,
    .importing, .moduleNotFound, .lookup, .index, .key, .memory, .name, .unboundLocal, .os,
    .wouldBlock, .childProcess, .connection, .brokenPipe, .connectionAborted, .connectionRefused,
    .connectionReset, .fileExists, .fileNotFound, .interrupted, .isADirectory, .notADirectory,
    .permission, .processLookup, .timeout, .reference, .runtime, .notImplemented, .recursion,
    .stopAsyncIteration, .stopIteration, .malformedSource, .indentation, .tab, .system, .type,
    .value, .unicode, .warning, .userWarning, .deprecationWarning, .runtimeWarning]

/-- The name of a class. -/
def label : GeneralClass → String
  | .baseException => "BaseException"
  | .systemExit => "SystemExit"
  | .keyboardInterrupt => "KeyboardInterrupt"
  | .generatorExit => "GeneratorExit"
  | .exception => "Exception"
  | .arithmetic => "ArithmeticError"
  | .floatingPoint => "FloatingPointError"
  | .overflow => "OverflowError"
  | .zeroDivision => "ZeroDivisionError"
  | .assertion => "AssertionError"
  | .missingAttribute => "AttributeError"
  | .buffer => "BufferError"
  | .endOfFile => "EOFError"
  | .importing => "ImportError"
  | .moduleNotFound => "ModuleNotFoundError"
  | .lookup => "LookupError"
  | .index => "IndexError"
  | .key => "KeyError"
  | .memory => "MemoryError"
  | .name => "NameError"
  | .unboundLocal => "UnboundLocalError"
  | .os => "OSError"
  | .wouldBlock => "BlockingIOError"
  | .childProcess => "ChildProcessError"
  | .connection => "ConnectionError"
  | .brokenPipe => "BrokenPipeError"
  | .connectionAborted => "ConnectionAbortedError"
  | .connectionRefused => "ConnectionRefusedError"
  | .connectionReset => "ConnectionResetError"
  | .fileExists => "FileExistsError"
  | .fileNotFound => "FileNotFoundError"
  | .interrupted => "InterruptedError"
  | .isADirectory => "IsADirectoryError"
  | .notADirectory => "NotADirectoryError"
  | .permission => "PermissionError"
  | .processLookup => "ProcessLookupError"
  | .timeout => "TimeoutError"
  | .reference => "ReferenceError"
  | .runtime => "RuntimeError"
  | .notImplemented => "NotImplementedError"
  | .recursion => "RecursionError"
  | .stopAsyncIteration => "StopAsyncIteration"
  | .stopIteration => "StopIteration"
  | .malformedSource => "SyntaxError"
  | .indentation => "IndentationError"
  | .tab => "TabError"
  | .system => "SystemError"
  | .type => "TypeError"
  | .value => "ValueError"
  | .unicode => "UnicodeError"
  | .warning => "Warning"
  | .userWarning => "UserWarning"
  | .deprecationWarning => "DeprecationWarning"
  | .runtimeWarning => "RuntimeWarning"

/-- The classes above a class and below `exception`, nearest first. -/
def lineage : GeneralClass → List GeneralClass
  | .floatingPoint | .overflow | .zeroDivision => [.arithmetic]
  | .moduleNotFound => [.importing]
  | .index | .key => [.lookup]
  | .unboundLocal => [.name]
  | .wouldBlock | .childProcess | .connection | .fileExists | .fileNotFound | .interrupted
  | .isADirectory | .notADirectory | .permission | .processLookup | .timeout => [.os]
  | .brokenPipe | .connectionAborted | .connectionRefused | .connectionReset =>
    [.connection, .os]
  | .notImplemented | .recursion => [.runtime]
  | .indentation => [.malformedSource]
  | .tab => [.indentation, .malformedSource]
  | .unicode => [.value]
  | .userWarning | .deprecationWarning | .runtimeWarning => [.warning]
  | _ => []

/-- A class and all classes above it, nearest first. -/
def ancestors : GeneralClass → List GeneralClass
  | .baseException => [.baseException]
  | .exception => [.exception, .baseException]
  | .systemExit => [.systemExit, .baseException]
  | .keyboardInterrupt => [.keyboardInterrupt, .baseException]
  | .generatorExit => [.generatorExit, .baseException]
  | c => c :: lineage c ++ [.exception, .baseException]

/-- The general class of a name. -/
def ofLabel? (s : String) : Option GeneralClass :=
  all.find? fun c => c.label == s

end GeneralClass

/-- The classes of the SQL library, all directly under the first. -/
inductive LibraryClass where
  | root
  | parse
  | token
  | unsupported
  | optimize
  | schema
  | execute
deriving DecidableEq, Repr, Inhabited

namespace LibraryClass

/-- Every class of the SQL library. -/
def all : List LibraryClass :=
  [.root, .parse, .token, .unsupported, .optimize, .schema, .execute]

/-- The name of a class. -/
def label : LibraryClass → String
  | .root => "SqlglotError"
  | .parse => "ParseError"
  | .token => "TokenError"
  | .unsupported => "UnsupportedError"
  | .optimize => "OptimizeError"
  | .schema => "SchemaError"
  | .execute => "ExecuteError"

/-- The library class of a name. -/
def ofLabel? (s : String) : Option LibraryClass :=
  all.find? fun c => c.label == s

end LibraryClass

/-! ## Classes of hosts -/

/-- Whether a character can stand in the name of a class. -/
def isNameChar (c : Char) : Bool :=
  c.isAlphanum || c == '_' || 127 < c.toNat

/-- The name that a host gives to a class. -/
structure ClassName where
  text : String
  isName : text.toList.all isNameChar = true
deriving DecidableEq, Repr

/-- The classes from which hosts derive theirs. Nesting that is too deep is not among them: only the
interpreter fails in this class. -/
inductive BaseClass where
  | bridge
  | parse
  | generate
  | unsupported
  | unknownDialect
  | boundary
  | configuration
  | general (c : GeneralClass) (shallow : c ≠ .recursion)
deriving DecidableEq, Repr

mutual

/-- A class that a host defines. Classes that agree in all else are told apart by their numbers. -/
inductive OwnClass where
  | mk (name : ClassName) (number : Nat) (above : Lineage)

/-- The classes above a class of a host, nearest first. -/
inductive Lineage where
  | nil
  | own (c : OwnClass) (rest : Lineage)
  | base (c : BaseClass) (rest : Lineage)

end

deriving instance DecidableEq, Repr for OwnClass, Lineage

namespace OwnClass

def name : OwnClass → ClassName
  | mk name _ _ => name

def above : OwnClass → Lineage
  | mk _ _ above => above

/-- A class directly below another one. -/
def derived (parent : OwnClass) (name : ClassName) : OwnClass :=
  .mk name 0 (.own parent parent.above)

/-- The root of a host's classes. -/
def host : OwnClass :=
  .mk ⟨"HostError", by decide +kernel⟩ 0
    (.base (.general .exception (by decide)) (.base (.general .baseException (by decide)) .nil))

def hostParse : OwnClass :=
  host.derived ⟨"HostParseError", by decide +kernel⟩

def hostGenerate : OwnClass :=
  host.derived ⟨"HostGenerateError", by decide +kernel⟩

def hostUnsupported : OwnClass :=
  hostParse.derived ⟨"HostUnsupportedError", by decide +kernel⟩

end OwnClass

/-- The classes of failures. -/
inductive ErrorClass where
  /-- The root of the bridge's own classes. -/
  | bridge
  | parse
  | generate
  | unsupported
  /-- A dialect name that stands for no dialect. -/
  | unknownDialect
  /-- Malformed interchange text. -/
  | boundary
  /-- Settings that do not validate. -/
  | configuration
  /-- A failure inside an engine. -/
  | engine
  /-- Interchange data that describe no syntax tree. -/
  | payload
  | library (c : LibraryClass)
  /-- A class that a host defines. -/
  | own (c : OwnClass)
  /-- Text that is not JSON. -/
  | jsonDecode
  /-- Data that do not fit a model. -/
  | validation
  /-- Console markup whose tags do not match. -/
  | markup
  | general (c : GeneralClass)
deriving DecidableEq, Repr, Inhabited

namespace ErrorClass

/-- The name of a class. -/
def label : ErrorClass → String
  | .bridge => "PolyglotError"
  | .parse => "ParseError"
  | .generate => "GenerateError"
  | .unsupported => "UnsupportedError"
  | .unknownDialect => "UnknownDialectError"
  | .boundary => "BoundaryError"
  | .configuration => "ConfigurationError"
  | .engine => "EngineError"
  | .payload => "PayloadError"
  | .library c => c.label
  | .own c => c.name.text
  | .jsonDecode => "JSONDecodeError"
  | .validation => "ValidationError"
  | .markup => "MarkupError"
  | .general c => c.label

/-- The name of a class with the place where it is defined; those of a host and the general ones
stand alone. -/
def qualifiedLabel (c : ErrorClass) : String :=
  match c with
  | .engine => "polyglot_bridge._types.EngineError"
  | .payload => "polyglot_bridge._types.PayloadError"
  | .library c => "sqlglot.errors." ++ c.label
  | .jsonDecode => "json.decoder.JSONDecodeError"
  | .validation => "pydantic_core._pydantic_core.ValidationError"
  | .markup => "rich.errors.MarkupError"
  | .own _ | .general _ => c.label
  | _ => "polyglot_bridge.errors." ++ c.label

/-- The general class of all failures that programs handle. -/
abbrev exception : ErrorClass := .general .exception

/-- The general class of unsuitable values. -/
abbrev value : ErrorClass := .general .value

/-- The general class of values of the wrong kind. -/
abbrev type : ErrorClass := .general .type

/-- The general class of missing keys. -/
abbrev key : ErrorClass := .general .key

/-- The general class of failures of no other class. -/
abbrev runtime : ErrorClass := .general .runtime

/-- The general class of nesting that is too deep. -/
abbrev recursion : ErrorClass := .general .recursion

/-- The general class of missing attributes. -/
abbrev missingAttribute : ErrorClass := .general .missingAttribute

/-- The general class of positions outside a list. -/
abbrev index : ErrorClass := .general .index

/-- A general class and all classes above it. -/
def generalAncestors (c : GeneralClass) : List ErrorClass :=
  c.ancestors.map .general

/-- A class from which hosts derive theirs. -/
def ofBase : BaseClass → ErrorClass
  | .bridge => .bridge
  | .parse => .parse
  | .generate => .generate
  | .unsupported => .unsupported
  | .unknownDialect => .unknownDialect
  | .boundary => .boundary
  | .configuration => .configuration
  | .general c _ => .general c

/-- The classes above a class of a host. -/
def ofLineage : Lineage → List ErrorClass
  | .nil => []
  | .own c rest => .own c :: ofLineage rest
  | .base c rest => ofBase c :: ofLineage rest

/-- A class and all classes above it, nearest first. -/
def ancestors : ErrorClass → List ErrorClass
  | .bridge => .bridge :: generalAncestors .exception
  | .parse => .parse :: .bridge :: generalAncestors .exception
  | .generate => .generate :: .bridge :: generalAncestors .exception
  | .unsupported => .unsupported :: .bridge :: generalAncestors .exception
  | .unknownDialect => .unknownDialect :: .bridge :: generalAncestors .value
  | .boundary => .boundary :: .bridge :: generalAncestors .exception
  | .configuration => .configuration :: .bridge :: generalAncestors .exception
  | .engine => .engine :: generalAncestors .exception
  | .payload => .payload :: generalAncestors .exception
  | .library .root => .library .root :: generalAncestors .exception
  | .library c => .library c :: .library .root :: generalAncestors .exception
  | .own c => .own c :: ofLineage c.above
  | .jsonDecode => .jsonDecode :: generalAncestors .value
  | .validation => .validation :: generalAncestors .value
  | .markup => .markup :: generalAncestors .exception
  | .general c => generalAncestors c

/-- Whether a class is another one or lies below it. -/
def isA (c base : ErrorClass) : Bool :=
  c.ancestors.contains base

/-- Every class is one of its own. -/
theorem isA_self (c : ErrorClass) : c.isA c = true := by
  cases c with
  | library c => cases c <;> simp [isA, ancestors]
  | general c => cases c <;> simp [isA, ancestors, generalAncestors, GeneralClass.ancestors]
  | _ => simp [isA, ancestors]

/-- What classes of hosts lie below. -/
theorem mem_ofLineage
    {l : Lineage} {c : ErrorClass}
    (h : c ∈ ofLineage l) :
    (∃ o, c = .own o) ∨ ∃ b, c = ofBase b := by
  match l with
  | .nil => simp [ofLineage] at h
  | .own o rest =>
      rcases List.mem_cons.mp h with rfl | hrest
      · exact .inl ⟨o, rfl⟩
      · exact mem_ofLineage hrest
  | .base b rest =>
      rcases List.mem_cons.mp h with rfl | hrest
      · exact .inr ⟨b, rfl⟩
      · exact mem_ofLineage hrest

/-- What a class of a host lies below is such a class or one from which hosts derive theirs. -/
theorem of_isA_own
    {o : OwnClass} {c : ErrorClass}
    (h : (own o).isA c = true) :
    (∃ o', c = .own o') ∨ ∃ b, c = ofBase b := by
  rw [isA, List.contains_iff_mem, ancestors, List.mem_cons] at h
  rcases h with rfl | habove
  · exact .inl ⟨o, rfl⟩
  · exact mem_ofLineage habove

/-- Classes of hosts are none of the SQL library's. -/
theorem isA_library_of_own (o : OwnClass) (c : LibraryClass) :
    (own o).isA (.library c) = false := by
  refine Bool.eq_false_iff.mpr fun h => ?_
  rcases of_isA_own h with ⟨o', hown⟩ | ⟨b, hbase⟩
  · cases hown
  · cases b <;> cases hbase

theorem isA_recursion_of_own (o : OwnClass) :
    (own o).isA .recursion = false := by
  refine Bool.eq_false_iff.mpr fun h => ?_
  rcases of_isA_own h with ⟨o', hown⟩ | ⟨b, hbase⟩
  · cases hown
  · cases b with
    | general c shallow =>
        cases hbase
        exact shallow rfl
    | _ => cases hbase

/-- Whether a class is one of some classes or lies below one. -/
def isAnyOf (c : ErrorClass) (bases : List ErrorClass) : Bool :=
  bases.any c.isA

/-- The names of a class and all classes above it, up to the class of all objects. -/
def resolutionOrder (c : ErrorClass) : List String :=
  c.ancestors.map label ++ ["object"]

/-- Classes that can be asked for by their names, the general ones aside. -/
def registrable : List ErrorClass :=
  [.bridge, .parse, .generate, .unsupported, .unknownDialect, .boundary, .configuration, .own .host,
    .own .hostParse, .own .hostGenerate, .own .hostUnsupported]

/-- The class of a name, among these and the general ones. -/
def ofLabel? (s : String) : Option ErrorClass :=
  match registrable.find? fun c => c.label == s with
  | some c => some c
  | none => (GeneralClass.ofLabel? s).map .general

end ErrorClass
end SqlDialects
