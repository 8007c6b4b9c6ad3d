/-!
# Kinds of faults

Faults are known by their kind, and the kinds form a hierarchy in which a handler for a kind also
takes the faults of the kinds below it.
-/

namespace ObjectModel

inductive ErrorKind where
  | exception
  /-- Any fault of the object model. -/
  | modelError
  | definitionError | accessError | undefinedMemberError | undefinedClassError
  | typeError | attributeError | lookupError | keyError | indexError | valueError | nameError
  | unboundLocalError | stopIteration | arithmeticError | zeroDivisionError | overflowError
  | floatingPointError | runtimeError | recursionError | notImplementedError | assertionError
  | memoryError | unicodeError | bufferError | osError | eofError | importError | systemError
  | referenceError
  /-- An attempt to change a declaration. -/
  | frozenInstanceError
  deriving DecidableEq, Inhabited

namespace ErrorKind

def name : ErrorKind → String
  | .exception => "Exception"
  | .modelError => "PieError"
  | .definitionError => "DefinitionError"
  | .accessError => "AccessError"
  | .undefinedMemberError => "UndefinedMemberError"
  | .undefinedClassError => "UndefinedClassError"
  | .typeError => "TypeError"
  | .attributeError => "AttributeError"
  | .lookupError => "LookupError"
  | .keyError => "KeyError"
  | .indexError => "IndexError"
  | .valueError => "ValueError"
  | .nameError => "NameError"
  | .unboundLocalError => "UnboundLocalError"
  | .stopIteration => "StopIteration"
  | .arithmeticError => "ArithmeticError"
  | .zeroDivisionError => "ZeroDivisionError"
  | .overflowError => "OverflowError"
  | .floatingPointError => "FloatingPointError"
  | .runtimeError => "RuntimeError"
  | .recursionError => "RecursionError"
  | .notImplementedError => "NotImplementedError"
  | .assertionError => "AssertionError"
  | .memoryError => "MemoryError"
  | .unicodeError => "UnicodeError"
  | .bufferError => "BufferError"
  | .osError => "OSError"
  | .eofError => "EOFError"
  | .importError => "ImportError"
  | .systemError => "SystemError"
  | .referenceError => "ReferenceError"
  | .frozenInstanceError => "FrozenInstanceError"

def all : List ErrorKind :=
  [.exception, .modelError, .definitionError, .accessError, .undefinedMemberError,
   .undefinedClassError, .typeError, .attributeError, .lookupError, .keyError, .indexError,
   .valueError, .nameError, .unboundLocalError, .stopIteration, .arithmeticError,
   .zeroDivisionError, .overflowError, .floatingPointError, .runtimeError, .recursionError,
   .notImplementedError, .assertionError, .memoryError, .unicodeError, .bufferError, .osError,
   .eofError, .importError, .systemError, .referenceError, .frozenInstanceError]

def ofName? (s : String) : Option ErrorKind := all.find? (fun k => k.name == s)

/-- All kinds that a fault of this kind belongs to. -/
def ancestors : ErrorKind → List ErrorKind
  | .exception => [.exception]
  | .modelError => [.modelError, .exception]
  | .definitionError => [.definitionError, .modelError, .typeError, .exception]
  | .accessError => [.accessError, .modelError, .attributeError, .exception]
  | .undefinedMemberError => [.undefinedMemberError, .modelError, .attributeError, .exception]
  | .undefinedClassError => [.undefinedClassError, .modelError, .lookupError, .exception]
  | .keyError => [.keyError, .lookupError, .exception]
  | .indexError => [.indexError, .lookupError, .exception]
  | .unboundLocalError => [.unboundLocalError, .nameError, .exception]
  | .zeroDivisionError => [.zeroDivisionError, .arithmeticError, .exception]
  | .overflowError => [.overflowError, .arithmeticError, .exception]
  | .floatingPointError => [.floatingPointError, .arithmeticError, .exception]
  | .recursionError => [.recursionError, .runtimeError, .exception]
  | .notImplementedError => [.notImplementedError, .runtimeError, .exception]
  | .unicodeError => [.unicodeError, .valueError, .exception]
  | .frozenInstanceError => [.frozenInstanceError, .attributeError, .exception]
  | k => [k, .exception]

def isA (k k' : ErrorKind) : Bool := k.ancestors.contains k'

/-- Where a kind is defined, if it is not one that every program knows. -/
def home? (k : ErrorKind) : Option String :=
  if k = .frozenInstanceError then some "dataclasses"
  else if k.isA .modelError then some "pypie.errors"
  else none

end ErrorKind

end ObjectModel
