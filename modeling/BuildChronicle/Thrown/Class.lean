import BuildChronicle.Value

/-!
# Classes of exceptions

Exceptions belong to classes that the language of the build provides or that derive from
these. The provided class says how the arguments of an exception are treated. The general
class of failed system calls gives way to a special one where the error number has one.
-/

namespace BuildChronicle

/-- The class of an exception. -/
inductive ThrownClass where
  /-- A class that the language of the build provides. -/
  | builtin (name : String)
  /-- A class defined in a module, deriving from a provided one. -/
  | custom (moduleName qualifiedName base : String)
deriving DecidableEq

/-- How a class of exceptions treats its arguments. -/
inductive Family where
  /-- The arguments are shown as they are. -/
  | plain
  /-- A failed look-up, which quotes its argument. -/
  | lookup
  /-- A failed system call. -/
  | system
  /-- Source code that is not well formed. -/
  | source
  /-- A text that cannot be encoded. -/
  | encoding
  /-- Bytes that cannot be decoded. -/
  | decoding
  /-- A text whose characters cannot be mapped. -/
  | charMapping
  /-- A group of exceptions. -/
  | group
deriving DecidableEq

/-- The names of the general class of failed system calls. -/
def generalSystemNames : List String := ["OSError", "IOError", "EnvironmentError"]

/-- The class of failed system calls that would have blocked. -/
def blockingName : String := "BlockingIOError"

/-- The names of the special classes of failed system calls. -/
def specialSystemNames : List String := [
  blockingName, "ChildProcessError", "ConnectionError", "BrokenPipeError",
  "ConnectionAbortedError", "ConnectionRefusedError", "ConnectionResetError",
  "FileExistsError", "FileNotFoundError", "InterruptedError", "IsADirectoryError",
  "NotADirectoryError", "PermissionError", "ProcessLookupError", "TimeoutError"]

/-- The special class of an error number, if it has one. -/
def specialSystemName? (number : Int) : Option String :=
  ([(1, "PermissionError"), (2, "FileNotFoundError"), (3, "ProcessLookupError"),
    (4, "InterruptedError"), (10, "ChildProcessError"), (11, blockingName),
    (13, "PermissionError"), (17, "FileExistsError"), (20, "NotADirectoryError"),
    (21, "IsADirectoryError"), (32, "BrokenPipeError"), (103, "ConnectionAbortedError"),
    (104, "ConnectionResetError"), (108, "BrokenPipeError"), (110, "TimeoutError"),
    (111, "ConnectionRefusedError"), (114, blockingName), (115, blockingName)] :
      List (Int × String)).lookup number

/-- The families of the other classes that treat their arguments specially. -/
def specialFamilies : List (String × Family) := [
  ("KeyError", .lookup), ("SyntaxError", .source), ("IndentationError", .source),
  ("TabError", .source), ("UnicodeEncodeError", .encoding), ("UnicodeDecodeError", .decoding),
  ("UnicodeTranslateError", .charMapping), ("ExceptionGroup", .group),
  ("BaseExceptionGroup", .group)]

/-- The family of a provided class. -/
def familyOf (name : String) : Family :=
  if name ∈ generalSystemNames ∨ name ∈ specialSystemNames then .system
  else (specialFamilies.lookup name).getD .plain

/-- The family of a class: that of the provided class it derives from. -/
def ThrownClass.family : ThrownClass → Family
  | builtin name => familyOf name
  | custom _ _ base => familyOf base

/-- The module of the provided classes; its name is not written. -/
def providedModule : String := "builtins"

/-- The module of the main program; traces do not write its name. -/
def mainModule : String := "__main__"

/-- The full name of a class. -/
def ThrownClass.fullName : ThrownClass → String
  | builtin name => name
  | custom moduleName qualifiedName _ =>
    if moduleName = providedModule then qualifiedName else moduleName ++ "." ++ qualifiedName

/-- The name of a class as traces write it. -/
def ThrownClass.traceName (thrownClass : ThrownClass) : String :=
  match thrownClass with
  | custom moduleName qualifiedName _ =>
    if moduleName = mainModule then qualifiedName else thrownClass.fullName
  | builtin _ => thrownClass.fullName

/-- The class that a provided class gives way to for its arguments. -/
def specialize (name : String) (given : List Value) : String :=
  if name ∈ generalSystemNames then
    match given with
    | number :: _ :: rest =>
      if rest.length ≤ 3 then
        (number.integer?.bind specialSystemName?).getD "OSError"
      else "OSError"
    | _ => "OSError"
  else name

/-- The class of an exception that is asked for with the given arguments. -/
def ThrownClass.forArguments (asked : ThrownClass) (given : List Value) : ThrownClass :=
  match asked with
  | builtin name => builtin (specialize name given)
  | custom moduleName qualifiedName base => custom moduleName qualifiedName base

end BuildChronicle
