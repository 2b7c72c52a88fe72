import BuildChronicle.Number.Word
import BuildChronicle.Value

/-!
# Refused arguments

Some classes of exceptions want arguments of a certain shape and refuse all others. What is
refused, and with which words, is decided by the first argument that does not fit.
-/

namespace BuildChronicle

/-- Why a class of exceptions refuses its arguments. -/
inductive Refusal where
  /-- Not as many arguments as wanted. -/
  | wrongCount (wanted given : Nat)
  /-- Too few facts about a place in source code. -/
  | tooFewFacts (given : Nat)
  /-- Too many facts about a place in source code. -/
  | tooManyFacts (given : Nat)
  /-- A place in source code ends in a line but not in a column. -/
  | noEndColumn
  /-- The facts about a place in source code are no collection. -/
  | noFacts (kindName : String)
  /-- The text of a line of source code is no text. -/
  | lineNoText (kindName : String)
  /-- A column of source code that has no other after it is a text or list. -/
  | columnSequence (kindName : String)
  /-- A column of source code that has no other after it is a record. -/
  | columnRecord
  /-- A column of source code is fractional. -/
  | columnFraction
  /-- An end column of source code is a collection that can change. -/
  | endColumnChangeable (kindName : String)
  /-- A column of source code is no number. -/
  | columnNoNumber (kindName : String)
  /-- An end column of source code is fractional. -/
  | endColumnFraction
  /-- A note is no text. -/
  | noteNoText (kindName : String)
  /-- The argument at a position, counted from one, is no text. -/
  | noText (position : Nat) (kindName : String)
  /-- An argument is no integer. -/
  | noInteger (kindName : String)
  /-- An argument does not fit a machine word. -/
  | wordOverflow
  /-- An argument is not made of bytes. -/
  | noBytes (kindName : String)
  /-- The character in question stands before the beginning of its text. -/
  | beforeBeginning
  /-- A count does not fit a machine word. -/
  | countOverflow
  /-- Not as many arguments as a group wants. -/
  | groupCount (given : Nat)
  /-- The message of a group is no text. -/
  | groupNoText (kindName : String)
  /-- The members of a group are no list. -/
  | groupNoList
  /-- A group has no members. -/
  | groupEmpty
  /-- The first member of a group is no exception. -/
  | groupMember
deriving DecidableEq

/-- What is said about a refusal. -/
def Refusal.message : Refusal → String
  | wrongCount wanted given =>
    "function takes exactly " ++ toString wanted ++ " arguments (" ++ toString given ++ " given)"
  | tooFewFacts given =>
    "function takes at least 4 arguments (" ++ toString given ++ " given)"
  | tooManyFacts given =>
    "function takes at most 6 arguments (" ++ toString given ++ " given)"
  | noEndColumn => "end_offset must be provided when end_lineno is provided"
  | noFacts kindName => "'" ++ kindName ++ "' object is not iterable"
  | lineNoText kindName => "'" ++ kindName ++ "' object has no attribute 'rstrip'"
  | columnSequence kindName =>
    "can only concatenate " ++ kindName ++ " (not \x22int\x22) to " ++ kindName
  | columnRecord => "unsupported operand type(s) for +: 'dict' and 'int'"
  | columnFraction =>
    "slice indices must be integers or None or have an __index__ method"
  | endColumnChangeable kindName => "unhashable type: '" ++ kindName ++ "'"
  | columnNoNumber kindName =>
    "unsupported operand type(s) for -: '" ++ kindName ++ "' and 'int'"
  | endColumnFraction => "can't multiply sequence by non-int of type 'float'"
  | noteNoText kindName => "note must be a str, not '" ++ kindName ++ "'"
  | noText position kindName =>
    "argument " ++ toString position ++ " must be str, not " ++ kindName
  | noInteger kindName => "'" ++ kindName ++ "' object cannot be interpreted as an integer"
  | wordOverflow => "Python int too large to convert to C ssize_t"
  | noBytes kindName => "a bytes-like object is required, not '" ++ kindName ++ "'"
  | beforeBeginning => "<class 'str'> returned a result with an exception set"
  | countOverflow => "cannot fit 'int' into an index-sized integer"
  | groupCount given =>
    "BaseExceptionGroup.__new__() takes exactly 2 arguments (" ++ toString given ++ " given)"
  | groupNoText kindName =>
    "BaseExceptionGroup.__new__() argument 1 must be str, not " ++ kindName
  | groupNoList => "second argument (exceptions) must be a sequence"
  | groupEmpty => "second argument (exceptions) must be a non-empty sequence"
  | groupMember => "Item 0 of second argument (exceptions) is not an exception"

namespace Value

/-- The word for the kind of a value among the arguments of a call; null has no kind there. -/
def argumentKind : Value → String
  | null => Text.missingWord
  | value => value.kindName

/-- An argument that has to be a text; it stands at the given position. -/
def asText (position : Nat) : Value → Except Refusal String
  | text string => .ok string
  | value => .error (.noText position value.argumentKind)

/-- An argument that has to be an integer in a machine word. -/
def asWord (value : Value) : Except Refusal Int :=
  match value.integer? with
  | none => .error (.noInteger value.kindName)
  | some number => if Number.fitsWord number then .ok number else .error .wordOverflow

/-- A note that is added to an exception, which has to be a text. -/
def asNote : Value → Except Refusal String
  | text string => .ok string
  | value => .error (.noteNoText value.kindName)

end Value

end BuildChronicle
