import BuildChronicle.Thrown.Class
import BuildChronicle.Thrown.Coding
import BuildChronicle.Thrown.Source

/-!
# Exceptions that events carry

A failing step of a build hands over the exception that stopped it: its class, its
arguments, notes added to it, the frames it passed through, and the exceptions that came
before it as its cause or its context.

Families of classes treat their arguments differently. Most show them as they are. A failed
look-up shows its one argument quoted. A failed system call with two to five arguments
understands them as an error number, a reason and up to two files; the files are not counted
among the arguments any more. An exception about source code or about a text that cannot be
coded understands them as facts, and refuses arguments that are none.
-/

namespace BuildChronicle

/-- A place in the code that an exception passed through. -/
structure Frame where
  /-- The file of the code. -/
  file : String
  /-- The line in the file. -/
  line : Int
  /-- The name of the routine. -/
  routine : String
deriving DecidableEq

/-- An exception with what came before it. -/
inductive Thrown where
  | mk (asked : ThrownClass) (given : List Value) (notes : List String) (frames : List Frame)
      (cause context : Option Thrown) (contextHidden : Bool)

namespace Thrown

instance : Inhabited Thrown := ⟨mk (.builtin "Exception") [] [] [] none none false⟩

/-- The class that was asked for. -/
def asked : Thrown → ThrownClass | mk asked _ _ _ _ _ _ => asked

/-- The arguments that were given. -/
def given : Thrown → List Value | mk _ given _ _ _ _ _ => given

/-- The notes added to the exception. -/
def notes : Thrown → List String | mk _ _ notes _ _ _ _ => notes

/-- The frames it passed through, the outermost first. -/
def frames : Thrown → List Frame | mk _ _ _ frames _ _ _ => frames

/-- The class of the exception. -/
def thrownClass (thrown : Thrown) : ThrownClass := thrown.asked.forArguments thrown.given

/-- Is the value a number? -/
def isNumber : Value → Bool
  | .real _ => true
  | value => value.integer?.isSome

/-- What a failed system call understands its arguments as. -/
structure SystemDetails where
  /-- The error number. -/
  number : Value
  /-- The reason. -/
  reason : Value
  /-- The file concerned, and a second one. -/
  files : Option (Value × Option Value)

/-- The file arguments of a failed system call, where they are there and not null. The third
argument of a call that would have blocked may be a count instead. -/
def systemFiles? (thrownClass : ThrownClass) : List Value → Option (Value × Option Value)
  | [] => none
  | .null :: _ => none
  | file :: rest =>
    if thrownClass = .builtin blockingName ∧ isNumber file then none
    else match rest with
      | [_, .null] => some (file, none)
      | [_, second] => some (file, some second)
      | _ => some (file, none)

/-- The details of a failed system call that was given two to five arguments. -/
def systemDetails? (thrown : Thrown) : Option SystemDetails :=
  if thrown.thrownClass.family = .system then
    match thrown.given with
    | number :: reason :: rest =>
      if rest.length ≤ 3 then some ⟨number, reason, systemFiles? thrown.thrownClass rest⟩ else none
    | _ => none
  else none

/-- The arguments of the exception: those given, less the files of a failed system call. -/
def arguments (thrown : Thrown) : List Value :=
  match thrown.systemDetails? with
  | some ⟨number, reason, some _⟩ => [number, reason]
  | _ => thrown.given

/-- The text of an exception that treats its arguments like most. -/
def plainText : List Value → String
  | [] => ""
  | [argument] => argument.display
  | several => Value.argumentsLiteral several

/-- The text of a failed system call. -/
def SystemDetails.describe (details : SystemDetails) : String :=
  "[Errno " ++ details.number.display ++ "] " ++ details.reason.display ++
    match details.files with
    | none => ""
    | some (file, none) => ": " ++ file.literal
    | some (file, some second) => ": " ++ file.literal ++ " -> " ++ second.literal

/-- The text of a failed look-up, which quotes a sole argument. -/
def lookupText : List Value → String
  | [argument] => argument.literal
  | arguments => plainText arguments

/-- The place in source code that the exception is about, if it is about source code. -/
def sourcePlace? (thrown : Thrown) : Option SourcePlace :=
  if thrown.thrownClass.family = .source then (SourcePlace.ofArguments thrown.given).toOption
  else none

/-- The trouble of an exception about a text that cannot be coded. -/
def codingTrouble? (thrown : Thrown) : Option CodingTrouble :=
  match thrown.thrownClass.family with
  | .encoding => (CodingTrouble.ofEncoding thrown.given).toOption
  | .charMapping => (CodingTrouble.ofMapping thrown.given).toOption
  | _ => none

/-- The text of the exception. -/
def text (thrown : Thrown) : String :=
  match thrown.systemDetails?, thrown.sourcePlace?, thrown.codingTrouble? with
  | some details, _, _ => details.describe
  | none, some place, _ => place.describe thrown.given
  | none, none, some trouble => trouble.describe
  | none, none, none =>
    if thrown.thrownClass.family = .lookup then lookupText thrown.given
    else plainText thrown.given

/-- The message to report: a sole argument that is a string as it is, else the text. -/
def message (thrown : Thrown) : String :=
  match thrown.arguments with
  | [.text message] => message
  | _ => thrown.text

/-- Why a call that would have blocked refuses a count. -/
def refusedCount? : Value → Option Refusal
  | .real number => some (.noInteger (Value.real number).kindName)
  | value =>
    match value.integer? with
    | some count => if Number.fitsWord count then none else some .countOverflow
    | none => none

/-- Why an exception of a class refuses arguments, if it does. -/
def refusal? (thrownClass : ThrownClass) (given : List Value) : Option Refusal :=
  match thrownClass.family with
  | .plain | .lookup => none
  | .system =>
    match thrownClass, given with
    | .builtin name, _ :: _ :: count :: rest =>
      if name = blockingName ∧ rest.length ≤ 2 then refusedCount? count else none
    | _, _ => none
  | .source => refusalOf (SourcePlace.ofArguments given)
  | .encoding => refusalOf (CodingTrouble.ofEncoding given)
  | .charMapping => refusalOf (CodingTrouble.ofMapping given)
  | .decoding => some (CodingTrouble.refusedDecoding given)
  | .group => some (refusedGroup given)
where
  /-- The refusal of an outcome. -/
  refusalOf {α : Type} : Except Refusal α → Option Refusal
    | .ok _ => none
    | .error refusal => some refusal

/-- The exception, unless its class refuses its arguments. -/
def accepted (thrown : Thrown) : Except Refusal Thrown :=
  match refusal? thrown.thrownClass thrown.given with
  | none => .ok thrown
  | some refusal => .error refusal

end Thrown

end BuildChronicle
