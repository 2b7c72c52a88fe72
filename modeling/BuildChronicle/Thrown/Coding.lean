import BuildChronicle.Text.Quoted
import BuildChronicle.Thrown.Refusal

/-!
# Texts that cannot be coded

An exception about a text that cannot be encoded names the codec, the text, the range of
characters in question and the reason; one about characters that cannot be mapped names no
codec. A single character within the text is shown by its number.
-/

namespace BuildChronicle

/-- What is wrong with a text that cannot be coded. -/
structure CodingTrouble where
  /-- The codec, and what could not be done with the characters. -/
  action : String
  /-- The text. -/
  object : String
  /-- Where the range of characters begins. -/
  start : Int
  /-- Where it ends. -/
  stop : Int
  /-- The reason. -/
  reason : String

namespace CodingTrouble

/-- Does the range consist of one character that does not stand behind the text? -/
def isSingle (trouble : CodingTrouble) : Bool :=
  trouble.start < trouble.object.length && trouble.stop == trouble.start + 1

/-- Trouble whose single character is not in front of the text. -/
def check (trouble : CodingTrouble) : Except Refusal CodingTrouble :=
  if trouble.isSingle && trouble.start < 0 then .error .beforeBeginning else .ok trouble

/-- The trouble that the arguments of a failed mapping describe. -/
def ofMapping : List Value → Except Refusal CodingTrouble
  | [object, start, stop, reason] => do
    check {
      action := "can't translate"
      object := ← object.asText 1
      start := ← start.asWord
      stop := ← stop.asWord
      reason := ← reason.asText 4 }
  | arguments => .error (.wrongCount 4 arguments.length)

/-- The trouble that the arguments of a failed encoding describe. -/
def ofEncoding : List Value → Except Refusal CodingTrouble
  | [codec, object, start, stop, reason] => do
    let codec ← codec.asText 1
    check {
      action := "'" ++ codec ++ "' codec can't encode"
      object := ← object.asText 2
      start := ← start.asWord
      stop := ← stop.asWord
      reason := ← reason.asText 5 }
  | arguments => .error (.wrongCount 5 arguments.length)

/-- Why the arguments of a failed decoding are refused. There are no bytes among values. -/
def refusedDecoding : List Value → Refusal
  | [codec, object, start, stop, reason] =>
    match (do
        let _ ← codec.asText 1
        let _ ← start.asWord
        let _ ← stop.asWord
        reason.asText 5) with
    | .error refusal => refusal
    | .ok _ => .noBytes object.kindName
  | arguments => .wrongCount 5 arguments.length

/-- The last position of the range. Positions are machine words, which wrap around. -/
def lastPosition (trouble : CodingTrouble) : Int :=
  if Number.fitsWord (trouble.stop - 1) then trouble.stop - 1 else Int.pow 2 63 - 1

/-- The text of an exception. -/
def describe (trouble : CodingTrouble) : String :=
  match trouble.isSingle, trouble.object.toList[trouble.start.toNat]? with
  | true, some c =>
    trouble.action ++ " character '" ++ String.ofList (Text.numbered c) ++ "' in position " ++
      toString trouble.start ++ ": " ++ trouble.reason
  | _, _ =>
    trouble.action ++ " characters in position " ++ toString trouble.start ++ "-" ++
      toString trouble.lastPosition ++ ": " ++ trouble.reason

end CodingTrouble

/-- Why the arguments of a group of exceptions are refused. There are no exceptions among
values. -/
def refusedGroup : List Value → Refusal
  | [message, members] =>
    match message with
    | .text _ =>
      match members with
      | .list items => if items.isEmpty then .groupEmpty else .groupMember
      | .text string => if string.isEmpty then .groupEmpty else .groupMember
      | _ => .groupNoList
    | message => .groupNoText message.argumentKind
  | arguments => .groupCount arguments.length

end BuildChronicle
