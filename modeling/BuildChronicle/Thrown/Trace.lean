import BuildChronicle.Text.Fields
import BuildChronicle.Thrown

/-!
# Traces of exceptions

A trace tells the whole story of an exception, the earliest part first: the exception that
caused it or, unless that is hidden, the one that was being handled; then its own frames,
its class with its text, and its notes line by line. An exception about source code shows the
code in question as well. A frame that occurs again and again
without another in between is written three times, and then only counted.
-/

namespace BuildChronicle.Thrown

/-- How often the same frame is written in a row. -/
def mostRepeats : Nat := 3

/-- The line of a frame. -/
def frameLine (frame : Frame) : String :=
  "  File \x22" ++ frame.file ++ "\x22, line " ++ toString frame.line ++ ", in " ++
    frame.routine ++ "\n"

/-- The line that counts repeats which are not written, if there are any. -/
def repeatLine (count : Nat) : String :=
  if count ≤ mostRepeats then ""
  else
    "  [Previous line repeated " ++ toString (count - mostRepeats) ++
      (if count - mostRepeats > 1 then " more times]\n" else " more time]\n")

/-- The lines of frames after `count` occurrences of the frame `last`. -/
def frameLinesAfter (last : Option Frame) (count : Nat) : List Frame → String
  | [] => repeatLine count
  | frame :: rest =>
    if last = some frame then
      (if count < mostRepeats then frameLine frame else "") ++
        frameLinesAfter last (count + 1) rest
    else repeatLine count ++ frameLine frame ++ frameLinesAfter (some frame) 1 rest

/-- The part of a trace that shows frames; nothing without frames. -/
def framesText (frames : List Frame) : String :=
  if frames.isEmpty then ""
  else "Traceback (most recent call last):\n" ++ frameLinesAfter none 0 frames

/-- The lines with the class and the text of an exception. -/
def headline (thrown : Thrown) : String :=
  let name := thrown.thrownClass.traceName
  match thrown.sourcePlace? with
  | some place => place.traceLines name thrown.given
  | none => (if thrown.text.isEmpty then name else name ++ ": " ++ thrown.text) ++ "\n"

/-- The lines of a note. -/
def noteText (note : String) : String :=
  String.join ((Text.fields '\n' note).map (· ++ "\n"))

/-- The part of a trace about the exception itself. -/
def ownTrace (thrown : Thrown) : String :=
  framesText thrown.frames ++ headline thrown ++ String.join (thrown.notes.map noteText)

/-- What stands between a cause and its consequence. -/
def causeBridge : String :=
  "\nThe above exception was the direct cause of the following exception:\n\n"

/-- What stands between an exception and another one that was raised while handling it. -/
def contextBridge : String :=
  "\nDuring handling of the above exception, another exception occurred:\n\n"

mutual

/-- The whole trace of an exception. -/
def trace : Thrown → String
  | mk asked given notes frames cause context contextHidden =>
    let own := ownTrace (mk asked given notes frames none none contextHidden)
    match traceOf cause with
    | some before => before ++ causeBridge ++ own
    | none =>
      match traceOf context with
      | some before => if contextHidden then own else before ++ contextBridge ++ own
      | none => own

/-- The trace of an earlier exception, if there is one. -/
def traceOf : Option Thrown → Option String
  | none => none
  | some thrown => some (trace thrown)

end

end BuildChronicle.Thrown
