import BuildChronicle.Log.Attempt
import BuildChronicle.Log.Folder

/-!
# Faults

What can go wrong while a session is started or an event is processed, and what is said
about it.
-/

namespace BuildChronicle

/-- What can go wrong while a session is started or an event is processed. -/
inductive Fault where
  /-- A path has no canonical form. -/
  | path (error : PathError)
  /-- The report was closed before. -/
  | reportClosed
  /-- The session was not started. -/
  | notStarted
  /-- Something was asked for an attribute that its class lacks. -/
  | noAttribute (className wanted : String)
  /-- A coordinate that an identifier takes is missing; it stands at this position. -/
  | missingPart (position : Nat)
  /-- The log file cannot be had. -/
  | logFile (error : LogFileError)
deriving DecidableEq

/-- What is said about a fault. -/
def Fault.message : Fault → String
  | path error => error.message
  | reportClosed => "Reporter already closed"
  | notStarted => "Event spy not initialized"
  | noAttribute className wanted =>
    "'" ++ className ++ "' object has no attribute '" ++ wanted ++ "'"
  | missingPart position =>
    "sequence item " ++ toString position ++ ": expected str instance, NoneType found"
  | logFile error => error.message

namespace Attempt

/-- Attempt something for a value that may be missing. -/
def forOption {α β : Type} (act : α → Attempt Fault β) : Option α → Attempt Fault (Option β)
  | none => succeed none
  | some a => do return some (← act a)

/-- Attempt something for every item in order, up to the first failure. -/
def forEach {α β : Type} (act : α → Attempt Fault β) : List α → Attempt Fault (List β)
  | [] => succeed []
  | a :: rest => do
    let result ← act a
    let results ← forEach act rest
    return result :: results

end Attempt

end BuildChronicle
