import BuildChronicle.Desk
import BuildChronicle.Handler.Standard
import BuildChronicle.Log.Book

/-!
# Sessions

A session reports one build from its beginning to its end. It may be given a report and
artifact types of its own. Starting it opens a report if there is none, sets up a new desk
with the standard handlers, and reports what it was told about the build. From then on
events are received at the desk. Closing the session closes the report; a session may be
started again, but its report stays closed. A disabled session does nothing at all.

Times, the file system and the order of calls come from outside. No call looks at the log:
records are listed for the log book, which alone knows the threshold.
-/

namespace BuildChronicle

/-- How far a session has come. -/
inductive Stage where
  /-- It was not started; a report may have been given to it. -/
  | fresh (report : Option Report)
  /-- It receives events for a report. -/
  | wired (report : Report) (desk : Desk)

/-- The reporting of one build. -/
structure Session where
  /-- What the reporting is set to. -/
  settings : Settings
  /-- The artifact types it was given or has set up. -/
  types : Option TypeRegistry := none
  /-- How far it has come. -/
  stage : Stage := .fresh none

namespace Session

/-- The logger of sessions. -/
def logger : String := "event_spy.spy"

/-- The report of the session, if there is one. -/
def report? (session : Session) : Option Report :=
  match session.stage with
  | .fresh report => report
  | .wired report _ => some report

/-- The desk of the session, once it was started. -/
def desk? (session : Session) : Option Desk :=
  match session.stage with
  | .fresh _ => none
  | .wired _ desk => some desk

/-- The report of the session; asking for it before there is one is a fault. -/
def theReport (session : Session) : Except Fault Report :=
  match session.report? with
  | some report => .ok report
  | none => .error .notStarted

/-- The desk of the session; asking for it before the start is a fault. -/
def theDesk (session : Session) : Except Fault Desk :=
  match session.desk? with
  | some desk => .ok desk
  | none => .error .notStarted

/-- The children of the first node: the texts among the context entries, by name. -/
def contextNodes (context : Table Value) : List Node :=
  context.sorted.filterMap fun (name, value) =>
    match value with
    | .text text => some (Node.text name (some text))
    | _ => none

/-- The first node of a report. -/
def firstNode (time : String) (context : Table Value) : Node :=
  (((Node.leaf "MavenEventSpy").set "type" "init").set
    "class" "event_spy.spy.MavenEventSpy").set "_time" time |>.addAll (contextNodes context)

/-- The record that a session is disabled. -/
def disabledRecord : Record := Record.of .info logger "Event spy disabled"

/-- The record that a session was started with so many handlers. -/
def startedRecord (handlers : Nat) : Record :=
  Record.of .info logger ("Event spy initialized with " ++ toString handlers ++ " handlers")

/-- The record of an event and whether it was dealt with. -/
def handledRecord (event : Event) (handled : Bool) : Record :=
  Record.of .debug logger
    ("Event " ++ event.className ++ " handled: " ++ Value.truthText handled)

/-- A new desk with the standard handlers, and the records of setting it up. -/
def newDesk (types : TypeRegistry) : Desk × List Record :=
  let move := ({ types := some types } : Desk).enlistAll (Handler.standard none)
  (move.state, move.records)

/-- Start the session: set up what it needs and report what it was told. -/
def start (session : Session) (time : String) (context : Table Value) :
    Move Session Fault Unit :=
  if session.settings.disabled then ⟨session, [disabledRecord], .ok ()⟩
  else
    let report := session.report?.getD (Report.openAt time)
    let types := session.types.getD TypeRegistry.stock
    let (desk, registered) := newDesk types
    let added := report.add (firstNode time context)
    match added.outcome with
    | .error fault =>
      ⟨{ session with types := some types, stage := .wired report desk },
        registered ++ added.records, .error fault⟩
    | .ok report =>
      ⟨{ session with types := some types, stage := .wired report desk },
        registered ++ added.records ++ [startedRecord desk.dispatcher.handlers.length],
        .ok ()⟩

/-- Receive whatever was delivered: was it dealt with? -/
def receive (session : Session) (time : String) (files : FileSystem) (event : Event) :
    Move Session Fault Bool :=
  if session.settings.disabled then ⟨session, [], .ok false⟩
  else match session.stage with
    | .fresh _ => ⟨session, [], .error .notStarted⟩
    | .wired report desk =>
      let move := desk.receive report time files event
      let stage := Stage.wired move.state.2 move.state.1
      match move.outcome with
      | .error fault => ⟨{ session with stage }, move.records, .error fault⟩
      | .ok handled =>
        ⟨{ session with stage }, move.records ++ [handledRecord event handled], .ok handled⟩

/-- Close the session: close its report and forget the project last seen. -/
def close (session : Session) (time : String) : Move Session Fault Unit :=
  if session.settings.disabled then ⟨session, [], .ok ()⟩
  else match session.stage with
    | .fresh none => ⟨session, [], .ok ()⟩
    | .fresh (some report) =>
      let (report, records) := report.close time
      ⟨{ session with stage := .fresh (some report) }, records, .ok ()⟩
    | .wired report desk =>
      let (report, records) := report.close time
      ⟨{ session with stage := .wired report desk.forget }, records, .ok ()⟩

end Session

end BuildChronicle
