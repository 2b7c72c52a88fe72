import BuildChronicle.Session

/-!
# Monitored sessions

A monitored session is a session with its log book. Starting the session first sets the log
book up as the settings ask; if that fails, the session is not started. Every call hands its
records to the book, which keeps those that reach its threshold.
-/

namespace BuildChronicle

/-- A session and the book that its records go to. -/
structure Monitor where
  /-- The session. -/
  session : Session
  /-- The log book. -/
  book : LogBook := {}

namespace Monitor

/-- Hand the records of a call to the book. -/
def after {ε α : Type} (monitor : Monitor) (move : Move Session ε α) : Monitor :=
  { session := move.state, book := monitor.book.receiveAll move.records }

/-- Set the book up, then start the session. -/
def start (monitor : Monitor) (time : String) (context : Table Value) :
    Monitor × Except Fault Unit :=
  let (book, outcome) := monitor.book.setUp monitor.session.settings
  let ready := { monitor with book }
  match outcome with
  | .error error => (ready, .error (.logFile error))
  | .ok () =>
    let move := monitor.session.start time context
    (ready.after move, move.outcome)

/-- Receive whatever was delivered: was it dealt with? -/
def receive (monitor : Monitor) (time : String) (files : FileSystem) (event : Event) :
    Monitor × Except Fault Bool :=
  let move := monitor.session.receive time files event
  (monitor.after move, move.outcome)

/-- Close the session. -/
def close (monitor : Monitor) (time : String) : Monitor × Except Fault Unit :=
  let move := monitor.session.close time
  (monitor.after move, move.outcome)

end Monitor

end BuildChronicle
