import BuildChronicle.Log.Fault
import BuildChronicle.Node.Markup

/-!
# Reports

A report collects nodes under one root. Nodes are only ever added at the end, and none are
added once the report is closed. The root tells when the report was opened and, once it is
closed, when it was closed first.
-/

namespace BuildChronicle

/-- The nodes reported so far, and the times between which they were reported. -/
structure Report where
  /-- When the report was opened. -/
  openedAt : String
  /-- The reported nodes in order. -/
  nodes : List Node := []
  /-- When the report was closed, if it was. -/
  closedAt : Option String := none

namespace Report

/-- The logger of reports. -/
def logger : String := "event_spy.reporter"

/-- The report that is opened at a time. -/
def openAt (time : String) : Report := { openedAt := time }

/-- Is the report closed? -/
def isClosed (report : Report) : Bool := report.closedAt.isSome

/-- The root with all reported nodes. -/
def root (report : Report) : Node :=
  (((Node.leaf "mavenExecution").set "_time" report.openedAt).set?
    "_endTime" report.closedAt).addAll report.nodes

/-- The record of a node that was added. -/
def addedRecord (node : Node) : Record := Record.of .debug logger ("Reported " ++ node.name)

/-- The record of a report that was closed. -/
def closedRecord (report : Report) : Record :=
  Record.of .info logger ("Report closed with " ++ toString report.nodes.length ++ " entries")

/-- Add a node, unless the report is closed. -/
def add (report : Report) (node : Node) : Attempt Fault Report :=
  if report.isClosed then Attempt.fail .reportClosed
  else ⟨[addedRecord node], .ok { report with nodes := report.nodes ++ [node] }⟩

/-- Close the report. Closing it again changes nothing. -/
def close (report : Report) (time : String) : Report × List Record :=
  if report.isClosed then (report, [])
  else ({ report with closedAt := some time }, [report.closedRecord])

/-- Adding to an open report puts the node after all others. -/
theorem add_open (report : Report) (node : Node) (isOpen : report.closedAt = none) :
    (report.add node).outcome = .ok { report with nodes := report.nodes ++ [node] } := by
  simp [add, isClosed, isOpen]

/-- Nothing is added to a closed report. -/
theorem add_closed (report : Report) (node : Node) (time : String)
    (closed : report.closedAt = some time) :
    report.add node = Attempt.fail .reportClosed := by
  simp [add, isClosed, closed]

end Report

end BuildChronicle
