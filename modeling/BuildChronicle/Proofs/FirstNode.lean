import Mathlib.Data.List.Sort
import BuildChronicle.Proofs.Deeds

/-!
# The first node of a report

A session begins its report with what it was told about the build. Every text among the entries
becomes a child, the children stand in the order of their names, and nothing else becomes one. As
no name stands twice, the names decide the order alone, whatever kinds of values they have. So the
node does not depend on the order in which the entries were given.

The children are described without following how they are found; lists that fit the description
of the same entries are the same list.
-/

namespace BuildChronicle

namespace Table

variable {α : Type}

/-- Putting entries in order of their names loses none and adds none. -/
theorem sorted_perm (table : Table α) : table.sorted.Perm table.entries :=
  List.mergeSort_perm table.entries byName

/-- Entries in order of their names have strictly increasing names, as no name stands twice. -/
theorem pairwise_sorted (table : Table α) :
    table.sorted.Pairwise fun first second => first.1 < second.1 := by
  have transitive : ∀ first second third : String × α,
      byName first second = true → byName second third = true → byName first third = true := by
    intro first second third
    simpa [byName] using String.le_trans
  have total : ∀ first second : String × α,
      (byName first second || byName second first) = true := by
    intro first second
    simpa [byName] using String.le_total first.1 second.1
  have ordered := List.pairwise_mergeSort transitive total table.entries
  have distinct : (table.sorted.map Prod.fst).Nodup :=
    (table.sorted_perm.map Prod.fst).nodup_iff.mpr table.distinct
  rw [List.Nodup, List.pairwise_map] at distinct
  apply (ordered.and distinct).imp
  rintro first second ⟨noLater, different⟩
  exact String.not_le.mp fun later =>
    different (String.le_antisymm (of_decide_eq_true noLater) later)

end Table

namespace Session

/-- These children tell what a context says. -/
structure Tells (context : Table Value) (children : List Node) : Prop where
  /-- There is one for each entry that is a text, with its name and its text, and no other. -/
  texts : ∀ child, child ∈ children ↔
    ∃ name text, (name, Value.text text) ∈ context.entries ∧ child = Node.text name (some text)
  /-- Their names are strictly increasing in the order of characters. -/
  ordered : children.Pairwise fun first second => first.name < second.name

/-- What a context says is told in one way only, whatever the order of its entries. -/
theorem Tells.unique {context other : Table Value} {children others : List Node}
    (told : Tells context children) (toldToo : Tells other others)
    (reordered : context.entries.Perm other.entries) : children = others := by
  have irreflexive : Std.Irrefl fun first second : Node => first.name < second.name :=
    ⟨fun node => String.lt_irrefl node.name⟩
  have asymmetric : Std.Antisymm fun first second : Node => first.name < second.name :=
    ⟨fun _ _ before after => absurd after (String.lt_asymm before)⟩
  apply told.ordered.eq_of_mem_iff toldToo.ordered
  intro child
  rw [told.texts, toldToo.texts]
  simp only [reordered.mem_iff]

/-- The children of the first node tell the context. -/
theorem tells_contextNodes (context : Table Value) : Tells context (contextNodes context) := by
  constructor
  case texts =>
    intro child
    rw [contextNodes, List.mem_filterMap]
    constructor
    · rintro ⟨⟨name, value⟩, member, made⟩
      cases value with
      | text text =>
        exact ⟨name, text, context.sorted_perm.mem_iff.mp member, (Option.some.inj made).symm⟩
      | _ => cases made
    · rintro ⟨name, text, member, rfl⟩
      exact ⟨_, context.sorted_perm.mem_iff.mpr member, rfl⟩
  case ordered =>
    apply List.Pairwise.filterMap _ _ context.pairwise_sorted
    rintro ⟨name, value⟩ ⟨other, otherValue⟩ before child made otherChild madeToo
    cases value <;> cases made
    cases otherValue <;> cases madeToo
    exact before

/-- The first nodes for the same entries at the same time are the same. -/
theorem firstNode_perm (time : String) (context other : Table Value)
    (reordered : context.entries.Perm other.entries) :
    firstNode time context = firstNode time other := by
  rw [firstNode, firstNode,
    (tells_contextNodes context).unique (tells_contextNodes other) reordered]

end Session

namespace Monitor

/-- The report that a start finds, or the one that it opens. -/
def opened (monitor : Monitor) (time : String) : Report :=
  monitor.report?.getD (Report.openAt time)

/-- Starting succeeds, and all it does to the report is to put this node after all others. -/
structure Announces (monitor : Monitor) (time : String) (context : Table Value) (node : Node) :
    Prop where
  /-- The start succeeds. -/
  done : (monitor.start time context).2 = .ok ()
  /-- The report has this node more than before. -/
  added : (monitor.start time context).1.report? =
    some { monitor.opened time with nodes := (monitor.opened time).nodes ++ [node] }

/-- A session that can be started announces its first node, if its report is open. -/
theorem announces_firstNode (monitor : Monitor) (time : String) (context : Table Value)
    (possible : monitor.canStart = true) (isOpen : (monitor.opened time).isClosed = false) :
    monitor.Announces time context (Session.firstNode time context) := by
  constructor
  case done =>
    rw [outcome_start time context possible]
    rw [opened] at isOpen
    rw [isOpen]
    rfl
  case added =>
    rw [report?, session_start, if_pos possible, ← opened, Report.taken_open _ _ isOpen]
    rfl

/-- Where a node is announced at all, it is the first node. -/
theorem Announces.node_eq {monitor : Monitor} {time : String} {context : Table Value}
    {node : Node} (announced : monitor.Announces time context node) :
    node = Session.firstNode time context := by
  obtain ⟨done, added⟩ := announced
  cases possible : monitor.canStart with
  | false =>
    rw [report?, session_start, if_neg (by simp [possible]), ← report?] at added
    rw [opened] at added
    cases given : monitor.report? with
    | none => simp [given] at added
    | some report =>
      rw [given, Option.getD_some, Option.some_inj] at added
      have longer := congrArg (fun report => report.nodes.length) added
      simp at longer
  | true =>
    rw [outcome_start time context possible, ← opened] at done
    have isOpen : (monitor.opened time).isClosed = false := by
      cases closed : (monitor.opened time).isClosed with
      | false => rfl
      | true => simp [closed] at done
    have announced := (announces_firstNode monitor time context possible isOpen).added
    rw [added, Option.some_inj, Report.mk.injEq] at announced
    exact List.singleton_inj.mp (List.append_cancel_left announced.2.1)

/-- An enabled session whose report is open, or is yet to be opened, announces one node when it is
started: it has a child for each text in the context, named in strictly increasing order, and no
other child. Any session that is started at the same time with the same entries in another order
announces the same node. The log comes first, though: if the log file that the settings ask for
cannot be had, starting fails for that and leaves the session alone. -/
theorem start_announces (monitor : Monitor) (time : String) (context : Table Value)
    (enabled : monitor.session.settings.disabled = false)
    (isOpen : ∀ report, monitor.report? = some report → report.isClosed = false) :
    (monitor.canStart = true →
      ∃ node, monitor.Announces time context node ∧ node.name = "MavenEventSpy" ∧
        Session.Tells context node.children ∧
        ∀ (other : Monitor) (reordered : Table Value) (otherNode : Node),
          context.entries.Perm reordered.entries →
          other.Announces time reordered otherNode → otherNode = node) ∧
    (monitor.canStart = false →
      ∃ error, (monitor.book.setUp monitor.session.settings).2 = .error error ∧
        (monitor.start time context).2 = .error (.logFile error) ∧
        (monitor.start time context).1.session = monitor.session) ∧
    (LogBook.askedFile monitor.session.settings = none → monitor.canStart = true) := by
  refine ⟨?_, ?_, ?_⟩
  · intro possible
    have opens : (monitor.opened time).isClosed = false := by
      rw [opened]
      cases given : monitor.report? with
      | none => rfl
      | some report => exact isOpen report given
    refine ⟨_, announces_firstNode monitor time context possible opens, rfl,
      Session.tells_contextNodes context, ?_⟩
    intro other reordered otherNode same announced
    rw [announced.node_eq, Session.firstNode_perm time context reordered same]
  · intro impossible
    rw [session_start, if_neg (by simp [impossible])]
    rw [canStart, enabled] at impossible
    rw [start]
    cases done : monitor.book.setUp monitor.session.settings with
    | mk book outcome =>
      rw [done] at impossible
      cases outcome with
      | ok done => cases impossible
      | error error => exact ⟨error, rfl, rfl, rfl⟩
  · intro unasked
    rw [canStart, enabled, LogBook.setUp, unasked]
    rfl

/-- Two sessions are told the same in another order, one of them with a report of its own. Numbers
are left out of the node that both announce, and the texts stand by name. -/
theorem start_announces_reordered :
    let first := new {} none none {}
    let second := new {} none (some (Report.openAt "before")) {}
    let context : Table Value := ⟨[("b", .text "2"), ("n", .int 1), ("a", .text "")], by decide⟩
    let reordered : Table Value := ⟨[("a", .text ""), ("b", .text "2"), ("n", .int 1)], by decide⟩
    first.session.settings.disabled = false ∧
      (∀ report, first.report? = some report → report.isClosed = false) ∧
      ∃ node, first.Announces "now" context node ∧ second.Announces "now" reordered node ∧
        node.children = [Node.text "a" (some ""), Node.text "b" (some "2")] := by
  intro first second context reordered
  have isOpen : ∀ report, first.report? = some report → report.isClosed = false := nofun
  have isOpenToo : ∀ report, second.report? = some report → report.isClosed = false := by
    rintro report ⟨⟩
    rfl
  obtain ⟨announces, -, -⟩ := start_announces first "now" context rfl isOpen
  obtain ⟨announcesToo, -, -⟩ := start_announces second "now" reordered rfl isOpenToo
  obtain ⟨node, announced, -, told, unique⟩ := announces rfl
  obtain ⟨other, announcedToo, -, -, -⟩ := announcesToo rfl
  have moved : context.entries.Perm reordered.entries :=
    List.perm_append_singleton ("a", Value.text "") [("b", .text "2"), ("n", .int 1)]
  have same : other = node := unique second reordered other moved announcedToo
  have expected : Session.Tells context [Node.text "a" (some ""), Node.text "b" (some "2")] := by
    constructor
    case texts =>
      intro child
      constructor
      · intro member
        rcases List.mem_pair.mp member with rfl | rfl
        · exact ⟨"a", "", .tail _ (.tail _ (.head _)), rfl⟩
        · exact ⟨"b", "2", .head _, rfl⟩
      · rintro ⟨name, text, member, rfl⟩
        rcases member with _ | ⟨_, _ | ⟨_, _ | ⟨_, ⟨⟩⟩⟩⟩
        · exact .tail _ (.head _)
        · exact .head _
    case ordered => exact List.pairwise_pair.mpr (by decide)
  exact ⟨rfl, isOpen, node, announced, same ▸ announcedToo,
    told.unique expected (List.Perm.refl _)⟩

/-- Where the log file is a folder, a session without a report is not started, whatever it is
told, and announces nothing. -/
theorem start_unannounced :
    let monitor := new { logFile := some "." } none none {}
    let context : Table Value := ⟨[("b", .text "2"), ("n", .int 1), ("a", .text "")], by decide⟩
    monitor.session.settings.disabled = false ∧ monitor.report? = none ∧
      (∃ error, (monitor.start "now" context).2 = .error (.logFile error)) ∧
      ∀ node, ¬ monitor.Announces "now" context node := by
  intro monitor context
  have failed : ∃ error, (monitor.start "now" context).2 = .error (.logFile error) := ⟨_, rfl⟩
  refine ⟨rfl, rfl, failed, ?_⟩
  obtain ⟨error, outcome⟩ := failed
  intro node announced
  rw [announced.done] at outcome
  cases outcome

end Monitor

end BuildChronicle
