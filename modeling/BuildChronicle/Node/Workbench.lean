import BuildChronicle.Node

/-!
# Nodes under construction

While a tree is being put together, the same node may be the child of several nodes, and
work on it shows wherever it hangs. A workbench keeps such shared nodes as numbered pieces;
labels name pieces, and a label may be moved to another piece. Reading a piece gives the
finished node. A piece that hangs below itself has no finished node; its reading stops
after as many levels as there are pieces, which is deeper than any other piece can reach.
-/

namespace BuildChronicle.Node

/-- A node whose children are other pieces of the workbench. -/
structure Piece where
  /-- The name of the node. -/
  name : String
  /-- The text value of the node. -/
  value : Option String
  /-- The attributes of the node. -/
  attributes : Table String
  /-- The numbers of the pieces that hang below this one, in order. -/
  children : List Nat

/-- Numbered pieces and the labels that name them. -/
structure Workbench where
  /-- The pieces; the number of a piece is its position. -/
  pieces : List Piece := []
  /-- The pieces that labels stand for. -/
  labels : Table Nat := Table.empty

namespace Workbench

instance : Inhabited Workbench := ⟨{}⟩

/-- The piece of a label. -/
def piece? (bench : Workbench) (label : String) : Option (Nat × Piece) := do
  let number ← bench.labels.get? label
  let piece ← bench.pieces[number]?
  return (number, piece)

/-- The finished node of a piece, down to the given number of levels. -/
def read (pieces : List Piece) : Nat → Nat → Option Node
  | 0, _ => none
  | levels + 1, number => do
    let piece ← pieces[number]?
    let children ← piece.children.mapM (read pieces levels)
    return Node.mk piece.name piece.value piece.attributes children

/-- The finished node of a piece. -/
def node? (bench : Workbench) (number : Nat) : Option Node :=
  read bench.pieces (bench.pieces.length + 1) number

/-- Put a piece with a name and perhaps a text value on the bench and label it. -/
def place (bench : Workbench) (label name : String) (value : Option String) : Workbench :=
  { pieces := bench.pieces ++ [⟨name, value, Table.empty, []⟩]
    labels := bench.labels.set label bench.pieces.length }

/-- Change a piece, wherever it hangs. -/
def modify (bench : Workbench) (number : Nat) (change : Piece → Piece) : Workbench :=
  { bench with pieces := bench.pieces.modify number change }

/-- Hang a piece below another one, after those that hang there already. -/
def hang (bench : Workbench) (number child : Nat) : Workbench :=
  bench.modify number fun piece => { piece with children := piece.children ++ [child] }

/-- Write an attribute of a piece if there is a value to write. -/
def setAttribute (bench : Workbench) (number : Nat) (name : String) :
    Option String → Workbench
  | none => bench
  | some value =>
    bench.modify number fun piece => { piece with attributes := piece.attributes.set name value }

/-- Give a piece another text value. -/
def setValue (bench : Workbench) (number : Nat) (value : Option String) : Workbench :=
  bench.modify number fun piece => { piece with value }

/-- Label an existing piece. -/
def relabel (bench : Workbench) (label : String) (number : Nat) : Workbench :=
  { bench with labels := bench.labels.set label number }

mutual

/-- Take a finished node apart into new pieces; gives the number of its own piece. -/
def disassemble : List Piece → Node → List Piece × Nat
  | pieces, Node.mk name value attributes children =>
    let (pieces, numbers) := disassembleAll pieces children
    (pieces ++ [⟨name, value, attributes, numbers⟩], pieces.length)

/-- Take several nodes apart into new pieces. -/
def disassembleAll : List Piece → List Node → List Piece × List Nat
  | pieces, [] => (pieces, [])
  | pieces, node :: rest =>
    let (pieces, number) := disassemble pieces node
    let (pieces, numbers) := disassembleAll pieces rest
    (pieces, number :: numbers)

end

/-- Put a copy of a finished node on the bench, sharing nothing with other pieces. -/
def placeCopy (bench : Workbench) (label : String) (node : Node) : Workbench :=
  let (pieces, number) := disassemble bench.pieces node
  { pieces, labels := bench.labels.set label number }

/-- The first piece of the given name below a piece. -/
def child? (bench : Workbench) (piece : Piece) (name : String) : Option Nat :=
  piece.children.find? fun number => (bench.pieces[number]?).any (·.name == name)

end Workbench

end BuildChronicle.Node
