import BuildChronicle.Table

/-!
# Report nodes

A report is a tree of nodes. A node has a name, an optional text value, attributes in order
of first mention, and children in order. Nodes are values: a copy is the node itself, and
changing one never changes another.

Two nodes have the same content if they agree in names, values and children, and in their
attributes up to order.
-/

namespace BuildChronicle

/-- A named node with attributes, ordered children and an optional text value. -/
inductive Node where
  | mk (name : String) (value : Option String) (attributes : Table String) (children : List Node)

namespace Node

/-- The name of a node. -/
def name : Node → String | mk name _ _ _ => name

/-- The text value of a node, if it has one. -/
def value : Node → Option String | mk _ value _ _ => value

/-- The attributes of a node, in order of first mention. -/
def attributes : Node → Table String | mk _ _ attributes _ => attributes

/-- The children of a node, in order. -/
def children : Node → List Node | mk _ _ _ children => children

/-- A node with a name and nothing else. -/
def leaf (name : String) : Node := mk name none Table.empty []

/-- A node with a name and perhaps a text value. -/
def text (name : String) (value : Option String) : Node := mk name value Table.empty []

instance : Inhabited Node := ⟨leaf ""⟩

/-- The node under another name. -/
def rename (node : Node) (name : String) : Node :=
  mk name node.value node.attributes node.children

/-- A copy of the node under another name; an empty name counts as none. -/
def copyAs (node : Node) : Option String → Node
  | none => node
  | some name => if name.isEmpty then node else node.rename name

/-- The node with another text value. -/
def setValue (node : Node) (value : Option String) : Node :=
  mk node.name value node.attributes node.children

/-- Write an attribute. -/
def set (node : Node) (name value : String) : Node :=
  mk node.name node.value (node.attributes.set name value) node.children

/-- Write an attribute if there is a value to write. -/
def set? (node : Node) (name : String) : Option String → Node
  | none => node
  | some value => node.set name value

/-- Append a child. -/
def add (node : Node) (child : Node) : Node :=
  mk node.name node.value node.attributes (node.children ++ [child])

/-- Append children in order. -/
def addAll (node : Node) (children : List Node) : Node :=
  mk node.name node.value node.attributes (node.children ++ children)

/-- The first child of the given name. -/
def child? (node : Node) (name : String) : Option Node :=
  node.children.find? (·.name == name)

/-- The children, only those of the given name if there is one. -/
def childrenNamed (node : Node) : Option String → List Node
  | none => node.children
  | some name => node.children.filter (·.name == name)

/-- Do two tables say the same, whatever the order of their entries? -/
def sameAttributes (left right : Table String) : Bool :=
  left.entries.length == right.entries.length &&
    left.entries.all fun entry => right.get? entry.1 == some entry.2

mutual

/-- Do two nodes have the same content? The order of attributes does not count. -/
def sameContent : Node → Node → Bool
  | mk name value attributes children, mk name' value' attributes' children' =>
    name == name' && value == value' && sameAttributes attributes attributes' &&
      sameContents children children'

/-- Do two lists of nodes have the same content, one by one? -/
def sameContents : List Node → List Node → Bool
  | [], [] => true
  | node :: rest, node' :: rest' => sameContent node node' && sameContents rest rest'
  | _, _ => false

end

@[simp] theorem name_leaf (name : String) : (leaf name).name = name := rfl

@[simp] theorem children_leaf (name : String) : (leaf name).children = [] := rfl

@[simp] theorem name_set (node : Node) (name value : String) :
    (node.set name value).name = node.name := rfl

@[simp] theorem name_set? (node : Node) (name : String) (value : Option String) :
    (node.set? name value).name = node.name := by
  cases value <;> rfl

@[simp] theorem name_addAll (node : Node) (children : List Node) :
    (node.addAll children).name = node.name := rfl

@[simp] theorem children_addAll (node : Node) (children : List Node) :
    (node.addAll children).children = node.children ++ children := rfl

@[simp] theorem attributes_addAll (node : Node) (children : List Node) :
    (node.addAll children).attributes = node.attributes := rfl

@[simp] theorem attributes_set (node : Node) (name value : String) :
    (node.set name value).attributes = node.attributes.set name value := rfl

@[simp] theorem name_add (node child : Node) : (node.add child).name = node.name := rfl

@[simp] theorem attributes_add (node child : Node) :
    (node.add child).attributes = node.attributes := rfl

@[simp] theorem children_add (node child : Node) :
    (node.add child).children = node.children ++ [child] := rfl

@[simp] theorem children_set (node : Node) (name value : String) :
    (node.set name value).children = node.children := rfl

@[simp] theorem children_set? (node : Node) (name : String) (value : Option String) :
    (node.set? name value).children = node.children := by
  cases value <;> rfl

end Node

end BuildChronicle
