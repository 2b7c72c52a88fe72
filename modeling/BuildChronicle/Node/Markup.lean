import BuildChronicle.Node

/-!
# Markup of a node

A node is written as an XML element: attributes in order, then the text value, then the
children. An element with neither text nor children is written as one empty-element tag.
Text escapes the two angle brackets and the ampersand; attribute values escape the double
quote, tab, line feed and carriage return as well. Names are written as they are.

A name may carry a namespace in braces in front of it. Such names are written with a short
name for their namespace, and the outermost element declares every short name. Some
namespaces have short names of their own; the others are numbered in the order in which
they first appear, the name of an element before the names of its attributes and both
before the children. The namespace of XML itself needs no declaration.
-/

namespace BuildChronicle.Node

/-- A name that has no markup: it opens the braces of a namespace and never closes them. -/
inductive MarkupError where
  | unclosedNamespace
deriving DecidableEq

/-- What is said about a name that has no markup. -/
def MarkupError.message : MarkupError → String
  | unclosedNamespace => "not enough values to unpack (expected 2, got 1)"

/-- A name taken apart into its namespace, if it has one, and the name within it. -/
inductive NameForm where
  | plain (name : List Char)
  | within (namespaceName localName : List Char)
deriving DecidableEq

/-- Take a name apart. The namespace ends at the last closing brace. -/
def NameForm.of : List Char → Except MarkupError NameForm
  | [] => .ok (.plain [])
  | c :: rest =>
    if c = '\x7b' then
      match rest.reverse.span (· != '\x7d') with
      | (_, []) => .error .unclosedNamespace
      | (localName, _ :: namespaceName) => .ok (.within namespaceName.reverse localName.reverse)
    else .ok (.plain (c :: rest))

/-- The short name of the namespace that is never declared. -/
def undeclared : String := "xml"

/-- The scheme that the names of the well-known namespaces share. -/
def scheme : String := "http:"

/-- Namespaces with a short name of their own. -/
def wellKnown : List (String × String) := [
  (scheme ++ "//www.w3.org/XML/1998/namespace", undeclared),
  (scheme ++ "//www.w3.org/1999/xhtml", "html"),
  (scheme ++ "//www.w3.org/1999/02/22-rdf-syntax-ns#", "rdf"),
  (scheme ++ "//schemas.xmlsoap.org/wsdl/", "wsdl"),
  (scheme ++ "//www.w3.org/2001/XMLSchema", "xs"),
  (scheme ++ "//www.w3.org/2001/XMLSchema-instance", "xsi"),
  (scheme ++ "//purl.org/dc/elements/1.1/", "dc")]

/-- The short names of the namespaces met so far, in order of appearance. -/
abbrev ShortNames := Table String

/-- The short name of a namespace that has not been met before. -/
def ShortNames.next (known : ShortNames) (namespaceName : String) : String :=
  (wellKnown.lookup namespaceName).getD ("ns" ++ toString known.entries.length)

/-- Meet a name. -/
def ShortNames.meet (known : ShortNames) (name : String) : Except MarkupError ShortNames := do
  match ← NameForm.of name.toList with
  | .plain _ => return known
  | .within namespaceName _ =>
    let namespaceName := String.ofList namespaceName
    if known.contains namespaceName then return known
    else
      let short := known.next namespaceName
      return if short = undeclared then known else known.set namespaceName short

/-- The name as it is written, with the short name of its namespace. -/
def ShortNames.spell (known : ShortNames) (name : String) : List Char :=
  match NameForm.of name.toList with
  | .ok (.within namespaceName localName) =>
    let namespaceName := String.ofList namespaceName
    ((known.get? namespaceName).getD (known.next namespaceName)).toList ++ ':' :: localName
  | _ => name.toList

mutual

/-- The names of a tree in the order in which they appear. -/
def namesWithin : Node → List String
  | mk name _ attributes children => name :: attributes.names ++ namesWithinAll children

/-- The names of several trees in the order in which they appear. -/
def namesWithinAll : List Node → List String
  | [] => []
  | node :: rest => namesWithin node ++ namesWithinAll rest

end

/-- A character of a text value. -/
def escapeText (c : Char) : List Char :=
  if c = '&' then ['&', 'a', 'm', 'p', ';']
  else if c = '<' then ['&', 'l', 't', ';']
  else if c = '>' then ['&', 'g', 't', ';']
  else [c]

/-- A character of an attribute value. -/
def escapeAttribute (c : Char) : List Char :=
  if c = '\x22' then ['&', 'q', 'u', 'o', 't', ';']
  else if c = '\r' then ['&', '#', '1', '3', ';']
  else if c = '\n' then ['&', '#', '1', '0', ';']
  else if c = '\t' then ['&', '#', '0', '9', ';']
  else escapeText c

/-- An attribute, after a blank. -/
def attributeMarkup (name : List Char) (value : String) : List Char :=
  ' ' :: name ++ '=' :: '\x22' :: value.toList.flatMap escapeAttribute ++ ['\x22']

/-- The declarations of all short names, in their order. -/
def ShortNames.declarations (known : ShortNames) : List Char :=
  ((known.entries.map Prod.swap).mergeSort Table.byName).flatMap fun (short, namespaceName) =>
    attributeMarkup ("xmlns:" ++ short).toList namespaceName

mutual

/-- An element, its names spelled as given and the declarations in front of its attributes. -/
def element (spell : String → List Char) (declarations : List Char) : Node → List Char
  | mk name value attributes children =>
    let tag := spell name
    let written := attributes.entries.flatMap fun (key, text) => attributeMarkup (spell key) text
    let content := (value.getD "").toList.flatMap escapeText ++ elements spell children
    '<' :: tag ++ declarations ++ written ++
      if (value.getD "").isEmpty && children.isEmpty then [' ', '/', '>']
      else '>' :: content ++ '<' :: '/' :: tag ++ ['>']

/-- Elements one after the other. -/
def elements (spell : String → List Char) : List Node → List Char
  | [] => []
  | node :: rest => element spell [] node ++ elements spell rest

end

/-- The short names that the markup of a node uses. -/
def shortNames (node : Node) : Except MarkupError ShortNames :=
  (namesWithin node).foldlM ShortNames.meet Table.empty

/-- The markup of a node. -/
def markup (node : Node) : Except MarkupError String := do
  let known ← node.shortNames
  return String.ofList (element known.spell known.declarations node)

end BuildChronicle.Node
