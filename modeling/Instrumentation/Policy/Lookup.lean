import Instrumentation.Xml.Content
import Instrumentation.Text.Blank
import Instrumentation.Text.Decimal
import Instrumentation.Policy.Vocabulary
import Instrumentation.Log
/-
  Looking things up in a document

  Everything a policy says is found through these lookups. Elements are found by
  their local names among the nodes inside a node, in document order and at any
  depth. Attributes are found by their names, but only those without a namespace,
  and an empty attribute counts as an absent one. A number that cannot be read is
  logged and does not count.
-/

namespace Instrumentation.Xml.Node

/-- The local name of an element, and no name for any other node. -/
def tag : Node → String
  | element name _ _ => name.localName
  | root _ | text _ | comment _ | instruction _ _ => ""

def attributes : Node → List Attribute
  | element _ attributes _ => attributes
  | root _ | text _ | comment _ | instruction _ _ => []

/-- Whether the node is an element with the given local name. -/
def isNamed (tag : String) : Node → Bool
  | element name _ _ => name.localName == tag
  | root _ | text _ | comment _ | instruction _ _ => false

/-- The elements with the given local name inside a node, in document order. -/
def elementsNamed (node : Node) (tag : String) : List Node :=
  node.content.descendants.filter (isNamed tag)

def firstElement? (node : Node) (tag : String) : Option Node :=
  node.content.descendants.find? (isNamed tag)

/-- The value of the attribute that has the name and no namespace. -/
def attribute? (node : Node) (name : String) : Option String :=
  (node.attributes.find? (·.name == ⟨name, none⟩)).map (·.value)

/-- The value of an attribute, unless it is empty. -/
def nonEmptyAttribute? (node : Node) (name : String) : Option String :=
  (node.attribute? name).filter (· ≠ "")

def stringAttribute (node : Node) (name default : String) : String :=
  (node.nonEmptyAttribute? name).getD default

/-- Whether a text says yes: `true` in any mix of ASCII case, and nothing else. -/
def saysTrue (value : String) : Bool :=
  value.toList.map Char.toLower == "true".toList

def boolAttribute (node : Node) (name : String) (default : Bool) : Bool :=
  match node.nonEmptyAttribute? name with
  | some value => saysTrue value
  | none => default

/-- Whether an element is switched on, as it is unless it says otherwise. -/
def isEnabled (node : Node) : Bool :=
  node.boolAttribute Policy.enabledAttribute true

/-- Whether an element is there and switched on. -/
def featureEnabled (node : Option Node) : Bool :=
  node.any isEnabled

def numberAttribute (node : Node) (name : String) (default : UInt64) : Logged UInt64 :=
  match node.nonEmptyAttribute? name with
  | none => pure default
  | some value =>
    match Text.number (Text.trim value) with
    | .ok n => pure n
    | .error e => do
      Logged.event
        { level := .warn
          origin := .tree
          message := "Invalid numeric attribute (" ++ e.message ++ "), using default " ++
            toString default.toNat
          fields := [("element", .quoted node.tag), ("attribute", .quoted name),
            ("value", .quoted value)] }
      return default

/-- The text of a node: its own, or for an element that of its first child. -/
def text? : Node → Option String
  | element _ _ (.text value _) => some value
  | text value => some value
  | comment value => some value
  | element _ _ _ | root _ | instruction _ _ => none

def numberText? (node : Node) : Logged (Option UInt64) :=
  match (node.text?.map Text.trim).filter (· ≠ "") with
  | none => pure none
  | some value =>
    match Text.number value with
    | .ok n => pure (some n)
    | .error e => do
      Logged.event
        { level := .warn
          origin := .tree
          message := "Invalid numeric content (" ++ e.message ++ ")"
          fields := [("element", .quoted node.tag), ("value", .quoted value)] }
      return none

end Instrumentation.Xml.Node
