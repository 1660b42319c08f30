import Instrumentation.Xml.Scan
import Instrumentation.Xml.Content
/-
  From tokens to a tree

  `Document.read` parses a document under a limit on its nodes. Tokens are taken
  one by one: names get their namespaces, end tags have to match, runs of text
  that touch become one node, and each new node counts against the limit, the
  root of the document included. If the tokens stop with an error, that error
  comes after all that is wrong with the tokens before it.
-/

namespace Instrumentation.Xml

/-- The namespaces in force at a place, the innermost declarations first. -/
abbrev Scope := List Declaration

namespace Scope

/-- The namespace of a prefix; a prefix has to be declared, but the empty one
stands for no namespace unless it is. -/
def resolve (scope : Scope) (label : String) (position : Position) :
    Except ReadError (Option String) :=
  match scope.find? (·.label == label) with
  | some d => .ok (some d.uri)
  | none => if label.isEmpty then .ok none else .error (.unknownNamespace label position)

/-- The name that an attribute has. An attribute without a prefix has no
namespace, and the prefix `xml` needs no declaration. -/
def attributeName (scope : Scope) (a : TagAttribute) : Except ReadError Name :=
  let label := a.name.qualifier
  if label == "xml" then .ok ⟨a.name.localName, some xmlUri⟩
  else if label.isEmpty then .ok ⟨a.name.localName, none⟩
  else do
    let space ← scope.resolve label a.position
    return ⟨a.name.localName, space⟩

/-- The attributes of a tag, none of which may have the name of an earlier one.
`done` holds the earlier ones, the latest first. -/
def attributes (scope : Scope) (done : List Attribute) :
    List TagAttribute → Except ReadError (List Attribute)
  | [] => .ok done.reverse
  | a :: rest =>
    match scope.attributeName a with
    | .error e => .error e
    | .ok name =>
      if done.any (·.name == name) then .error (.duplicateAttribute name.localName a.position)
      else scope.attributes (⟨name, a.value⟩ :: done) rest

end Scope

/-- An element that has begun and not ended. -/
structure OpenElement where
  written : QualifiedName
  name : Name
  attributes : List Attribute
  scope : Scope
  /-- The siblings before it, the latest first. -/
  earlier : Content

/-- A tree under construction. -/
structure Growth where
  /-- How many nodes there are, the root of the document included. -/
  count : Nat
  /-- The finished nodes in the innermost open element, the latest first. -/
  nodes : Content
  /-- The open elements, the innermost first. -/
  opened : List OpenElement

namespace Growth

def start : Growth := ⟨1, .nil, []⟩

/-- The namespaces in force inside the innermost open element. -/
def scope (growth : Growth) : Scope :=
  match growth.opened with
  | [] => []
  | o :: _ => o.scope

/-- Counts one more node, if the limit allows it. -/
def count? (limit : Nat) (growth : Growth) : Except ReadError Nat :=
  if growth.count < limit then .ok (growth.count + 1) else .error .nodeLimit

/-- Puts one more node behind the finished ones. -/
def add (limit : Nat) (behind : Content → Content) (growth : Growth) :
    Except ReadError Growth := do
  let count ← growth.count? limit
  return { growth with count, nodes := behind growth.nodes }

/-- Adds text, which joins text that it touches. -/
def addText (limit : Nat) (value : String) (growth : Growth) : Except ReadError Growth :=
  match growth.nodes with
  | .text earlier nodes => .ok { growth with nodes := .text (earlier ++ value) nodes }
  | _ => growth.add limit (.text value)

/-- Begins an element, which also ends if its tag closes itself. -/
def begin (limit : Nat) (tag : StartTag) (growth : Growth) : Except ReadError Growth := do
  let scope := tag.declarations ++ growth.scope
  let attributes ← Scope.attributes scope [] tag.attributes
  let space ← Scope.resolve scope tag.name.qualifier tag.position
  let name : Name := ⟨tag.name.localName, space⟩
  if tag.selfClosing then growth.add limit (.element name attributes .nil)
  else
    let count ← growth.count? limit
    return ⟨count, .nil, ⟨tag.name, name, attributes, scope, growth.nodes⟩ :: growth.opened⟩

/-- Ends the innermost open element, which must have the name of the end tag. -/
def finish (name : QualifiedName) (position : Position) (growth : Growth) :
    Except ReadError Growth :=
  match growth.opened with
  | [] => .error (.unknownToken position)
  | o :: opened =>
    if o.written == name then
      let done := growth.nodes.reverse
      .ok ⟨growth.count, .element o.name o.attributes done o.earlier, opened⟩
    else .error (.mismatchedEnd o.written.text name.text position)

def take (limit : Nat) (growth : Growth) : Token → Except ReadError Growth
  | .start tag => growth.begin limit tag
  | .close name position => growth.finish name position
  | .text value => growth.addText limit value
  | .comment value => growth.add limit (.comment value)
  | .instruction target value => growth.add limit (.instruction target value)

def takeAll (limit : Nat) (growth : Growth) : List Token → Except ReadError Growth
  | [] => .ok growth
  | t :: rest =>
    match growth.take limit t with
    | .ok growth' => growth'.takeAll limit rest
    | .error e => .error e

/-- The finished document: an element must have begun, and all must have ended. -/
def document (growth : Growth) : Except ReadError Document :=
  match growth.opened with
  | _ :: _ => .error .unclosedRoot
  | [] =>
    if growth.nodes.holdsElement then .ok ⟨growth.nodes.reverse⟩ else .error .noRoot

end Growth

namespace Document

def ofScan (limit : Nat) (scan : Scan) : Except ReadError Document :=
  match Growth.start.takeAll limit scan.tokens, scan.fault with
  | .error e, _ => .error e
  | .ok _, some e => .error e
  | .ok growth, none => growth.document

/-- Parses a document that may have `limit` nodes at most. -/
def read (limit : Nat) (source : String) : Except ReadError Document :=
  ofScan limit (Scan.ofSource source)

end Document

end Instrumentation.Xml
