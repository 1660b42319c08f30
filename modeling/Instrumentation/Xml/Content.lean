/-
  The tree of a document

  `Content` is a run of sibling nodes, each element with the content inside it.
  It is one inductive type, not lists of nodes nested in nodes, so every function
  on it is plain structural recursion: into an element and on to what follows.
  Document order is the order in which that recursion meets the nodes, and
  `Content.descendants` lists them in it.
-/

namespace Instrumentation.Xml

/-- The name of an element or attribute: its local part and its namespace, if it
has one. -/
structure Name where
  localName : String
  space : Option String
  deriving DecidableEq, Repr, Inhabited

structure Attribute where
  name : Name
  value : String
  deriving DecidableEq, Repr, Inhabited

/-- A run of sibling nodes; `next` is what follows the first of them. -/
inductive Content where
  | nil
  | element (name : Name) (attributes : List Attribute) (children next : Content)
  | text (value : String) (next : Content)
  | comment (value : String) (next : Content)
  | instruction (target : String) (value : Option String) (next : Content)
  deriving DecidableEq, Repr, Inhabited

/-- A single node with all that is in it. -/
inductive Node where
  | root (children : Content)
  | element (name : Name) (attributes : List Attribute) (children : Content)
  | text (value : String)
  | comment (value : String)
  | instruction (target : String) (value : Option String)
  deriving DecidableEq, Repr, Inhabited

def Node.content : Node → Content
  | root children => children
  | element _ _ children => children
  | text _ | comment _ | instruction _ _ => .nil

namespace Content

/-- Every node of the run and inside it, in document order. -/
def descendants (content : Content) : List Node :=
  (go content []).reverse
where
  /-- Puts the nodes in front of `seen`, the latest first. -/
  go : Content → List Node → List Node
    | nil, seen => seen
    | element name attributes children next, seen =>
      go next (go children (.element name attributes children :: seen))
    | text value next, seen => go next (.text value :: seen)
    | comment value next, seen => go next (.comment value :: seen)
    | instruction target value next, seen => go next (.instruction target value :: seen)

/-- How many nodes the run holds, at any depth. -/
def size : Content → Nat
  | nil => 0
  | element _ _ children next => 1 + children.size + next.size
  | text _ next => 1 + next.size
  | comment _ next => 1 + next.size
  | instruction _ _ next => 1 + next.size

/-- The same run with its nodes in the opposite order. -/
def reverse (content : Content) : Content :=
  go content nil
where
  /-- Puts the nodes of a run in front of `done` one by one. -/
  go : Content → Content → Content
    | nil, done => done
    | element name attributes children next, done =>
      go next (element name attributes children done)
    | text value next, done => go next (text value done)
    | comment value next, done => go next (comment value done)
    | instruction target value next, done => go next (instruction target value done)

/-- Whether an element stands directly in the run. -/
def holdsElement : Content → Bool
  | nil => false
  | element _ _ _ _ => true
  | text _ next | comment _ next | instruction _ _ next => next.holdsElement

theorem descendants_go (content : Content) (seen : List Node) :
    descendants.go content seen = content.descendants.reverse ++ seen := by
  have key : ∀ (content : Content) (seen : List Node),
      descendants.go content seen = descendants.go content [] ++ seen := by
    intro content
    induction content with
    | nil => intro seen; rfl
    | element name attributes children next ihc ihn =>
      intro seen
      simp only [descendants.go]
      rw [ihn, ihc, ihn (descendants.go children _), ihc [_]]
      simp
    | text value next ih => intro seen; simp only [descendants.go]; rw [ih, ih [_]]; simp
    | comment value next ih => intro seen; simp only [descendants.go]; rw [ih, ih [_]]; simp
    | instruction target value next ih =>
      intro seen; simp only [descendants.go]; rw [ih, ih [_]]; simp
  rw [key, descendants, List.reverse_reverse]

@[simp] theorem descendants_nil : nil.descendants = [] := rfl

@[simp] theorem descendants_element (name : Name) (attributes : List Attribute)
    (children next : Content) :
    (element name attributes children next).descendants =
      .element name attributes children :: (children.descendants ++ next.descendants) := by
  rw [descendants, descendants.go, descendants_go, descendants_go]
  simp

@[simp] theorem descendants_text (value : String) (next : Content) :
    (text value next).descendants = .text value :: next.descendants := by
  rw [descendants, descendants.go, descendants_go]; simp

@[simp] theorem descendants_comment (value : String) (next : Content) :
    (comment value next).descendants = .comment value :: next.descendants := by
  rw [descendants, descendants.go, descendants_go]; simp

@[simp] theorem descendants_instruction (target : String) (value : Option String)
    (next : Content) :
    (instruction target value next).descendants =
      .instruction target value :: next.descendants := by
  rw [descendants, descendants.go, descendants_go]; simp

/-- Document order lists every node once. -/
theorem length_descendants (content : Content) : content.descendants.length = content.size := by
  induction content <;> simp_all [size] <;> omega

end Content

/-- A parsed document: the nodes directly below its root. -/
structure Document where
  content : Content
  deriving DecidableEq, Repr, Inhabited

namespace Document

/-- Every node in document order, the root first. A node's place in this list is
its number; the nodes inside a node have the numbers right behind its own. -/
def nodes (document : Document) : List Node :=
  .root document.content :: document.content.descendants

/-- How many nodes a document has, its root included. -/
def nodeCount (document : Document) : Nat :=
  1 + document.content.size

theorem length_nodes (document : Document) : document.nodes.length = document.nodeCount := by
  simp [nodes, nodeCount, Content.length_descendants, Nat.add_comm]

end Document

end Instrumentation.Xml
