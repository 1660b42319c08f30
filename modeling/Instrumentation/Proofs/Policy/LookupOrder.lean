import Mathlib.Data.List.Lex
import Mathlib.Data.List.Sort
import Instrumentation.Policy.Lookup
import Instrumentation.Proofs.Xml.Addresses
/-
  Lookups and the nesting of a tree

  Whatever resolves a document looks elements up by their names in one walk over all that
  is inside a node. Which elements it should find is said here by the nesting of the tree
  alone: the addresses below that of the node at which an element with the name stands.

  What is proved:
    1. `elementAddresses_eq` — the walk goes through these addresses, in their order.
    2. `elementAddresses_infix` — the addresses inside an inner node stand together among
       those inside the outer one.
    3. `lookups_follow_document_order` — so a lookup finds the elements at these addresses
       in document order, each as often as there are addresses for it, and the first of them.
-/

namespace Instrumentation.Policy

open Xml (Document Node Address)

/-- Whether an address lies inside another, and is not that address itself. -/
def LiesInside (outer inner : Address) : Prop := outer <+: inner ∧ inner ≠ outer

instance (outer inner : Address) : Decidable (LiesInside outer inner) :=
  inferInstanceAs (Decidable (_ ∧ _))

/-- Whether an element with a local name stands at an address, in whatever namespace. -/
def StandsAt (document : Document) (tag : String) (address : Address) : Prop :=
  ∃ name attributes children,
    document.at? address = some (.element name attributes children) ∧ name.localName = tag

/-- The addresses inside an address at which an element with a local name stands, in document
order. -/
def elementAddresses (document : Document) (outer : Address) (tag : String) : List Address :=
  document.addresses.filter fun address =>
    LiesInside outer address ∧ (document.at? address).any (Node.isNamed tag)

/-! ## Addresses inside an address -/

theorem liesInside_iff {outer inner : Address} :
    LiesInside outer inner ↔ ∃ way, way ≠ [] ∧ inner = outer ++ way := by
  constructor
  · rintro ⟨⟨way, rfl⟩, hne⟩
    exact ⟨way, fun hway => hne (by rw [hway, List.append_nil]), rfl⟩
  · rintro ⟨way, hway, rfl⟩
    exact ⟨List.prefix_append _ _, fun h => hway (List.append_right_eq_self.1 h)⟩

/-! ## The addresses of the elements that are found -/

variable {document : Document} {tag : String} {outer inner : Address} {node : Node}

theorem isNamed_iff :
    node.isNamed tag = true ↔
      ∃ name attributes children, node = .element name attributes children ∧
        name.localName = tag := by
  cases node <;> simp [Node.isNamed]

theorem standsAt_iff :
    StandsAt document tag outer ↔
      ∃ node, document.at? outer = some node ∧ node.isNamed tag = true := by
  constructor
  · rintro ⟨name, attributes, children, hat, hname⟩
    exact ⟨_, hat, isNamed_iff.2 ⟨name, attributes, children, rfl, hname⟩⟩
  · rintro ⟨node, hat, hnamed⟩
    obtain ⟨name, attributes, children, rfl, hname⟩ := isNamed_iff.1 hnamed
    exact ⟨name, attributes, children, hat, hname⟩

theorem mem_elementAddresses :
    inner ∈ elementAddresses document outer tag ↔
      LiesInside outer inner ∧ StandsAt document tag inner := by
  rw [elementAddresses, List.mem_filter, Document.mem_addresses, standsAt_iff]
  cases document.at? inner <;> simp

theorem ascending_elementAddresses (document : Document) (outer : Address) (tag : String) :
    (elementAddresses document outer tag).Pairwise (· < ·) :=
  (Document.ascending_addresses document).filter _

theorem at?_append_of_at? (h : document.at? outer = some node) (way : Address) :
    document.at? (outer ++ way) = node.at? way := by
  rw [Document.at?, Node.at?_append, ← Document.at?, h, Option.bind_some]

/-- The addresses of the elements with a name inside a node are those of the walk over it. -/
theorem elementAddresses_eq (h : document.at? outer = some node) (tag : String) :
    elementAddresses document outer tag =
      (node.addressed.filter (·.2.isNamed tag)).map (outer ++ ·.1) := by
  -- Both lists ascend, so they are one if the same addresses are in them.
  refine (ascending_elementAddresses document outer tag).eq_of_mem_iff ?_ fun address => ?_
  · exact ((Node.ascending_addressed node).filter _).map _ fun _ _ hlt =>
      List.Lex.append_left _ hlt outer
  · rw [mem_elementAddresses, liesInside_iff, standsAt_iff]
    constructor
    · rintro ⟨⟨way, hway, rfl⟩, found, hfound, hnamed⟩
      rw [at?_append_of_at? h] at hfound
      have haddressed := Node.mem_addressed.2 ⟨hway, hfound⟩
      exact List.mem_map.2 ⟨(way, found), List.mem_filter.2 ⟨haddressed, hnamed⟩, rfl⟩
    · intro haddress
      obtain ⟨⟨way, found⟩, hfound, rfl⟩ := List.mem_map.1 haddress
      obtain ⟨haddressed, hnamed⟩ := List.mem_filter.1 hfound
      obtain ⟨hway, hat⟩ := Node.mem_addressed.1 haddressed
      exact ⟨⟨way, hway, rfl⟩, found, by rw [at?_append_of_at? h, hat], hnamed⟩

/-- A lookup finds the nodes at these addresses, in the order of the addresses. -/
theorem map_at?_elementAddresses (h : document.at? outer = some node) (tag : String) :
    (elementAddresses document outer tag).map document.at? = (node.elementsNamed tag).map some := by
  have hat : ∀ d ∈ node.addressed.filter (·.2.isNamed tag),
      document.at? (outer ++ d.1) = some d.2 := by
    rintro ⟨way, found⟩ hfound
    rw [at?_append_of_at? h]
    exact (Node.mem_addressed.1 (List.mem_filter.1 hfound).1).2
  calc (elementAddresses document outer tag).map document.at?
      = (node.addressed.filter (·.2.isNamed tag)).map (some ∘ (·.2)) := by
        rw [elementAddresses_eq h, List.map_map]
        exact List.map_congr_left hat
    _ = ((node.addressed.map (·.2)).filter (Node.isNamed tag)).map some := by
        rw [← List.map_map, List.filter_map]
        rfl
    _ = (node.elementsNamed tag).map some := by
        rw [Node.map_snd_addressed, Node.elementsNamed]

/-- The addresses inside an inner address stand together among those inside an outer one. -/
theorem elementAddresses_infix {found : Node} (houter : document.at? outer = some node)
    (hinner : document.at? inner = some found) (h : outer <+: inner) (tag : String) :
    elementAddresses document inner tag <:+: elementAddresses document outer tag := by
  obtain ⟨way, rfl⟩ := h
  rw [elementAddresses_eq hinner, elementAddresses_eq houter]
  rw [at?_append_of_at? houter] at hinner
  have hinfix := ((Node.addressed_infix hinner).filter (·.2.isNamed tag)).map (outer ++ ·.1)
  rw [List.filter_map, List.map_map] at hinfix
  have hfound : (found.addressed.filter (·.2.isNamed tag)).map (outer ++ way ++ ·.1) =
      (found.addressed.filter (·.2.isNamed tag)).map
        ((outer ++ ·.1) ∘ Prod.map (way ++ ·) (id : Node → Node)) :=
    List.map_congr_left fun d _ => List.append_assoc outer way d.1
  rw [hfound]
  exact hinfix

/-! ## What a lookup finds -/

/-- In a node, which stands at `outer`, the elements with a local name are found as the
nesting of the document says. -/
structure FindsInOrder (document : Document) (tag : String) (outer : Address) (node : Node) :
    Prop where
  elements : (node.elementsNamed tag).map some =
    (elementAddresses document outer tag).map document.at?
  /-- The addresses of the elements are in document order, so none of them occurs twice. -/
  ascending : (elementAddresses document outer tag).Pairwise (· < ·)
  /-- They are all addresses inside the node at which such an element stands. -/
  exactly (address : Address) : address ∈ elementAddresses document outer tag ↔
    LiesInside outer address ∧ StandsAt document tag address
  first : node.firstElement? tag = (node.elementsNamed tag).head?
  /-- What is found in a node inside the node stands together in what is found in it. -/
  together {inner : Address} {found : Node} :
    document.at? inner = some found → outer <+: inner →
      elementAddresses document inner tag <:+: elementAddresses document outer tag ∧
      found.elementsNamed tag <:+: node.elementsNamed tag

/-- The addresses of a document in ascending order are those of its nodes in document order.
Whatever node stands at an address, and whatever the name, the elements with the name that
are found in the node are those at the addresses inside its own, in document order. -/
theorem lookups_follow_document_order (document : Document) :
    document.addresses.Pairwise (· < ·) ∧
    document.nodes.map some = document.addresses.map document.at? ∧
    ∀ (tag : String) (outer : Address) (node : Node), document.at? outer = some node →
      FindsInOrder document tag outer node := by
  refine ⟨Document.ascending_addresses document, (Document.map_at?_addresses document).symm, ?_⟩
  intro tag outer node houter
  refine
    { elements := (map_at?_elementAddresses houter tag).symm
      ascending := ascending_elementAddresses document outer tag
      exactly := fun _ => mem_elementAddresses
      first := List.head?_filter.symm
      together := fun {inner found} hinner hinside => ?_ }
  -- What is found are the nodes at the addresses, so it stands together as they do.
  have haddresses := elementAddresses_infix houter hinner hinside tag
  have helements := (haddresses.map document.at?).filterMap id
  rw [map_at?_elementAddresses hinner, map_at?_elementAddresses houter, List.filterMap_map,
    List.filterMap_map] at helements
  exact ⟨haddresses, by simpa using helements⟩

/-- A document with a method and a note, and in the note behind a text a method that holds
another: `<Class><Method/><Note>x<Method><Method/></Method></Note></Class>`. -/
def methodInMethod : Document :=
  let inner := Xml.Content.element ⟨methodTag, none⟩ [] .nil .nil
  let note := Xml.Content.text "x" (.element ⟨methodTag, none⟩ [] inner .nil)
  ⟨.element ⟨classTag, none⟩ []
    (.element ⟨methodTag, none⟩ [] .nil (.element ⟨"Note", none⟩ [] note .nil)) .nil⟩

theorem lookups_follow_document_order_of_nested :
    elementAddresses methodInMethod [0] methodTag = [[0, 0], [0, 1, 1], [0, 1, 1, 0]] ∧
    elementAddresses methodInMethod [0, 1, 1] methodTag = [[0, 1, 1, 0]] ∧
    ∃ node, methodInMethod.at? [0] = some node ∧
      FindsInOrder methodInMethod methodTag [0] node := by
  refine ⟨by decide, by decide, _, rfl, ?_⟩
  exact (lookups_follow_document_order methodInMethod).2.2 methodTag [0] _ rfl

end Instrumentation.Policy
