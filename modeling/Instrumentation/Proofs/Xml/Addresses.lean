import Instrumentation.Xml.Content
/-
  Addresses in a document

  Nodes that look alike may stand at several addresses of one document, so what a lookup
  finds is told apart by its address: the way down to it from the root, as the number of
  the child to go to at each step. The order of a dictionary is document order on
  addresses, since an element comes before what is in it and before what follows it.

  What is proved:
    1. `at?_append` — a way down is one way down and then another.
    2. `mem_addressed`, `ascending_addressed` — `addressed` lists what is inside a node with the
       addresses, each address there is exactly once, and in document order.
    3. `addressed_infix` — what is inside an inner node is listed there without a gap.
    4. `map_at?_addresses` — so the nodes of a document in their order are those at its
       addresses in ascending order.
-/

namespace Instrumentation.Xml

/-- The way from a node down to another: the number of the child at each step. -/
abbrev Address : Type := List Nat

/-- The nodes of a run, without those inside them. -/
def Content.siblings : Content → List Node
  | nil => []
  | element name attributes children next => .element name attributes children :: next.siblings
  | text value next => .text value :: next.siblings
  | comment value next => .comment value :: next.siblings
  | instruction target value next => .instruction target value :: next.siblings

/-- The node to which a way leads down from a node. -/
def Node.at? (node : Node) : Address → Option Node
  | [] => some node
  | i :: way => node.content.siblings[i]?.bind fun child => child.at? way

def Document.at? (document : Document) (address : Address) : Option Node :=
  (Node.root document.content).at? address

/-- Every node of a run and inside it with its address, where the first of the run is
number `i` of its siblings. -/
def Content.addressedFrom (i : Nat) : Content → List (Address × Node)
  | nil => []
  | element name attributes children next =>
    ([i], .element name attributes children) ::
      ((children.addressedFrom 0).map (Prod.map (i :: ·) id) ++ next.addressedFrom (i + 1))
  | text value next => ([i], .text value) :: next.addressedFrom (i + 1)
  | comment value next => ([i], .comment value) :: next.addressedFrom (i + 1)
  | instruction target value next => ([i], .instruction target value) :: next.addressedFrom (i + 1)

/-- Every node inside a node with the way down to it, in document order. -/
def Node.addressed (node : Node) : List (Address × Node) := node.content.addressedFrom 0

def Document.addresses (document : Document) : List Address :=
  [] :: (Node.root document.content).addressed.map (·.1)

namespace Node

@[simp] theorem at?_nil (node : Node) : node.at? [] = some node := rfl

@[simp] theorem at?_cons (node : Node) (i : Nat) (way : Address) :
    node.at? (i :: way) = node.content.siblings[i]?.bind fun child => child.at? way := rfl

/-- A way down is one way down and then another. -/
theorem at?_append (node : Node) (way more : Address) :
    node.at? (way ++ more) = (node.at? way).bind fun inner => inner.at? more := by
  induction way generalizing node with
  | nil => rfl
  | cons i rest ih =>
    rw [List.cons_append, at?_cons, at?_cons]
    cases node.content.siblings[i]? with
    | none => rfl
    | some child => exact ih child

end Node

/-! ## The list of what is inside a node -/

namespace Content

theorem map_snd_addressedFrom (run : Content) (i : Nat) :
    (run.addressedFrom i).map (·.2) = run.descendants := by
  induction run generalizing i with
  | nil => rfl
  | text _ next ih | comment _ next ih | instruction _ _ next ih => simp [addressedFrom, ih]
  | element name attributes children next ihc ihn =>
    have hchildren : (children.addressedFrom 0).map (Prod.snd ∘ Prod.map (i :: ·) id) =
        children.descendants := by
      rw [← ihc 0]
      rfl
    simp [addressedFrom, ihn, hchildren]

/-- A way down into a run of siblings goes to the first of them, or on to the rest. -/
theorem exists_way_cons {first node : Node} {rest : List Node} {i : Nat} {address : Address} :
    (∃ k way, address = (i + k) :: way ∧
        ((first :: rest)[k]?.bind fun child => child.at? way) = some node) ↔
      (∃ way, address = i :: way ∧ first.at? way = some node) ∨
      ∃ k way, address = (i + 1 + k) :: way ∧
        (rest[k]?.bind fun child => child.at? way) = some node := by
  constructor
  · rintro ⟨k, way, rfl, hnode⟩
    cases k with
    | zero => exact .inl ⟨way, rfl, hnode⟩
    | succ k => exact .inr ⟨k, way, by rw [Nat.add_right_comm, Nat.add_assoc], hnode⟩
  · rintro (⟨way, rfl, hnode⟩ | ⟨k, way, rfl, hnode⟩)
    · exact ⟨0, way, rfl, hnode⟩
    · exact ⟨k + 1, way, by rw [Nat.add_right_comm, Nat.add_assoc], hnode⟩

/-- The addresses in the list are those that begin with the number of one of the siblings
and go on as a way down from it. -/
theorem mem_addressedFrom {run : Content} {i : Nat} {address : Address} {node : Node} :
    (address, node) ∈ run.addressedFrom i ↔
      ∃ k way, address = (i + k) :: way ∧
        (run.siblings[k]?.bind fun child => child.at? way) = some node := by
  induction run generalizing i address with
  | nil => simp [addressedFrom, siblings]
  | text value next ih | comment value next ih | instruction target value next ih =>
    -- There is nothing inside the first node, so no way leads further down from it.
    rw [addressedFrom, List.mem_cons, ih, siblings, exists_way_cons]
    refine or_congr_left ⟨?_, ?_⟩
    · rintro ⟨⟩
      exact ⟨[], rfl, rfl⟩
    · rintro ⟨_ | ⟨k, way⟩, rfl, hnode⟩
      · cases hnode
        rfl
      · cases hnode
  | element name attributes children next ihc ihn =>
    rw [addressedFrom, List.mem_cons, List.mem_append, ihn, siblings, exists_way_cons, ← or_assoc]
    refine or_congr_left ⟨?_, ?_⟩
    · rintro (hfirst | hinside)
      · cases hfirst
        exact ⟨[], rfl, rfl⟩
      · obtain ⟨⟨way, inner⟩, hinner, ⟨⟩⟩ := List.mem_map.1 hinside
        obtain ⟨k, way, rfl, hnode⟩ := ihc.1 hinner
        exact ⟨_, rfl, by rwa [Nat.zero_add]⟩
    · rintro ⟨_ | ⟨k, way⟩, rfl, hnode⟩
      · cases hnode
        exact .inl rfl
      · exact .inr (List.mem_map.2
          ⟨(k :: way, node), ihc.2 ⟨k, way, by rw [Nat.zero_add], hnode⟩, rfl⟩)

/-- The addresses behind a sibling have a greater number, whatever is inside the sibling. -/
theorem lt_of_mem_addressedFrom_succ {run : Content} {i : Nat} {d : Address × Node}
    (h : d ∈ run.addressedFrom (i + 1)) (way : Address) : i :: way < d.1 := by
  obtain ⟨k, more, haddress, -⟩ := mem_addressedFrom.1 h
  rw [haddress]
  exact List.cons_lt_cons_iff.2 (.inl (by omega))

/-- The list is in document order. -/
theorem ascending_addressedFrom (run : Content) (i : Nat) :
    (run.addressedFrom i).Pairwise fun a b => a.1 < b.1 := by
  induction run generalizing i with
  | nil => exact .nil
  | text value next ih | comment value next ih | instruction target value next ih =>
    exact List.pairwise_cons.2 ⟨fun d hd => lt_of_mem_addressedFrom_succ hd [], ih (i + 1)⟩
  | element name attributes children next ihc ihn =>
    have hinside : ((children.addressedFrom 0).map (Prod.map (i :: ·) id)).Pairwise
        fun a b => a.1 < b.1 :=
      (ihc 0).map _ fun a b hlt => List.cons_lt_cons_self.2 hlt
    -- The element comes before what is in it, and both come before the rest of the run.
    refine List.pairwise_cons.2 ⟨?_, List.pairwise_append.2 ⟨hinside, ihn (i + 1), ?_⟩⟩
    · intro d hd
      rcases List.mem_append.1 hd with hd | hd
      · obtain ⟨⟨way, inner⟩, hinner, rfl⟩ := List.mem_map.1 hd
        obtain ⟨k, more, rfl, -⟩ := mem_addressedFrom.1 hinner
        exact List.cons_lt_cons_self.2 (List.nil_lt_cons _ _)
      · exact lt_of_mem_addressedFrom_succ hd []
    · intro d hd other hother
      obtain ⟨⟨way, inner⟩, -, rfl⟩ := List.mem_map.1 hd
      exact lt_of_mem_addressedFrom_succ hother way

/-- What is inside a sibling is listed without a gap. -/
theorem addressedFrom_infix {run : Content} {i k : Nat} {child : Node}
    (h : run.siblings[k]? = some child) :
    child.addressed.map (Prod.map ((i + k) :: ·) id) <:+: run.addressedFrom i := by
  induction run generalizing i k with
  | nil => cases h
  | text value next ih | comment value next ih | instruction target value next ih =>
    cases k with
    | zero =>
      cases h
      exact List.nil_infix
    | succ k =>
      have hnext := @ih (i + 1) k h
      rw [Nat.add_right_comm, Nat.add_assoc] at hnext
      exact List.infix_cons hnext
  | element name attributes children next _ ihn =>
    cases k with
    | zero =>
      cases h
      exact List.infix_cons (List.prefix_append _ _).isInfix
    | succ k =>
      have hnext := @ihn (i + 1) k h
      rw [Nat.add_right_comm, Nat.add_assoc] at hnext
      exact List.infix_cons (hnext.trans (List.suffix_append _ _).isInfix)

end Content

namespace Node

variable {node inner : Node} {way : Address}

theorem map_snd_addressed (node : Node) : node.addressed.map (·.2) = node.content.descendants :=
  Content.map_snd_addressedFrom node.content 0

/-- The list holds every address inside the node, and the node that stands there. -/
theorem mem_addressed :
    (way, inner) ∈ node.addressed ↔ way ≠ [] ∧ node.at? way = some inner := by
  rw [addressed, Content.mem_addressedFrom]
  constructor
  · rintro ⟨k, rest, rfl, hinner⟩
    rw [Nat.zero_add]
    exact ⟨List.cons_ne_nil _ _, hinner⟩
  · rintro ⟨hway, hinner⟩
    cases way with
    | nil => exact absurd rfl hway
    | cons k rest => exact ⟨k, rest, by rw [Nat.zero_add], hinner⟩

theorem ascending_addressed (node : Node) : node.addressed.Pairwise fun a b => a.1 < b.1 :=
  Content.ascending_addressedFrom node.content 0

/-- What is inside an inner node is listed without a gap. -/
theorem addressed_infix (h : node.at? way = some inner) :
    inner.addressed.map (Prod.map (way ++ ·) id) <:+: node.addressed := by
  induction way generalizing node with
  | nil =>
    obtain rfl := Option.some.inj h
    have hself : node.addressed.map (Prod.map (([] : Address) ++ ·) id) = node.addressed :=
      List.map_id _
    exact ⟨[], [], by rw [hself, List.nil_append, List.append_nil]⟩
  | cons k rest ih =>
    obtain ⟨child, hchild, hinner⟩ := Option.bind_eq_some_iff.1 h
    -- The list of the child is one piece of the node's, and the rest of the way is inside it.
    have hstep := Content.addressedFrom_infix (i := 0) hchild
    rw [Nat.zero_add] at hstep
    have hdown := (ih hinner).map (Prod.map (k :: ·) (id : Node → Node))
    rw [List.map_map] at hdown
    exact hdown.trans hstep

end Node

/-! ## The addresses of a document -/

namespace Document

variable {document : Document} {address : Address}

/-- The addresses of a document are those where a node stands. -/
theorem mem_addresses : address ∈ document.addresses ↔ (document.at? address).isSome := by
  cases address with
  | nil => simp [addresses, at?]
  | cons k way =>
    simp [addresses, at?, Node.mem_addressed, Option.isSome_iff_exists]

theorem ascending_addresses (document : Document) : document.addresses.Pairwise (· < ·) := by
  refine List.pairwise_cons.2 ⟨?_, List.pairwise_map.2 (Node.ascending_addressed _)⟩
  intro address haddress
  obtain ⟨⟨way, node⟩, hnode, rfl⟩ := List.mem_map.1 haddress
  obtain ⟨hway, -⟩ := Node.mem_addressed.1 hnode
  cases way with
  | nil => exact absurd rfl hway
  | cons k rest => exact List.nil_lt_cons _ _

/-- The nodes of a document in their order are those at its addresses in theirs, so the
number of a node says which of the addresses is its own. -/
theorem map_at?_addresses (document : Document) :
    document.addresses.map document.at? = document.nodes.map some := by
  have haddressed : ((Node.root document.content).addressed.map (·.1)).map document.at? =
      (Node.root document.content).addressed.map (some ∘ (·.2)) := by
    rw [List.map_map]
    refine List.map_congr_left ?_
    rintro ⟨way, node⟩ hnode
    exact (Node.mem_addressed.1 hnode).2
  rw [addresses, nodes, List.map_cons, List.map_cons, haddressed, ← List.map_map,
    Node.map_snd_addressed]
  rfl

end Document

end Instrumentation.Xml
