import Mathlib.Algebra.Order.Ring.Nat
import Instrumentation.Xml.Reading
/-
  The limit on the nodes of a document

  A tree under construction counts its nodes one by one and refuses the next one when
  the limit is reached. Its count is the number of nodes that it holds: the root, the
  finished nodes of the innermost open element, and for every open element itself and
  its earlier siblings.

  What is proved:
    1. `Within.take`, `Within.takeAll` — each token keeps the count equal to the
       number of nodes held, and within the limit.
    2. `nodeCount_le_of_read` — so a document that is read has no more nodes than the
       limit allows.
    3. `elementCount_lt_of_read` — and fewer elements than that, for its root is a
       node and no element.
-/

namespace Instrumentation.Xml

def Node.isElement : Node → Bool
  | element _ _ _ => true
  | root _ | text _ | comment _ | instruction _ _ => false

namespace Content

/-- How many elements a run holds, at any depth. -/
def elementCount (content : Content) : Nat := content.descendants.countP Node.isElement

theorem elementCount_le_size (content : Content) : content.elementCount ≤ content.size :=
  Nat.le_trans List.countP_le_length (Nat.le_of_eq (length_descendants content))

theorem size_reverse_go (content done : Content) :
    (reverse.go content done).size = content.size + done.size := by
  induction content generalizing done with
  | nil => simp [reverse.go, size]
  | element name attributes children next _ ih => rw [reverse.go, ih, size, size]; omega
  | text value next ih => rw [reverse.go, ih, size, size]; omega
  | comment value next ih => rw [reverse.go, ih, size, size]; omega
  | instruction target value next ih => rw [reverse.go, ih, size, size]; omega

theorem size_reverse (content : Content) : content.reverse.size = content.size := by
  rw [reverse, size_reverse_go, size, Nat.add_zero]

theorem size_pos_of_holdsElement {content : Content} (h : content.holdsElement = true) :
    0 < content.size := by
  cases content with
  | nil => cases h
  | _ => simp only [size]; omega

end Content

namespace Growth

/-- How many nodes a tree under construction holds. -/
def held (growth : Growth) : Nat :=
  1 + growth.nodes.size + (growth.opened.map fun o => 1 + o.earlier.size).sum

/-- The count of a tree under construction is right, and is within the limit if there
is any node but the root. -/
structure Within (limit : Nat) (growth : Growth) : Prop where
  counted : growth.count = growth.held
  limited : growth.count ≤ limit ∨ growth.count = 1

variable {limit count : Nat} {growth grown : Growth}

theorem Within.start (limit : Nat) : Within limit start := ⟨rfl, .inr rfl⟩

theorem count?_eq (h : growth.count? limit = .ok count) :
    count = growth.count + 1 ∧ count ≤ limit := by
  unfold count? at h
  split at h
  · next hlt =>
    obtain rfl : growth.count + 1 = count := Except.ok.inj h
    exact ⟨rfl, hlt⟩
  · cases h

/-- One more node behind the finished ones. -/
theorem Within.add {behind : Content → Content} (h : Within limit growth)
    (hbehind : (behind growth.nodes).size = 1 + growth.nodes.size)
    (hadd : growth.add limit behind = .ok grown) : Within limit grown := by
  unfold Growth.add at hadd
  cases hcount : growth.count? limit with
  | error e =>
    rw [hcount] at hadd
    cases hadd
  | ok count =>
    rw [hcount] at hadd
    obtain rfl := Except.ok.inj hadd
    obtain ⟨hnext, hlimit⟩ := count?_eq hcount
    have hcounted := h.counted
    refine ⟨?_, .inl hlimit⟩
    simp only [held] at hcounted ⊢
    rw [hnext, hbehind]
    omega

/-- Text that joins the text in front of it is no new node. -/
theorem Within.addText {value : String} (h : Within limit growth)
    (hadd : growth.addText limit value = .ok grown) : Within limit grown := by
  unfold Growth.addText at hadd
  split at hadd
  · next earlier nodes hnodes =>
    obtain rfl := Except.ok.inj hadd
    refine ⟨?_, h.limited⟩
    simpa only [held, hnodes, Content.size] using h.counted
  · exact h.add rfl hadd

theorem Within.begin {tag : StartTag} (h : Within limit growth)
    (hbegin : growth.begin limit tag = .ok grown) : Within limit grown := by
  unfold Growth.begin at hbegin
  simp only [bind, Except.bind] at hbegin
  split at hbegin
  · cases hbegin
  split at hbegin
  · cases hbegin
  split at hbegin
  · exact h.add (by simp [Content.size]) hbegin
  · split at hbegin
    · cases hbegin
    · next count hcount =>
      obtain rfl := Except.ok.inj hbegin
      obtain ⟨hnext, hlimit⟩ := count?_eq hcount
      have hcounted := h.counted
      refine ⟨?_, .inl hlimit⟩
      simp only [held, List.map_cons, List.sum_cons, Content.size] at hcounted ⊢
      omega

/-- An element that ends takes its content with it behind its earlier siblings. -/
theorem Within.finish {name : QualifiedName} {position : Position} (h : Within limit growth)
    (hfinish : growth.finish name position = .ok grown) : Within limit grown := by
  unfold Growth.finish at hfinish
  split at hfinish
  · cases hfinish
  · next o opened hopened =>
    split at hfinish
    · obtain rfl := Except.ok.inj hfinish
      have hcounted := h.counted
      refine ⟨?_, h.limited⟩
      simp only [held, hopened, List.map_cons, List.sum_cons, Content.size,
        Content.size_reverse] at hcounted ⊢
      omega
    · cases hfinish

/-- What one token preserves. -/
theorem Within.take {token : Token} (h : Within limit growth)
    (htake : growth.take limit token = .ok grown) : Within limit grown := by
  cases token with
  | start tag => exact h.begin htake
  | close name position => exact h.finish htake
  | text value => exact h.addText htake
  | comment value => exact h.add rfl htake
  | instruction target value => exact h.add rfl htake

/-- What a run of tokens preserves. -/
theorem Within.takeAll {tokens : List Token} (h : Within limit growth)
    (htake : growth.takeAll limit tokens = .ok grown) : Within limit grown := by
  induction tokens generalizing growth with
  | nil =>
    obtain rfl := Except.ok.inj htake
    exact h
  | cons token rest ih =>
    rw [Growth.takeAll] at htake
    split at htake
    · next next hnext => exact ih (h.take hnext) htake
    · cases htake

/-- A finished document holds all the nodes that were counted. -/
theorem Within.nodeCount_eq {parsed : Document} (h : Within limit growth)
    (hdocument : growth.document = .ok parsed) : parsed.nodeCount = growth.count := by
  unfold Growth.document at hdocument
  split at hdocument
  · cases hdocument
  · next hopened =>
    split at hdocument
    · obtain rfl := Except.ok.inj hdocument
      rw [h.counted, held, hopened, Document.nodeCount, Content.size_reverse]
      rfl
    · cases hdocument

/-- A finished document has the document element, so its nodes are within the limit. -/
theorem Within.document {parsed : Document} (h : Within limit growth)
    (hdocument : growth.document = .ok parsed) : parsed.nodeCount ≤ limit := by
  have hcount := h.nodeCount_eq hdocument
  unfold Growth.document at hdocument
  split at hdocument
  · cases hdocument
  · split at hdocument
    · next helement =>
      obtain rfl := Except.ok.inj hdocument
      have hpos := Content.size_pos_of_holdsElement helement
      rw [Document.nodeCount, Content.size_reverse] at hcount ⊢
      rcases h.limited with hle | hone <;> omega
    · cases hdocument

end Growth

/-- A document that is read keeps the limit. -/
theorem nodeCount_le_of_read {limit : Nat} {source : String} {document : Document}
    (h : Document.read limit source = .ok document) : document.nodeCount ≤ limit := by
  unfold Document.read Document.ofScan at h
  split at h
  · cases h
  · cases h
  · next growth hgrowth _ => exact ((Growth.Within.start limit).takeAll hgrowth).document h

/-- A document that is read has fewer elements than it may have nodes. -/
theorem elementCount_lt_of_read {limit : Nat} {source : String} {document : Document}
    (h : Document.read limit source = .ok document) :
    document.content.elementCount < limit := by
  have hnodes := nodeCount_le_of_read h
  have helements := document.content.elementCount_le_size
  rw [Document.nodeCount] at hnodes
  omega

end Instrumentation.Xml
