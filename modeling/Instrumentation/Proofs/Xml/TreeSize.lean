import Instrumentation.Proofs.Xml.Prolog
import Instrumentation.Proofs.Xml.ReadSize
/-
  A tree is no longer than its document

  What a tree says, the names and values and texts of all its nodes, is paid for by the
  document that it was read from, byte by byte. Every element is also paid the three
  bytes of its brackets, two when it begins and one when it ends: so even the shortest
  element takes four.

  What is proved:
    1. `Scan.size_run` — tokens take no more than what they are read from.
    2. `Growth.room_take`, `Growth.room_takeAll` — a tree grows by no more than what each
       token takes.
    3. `room_le_of_read`, `weight_le_of_read` — so what a document says, and its
       elements, take no more than its source.
-/

namespace Instrumentation.Xml

/-! ## Steps and scans -/

namespace Step

variable {place : Place} {cur : Cursor} {step : Step}

/-- What a step reads, together with what it leaves. -/
def size : Step → Nat
  | .finish => 0
  | .token part _ next => part.size + next.size

theorem size_within {read : Except ReadError (Token × Cursor)}
    (hread : ∀ token next, read = .ok (token, next) → token.size + next.size ≤ cur.size)
    (h : within place read = .ok step) : step.size ≤ cur.size := by
  unfold within at h
  split at h
  · next token next =>
    cases h
    exact hread token next rfl
  · cases h

theorem size_begin (hc : cur.rest ≠ []) (h : begin place cur.readStartTag = .ok step) :
    step.size ≤ cur.size := by
  unfold begin at h
  split at h
  · cases h
    exact Nat.zero_le _
  · next tag next hread =>
    cases h
    exact Cursor.size_readStartTag hc hread
  · cases h

theorem size_remark? (h : remark? place cur = some (.ok step)) : step.size ≤ cur.size := by
  unfold remark? at h
  split at h
  · exact size_within (fun _ _ => Cursor.size_readComment) (Option.some.inj h)
  split at h
  · exact size_within (fun _ _ => Cursor.size_readInstruction) (Option.some.inj h)
  · cases h

theorem size_outside (h : outside place cur = .ok step) : step.size ≤ cur.size := by
  unfold outside at h
  split at h
  · next hremark =>
    subst h
    exact size_remark? hremark
  split at h
  · cases h
    exact Nat.zero_le _
  next hc =>
  have hc : cur.rest ≠ [] := by simpa using hc
  split at h
  · cases h
  split at h
  · exact size_begin hc h
  · cases h

theorem size_inside (h : inside place cur = .ok step) : step.size ≤ cur.size := by
  unfold inside at h
  split at h
  · next hremark =>
    subst h
    exact size_remark? hremark
  split at h
  · cases h
    exact Nat.zero_le _
  next hc =>
  have hc : cur.rest ≠ [] := by simpa using hc
  split at h
  · exact size_within (fun _ _ => Cursor.size_readText) h
  split at h
  · exact size_within (fun _ _ => Cursor.size_readSection) h
  split at h
  · exact size_within (fun _ _ => Cursor.size_readEndTag) h
  split at h
  · cases h
  · exact size_begin hc h

/-- What one step reads is no longer than what it reads over. -/
theorem size_read (h : read place cur = .ok step) : step.size ≤ cur.size := by
  unfold read at h
  split at h
  · exact size_inside h
  · exact Nat.le_trans (size_outside h) cur.size_skipBlanks_le

end Step

namespace Scan

theorem size_run (place : Place) (cur : Cursor) (tokens : List Token) :
    ((run place cur tokens).tokens.map Token.size).sum ≤
      (tokens.map Token.size).sum + cur.size := by
  fun_induction run place cur tokens with
  | case1 | case2 =>
    rw [List.map_reverse, List.sum_reverse]
    omega
  | case3 place cur tokens token place' next hread _ ih =>
    have hstep := Step.size_read hread
    simp only [Step.size] at hstep
    rw [List.map_cons, List.sum_cons] at ih
    omega

/-- The tokens of a document take no more than its source. -/
theorem size_ofSource (source : String) :
    ((ofSource source).tokens.map Token.size).sum ≤ source.utf8ByteSize := by
  obtain ⟨mark, hmark, -⟩ := (Cursor.ofChars source.toList).exists_byteOrderMark
  have hsource : (Cursor.ofChars source.toList).size = source.utf8ByteSize :=
    (utf8ByteSize_eq source).symm
  have hbehind := Cursor.size_of_append hmark.symm
  unfold ofSource
  split
  · next cur hcur =>
    obtain ⟨declaration, hdeclaration, -⟩ := Cursor.exists_declaration hcur
    have hfrom := Cursor.size_of_append hdeclaration.symm
    have hrun := size_run .prolog cur []
    rw [List.map_nil, List.sum_nil] at hrun
    omega
  · exact Nat.zero_le _

end Scan

/-! ## What nodes say and what they take -/

def Attribute.weight (a : Attribute) : Nat := a.name.localName.utf8ByteSize + a.value.utf8ByteSize

/-- The bytes of what a node says itself: its name and attributes, or its text. -/
def Node.weight : Node → Nat
  | root _ => 0
  | element name attributes _ =>
    name.localName.utf8ByteSize + (attributes.map Attribute.weight).sum
  | text value => value.utf8ByteSize
  | comment value => value.utf8ByteSize
  | instruction target value => target.utf8ByteSize + (value.getD "").utf8ByteSize

/-- The bytes of what all nodes of a document say. -/
def Document.weight (document : Document) : Nat := (document.nodes.map Node.weight).sum

namespace Content

/-- The least number of bytes that a run of nodes can be written in. -/
def room : Content → Nat
  | nil => 0
  | element name attributes children next =>
    3 + max 1 name.localName.utf8ByteSize + (attributes.map Attribute.weight).sum +
      children.room + next.room
  | text value next => value.utf8ByteSize + next.room
  | comment value next => value.utf8ByteSize + next.room
  | instruction target value next =>
    target.utf8ByteSize + (value.getD "").utf8ByteSize + next.room

theorem weight_le_room (content : Content) :
    (content.descendants.map Node.weight).sum ≤ content.room := by
  induction content with
  | nil => exact Nat.le_refl _
  | element name attributes children next ihc ihn =>
    rw [descendants_element, List.map_cons, List.sum_cons, List.map_append, List.sum_append,
      Node.weight, room]
    omega
  | text value next ih =>
    rw [descendants_text, List.map_cons, List.sum_cons, Node.weight, room]
    omega
  | comment value next ih =>
    rw [descendants_comment, List.map_cons, List.sum_cons, Node.weight, room]
    omega
  | instruction target value next ih =>
    rw [descendants_instruction, List.map_cons, List.sum_cons, Node.weight, room]
    omega

theorem room_reverse_go (content done : Content) :
    (reverse.go content done).room = content.room + done.room := by
  induction content generalizing done with
  | nil => rw [reverse.go, room, Nat.zero_add]
  | element name attributes children next _ ih => rw [reverse.go, ih, room, room]; omega
  | text value next ih => rw [reverse.go, ih, room, room]; omega
  | comment value next ih => rw [reverse.go, ih, room, room]; omega
  | instruction target value next ih => rw [reverse.go, ih, room, room]; omega

theorem room_reverse (content : Content) : content.reverse.room = content.room := by
  rw [reverse, room_reverse_go, room, Nat.add_zero]

theorem four_le_room {content : Content} (h : content.holdsElement = true) : 4 ≤ content.room := by
  induction content with
  | nil => cases h
  | element name attributes children next =>
    rw [room]
    omega
  | text value next ih =>
    have hnext := ih h
    rw [room]
    omega
  | comment value next ih =>
    have hnext := ih h
    rw [room]
    omega
  | instruction target value next ih =>
    have hnext := ih h
    rw [room]
    omega

end Content

/-! ## Trees under construction -/

namespace Scope

/-- The attributes of a tag keep their local names and their values. -/
theorem weight_attributes {scope : Scope} {written : List TagAttribute} :
    ∀ {done attributes : List Attribute}, scope.attributes done written = .ok attributes →
      (attributes.map Attribute.weight).sum =
        (done.map Attribute.weight).sum + (written.map TagAttribute.size).sum := by
  induction written with
  | nil =>
    intro done attributes h
    obtain rfl := Except.ok.inj h
    rw [List.map_reverse, List.sum_reverse]
    rfl
  | cons a rest ih =>
    intro done attributes h
    rw [Scope.attributes] at h
    split at h
    · cases h
    · next name hname =>
      have hlocal : (Attribute.mk name a.value).weight = a.size := by
        show name.localName.utf8ByteSize + _ = a.name.localName.utf8ByteSize + _
        unfold attributeName at hname
        simp only at hname
        split at hname
        · cases hname
          rfl
        split at hname
        · cases hname
          rfl
        · obtain ⟨space, -, hname⟩ := bind_eq_ok hname
          cases hname
          rfl
      split at h
      · cases h
      · rw [ih h, List.map_cons, List.sum_cons, List.map_cons, List.sum_cons, hlocal]
        omega

end Scope

/-- What an element that has begun has taken, with the nodes in front of it. -/
def OpenElement.room (o : OpenElement) : Nat :=
  2 + max 1 o.name.localName.utf8ByteSize + (o.attributes.map Attribute.weight).sum +
    o.earlier.room

namespace Growth

variable {limit : Nat} {growth grown : Growth}

/-- What the nodes of a tree under construction have taken. -/
def room (growth : Growth) : Nat :=
  growth.nodes.room + (growth.opened.map OpenElement.room).sum

theorem room_add {behind : Content → Content} {size : Nat}
    (hbehind : (behind growth.nodes).room ≤ size + growth.nodes.room)
    (h : growth.add limit behind = .ok grown) : grown.room ≤ growth.room + size := by
  obtain ⟨count, -, h⟩ := bind_eq_ok h
  cases h
  simp only [room]
  omega

theorem room_addText {value : String} (h : growth.addText limit value = .ok grown) :
    grown.room ≤ growth.room + value.utf8ByteSize := by
  unfold addText at h
  split at h
  · next earlier nodes hnodes =>
    cases h
    simp only [room, hnodes, Content.room, String.utf8ByteSize_append]
    omega
  · exact room_add (Nat.le_refl _) h

theorem room_begin {tag : StartTag} (h : growth.begin limit tag = .ok grown) :
    grown.room ≤ growth.room + tag.size := by
  obtain ⟨attributes, hattributes, h⟩ := bind_eq_ok h
  obtain ⟨space, -, h⟩ := bind_eq_ok h
  have hweight := Scope.weight_attributes hattributes
  rw [List.map_nil, List.sum_nil, Nat.zero_add] at hweight
  simp only at h
  split at h
  · next hself =>
    apply room_add _ h
    simp only [Content.room, StartTag.size, hself, if_true, hweight]
    omega
  · next hself =>
    obtain ⟨count, -, h⟩ := bind_eq_ok h
    cases h
    simp only [room, OpenElement.room, Content.room, StartTag.size, hself, List.map_cons,
      List.sum_cons, hweight]
    simp only [Bool.false_eq_true, if_false]
    omega

theorem room_finish {name : QualifiedName} {position : Position}
    (h : growth.finish name position = .ok grown) : grown.room ≤ growth.room + 1 := by
  unfold finish at h
  split at h
  · cases h
  · next o opened hopened =>
    split at h
    · cases h
      simp only [room, hopened, List.map_cons, List.sum_cons, OpenElement.room, Content.room,
        Content.room_reverse]
      omega
    · cases h

/-- A tree grows by no more than what a token takes. -/
theorem room_take {token : Token} (h : growth.take limit token = .ok grown) :
    grown.room ≤ growth.room + token.size := by
  cases token with
  | start tag => exact room_begin h
  | close name position => exact room_finish h
  | text value => exact room_addText h
  | comment value => exact room_add (Nat.le_refl _) h
  | instruction target value => exact room_add (Nat.le_refl _) h

theorem room_takeAll {tokens : List Token} (h : growth.takeAll limit tokens = .ok grown) :
    grown.room ≤ growth.room + (tokens.map Token.size).sum := by
  induction tokens generalizing growth with
  | nil =>
    cases h
    exact Nat.le_refl _
  | cons token rest ih =>
    rw [takeAll] at h
    split at h
    · next growth' htake =>
      have hstep := room_take htake
      have hlater := ih h
      rw [List.map_cons, List.sum_cons]
      omega
    · cases h

end Growth

/-! ## Documents -/

/-- A document that is read takes no more than its source, and it takes four bytes at
least. -/
theorem room_le_of_read {limit : Nat} {source : String} {document : Document}
    (h : Document.read limit source = .ok document) :
    4 ≤ document.content.room ∧ document.content.room ≤ source.utf8ByteSize := by
  unfold Document.read Document.ofScan at h
  split at h
  · cases h
  · cases h
  · next growth hgrowth _ =>
    have hroom := Growth.room_takeAll hgrowth
    have hscan := Scan.size_ofSource source
    unfold Growth.document at h
    split at h
    · cases h
    split at h
    · next hopened helement =>
      cases h
      have hfour := Content.four_le_room helement
      simp only [Growth.room, hopened, List.map_nil, List.sum_nil, Growth.start,
        Content.room] at hroom
      rw [Content.room_reverse]
      omega
    · cases h

/-- What all nodes of a document that is read say is no longer than its source. -/
theorem weight_le_of_read {limit : Nat} {source : String} {document : Document}
    (h : Document.read limit source = .ok document) :
    document.weight ≤ source.utf8ByteSize := by
  have hroom := (room_le_of_read h).2
  have hcontent := document.content.weight_le_room
  rw [Document.weight, Document.nodes, List.map_cons, List.sum_cons, Node.weight, Nat.zero_add]
  omega

end Instrumentation.Xml
