import Mathlib.Algebra.Order.BigOperators.Group.List
import Mathlib.Algebra.Order.Ring.Nat
import Instrumentation.Policy.Document
import Instrumentation.Proofs.Policy.Declarations
import Instrumentation.Proofs.Policy.Likeness
import Instrumentation.Proofs.Xml.Gap
import Instrumentation.Proofs.Xml.TreeSize
/-
  Nothing in a policy is longer than its document

  No document type can stand in front of the document element, so no entity is ever
  declared, and nothing that a document says is longer than it is written. The texts of a
  policy are values of attributes, or defaults. A class whose type is a default is
  declared by an element with a name of that length, and the default level is as long as
  the shortest element.

  What is proved:
    1. `fits_scannedClasses` — no text of a class table is longer than what some node
       says.
    2. `fits_ofDocument` — so with the policy of a document.
    3. `no_expansion` — for every document that is parsed: what stands in front of its
       element, how long its tree is, and how long the texts of its policy are.
-/

namespace Instrumentation.Policy

open Xml (Content Document HasDoctype HasElement IsDeclaration Node)

/-! ## Texts that fit -/

/-- No text of a rule has more bytes. -/
structure ClassRule.Fits (size : Nat) (rule : ClassRule) : Prop where
  typeTag : rule.typeTag.utf8ByteSize ≤ size
  keys : ∀ e ∈ rule.methods.entries,
    e.1.name.utf8ByteSize ≤ size ∧ e.1.signature.utf8ByteSize ≤ size
  rules : ∀ e ∈ rule.methods.entries,
    e.2.name.utf8ByteSize ≤ size ∧ e.2.signature.utf8ByteSize ≤ size

/-- No class name of a table and no text of its rules has more bytes. -/
structure Table.Fits (size : Nat) (classes : Table String ClassRule) : Prop where
  names : ∀ e ∈ classes.entries, e.1.utf8ByteSize ≤ size
  rules : ∀ e ∈ classes.entries, e.2.Fits size

variable {size : Nat} {node : Node}

theorem utf8ByteSize_attribute?_le {name value : String} (hnode : node.weight ≤ size)
    (h : node.attribute? name = some value) : value.utf8ByteSize ≤ size := by
  obtain ⟨a, ha, rfl⟩ := Option.map_eq_some_iff.1 h
  have hmem : a ∈ node.attributes := List.mem_of_find?_eq_some ha
  cases node with
  | element name attributes children =>
    have hsum : a.weight ≤ (attributes.map Xml.Attribute.weight).sum :=
      List.le_sum_of_mem (List.mem_map_of_mem hmem)
    rw [Node.weight] at hnode
    rw [Xml.Attribute.weight] at hsum
    omega
  | root children => cases hmem
  | text value => cases hmem
  | comment value => cases hmem
  | instruction target value => cases hmem

theorem utf8ByteSize_nonEmptyAttribute?_le {name value : String} (hnode : node.weight ≤ size)
    (h : node.nonEmptyAttribute? name = some value) : value.utf8ByteSize ≤ size :=
  utf8ByteSize_attribute?_le hnode (Option.filter_eq_some_iff.1 h).1

theorem utf8ByteSize_getD_le {text? : Option String} {default : String}
    (htext : ∀ text, text? = some text → text.utf8ByteSize ≤ size)
    (hdefault : default.utf8ByteSize ≤ size) : (text?.getD default).utf8ByteSize ≤ size := by
  cases text? with
  | none => exact hdefault
  | some text => exact htext text rfl

/-- The name of an element is a part of what it says. -/
theorem utf8ByteSize_le_of_isNamed {tag : String} (hnode : node.weight ≤ size)
    (h : node.isNamed tag = true) : tag.utf8ByteSize ≤ size := by
  cases node with
  | element name attributes children =>
    obtain rfl : name.localName = tag := by simpa [Node.isNamed] using h
    rw [Node.weight] at hnode
    omega
  | root children => cases h
  | text value => cases h
  | comment value => cases h
  | instruction target value => cases h

/-! ## The class table -/

theorem mem_named {nodes : List Node} {d : String × Node} (h : d ∈ named nodes) :
    d.2 ∈ nodes ∧ d.2.nonEmptyAttribute? nameAttribute = some d.1 := by
  obtain ⟨node, hnode, h⟩ := List.mem_filterMap.1 h
  split at h
  · obtain ⟨name, hname, rfl⟩ := Option.map_eq_some_iff.1 h
    exact ⟨hnode, hname⟩
  · cases h

/-- Every node inside a node fits. -/
def Contains (size : Nat) (node : Node) : Prop :=
  ∀ inner ∈ node.content.descendants, inner.weight ≤ size

theorem Contains.of_mem {block : Node} (h : Contains size block)
    (hnode : node ∈ block.content.descendants) : node.weight ≤ size ∧ Contains size node := by
  refine ⟨h node hnode, ?_⟩
  intro inner hinner
  exact h inner ((Content.descendants_content_sublist hnode).subset hinner)

theorem fits_methodDeclarations {d : MethodKey × Node} (hnode : Contains size node)
    (h : d ∈ methodDeclarations node) :
    d.1.name.utf8ByteSize ≤ size ∧ d.1.signature.utf8ByteSize ≤ size := by
  obtain ⟨⟨name, method⟩, hnamed, rfl⟩ := List.mem_map.1 h
  obtain ⟨hmem, hname⟩ := mem_named hnamed
  have hmethod := hnode method (List.mem_filter.1 hmem).1
  refine ⟨utf8ByteSize_nonEmptyAttribute?_le hmethod hname, ?_⟩
  apply utf8ByteSize_getD_le
  · intro signature hsignature
    exact utf8ByteSize_attribute?_le hmethod hsignature
  · exact Nat.zero_le _

/-- The default type of a class is no longer than the name of its element. -/
theorem typeTag_le (hnode : node.weight ≤ size) (hclass : node.isNamed classTag = true) :
    ((node.nonEmptyAttribute? typeAttribute).getD otherType).utf8ByteSize ≤ size := by
  apply utf8ByteSize_getD_le
  · intro value hvalue
    exact utf8ByteSize_nonEmptyAttribute?_le hnode hvalue
  · have htag := utf8ByteSize_le_of_isNamed hnode hclass
    have hlength : otherType.utf8ByteSize = classTag.utf8ByteSize := by decide
    omega

theorem fits_scannedRule {declared : List (String × Node)} (className : String) {first : Node}
    (hdeclared : ∀ d ∈ declared, Contains size d.2) (hfirst : first.weight ≤ size)
    (hclass : first.isNamed classTag = true) : (scannedRule declared className first).Fits size := by
  have hmethods : ∀ d ∈ methodsOf declared className,
      d.1.name.utf8ByteSize ≤ size ∧ d.1.signature.utf8ByteSize ≤ size := by
    intro d hd
    obtain ⟨c, hc, hd⟩ := List.mem_flatMap.1 hd
    exact fits_methodDeclarations (hdeclared c (List.mem_filter.1 hc).1) hd
  refine ⟨typeTag_le hfirst hclass, ?_, ?_⟩
  · intro e he
    obtain ⟨d, hd, rfl⟩ := List.mem_map.1 (Table.mem_of_mem_ofFirsts he)
    exact hmethods d hd
  · intro e he
    obtain ⟨d, hd, rfl⟩ := List.mem_map.1 (Table.mem_of_mem_ofFirsts he)
    exact hmethods d hd

theorem fits_scannedClasses {block : Node} (hblock : Contains size block) :
    (scannedClasses block).Fits size := by
  have hdeclared : ∀ d ∈ classDeclarations block,
      d.2.weight ≤ size ∧ Contains size d.2 ∧ d.2.isNamed classTag = true ∧
        d.1.utf8ByteSize ≤ size := by
    intro d hd
    obtain ⟨hmem, hname⟩ := mem_named hd
    obtain ⟨hinside, hclass⟩ := List.mem_filter.1 hmem
    obtain ⟨hnode, hcontains⟩ := hblock.of_mem hinside
    exact ⟨hnode, hcontains, hclass, utf8ByteSize_nonEmptyAttribute?_le hnode hname⟩
  refine ⟨?_, ?_⟩
  · intro e he
    obtain ⟨d, hd, rfl⟩ := List.mem_map.1 (Table.mem_of_mem_ofFirsts he)
    exact (hdeclared d hd).2.2.2
  · intro e he
    obtain ⟨d, hd, rfl⟩ := List.mem_map.1 (Table.mem_of_mem_ofFirsts he)
    obtain ⟨hnode, -, hclass, -⟩ := hdeclared d hd
    exact fits_scannedRule d.1 (fun c hc => (hdeclared c hc).2.1) hnode hclass

/-! ## The policy of a document -/

/-- No text of a policy has more bytes: no name of a class, type of a class, name or
signature of a method, nor the level of log capture. -/
structure Fits (size : Nat) (policy : Policy) : Prop where
  classes : policy.classes.Fits size
  level : policy.builtIns.logging.thresholdLevel.utf8ByteSize ≤ size

theorem level_le {block : Node} (hblock : Contains size block)
    (hdefault : defaultLoggingLevel.utf8ByteSize ≤ size) :
    (featuresOf block).value.logging.thresholdLevel.utf8ByteSize ≤ size := by
  rw [value_featuresOf]
  apply utf8ByteSize_getD_le _ hdefault
  intro level hlevel
  obtain ⟨element, helement, rfl⟩ := Option.map_eq_some_iff.1 hlevel
  have hnode := hblock element (List.mem_of_find?_eq_some helement)
  apply utf8ByteSize_getD_le _ hdefault
  intro value hvalue
  exact utf8ByteSize_nonEmptyAttribute?_le hnode hvalue

/-- A policy fits where every node of its document and the default level do. -/
theorem fits_ofDocument {document : Document}
    (hnodes : Contains size (.root document.content))
    (hdefault : defaultLoggingLevel.utf8ByteSize ≤ size) :
    (ofDocument document).value.Fits size := by
  have hblock : ∀ block, declarations? document = some block → Contains size block := by
    intro block hblock
    obtain ⟨agent, hagent, hblock⟩ := Option.bind_eq_some_iff.1 hblock
    have hinside := (hnodes.of_mem (List.mem_of_find?_eq_some hagent)).2
    exact (hinside.of_mem (List.mem_of_find?_eq_some hblock)).2
  refine ⟨?_, ?_⟩
  · rw [value_ofDocument]
    cases hdeclarations : declarations? document with
    | none => exact ⟨nofun, nofun⟩
    | some block =>
      have hclasses : (ofDeclarations block).value.classes = scannedClasses block :=
        resolveClasses_eq_scan block
      simp only [hclasses]
      exact fits_scannedClasses (hblock block hdeclarations)
  · rw [builtIns_ofDocument]
    cases hfeatures : featureBlock? document with
    | none => exact hdefault
    | some features =>
      have hfound := (Option.filter_eq_some_iff.1 hfeatures).1
      obtain ⟨block, hdeclarations, hfirst⟩ := Option.bind_eq_some_iff.1 hfound
      have hinside := (hblock block hdeclarations).of_mem (List.mem_of_find?_eq_some hfirst)
      exact level_le hinside.2 hdefault

/-- A text that is parsed has no document type in front of its element. What the nodes of
its tree say is together no longer than the text, and neither is any text of the policy
that the tree declares. -/
theorem no_expansion {document : SourceDocument} {tree : Document}
    (h : document.parse = .ok (some tree)) :
    ∃ source policy, document.source = some source ∧ document.policy.value = .ok policy ∧
      (∃ mark declaration rest, source.toList = mark ++ declaration ++ rest ∧
        (mark = [] ∨ mark = ['\uFEFF']) ∧ IsDeclaration declaration ∧ HasElement rest ∧
        ¬ HasDoctype rest) ∧
      tree.weight ≤ source.utf8ByteSize ∧
      policy.Fits source.utf8ByteSize := by
  have hpolicy : document.policy.value = .ok (ofDocument tree).value := by
    rw [SourceDocument.policy, h]
    rfl
  obtain ⟨source, hsource, hread⟩ : ∃ source, document.source = some source ∧
      Xml.Document.read document.limits.maxNodes.toNat source = .ok tree := by
    unfold SourceDocument.parse at h
    split at h
    · cases h
    · next source hsource =>
      split at h
      · next hread =>
        cases h
        exact ⟨source, hsource, hread⟩
      · cases h
  refine ⟨source, (ofDocument tree).value, hsource, hpolicy, Xml.prolog_of_read hread,
    Xml.weight_le_of_read hread, ?_⟩
  have hweight := Xml.weight_le_of_read hread
  have hroom := Xml.room_le_of_read hread
  apply fits_ofDocument
  · intro node hnode
    have hsum : node.weight ≤ tree.weight :=
      List.le_sum_of_mem (List.mem_map_of_mem (List.mem_cons_of_mem _ hnode))
    omega
  · have hlength : defaultLoggingLevel.utf8ByteSize = 4 := by decide
    omega

/-- A document with a mark of a document type in a comment, with references in attributes
and in text, and with what looks like one in a section without references. -/
def referring : SourceDocument :=
  .ofSource <|
    "<?xml version='1.0'?>\n<!-- <!DOCTYPE a> --><ApplicationInsightsAgent><Instrumentation>" ++
      "<Class name='a&lt;&#x1F600;'><Method name='m' signature='\t'/></Class>" ++
      "&gt;<![CDATA[&b;]]></Instrumentation></ApplicationInsightsAgent>"

def referringTree : Document :=
  ⟨.comment " <!DOCTYPE a> " <|
    .element ⟨agentTag, none⟩ [] (.element ⟨instrumentationTag, none⟩ []
      (.element ⟨classTag, none⟩ [⟨⟨nameAttribute, none⟩, "a<😀"⟩]
        (.element ⟨methodTag, none⟩
          [⟨⟨nameAttribute, none⟩, "m"⟩, ⟨⟨signatureAttribute, none⟩, " "⟩] .nil .nil)
        (.text ">&b;" .nil)) .nil) .nil⟩

/-- What it says takes 93 of its 219 bytes. -/
theorem no_expansion_of_referring :
    referring.parse = .ok (some referringTree) ∧ referringTree.weight = 93 ∧
    ∃ source policy, referring.source = some source ∧ referring.policy.value = .ok policy ∧
      (∃ mark declaration rest, source.toList = mark ++ declaration ++ rest ∧
        (mark = [] ∨ mark = ['\uFEFF']) ∧ IsDeclaration declaration ∧ HasElement rest ∧
        ¬ HasDoctype rest) ∧
      referringTree.weight ≤ source.utf8ByteSize ∧
      policy.Fits source.utf8ByteSize := by
  have hparse : referring.parse = .ok (some referringTree) := by decide +kernel
  exact ⟨hparse, by decide +kernel, no_expansion hparse⟩

end Instrumentation.Policy
