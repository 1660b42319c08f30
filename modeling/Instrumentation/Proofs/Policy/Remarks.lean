import Instrumentation.Proofs.Policy.Likeness
/-
  Comments and processing instructions

  Remarks are the comments and instructions of a document. A document is stripped
  of them by taking them out and joining the text that then stands side by side. No
  lookup finds a remark, and attributes hold none, so all that is looked up is the
  same in a document and in the stripped one. The text of an element is its first
  child only, if that is text: there a remark can be felt.

  What is proved, of any two documents that are the same when stripped:
    1. `likeness_stripped` — the lookups cannot tell them apart.
    2. `policy_of_stripped` — they have the same classes and the same features, and the
       same threshold for slow queries exactly if the first texts of the elements that
       state it say the same; that is so where no remark stands in front of or inside
       such a text.
    3. `remark_hides_the_limit` — the condition in (2) is not idle: a remark in front of
       the number hides it, and one inside cuts it short.
-/

namespace Instrumentation

/-! ## Documents without remarks -/

namespace Xml

namespace Content

/-- Puts text in front of a run and joins it with text that stands there. -/
def joinText (value : String) : Content → Content
  | text more next => text (value ++ more) next
  | nil => text value nil
  | element name attributes children next => text value (element name attributes children next)
  | comment remark next => text value (comment remark next)
  | instruction target remark next => text value (instruction target remark next)

/-- The run without comments and instructions, text that becomes adjacent joined. -/
def stripped : Content → Content
  | nil => nil
  | element name attributes children next =>
    element name attributes children.stripped next.stripped
  | text value next => joinText value next.stripped
  | comment _ next => next.stripped
  | instruction _ _ next => next.stripped

/-- The text with which a run begins. -/
def leadingText? : Content → Option String
  | text value _ => some value
  | nil | element _ _ _ _ | comment _ _ | instruction _ _ _ => none

/-- Whether a run begins with text, remarks in front of it aside. -/
def textAhead : Content → Bool
  | text _ _ => true
  | comment _ next | instruction _ _ next => next.textAhead
  | nil | element _ _ _ _ => false

/-- Whether a remark stands in front of the first text of a run or goes on into more
of that text. -/
def remarkInText : Content → Bool
  | text _ next | comment _ next | instruction _ _ next => next.textAhead
  | nil | element _ _ _ _ => false

theorem filter_descendants_joinText (value tag : String) (run : Content) :
    (joinText value run).descendants.filter (Node.isNamed tag) =
      run.descendants.filter (Node.isNamed tag) := by
  cases run <;> simp [joinText, Node.isNamed]

theorem leadingText?_stripped_of_textAhead {run : Content} (h : run.textAhead = false) :
    run.stripped.leadingText? = none := by
  induction run with
  | nil => rfl
  | element name attributes children next _ _ => rfl
  | text value next _ => cases h
  | comment value next ih => exact ih h
  | instruction target value next ih => exact ih h

theorem leadingText?_joinText {value : String} {run : Content} (h : run.leadingText? = none) :
    (joinText value run).leadingText? = some value := by
  cases run with
  | text more next => cases h
  | _ => rfl

/-- Where no remark touches the first text, stripping leaves it as it is. -/
theorem leadingText?_stripped {run : Content} (h : run.remarkInText = false) :
    run.stripped.leadingText? = run.leadingText? := by
  cases run with
  | nil => rfl
  | element name attributes children next => rfl
  | text value next => exact leadingText?_joinText (leadingText?_stripped_of_textAhead h)
  | comment value next => exact leadingText?_stripped_of_textAhead h
  | instruction target value next => exact leadingText?_stripped_of_textAhead h

end Content

namespace Node

def stripped : Node → Node
  | root children => root children.stripped
  | element name attributes children => element name attributes children.stripped
  | text value => text value
  | comment value => comment value
  | instruction target value => instruction target value

theorem text?_element (name : Name) (attributes : List Attribute) (children : Content) :
    (element name attributes children).text? = children.leadingText? := by
  cases children <;> rfl

theorem isNamed_stripped (tag : String) (node : Node) :
    node.stripped.isNamed tag = node.isNamed tag := by
  cases node <;> rfl

theorem attribute?_stripped (node : Node) (name : String) :
    node.stripped.attribute? name = node.attribute? name := by
  cases node <;> rfl

end Node

/-- The elements of a stripped run are those of the run, stripped. -/
theorem Content.filter_descendants_stripped (tag : String) (run : Content) :
    run.stripped.descendants.filter (Node.isNamed tag) =
      (run.descendants.filter (Node.isNamed tag)).map Node.stripped := by
  induction run with
  | nil => rfl
  | element name attributes children next ihc ihn =>
    have hnamed : (Node.element name attributes children.stripped).isNamed tag =
        (Node.element name attributes children).isNamed tag := rfl
    simp only [stripped, descendants_element, List.filter_cons, List.filter_append, ihc, ihn,
      hnamed]
    split <;> simp [Node.stripped]
  | text value next ih => simp [stripped, filter_descendants_joinText, ih, Node.isNamed]
  | comment value next ih => simp [stripped, ih, Node.isNamed]
  | instruction target value next ih => simp [stripped, ih, Node.isNamed]

theorem Node.elementsNamed_stripped (node : Node) (tag : String) :
    node.stripped.elementsNamed tag = (node.elementsNamed tag).map Node.stripped := by
  cases node with
  | root children => exact Content.filter_descendants_stripped tag children
  | element name attributes children => exact Content.filter_descendants_stripped tag children
  | text value => rfl
  | comment value => rfl
  | instruction target value => rfl

end Xml

/-! ## Policies of stripped documents -/

namespace Policy

open Xml (Content Document Node)

/-- No lookup tells nodes apart that are the same when stripped. -/
theorem likeness_stripped : Likeness fun node other => node.stripped = other.stripped where
  named h tag := by rw [← Node.isNamed_stripped, h, Node.isNamed_stripped]
  attribute? h name _ := by rw [← Node.attribute?_stripped, h, Node.attribute?_stripped]
  elements {node other} h tag _ := by
    have hmap : (node.elementsNamed tag).map Node.stripped =
        (other.elementsNamed tag).map Node.stripped := by
      rw [← Node.elementsNamed_stripped, h, Node.elementsNamed_stripped]
    rw [← List.forall₂_eq_eq_eq, List.forall₂_map_left_iff, List.forall₂_map_right_iff] at hmap
    exact hmap

/-- Whether the text that states a document's threshold for slow queries is free of
remarks, in front of it and inside. -/
def LimitIsWhole (document : Document) : Prop :=
  ∀ limit ∈ limitElement? document, limit.content.remarkInText = false

theorem limitElement?_isNamed {document : Document} {limit : Node}
    (h : limitElement? document = some limit) : limit.isNamed queryPlanThresholdTag = true := by
  obtain ⟨block, -, hlimit⟩ := Option.bind_eq_some_iff.1 h
  exact List.find?_some hlimit

theorem text?_stripped {node : Node} {tag : String} (hnamed : node.isNamed tag = true)
    (hwhole : node.content.remarkInText = false) : node.stripped.text? = node.text? := by
  cases node with
  | element name attributes children =>
    rw [Node.stripped, Node.text?_element, Node.text?_element]
    exact Content.leadingText?_stripped hwhole
  | root _ | text _ | comment _ | instruction _ _ => cases hnamed

theorem limitMs_eq_of_whole {document other : Document}
    (h : document.content.stripped = other.content.stripped) (hd : LimitIsWhole document)
    (ho : LimitIsWhole other) :
    limitMs (limitElement? document) = limitMs (limitElement? other) := by
  have hroot : (Node.root document.content).stripped = (Node.root other.content).stripped :=
    congrArg Node.root h
  have hlimit := likeness_stripped.limitElement? hroot
  generalize hx : limitElement? document = limit? at hlimit
  generalize hy : limitElement? other = other? at hlimit
  cases hlimit with
  | none => rfl
  | some hstripped =>
    have htext := congrArg Node.text? hstripped
    rw [text?_stripped (limitElement?_isNamed hx) (hd _ hx),
      text?_stripped (limitElement?_isNamed hy) (ho _ hy)] at htext
    rw [limitMs, limitMs, Option.bind_some, Option.bind_some, htext]

/-- Remarks change nothing that is looked up. They change the policy exactly if they
change the number that is read from the text that states the threshold for slow
queries, and they do not where they keep clear of that text. -/
theorem policy_of_stripped {document other : Document}
    (h : document.content.stripped = other.content.stripped) :
    (ofDocument document).value.classes = (ofDocument other).value.classes ∧
    (ofDocument document).value.builtIns.exceptLimit =
      (ofDocument other).value.builtIns.exceptLimit ∧
    ((ofDocument document).value = (ofDocument other).value ↔
      limitMs (limitElement? document) = limitMs (limitElement? other)) ∧
    (LimitIsWhole document → LimitIsWhole other →
      (ofDocument document).value = (ofDocument other).value) := by
  have hroot : (Node.root document.content).stripped = (Node.root other.content).stripped :=
    congrArg Node.root h
  have hiff := likeness_stripped.policy_eq_iff hroot
  refine ⟨likeness_stripped.classes_eq hroot, likeness_stripped.exceptLimit_eq hroot, hiff, ?_⟩
  intro hd ho
  exact hiff.2 (limitMs_eq_of_whole h hd ho)

/-- A document with a class, some content in front of its block for features, and an
element that states the threshold for slow queries. -/
def limitDocument (before limit : Content) : Document :=
  ⟨.element ⟨agentTag, none⟩ [] (.element ⟨instrumentationTag, none⟩ []
    (before ++ .element ⟨builtInTag, none⟩ []
      (.element ⟨queryPlanThresholdTag, none⟩ [] limit .nil)
      (.element ⟨classTag, none⟩ [⟨⟨nameAttribute, none⟩, "a.B"⟩] .nil .nil)) .nil) .nil⟩

/-- Remarks between elements, in text and behind the number do no harm. -/
theorem policy_of_stripped_of_whole :
    (limitDocument (.text " " (.comment "features" (.text " " .nil)))
        (.text "1500" (.instruction "unit" (some "ms") .nil))).content.stripped =
      (limitDocument (.text "  " .nil) (.text "1500" .nil)).content.stripped ∧
    LimitIsWhole (limitDocument (.text " " (.comment "features" (.text " " .nil)))
        (.text "1500" (.instruction "unit" (some "ms") .nil))) ∧
    LimitIsWhole (limitDocument (.text "  " .nil) (.text "1500" .nil)) ∧
    (ofDocument (limitDocument (.text " " (.comment "features" (.text " " .nil)))
        (.text "1500" (.instruction "unit" (some "ms") .nil)))).value =
      (ofDocument (limitDocument (.text "  " .nil) (.text "1500" .nil))).value := by
  have hsame : (limitDocument (.text " " (.comment "features" (.text " " .nil)))
        (.text "1500" (.instruction "unit" (some "ms") .nil))).content.stripped =
      (limitDocument (.text "  " .nil) (.text "1500" .nil)).content.stripped := by decide +kernel
  have hwhole : LimitIsWhole (limitDocument (.text " " (.comment "features" (.text " " .nil)))
      (.text "1500" (.instruction "unit" (some "ms") .nil))) := by
    intro limit hlimit
    obtain rfl : _ = limit := Option.some.inj hlimit
    rfl
  have hplain : LimitIsWhole (limitDocument (.text "  " .nil) (.text "1500" .nil)) := by
    intro limit hlimit
    obtain rfl : _ = limit := Option.some.inj hlimit
    rfl
  exact ⟨hsame, hwhole, hplain, (policy_of_stripped hsame).2.2.2 hwhole hplain⟩

/-- A comment in front of the number hides it, and a comment inside cuts it short; the
documents are the same when stripped. -/
theorem remark_hides_the_limit :
    (limitDocument .nil (.comment "ms" (.text "1500" .nil))).content.stripped =
      (limitDocument .nil (.text "1500" .nil)).content.stripped ∧
    (limitDocument .nil (.text "15" (.comment "ms" (.text "00" .nil)))).content.stripped =
      (limitDocument .nil (.text "1500" .nil)).content.stripped ∧
    ((ofDocument (limitDocument .nil (.text "1500" .nil))).value.builtIns.queryPlanThresholdMs =
        1500 ∧
      (ofDocument (limitDocument .nil
        (.comment "ms" (.text "1500" .nil)))).value.builtIns.queryPlanThresholdMs = 10000 ∧
      (ofDocument (limitDocument .nil
        (.text "15" (.comment "ms" (.text "00" .nil))))).value.builtIns.queryPlanThresholdMs =
          15) := by
  exact ⟨by decide +kernel, by decide +kernel, by decide +kernel⟩

end Policy

end Instrumentation
