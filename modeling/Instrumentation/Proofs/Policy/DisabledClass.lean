import Instrumentation.Proofs.Policy.Declared
/-
  Classes that are switched off

  A class declaration that is switched off declares nothing. The lookups go through
  it all the same: they list elements at any depth, whatever is around them.

  What is proved, of such a declaration at any place of any document:
    1. `disabled_class_dissolves` — it has the class table of the document in which
       its content stands in its place. If nothing in there declares a class, and
       nothing declares a method or no class that counts is around it, then all of
       it can be taken out.
    2. `disabled_class_is_not_discarded` — the condition in (1) is not idle: what is
       inside a class that is switched off counts for the classes around it, and a
       class inside it counts by itself.
-/

namespace Instrumentation.Policy

open Xml (Attribute Content Document Node Gap)

/-- Whether an element says that it does not count: its switch is there, is not
empty and does not say yes. -/
def SwitchedOff (node : Node) : Prop :=
  ∃ value, node.attribute? enabledAttribute = some value ∧ value ≠ "" ∧
    Node.saysTrue value = false

theorem counts_of_switchedOff {node : Node} (h : SwitchedOff node) : counts node = false := by
  obtain ⟨value, hvalue, hne, hno⟩ := h
  unfold counts
  rw [hvalue]
  simp [hne, hno]

variable {space : Option String} {attributes : List Attribute} {children : Content}

/-- A class that is switched off declares what its content declares. -/
theorem sameClasses_of_switchedOff
    (h : SwitchedOff (.element ⟨classTag, space⟩ attributes children)) :
    SameClasses (.element ⟨classTag, space⟩ attributes children .nil) children := by
  have hclass : classDeclaration? (.element ⟨classTag, space⟩ attributes children) = none := by
    simp [classDeclaration?, counts_of_switchedOff h]
  have hblock : (classTag == instrumentationTag) = false := by decide
  have hagent : (classTag == agentTag) = false := by decide
  refine ⟨?_, ?_, ?_⟩
  · rw [declaredClasses_element, hclass]
    exact List.append_nil _
  · rw [declaredBlock?_element, hblock]
    exact Option.or_none
  · rw [declaredAgent?_element, hagent]
    exact Option.or_none

theorem declaredMethods_class :
    declaredMethods (.element ⟨classTag, space⟩ attributes children .nil) =
      declaredMethods children := by
  have hmethod : methodDeclaration? (.element ⟨classTag, space⟩ attributes children) = none := by
    have htag : (classTag == methodTag) = false := by decide
    simp [methodDeclaration?, Node.isNamed, htag]
  rw [declaredMethods_element, hmethod]
  exact List.append_nil _

/-- Whether nothing in a run is found by the lookups that lead to the class table. -/
def DeclaresNoClass (run : Content) : Prop :=
  ∀ node ∈ run.descendants, classDeclaration? node = none ∧
    node.isNamed instrumentationTag = false ∧ node.isNamed agentTag = false

theorem sameClasses_nil {run : Content} (h : DeclaresNoClass run) : SameClasses run .nil := by
  refine ⟨?_, ?_, ?_⟩
  · exact List.filterMap_eq_nil_iff.2 fun node hnode => (h node hnode).1
  · have hnone : run.descendants.find? (Node.isNamed instrumentationTag) = none := by
      rw [List.find?_eq_none]
      intro node hnode
      simp [(h node hnode).2.1]
    rw [declaredBlock?, hnone]
    rfl
  · have hnone : run.descendants.find? (Node.isNamed agentTag) = none := by
      rw [List.find?_eq_none]
      intro node hnode
      simp [(h node hnode).2.2]
    rw [declaredAgent?, hnone]
    rfl

/-- A class that is switched off leaves its content behind in its place, and it can
be taken out with its content if that declares nothing there. -/
theorem disabled_class_dissolves (gap : Gap) (space : Option String)
    (attributes : List Attribute) (children : Content)
    (hoff : SwitchedOff (.element ⟨classTag, space⟩ attributes children)) :
    (ofDocument ⟨gap.fill (.element ⟨classTag, space⟩ attributes children .nil)⟩).value.classes =
      (ofDocument ⟨gap.fill children⟩).value.classes ∧
    (DeclaresNoClass children →
      (inClass gap = true → ∀ node ∈ children.descendants, methodDeclaration? node = none) →
      (ofDocument
          ⟨gap.fill (.element ⟨classTag, space⟩ attributes children .nil)⟩).value.classes =
        (ofDocument ⟨gap.fill .nil⟩).value.classes) := by
  have hdissolve :=
    ((sameClasses_of_switchedOff hoff).fill gap fun _ => declaredMethods_class).table
  refine ⟨hdissolve, ?_⟩
  intro hclasses hmethods
  have hempty : SameClasses (gap.fill children) (gap.fill .nil) := by
    apply (sameClasses_nil hclasses).fill gap
    intro hin
    exact List.filterMap_eq_nil_iff.2 (hmethods hin)
  exact hdissolve.trans hempty.table

/-! ## A class inside a class -/

def offAttributes : List Attribute :=
  [⟨⟨nameAttribute, none⟩, "a.Off"⟩, ⟨⟨enabledAttribute, none⟩, "false"⟩]

/-- The gap inside the only class declaration of a document. -/
def insideOuter : Gap :=
  .inside .nil ⟨agentTag, none⟩ [] (.inside .nil ⟨instrumentationTag, none⟩ []
    (.inside .nil ⟨classTag, none⟩ [⟨⟨nameAttribute, none⟩, "a.Outer"⟩] (.here .nil .nil) .nil)
    .nil) .nil

def outerPolicy (run : Content) : Policy := (ofDocument ⟨insideOuter.fill run⟩).value

def offMethod : Content :=
  .element ⟨methodTag, none⟩
    [⟨⟨nameAttribute, none⟩, "run"⟩, ⟨⟨enabledAttribute, none⟩, "FALSE"⟩] .nil .nil

def methodAndClass : Content :=
  .element ⟨methodTag, none⟩ [⟨⟨nameAttribute, none⟩, "run"⟩] .nil
    (.element ⟨classTag, none⟩ [⟨⟨nameAttribute, none⟩, "a.Inner"⟩] .nil .nil)

/-- Inside another class, a class that is switched off can be taken out if all that
it holds is a method that is switched off as well. -/
theorem disabled_class_dissolves_of_disabled_method :
    SwitchedOff (.element ⟨classTag, none⟩ offAttributes offMethod) ∧
    DeclaresNoClass offMethod ∧
    (inClass insideOuter = true ∧ ∀ node ∈ offMethod.descendants, methodDeclaration? node = none) ∧
    (outerPolicy (.element ⟨classTag, none⟩ offAttributes offMethod .nil)).classes =
      (outerPolicy .nil).classes := by
  have hoff : SwitchedOff (.element ⟨classTag, none⟩ offAttributes offMethod) :=
    ⟨"false", by decide +kernel, by decide, by decide⟩
  have hclasses : DeclaresNoClass offMethod := by
    intro node hnode
    obtain rfl := List.mem_singleton.1 hnode
    decide +kernel
  have hmethods : ∀ node ∈ offMethod.descendants, methodDeclaration? node = none := by
    intro node hnode
    obtain rfl := List.mem_singleton.1 hnode
    decide +kernel
  refine ⟨hoff, hclasses, ⟨by decide +kernel, hmethods⟩, ?_⟩
  exact (disabled_class_dissolves insideOuter none offAttributes offMethod hoff).2 hclasses
    fun _ => hmethods

/-- A class that is switched off stands inside another one. Its method is traced for
the class around it, and the class inside it is traced too; without it neither is. -/
theorem disabled_class_is_not_discarded :
    SwitchedOff (.element ⟨classTag, none⟩ offAttributes methodAndClass) ∧
    ((outerPolicy (.element ⟨classTag, none⟩ offAttributes methodAndClass .nil)).methodRule?
        "a.Outer" "run" "" = some ⟨"run", "", 0⟩ ∧
      (outerPolicy .nil).methodRule? "a.Outer" "run" "" = none) ∧
    (outerPolicy (.element ⟨classTag, none⟩ offAttributes methodAndClass .nil)).isInstrumented
        "a.Inner" = true ∧
      (outerPolicy .nil).isInstrumented "a.Inner" = false := by
  exact ⟨⟨"false", by decide +kernel, by decide, by decide⟩, by decide +kernel, by decide +kernel⟩

end Instrumentation.Policy
