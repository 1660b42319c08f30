import Instrumentation.Proofs.Policy.Remarks
/-
  Unknown markup

  Elements whose tags are not looked up and attributes that are not read may stand
  anywhere in a document. Taking such an element out and leaving its content in its
  place moves everything inside it one level up and next to other siblings, but
  keeps document order and leaves every known element inside the same known ones.

  What is proved:
    1. `Simplifies.elements` — after any such steps, the known elements inside a node
       are the same, in the same order, and what is inside them is simplified alike.
    2. `unknown_markup_is_ignored` — so the policy is the same. Only elements inside the
       element that states the threshold for slow queries have to stay, for its text
       is its first child: a number behind an element is not read.
-/

namespace Instrumentation.Policy

open Xml (Attribute Content Document Name Node)

/-! ## Taking unknown markup out -/

def isRead (a : Attribute) : Bool :=
  a.name.space.isNone && knownAttributes.contains a.name.localName

/-- Attributes that are not read are left out, any number of them. -/
inductive Drops : List Attribute → List Attribute → Prop where
  | nil : Drops [] []
  | keep (a : Attribute) {more fewer : List Attribute} :
    Drops more fewer → Drops (a :: more) (a :: fewer)
  | drop (a : Attribute) {more fewer : List Attribute} :
    isRead a = false → Drops more fewer → Drops (a :: more) fewer

/-- Unknown elements are replaced by what is in them, any number of them and at any
depth, and attributes that are not read are left out. The first argument says whether
elements may be taken out: they may not inside the element that states the threshold
for slow queries. -/
inductive Simplifies : Bool → Content → Content → Prop where
  | nil {splices : Bool} : Simplifies splices .nil .nil
  | keep {splices : Bool} (name : Name) {attributes fewer : List Attribute}
    {children simpler next next' : Content} :
    Drops attributes fewer →
    Simplifies (splices && name.localName != queryPlanThresholdTag) children simpler →
    Simplifies splices next next' →
    Simplifies splices (.element name attributes children next) (.element name fewer simpler next')
  | splice (name : Name) (attributes : List Attribute) {children simpler next next' : Content} :
    name.localName ∉ knownTags → Simplifies true children simpler → Simplifies true next next' →
    Simplifies true (.element name attributes children next) (simpler ++ next')
  | text {splices : Bool} (value : String) {next next' : Content} :
    Simplifies splices next next' → Simplifies splices (.text value next) (.text value next')
  | comment {splices : Bool} (value : String) {next next' : Content} :
    Simplifies splices next next' → Simplifies splices (.comment value next) (.comment value next')
  | instruction {splices : Bool} (target : String) (value : Option String) {next next' : Content} :
    Simplifies splices next next' →
    Simplifies splices (.instruction target value next) (.instruction target value next')

theorem Drops.refl : ∀ attributes : List Attribute, Drops attributes attributes
  | [] => .nil
  | a :: rest => .keep a (refl rest)

theorem Drops.find? {attributes fewer : List Attribute} (h : Drops attributes fewer)
    {name : String} (hname : name ∈ knownAttributes) :
    attributes.find? (·.name == ⟨name, none⟩) = fewer.find? (·.name == ⟨name, none⟩) := by
  induction h with
  | nil => rfl
  | keep a _ ih => rw [List.find?_cons, List.find?_cons, ih]
  | drop a hunread _ ih =>
    have hother : (a.name == ⟨name, none⟩) = false := by
      rw [beq_eq_false_iff_ne]
      intro heq
      simp [isRead, heq, hname] at hunread
    rw [List.find?_cons, hother, ih]

namespace Simplifies

variable {splices : Bool} {run simpler : Content}

theorem refl (splices : Bool) : ∀ run : Content, Simplifies splices run run
  | .nil => .nil
  | .element name attributes children next =>
    .keep name (.refl attributes) (refl _ children) (refl _ next)
  | .text value next => .text value (refl _ next)
  | .comment value next => .comment value (refl _ next)
  | .instruction target value next => .instruction target value (refl _ next)

/-- What is simplified without taking elements out is simplified. -/
theorem weaken (h : Simplifies splices run simpler) : Simplifies true run simpler := by
  induction h with
  | nil => exact .nil
  | keep name hattributes hchildren _ ihc ihn =>
    refine .keep name hattributes ?_ ihn
    cases hother : name.localName != queryPlanThresholdTag with
    | true => exact ihc
    | false => simpa [hother] using hchildren
  | splice name attributes hunknown _ _ ihc ihn => exact .splice name attributes hunknown ihc ihn
  | text value _ ih => exact .text value ih
  | comment value _ ih => exact .comment value ih
  | instruction target value _ ih => exact .instruction target value ih

/-- Where no element is taken out a run begins with the text with which it began. -/
theorem leadingText? (h : Simplifies false run simpler) :
    run.leadingText? = simpler.leadingText? := by
  cases h <;> rfl

end Simplifies

/-! ## What the lookups see of it -/

/-- Nodes of which one is the other simplified. -/
inductive Simpler : Node → Node → Prop where
  | root {children simpler : Content} :
    Simplifies true children simpler → Simpler (.root children) (.root simpler)
  | element (name : Name) {attributes fewer : List Attribute} {children simpler : Content} :
    Drops attributes fewer → Simplifies true children simpler →
    (name.localName = queryPlanThresholdTag → children.leadingText? = simpler.leadingText?) →
    Simpler (.element name attributes children) (.element name fewer simpler)

/-- The known elements of a run are those of the simplified run, simplified. -/
theorem Simplifies.elements {splices : Bool} {run simpler : Content}
    (h : Simplifies splices run simpler) {tag : String} (htag : tag ∈ knownTags) :
    List.Forall₂ Simpler (run.descendants.filter (Node.isNamed tag))
      (simpler.descendants.filter (Node.isNamed tag)) := by
  induction h with
  | nil => exact .nil
  | @keep splices name attributes fewer children simpler next next' hattributes hchildren _ ihc
      ihn =>
    have hnode : Simpler (.element name attributes children) (.element name fewer simpler) := by
      refine .element name hattributes hchildren.weaken ?_
      intro hlimit
      rw [hlimit, bne_self_eq_false, Bool.and_false] at hchildren
      exact hchildren.leadingText?
    have hnamed : (Node.element name attributes children).isNamed tag =
        (Node.element name fewer simpler).isNamed tag := rfl
    simp only [Content.descendants_element, List.filter_cons, List.filter_append, hnamed]
    split
    · exact .cons hnode (List.rel_append ihc ihn)
    · exact List.rel_append ihc ihn
  | splice name attributes hunknown _ _ ihc ihn =>
    -- What is taken out is not looked up, and its content stays where it was.
    have hother : (name.localName == tag) = false := by
      rw [beq_eq_false_iff_ne]
      intro heq
      exact hunknown (heq ▸ htag)
    simp only [Content.descendants_element, Content.descendants_append, List.filter_cons,
      List.filter_append, Node.isNamed, hother]
    exact List.rel_append ihc ihn
  | text value _ ih => simpa [Node.isNamed] using ih
  | comment value _ ih => simpa [Node.isNamed] using ih
  | instruction target value _ ih => simpa [Node.isNamed] using ih

/-- No lookup tells a node from the simplified one. -/
theorem likeness_simpler : Likeness Simpler where
  named h tag := by cases h <;> rfl
  attribute? h name hname := by
    cases h with
    | root _ => rfl
    | element _ hattributes _ _ =>
      rw [Node.attribute?, Node.attribute?]
      exact congrArg _ (hattributes.find? hname)
  elements h tag htag := by
    cases h with
    | root hcontent => exact hcontent.elements htag
    | element _ _ hcontent _ => exact hcontent.elements htag

/-- Unknown markup has no part in the policy: any unknown elements may be replaced by
what is in them, whatever they stand in but the element that states the threshold for
slow queries, and any attributes that are not read may be left out. -/
theorem unknown_markup_is_ignored {content simpler : Content}
    (h : Simplifies true content simpler) :
    (ofDocument ⟨content⟩).value = (ofDocument ⟨simpler⟩).value := by
  have hroot : Simpler (.root content) (.root simpler) := .root h
  rw [likeness_simpler.policy_eq_iff hroot]
  have hlimit : Option.Rel Simpler (limitElement? ⟨content⟩) (limitElement? ⟨simpler⟩) :=
    likeness_simpler.limitElement? hroot
  generalize hx : limitElement? ⟨content⟩ = limit? at hlimit
  generalize limitElement? ⟨simpler⟩ = simpler? at hlimit
  cases hlimit with
  | none => rfl
  | some hnode =>
    have hnamed := limitElement?_isNamed hx
    cases hnode with
    | root _ => cases hnamed
    | element name _ _ htext =>
      have hlimit : name.localName = queryPlanThresholdTag := beq_iff_eq.1 hnamed
      rw [limitMs, limitMs, Option.bind_some, Option.bind_some, Node.text?_element,
        Node.text?_element, htext hlimit]

/-- A class and its method, each in an element that is not looked up, with attributes
that are not read. -/
def wrapped : Content :=
  .element ⟨agentTag, none⟩ []
    (.element ⟨"Profile", none⟩ [⟨⟨nameAttribute, none⟩, "production"⟩]
      (.element ⟨instrumentationTag, none⟩ [⟨⟨"owner", none⟩, "team"⟩]
        (.text "  " (.element ⟨classTag, none⟩
          [⟨⟨nameAttribute, some "urn:x"⟩, "a.Other"⟩, ⟨⟨nameAttribute, none⟩, "a.B"⟩]
          (.element ⟨"Group", none⟩ [] (.element ⟨methodTag, none⟩
            [⟨⟨nameAttribute, none⟩, "run"⟩] .nil .nil) .nil) .nil)) .nil) .nil) .nil

def unwrapped : Content :=
  .element ⟨agentTag, none⟩ []
    (.element ⟨instrumentationTag, none⟩ []
      (.text "  " (.element ⟨classTag, none⟩ [⟨⟨nameAttribute, none⟩, "a.B"⟩]
        (.element ⟨methodTag, none⟩ [⟨⟨nameAttribute, none⟩, "run"⟩] .nil .nil) .nil)) .nil) .nil

theorem unknown_markup_is_ignored_of_wrapped :
    Simplifies true wrapped unwrapped ∧
    (ofDocument ⟨wrapped⟩).value = (ofDocument ⟨unwrapped⟩).value ∧
    (ofDocument ⟨unwrapped⟩).value.methodRule? "a.B" "run" "" = some ⟨"run", "", 0⟩ := by
  have hmethod : Simplifies true
      (.element ⟨"Group", none⟩ [] (.element ⟨methodTag, none⟩
        [⟨⟨nameAttribute, none⟩, "run"⟩] .nil .nil) .nil)
      (.element ⟨methodTag, none⟩ [⟨⟨nameAttribute, none⟩, "run"⟩] .nil .nil) :=
    .splice ⟨"Group", none⟩ [] (by decide) (.refl true _) .nil
  have hclass : Drops
      [⟨⟨nameAttribute, some "urn:x"⟩, "a.Other"⟩, ⟨⟨nameAttribute, none⟩, "a.B"⟩]
      [⟨⟨nameAttribute, none⟩, "a.B"⟩] := .drop _ (by decide) (.refl _)
  have hblock : Simplifies true _ _ :=
    .keep ⟨instrumentationTag, none⟩ (.drop ⟨⟨"owner", none⟩, "team"⟩ (by decide) .nil)
      (.text "  " (.keep ⟨classTag, none⟩ hclass hmethod .nil)) .nil
  have hsimpler : Simplifies true wrapped unwrapped :=
    .keep ⟨agentTag, none⟩ .nil (.splice ⟨"Profile", none⟩ _ (by decide) hblock .nil) .nil
  exact ⟨hsimpler, unknown_markup_is_ignored hsimpler, by decide +kernel⟩

/-- An element in front of the number hides it, so it may not be taken out. -/
example :
    (ofDocument (limitDocument .nil
      (.element ⟨"Unit", none⟩ [] .nil (.text "1500" .nil)))).value.builtIns.queryPlanThresholdMs =
        10000 := by
  decide +kernel

end Instrumentation.Policy
