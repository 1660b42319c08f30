import Instrumentation.Proofs.Policy.Additions
import Instrumentation.Proofs.Policy.Interchange
import Instrumentation.Proofs.Policy.Remarks
/-
  Declarations that are independent of each other

  A policy is read from a document from the front to the back, and the first declaration
  is the one that holds. Two declarations next to each other may change places all the same
  if no lookup compares them: classes of different names, and methods that differ in their
  names or signatures, whatever classes they are in.

  What is proved:
    1. `Interchangeable.find?`, `Refilled.firstElement?` — where two runs differ in nothing
       but classes and methods, every other lookup leads to the same node, or to one around
       the runs.
    2. `Interchangeable.policy_eq` — if their classes and methods are alike as well, the runs
       may take each other's place.
    3. `interchangeable_swap` — two runs that declare no class and, inside a class, no method
       in common may change places.
    4. `independent_declarations_commute` — so may independent declarations.
-/

namespace Instrumentation

/-! ## Runs that may take each other's place -/

/-- Whether a gap is inside an element of the name, at any depth. -/
def Xml.Gap.isInside (tag : String) : Gap → Bool
  | here _ _ => false
  | inside _ name _ gap _ => name.localName == tag || gap.isInside tag

namespace Policy

open Xml (Attribute Content Document Name Node Gap)

/-- No element in the run has one of the tags, at any depth. -/
def Lacks (tags : List String) (run : Content) : Prop :=
  ∀ tag ∈ tags, ∀ node ∈ run.descendants, node.isNamed tag = false

instance (tags : List String) (run : Content) : Decidable (Lacks tags run) :=
  inferInstanceAs (Decidable (∀ tag ∈ tags, ∀ node ∈ run.descendants, node.isNamed tag = false))

/-- The tags of blocks and features: all that are looked up but those of declarations. -/
def blockTags : List String := (knownTags.erase classTag).erase methodTag

/-- Two runs between which no lookup sees a difference in what is declared, if they stand
in the gap. -/
structure Interchangeable (gap : Gap) (run other : Content) : Prop where
  lacks : Lacks blockTags run
  other_lacks : Lacks blockTags other
  text : ∀ after, (run ++ after).leadingText? = (other ++ after).leadingText?
  classes : SameClassOrder (declaredClasses run) (declaredClasses other)
  methods : inClass gap = true → SameMethods (declaredMethods run) (declaredMethods other)

/-- Nodes that are the same, or differ in what stands in one gap inside them. -/
inductive Refilled (run other : Content) : Node → Node → Prop where
  | same (node : Node) : Refilled run other node node
  | root {gap : Gap} : Interchangeable gap run other →
    Refilled run other (.root (gap.fill run)) (.root (gap.fill other))
  | element (name : Name) (attributes : List Attribute) {gap : Gap} :
    Interchangeable gap run other →
    Refilled run other (.element name attributes (gap.fill run))
      (.element name attributes (gap.fill other))

theorem Lacks.find?_eq_none {tags : List String} {run : Content} (h : Lacks tags run)
    {tag : String} (htag : tag ∈ tags) :
    run.descendants.find? (Node.isNamed tag) = none := by
  rw [List.find?_eq_none]
  intro node hnode
  simp [h tag htag node hnode]

theorem leadingText?_fill {run other : Content} (gap : Gap)
    (h : ∀ after, (run ++ after).leadingText? = (other ++ after).leadingText?) :
    (gap.fill run).leadingText? = (gap.fill other).leadingText? := by
  cases gap with
  | here before after =>
    cases before with
    | nil => exact h after
    | _ => rfl
  | inside before name attributes gap after => cases before <;> rfl

section

variable {run other : Content} {node twin : Node} {tag : String}

namespace Interchangeable

variable {gap : Gap}

theorem inside {before after : Content} {name : Name} {attributes : List Attribute}
    (h : Interchangeable (.inside before name attributes gap after) run other) :
    Interchangeable gap run other :=
  ⟨h.lacks, h.other_lacks, h.text, h.classes, fun hin => h.methods (by simp [inClass, hin])⟩

/-- The first element for a block or feature is the same, or one around the gap. -/
theorem find? (h : Interchangeable gap run other) (htag : tag ∈ blockTags) :
    Option.Rel (Refilled run other) ((gap.fill run).descendants.find? (Node.isNamed tag))
      ((gap.fill other).descendants.find? (Node.isNamed tag)) := by
  have hrefl : ∀ found? : Option Node, Option.Rel (Refilled run other) found? found? :=
    rel_refl .same
  induction gap with
  | here before after =>
    simp only [Gap.fill, Content.descendants_append, List.find?_append,
      h.lacks.find?_eq_none htag, h.other_lacks.find?_eq_none htag]
    exact hrefl _
  | inside before name attributes gap after ih =>
    simp only [Gap.fill, Content.descendants_append, Content.descendants_element,
      List.find?_append, List.find?_cons, Node.isNamed]
    apply rel_or (hrefl _)
    cases name.localName == tag with
    | true => exact .some (.element name attributes h.inside)
    | false => exact rel_or (ih h.inside) (hrefl _)

end Interchangeable

namespace Refilled

theorem firstElement? (h : Refilled run other node twin) (htag : tag ∈ blockTags) :
    Option.Rel (Refilled run other) (node.firstElement? tag) (twin.firstElement? tag) := by
  cases h with
  | same => exact rel_refl .same _
  | root hgap => exact hgap.find? htag
  | element name attributes hgap => exact hgap.find? htag

theorem sameAttributes (h : Refilled run other node twin) : SameAttributes node twin := by
  intro name _
  cases h <;> rfl

theorem text? (h : Refilled run other node twin) : node.text? = twin.text? := by
  cases h with
  | same => rfl
  | root => rfl
  | element name attributes hgap =>
    rw [Node.text?_element, Node.text?_element]
    exact leadingText?_fill _ hgap.text

theorem sameClassOrder (h : Refilled run other node twin) :
    SameClassOrder (declaredClasses node.content) (declaredClasses twin.content) := by
  cases h with
  | same => exact .refl SameDeclaration.refl _
  | root hgap => exact sameClassOrder_fill _ hgap.classes hgap.methods
  | element name attributes hgap => exact sameClassOrder_fill _ hgap.classes hgap.methods

theorem featuresOf (h : Refilled run other node twin) :
    (Policy.featuresOf node).value = (Policy.featuresOf twin).value := by
  apply BuiltIns.eq_of_exceptLimit
  · apply exceptLimit_featuresOf_congr
    intro tag htag
    have hblock : ∀ tag ∈ featureTags, tag ∈ blockTags := by decide
    exact rel_mono (h.firstElement? (hblock tag htag)) sameAttributes
  · have hlimit : queryPlanThresholdTag ∈ blockTags := by decide
    rw [value_featuresOf, value_featuresOf]
    exact rel_congr limitMs (h.firstElement? hlimit) fun hr => by
      rw [limitMs, limitMs, Option.bind_some, Option.bind_some, hr.text?]

end Refilled

/-! ## Policies of documents around a gap -/

theorem classes_eq_declared (document : Document) :
    (ofDocument document).value.classes =
      ((declarations? document).map fun block =>
        declaredTable (declaredClasses block.content)).getD .empty := by
  rw [value_ofDocument]
  cases declarations? document with
  | none => rfl
  | some block => exact resolveClasses_eq_declared block

/-- Runs that may take each other's place in a gap make the same policy there. -/
theorem Interchangeable.policy_eq {gap : Gap} (h : Interchangeable gap run other) :
    (ofDocument ⟨gap.fill run⟩).value = (ofDocument ⟨gap.fill other⟩).value := by
  have hdeclarations : Option.Rel (Refilled run other) (declarations? ⟨gap.fill run⟩)
      (declarations? ⟨gap.fill other⟩) :=
    rel_bind ((Refilled.root h).firstElement? (by decide)) fun hr => hr.firstElement? (by decide)
  have hblock : Option.Rel (Refilled run other) (featureBlock? ⟨gap.fill run⟩)
      (featureBlock? ⟨gap.fill other⟩) :=
    rel_filter (rel_bind hdeclarations fun hr => hr.firstElement? (by decide))
      fun hr => hr.sameAttributes.isEnabled
  apply eq_of_parts
  · rw [builtIns_ofDocument, builtIns_ofDocument]
    exact rel_congr
      (fun block? => (block?.map fun block => (Policy.featuresOf block).value).getD .disabled)
      hblock Refilled.featuresOf
  · rw [classes_eq_declared, classes_eq_declared]
    exact rel_congr
      (fun block? => (block?.map fun block : Node =>
        declaredTable (declaredClasses block.content)).getD .empty)
      hdeclarations fun hr => declaredTable_congr hr.sameClassOrder

end

/-! ## Runs that change places -/

theorem isNamed_of_holdsElement {run : Content} (h : run.holdsElement = false) (tag : String) :
    ∀ node ∈ run.descendants, node.isNamed tag = false := by
  induction run with
  | nil => intro node hnode; cases hnode
  | element name attributes children next _ _ => cases h
  | text value next ih => simpa [Node.isNamed] using ih h
  | comment value next ih => simpa [Node.isNamed] using ih h
  | instruction target value next ih => simpa [Node.isNamed] using ih h

theorem declaredClasses_eq_nil {run : Content}
    (h : ∀ node ∈ run.descendants, node.isNamed classTag = false) : declaredClasses run = [] := by
  rw [declaredClasses, List.filterMap_eq_nil_iff]
  intro node hnode
  simp [classDeclaration?, h node hnode]

theorem declaredMethods_eq_nil {run : Content}
    (h : ∀ node ∈ run.descendants, node.isNamed methodTag = false) : declaredMethods run = [] := by
  rw [declaredMethods, List.filterMap_eq_nil_iff]
  intro node hnode
  simp [methodDeclaration?, h node hnode]

theorem Lacks.append {tags : List String} {run behind : Content} (h : Lacks tags run)
    (hbehind : Lacks tags behind) : Lacks tags (run ++ behind) := by
  intro tag htag node hnode
  rw [Content.descendants_append, List.mem_append] at hnode
  exact hnode.elim (h tag htag node) (hbehind tag htag node)

/-- Two elements that declare no class in common may change places; inside a class they may
declare no method in common either. -/
theorem interchangeable_swap {gap : Gap} {first between second : Content}
    (hfirst : Lacks blockTags first) (hsecond : Lacks blockTags second)
    (hbetween : between.holdsElement = false)
    (htext : ∀ after, (first ++ after).leadingText? = none ∧ (second ++ after).leadingText? = none)
    (hclasses : ∀ d ∈ declaredClasses first, ∀ e ∈ declaredClasses second, d.name ≠ e.name)
    (hmethods : inClass gap = true →
      ∀ d ∈ declaredMethods first, ∀ e ∈ declaredMethods second, d.key ≠ e.key) :
    Interchangeable gap (first ++ between ++ second) (second ++ between ++ first) := by
  have hplain : Lacks blockTags between := fun tag _ => isNamed_of_holdsElement hbetween tag
  have hnoClass : declaredClasses between = [] :=
    declaredClasses_eq_nil (isNamed_of_holdsElement hbetween classTag)
  have hnoMethod : declaredMethods between = [] :=
    declaredMethods_eq_nil (isNamed_of_holdsElement hbetween methodTag)
  refine ⟨(hfirst.append hplain).append hsecond, (hsecond.append hplain).append hfirst, ?_, ?_, ?_⟩
  · intro after
    rw [Content.append_assoc, Content.append_assoc, (htext _).1, Content.append_assoc,
      Content.append_assoc, (htext _).2]
  · simp only [declaredClasses_append, hnoClass, List.append_nil]
    exact .swap SameDeclaration.refl hclasses
  · intro hin
    simp only [declaredMethods_append, hnoMethod, List.append_nil]
    exact .swap (fun _ => rfl) (hmethods hin)

/-! ## Independent declarations -/

/-- The name and the signature that a method declaration states. Without a signature that
is the empty one. -/
def statedPair (node : Node) : Option String × String :=
  (node.attribute? nameAttribute, (node.attribute? signatureAttribute).getD "")

/-- Two declarations that may stand side by side in a gap and have nothing to do with each
other. -/
inductive Independent (gap : Gap) : Content → Content → Prop where
  /-- Classes that are in no other class and state different names, if any. Inside them
  nothing is looked up but methods. -/
  | classes (space space' : Option String) {attributes attributes' : List Attribute}
    {children children' : Content} :
    gap.isInside classTag = false →
    (Node.element ⟨classTag, space⟩ attributes children).attribute? nameAttribute ≠
      (Node.element ⟨classTag, space'⟩ attributes' children').attribute? nameAttribute →
    Lacks (knownTags.erase methodTag) children →
    Lacks (knownTags.erase methodTag) children' →
    Independent gap (.element ⟨classTag, space⟩ attributes children .nil)
      (.element ⟨classTag, space'⟩ attributes' children' .nil)
  /-- Methods, inside any number of classes, that state different names or signatures.
  Inside them nothing is looked up. -/
  | methods (space space' : Option String) {attributes attributes' : List Attribute}
    {children children' : Content} :
    statedPair (.element ⟨methodTag, space⟩ attributes children) ≠
      statedPair (.element ⟨methodTag, space'⟩ attributes' children') →
    Lacks knownTags children → Lacks knownTags children' →
    Independent gap (.element ⟨methodTag, space⟩ attributes children .nil)
      (.element ⟨methodTag, space'⟩ attributes' children' .nil)

theorem Lacks.mono {tags fewer : List String} {run : Content} (h : Lacks tags run)
    (hfewer : ∀ tag ∈ fewer, tag ∈ tags) : Lacks fewer run :=
  fun tag htag => h tag (hfewer tag htag)

theorem Lacks.element {tags : List String} {name : Name} {attributes : List Attribute}
    {children : Content} (h : Lacks tags children) (hname : name.localName ∉ tags) :
    Lacks tags (.element name attributes children .nil) := by
  intro tag htag node hnode
  rw [Content.descendants_element, Content.descendants_nil, List.append_nil,
    List.mem_cons] at hnode
  rcases hnode with rfl | hnode
  · simp only [Node.isNamed, beq_eq_false_iff_ne]
    rintro rfl
    exact hname htag
  · exact h tag htag node hnode

theorem attribute?_of_nonEmpty {node : Node} {name value : String}
    (h : node.nonEmptyAttribute? name = some value) : node.attribute? name = some value :=
  (Option.filter_eq_some_iff.1 h).1

theorem attribute?_of_classDeclaration? {node : Node} {d : ClassDeclaration}
    (h : classDeclaration? node = some d) : node.attribute? nameAttribute = some d.name := by
  unfold classDeclaration? at h
  split at h
  · obtain ⟨name, hname, rfl⟩ := Option.map_eq_some_iff.1 h
    exact attribute?_of_nonEmpty hname
  · cases h

theorem statedPair_of_methodDeclaration? {node : Node} {d : MethodDeclaration}
    (h : methodDeclaration? node = some d) :
    statedPair node = (some d.key.name, d.key.signature) := by
  unfold methodDeclaration? at h
  split at h
  · obtain ⟨name, hname, rfl⟩ := Option.map_eq_some_iff.1 h
    rw [statedPair, attribute?_of_nonEmpty hname]
  · cases h

/-- What is inside no class element is inside no class declaration that counts. -/
theorem inClass_of_not_isInside {gap : Gap} (h : gap.isInside classTag = false) :
    inClass gap = false := by
  induction gap with
  | here before after => rfl
  | inside before name attributes gap after ih =>
    rw [Gap.isInside, Bool.or_eq_false_iff] at h
    have hclass : classDeclaration? (.element name attributes .nil) = none := by
      simp [classDeclaration?, Node.isNamed, h.1]
    rw [inClass, hclass, ih h.2]
    rfl

section

variable {name : Name} {attributes : List Attribute} {children : Content}

/-- An element without classes inside declares at most the class that it is itself. -/
theorem classDeclaration?_of_mem {d : ClassDeclaration}
    (hd : d ∈ declaredClasses (.element name attributes children .nil))
    (h : Lacks [classTag] children) :
    classDeclaration? (.element name attributes children) = some d := by
  have hnone : declaredClasses children = [] := declaredClasses_eq_nil (h classTag (by simp))
  have hnil : declaredClasses .nil = [] := rfl
  rw [declaredClasses_element, hnone, hnil, List.append_nil, List.append_nil,
    Option.mem_toList] at hd
  exact hd

/-- An element without methods inside declares at most the method that it is itself. -/
theorem methodDeclaration?_of_mem {d : MethodDeclaration}
    (hd : d ∈ declaredMethods (.element name attributes children .nil))
    (h : Lacks [methodTag] children) :
    methodDeclaration? (.element name attributes children) = some d := by
  have hnone : declaredMethods children = [] := declaredMethods_eq_nil (h methodTag (by simp))
  have hnil : declaredMethods .nil = [] := rfl
  rw [declaredMethods_element, hnone, hnil, List.append_nil, List.append_nil,
    Option.mem_toList] at hd
  exact hd

end

theorem Independent.interchangeable {gap : Gap} {first second : Content}
    (h : Independent gap first second) {between : Content}
    (hbetween : between.holdsElement = false) :
    Interchangeable gap (first ++ between ++ second) (second ++ between ++ first) := by
  cases h with
  | classes space space' houtside hnames hchildren hchildren' =>
    have hblocks : ∀ tag ∈ blockTags, tag ∈ knownTags.erase methodTag := by decide
    have hclass : ∀ tag ∈ [classTag], tag ∈ knownTags.erase methodTag := by decide
    have hname : classTag ∉ blockTags := by decide
    apply interchangeable_swap ((hchildren.mono hblocks).element hname)
      ((hchildren'.mono hblocks).element hname) hbetween (fun _ => ⟨rfl, rfl⟩)
    · intro d hd e he heq
      apply hnames
      rw [attribute?_of_classDeclaration? (classDeclaration?_of_mem hd (hchildren.mono hclass)),
        attribute?_of_classDeclaration? (classDeclaration?_of_mem he (hchildren'.mono hclass)), heq]
    · intro hin
      rw [inClass_of_not_isInside houtside] at hin
      cases hin
  | @methods space space' attributes _ children _ hpairs hchildren hchildren' =>
    have hblocks : ∀ tag ∈ blockTags, tag ∈ knownTags := by decide
    have hclass : ∀ tag ∈ [classTag], tag ∈ knownTags := by decide
    have hmethod : ∀ tag ∈ [methodTag], tag ∈ knownTags := by decide
    have hname : methodTag ∉ blockTags := by decide
    have hother : methodTag ∉ [classTag] := by decide
    apply interchangeable_swap ((hchildren.mono hblocks).element hname)
      ((hchildren'.mono hblocks).element hname) hbetween (fun _ => ⟨rfl, rfl⟩)
    · intro d hd
      -- A method is no class, and there is none inside it.
      have hno : Lacks [classTag] (.element ⟨methodTag, space⟩ attributes children .nil) :=
        (hchildren.mono hclass).element hother
      rw [declaredClasses_eq_nil (hno classTag (by simp))] at hd
      cases hd
    · intro _ d hd e he heq
      apply hpairs
      rw [statedPair_of_methodDeclaration? (methodDeclaration?_of_mem hd (hchildren.mono hmethod)),
        statedPair_of_methodDeclaration? (methodDeclaration?_of_mem he (hchildren'.mono hmethod)),
        heq]

/-- Two independent declarations side by side, at any place of any document, with nothing
but text and remarks between them, may change places: the policy is the same. -/
theorem independent_declarations_commute {gap : Gap} {first second : Content}
    (h : Independent gap first second) {between : Content}
    (hbetween : between.holdsElement = false) :
    (ofDocument ⟨gap.fill (first ++ between ++ second)⟩).value =
      (ofDocument ⟨gap.fill (second ++ between ++ first)⟩).value :=
  (h.interchangeable hbetween).policy_eq

/-- The place behind a method in a class that is inside another one. -/
def behindMethod : Gap :=
  .inside .nil ⟨agentTag, none⟩ [] (.inside .nil ⟨instrumentationTag, none⟩ []
    (.inside .nil ⟨classTag, none⟩ [⟨⟨nameAttribute, none⟩, "a.Outer"⟩]
      (.inside .nil ⟨classTag, none⟩ [⟨⟨nameAttribute, none⟩, "a.Inner"⟩]
        (.here (signedMethod "stop" "()V" "3" .nil) .nil) .nil) .nil) .nil) .nil

def behindClass : Gap :=
  .inside .nil ⟨agentTag, none⟩ [] (.inside .nil ⟨instrumentationTag, none⟩ []
    (.here (typedClass "a.B" "HTTP" "3" .nil) .nil) .nil) .nil

/-- An overload that is declared here and a method that was declared before change places
inside two classes, and so do a class that was declared before and a new one. -/
theorem independent_declarations_commute_of_redeclared :
    (Independent behindMethod (signedMethod "run" "()V" "5" .nil)
        (signedMethod "stop" "()V" "7" .nil) ∧
      (ofDocument ⟨behindMethod.fill (signedMethod "run" "()V" "5" .nil ++ .text " " .nil ++
          signedMethod "stop" "()V" "7" .nil)⟩).value =
        (ofDocument ⟨behindMethod.fill (signedMethod "stop" "()V" "7" .nil ++ .text " " .nil ++
          signedMethod "run" "()V" "5" .nil)⟩).value) ∧
    Independent behindClass (typedClass "a.B" "SQL" "9" (signedMethod "run" "" "5" .nil))
        (typedClass "a.C" "SQL" "9" .nil) ∧
      (ofDocument ⟨behindClass.fill
          (typedClass "a.B" "SQL" "9" (signedMethod "run" "" "5" .nil) ++ .nil ++
            typedClass "a.C" "SQL" "9" .nil)⟩).value =
        (ofDocument ⟨behindClass.fill (typedClass "a.C" "SQL" "9" .nil ++ .nil ++
          typedClass "a.B" "SQL" "9" (signedMethod "run" "" "5" .nil))⟩).value := by
  have hmethods : Independent behindMethod (signedMethod "run" "()V" "5" .nil)
      (signedMethod "stop" "()V" "7" .nil) :=
    .methods none none (by decide +kernel) (by decide +kernel) (by decide +kernel)
  have hclasses : Independent behindClass
      (typedClass "a.B" "SQL" "9" (signedMethod "run" "" "5" .nil))
      (typedClass "a.C" "SQL" "9" .nil) :=
    .classes none none (by decide +kernel) (by decide +kernel) (by decide +kernel)
      (by decide +kernel)
  exact ⟨⟨hmethods, independent_declarations_commute hmethods rfl⟩, hclasses,
    independent_declarations_commute hclasses rfl⟩

end Policy

end Instrumentation
