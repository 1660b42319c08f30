import Mathlib.Data.List.Forall2
import Instrumentation.Proofs.Policy.Declared
/-
  Documents that look alike

  Whatever resolves a document sees it through lookups only: the known attributes of
  an element, and the known elements inside it in document order. Nodes that
  answer these alike, and whose elements again do, cannot be told apart by them. So
  two documents have the same policy if their nodes can be paired in that way, with
  one exception: the threshold for slow queries is read from the text of an element.

  What is proved:
    1. `value_featuresOf`, `builtIns_ofDocument` — the built-in features come from the
       first block of their own, and their one number from one element in it.
    2. `exceptLimit_featuresOf_congr` — that number aside, the features are settled by the
       known attributes of the first element of each kind.
    3. `Likeness.classes_eq`, `Likeness.exceptLimit_eq` — documents that look alike have
       the same policy, that number aside.
    4. `Likeness.policy_eq_iff` — and the number too, exactly if the same is read from
       the text of that element.
-/

namespace Instrumentation.Policy

open Xml (Content Document Node)

/-! ## The built-in features of a document -/

/-- The block of built-in features that a document switches on. -/
def featureBlock? (document : Document) : Option Node :=
  ((declarations? document).bind (·.firstElement? builtInTag)).filter (·.isEnabled)

/-- The element from which a document's threshold for slow queries is read. -/
def limitElement? (document : Document) : Option Node :=
  (featureBlock? document).bind (·.firstElement? queryPlanThresholdTag)

def readLimit? (text : String) : Option UInt64 :=
  if Text.trim text = "" then none else (Text.number (Text.trim text)).toOption

/-- The threshold for slow queries that is read from an element, if there is one. -/
def limitMs (limit? : Option Node) : UInt64 :=
  ((limit?.bind Node.text?).bind readLimit?).getD defaultQueryPlanThresholdMs

def BuiltIns.exceptLimit (b : BuiltIns) : BuiltIns :=
  { b with queryPlanThresholdMs := defaultQueryPlanThresholdMs }

theorem BuiltIns.eq_of_exceptLimit {b c : BuiltIns} (h : b.exceptLimit = c.exceptLimit)
    (hlimit : b.queryPlanThresholdMs = c.queryPlanThresholdMs) : b = c := by
  obtain ⟨_, _, _, _, _, _⟩ := b
  obtain ⟨_, _, _, _, _, _⟩ := c
  simp_all [exceptLimit]

theorem eq_of_parts {policy other : Policy} (hbuiltIns : policy.builtIns = other.builtIns)
    (hclasses : policy.classes = other.classes) : policy = other := by
  obtain ⟨_, _⟩ := policy
  obtain ⟨_, _⟩ := other
  simp_all

theorem value_numberText? (node : Node) : node.numberText?.value = node.text?.bind readLimit? := by
  unfold Node.numberText? readLimit?
  cases node.text? with
  | none => rfl
  | some text =>
    by_cases hblank : Text.trim text = ""
    · simp [hblank, Option.filter]
    · simp only [Option.map_some, Option.filter, hblank, ne_eq, not_false_eq_true, decide_true,
        if_true, Option.bind_some, if_false]
      cases Text.number (Text.trim text) <;> rfl

/-- The features of a block: what its first elements say, each for itself. -/
theorem value_featuresOf (block : Node) :
    (featuresOf block).value =
      { enabled := true
        http := {
          enabled := Node.featureEnabled (block.firstElement? httpTag)
          traceContext := (block.firstElement? httpTag).any
            (·.boolAttribute traceContextAttribute false)
          backCompat := (block.firstElement? httpTag).all
            (·.boolAttribute backCompatAttribute true) }
        jdbc := Node.featureEnabled (block.firstElement? jdbcTag)
        logging := {
          enabled := Node.featureEnabled (block.firstElement? loggingTag)
          thresholdLevel := ((block.firstElement? loggingTag).map fun l =>
            l.stringAttribute loggingThresholdAttribute defaultLoggingLevel).getD
              defaultLoggingLevel }
        cacheClient := Node.featureEnabled (block.firstElement? cacheClientTag)
        queryPlanThresholdMs := limitMs (block.firstElement? queryPlanThresholdTag) } := by
  unfold featuresOf limitMs
  cases block.firstElement? queryPlanThresholdTag with
  | none => rfl
  | some limit => simp [value_numberText?, BuiltIns.stored]

/-- The features of a document are those of the block that it switches on. -/
theorem builtIns_ofDocument (document : Document) :
    (ofDocument document).value.builtIns =
      ((featureBlock? document).map fun block => (featuresOf block).value).getD .disabled := by
  rw [value_ofDocument, featureBlock?]
  cases declarations? document with
  | none => rfl
  | some declarations =>
    show (resolveBuiltIns declarations).value = _
    rw [resolveBuiltIns, Option.bind_some]
    cases declarations.firstElement? builtInTag with
    | none => rfl
    | some block => cases h : block.isEnabled <;> simp [h, Option.filter]

theorem queryPlan_ofDocument (document : Document) :
    (ofDocument document).value.builtIns.queryPlanThresholdMs =
      limitMs (limitElement? document) := by
  rw [builtIns_ofDocument, limitElement?]
  cases featureBlock? document with
  | none => rfl
  | some block => simp [value_featuresOf]

/-! ## Nodes that answer the lookups alike -/

/-- A relation between nodes that the lookups cannot tell apart. -/
structure Likeness (alike : Node → Node → Prop) : Prop where
  named : ∀ {node other}, alike node other → ∀ tag, node.isNamed tag = other.isNamed tag
  attribute? : ∀ {node other}, alike node other → ∀ name ∈ knownAttributes,
    node.attribute? name = other.attribute? name
  elements : ∀ {node other}, alike node other → ∀ tag ∈ knownTags,
    List.Forall₂ alike (node.elementsNamed tag) (other.elementsNamed tag)

theorem forall₂_filterMap_eq {α β : Type} {r : α → α → Prop} {f : α → Option β} {xs ys : List α}
    (h : List.Forall₂ r xs ys) (hf : ∀ {a b}, r a b → f a = f b) :
    xs.filterMap f = ys.filterMap f := by
  induction h with
  | nil => rfl
  | cons hab _ ih => rw [List.filterMap_cons, List.filterMap_cons, hf hab, ih]

theorem forall₂_head? {α : Type} {r : α → α → Prop} {xs ys : List α} (h : List.Forall₂ r xs ys) :
    Option.Rel r xs.head? ys.head? := by
  cases h with
  | nil => exact .none
  | cons hab _ => exact .some hab

/-- Related options cannot be told apart by a function that cannot tell related values
apart. -/
theorem rel_congr {α β : Type} {r : α → α → Prop} {x y : Option α} (f : Option α → β)
    (h : Option.Rel r x y) (hf : ∀ {a b}, r a b → f (some a) = f (some b)) : f x = f y := by
  cases h with
  | none => rfl
  | some hab => exact hf hab

theorem rel_bind {α : Type} {r : α → α → Prop} {x y : Option α} {f : α → Option α}
    (h : Option.Rel r x y) (hf : ∀ {a b}, r a b → Option.Rel r (f a) (f b)) :
    Option.Rel r (x.bind f) (y.bind f) := by
  cases h with
  | none => exact .none
  | some hab => exact hf hab

theorem rel_refl {α : Type} {r : α → α → Prop} (hr : ∀ a, r a a) (x : Option α) :
    Option.Rel r x x := by
  cases x with
  | none => exact .none
  | some a => exact .some (hr a)

theorem rel_or {α : Type} {r : α → α → Prop} {x y u v : Option α} (h : Option.Rel r x y)
    (hor : Option.Rel r u v) : Option.Rel r (x.or u) (y.or v) := by
  cases h with
  | none => exact hor
  | some hab => exact .some hab

theorem rel_filter {α : Type} {r : α → α → Prop} {x y : Option α} {p : α → Bool}
    (h : Option.Rel r x y) (hp : ∀ {a b}, r a b → p a = p b) :
    Option.Rel r (x.filter p) (y.filter p) := by
  cases h with
  | none => exact .none
  | some hab =>
    rw [Option.filter_some, Option.filter_some, hp hab]
    split
    · exact .some hab
    · exact .none

theorem rel_mono {α : Type} {r r' : α → α → Prop} {x y : Option α} (h : Option.Rel r x y)
    (hr : ∀ {a b}, r a b → r' a b) : Option.Rel r' x y := by
  cases h with
  | none => exact .none
  | some hab => exact .some (hr hab)

theorem firstElement?_eq_head? (node : Node) (tag : String) :
    node.firstElement? tag = (node.elementsNamed tag).head? :=
  List.head?_filter.symm

/-- Nodes whose known attributes have the same values. -/
def SameAttributes (node other : Node) : Prop :=
  ∀ name ∈ knownAttributes, node.attribute? name = other.attribute? name

/-! ### Attributes -/

namespace SameAttributes

variable {node other : Node}

theorem nonEmptyAttribute? (h : SameAttributes node other) {name : String}
    (hname : name ∈ knownAttributes) :
    node.nonEmptyAttribute? name = other.nonEmptyAttribute? name := by
  rw [Node.nonEmptyAttribute?, Node.nonEmptyAttribute?, h name hname]

theorem boolAttribute (h : SameAttributes node other) {name : String}
    (hname : name ∈ knownAttributes) (default : Bool) :
    node.boolAttribute name default = other.boolAttribute name default := by
  rw [Node.boolAttribute, Node.boolAttribute, h.nonEmptyAttribute? hname]

theorem stringAttribute (h : SameAttributes node other) {name : String}
    (hname : name ∈ knownAttributes) (default : String) :
    node.stringAttribute name default = other.stringAttribute name default := by
  rw [Node.stringAttribute, Node.stringAttribute, h.nonEmptyAttribute? hname]

theorem isEnabled (h : SameAttributes node other) : node.isEnabled = other.isEnabled :=
  h.boolAttribute (by decide) true

theorem counts (h : SameAttributes node other) : Policy.counts node = Policy.counts other := by
  rw [← isEnabled_eq_counts, ← isEnabled_eq_counts, h.isEnabled]

theorem ownThreshold? (h : SameAttributes node other) :
    Policy.ownThreshold? node = Policy.ownThreshold? other := by
  rw [Policy.ownThreshold?, Policy.ownThreshold?, h thresholdAttribute (by decide)]

end SameAttributes

/-! ### Features -/

def featureTags : List String := [httpTag, jdbcTag, loggingTag, cacheClientTag]

/-- The features of a block are up to the attributes of its first elements for them, the
threshold for slow queries aside. -/
theorem exceptLimit_featuresOf_congr {block other : Node}
    (h : ∀ tag ∈ featureTags,
      Option.Rel SameAttributes (block.firstElement? tag) (other.firstElement? tag)) :
    (featuresOf block).value.exceptLimit = (featuresOf other).value.exceptLimit := by
  have henabled : ∀ tag ∈ featureTags, Node.featureEnabled (block.firstElement? tag) =
      Node.featureEnabled (other.firstElement? tag) :=
    fun tag htag => rel_congr Node.featureEnabled (h tag htag) SameAttributes.isEnabled
  have htraceContext := rel_congr
    (Option.any fun http : Node => http.boolAttribute traceContextAttribute false)
    (h httpTag (by decide)) fun hr => hr.boolAttribute (by decide) false
  have hbackCompat := rel_congr
    (Option.all fun http : Node => http.boolAttribute backCompatAttribute true)
    (h httpTag (by decide)) fun hr => hr.boolAttribute (by decide) true
  have hlevel := rel_congr
    (Option.map fun l : Node => l.stringAttribute loggingThresholdAttribute defaultLoggingLevel)
    (h loggingTag (by decide)) fun hr => congrArg some (hr.stringAttribute (by decide) _)
  simp only [value_featuresOf, BuiltIns.exceptLimit, htraceContext, hbackCompat, hlevel,
    henabled httpTag (by decide), henabled jdbcTag (by decide), henabled loggingTag (by decide),
    henabled cacheClientTag (by decide)]

namespace Likeness

variable {alike : Node → Node → Prop} {node other : Node}

theorem sameAttributes (h : Likeness alike) (hn : alike node other) : SameAttributes node other :=
  h.attribute? hn

/-! ### Elements -/

theorem firstElement? (h : Likeness alike) (hn : alike node other) {tag : String}
    (htag : tag ∈ knownTags) :
    Option.Rel alike (node.firstElement? tag) (other.firstElement? tag) := by
  rw [firstElement?_eq_head?, firstElement?_eq_head?]
  exact forall₂_head? (h.elements hn tag htag)

theorem methodDeclaration? (h : Likeness alike) (hn : alike node other) :
    Policy.methodDeclaration? node = Policy.methodDeclaration? other := by
  have hsame := h.sameAttributes hn
  unfold Policy.methodDeclaration?
  rw [h.named hn, hsame.counts, hsame.nonEmptyAttribute? (by decide),
    hsame signatureAttribute (by decide), hsame.ownThreshold?]

/-- What is declared in a node is what its elements of one tag declare. -/
theorem filterMap_descendants {β : Type} {said : Node → Option β} {tag : String}
    (hsaid : ∀ node, node.isNamed tag = false → said node = none) (node : Node) :
    node.content.descendants.filterMap said = (node.elementsNamed tag).filterMap said := by
  rw [Node.elementsNamed, List.filterMap_filter]
  congr 1
  funext inner
  cases hnamed : inner.isNamed tag with
  | false => exact hsaid inner hnamed
  | true => rfl

theorem declaredMethods (h : Likeness alike) (hn : alike node other) :
    Policy.declaredMethods node.content = Policy.declaredMethods other.content := by
  have hsaid : ∀ node : Node, node.isNamed methodTag = false →
      Policy.methodDeclaration? node = none := by
    intro node hnamed
    simp [Policy.methodDeclaration?, hnamed]
  unfold Policy.declaredMethods
  rw [filterMap_descendants hsaid, filterMap_descendants hsaid]
  exact forall₂_filterMap_eq (h.elements hn methodTag (by decide)) h.methodDeclaration?

theorem classDeclaration? (h : Likeness alike) (hn : alike node other) :
    Policy.classDeclaration? node = Policy.classDeclaration? other := by
  have hsame := h.sameAttributes hn
  unfold Policy.classDeclaration?
  rw [h.named hn, hsame.counts, hsame.nonEmptyAttribute? (by decide),
    hsame.nonEmptyAttribute? (by decide), hsame.ownThreshold?, h.declaredMethods hn]

theorem declaredClasses (h : Likeness alike) (hn : alike node other) :
    Policy.declaredClasses node.content = Policy.declaredClasses other.content := by
  have hsaid : ∀ node : Node, node.isNamed classTag = false →
      Policy.classDeclaration? node = none := by
    intro node hnamed
    simp [Policy.classDeclaration?, hnamed]
  unfold Policy.declaredClasses
  rw [filterMap_descendants hsaid, filterMap_descendants hsaid]
  exact forall₂_filterMap_eq (h.elements hn classTag (by decide)) h.classDeclaration?

theorem declaredBlock? (h : Likeness alike) (hn : alike node other) :
    Policy.declaredBlock? node.content = Policy.declaredBlock? other.content :=
  rel_congr (Option.map fun block : Node => Policy.declaredClasses block.content)
    (h.firstElement? hn (show instrumentationTag ∈ knownTags by decide))
    fun hblock => congrArg some (h.declaredClasses hblock)

theorem declaredAgent? (h : Likeness alike) (hn : alike node other) :
    Policy.declaredAgent? node.content = Policy.declaredAgent? other.content :=
  rel_congr (Option.map fun agent : Node => Policy.declaredBlock? agent.content)
    (h.firstElement? hn (show agentTag ∈ knownTags by decide))
    fun hagent => congrArg some (h.declaredBlock? hagent)

/-! ### Documents -/

variable {document twin : Document}

theorem classes_eq (h : Likeness alike) (hd : alike (.root document.content) (.root twin.content)) :
    (ofDocument document).value.classes = (ofDocument twin).value.classes := by
  have hagent : Policy.declaredAgent? document.content = Policy.declaredAgent? twin.content :=
    h.declaredAgent? hd
  rw [classes_ofDocument, classes_ofDocument, hagent]

theorem featureBlock? (h : Likeness alike)
    (hd : alike (.root document.content) (.root twin.content)) :
    Option.Rel alike (Policy.featureBlock? document) (Policy.featureBlock? twin) := by
  have hdeclarations : Option.Rel alike (declarations? document) (declarations? twin) :=
    rel_bind (h.firstElement? hd (by decide)) fun hagent => h.firstElement? hagent (by decide)
  exact rel_filter (rel_bind hdeclarations fun hr => h.firstElement? hr (by decide))
    fun hr => (h.sameAttributes hr).isEnabled

theorem exceptLimit_featuresOf (h : Likeness alike) (hn : alike node other) :
    (featuresOf node).value.exceptLimit = (featuresOf other).value.exceptLimit := by
  apply exceptLimit_featuresOf_congr
  intro tag htag
  have hknown : ∀ tag ∈ featureTags, tag ∈ knownTags := by decide
  exact rel_mono (h.firstElement? hn (hknown tag htag)) h.sameAttributes

theorem limitElement? (h : Likeness alike)
    (hd : alike (.root document.content) (.root twin.content)) :
    Option.Rel alike (Policy.limitElement? document) (Policy.limitElement? twin) :=
  rel_bind (h.featureBlock? hd) fun hblock => h.firstElement? hblock (by decide)

/-- Documents that look alike have the same built-in features, the threshold for slow
queries aside. -/
theorem exceptLimit_eq (h : Likeness alike)
    (hd : alike (.root document.content) (.root twin.content)) :
    (ofDocument document).value.builtIns.exceptLimit =
      (ofDocument twin).value.builtIns.exceptLimit := by
  rw [builtIns_ofDocument, builtIns_ofDocument]
  exact rel_congr
    (fun block? => ((block?.map fun block => (featuresOf block).value).getD .disabled).exceptLimit)
    (h.featureBlock? hd) h.exceptLimit_featuresOf

/-- Documents that look alike have the same policy exactly if the same threshold for
slow queries is read in both. -/
theorem policy_eq_iff (h : Likeness alike)
    (hd : alike (.root document.content) (.root twin.content)) :
    (ofDocument document).value = (ofDocument twin).value ↔
      limitMs (Policy.limitElement? document) = limitMs (Policy.limitElement? twin) := by
  rw [← queryPlan_ofDocument, ← queryPlan_ofDocument]
  constructor
  · intro heq
    rw [heq]
  · intro hlimit
    exact eq_of_parts (BuiltIns.eq_of_exceptLimit (h.exceptLimit_eq hd) hlimit) (h.classes_eq hd)

end Likeness

end Instrumentation.Policy
