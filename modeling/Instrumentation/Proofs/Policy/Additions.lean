import Instrumentation.Proofs.Policy.Declared
/-
  Adding declarations

  Whatever is put behind the last node of the block for declarations, the declarations
  in front of it come first and so stay in force: a class keeps its type and threshold,
  and a method its rule. Only where a method was traced through the rule for every
  overload can a new rule come before it, namely one for exactly its signature.

  What is proved:
    1. `find?_atFirst`, `declarations?_extended` — where a run is added, and that it is
       the block that policies are read from.
    2. `kept_declaredRule`, `kept_declaredTable` — more declarations behind others leave
       every rule of a class in force.
    3. `additions_keep_rules` — so no answer about a method is lost, and which answers
       can change.
-/

namespace Instrumentation

namespace Xml

def Node.changed (change : Content → Content) : Node → Node
  | root children => root (change children)
  | element name attributes children => element name attributes (change children)
  | node => node

/-- The content of an element is what is changed. -/
theorem Node.content_changed {tag : String} {node : Node} (h : node.isNamed tag = true)
    (change : Content → Content) : (node.changed change).content = change node.content := by
  cases node with
  | root children => rfl
  | element name attributes children => rfl
  | text value => cases h
  | comment value => cases h
  | instruction target value => cases h

namespace Content

/-- The run with the content of the first element of a name changed. -/
def atFirst (tag : String) (change : Content → Content) : Content → Content
  | nil => nil
  | element name attributes children next =>
    if name.localName == tag then element name attributes (change children) next
    else if children.descendants.any (Node.isNamed tag) then
      element name attributes (children.atFirst tag change) next
    else element name attributes children (next.atFirst tag change)
  | text value next => text value (next.atFirst tag change)
  | comment value next => comment value (next.atFirst tag change)
  | instruction target value next => instruction target value (next.atFirst tag change)

/-- The first element of the name is the one that was changed. -/
theorem find?_atFirst (tag : String) (change : Content → Content) (run : Content) :
    (run.atFirst tag change).descendants.find? (Node.isNamed tag) =
      (run.descendants.find? (Node.isNamed tag)).map (Node.changed change) := by
  induction run with
  | nil => rfl
  | text value next ih => simpa [atFirst, Node.isNamed] using ih
  | comment value next ih => simpa [atFirst, Node.isNamed] using ih
  | instruction target value next ih => simpa [atFirst, Node.isNamed] using ih
  | element name attributes children next ihc ihn =>
    rw [atFirst]
    by_cases hname : (name.localName == tag) = true
    · rw [if_pos hname]
      simp [Node.isNamed, hname, Node.changed]
    · rw [if_neg hname]
      -- Neither the element nor, when it holds none of the name, its content is the first.
      cases hfirst : children.descendants.find? (Node.isNamed tag) with
      | some first =>
        have hany : children.descendants.any (Node.isNamed tag) = true :=
          List.any_eq_true.2 ⟨first, List.mem_of_find?_eq_some hfirst, List.find?_some hfirst⟩
        rw [if_pos hany]
        simp [Node.isNamed, hname, List.find?_append, ihc, hfirst]
      | none =>
        have hany : ¬children.descendants.any (Node.isNamed tag) = true := by
          rw [List.any_eq_true]
          rintro ⟨node, hnode, hnamed⟩
          exact List.find?_eq_none.1 hfirst node hnode hnamed
        rw [if_neg hany]
        simp [Node.isNamed, hname, List.find?_append, ihn, hfirst]

end Content

end Xml

namespace Policy

open Xml (Content Document Node)

/-! ## Where declarations are added -/

/-- The document with a run behind the last node of its block for declarations. -/
def extended (document : Document) (added : Content) : Document :=
  ⟨document.content.atFirst agentTag (Content.atFirst instrumentationTag (· ++ added))⟩

/-- The block of the extended document is the one that it had, with the run in it. -/
theorem declarations?_extended (document : Document) (added : Content) :
    declarations? (extended document added) =
      (declarations? document).map (Node.changed (· ++ added)) := by
  have hagent : (Node.root (extended document added).content).firstElement? agentTag =
      ((Node.root document.content).firstElement? agentTag).map
        (Node.changed (Content.atFirst instrumentationTag (· ++ added))) :=
    Content.find?_atFirst agentTag _ document.content
  rw [declarations?, declarations?, hagent]
  cases hfirst : (Node.root document.content).firstElement? agentTag with
  | none => rfl
  | some agent =>
    have hnamed : agent.isNamed agentTag = true := List.find?_some hfirst
    simp only [Option.map_some, Option.bind_some, Node.firstElement?]
    rw [Node.content_changed hnamed, Content.find?_atFirst]

/-! ## What stays -/

/-- Everything that a rule of a class says stays in force in another one. -/
structure Kept (rule grown : ClassRule) : Prop where
  typeTag : grown.typeTag = rule.typeTag
  defaultThresholdMs : grown.defaultThresholdMs = rule.defaultThresholdMs
  methods : ∀ key method, rule.methods.get? key = some method →
    grown.methods.get? key = some method

theorem kept_declaredRule (declared added : List ClassDeclaration) (first : ClassDeclaration) :
    Kept (declaredRule declared first) (declaredRule (declared ++ added) first) := by
  refine ⟨rfl, rfl, ?_⟩
  intro key method h
  simp only [declaredRule, Table.get?_ofFirsts] at h ⊢
  rw [List.filter_append, List.flatMap_append, List.map_append, List.lookup_append, h]
  rfl

/-- More declarations behind others leave the rule of every class in force. -/
theorem kept_declaredTable (declared added : List ClassDeclaration) {className : String}
    {rule : ClassRule} (h : (declaredTable declared).get? className = some rule) :
    ∃ grown, (declaredTable (declared ++ added)).get? className = some grown ∧
      Kept rule grown := by
  rw [get?_declaredTable] at h
  obtain ⟨first, hfirst, rfl⟩ := Option.map_eq_some_iff.1 h
  refine ⟨declaredRule (declared ++ added) first, ?_, kept_declaredRule declared added first⟩
  rw [get?_declaredTable, List.find?_append, hfirst]
  rfl

/-- What is found for a method stays, unless it is the rule for every overload and there
is now one for exactly the signature. -/
theorem Kept.methodRule? {rule grown : ClassRule} (h : Kept rule grown)
    {method signature : String} {found : MethodRule}
    (hfound : rule.methodRule? method signature = some found) :
    ∃ later, grown.methodRule? method signature = some later ∧
      (later ≠ found →
        rule.methods.get? ⟨method, signature⟩ = none ∧
        rule.methods.get? ⟨method, ""⟩ = some found ∧
        grown.methods.get? ⟨method, signature⟩ = some later) := by
  unfold ClassRule.methodRule? at hfound ⊢
  cases hexact : rule.methods.get? ⟨method, signature⟩ with
  | some exact =>
    rw [hexact] at hfound
    obtain rfl : exact = found := Option.some.inj hfound
    exact ⟨exact, by rw [h.methods _ _ hexact]; rfl, fun hne => absurd rfl hne⟩
  | none =>
    have hany : rule.methods.get? ⟨method, ""⟩ = some found := by rwa [hexact] at hfound
    cases hnew : grown.methods.get? ⟨method, signature⟩ with
    | none => exact ⟨found, h.methods _ _ hany, fun hne => absurd rfl hne⟩
    | some later => exact ⟨later, rfl, fun _ => ⟨rfl, hany, rfl⟩⟩

/-- The rule for exactly one signature of a method. -/
def exactRule? (policy : Policy) (className method signature : String) : Option MethodRule :=
  (policy.classRule? className).bind (·.methods.get? ⟨method, signature⟩)

/-- The classes of the extended document are those of the same declarations with those
of the run behind them. -/
theorem exists_declared_extended (document : Document) (added : Content) :
    ∃ declared more,
      (ofDocument document).value.classes = declaredTable declared ∧
      (ofDocument (extended document added)).value.classes = declaredTable (declared ++ more) := by
  rw [value_ofDocument, value_ofDocument, declarations?_extended]
  cases hblock : declarations? document with
  | none => exact ⟨[], [], declaredTable_nil.symm, declaredTable_nil.symm⟩
  | some block =>
    obtain ⟨agent, -, hfirst⟩ := Option.bind_eq_some_iff.1 hblock
    have hnamed : block.isNamed instrumentationTag = true := List.find?_some hfirst
    refine ⟨declaredClasses block.content, declaredClasses added, ?_, ?_⟩
    · exact resolveClasses_eq_declared block
    · rw [← declaredClasses_append, ← Node.content_changed hnamed (· ++ added)]
      exact resolveClasses_eq_declared _

/-- Whatever is added behind the last node of the block for declarations, such as class
declarations of any kind with anything inside them: every class of the policy stays with
its type, its threshold and its methods, and every method that is traced stays traced. Its
threshold can change only if it was that of the rule for every overload, and then it is
now that of a rule for exactly its signature. -/
theorem additions_keep_rules (document : Document) (added : Content) :
    let before := (ofDocument document).value
    let after := (ofDocument (extended document added)).value
    declarations? (extended document added) =
      (declarations? document).map (Node.changed (· ++ added)) ∧
    (∀ className rule, before.classRule? className = some rule →
      ∃ grown, after.classRule? className = some grown ∧ Kept rule grown) ∧
    (∀ className method signature thresholdMs,
      before.methodThresholdMs? className method signature = some thresholdMs →
      ∃ laterMs, after.methodThresholdMs? className method signature = some laterMs ∧
        (laterMs ≠ thresholdMs →
          exactRule? before className method signature = none ∧
          (exactRule? before className method "").map (·.thresholdMs) = some thresholdMs ∧
          (exactRule? after className method signature).map (·.thresholdMs) = some laterMs)) := by
  intro before after
  obtain ⟨declared, more, hbefore, hafter⟩ := exists_declared_extended document added
  have hclasses : ∀ className rule, before.classRule? className = some rule →
      ∃ grown, after.classRule? className = some grown ∧ Kept rule grown := by
    intro className rule hrule
    rw [classRule?, hbefore] at hrule
    rw [classRule?, hafter]
    exact kept_declaredTable declared more hrule
  refine ⟨declarations?_extended document added, hclasses, ?_⟩
  intro className method signature thresholdMs hthreshold
  obtain ⟨found, hfound, rfl⟩ := Option.map_eq_some_iff.1 hthreshold
  obtain ⟨rule, hrule, hfound⟩ := Option.bind_eq_some_iff.1 hfound
  obtain ⟨grown, hgrown, hkept⟩ := hclasses className rule hrule
  obtain ⟨later, hlater, hchange⟩ := hkept.methodRule? hfound
  refine ⟨later.thresholdMs, ?_, ?_⟩
  · simp only [methodThresholdMs?, Policy.methodRule?, hgrown, Option.bind_some, hlater,
      Option.map_some]
  · intro hne
    obtain ⟨hexact, hany, hnew⟩ := hchange fun heq => hne (heq ▸ rfl)
    simp only [exactRule?, hrule, hgrown, Option.bind_some, hexact, hany, hnew, Option.map_some,
      and_self]

def typedClass (name typeTag thresholdMs : String) (methods : Content) : Content :=
  .element ⟨classTag, none⟩
    [⟨⟨nameAttribute, none⟩, name⟩, ⟨⟨typeAttribute, none⟩, typeTag⟩,
      ⟨⟨thresholdAttribute, none⟩, thresholdMs⟩] methods .nil

def signedMethod (name signature thresholdMs : String) (next : Content) : Content :=
  .element ⟨methodTag, none⟩
    [⟨⟨nameAttribute, none⟩, name⟩, ⟨⟨signatureAttribute, none⟩, signature⟩,
      ⟨⟨thresholdAttribute, none⟩, thresholdMs⟩] .nil next

/-- A document with one class, one of whose methods is traced whatever its signature. -/
def overloaded : Document :=
  ⟨.element ⟨agentTag, none⟩ []
    (.element ⟨instrumentationTag, none⟩ []
      (typedClass "a.B" "HTTP" "3" (signedMethod "run" "" "5" .nil)) .nil) .nil⟩

/-- The same class once more, with another type, the same method and an overload. -/
def redeclared : Content :=
  typedClass "a.B" "SQL" "9" (signedMethod "run" "" "8" (signedMethod "run" "()V" "7" .nil))

/-- The class keeps its type and threshold when it is declared again. The overload has
now a rule of its own, and that is what its threshold comes from. -/
theorem additions_keep_rules_of_redeclared :
    ∃ rule, (ofDocument overloaded).value.classRule? "a.B" = some rule ∧
    (ofDocument overloaded).value.methodThresholdMs? "a.B" "run" "()V" = some 5 ∧
    (∃ grown, (ofDocument (extended overloaded redeclared)).value.classRule? "a.B" = some grown ∧
      Kept rule grown ∧ grown.typeTag = "HTTP" ∧ grown.defaultThresholdMs = 3) ∧
    ∃ laterMs, (ofDocument (extended overloaded redeclared)).value.methodThresholdMs?
        "a.B" "run" "()V" = some laterMs ∧ laterMs = 7 ∧
      (laterMs ≠ 5 →
        exactRule? (ofDocument overloaded).value "a.B" "run" "()V" = none ∧
        (exactRule? (ofDocument overloaded).value "a.B" "run" "").map (·.thresholdMs) = some 5 ∧
        (exactRule? (ofDocument (extended overloaded redeclared)).value "a.B" "run" "()V").map
          (·.thresholdMs) = some laterMs) := by
  have hthreshold :
      (ofDocument overloaded).value.methodThresholdMs? "a.B" "run" "()V" = some 5 := by
    decide +kernel
  have hlater : (ofDocument (extended overloaded redeclared)).value.methodThresholdMs?
      "a.B" "run" "()V" = some 7 := by
    decide +kernel
  have hrule : (ofDocument overloaded).value.classRule? "a.B" =
      some ⟨"HTTP", 3, ⟨[(⟨"run", ""⟩, ⟨"run", "", 5⟩)]⟩⟩ := by
    decide +kernel
  obtain ⟨-, hclasses, hqueries⟩ := additions_keep_rules overloaded redeclared
  obtain ⟨grown, hgrown, hkept⟩ := hclasses _ _ hrule
  obtain ⟨laterMs, hfound, hchange⟩ := hqueries _ _ _ _ hthreshold
  refine ⟨_, hrule, hthreshold, ⟨grown, hgrown, hkept, hkept.typeTag,
    hkept.defaultThresholdMs⟩, laterMs, hfound, ?_, hchange⟩
  exact Option.some.inj (hfound.symm.trans hlater)

end Policy

end Instrumentation
