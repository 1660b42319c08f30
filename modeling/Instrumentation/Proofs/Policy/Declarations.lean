import Instrumentation.Policy.Resolve
import Instrumentation.Proofs.Policy.TableEntries
/-
  The class table as a scan of the declarations

  The class table is built by two nested loops that look every class and every
  method up before they change the table. The scan here keeps no table at all: it
  lists the declarations that count in document order and takes the first of each
  class name and of each pair of method name and signature.

  What is proved:
    1. `get?_foldl_enter` and `get?_foldl_declare` — what the two loops leave under
       a key depends on the declarations of that key alone.
    2. `resolveClasses_eq_scan` — the loops and the scan make the same table.
    3. `policy_eq_scan` — so the classes, their types and thresholds, their methods
       and the thresholds that are looked up are those of the scan.
-/

namespace Instrumentation.Policy

open Xml (Document Node)

/-! ## The scan -/

/-- Whether a declaration counts: it does unless it is switched off. -/
def counts (node : Node) : Bool :=
  match node.attribute? enabledAttribute with
  | none => true
  | some value => value == "" || Node.saysTrue value

/-- The declarations among some nodes that count and have a name, in their order. -/
def named (nodes : List Node) : List (String × Node) :=
  nodes.filterMap fun node =>
    if counts node then (node.nonEmptyAttribute? nameAttribute).map (·, node) else none

/-- The threshold that a declaration states itself, if it can be read. -/
def ownThreshold? (node : Node) : Option UInt64 :=
  (node.attribute? thresholdAttribute).bind fun value => (Text.number (Text.trim value)).toOption

def classDeclarations (block : Node) : List (String × Node) :=
  named (block.content.descendants.filter (Node.isNamed classTag))

def methodDeclarations (node : Node) : List (MethodKey × Node) :=
  (named (node.content.descendants.filter (Node.isNamed methodTag))).map fun (name, method) =>
    (⟨name, (method.attribute? signatureAttribute).getD ""⟩, method)

/-- The method declarations inside all declarations of a class. -/
def methodsOf (declared : List (String × Node)) (className : String) : List (MethodKey × Node) :=
  (declared.filter (·.1 == className)).flatMap fun d => methodDeclarations d.2

def scannedMethod (thresholdMs : UInt64) (d : MethodKey × Node) : MethodRule :=
  ⟨d.1.name, d.1.signature, (ownThreshold? d.2).getD thresholdMs⟩

/-- The rule of a class whose first declaration is `first`. -/
def scannedRule (declared : List (String × Node)) (className : String) (first : Node) : ClassRule :=
  let thresholdMs := (ownThreshold? first).getD 0
  { typeTag := (first.nonEmptyAttribute? typeAttribute).getD otherType
    defaultThresholdMs := thresholdMs
    methods := .ofFirsts <|
      (methodsOf declared className).map fun d => (d.1, scannedMethod thresholdMs d) }

def scannedClasses (block : Node) : Table String ClassRule :=
  let declared := classDeclarations block
  .ofFirsts (declared.map fun d => (d.1, scannedRule declared d.1 d.2))

/-- The threshold of a method by the declarations inside a node: that of the first
declaration of its signature, or else of the first for every overload. -/
def scannedThreshold? (block : Node) (className method signature : String) : Option UInt64 :=
  let declared := classDeclarations block
  let methods := methodsOf declared className
  (declared.lookup className).bind fun first =>
    ((methods.lookup ⟨method, signature⟩).or (methods.lookup ⟨method, ""⟩)).map fun node =>
      (ownThreshold? node).getD ((ownThreshold? first).getD 0)

/-- The first block for declarations inside the first policy element. -/
def scannedBlock? (document : Document) : Option Node :=
  (document.nodes.find? (Node.isNamed agentTag)).bind fun agent =>
    agent.content.descendants.find? (Node.isNamed instrumentationTag)

/-! ## Reading one declaration -/

theorem isEnabled_eq_counts (node : Node) : node.isEnabled = counts node := by
  unfold Node.isEnabled Node.boolAttribute Node.nonEmptyAttribute? counts
  cases node.attribute? enabledAttribute with
  | none => rfl
  | some value => by_cases h : value = "" <;> simp [Option.filter, h]

theorem value_numberAttribute (node : Node) (default : UInt64) :
    (node.numberAttribute thresholdAttribute default).value =
      (ownThreshold? node).getD default := by
  unfold Node.numberAttribute Node.nonEmptyAttribute? ownThreshold?
  cases node.attribute? thresholdAttribute with
  | none => rfl
  | some value =>
    by_cases h : value = ""
    · subst h
      rfl
    · simp only [Option.filter, h, ne_eq, not_false_eq_true, decide_true, if_true,
        Option.bind_some]
      cases Text.number (Text.trim value) <;> rfl

/-- The rule that a class declaration begins, without what it logs. -/
def begun (node : Node) : ClassRule :=
  .ofClass ((node.nonEmptyAttribute? typeAttribute).getD otherType) ((ownThreshold? node).getD 0)

theorem value_beginClass (node : Node) : (beginClass node).value = begun node := by
  simp [beginClass, begun, value_numberAttribute, Node.stringAttribute]

/-- Adds a declared method to a rule unless it is there. -/
def declare (rule : ClassRule) (d : MethodKey × Node) : ClassRule :=
  (rule.addMethod d.1.name d.1.signature ((ownThreshold? d.2).getD rule.defaultThresholdMs)).1

theorem value_declareMethod (rule : ClassRule) (name signature : String) (thresholdMs : UInt64) :
    (rule.declareMethod name signature thresholdMs).value =
      (rule.addMethod name signature thresholdMs).1 := by
  unfold ClassRule.declareMethod
  split <;> next h => simp [h]

theorem value_addMethods (rule : ClassRule) (node : Node) :
    (addMethods rule node).value = (methodDeclarations node).foldl declare rule := by
  rw [addMethods, Logged.value_foldl, methodDeclarations, List.foldl_map, named,
    List.foldl_filterMap, Node.elementsNamed]
  congr 1
  funext rule method
  unfold addMethodNode
  rw [isEnabled_eq_counts]
  cases counts method with
  | false => rfl
  | true =>
    cases method.nonEmptyAttribute? nameAttribute with
    | none => rfl
    | some name => simp [declare, value_declareMethod, value_numberAttribute]

def enter (classes : Table String ClassRule) (d : String × Node) : Table String ClassRule :=
  classes.set d.1 ((methodDeclarations d.2).foldl declare ((classes.get? d.1).getD (begun d.2)))

theorem value_resolveClasses (block : Node) :
    (resolveClasses block).value = (classDeclarations block).foldl enter .empty := by
  rw [resolveClasses, Logged.value_foldl, classDeclarations, named, List.foldl_filterMap,
    Node.elementsNamed]
  congr 1
  funext classes node
  unfold addClass
  rw [isEnabled_eq_counts]
  cases counts node with
  | false => rfl
  | true =>
    cases node.nonEmptyAttribute? nameAttribute with
    | none => rfl
    | some name =>
      simp only [enter, Bool.not_true, Bool.false_eq_true, if_false, if_true, Option.map_some]
      cases classes.get? name <;> simp [value_beginClass, value_addMethods]

/-! ## What the two loops leave under a key -/

theorem lookup_map {κ ν μ : Type} [DecidableEq κ] (f : κ × ν → μ) (entries : List (κ × ν))
    (key : κ) :
    (entries.map fun e => (e.1, f e)).lookup key =
      (entries.lookup key).map fun value => f (key, value) := by
  induction entries with
  | nil => rfl
  | cons e rest ih =>
    obtain ⟨k, v⟩ := e
    by_cases hk : key = k
    · subst hk
      simp
    · have hb : (key == k) = false := by simpa using hk
      simp only [List.map_cons, List.lookup_cons, hb, ih]

theorem lookup_eq_head? {κ ν : Type} [DecidableEq κ] (entries : List (κ × ν)) (key : κ) :
    entries.lookup key = (entries.filter (·.1 == key)).head?.map (·.2) := by
  induction entries with
  | nil => rfl
  | cons e rest ih =>
    obtain ⟨k, v⟩ := e
    by_cases hk : k = key
    · subst hk
      simp
    · have hb : (key == k) = false := by simpa using Ne.symm hk
      simp [List.lookup_cons, hb, hk, ih]

theorem lookup_map_key {α κ ν : Type} [DecidableEq κ] (key : α → κ) (f : α → ν) (xs : List α)
    (k : κ) :
    (xs.map fun x => (key x, f x)).lookup k = (xs.find? (key · == k)).map f := by
  rw [lookup_eq_head?, List.filter_map, List.head?_map, ← List.head?_filter, Option.map_map]
  rfl

/-- A declared method takes its place unless its key is taken. -/
theorem get?_declare (rule : ClassRule) (d : MethodKey × Node) (key : MethodKey) :
    (declare rule d).methods.get? key =
      (rule.methods.get? key).or
        (if d.1 = key then some (scannedMethod rule.defaultThresholdMs d) else none) := by
  unfold declare ClassRule.addMethod Table.contains
  by_cases hk : d.1 = key
  · subst hk
    cases h : rule.methods.get? d.1 with
    | some taken => simp [h]
    | none => simp [Table.get?_set_self, scannedMethod]
  · have hother := Table.get?_set_of_ne rule.methods
      (⟨d.1.name, d.1.signature, (ownThreshold? d.2).getD rule.defaultThresholdMs⟩ : MethodRule)
      (Ne.symm hk)
    cases h : (rule.methods.get? d.1).isSome with
    | true => simp [hk]
    | false => simp [hk, hother]

/-- The methods after the inner loop: those that were there, and for every other
key the first declaration. The class keeps its type and threshold. -/
theorem foldl_declare (ds : List (MethodKey × Node)) (rule : ClassRule) :
    (ds.foldl declare rule).typeTag = rule.typeTag ∧
    (ds.foldl declare rule).defaultThresholdMs = rule.defaultThresholdMs ∧
    ∀ key, (ds.foldl declare rule).methods.get? key =
      (rule.methods.get? key).or
        ((ds.lookup key).map fun node => scannedMethod rule.defaultThresholdMs (key, node)) := by
  induction ds generalizing rule with
  | nil => simp
  | cons d rest ih =>
    have hstep : (declare rule d).typeTag = rule.typeTag ∧
        (declare rule d).defaultThresholdMs = rule.defaultThresholdMs := by
      unfold declare ClassRule.addMethod
      split <;> exact ⟨rfl, rfl⟩
    obtain ⟨htype, hthreshold, hget⟩ := ih (declare rule d)
    refine ⟨htype.trans hstep.1, hthreshold.trans hstep.2, ?_⟩
    intro key
    rw [List.foldl_cons, hget, get?_declare, hstep.2]
    obtain ⟨k, node⟩ := d
    by_cases hk : k = key
    · subst hk
      cases rule.methods.get? k <;> simp
    · have hb : (key == k) = false := by simpa using Ne.symm hk
      simp [List.lookup_cons, hb, hk]

theorem ascending_foldl_declare (ds : List (MethodKey × Node)) {rule : ClassRule}
    (h : rule.methods.Ascending) : (ds.foldl declare rule).methods.Ascending := by
  induction ds generalizing rule with
  | nil => exact h
  | cons d rest ih =>
    apply ih
    unfold declare ClassRule.addMethod
    split
    · exact h
    · exact h.set _ _

/-- What a class declaration makes of the rule of its class, if there is one. -/
def grow (rule? : Option ClassRule) (d : String × Node) : Option ClassRule :=
  some ((methodDeclarations d.2).foldl declare (rule?.getD (begun d.2)))

/-- The rule of a class after the outer loop: only its own declarations count. -/
theorem get?_foldl_enter (ds : List (String × Node)) (classes : Table String ClassRule)
    (className : String) :
    (ds.foldl enter classes).get? className =
      (ds.filter (·.1 == className)).foldl grow (classes.get? className) := by
  induction ds generalizing classes with
  | nil => rfl
  | cons d rest ih =>
    rw [List.foldl_cons, ih]
    by_cases hd : d.1 = className
    · subst hd
      simp [enter, grow, Table.get?_set_self]
    · have hother : (enter classes d).get? className = classes.get? className :=
        Table.get?_set_of_ne _ _ (Ne.symm hd)
      simp [hd, hother]

theorem foldl_grow_some (ds : List (String × Node)) (rule : ClassRule) :
    ds.foldl grow (some rule) =
      some ((ds.flatMap fun d => methodDeclarations d.2).foldl declare rule) := by
  induction ds generalizing rule with
  | nil => rfl
  | cons d rest ih =>
    rw [List.foldl_cons, grow, ih, List.flatMap_cons, List.foldl_append]
    rfl

theorem ascending_foldl_enter (ds : List (String × Node)) {classes : Table String ClassRule}
    (h : classes.Ascending) : (ds.foldl enter classes).Ascending := by
  induction ds generalizing classes with
  | nil => exact h
  | cons d rest ih => exact ih (h.set _ _)

/-! ## The loops and the scan -/

/-- The methods of a class, declared one after the other, are the scanned rule. -/
theorem foldl_declare_begun (declared : List (String × Node)) (className : String)
    (first : Node) :
    (methodsOf declared className).foldl declare (begun first) =
      scannedRule declared className first := by
  obtain ⟨htype, hthreshold, hget⟩ :=
    foldl_declare (methodsOf declared className) (begun first)
  have hmethods : ((methodsOf declared className).foldl declare (begun first)).methods =
      (scannedRule declared className first).methods := by
    apply Table.ext_get? (ascending_foldl_declare _ Table.ascending_empty)
      (Table.ascending_ofFirsts _)
    intro key
    rw [hget, Table.get?_ofFirsts, lookup_map]
    rfl
  generalize (methodsOf declared className).foldl declare (begun first) = rule at *
  obtain ⟨typeTag, thresholdMs, methods⟩ := rule
  obtain rfl : typeTag = _ := htype
  obtain rfl : thresholdMs = _ := hthreshold
  obtain rfl : methods = _ := hmethods
  rfl

theorem get?_resolveClasses (block : Node) (className : String) :
    (resolveClasses block).value.get? className =
      ((classDeclarations block).lookup className).map
        (scannedRule (classDeclarations block) className) := by
  rw [value_resolveClasses, get?_foldl_enter, lookup_eq_head?]
  cases h : (classDeclarations block).filter (·.1 == className) with
  | nil => rfl
  | cons d rest =>
    have hgrow : (d :: rest).foldl grow none =
        some (((d :: rest).flatMap fun d => methodDeclarations d.2).foldl declare
          (begun d.2)) := by
      rw [List.foldl_cons, grow, foldl_grow_some, List.flatMap_cons, List.foldl_append]
      rfl
    have hmethods : (d :: rest).flatMap (fun d => methodDeclarations d.2) =
        methodsOf (classDeclarations block) className := by
      rw [methodsOf, h]
    show (d :: rest).foldl grow none = _
    rw [hgrow, hmethods, foldl_declare_begun]
    rfl

/-- The two loops make the table of the scan. -/
theorem resolveClasses_eq_scan (block : Node) :
    (resolveClasses block).value = scannedClasses block := by
  apply Table.ext_get?
  · rw [value_resolveClasses]
    exact ascending_foldl_enter _ Table.ascending_empty
  · exact Table.ascending_ofFirsts _
  · intro className
    rw [get?_resolveClasses, scannedClasses, Table.get?_ofFirsts, lookup_map]

theorem declarations?_eq_scannedBlock? (document : Document) :
    declarations? document = scannedBlock? document := rfl

theorem get?_scannedRule (declared : List (String × Node)) (className : String) (first : Node)
    (key : MethodKey) :
    (scannedRule declared className first).methods.get? key =
      ((methodsOf declared className).lookup key).map fun node =>
        scannedMethod ((ownThreshold? first).getD 0) (key, node) := by
  rw [scannedRule, Table.get?_ofFirsts, lookup_map]

/-- The thresholds that the scanned rules give, with the rule for every overload
where there is none for a signature. -/
theorem methodThreshold_scanned (policy : Policy) (block : Node)
    (h : policy.classes = scannedClasses block) (className method signature : String) :
    policy.methodThresholdMs? className method signature =
      scannedThreshold? block className method signature := by
  simp only [methodThresholdMs?, methodRule?, classRule?, scannedThreshold?, h, scannedClasses,
    Table.get?_ofFirsts, lookup_map]
  cases (classDeclarations block).lookup className with
  | none => rfl
  | some first =>
    simp only [Option.map_some, Option.bind_some, ClassRule.methodRule?, get?_scannedRule]
    cases (methodsOf (classDeclarations block) className).lookup ⟨method, signature⟩ with
    | some node => rfl
    | none =>
      cases (methodsOf (classDeclarations block) className).lookup ⟨method, ""⟩ <;> rfl

/-- The class table of a document is the scan of its declarations, and so is every
answer that it gives. Without a block for declarations the policy is empty. -/
theorem policy_eq_scan (document : Document) :
    match scannedBlock? document with
    | none => (ofDocument document).value = .empty
    | some block =>
      (ofDocument document).value.classes = scannedClasses block ∧
      (∀ className, (ofDocument document).value.isInstrumented className = true ↔
        ∃ node, (className, node) ∈ classDeclarations block) ∧
      (∀ className, (ofDocument document).value.classRule? className =
        ((classDeclarations block).lookup className).map
          (scannedRule (classDeclarations block) className)) ∧
      ∀ className method signature,
        (ofDocument document).value.methodThresholdMs? className method signature =
          scannedThreshold? block className method signature := by
  rw [value_ofDocument, declarations?_eq_scannedBlock?]
  cases scannedBlock? document with
  | none => rfl
  | some block =>
    have hclasses : (ofDeclarations block).value.classes = scannedClasses block :=
      resolveClasses_eq_scan block
    have hrule : ∀ className, (ofDeclarations block).value.classRule? className =
        ((classDeclarations block).lookup className).map
          (scannedRule (classDeclarations block) className) := by
      intro className
      rw [classRule?, hclasses, ← resolveClasses_eq_scan, get?_resolveClasses]
    refine ⟨hclasses, ?_, hrule, methodThreshold_scanned _ block hclasses⟩
    intro className
    have hcontains : (ofDeclarations block).value.isInstrumented className =
        ((classDeclarations block).lookup className).isSome := by
      show ((ofDeclarations block).value.classRule? className).isSome = _
      rw [hrule, Option.isSome_map]
    rw [hcontains, List.lookup_isSome_iff]
    constructor
    · rintro ⟨⟨name, node⟩, hmem, hname⟩
      obtain rfl : className = name := by simpa using hname
      exact ⟨node, hmem⟩
    · rintro ⟨node, hmem⟩
      exact ⟨_, hmem, by simp⟩

end Instrumentation.Policy
