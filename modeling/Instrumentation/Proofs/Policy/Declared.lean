import Instrumentation.Proofs.Policy.Declarations
import Instrumentation.Proofs.Xml.Gap
/-
  What a run of nodes declares

  The class table of a document depends on little of its tree: on the first block
  for declarations, on the class declarations in it that count, and for each of
  them on its attributes and on the method declarations inside it. These are the
  declarations of a run of nodes, and they are put together from the declarations
  of its parts, so a change at one place of a tree is felt through them alone.

  What is proved:
    1. `resolveClasses_eq_declared`, `classes_ofDocument` — the class table is made
       from the declarations.
    2. `declaredMethods_element`, `declaredClasses_element`, ... — the declarations
       of a run come from those of its parts.
    3. `SameClasses.fill` — two runs with the same declarations may take each
       other's place; outside of classes even if they declare different methods.
-/

namespace Instrumentation.Policy

open Xml (Attribute Content Document Name Node Gap)

/-! ## Declarations -/

structure MethodDeclaration where
  key : MethodKey
  /-- The threshold that it states itself, if it can be read. -/
  thresholdMs? : Option UInt64
  deriving DecidableEq, Repr

/-- What a class declaration says, with the methods inside it. -/
structure ClassDeclaration where
  name : String
  typeTag? : Option String
  thresholdMs? : Option UInt64
  methods : List MethodDeclaration
  deriving DecidableEq, Repr

/-- What a node says as the declaration of a method, if it counts as one. -/
def methodDeclaration? (node : Node) : Option MethodDeclaration :=
  if node.isNamed methodTag && counts node then
    (node.nonEmptyAttribute? nameAttribute).map fun name =>
      ⟨⟨name, (node.attribute? signatureAttribute).getD ""⟩, ownThreshold? node⟩
  else none

/-- The methods that are declared in a run, at any depth. -/
def declaredMethods (run : Content) : List MethodDeclaration :=
  run.descendants.filterMap methodDeclaration?

/-- What a node says as the declaration of a class, if it counts as one. -/
def classDeclaration? (node : Node) : Option ClassDeclaration :=
  if node.isNamed classTag && counts node then
    (node.nonEmptyAttribute? nameAttribute).map fun name =>
      ⟨name, node.nonEmptyAttribute? typeAttribute, ownThreshold? node,
        declaredMethods node.content⟩
  else none

/-- The classes that are declared in a run, at any depth. -/
def declaredClasses (run : Content) : List ClassDeclaration :=
  run.descendants.filterMap classDeclaration?

/-- The classes that the first block for declarations in a run declares. -/
def declaredBlock? (run : Content) : Option (List ClassDeclaration) :=
  (run.descendants.find? (Node.isNamed instrumentationTag)).map fun block =>
    declaredClasses block.content

/-- What the first policy element in a run has in its first block, if it has one. -/
def declaredAgent? (run : Content) : Option (Option (List ClassDeclaration)) :=
  (run.descendants.find? (Node.isNamed agentTag)).map fun agent => declaredBlock? agent.content

/-! ## The table of some declarations -/

/-- The rule of a class whose first declaration is `first`. -/
def declaredRule (classes : List ClassDeclaration) (first : ClassDeclaration) : ClassRule :=
  let thresholdMs := first.thresholdMs?.getD 0
  { typeTag := first.typeTag?.getD otherType
    defaultThresholdMs := thresholdMs
    methods := .ofFirsts <|
      ((classes.filter (·.name == first.name)).flatMap (·.methods)).map fun d =>
        (d.key, ⟨d.key.name, d.key.signature, d.thresholdMs?.getD thresholdMs⟩) }

def declaredTable (classes : List ClassDeclaration) : Table String ClassRule :=
  .ofFirsts (classes.map fun d => (d.name, declaredRule classes d))

/-- A method declaration of the scan, without the node that it is read from. -/
def MethodDeclaration.ofScanned (d : MethodKey × Node) : MethodDeclaration :=
  ⟨d.1, ownThreshold? d.2⟩

def ClassDeclaration.ofScanned (d : String × Node) : ClassDeclaration :=
  ⟨d.1, d.2.nonEmptyAttribute? typeAttribute, ownThreshold? d.2, declaredMethods d.2.content⟩

theorem declaredTable_nil : declaredTable [] = .empty := by
  simp [declaredTable, Table.ofFirsts, Table.firsts, Table.empty]

theorem ascending_declaredTable (declared : List ClassDeclaration) :
    (declaredTable declared).Ascending := Table.ascending_ofFirsts _

/-- The rule of a class is begun by the first declaration of its name. -/
theorem get?_declaredTable (declared : List ClassDeclaration) (className : String) :
    (declaredTable declared).get? className =
      (declared.find? (·.name == className)).map (declaredRule declared) := by
  rw [declaredTable, Table.get?_ofFirsts, lookup_map_key]

theorem declaredMethods_eq_scan (node : Node) :
    declaredMethods node.content = (methodDeclarations node).map .ofScanned := by
  rw [methodDeclarations, named, List.map_map, List.filterMap_filter, List.map_filterMap]
  unfold declaredMethods
  congr 1
  funext method
  unfold methodDeclaration?
  cases method.isNamed methodTag with
  | false => rfl
  | true =>
    cases counts method with
    | false => rfl
    | true => cases method.nonEmptyAttribute? nameAttribute <;> rfl

theorem declaredClasses_eq_scan (block : Node) :
    declaredClasses block.content = (classDeclarations block).map .ofScanned := by
  rw [classDeclarations, named, List.filterMap_filter, List.map_filterMap]
  unfold declaredClasses
  congr 1
  funext node
  unfold classDeclaration?
  cases node.isNamed classTag with
  | false => rfl
  | true =>
    cases counts node with
    | false => rfl
    | true => cases node.nonEmptyAttribute? nameAttribute <;> rfl

theorem scannedRule_eq_declared (declared : List (String × Node)) (d : String × Node) :
    scannedRule declared d.1 d.2 = declaredRule (declared.map .ofScanned) (.ofScanned d) := by
  have hmethods : ((declared.map ClassDeclaration.ofScanned).filter (·.name == d.1)).flatMap
      (·.methods) = (methodsOf declared d.1).map .ofScanned := by
    rw [List.filter_map, List.flatMap_map, methodsOf, List.map_flatMap]
    congr 1
    funext c
    exact declaredMethods_eq_scan c.2
  simp only [declaredRule, show (ClassDeclaration.ofScanned d).name = d.1 from rfl, hmethods,
    List.map_map]
  rfl

/-- The class table of a node is that of the declarations in it. -/
theorem resolveClasses_eq_declared (block : Node) :
    (resolveClasses block).value = declaredTable (declaredClasses block.content) := by
  rw [resolveClasses_eq_scan, scannedClasses, declaredClasses_eq_scan, declaredTable, List.map_map]
  congr 1
  apply List.map_congr_left
  intro d _
  rw [scannedRule_eq_declared]
  rfl

/-- The class table of a document is that of the declarations in its first block. -/
theorem classes_ofDocument (document : Document) :
    (ofDocument document).value.classes =
      declaredTable (((declaredAgent? document.content).bind id).getD []) := by
  rw [value_ofDocument, declarations?, declaredAgent?]
  unfold Node.firstElement?
  rw [show (Node.root document.content).content = document.content from rfl]
  cases document.content.descendants.find? (Node.isNamed agentTag) with
  | none => exact declaredTable_nil.symm
  | some agent =>
    simp only [Option.bind_some, Option.map_some, declaredBlock?, id]
    cases agent.content.descendants.find? (Node.isNamed instrumentationTag) with
    | none => exact declaredTable_nil.symm
    | some block => exact resolveClasses_eq_declared block

/-! ## A run and its parts -/

@[simp] theorem declaredMethods_append (run behind : Content) :
    declaredMethods (run ++ behind) = declaredMethods run ++ declaredMethods behind := by
  simp [declaredMethods]

@[simp] theorem declaredMethods_element (name : Name) (attributes : List Attribute)
    (children next : Content) :
    declaredMethods (.element name attributes children next) =
      (methodDeclaration? (.element name attributes children)).toList ++
        (declaredMethods children ++ declaredMethods next) := by
  simp only [declaredMethods, Content.descendants_element, List.filterMap_cons,
    List.filterMap_append]
  cases methodDeclaration? (.element name attributes children) <;> rfl

/-- An element is a class declaration by its name and attributes; the content gives the
methods. -/
theorem classDeclaration?_element (name : Name) (attributes : List Attribute)
    (children : Content) :
    classDeclaration? (.element name attributes children) =
      (classDeclaration? (.element name attributes .nil)).map fun d =>
        { d with methods := declaredMethods children } := by
  unfold classDeclaration?
  by_cases hcounts : ((Node.element name attributes .nil).isNamed classTag &&
      counts (.element name attributes .nil)) = true
  · have hchildren : ((Node.element name attributes children).isNamed classTag &&
        counts (.element name attributes children)) = true := hcounts
    rw [if_pos hcounts, if_pos hchildren, Option.map_map]
    rfl
  · have hchildren : ¬((Node.element name attributes children).isNamed classTag &&
        counts (.element name attributes children)) = true := hcounts
    rw [if_neg hcounts, if_neg hchildren]
    rfl

@[simp] theorem declaredClasses_append (run behind : Content) :
    declaredClasses (run ++ behind) = declaredClasses run ++ declaredClasses behind := by
  simp [declaredClasses]

@[simp] theorem declaredClasses_element (name : Name) (attributes : List Attribute)
    (children next : Content) :
    declaredClasses (.element name attributes children next) =
      (classDeclaration? (.element name attributes children)).toList ++
        (declaredClasses children ++ declaredClasses next) := by
  simp only [declaredClasses, Content.descendants_element, List.filterMap_cons,
    List.filterMap_append]
  cases classDeclaration? (.element name attributes children) <;> rfl

@[simp] theorem declaredBlock?_append (run behind : Content) :
    declaredBlock? (run ++ behind) = (declaredBlock? run).or (declaredBlock? behind) := by
  simp only [declaredBlock?, Content.descendants_append, List.find?_append]
  cases run.descendants.find? (Node.isNamed instrumentationTag) <;> rfl

@[simp] theorem declaredBlock?_element (name : Name) (attributes : List Attribute)
    (children next : Content) :
    declaredBlock? (.element name attributes children next) =
      if name.localName == instrumentationTag then some (declaredClasses children)
      else (declaredBlock? children).or (declaredBlock? next) := by
  simp only [declaredBlock?, Content.descendants_element, List.find?_cons, List.find?_append,
    Node.isNamed]
  cases name.localName == instrumentationTag with
  | true => rfl
  | false => cases children.descendants.find? (Node.isNamed instrumentationTag) <;> rfl

@[simp] theorem declaredAgent?_append (run behind : Content) :
    declaredAgent? (run ++ behind) = (declaredAgent? run).or (declaredAgent? behind) := by
  simp only [declaredAgent?, Content.descendants_append, List.find?_append]
  cases run.descendants.find? (Node.isNamed agentTag) <;> rfl

@[simp] theorem declaredAgent?_element (name : Name) (attributes : List Attribute)
    (children next : Content) :
    declaredAgent? (.element name attributes children next) =
      if name.localName == agentTag then some (declaredBlock? children)
      else (declaredAgent? children).or (declaredAgent? next) := by
  simp only [declaredAgent?, Content.descendants_element, List.find?_cons, List.find?_append,
    Node.isNamed]
  cases name.localName == agentTag with
  | true => rfl
  | false => cases children.descendants.find? (Node.isNamed agentTag) <;> rfl

/-! ## Runs that may take each other's place -/

/-- Two runs between which the lookups for classes see no difference, the methods
in them aside. -/
structure SameClasses (run other : Content) : Prop where
  classes : declaredClasses run = declaredClasses other
  block : declaredBlock? run = declaredBlock? other
  agent : declaredAgent? run = declaredAgent? other

/-- Whether a gap is inside a class declaration that counts. -/
def inClass : Gap → Bool
  | .here _ _ => false
  | .inside _ name attributes gap _ =>
    (classDeclaration? (.element name attributes .nil)).isSome || inClass gap

/-- What an element declares as a class depends on the methods inside it, and on
these only if it counts. -/
theorem classDeclaration?_congr {name : Name} {attributes : List Attribute}
    {children others : Content}
    (h : (classDeclaration? (.element name attributes .nil)).isSome = true →
      declaredMethods children = declaredMethods others) :
    classDeclaration? (.element name attributes children) =
      classDeclaration? (.element name attributes others) := by
  rw [classDeclaration?_element, classDeclaration?_element name attributes others]
  cases hcounts : classDeclaration? (.element name attributes .nil) with
  | none => rfl
  | some d => rw [h (by rw [hcounts]; rfl)]

theorem declaredMethods_fill {run other : Content} (gap : Gap)
    (h : declaredMethods run = declaredMethods other) :
    declaredMethods (gap.fill run) = declaredMethods (gap.fill other) := by
  induction gap with
  | here before after => simp [Gap.fill, h]
  | inside before name attributes gap after ih =>
    have hsaid : methodDeclaration? (.element name attributes (gap.fill run)) =
        methodDeclaration? (.element name attributes (gap.fill other)) := rfl
    simp [Gap.fill, ih, hsaid]

/-- Two runs with the same classes may take each other's place. Inside a class they
need the same methods too, for these are methods of that class. -/
theorem SameClasses.fill {run other : Content} (gap : Gap) (h : SameClasses run other)
    (hmethods : inClass gap = true → declaredMethods run = declaredMethods other) :
    SameClasses (gap.fill run) (gap.fill other) := by
  induction gap with
  | here before after =>
    exact ⟨by simp [Gap.fill, h.classes], by simp [Gap.fill, h.block],
      by simp [Gap.fill, h.agent]⟩
  | inside before name attributes gap after ih =>
    have ih := ih fun hin => hmethods (by simp [inClass, hin])
    have hclass : classDeclaration? (.element name attributes (gap.fill run)) =
        classDeclaration? (.element name attributes (gap.fill other)) := by
      apply classDeclaration?_congr
      intro hcounts
      exact declaredMethods_fill gap (hmethods (by simp [inClass, hcounts]))
    exact ⟨by simp [Gap.fill, hclass, ih.classes], by simp [Gap.fill, ih.classes, ih.block],
      by simp [Gap.fill, ih.block, ih.agent]⟩

/-- Documents with the same classes have the same class table. -/
theorem SameClasses.table {run other : Content} (h : SameClasses run other) :
    (ofDocument ⟨run⟩).value.classes = (ofDocument ⟨other⟩).value.classes := by
  rw [classes_ofDocument, classes_ofDocument, h.agent]

end Instrumentation.Policy
