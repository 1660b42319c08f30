import Mathlib.Algebra.Order.BigOperators.Group.List
import Mathlib.Algebra.Order.Ring.Nat
import Mathlib.Tactic.GCongr
import Instrumentation.Policy.Document
import Instrumentation.Proofs.Policy.Declared
import Instrumentation.Proofs.Xml.NodeLimit
/-
  How large a policy can be

  A class takes in every method inside its declaration, at any depth. A method that
  is inside several class declarations is a method of each of them, so a policy can
  have more rules than its document has elements. How many more is bounded by how
  deep class declarations that count are nested in one another.

  What is proved:
    1. `classCount_add_methodCount_le` — a class table has no more classes and methods
       than its declarations have: those that come again add nothing.
    2. `declaredExtent_le` — the declarations of a run are no more than its elements,
       taken as often as class declarations are nested in it.
    3. `policy_extent_le` — so the limit on the nodes of a document bounds its policy,
       and if no class declaration that counts is inside another one, the elements
       alone bound it.
    4. `policy_exceeds_limit` — the nesting in (2) and (3) cannot be left out.
-/

namespace Instrumentation.Policy

open Xml (Attribute Content Document Name Node)

/-! ## The size of a table -/

namespace Table

variable {κ ν : Type} [DecidableEq κ] [Ord κ]

theorem size_ofFirsts_le (entries : List (κ × ν)) : (ofFirsts entries).size ≤ entries.length := by
  rw [size, ofFirsts, List.length_mergeSort]
  exact (firsts_sublist entries).length_le

/-- A sum over the values of a table is a sum over the entries that it is made of. -/
theorem sum_values_ofFirsts (f : ν → Nat) (entries : List (κ × ν)) :
    ((ofFirsts entries).values.map f).sum = ((firsts entries).map fun e => f e.2).sum := by
  rw [values, ofFirsts, List.map_map]
  exact ((List.mergeSort_perm _ _).map _).sum_nat

end Table

/-! ## The size of a class table -/

theorem methodCount_eq_sum (policy : Policy) :
    policy.methodCount = (policy.classes.values.map (·.methodCount)).sum := by
  rw [List.sum_eq_foldl_nat, List.foldl_map]
  rfl

theorem sum_if_eq_le {κ : Type} [DecidableEq κ] {keys : List κ} (hkeys : keys.Nodup) (key : κ)
    (n : Nat) : (keys.map fun k => if key = k then n else 0).sum ≤ n := by
  induction keys with
  | nil => exact Nat.zero_le n
  | cons k rest ih =>
    obtain ⟨hk, hrest⟩ := List.nodup_cons.1 hkeys
    rw [List.map_cons, List.sum_cons]
    by_cases heq : key = k
    · have hzero : rest.map (fun k => if key = k then n else 0) = rest.map fun _ => 0 := by
        apply List.map_congr_left
        intro other hother
        rw [if_neg]
        rintro rfl
        exact hk (heq ▸ hother)
      rw [if_pos heq, hzero]
      simp
    · rw [if_neg heq, Nat.zero_add]
      exact ih hrest

/-- Each item of a list is under one key at most. -/
theorem sum_filter_le {α κ : Type} [DecidableEq κ] {keys : List κ} (hkeys : keys.Nodup)
    (key : α → κ) (f : α → Nat) (items : List α) :
    (keys.map fun k => ((items.filter (key · == k)).map f).sum).sum ≤ (items.map f).sum := by
  induction items with
  | nil => simp
  | cons item rest ih =>
    have hitem : ∀ k, (((item :: rest).filter (key · == k)).map f).sum =
        (if key item = k then f item else 0) + ((rest.filter (key · == k)).map f).sum := by
      intro k
      by_cases h : key item = k <;> simp [h]
    calc (keys.map fun k => (((item :: rest).filter (key · == k)).map f).sum).sum
        = (keys.map fun k => if key item = k then f item else 0).sum +
            (keys.map fun k => ((rest.filter (key · == k)).map f).sum).sum := by
          simp only [hitem, List.sum_map_add]
      _ ≤ f item + (rest.map f).sum := Nat.add_le_add (sum_if_eq_le hkeys _ _) ih
      _ = ((item :: rest).map f).sum := by rw [List.map_cons, List.sum_cons]

theorem methodCount_declaredRule_le (classes : List ClassDeclaration) (first : ClassDeclaration) :
    (declaredRule classes first).methodCount ≤
      ((classes.filter (·.name == first.name)).map (·.methods.length)).sum := by
  have hsize := Table.size_ofFirsts_le
    (((classes.filter (·.name == first.name)).flatMap (·.methods)).map fun d =>
      (d.key, (⟨d.key.name, d.key.signature, d.thresholdMs?.getD (first.thresholdMs?.getD 0)⟩ :
        MethodRule)))
  rw [List.length_map, List.length_flatMap] at hsize
  exact hsize

/-- How many classes and methods some declarations have between them. -/
def extent (classes : List ClassDeclaration) : Nat :=
  (classes.map fun d => 1 + d.methods.length).sum

theorem extent_append (classes behind : List ClassDeclaration) :
    extent (classes ++ behind) = extent classes + extent behind := by
  simp [extent]

/-- The methods of a class table are no more than those that are declared. -/
theorem sum_methodCount_le (classes : List ClassDeclaration) :
    ((declaredTable classes).values.map (·.methodCount)).sum ≤
      (classes.map (·.methods.length)).sum := by
  let entries := classes.map fun d => (d.name, declaredRule classes d)
  have hkeys : ((Table.firsts entries).map (·.1)).Nodup :=
    List.pairwise_map.2 (Table.firsts_pairwise entries)
  have hentry : ∀ e ∈ Table.firsts entries, e.2.methodCount ≤
      ((classes.filter (·.name == e.1)).map (·.methods.length)).sum := by
    intro e he
    obtain ⟨d, -, rfl⟩ := List.mem_map.1 ((Table.firsts_sublist entries).subset he)
    exact methodCount_declaredRule_le classes d
  calc ((declaredTable classes).values.map (·.methodCount)).sum
      = ((Table.firsts entries).map (·.2.methodCount)).sum := Table.sum_values_ofFirsts _ entries
    _ ≤ ((Table.firsts entries).map fun e =>
          ((classes.filter (·.name == e.1)).map (·.methods.length)).sum).sum :=
        List.sum_le_sum hentry
    _ = (((Table.firsts entries).map (·.1)).map fun k =>
          ((classes.filter (·.name == k)).map (·.methods.length)).sum).sum := by
        rw [List.map_map]
        rfl
    _ ≤ (classes.map (·.methods.length)).sum := sum_filter_le hkeys _ _ classes

/-- A policy has no more classes and methods than the declarations of its table. -/
theorem classCount_add_methodCount_le {policy : Policy} {classes : List ClassDeclaration}
    (h : policy.classes = declaredTable classes) :
    policy.classCount + policy.methodCount ≤ extent classes := by
  have hclasses : policy.classCount ≤ classes.length := by
    rw [classCount, h]
    exact Nat.le_trans (Table.size_ofFirsts_le _) (Nat.le_of_eq (List.length_map _))
  have hmethods : policy.methodCount ≤ (classes.map (·.methods.length)).sum := by
    rw [methodCount_eq_sum, h]
    exact sum_methodCount_le classes
  have hextent : extent classes = classes.length + (classes.map (·.methods.length)).sum := by
    rw [extent, List.sum_map_add, List.map_const', List.sum_replicate_nat, Nat.mul_one]
  rw [hextent]
  exact Nat.add_le_add hclasses hmethods

/-! ## The declarations of a run -/

/-- How many class declarations that count are nested in one another, at most. -/
def classDepth : Content → Nat
  | .nil => 0
  | .element name attributes children next =>
    max ((if (classDeclaration? (.element name attributes .nil)).isSome then 1 else 0) +
      classDepth children) (classDepth next)
  | .text _ next | .comment _ next | .instruction _ _ next => classDepth next

theorem elementCount_element (name : Name) (attributes : List Attribute)
    (children next : Content) :
    (Content.element name attributes children next).elementCount =
      1 + children.elementCount + next.elementCount := by
  simp only [Content.elementCount, Content.descendants_element, List.countP_cons,
    List.countP_append, Node.isElement, if_true]
  omega

/-- Every method that is declared is an element. -/
theorem length_declaredMethods_le (run : Content) :
    (declaredMethods run).length ≤ run.elementCount := by
  rw [declaredMethods, List.length_filterMap_eq_countP]
  apply List.countP_mono_left
  intro node _ h
  cases node with
  | element name attributes children => rfl
  | root _ | text _ | comment _ | instruction _ _ => cases h

/-- An element that counts as a class declares the methods inside it. -/
theorem extent_classDeclaration? (name : Name) (attributes : List Attribute) (children : Content) :
    extent (classDeclaration? (.element name attributes children)).toList =
      (if (classDeclaration? (.element name attributes .nil)).isSome then 1 else 0) *
        (1 + (declaredMethods children).length) := by
  rw [classDeclaration?_element]
  cases classDeclaration? (.element name attributes .nil) <;> simp [extent]

/-- A node that is no element declares nothing and counts for nothing. -/
theorem declaredClasses_skip {run next : Content} {node : Node}
    (hrun : run.descendants = node :: next.descendants) (hnode : node.isElement = false) :
    declaredClasses run = declaredClasses next := by
  rw [declaredClasses, hrun, List.filterMap_cons_none]
  · rfl
  · cases node with
    | element name attributes children => cases hnode
    | root _ | text _ | comment _ | instruction _ _ => rfl

theorem elementCount_skip {run next : Content} {node : Node}
    (hrun : run.descendants = node :: next.descendants) (hnode : node.isElement = false) :
    run.elementCount = next.elementCount := by
  rw [Content.elementCount, hrun, List.countP_cons_of_neg (by simp [hnode])]
  rfl

/-- The declarations of a run have no more classes and methods between them than the run
has elements, taken as often as class declarations are nested in it. -/
theorem declaredExtent_le (run : Content) :
    extent (declaredClasses run) ≤ classDepth run * run.elementCount := by
  induction run with
  | nil => exact Nat.zero_le _
  | text value next ih =>
    rw [declaredClasses_skip (Content.descendants_text _ _) rfl,
      elementCount_skip (Content.descendants_text _ _) rfl]
    exact ih
  | comment value next ih =>
    rw [declaredClasses_skip (Content.descendants_comment _ _) rfl,
      elementCount_skip (Content.descendants_comment _ _) rfl]
    exact ih
  | instruction target value next ih =>
    rw [declaredClasses_skip (Content.descendants_instruction _ _ _) rfl,
      elementCount_skip (Content.descendants_instruction _ _ _) rfl]
    exact ih
  | element name attributes children next ihc ihn =>
    -- The declaration itself, if it counts, stands around all that its content declares, so
    -- its own share is paid by one more level over the elements inside it.
    have hmethods := length_declaredMethods_le children
    rw [declaredClasses_element, extent_append, extent_append, extent_classDeclaration?,
      elementCount_element, classDepth]
    generalize (if (classDeclaration? (.element name attributes .nil)).isSome then 1 else 0) = own
    have hinside : own + classDepth children ≤ max (own + classDepth children) (classDepth next) :=
      Nat.le_max_left _ _
    have hnext : classDepth next ≤ max (own + classDepth children) (classDepth next) :=
      Nat.le_max_right _ _
    generalize max (own + classDepth children) (classDepth next) = depth at hinside hnext ⊢
    calc own * (1 + (declaredMethods children).length) +
          (extent (declaredClasses children) + extent (declaredClasses next))
        ≤ own * (1 + children.elementCount) + (classDepth children * (1 + children.elementCount) +
            classDepth next * next.elementCount) := by
          gcongr
          exact Nat.le_trans ihc (Nat.mul_le_mul_left _ (Nat.le_add_left _ 1))
      _ = (own + classDepth children) * (1 + children.elementCount) +
            classDepth next * next.elementCount := by
          rw [Nat.add_mul, Nat.add_assoc]
      _ ≤ depth * (1 + children.elementCount) + depth * next.elementCount := by
          gcongr
      _ = depth * (1 + children.elementCount + next.elementCount) := (Nat.mul_add _ _ _).symm

/-! ## The declarations of a document -/

/-- How many class declarations that count are nested in one another, at most, in the
block of a document. -/
def declaredDepth (document : Document) : Nat :=
  (declarations? document).elim 0 fun block => classDepth block.content

theorem elementCount_block_le {document : Document} {block : Node}
    (h : declarations? document = some block) :
    block.content.elementCount ≤ document.content.elementCount := by
  obtain ⟨agent, hagent, hblock⟩ := Option.bind_eq_some_iff.1 h
  exact ((Content.descendants_content_sublist (List.mem_of_find?_eq_some hblock)).trans
    (Content.descendants_content_sublist (List.mem_of_find?_eq_some hagent))).countP_le

/-- The elements of a document bound its policy. -/
theorem extent_ofDocument_le (document : Document) :
    (ofDocument document).value.classCount + (ofDocument document).value.methodCount ≤
      declaredDepth document * document.content.elementCount := by
  rw [value_ofDocument, declaredDepth]
  cases hblock : declarations? document with
  | none => exact Nat.zero_le _
  | some block =>
    have hclasses : (ofDeclarations block).value.classes =
        declaredTable (declaredClasses block.content) := resolveClasses_eq_declared block
    calc (ofDeclarations block).value.classCount + (ofDeclarations block).value.methodCount
        ≤ extent (declaredClasses block.content) := classCount_add_methodCount_le hclasses
      _ ≤ classDepth block.content * block.content.elementCount := declaredExtent_le _
      _ ≤ classDepth block.content * document.content.elementCount :=
          Nat.mul_le_mul_left _ (elementCount_block_le hblock)

/-- A document that is parsed keeps its limit on nodes, and the elements in it bound its
policy: as often as class declarations that count are nested in one another, and once if
none of them is inside another one. -/
theorem policy_extent_le {document : SourceDocument} {tree : Document}
    (h : document.parse = .ok (some tree)) :
    ∃ policy, document.policy.value = .ok policy ∧
      tree.content.elementCount < document.limits.maxNodes.toNat ∧
      policy.classCount + policy.methodCount ≤ declaredDepth tree * tree.content.elementCount ∧
      policy.classCount + policy.methodCount ≤
        declaredDepth tree * document.limits.maxNodes.toNat ∧
      (declaredDepth tree ≤ 1 →
        policy.classCount + policy.methodCount ≤ tree.content.elementCount) := by
  have hpolicy : document.policy.value = .ok (ofDocument tree).value := by
    rw [SourceDocument.policy, h]
    rfl
  have hread : tree.content.elementCount < document.limits.maxNodes.toNat := by
    unfold SourceDocument.parse at h
    split at h
    · cases h
    · next source _ =>
      split at h
      · next parsed hparsed =>
        cases h
        exact Xml.elementCount_lt_of_read hparsed
      · cases h
  have hextent := extent_ofDocument_le tree
  refine ⟨_, hpolicy, hread, hextent, ?_, ?_⟩
  · exact Nat.le_trans hextent (Nat.mul_le_mul_left _ (Nat.le_of_lt hread))
  · intro hdepth
    calc (ofDocument tree).value.classCount + (ofDocument tree).value.methodCount
        ≤ declaredDepth tree * tree.content.elementCount := hextent
      _ ≤ 1 * tree.content.elementCount := Nat.mul_le_mul_right _ hdepth
      _ = tree.content.elementCount := Nat.one_mul _

/-! ## Classes inside one another -/

/-- Three classes inside one another and two methods inside the innermost one, with as
many nodes as the limit allows. -/
def nestedClasses : SourceDocument :=
  .ofSource
    ("<ApplicationInsightsAgent><Instrumentation><Class name='a'><Class name='b'>" ++
      "<Class name='c'><Method name='m'/><Method name='n'/></Class></Class></Class>" ++
      "</Instrumentation></ApplicationInsightsAgent>")
    { maxNodes := 8 }

def namedElement (tag name : String) (children next : Content) : Content :=
  .element ⟨tag, none⟩ [⟨⟨nameAttribute, none⟩, name⟩] children next

def nestedTree : Document :=
  ⟨.element ⟨agentTag, none⟩ [] (.element ⟨instrumentationTag, none⟩ []
    (namedElement classTag "a" (namedElement classTag "b" (namedElement classTag "c"
      (namedElement methodTag "m" .nil (namedElement methodTag "n" .nil .nil)) .nil) .nil) .nil)
    .nil) .nil⟩

theorem parse_nestedClasses : nestedClasses.parse = .ok (some nestedTree) := by decide +kernel

/-- The classes in it are three deep, so it may have three times as many classes and
methods as it has elements. -/
theorem policy_extent_le_of_nested :
    nestedClasses.parse = .ok (some nestedTree) ∧ declaredDepth nestedTree = 3 ∧
    ∃ policy, nestedClasses.policy.value = .ok policy ∧
      policy.classCount + policy.methodCount ≤ 3 * nestedTree.content.elementCount := by
  have hdepth : declaredDepth nestedTree = 3 := by decide +kernel
  obtain ⟨policy, hpolicy, -, hextent, -⟩ := policy_extent_le parse_nestedClasses
  exact ⟨parse_nestedClasses, hdepth, policy, hpolicy, hdepth ▸ hextent⟩

/-- It has three classes with two methods each: more than its elements, and more than
the nodes that it may have. -/
theorem policy_exceeds_limit :
    nestedClasses.parse = .ok (some nestedTree) ∧
    nestedClasses.limits.maxNodes.toNat = 8 ∧ nestedTree.content.elementCount = 7 ∧
    ∃ policy, nestedClasses.policy.value = .ok policy ∧
      policy.classCount = 3 ∧ policy.methodCount = 6 := by
  refine ⟨parse_nestedClasses, rfl, by decide +kernel, (ofDocument nestedTree).value, ?_, ?_, ?_⟩
  · rw [SourceDocument.policy, parse_nestedClasses]
    rfl
  · decide +kernel
  · decide +kernel

end Instrumentation.Policy
