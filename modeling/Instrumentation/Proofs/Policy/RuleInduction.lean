import Instrumentation.Proofs.Policy.Declarations
/-
  What stays true of every rule

  Two nested loops fill the class table, but a class rule only ever comes about in one
  way: it begins without methods, and methods that have a name are added to it one by
  one. So what is true of a rule without methods, and stays true when such a method is
  added, is true of every rule that a document declares.

  What is proved:
    1. `addMethodNode_cases`, `addClass_cases` — what one turn of either loop does.
    2. `addMethods_induction`, `resolveClasses_induction` — the induction over both loops.
    3. `ofDocument_induction` — the same for the policy of a document.
-/

namespace Instrumentation.Policy

open Xml (Document Node)

/-! ## One turn of either loop -/

theorem ne_empty_of_nonEmptyAttribute? {node : Node} {name value : String}
    (h : node.nonEmptyAttribute? name = some value) : value ≠ "" := by
  simpa using (Option.filter_eq_some_iff.1 h).2

/-- A method declaration adds a method that has a name, or nothing. -/
theorem addMethodNode_cases (rule : ClassRule) (node : Node) :
    (addMethodNode rule node).value = rule ∨
    ∃ name signature thresholdMs, name ≠ "" ∧
      (addMethodNode rule node).value = (rule.addMethod name signature thresholdMs).1 := by
  unfold addMethodNode
  split
  · exact .inl rfl
  · split
    · exact .inl rfl
    · next name hname =>
      exact .inr ⟨name, _, _, ne_empty_of_nonEmptyAttribute? hname, value_declareMethod ..⟩

/-- A class declaration puts a rule under a name, which goes on from the rule that is there
or begins without methods; or it does nothing. -/
theorem addClass_cases (classes : Table String ClassRule) (node : Node) :
    (addClass classes node).value = classes ∨
    ∃ name begun, name ≠ "" ∧
      (classes.get? name = some begun ∨
        ∃ typeTag thresholdMs, begun = .ofClass typeTag thresholdMs) ∧
      (addClass classes node).value = classes.set name (addMethods begun node).value := by
  unfold addClass
  split
  · exact .inl rfl
  · split
    · exact .inl rfl
    · next name hname =>
      right
      cases hget : classes.get? name with
      | some rule =>
        exact ⟨name, rule, ne_empty_of_nonEmptyAttribute? hname, .inl hget, rfl⟩
      | none =>
        exact ⟨name, _, ne_empty_of_nonEmptyAttribute? hname, .inr ⟨_, _, rfl⟩, rfl⟩

/-! ## The induction -/

section

variable {motive : ClassRule → Prop}
  (ofClass : ∀ typeTag thresholdMs, motive (.ofClass typeTag thresholdMs))
  (addMethod : ∀ {rule name}, motive rule → name ≠ "" → ∀ signature thresholdMs,
    motive (rule.addMethod name signature thresholdMs).1)

include addMethod

theorem addMethods_induction {rule : ClassRule} (h : motive rule) (node : Node) :
    motive (addMethods rule node).value := by
  rw [addMethods, Logged.value_foldl]
  refine List.foldlRecOn _ _ h fun rule hrule method _ => ?_
  rcases addMethodNode_cases rule method with heq | ⟨name, signature, thresholdMs, hname, heq⟩
  · rwa [heq]
  · rw [heq]
    exact addMethod hrule hname signature thresholdMs

include ofClass

theorem resolveClasses_induction (block : Node) :
    ∀ e ∈ (resolveClasses block).value.entries, e.1 ≠ "" ∧ motive e.2 := by
  rw [resolveClasses, Logged.value_foldl]
  refine List.foldlRecOn
    (motive := fun classes : Table String ClassRule => ∀ e ∈ classes.entries, e.1 ≠ "" ∧ motive e.2)
    _ _ (fun e he => by cases he) fun classes hclasses node _ => ?_
  rcases addClass_cases classes node with heq | ⟨name, begun, hname, hbegun, heq⟩
  · rwa [heq]
  · rw [heq]
    -- A class that is declared again goes on from its rule, which came about in the same way.
    have hrule : motive begun := by
      rcases hbegun with hget | ⟨typeTag, thresholdMs, rfl⟩
      · exact (hclasses _ (Table.mem_of_get? hget)).2
      · exact ofClass typeTag thresholdMs
    intro e he
    rcases Table.mem_place he with rfl | he
    · exact ⟨hname, addMethods_induction addMethod hrule node⟩
    · exact hclasses e he

theorem ofDocument_induction (document : Document) :
    ∀ e ∈ (ofDocument document).value.classes.entries, e.1 ≠ "" ∧ motive e.2 := by
  rw [value_ofDocument]
  cases declarations? document with
  | none => exact fun e he => by cases he
  | some block => exact resolveClasses_induction ofClass addMethod block

end

/-- The classes of a document are in order. -/
theorem ascending_ofDocument (document : Document) :
    (ofDocument document).value.classes.Ascending := by
  rw [value_ofDocument]
  cases declarations? document with
  | none => exact Table.ascending_empty
  | some block =>
    show (resolveClasses block).value.Ascending
    rw [resolveClasses_eq_scan]
    exact Table.ascending_ofFirsts _

end Instrumentation.Policy
