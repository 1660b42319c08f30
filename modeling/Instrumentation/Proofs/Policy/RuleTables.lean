import Instrumentation.Proofs.Policy.Extent
import Instrumentation.Proofs.Policy.ReportReading
/-
  The form of the rule tables

  Reports, listings and lookups rely on the form in which rules are kept: each method
  under its own name and signature, each key once, and all keys in order. The order is
  said here by code points, without the comparison that places an entry in a table.

  What is proved:
    1. `compare_eq_lt_iff`, `MethodKey.compare_eq_lt_iff` — that comparison is the order by
       code points.
    2. `addMethod_of_mem`, `addMethod_of_notMem` — a method is added exactly if its key is
       not there yet, and then nothing else changes.
    3. `wellKept_addMethod`, `wellKept_addMethodNode`, `wellKept_resolved` — adding a method
       that has a name keeps the form of a rule, so all rules of a document have it.
    4. `rule_tables_are_well_kept` — all of it.
-/

namespace Instrumentation.Policy

/-! ## Order by code points -/

def codePoints (text : String) : List Nat := text.toList.map Char.toNat

/-- Whether a key comes before another: by the name, or with one name by the signature. -/
def MethodKey.Before (key other : MethodKey) : Prop :=
  codePoints key.name < codePoints other.name ∨
    key.name = other.name ∧ codePoints key.signature < codePoints other.signature

theorem map_toNat_lt_iff (cs ds : List Char) :
    cs.map Char.toNat < ds.map Char.toNat ↔ cs < ds := by
  induction cs generalizing ds with
  | nil => cases ds <;> simp
  | cons c cs ih =>
    cases ds with
    | nil => simp
    | cons d ds =>
      rw [List.map_cons, List.map_cons, List.cons_lt_cons_iff, List.cons_lt_cons_iff, ih,
        Char.toNat_inj, Char.lt_def, UInt32.lt_iff_toNat_lt]
      rfl

theorem compare_eq_lt_iff {text other : String} :
    compare text other = .lt ↔ codePoints text < codePoints other := by
  rw [codePoints, codePoints, map_toNat_lt_iff, ← String.lt_iff]
  exact compareOfLessAndEq_eq_lt

theorem MethodKey.compare_eq_lt_iff {key other : MethodKey} :
    compare key other = .lt ↔ key.Before other := by
  rw [MethodKey.compare_def, Ordering.then_eq_lt, Policy.compare_eq_lt_iff,
    Policy.compare_eq_lt_iff, Std.compare_eq_iff_eq, MethodKey.Before]

/-! ## The form of a table -/

/-- Methods that are kept under their own keys, each key once and all of them in order. -/
structure ClassRule.Indexed (rule : ClassRule) : Prop where
  own : ∀ e ∈ rule.methods.entries, e.2.name = e.1.name ∧ e.2.signature = e.1.signature
  ordered : rule.methods.keys.Pairwise MethodKey.Before
  distinct : rule.methods.keys.Nodup

/-- What holds of every class rule of a document. -/
structure ClassRule.WellKept (rule : ClassRule) : Prop extends rule.Indexed where
  named : ∀ e ∈ rule.methods.entries, e.1.name ≠ ""

/-- What holds of the class table of every document. -/
structure WellKept (policy : Policy) : Prop where
  named : ∀ e ∈ policy.classes.entries, e.1 ≠ ""
  ordered : policy.classes.keys.Pairwise fun name other => codePoints name < codePoints other
  distinct : policy.classes.keys.Nodup
  rules : ∀ e ∈ policy.classes.entries, e.2.WellKept
  methodCount_eq : policy.methodCount =
    (policy.classes.values.map fun rule => rule.methods.values.length).sum

/-! ## One method is added -/

/-- A table that the comparison of its keys has in order is in order of code points. -/
theorem indexed_iff_keyed {rule : ClassRule} : rule.Indexed ↔ rule.Keyed := by
  have hordered : rule.methods.keys.Pairwise MethodKey.Before ↔ rule.methods.Ascending := by
    simp only [Table.keys, List.pairwise_map, Table.Ascending, MethodKey.compare_eq_lt_iff]
  constructor
  · intro h
    refine ⟨hordered.1 h.ordered, fun e he => ?_⟩
    rw [MethodRule.key, (h.own e he).1, (h.own e he).2]
  · intro h
    refine ⟨fun e he => ?_, hordered.2 h.ascending, Table.distinct_of_ascending h.ascending⟩
    rw [h.key e he]
    exact ⟨rfl, rfl⟩

theorem indexed_addMethod {rule : ClassRule} (h : rule.Indexed) (name signature : String)
    (thresholdMs : UInt64) : (rule.addMethod name signature thresholdMs).1.Indexed :=
  indexed_iff_keyed.2 (keyed_addMethod (indexed_iff_keyed.1 h) name signature thresholdMs)

theorem wellKept_addMethod {rule : ClassRule} {name : String} (h : rule.WellKept) (hname : name ≠ "")
    (signature : String) (thresholdMs : UInt64) :
    (rule.addMethod name signature thresholdMs).1.WellKept := by
  refine ⟨indexed_addMethod h.toIndexed name signature thresholdMs, ?_⟩
  unfold ClassRule.addMethod
  split
  · exact h.named
  · intro e he
    rcases Table.mem_place he with rfl | he
    · exact hname
    · exact h.named e he

/-- A method declaration keeps the form of a rule, since it adds no method without a name. -/
theorem wellKept_addMethodNode {rule : ClassRule} (h : rule.WellKept) (node : Xml.Node) :
    (addMethodNode rule node).value.WellKept := by
  rcases addMethodNode_cases rule node with heq | ⟨name, signature, thresholdMs, hname, heq⟩
  · rwa [heq]
  · rw [heq]
    exact wellKept_addMethod h hname signature thresholdMs

/-- A method with the key of another is not added. -/
theorem addMethod_of_mem {rule : ClassRule} {name signature : String}
    (h : ⟨name, signature⟩ ∈ rule.methods.keys) (thresholdMs : UInt64) :
    rule.addMethod name signature thresholdMs = (rule, false) :=
  if_pos (Table.contains_eq_true_iff.2 h)

/-- A method with a key of its own is added, and nothing else changes. -/
theorem addMethod_of_notMem {rule : ClassRule} {name signature : String}
    (h : ⟨name, signature⟩ ∉ rule.methods.keys) (thresholdMs : UInt64) :
    ∃ methods : Table MethodKey MethodRule,
      rule.addMethod name signature thresholdMs = ({ rule with methods }, true) ∧
      methods.entries.Perm
        ((⟨name, signature⟩, ⟨name, signature, thresholdMs⟩) :: rule.methods.entries) := by
  refine ⟨_, if_neg fun hcontains => h (Table.contains_eq_true_iff.1 hcontains), ?_⟩
  exact Table.perm_place h

/-! ## The tables of a document -/

theorem wellKept_ofClass (typeTag : String) (thresholdMs : UInt64) :
    (ClassRule.ofClass typeTag thresholdMs).WellKept :=
  ⟨indexed_iff_keyed.2 (keyed_ofClass typeTag thresholdMs), fun _ he => by cases he⟩

theorem wellKept_resolved (document : Option Xml.Document) : (resolved document).WellKept := by
  have hascending := (keyed_resolved document).ascending
  have hrules : ∀ e ∈ (resolved document).classes.entries, e.1 ≠ "" ∧ e.2.WellKept := by
    cases document with
    | none => exact fun e he => by cases he
    | some document => exact ofDocument_induction wellKept_ofClass wellKept_addMethod document
  exact
    { named := fun e he => (hrules e he).1
      ordered := List.pairwise_map.2 (hascending.imp compare_eq_lt_iff.1)
      distinct := Table.distinct_of_ascending hascending
      rules := fun e he => (hrules e he).2
      methodCount_eq := by
        simp only [methodCount_eq_sum, ClassRule.methodCount, Table.size, Table.values,
          List.length_map] }

/-- The class table of every document is well kept: no name is empty, keys are in order and
each stands there once, and methods repeat their keys. A method declaration adds at most one
method to a rule, never one without a name, and so keeps the form of the rule. Whatever method
is added, keys stay in order and methods repeat them, and it is added exactly if there is none
with its key, which changes nothing else in the rule. -/
theorem rule_tables_are_well_kept :
    (∀ document : Option Xml.Document, (resolved document).WellKept) ∧
    (∀ (rule : ClassRule) (node : Xml.Node),
      ((addMethodNode rule node).value = rule ∨
        ∃ name signature thresholdMs, name ≠ "" ∧
          (addMethodNode rule node).value = (rule.addMethod name signature thresholdMs).1) ∧
      (rule.WellKept → (addMethodNode rule node).value.WellKept)) ∧
    ∀ (rule : ClassRule) (name signature : String) (thresholdMs : UInt64),
      (rule.Indexed → (rule.addMethod name signature thresholdMs).1.Indexed) ∧
      (rule.WellKept → name ≠ "" → (rule.addMethod name signature thresholdMs).1.WellKept) ∧
      (⟨name, signature⟩ ∈ rule.methods.keys →
        rule.addMethod name signature thresholdMs = (rule, false)) ∧
      (⟨name, signature⟩ ∉ rule.methods.keys → ∃ methods : Table MethodKey MethodRule,
        rule.addMethod name signature thresholdMs = ({ rule with methods }, true) ∧
        methods.entries.Perm
          ((⟨name, signature⟩, ⟨name, signature, thresholdMs⟩) :: rule.methods.entries)) := by
  refine ⟨wellKept_resolved, fun rule node => ?_, fun rule name signature thresholdMs => ?_⟩
  · exact ⟨addMethodNode_cases rule node, fun h => wellKept_addMethodNode h node⟩
  · exact ⟨fun h => indexed_addMethod h name signature thresholdMs,
      fun h hname => wellKept_addMethod h hname signature thresholdMs,
      fun h => addMethod_of_mem h thresholdMs, fun h => addMethod_of_notMem h thresholdMs⟩

def oneOverload : ClassRule := ((ClassRule.ofClass otherType 5).addMethod "run" "(I)V" 7).1

theorem rule_tables_are_well_kept_of_overloads :
    oneOverload.WellKept ∧ (oneOverload.addMethod "run" "" 9).1.WellKept ∧
    (oneOverload.addMethod "run" "" 9).1.methods.keys = [⟨"run", ""⟩, ⟨"run", "(I)V"⟩] := by
  have hone : oneOverload.WellKept :=
    (rule_tables_are_well_kept.2.2 _ "run" "(I)V" 7).2.1 (wellKept_ofClass otherType 5) (by decide)
  exact ⟨hone, (rule_tables_are_well_kept.2.2 _ "run" "" 9).2.1 hone (by decide), by decide⟩

end Instrumentation.Policy
