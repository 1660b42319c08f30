import Mathlib.Data.List.Forall2
import Instrumentation.Policy.Listing
import Instrumentation.Proofs.Policy.RuleTables
/-
  What a listing shows

  A listing goes through the classes and through the methods of each. What it should show
  is said here by looking rules up: there is a block of rows for each class, and in it a
  row for each method that can be looked up, or one row if there is none.

  What is proved:
    1. `shownBy_listingRows` — the rows of a class show its methods, each once.
    2. `length_listing` — how many rows there are.
    3. `listing_shows_every_rule` — the listing of every document in all.
-/

namespace Instrumentation.Policy

/-- The row for a method that is traced in a class. -/
def rowOf (className : String) (rule : ClassRule) (key : MethodKey) (thresholdMs : UInt64) :
    ListingRow :=
  { className
    typeTag := rule.typeTag
    method := key.name
    signature := if key.signature = "" then "*" else key.signature
    thresholdMs }

/-- Whether rows show the rule of a class: there is a row for each of its methods, in the
order of their names and signatures, or one row for the class if it has none. -/
structure ClassRule.ShownBy (className : String) (rule : ClassRule) (rows : List ListingRow) :
    Prop where
  ordered : rule.methods.keys.Pairwise MethodKey.Before
  keys (key : MethodKey) : key ∈ rule.methods.keys ↔ (rule.methods.get? key).isSome
  methods : rule.methodCount ≠ 0 → List.Forall₂ (fun key row =>
    ∃ method, rule.methods.get? key = some method ∧
      row = rowOf className rule key method.thresholdMs) rule.methods.keys rows
  alone : rule.methodCount = 0 → rows =
    [{ className
       typeTag := rule.typeTag
       method := "-"
       signature := "-"
       thresholdMs := rule.defaultThresholdMs }]

/-! ## The rows of a class -/

theorem listingRow_eq {className : String} {rule : ClassRule} {key : MethodKey}
    {method : MethodRule} (hname : method.name = key.name)
    (hsignature : method.signature = key.signature) :
    method.listingRow className rule.typeTag = rowOf className rule key method.thresholdMs := by
  simp [MethodRule.listingRow, MethodRule.matchesAnySignature, rowOf, hname, hsignature]

theorem shownBy_listingRows {rule : ClassRule} (h : rule.Indexed) (className : String) :
    rule.ShownBy className (rule.listingRows className) := by
  have hascending := (indexed_iff_keyed.1 h).ascending
  refine
    { ordered := h.ordered
      keys := fun _ => Table.contains_eq_true_iff.symm
      methods := fun hcount => ?_
      alone := fun hcount => by rw [ClassRule.listingRows, if_pos hcount] }
  -- Keys and rows are both read off the entries, so one entry after the other is compared.
  rw [ClassRule.listingRows, if_neg hcount, Table.keys, Table.values, List.map_map,
    List.forall₂_map_left_iff, List.forall₂_map_right_iff, List.forall₂_same]
  intro e he
  obtain ⟨hname, hsignature⟩ := h.own e he
  exact ⟨e.2, (Table.mem_entries_iff hascending).1 he, listingRow_eq hname hsignature⟩

theorem length_listingRows (className : String) (rule : ClassRule) :
    (rule.listingRows className).length =
      rule.methodCount + if rule.methodCount = 0 then 1 else 0 := by
  unfold ClassRule.listingRows
  split
  · next hcount => rw [hcount, List.length_singleton]
  · rw [List.length_map, Nat.add_zero, ClassRule.methodCount, Table.size, Table.values,
      List.length_map]

/-- Every class has a row. -/
theorem listingRows_ne_nil (className : String) (rule : ClassRule) :
    rule.listingRows className ≠ [] := by
  rw [← List.length_pos_iff, length_listingRows]
  split <;> omega

/-! ## The listing of a policy -/

theorem listing_eq_flatMap (policy : Policy) :
    policy.listing = policy.classes.entries.flatMap fun e => e.2.listingRows e.1 := rfl

/-- There are as many rows as methods, and one for each class without any. -/
theorem length_listing (policy : Policy) :
    policy.listing.length =
      policy.methodCount + policy.classes.values.countP (·.methodCount = 0) := by
  rw [methodCount_eq_sum, listing_eq_flatMap, List.length_flatMap, Table.values]
  induction policy.classes.entries with
  | nil => rfl
  | cons e rest ih =>
    rw [List.map_cons, List.sum_cons, ih, length_listingRows]
    simp only [List.map_cons, List.sum_cons, List.countP_cons, decide_eq_true_eq]
    omega

theorem listing_eq_nil_iff (policy : Policy) : policy.listing = [] ↔ policy.classCount = 0 := by
  rw [listing_eq_flatMap, List.flatMap_eq_nil_iff, classCount, Table.size, List.length_eq_zero_iff]
  constructor
  · intro h
    refine List.eq_nil_iff_forall_not_mem.2 fun e he => listingRows_ne_nil e.1 e.2 (h e he)
  · intro h e he
    rw [h] at he
    cases he

/-- The rows of a listing stand in blocks, one for each class that is instrumented, in the
order of the class names; each block shows the rule of its class. So there are as many rows
as methods and classes without any, and none only if there are no classes. -/
theorem listing_shows_every_rule (document : Option Xml.Document) :
    let policy := resolved document
    (∃ blocks : List (String × List ListingRow),
      policy.listing = blocks.flatMap (·.2) ∧
      (blocks.map (·.1)).Pairwise (fun name other => codePoints name < codePoints other) ∧
      (∀ className, className ∈ blocks.map (·.1) ↔ policy.isInstrumented className = true) ∧
      ∀ block ∈ blocks, ∃ rule, policy.classRule? block.1 = some rule ∧
        rule.ShownBy block.1 block.2) ∧
    policy.listing.length =
      policy.methodCount + policy.classes.values.countP (·.methodCount = 0) ∧
    (policy.listing = [] ↔ policy.classCount = 0) := by
  intro policy
  have hkept : policy.WellKept := wellKept_resolved document
  refine ⟨⟨policy.classes.entries.map fun e => (e.1, e.2.listingRows e.1), ?_, ?_, ?_, ?_⟩,
    length_listing policy, listing_eq_nil_iff policy⟩
  · rw [listing_eq_flatMap, List.flatMap_map]
  · rw [List.map_map]
    exact hkept.ordered
  · intro className
    rw [List.map_map]
    exact Table.contains_eq_true_iff.symm
  · intro block hblock
    obtain ⟨e, he, rfl⟩ := List.mem_map.1 hblock
    refine ⟨e.2, ?_, shownBy_listingRows (hkept.rules e he).toIndexed e.1⟩
    exact (Table.mem_entries_iff (keyed_resolved document).ascending).1 he

end Instrumentation.Policy
