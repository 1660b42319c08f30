import Instrumentation.Policy.Document
import Instrumentation.Policy.Report
import Instrumentation.Proofs.Format.JsonMembers
import Instrumentation.Proofs.Policy.RuleInduction
/-
  Reading a policy back from its report

  A report lists the methods of a class without the keys of their table: a rule is
  kept under its own name and signature, so the keys can be made again from the
  rules. That this holds, and that the tables are in order, is what every policy of
  a document is shown to have.

  What is proved:
    1. `keyed_resolved` — in the policy of a document every method is kept under its own
       name and signature, and both kinds of table are in order.
    2. `ofReport?_report` — such a policy is made again from its report, whatever
       characters its texts are made of.
    3. `report_loses_nothing` — so the policy of a document is read back from either
       text of its report, and no other policy of a document has that text.
-/

namespace Instrumentation

open Format (Json)

namespace Policy

/-! ## Reading reports -/

def BuiltIns.ofReport? (report : Json) : Option BuiltIns := do
  let http ← report.member? "http"
  let logging ← report.member? "logging"
  return {
    enabled := ← (← report.member? "enabled").flag?
    http := {
      enabled := ← (← http.member? "enabled").flag?
      traceContext := ← (← http.member? "w3c_trace_context").flag?
      backCompat := ← (← http.member? "w3c_back_compat").flag? }
    jdbc := ← (← report.member? "jdbc_enabled").flag?
    logging := {
      enabled := ← (← logging.member? "enabled").flag?
      thresholdLevel := ← (← logging.member? "threshold_level").text? }
    cacheClient := ← (← report.member? "cache_client_enabled").flag?
    queryPlanThresholdMs := ← (← report.member? "query_plan_threshold_ms").word? }

def MethodRule.ofReport? (report : Json) : Option MethodRule := do
  return {
    name := ← (← report.member? "name").text?
    signature := ← (← report.member? "signature").text?
    thresholdMs := ← (← report.member? "threshold_ms").word? }

/-- The key that a method rule belongs under. -/
def MethodRule.key (rule : MethodRule) : MethodKey := ⟨rule.name, rule.signature⟩

def ClassRule.ofReport? (report : Json) : Option ClassRule := do
  let methods ← (← (← report.member? "methods").items?).mapM MethodRule.ofReport?
  return {
    typeTag := ← (← report.member? "type_tag").text?
    defaultThresholdMs := ← (← report.member? "default_threshold_ms").word?
    methods := .ofFirsts (methods.map fun rule => (rule.key, rule)) }

def ofReport? (report : Json) : Option Policy := do
  let classes ← (← (← report.member? "classes").members?).mapM fun (name, rule) =>
    (ClassRule.ofReport? rule).map (name, ·)
  return {
    builtIns := ← BuiltIns.ofReport? (← report.member? "builtins")
    classes := .ofFirsts classes }

def ofText? (text : String) : Option Policy := (Json.read? text).bind ofReport?

/-! ## Tables are in order and keys repeat what rules say -/

/-- The methods of a class are in order, each under its own name and signature. -/
structure ClassRule.Keyed (rule : ClassRule) : Prop where
  ascending : rule.methods.Ascending
  key : ∀ e ∈ rule.methods.entries, e.1 = e.2.key

/-- The classes of a table are in order, and so are the methods of each. -/
structure Table.Keyed (classes : Table String ClassRule) : Prop where
  ascending : classes.Ascending
  rules : ∀ e ∈ classes.entries, e.2.Keyed

theorem keyed_ofClass (typeTag : String) (thresholdMs : UInt64) :
    (ClassRule.ofClass typeTag thresholdMs).Keyed :=
  ⟨Table.ascending_empty, fun _ he => by cases he⟩

/-- A method is added under its own name and signature. -/
theorem keyed_addMethod {rule : ClassRule} (h : rule.Keyed) (name signature : String)
    (thresholdMs : UInt64) : (rule.addMethod name signature thresholdMs).1.Keyed := by
  unfold ClassRule.addMethod
  split
  · exact h
  · refine ⟨h.ascending.set _ _, ?_⟩
    intro e he
    rcases Table.mem_place he with rfl | he
    · rfl
    · exact h.key e he

theorem keyed_empty : (Table.empty : Table String ClassRule).Keyed :=
  ⟨Table.ascending_empty, fun _ he => by cases he⟩

/-- The policy of a document, and the empty one if there is no document. -/
def resolved : Option Xml.Document → Policy
  | none => .empty
  | some document => (ofDocument document).value

/-- What a source comes to is the policy of the document that was parsed, if any. -/
theorem value_policy_eq_resolved (source : SourceDocument) :
    source.policy.value = source.parse.map resolved := by
  unfold SourceDocument.policy
  match source.parse with
  | .error _ => rfl
  | .ok none => rfl
  | .ok (some _) => rfl

theorem keyed_resolved (document : Option Xml.Document) : (resolved document).classes.Keyed := by
  cases document with
  | none => exact keyed_empty
  | some document =>
    have hrules := ofDocument_induction keyed_ofClass
      (fun h _ signature thresholdMs => keyed_addMethod h _ signature thresholdMs) document
    exact ⟨ascending_ofDocument document, fun e he => (hrules e he).2⟩

/-! ## A policy is made again from its report -/

theorem Table.firsts_eq_self {κ ν : Type} [DecidableEq κ] {entries : List (κ × ν)}
    (h : entries.Pairwise fun a b => a.1 ≠ b.1) : Table.firsts entries = entries := by
  induction entries with
  | nil => rfl
  | cons e rest ih =>
    obtain ⟨hhead, hrest⟩ := List.pairwise_cons.1 h
    have hfilter : rest.filter (·.1 ≠ e.1) = rest :=
      List.filter_eq_self.2 fun d hd => by simpa using (hhead d hd).symm
    rw [Table.firsts, ih hrest, hfilter]

theorem Table.ofFirsts_entries {κ ν : Type} [Ord κ] [Std.TransOrd κ] [Std.LawfulEqOrd κ]
    [DecidableEq κ] {table : Table κ ν} (h : table.Ascending) :
    Table.ofFirsts table.entries = table := by
  have hdistinct : table.entries.Pairwise fun a b => a.1 ≠ b.1 := by
    refine List.Pairwise.imp ?_ h
    intro a b hlt hab
    rw [hab, Std.ReflOrd.compare_self] at hlt
    cases hlt
  have hsorted : table.entries.Pairwise fun a b => (compare a.1 b.1).isLE = true :=
    List.Pairwise.imp (fun hlt => by rw [hlt]; rfl) h
  rw [Table.ofFirsts, Table.firsts_eq_self hdistinct, List.mergeSort_of_pairwise hsorted]

theorem BuiltIns.ofReport?_report (b : BuiltIns) : BuiltIns.ofReport? b.report = some b := by
  simp [ofReport?, report]

theorem MethodRule.ofReport?_report (rule : MethodRule) :
    MethodRule.ofReport? rule.report = some rule := by
  simp [ofReport?, report]

theorem ClassRule.ofFirsts_methods {rule : ClassRule} (h : rule.Keyed) :
    Table.ofFirsts (rule.methods.values.map fun method => (method.key, method)) =
      rule.methods := by
  -- The keys that the report leaves out are those that the rules name.
  have hentries : rule.methods.values.map (fun method => (method.key, method)) =
      rule.methods.entries := by
    calc rule.methods.values.map (fun method => (method.key, method))
        = rule.methods.entries.map fun e => (e.2.key, e.2) := by
          rw [Table.values, List.map_map, Function.comp_def]
      _ = rule.methods.entries.map id :=
          List.map_congr_left fun e he => Prod.ext (h.key e he).symm rfl
      _ = rule.methods.entries := List.map_id _
  rw [hentries, Table.ofFirsts_entries h.ascending]

theorem ClassRule.ofReport?_report {rule : ClassRule} (h : rule.Keyed) :
    ClassRule.ofReport? rule.report = some rule := by
  have hmethods : (rule.methods.values.map MethodRule.report).mapM MethodRule.ofReport? =
      some rule.methods.values :=
    Json.mapM_map_some fun method _ => MethodRule.ofReport?_report method
  simp [ofReport?, report, hmethods, ClassRule.ofFirsts_methods h]

/-- A policy with tables in order is made again from its report. -/
theorem ofReport?_report {policy : Policy} (h : policy.classes.Keyed) :
    ofReport? policy.report = some policy := by
  have hclasses : (policy.classes.entries.map fun e => (e.1, e.2.report)).mapM
      (fun e => (ClassRule.ofReport? e.2).map (e.1, ·)) = some policy.classes.entries := by
    apply Json.mapM_map_some
    intro e he
    rw [ClassRule.ofReport?_report (h.rules e he)]
    rfl
  simp [ofReport?, report, hclasses, BuiltIns.ofReport?_report,
    Table.ofFirsts_entries h.ascending]

theorem ofText?_compact {policy : Policy} (h : policy.classes.Keyed) :
    ofText? policy.report.compact = some policy := by
  rw [ofText?, Json.read?_compact, Option.bind_some, ofReport?_report h]

theorem ofText?_pretty {policy : Policy} (h : policy.classes.Keyed) :
    ofText? policy.report.pretty = some policy := by
  rw [ofText?, Json.read?_pretty, Option.bind_some, ofReport?_report h]

/-- The policy of a document is read back from either text of its report. Both texts
stand for the same value, and only equal policies of documents have equal texts. -/
theorem report_loses_nothing (document other : Option Xml.Document) :
    ofText? (resolved document).report.compact = some (resolved document) ∧
    ofText? (resolved document).report.pretty = some (resolved document) ∧
    Json.read? (resolved document).report.compact = some (resolved document).report ∧
    Json.read? (resolved document).report.pretty = some (resolved document).report ∧
    ((resolved document).report.compact = (resolved other).report.compact ↔
      resolved document = resolved other) ∧
    ((resolved document).report.pretty = (resolved other).report.pretty ↔
      resolved document = resolved other) := by
  have hcompact : ∀ d, ofText? (resolved d).report.compact = some (resolved d) :=
    fun d => ofText?_compact (keyed_resolved d)
  have hpretty : ∀ d, ofText? (resolved d).report.pretty = some (resolved d) :=
    fun d => ofText?_pretty (keyed_resolved d)
  refine ⟨hcompact document, hpretty document, Json.read?_compact _, Json.read?_pretty _, ?_, ?_⟩
  · refine ⟨fun h => ?_, fun h => by rw [h]⟩
    have hread := hcompact document
    rw [h, hcompact other] at hread
    exact (Option.some.inj hread).symm
  · refine ⟨fun h => ?_, fun h => by rw [h]⟩
    have hread := hpretty document
    rw [h, hpretty other] at hread
    exact (Option.some.inj hread).symm

end Policy

end Instrumentation
