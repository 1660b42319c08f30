import Instrumentation.Format.Json
import Instrumentation.Policy.Basic
/-
  Policies as data

  Everything a policy stores, in the order in which it stores it. Classes and
  methods appear in ascending order, because that is how tables list them.
-/

namespace Instrumentation

open Format (Json)

namespace Policy

/-- The stored built-in features as data. -/
def BuiltIns.report (b : BuiltIns) : Json :=
  .object
    [("enabled", .bool b.enabled),
     ("http", .object
       [("enabled", .bool b.http.enabled),
        ("w3c_trace_context", .bool b.http.traceContext),
        ("w3c_back_compat", .bool b.http.backCompat)]),
     ("jdbc_enabled", .bool b.jdbc),
     ("logging", .object
       [("enabled", .bool b.logging.enabled),
        ("threshold_level", .string b.logging.thresholdLevel)]),
     ("cache_client_enabled", .bool b.cacheClient),
     ("query_plan_threshold_ms", .number b.queryPlanThresholdMs.toNat)]

def MethodRule.report (rule : MethodRule) : Json :=
  .object
    [("name", .string rule.name),
     ("signature", .string rule.signature),
     ("threshold_ms", .number rule.thresholdMs.toNat)]

def ClassRule.report (rule : ClassRule) : Json :=
  .object
    [("type_tag", .string rule.typeTag),
     ("default_threshold_ms", .number rule.defaultThresholdMs.toNat),
     ("methods", .array (rule.methods.values.map MethodRule.report))]

def report (policy : Policy) : Json :=
  .object
    [("builtins", policy.builtIns.report),
     ("classes", .object
       (policy.classes.entries.map fun (name, rule) => (name, rule.report)))]

end Policy

end Instrumentation
