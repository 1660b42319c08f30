import Instrumentation.Format.Grid
import Instrumentation.Policy.Basic
/-
  Listing a policy

  One row for each traced method, and one for each class without any. Rows follow
  the order of the tables: by class, then by method and signature.
-/

namespace Instrumentation.Policy

structure ListingRow where
  className : String
  typeTag : String
  method : String
  signature : String
  thresholdMs : UInt64
  deriving DecidableEq, Repr

/-- The row of a method. A rule for every overload has a star for its signature. -/
def MethodRule.listingRow (className typeTag : String) (rule : MethodRule) : ListingRow :=
  { className
    typeTag
    method := rule.name
    signature := if rule.matchesAnySignature then "*" else rule.signature
    thresholdMs := rule.thresholdMs }

/-- The rows of a class. A class without methods has dashes for a method. -/
def ClassRule.listingRows (className : String) (rule : ClassRule) : List ListingRow :=
  if rule.methodCount = 0 then
    [{ className
       typeTag := rule.typeTag
       method := "-"
       signature := "-"
       thresholdMs := rule.defaultThresholdMs }]
  else rule.methods.values.map (·.listingRow className rule.typeTag)

def listing (policy : Policy) : List ListingRow :=
  policy.classes.entries.flatMap fun (name, rule) => rule.listingRows name

def listingGrid (policy : Policy) : Format.Grid :=
  { heading := ["Class", "Type", "Method", "Signature", "Threshold (ms)"]
    rows := policy.listing.map fun row =>
      [row.className, row.typeTag, row.method, row.signature,
        toString row.thresholdMs.toNat] }

end Instrumentation.Policy
