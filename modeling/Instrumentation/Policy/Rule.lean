import Instrumentation.Policy.Table
import Instrumentation.Log
/-
  Rules for classes and methods

  A class rule gives a class its type and its default threshold and says which of
  its methods are traced. Method rules are kept by name and signature; an empty
  signature stands for every overload, and the first declaration of a pair is the
  one that holds.
-/

namespace Instrumentation.Policy

/-- The type of classes that declare none. -/
def otherType : String := "OTHER"

/-- Which methods of a class a rule is for. -/
structure MethodKey where
  name : String
  signature : String
  deriving DecidableEq, Repr

/-- Keys are ordered by name, then by signature. -/
instance : Ord MethodKey where
  compare a b := (compare a.name b.name).then (compare a.signature b.signature)

theorem MethodKey.compare_def (a b : MethodKey) :
    compare a b = (compare a.name b.name).then (compare a.signature b.signature) := rfl

instance : Std.TransOrd MethodKey :=
  inferInstanceAs (Std.TransCmp
    (compareLex (compareOn MethodKey.name) (compareOn MethodKey.signature)))

instance : Std.LawfulEqOrd MethodKey where
  eq_of_compare {a b} h := by
    rw [MethodKey.compare_def, Ordering.then_eq_eq] at h
    obtain ⟨n, s⟩ := a
    obtain ⟨m, t⟩ := b
    simp only [Std.compare_eq_iff_eq] at h
    simp [h.1, h.2]

structure MethodRule where
  name : String
  signature : String
  thresholdMs : UInt64
  deriving DecidableEq, Repr

/-- Whether a rule is for every overload of its method. -/
def MethodRule.matchesAnySignature (rule : MethodRule) : Bool := rule.signature.isEmpty

/-- How the methods of one class are traced. -/
structure ClassRule where
  typeTag : String
  defaultThresholdMs : UInt64
  methods : Table MethodKey MethodRule
  deriving DecidableEq, Repr

namespace ClassRule

def ofClass (typeTag : String) (defaultThresholdMs : UInt64) : ClassRule :=
  ⟨typeTag, defaultThresholdMs, .empty⟩

/-- Adds a method, unless there is one with its name and signature. Says whether
it was added. -/
def addMethod (rule : ClassRule) (name signature : String) (thresholdMs : UInt64) :
    ClassRule × Bool :=
  if rule.methods.contains ⟨name, signature⟩ then (rule, false)
  else
    ({ rule with
        methods := rule.methods.set ⟨name, signature⟩ ⟨name, signature, thresholdMs⟩ }, true)

/-- Adds a method and logs if there was one already. -/
def declareMethod (rule : ClassRule) (name signature : String) (thresholdMs : UInt64) :
    Logged ClassRule :=
  match rule.addMethod name signature thresholdMs with
  | (rule, true) => pure rule
  | (rule, false) => do
    Logged.event
      { level := .debug
        origin := .model
        message := "Keeping first declaration of duplicate method rule"
        fields := [("method", .plain name), ("signature", .plain signature)] }
    return rule

def methodCount (rule : ClassRule) : Nat := rule.methods.size

/-- The rule for a method: the one for its signature, or else the one for every
overload. -/
def methodRule? (rule : ClassRule) (name signature : String) : Option MethodRule :=
  (rule.methods.get? ⟨name, signature⟩).or (rule.methods.get? ⟨name, ""⟩)

end ClassRule

end Instrumentation.Policy
