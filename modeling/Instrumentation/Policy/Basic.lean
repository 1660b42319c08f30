import Instrumentation.Policy.BuiltIns
import Instrumentation.Policy.Rule
/-
  Instrumentation policies

  A policy is the built-in features and a table of class rules. A class that is
  not in the table is never traced.
-/

namespace Instrumentation

open Policy in
structure Policy where
  builtIns : BuiltIns
  classes : Table String ClassRule
  deriving DecidableEq, Repr

namespace Policy

def empty : Policy := ⟨.disabled, .empty⟩

def isEmpty (policy : Policy) : Bool :=
  policy.classes.entries.isEmpty && !policy.builtIns.enabled

def classRule? (policy : Policy) (className : String) : Option ClassRule :=
  policy.classes.get? className

def isInstrumented (policy : Policy) (className : String) : Bool :=
  policy.classes.contains className

def classCount (policy : Policy) : Nat := policy.classes.size

def methodCount (policy : Policy) : Nat :=
  policy.classes.values.foldl (fun count rule => count + rule.methodCount) 0

def methodRule? (policy : Policy) (className method signature : String) :
    Option MethodRule :=
  (policy.classRule? className).bind (·.methodRule? method signature)

/-- The threshold of a traced method in milliseconds. -/
def methodThresholdMs? (policy : Policy) (className method signature : String) :
    Option UInt64 :=
  (policy.methodRule? className method signature).map (·.thresholdMs)

end Policy

end Instrumentation
