import Instrumentation.Log
import Instrumentation.Text.Cut
/-
  Display names of spans

  The identity of a span names a class and a member behind a marker. Its display
  name is the class with slashes for dots, a dot, and the member. An identity of
  any other shape is displayed as it is.
-/

namespace Instrumentation.Telemetry

/-- The marker in front of the identity of a custom span. -/
def customMarker : String := "__custom,"

/-- The class and the member that an identity names, with the first comma between them. -/
def namedMember? (identity : String) : Option (List Char × List Char) :=
  (customMarker.toList.isPrefixOf? identity.toList).bind (Text.cutAt? ',')

def memberName (className member : List Char) : String :=
  String.ofList (className.map (fun c => if c == '.' then '/' else c) ++ '.' :: member)

def unexpectedIdentity (identity : String) : Log.Event :=
  { level := .warn
    origin := .span
    message := "unexpected local span message: " ++ identity }

def displayName (identity : String) : Logged String :=
  match namedMember? identity with
  | some (className, member) => pure (memberName className member)
  | none => do
    Logged.event (unexpectedIdentity identity)
    return identity

end Instrumentation.Telemetry
