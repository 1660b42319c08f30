import Instrumentation.Policy.Document
/-
  The policy in force

  A store holds the current policy, or none while custom tracing is disabled. Each
  reload and each publication replaces it whole and is counted. What stands at the
  document's path is an argument of every operation that reads it.
-/

namespace Instrumentation.Policy

/-- What a publication came to. -/
inductive Publication where
  | published
  | disabled
  deriving DecidableEq, Repr

def Publication.text : Publication → String
  | published => "Published"
  | disabled => "Disabled"

/-- The current policy and how it came about. -/
structure Store where
  loader : Loader
  current : Option Policy
  reloadCount : UInt64
  /-- Whether anything was published after the store was opened. -/
  reloaded : Bool

namespace Store

def logged (level : Log.Level) (message : String) : Logged Unit :=
  Logged.event { level, origin := .store, message }

/-- Opens a store with the policy of the document. -/
def load (loader : Loader) (state : FileState) : Logged Store := do
  let current ← loader.loadPolicy state
  return { loader, current, reloadCount := 0, reloaded := false }

def isEnabled (store : Store) : Bool := store.current.isSome

def publish (store : Store) (policy : Option Policy) : Logged (Publication × Store) := do
  let next := { store with
    current := policy, reloadCount := store.reloadCount + 1, reloaded := true }
  match policy with
  | some p =>
    logged .info ("Instrumentation policy published: " ++ toString p.classCount ++
      " classes, " ++ toString p.methodCount ++ " methods")
    return (.published, next)
  | none =>
    logged .warn "No instrumentation policy produced, custom instrumentation disabled"
    return (.disabled, next)

/-- Reads the document again and publishes what it says. -/
def reload (store : Store) (state : FileState) : Logged (Publication × Store) := do
  logged .info ("Reloading instrumentation policy from " ++ store.loader.documentPath)
  let policy ← store.loader.loadPolicy state
  store.publish policy

def describe (store : Store) : String :=
  "PolicyStore \x7b loader: PolicyDocumentLoader \x7b base_dir: " ++
    Text.quoted store.loader.baseDirectory ++
    ", options: LoaderOptions \x7b max_document_bytes: " ++
    toString store.loader.limits.maxBytes.toNat ++ ", max_nodes: " ++
    toString store.loader.limits.maxNodes.toNat ++ " \x7d \x7d, enabled: " ++
    (if store.isEnabled then "true" else "false") ++ ", reload_count: " ++
    toString store.reloadCount.toNat ++ " \x7d"

end Store

end Instrumentation.Policy
