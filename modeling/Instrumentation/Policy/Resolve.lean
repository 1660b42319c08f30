import Instrumentation.Policy.Basic
import Instrumentation.Policy.Lookup
import Instrumentation.Policy.Vocabulary
/-
  Resolving a document into a policy

  What the document says is read in two parts. The built-in features come from the
  first block of their own, if it is there and switched on. The class table comes
  from all class declarations in document order: disabled or unnamed ones count
  for nothing, the first of a name gives the class its type and threshold, and
  each adds the methods inside it that are enabled, named and not there yet.
-/

namespace Instrumentation.Policy

open Xml (Document Node)

/-- The node under which a document declares its policy: the first block for
declarations inside the first policy element. -/
def declarations? (document : Document) : Option Node :=
  ((Node.root document.content).firstElement? agentTag).bind
    (·.firstElement? instrumentationTag)

def missingElement (tag : String) : Log.Event :=
  { level := .debug
    origin := .builder
    message := "No <" ++ tag ++ "> element in policy document" }

/-- The built-in features of a block that is switched on. -/
def featuresOf (block : Node) : Logged BuiltIns := do
  let http := block.firstElement? httpTag
  let logging := block.firstElement? loggingTag
  let queryPlan ←
    match block.firstElement? queryPlanThresholdTag with
    | some limit => limit.numberText?
    | none => pure none
  return BuiltIns.stored {
    enabled := true
    http := {
      enabled := Node.featureEnabled http
      traceContext := http.any (·.boolAttribute traceContextAttribute false)
      backCompat := http.all (·.boolAttribute backCompatAttribute true) }
    jdbc := Node.featureEnabled (block.firstElement? jdbcTag)
    logging := {
      enabled := Node.featureEnabled logging
      thresholdLevel := (logging.map fun l =>
        l.stringAttribute loggingThresholdAttribute defaultLoggingLevel).getD defaultLoggingLevel }
    cacheClient := Node.featureEnabled (block.firstElement? cacheClientTag)
    queryPlanThresholdMs := queryPlan.getD defaultQueryPlanThresholdMs }

def resolveBuiltIns (declarations : Node) : Logged BuiltIns :=
  match declarations.firstElement? builtInTag with
  | none => do
    Logged.event
      { level := .trace
        origin := .builder
        message := "No <BuiltIn> block, built-in instrumentation disabled" }
    return .disabled
  | some block =>
    if block.isEnabled then featuresOf block
    else do
      Logged.event
        { level := .trace, origin := .builder, message := "<BuiltIn> block disabled" }
      return .disabled

/-- Adds what one method declaration says to the rule of its class. -/
def addMethodNode (rule : ClassRule) (node : Node) : Logged ClassRule :=
  if !node.isEnabled then pure rule
  else
    match node.nonEmptyAttribute? nameAttribute with
    | none => pure rule
    | some name => do
      let thresholdMs ← node.numberAttribute thresholdAttribute rule.defaultThresholdMs
      rule.declareMethod name ((node.attribute? signatureAttribute).getD "") thresholdMs

/-- Adds the methods declared inside a class declaration to the rule of the class. -/
def addMethods (rule : ClassRule) (node : Node) : Logged ClassRule :=
  Logged.foldl addMethodNode rule (node.elementsNamed methodTag)

def beginClass (node : Node) : Logged ClassRule := do
  let thresholdMs ← node.numberAttribute thresholdAttribute 0
  return .ofClass (node.stringAttribute typeAttribute otherType) thresholdMs

def addClass (classes : Table String ClassRule) (node : Node) :
    Logged (Table String ClassRule) :=
  if !node.isEnabled then pure classes
  else
    match node.nonEmptyAttribute? nameAttribute with
    | none => pure classes
    | some name => do
      let begun ←
        match classes.get? name with
        | some rule => pure rule
        | none => beginClass node
      let rule ← addMethods begun node
      return classes.set name rule

def resolveClasses (declarations : Node) : Logged (Table String ClassRule) :=
  Logged.foldl addClass .empty (declarations.elementsNamed classTag)

def resolvedEvent (policy : Policy) : Log.Event :=
  { level := .debug
    origin := .builder
    message := "Resolved instrumentation policy: " ++ toString policy.classCount ++
      " classes, " ++ toString policy.methodCount ++ " methods, built-ins " ++
      Text.quotedList policy.builtIns.enabledFeatures }

def ofDeclarations (declarations : Node) : Logged Policy := do
  let builtIns ← resolveBuiltIns declarations
  let classes ← resolveClasses declarations
  let policy : Policy := ⟨builtIns, classes⟩
  Logged.event (resolvedEvent policy)
  return policy

/-- The policy that a document declares; it is empty if there is no place for
declarations in it. -/
def ofDocument (document : Document) : Logged Policy :=
  match (Node.root document.content).firstElement? agentTag with
  | none => do
    Logged.event (missingElement agentTag)
    return .empty
  | some agent =>
    match agent.firstElement? instrumentationTag with
    | none => do
      Logged.event (missingElement instrumentationTag)
      return .empty
    | some declarations => ofDeclarations declarations

/-- The policy of a document is that of its declarations, or the empty one. -/
theorem value_ofDocument (document : Document) :
    (ofDocument document).value =
      match declarations? document with
      | some declarations => (ofDeclarations declarations).value
      | none => .empty := by
  unfold ofDocument declarations?
  cases (Node.root document.content).firstElement? agentTag with
  | none => rfl
  | some agent =>
    simp only [Option.bind_some]
    cases agent.firstElement? instrumentationTag <;> rfl

end Instrumentation.Policy
