/-
  The words of policy documents

  The tags and attribute names that carry meaning. Any other element or attribute
  may stand in a document and says nothing.
-/

namespace Instrumentation.Policy

/-- The element that holds an agent's settings. -/
def agentTag : String := "ApplicationInsightsAgent"

def instrumentationTag : String := "Instrumentation"
def classTag : String := "Class"
def methodTag : String := "Method"
def builtInTag : String := "BuiltIn"
def httpTag : String := "HTTP"
def jdbcTag : String := "JDBC"
def loggingTag : String := "Logging"
def cacheClientTag : String := "Jedis"

/-- The element whose text is the threshold for slow queries. -/
def queryPlanThresholdTag : String := "MaxStatementQueryLimitInMS"

/-- Every tag that is looked up. -/
def knownTags : List String :=
  [agentTag, instrumentationTag, classTag, methodTag, builtInTag, httpTag, jdbcTag,
   loggingTag, cacheClientTag, queryPlanThresholdTag]

def enabledAttribute : String := "enabled"
def nameAttribute : String := "name"
def typeAttribute : String := "type"
def thresholdAttribute : String := "thresholdInMS"

/-- Tells the overloads of a method apart. -/
def signatureAttribute : String := "signature"

def traceContextAttribute : String := "W3C"
def backCompatAttribute : String := "enableW3CBackCompat"

/-- Gives the level from which log events are captured. -/
def loggingThresholdAttribute : String := "threshold"

/-- Every attribute that is read. -/
def knownAttributes : List String :=
  [enabledAttribute, nameAttribute, typeAttribute, thresholdAttribute, signatureAttribute,
   traceContextAttribute, backCompatAttribute, loggingThresholdAttribute]

end Instrumentation.Policy
