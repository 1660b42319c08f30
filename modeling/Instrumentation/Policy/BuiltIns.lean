/-
  Built-in features

  Tracing of whole frameworks is switched on and off as a block. A disabled block
  stores the defaults and nothing else; while the block is off no feature is in
  effect, and the two trace context settings need HTTP tracing.
-/

namespace Instrumentation.Policy

structure HttpSettings where
  enabled : Bool := false
  traceContext : Bool := false
  backCompat : Bool := true
  deriving DecidableEq, Repr

/-- The level from which log events are captured where none is given. -/
def defaultLoggingLevel : String := "warn"

structure LoggingSettings where
  enabled : Bool := false
  thresholdLevel : String := defaultLoggingLevel
  deriving DecidableEq, Repr

/-- The threshold for slow queries where none is given. -/
def defaultQueryPlanThresholdMs : UInt64 := 10000

/-- The built-in features as stored. -/
structure BuiltIns where
  enabled : Bool
  http : HttpSettings
  jdbc : Bool
  logging : LoggingSettings
  cacheClient : Bool
  queryPlanThresholdMs : UInt64
  deriving DecidableEq, Repr

namespace BuiltIns

/-- Everything off and at its default. -/
def disabled : BuiltIns :=
  { enabled := false
    http := {}
    jdbc := false
    logging := {}
    cacheClient := false
    queryPlanThresholdMs := defaultQueryPlanThresholdMs }

/-- What is stored of the settings that were collected: of a block that is off, nothing. -/
def stored (collected : BuiltIns) : BuiltIns :=
  if collected.enabled then collected else disabled

/-- Whether HTTP tracing is in effect. -/
def httpEnabled (b : BuiltIns) : Bool := b.enabled && b.http.enabled

/-- Whether trace contexts are sent along. -/
def traceContextEnabled (b : BuiltIns) : Bool := b.httpEnabled && b.http.traceContext

/-- Whether trace contexts are sent along in the older form too. -/
def backCompatEnabled (b : BuiltIns) : Bool := b.httpEnabled && b.http.backCompat

def jdbcEnabled (b : BuiltIns) : Bool := b.enabled && b.jdbc
def loggingEnabled (b : BuiltIns) : Bool := b.enabled && b.logging.enabled
def cacheClientEnabled (b : BuiltIns) : Bool := b.enabled && b.cacheClient

/-- The features in effect, by name. -/
def enabledFeatures (b : BuiltIns) : List String :=
  (if b.httpEnabled then ["http"] else []) ++
  (if b.jdbcEnabled then ["jdbc"] else []) ++
  (if b.loggingEnabled then ["logging"] else []) ++
  (if b.cacheClientEnabled then ["cache_client"] else [])

def anyEnabled (b : BuiltIns) : Bool := !b.enabledFeatures.isEmpty

end BuiltIns

end Instrumentation.Policy
