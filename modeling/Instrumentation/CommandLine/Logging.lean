import Instrumentation.CommandLine.Request
import Instrumentation.Format.Json
import Instrumentation.Time.Written
/-
  Showing events

  A filter says from which level on the events of each part are shown; of the rules
  that apply to a part, the one with the longest path decides. Events are shown as
  lines of text, or as data where some part is traced.
-/

namespace Instrumentation.CommandLine

open Format (Json)
open Log (Level Event Field)

def TracedPart.path : TracedPart → String
  | policy => "tracehook_core::policy"
  | telemetry => "tracehook_core::telemetry"
  | all => "tracehook_core"

def TracedPart.text : TracedPart → String
  | policy => "Policy"
  | telemetry => "Telemetry"
  | all => "All"

/-- The level from which the parts below a path are shown. -/
structure FilterRule where
  path : String
  level : Level
  deriving DecidableEq, Repr

structure Filter where
  rules : List FilterRule
  deriving DecidableEq, Repr

namespace Filter

/-- The filter of a request. Records that are themselves the content of the log are
shown at any level, and all of a traced part is. -/
def ofRequest (request : Request) : Filter :=
  { rules :=
      ⟨"", request.level⟩ :: ⟨Log.Origin.telemetry.path, .info⟩ ::
        request.traced.map fun part => ⟨part.path, .trace⟩ }

/-- The rule with the longer path. -/
def closer (a b : FilterRule) : FilterRule :=
  if a.path.length < b.path.length then b else a

def rule? (filter : Filter) (path : String) : Option FilterRule :=
  match filter.rules.filter fun rule => rule.path.toList.isPrefixOf path.toList with
  | [] => none
  | rule :: rest => some (rest.foldl closer rule)

def shows (filter : Filter) (event : Event) : Bool :=
  match filter.rule? event.origin.path with
  | some rule => event.level.shownAt rule.level
  | none => false

end Filter

def fieldText : Field → String
  | .quoted text => Text.quoted text
  | other => other.text

/-- The name of a level with blanks in front, so that all have one width. -/
def paddedLevel (level : Level) : String :=
  String.ofList (level.text.toList.leftpad 5 ' ')

/-- The written form of one character of a message. Those by which a terminal would
be steered are escaped. -/
def messageChar (c : Char) : List Char :=
  if ['\x07', '\x08', '\x0c', '\x1b', '\x7f'].contains c then
    '\\' :: 'x' :: Json.hexPair c.toNat
  else if 0x80 ≤ c.toNat && c.toNat ≤ 0x9F then
    ['\\', 'u', '\x7b'] ++ Json.hexPair c.toNat ++ ['\x7d']
  else [c]

def messageText (message : String) : String :=
  String.ofList (message.toList.flatMap messageChar)

/-- An event as text, without the time in front. -/
def eventText (event : Event) : String :=
  paddedLevel event.level ++ " " ++ messageText event.message ++
    String.join (event.fields.map fun (name, field) => " " ++ name ++ "=" ++ fieldText field)

def fieldReport : Field → Json
  | .number n => .number n
  | .flag b => .bool b
  | other => .string other.text

/-- An event as the members of an object, without its time. -/
def eventMembers (event : Event) : List (String × Json) :=
  [("level", .string event.level.text),
   ("fields", .object <|
     ("message", .string event.message) ::
       event.fields.map fun (name, field) => (name, fieldReport field)),
   ("target", .string event.origin.path)]

/-- The time of an event: universal time down to microseconds. -/
def timeText (time : Time.Timestamp) : String :=
  String.ofList <|
    time.date.written ++ 'T' :: Time.writtenTimeOfDay (time.seconds % 86400).toNat ++
      '.' :: Time.padded 6 (time.nanos / 1000) ++ ['Z']

/-- The line that shows an event, as data or as text. -/
def eventLine (structured : Bool) (time : String) (event : Event) : String :=
  if structured then (Json.object (("timestamp", .string time) :: eventMembers event)).compact
  else time ++ " " ++ eventText event

def tracingEnabled (traced : List TracedPart) : Event :=
  { level := .info
    origin := .commandLine
    message := "Tracehook tracing enabled"
    fields :=
      [("trace_modules",
        .plain ("[" ++ String.intercalate ", " (traced.map TracedPart.text) ++ "]"))] }

end Instrumentation.CommandLine
