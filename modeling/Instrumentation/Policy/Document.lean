import Instrumentation.Xml.Reading
import Instrumentation.Files.Tree
import Instrumentation.Guard
import Instrumentation.Policy.Resolve
/-
  Policy documents

  A policy document is the text of a file with a fixed name in a directory, or
  nothing if there is no such file. No document means the empty policy; a document
  that cannot be read or parsed gives no policy at all, never a part of one.
-/

namespace Instrumentation.Policy

def documentName : String := "AI-Agent.xml"

/-- What a document may cost. -/
structure Limits where
  maxBytes : UInt64 := 4194304
  maxNodes : UInt32 := 200000
  deriving DecidableEq, Repr

/-- Why a document gives no policy. -/
inductive LoadError where
  | unreadable (path : String) (cause : Files.Failure)
  | tooLarge (path : String) (size limit : UInt64)
  | malformed (cause : Xml.ReadError)
  | aborted (cause : Guard.Recovered)
  deriving DecidableEq, Repr

namespace LoadError

def message : LoadError → String
  | unreadable path _ => "Failed to read policy document " ++ path
  | tooLarge path size limit =>
    "Policy document " ++ path ++ " is " ++ toString size.toNat ++
      " bytes, exceeding the " ++ toString limit.toNat ++ " byte limit"
  | malformed cause => "Malformed policy document: " ++ cause.message
  | aborted cause => "Policy build aborted: " ++ cause.text

/-- The texts of what led to an error, the nearest first. -/
def causes : LoadError → List String
  | unreadable _ cause => [cause.message]
  | tooLarge _ _ _ => []
  | malformed cause => [cause.message]
  | aborted cause => [cause.text]

end LoadError

/-- The text of a document and where it came from, or nothing. -/
structure SourceDocument where
  path : Option String := none
  source : Option String := none
  limits : Limits := {}

namespace SourceDocument

def ofSource (source : String) (limits : Limits := {}) : SourceDocument :=
  { source := some source, limits }

def isEmpty (document : SourceDocument) : Bool := document.source.isNone

/-- Parses the text, if there is any. -/
def parse (document : SourceDocument) : Except LoadError (Option Xml.Document) :=
  match document.source with
  | none => .ok none
  | some source =>
    match Xml.Document.read document.limits.maxNodes.toNat source with
    | .ok parsed => .ok (some parsed)
    | .error e => .error (.malformed e)

def policy (document : SourceDocument) : Logged (Except LoadError Policy) :=
  match document.parse with
  | .error e => pure (.error e)
  | .ok none => pure (.ok .empty)
  | .ok (some parsed) => do
    let policy ← Policy.ofDocument parsed
    return .ok policy

end SourceDocument

/-- What stands where a policy document is expected. -/
inductive FileState where
  | absent
  | directory (size : UInt64)
  | file (bytes : ByteArray)
  /-- The path cannot be followed to its end. -/
  | blocked (cause : Files.Failure)

def FileState.isFile : FileState → Bool
  | file _ => true
  | absent | directory _ | blocked _ => false

/-- What stands at a path of a tree of files, whose directories are `directorySize`
bytes large. -/
def FileState.inTree (tree : Files.Tree) (directorySize : UInt64) (path : String) : FileState :=
  match tree.lookup path with
  | .error .notFound => .absent
  | .error cause => .blocked cause
  | .ok .directory => .directory directorySize
  | .ok (.file bytes) => .file bytes
  | .ok .drain | .ok .full => .file .empty
  | .ok (.blocked cause) => .blocked cause

/-- Where a policy document is expected, and its limits. -/
structure Loader where
  baseDirectory : String
  limits : Limits := {}

namespace Loader

def documentPath (loader : Loader) : String :=
  Files.join loader.baseDirectory documentName

def logged (level : Log.Level) (message : String) : Logged Unit :=
  Logged.event { level, origin := .document, message }

/-- The document that `size` bytes at the path make, if they are not too many. -/
def readSized (loader : Loader) (size : Nat) (text : Except Files.Failure String) :
    Except LoadError SourceDocument :=
  if loader.limits.maxBytes.toNat < size then
    .error (.tooLarge loader.documentPath (.ofNat size) loader.limits.maxBytes)
  else
    match text with
    | .ok source =>
      .ok { path := some loader.documentPath, source := some source, limits := loader.limits }
    | .error cause => .error (.unreadable loader.documentPath cause)

def decode (bytes : ByteArray) : Except Files.Failure String :=
  match String.fromUTF8? bytes with
  | some text => .ok text
  | none => .error .invalidText

def read (loader : Loader) (state : FileState) : Logged (Except LoadError SourceDocument) :=
  match state with
  | .absent => do
    logged .trace ("Did not find policy document in '" ++ loader.documentPath ++ "'")
    return .ok { limits := loader.limits }
  | .blocked cause => return .error (.unreadable loader.documentPath cause)
  | .directory size => do
    logged .trace ("Found policy document in '" ++ loader.documentPath ++ "'")
    return loader.readSized size.toNat (.error .isDirectory)
  | .file bytes => do
    logged .trace ("Found policy document in '" ++ loader.documentPath ++ "'")
    return loader.readSized bytes.size (decode bytes)

def tryLoadPolicy (loader : Loader) (state : FileState) : Logged (Except LoadError Policy) := do
  match ← loader.read state with
  | .ok document => document.policy
  | .error e => return .error e

/-- The policy that loading came to. That there is none is logged as an error. -/
def policyOrDisabled (loader : Loader) (result : Except LoadError Policy) :
    Logged (Option Policy) :=
  match result with
  | .ok policy => pure (some policy)
  | .error e => do
    logged .error ("Exception parsing " ++ loader.documentPath ++
      ", custom instrumentation disabled: " ++ e.message)
    return none

/-- Reads the document and resolves its policy, if there is one to be had. -/
def loadPolicy (loader : Loader) (state : FileState) : Logged (Option Policy) := do
  let result ← loader.tryLoadPolicy state
  loader.policyOrDisabled result

end Loader

end Instrumentation.Policy
