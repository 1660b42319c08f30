import Instrumentation.Files.Path
import Instrumentation.Log
/-
  The directory of the document

  A directory that the user names wins. Otherwise it lies in the directory for
  settings of the platform: the one that the environment names, if its path begins
  at the root, or the usual one in the user's home.
-/

namespace Instrumentation.CommandLine

structure Environment where
  /-- The directory of the document. -/
  configDirectory : Option String := none
  /-- The directory for settings. -/
  settingsDirectory : Option String := none
  /-- The user's home. -/
  home : Option String := none
  deriving DecidableEq, Repr

/-- The name of the program's directory among those for settings. -/
def programDirectory : String := "tracehook"

/-- The directory for settings. There is none without a home. -/
def settingsDirectory? (environment : Environment) : Option String := do
  let home ← environment.home.filter (!·.isEmpty)
  match environment.settingsDirectory.filter Files.isAbsolute with
  | some directory => return directory
  | none => return Files.join home ".config"

/-- The directory of the document, where `named` is the one that the user names. -/
def documentDirectory? (environment : Environment) (named : Option String) :
    Logged (Option String) :=
  let event (message : String) : Logged Unit :=
    Logged.event { level := .debug, origin := .configDirectory, message }
  match named with
  | some directory => do
    event ("Using config directory override: " ++ directory)
    return some directory
  | none =>
    match settingsDirectory? environment with
    | none => pure none
    | some settings => do
      let directory := Files.join settings programDirectory
      event ("Using platform config directory: " ++ directory)
      return some directory

end Instrumentation.CommandLine
