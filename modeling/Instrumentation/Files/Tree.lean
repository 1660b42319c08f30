import Instrumentation.Files.Path
/-
  The state of files

  A tree says what stands at each place: a directory, a file with its bytes, one of
  two devices, or something that cannot be used. Operations on it succeed or fail for the reasons that a file
  system gives; what they leave behind is the result.
-/

namespace Instrumentation.Files

/-- Why an operation on files failed. -/
inductive Failure where
  | notFound
  | alreadyExists
  | notDirectory
  | isDirectory
  | noSpace
  | nameTooLong
  | zeroInName
  | invalidText
  /-- A failure that only its description is known of. -/
  | described (text : String)
  deriving DecidableEq, Repr

def Failure.message : Failure → String
  | notFound => "No such file or directory (os error 2)"
  | alreadyExists => "File exists (os error 17)"
  | notDirectory => "Not a directory (os error 20)"
  | isDirectory => "Is a directory (os error 21)"
  | noSpace => "No space left on device (os error 28)"
  | nameTooLong => "File name too long (os error 36)"
  | zeroInName => "file name contained an unexpected NUL byte"
  | invalidText => "stream did not contain valid UTF-8"
  | described text => text

/-- What stands at a place. -/
inductive Entry where
  | directory
  | file (bytes : ByteArray)
  /-- Takes everything and holds nothing. -/
  | drain
  /-- Is always full. -/
  | full
  /-- Cannot be used, for a reason of its own. -/
  | blocked (cause : Failure)

/-- What stands at each place below the root, which is a directory, and the place
from which paths lead that do not begin at the root. -/
structure Tree where
  entries : List (List String × Entry)
  current : List String := []

namespace Tree

def place (tree : Tree) (path : String) : List String :=
  walk (if isAbsolute path then [] else tree.current) path

def entry? (tree : Tree) (place : List String) : Option Entry :=
  if place.isEmpty then some .directory
  else (tree.entries.find? (·.1 == place)).map (·.2)

/-- Puts an entry at a place, in place of what stood there. -/
def put (tree : Tree) (place : List String) (entry : Entry) : Tree :=
  { tree with entries := (place, entry) :: tree.entries.filter (·.1 != place) }

/-- Takes away what stands at a place and below it. -/
def remove (tree : Tree) (place : List String) : Tree :=
  { tree with entries := tree.entries.filter fun e => !place.isPrefixOf e.1 }

/-- The most bytes that a name may have. -/
def longestName : Nat := 255

/-- What stands where a walk from `done` over the names leads. -/
def follow (tree : Tree) (done : List String) : List String → Except Failure Entry
  | [] =>
    match tree.entry? done with
    | some (.blocked cause) => .error cause
    | some entry => .ok entry
    | none => .error .notFound
  | name :: rest =>
    match tree.entry? done with
    | none => .error .notFound
    | some .directory =>
      if name.utf8ByteSize > longestName then .error .nameTooLong
      else tree.follow (done ++ [name]) rest
    | some (.blocked cause) => .error cause
    | some _ => .error .notDirectory

/-- Whether a path can be handed to a file system at all. -/
def checkText (path : String) : Except Failure Unit :=
  if path.isEmpty then .error .notFound
  else if path.toList.contains '\x00' then .error .zeroInName
  else .ok ()

def lookup (tree : Tree) (path : String) : Except Failure Entry := do
  checkText path
  match ← tree.follow [] (tree.place path) with
  | .directory => return .directory
  | entry => if namesDirectory path then .error .notDirectory else return entry

def isFile (tree : Tree) (path : String) : Bool :=
  match tree.lookup path with
  | .ok (.file _) => true
  | _ => false

/-- Makes the directories that a walk from `done` over the names needs. Those that
were made stay, even if a later one cannot be made. -/
def makeDirectories (tree : Tree) (done : List String) : List String → Except Failure Unit × Tree
  | [] => (.ok (), tree)
  | name :: rest =>
    let place := done ++ [name]
    if name.utf8ByteSize > longestName then (.error .nameTooLong, tree)
    else
      match tree.entry? place with
      | some .directory => tree.makeDirectories place rest
      | some _ => (.error (if rest.isEmpty then .alreadyExists else .notDirectory), tree)
      | none => (tree.put place .directory).makeDirectories place rest

/-- Makes the directories above a path, unless something stands where the last of
them belongs. -/
def makeParents (tree : Tree) (path : String) : Except Failure Unit × Tree :=
  match checkText path with
  | .error e => (.error e, tree)
  | .ok () =>
    let parent := (tree.place path).dropLast
    match tree.follow [] parent with
    | .ok _ => (.ok (), tree)
    | .error _ => tree.makeDirectories [] parent

/-- Opens a file for appending, making it if it is not there. -/
def openForAppend (tree : Tree) (path : String) : Except Failure Unit × Tree :=
  match tree.lookup path with
  | .ok .directory => (.error .isDirectory, tree)
  | .ok _ => (.ok (), tree)
  | .error .notFound =>
    let place := tree.place path
    match tree.follow [] place.dropLast with
    | .ok .directory =>
      if path.isEmpty then (.error .notFound, tree)
      else if namesDirectory path then (.error .isDirectory, tree)
      else (.ok (), tree.put place (.file .empty))
    | .ok _ => (.error .notDirectory, tree)
    | .error e => (.error e, tree)
  | .error e => (.error e, tree)

def append (tree : Tree) (path : String) (bytes : ByteArray) : Except Failure Unit × Tree :=
  let place := tree.place path
  match tree.entry? place with
  | some (.file old) => (.ok (), tree.put place (.file (old ++ bytes)))
  | some .drain => (.ok (), tree)
  | some .full => (.error .noSpace, tree)
  | some .directory => (.error .isDirectory, tree)
  | some (.blocked cause) => (.error cause, tree)
  | none => (.error .notFound, tree)

/-- Puts an entry at a place, with the directories it needs above it. -/
def putBelow (tree : Tree) (place : List String) (entry : Entry) : Tree :=
  (tree.makeDirectories [] place.dropLast).2.put place entry

/-- Writes a whole file, with the directories it needs. Nothing but a file makes
room for it. -/
def write (tree : Tree) (path : String) (bytes : ByteArray) : Tree :=
  match tree.entry? (tree.place path) with
  | none | some (.file _) => tree.putBelow (tree.place path) (.file bytes)
  | some _ => tree

def read (tree : Tree) (path : String) : Except Failure ByteArray := do
  match ← tree.lookup path with
  | .file bytes => return bytes
  | .directory => .error .isDirectory
  | .drain | .full => return .empty
  | .blocked cause => .error cause

end Tree

end Instrumentation.Files
