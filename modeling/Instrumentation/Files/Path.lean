/-
  Paths

  A path is a text whose parts are separated by slashes. Joining keeps a path as it
  was written; walking one skips empty parts and dots, and takes a part back for a
  pair of dots.
-/

namespace Instrumentation.Files

/-- The place to which one part of a path leads. -/
def walkPart (place : List String) (part : List Char) : List String :=
  if part.isEmpty || part == ['.'] then place
  else if part == ['.', '.'] then place.dropLast
  else place ++ [String.ofList part]

/-- The place to which a path leads from another. A place is the list of the names
that lead to it from the root. -/
def walk (start : List String) (path : String) : List String :=
  (path.toList.splitOn '/').foldl walkPart start

def isAbsolute (path : String) : Bool := path.toList.head? == some '/'

/-- Whether a path can only be that of a directory. -/
def namesDirectory (path : String) : Bool :=
  match (path.toList.splitOn '/').getLast? with
  | some part => part.isEmpty || part == ['.'] || part == ['.', '.']
  | none => true

def join (base name : String) : String :=
  if base.isEmpty || base.toList.getLast? == some '/' then base ++ name
  else base ++ "/" ++ name

/-- The path `path` as seen from the directory `base`. -/
def resolve (base path : String) : String :=
  if isAbsolute path then path
  else if path.isEmpty then base
  else join base path

end Instrumentation.Files
