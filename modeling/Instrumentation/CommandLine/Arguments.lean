import Instrumentation.Text.Cut
/-
  Arguments

  A command line has two sections: what stands in front of a command, and what
  stands behind it. In a section stand options, whose names begin with two dashes,
  and operands, in any order; two dashes alone make operands of all that follows.
  The reader goes from left to right and stops at the first thing that cannot
  stand where it stands.
-/

namespace Instrumentation.CommandLine

inductive OptionKind where
  | flag
  /-- A value that passes a test. -/
  | value (accepts : String → Bool)
  /-- A value that passes a test; the option may be given several times. -/
  | values (accepts : String → Bool)

structure OptionForm where
  name : String
  kind : OptionKind

structure SectionForm where
  options : List OptionForm
  /-- How many operands there may be. -/
  operands : Nat := 0
  /-- The commands that may follow. -/
  commands : List String := []
  /-- Whether the version can be asked for. -/
  hasVersion : Bool := false

/-- What was given in one section, in order. A flag is given with an empty value. -/
structure Given where
  options : List (String × String) := []
  operands : List String := []
  deriving DecidableEq, Repr

/-- Why no command is run. -/
inductive Stop where
  /-- The arguments cannot be understood. -/
  | misused
  /-- Help was asked for. -/
  | help
  /-- The version was asked for. -/
  | version
  deriving DecidableEq, Repr

namespace Given

def values (given : Given) (name : String) : List String :=
  (given.options.filter (·.1 == name)).map (·.2)

def has (given : Given) (name : String) : Bool := given.options.any (·.1 == name)

/-- The value of an option that is given at most once. -/
def value? (given : Given) (name : String) : Option String := (given.values name).head?

def add (given : Given) (option : OptionForm) (value : String) : Except Stop Given :=
  let added := { given with options := given.options ++ [(option.name, value)] }
  match option.kind with
  | .flag => if given.has option.name then .error .misused else .ok added
  | .value accepts =>
    if accepts value && !given.has option.name then .ok added else .error .misused
  | .values accepts => if accepts value then .ok added else .error .misused

/-- Adds an operand, if the section has a place for it. -/
def addOperand (form : SectionForm) (given : Given) (operand : String) : Except Stop Given :=
  if given.operands.length < form.operands then
    .ok { given with operands := given.operands ++ [operand] }
  else .error .misused

def addOperands (form : SectionForm) (given : Given) : List String → Except Stop Given
  | [] => .ok given
  | operand :: rest => do addOperands form (← given.addOperand form operand) rest

end Given

/-- What an argument is by its dashes. -/
inductive ArgumentShape where
  /-- Two dashes alone. -/
  | terminator
  /-- An option with the value that stands behind an equals sign. -/
  | option (name : String) (value? : Option String)
  /-- One or more letters behind a single dash. -/
  | letters (first : Char)
  /-- Neither: a command, an operand, or the value of an option. -/
  | word
  deriving DecidableEq, Repr

def ArgumentShape.of (argument : String) : ArgumentShape :=
  match argument.toList with
  | ['-', '-'] => .terminator
  | '-' :: '-' :: cs =>
    match Text.cutAt? '=' cs with
    | none => .option (String.ofList cs) none
    | some (name, value) => .option (String.ofList name) (some (String.ofList value))
  | '-' :: c :: _ => .letters c
  | _ => .word

namespace SectionForm

def option? (form : SectionForm) (name : String) : Option OptionForm :=
  form.options.find? (·.name == name)

/-- Why an argument with a name that no option has ends the reading. -/
def stopAt (form : SectionForm) (name : String) (hasValue : Bool) : Stop :=
  if hasValue then .misused
  else if name == "help" then .help
  else if name == "version" && form.hasVersion then .version
  else .misused

/-- Why letters behind a single dash end the reading. -/
def stopAtLetter (form : SectionForm) (letter : Char) : Stop :=
  if letter == 'h' then .help
  else if letter == 'V' && form.hasVersion then .version
  else .misused

/-- Reads the arguments of a section, up to the name of a command, which is given
back with the arguments behind it. -/
def read (form : SectionForm) (given : Given) :
    List String → Except Stop (Given × Option (String × List String))
  | [] => .ok (given, none)
  | argument :: rest =>
    match ArgumentShape.of argument with
    | .terminator => do return (← given.addOperands form rest, none)
    | .letters first => .error (form.stopAtLetter first)
    | .word =>
      if form.commands.contains argument then .ok (given, some (argument, rest))
      else do form.read (← given.addOperand form argument) rest
    | .option name value? =>
      match form.option? name with
      | none => .error (form.stopAt name value?.isSome)
      | some option =>
        match option.kind, value? with
        | .flag, some _ => .error .misused
        | .flag, none => do form.read (← given.add option "") rest
        | _, some value => do form.read (← given.add option value) rest
        | _, none =>
          match rest with
          | value :: rest =>
            if ArgumentShape.of value = .word then do form.read (← given.add option value) rest
            else .error .misused
          | [] => .error .misused

end SectionForm

end Instrumentation.CommandLine
