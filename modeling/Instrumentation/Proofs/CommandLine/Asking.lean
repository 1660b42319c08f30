import Instrumentation.CommandLine.Run
/-
  Asking for a command on a policy

  Three commands are on the policy of a document. Which document it is depends on the
  arguments and on the environment. A value may stand behind the equals sign of its
  option, and there it can be any text, also one that begins with dashes.

  What is proved:
    1. `shape_withValue`, `read_withValue` — an option with its value is read as what it
       is, and taken.
    2. `exists_asks` — every command on a policy can be asked for, whatever its texts and
       whatever the directory, as long as the directory has a name.
-/

namespace Instrumentation.CommandLine

open Policy (Loader FileState)

/-- What a command does with a document, if it is on the policy of one. -/
def Command.onPolicy? : Command → Option (Loader → FileState → Logged Answer)
  | .validate json => some (CommandLine.validate · · json)
  | .inspect view => some (CommandLine.inspect · · view)
  | .lookup className method signature =>
    some (CommandLine.lookup · · className method signature)
  | .spanName _ => none
  | .emit _ _ _ => none

def Command.isOnPolicy (command : Command) : Bool := command.onPolicy?.isSome

/-- The arguments are well formed and ask for a command, and the document that the command
is on lies in a directory. -/
def Asks (around : Surroundings) (baseDirectory : String) (arguments : List String)
    (command : Command) : Prop :=
  ∃ request, Request.ofArguments around.environment.configDirectory arguments = .ok request ∧
    request.command = command ∧
    (documentDirectory? around.environment request.configDirectory).value = some baseDirectory

/-! ## Options with values -/

/-- An option with its value behind an equals sign. -/
def withValue (option value : String) : String := "--" ++ option ++ "=" ++ value

theorem shape_withValue {option : String} (h : '=' ∉ option.toList) (value : String) :
    ArgumentShape.of (withValue option value) = .option option (some value) := by
  have hchars : (withValue option value).toList =
      '-' :: '-' :: (option.toList ++ '=' :: value.toList) := by
    simp [withValue]
  unfold ArgumentShape.of
  rw [hchars]
  split
  · next heq => simp at heq
  · next heq =>
    obtain rfl := (List.cons.inj (List.cons.inj heq).2).2
    simp only [Text.cutAt?_eq_some_iff.2 ⟨h, rfl⟩, String.ofList_toList]
  · next hnot heq => exact (hnot (List.cons.inj (List.cons.inj heq).2).1.symm).elim
  · next hnot _ => exact (hnot _ rfl).elim

/-- An option with a value that it accepts is taken, if it was not given before. -/
theorem read_withValue {form : SectionForm} {given : Given} {option value : String}
    {accepts : String → Bool} (hname : '=' ∉ option.toList)
    (hform : form.option? option = some ⟨option, .value accepts⟩) (hvalue : accepts value = true)
    (hnew : given.has option = false) (rest : List String) :
    form.read given (withValue option value :: rest) =
      form.read { given with options := given.options ++ [(option, value)] } rest := by
  rw [SectionForm.read, shape_withValue hname]
  simp only [hform, Given.add, hvalue, hnew, Bool.not_false, Bool.and_self, if_true]
  rfl

/-! ## Commands in a directory -/

/-- The section that names nothing but a directory. -/
def naming (baseDirectory : String) : Given := { options := [("config-dir", baseDirectory)] }

/-- The arguments of a command that name the directory in both sections. -/
def namedTwice (baseDirectory name : String) (rest : List String) : List String :=
  withValue "config-dir" baseDirectory :: name :: withValue "config-dir" baseDirectory :: rest

variable {baseDirectory : String}

/-- If both sections name a directory, the environment is not asked for one. -/
theorem ofSections_named {name outer : String} {given : Given} {command : Command}
    (environment : Option String) (hcommand : commandOf name given = some command)
    (hgiven : given.value? "config-dir" = some baseDirectory) :
    ∃ request, Request.ofSections name (naming outer) given environment = .ok request ∧
      request.command = command ∧ request.configDirectory = some baseDirectory := by
  have hroot : (naming outer).value? "config-dir" = some outer := rfl
  rw [Request.ofSections, hcommand]
  simp only [configDirectoryOf, hgiven, hroot]
  exact ⟨_, rfl, rfl, rfl⟩

theorem asks_namedTwice {form : SectionForm} {command : Command} (around : Surroundings)
    (hdirectory : baseDirectory ≠ "") (name : String) (rest : List String) (given : Given)
    (hname : rootForm.commands.contains name = true) (hword : ArgumentShape.of name = .word)
    (hform : commandForms.lookup name = some form)
    (hoption : form.option? "config-dir" = some ⟨"config-dir", .value nonEmpty⟩)
    (hread : form.read (naming baseDirectory) rest = .ok (given, none))
    (hgiven : given.value? "config-dir" = some baseDirectory)
    (hcommand : commandOf name given = some command) :
    Asks around baseDirectory (namedTwice baseDirectory name rest) command := by
  have hnonEmpty : nonEmpty baseDirectory = true := by simpa [nonEmpty] using hdirectory
  have hroot : ∀ behind : List String,
      rootForm.read {} (withValue "config-dir" baseDirectory :: name :: behind) =
        .ok (naming baseDirectory, some (name, behind)) := by
    intro behind
    rw [read_withValue (by decide) rfl hnonEmpty rfl, SectionForm.read, hword]
    simp only [hname, if_true]
    rfl
  have hsection : form.read {} (withValue "config-dir" baseDirectory :: rest) =
      .ok (given, none) := by
    rw [read_withValue (by decide) hoption hnonEmpty rfl]
    exact hread
  obtain ⟨request, hrequest, rfl, hconfig⟩ :=
    ofSections_named around.environment.configDirectory hcommand hgiven
  refine ⟨request, ?_, rfl, ?_⟩
  · rw [namedTwice, Request.ofArguments, hroot]
    simp only [bind, Except.bind, hform, hsection]
    exact hrequest
  · rw [hconfig]
    rfl

def flagOf : View → String
  | .json => "json"
  | .yaml => "yaml"
  | .table => "table"

/-- Every command on a policy can be asked for in every directory that has a name. -/
theorem exists_asks {command : Command} (around : Surroundings) (hdirectory : baseDirectory ≠ "")
    (hcommand : command.isOnPolicy = true) :
    ∃ arguments, Asks around baseDirectory arguments command := by
  cases command with
  | validate json =>
    refine ⟨_, asks_namedTwice around hdirectory "validate" (if json then ["--json"] else [])
      { options := ("config-dir", baseDirectory) :: if json then [("json", "")] else [] }
      (by decide) (by decide) rfl rfl ?_ ?_ ?_⟩
    all_goals cases json <;> rfl
  | inspect view =>
    refine ⟨_, asks_namedTwice around hdirectory "inspect" ["--" ++ flagOf view]
      { options := [("config-dir", baseDirectory), (flagOf view, "")] }
      (by decide) (by decide) rfl rfl ?_ ?_ ?_⟩
    all_goals cases view <;> rfl
  | lookup className method signature =>
    refine ⟨_, asks_namedTwice around hdirectory "lookup"
      [withValue "class" className, withValue "method" method, withValue "signature" signature]
      { options := [("config-dir", baseDirectory), ("class", className), ("method", method),
          ("signature", signature)] }
      (by decide) (by decide) rfl rfl ?_ rfl rfl⟩
    rw [read_withValue (by decide) rfl rfl rfl, read_withValue (by decide) rfl rfl rfl,
      read_withValue (by decide) rfl rfl rfl]
    rfl
  | spanName identity => cases hcommand
  | emit identity error output => cases hcommand

end Instrumentation.CommandLine
