import Instrumentation.Proofs.CommandLine.Asking
import Instrumentation.Proofs.Format.JsonMembers
import Instrumentation.Proofs.Policy.Extent
import Instrumentation.Proofs.Policy.FailClosed
/-
  What the commands say of a policy

  Validating, inspecting and looking up reach the policy of a document in ways of their
  own, and an agent in another. All of them begin with the same attempt to load it, so
  they succeed on the same documents. What they then print differs in form only: it is
  the policy that the agent has.

  What is proved:
    1. `perform_of_asks`, `exit_onPolicy` — a run of the program comes to what its command
       comes to, and that is a success where the agent has a policy.
    2. `counts_of_shown` — validating counts what inspecting shows.
    3. `endsIn_text_iff` — a line about a method tells one verdict, the one that the policy
       gives. Its texts may hold anything, so what counts is how the line ends.
    4. `commands_agree` — hence the commands agree with the agent, for every tree of files.
-/

namespace Instrumentation.CommandLine

open Format (Json)
open Policy (Loader FileState)

/-! ## Runs of commands -/

def loaderIn (baseDirectory : String) : Loader := { baseDirectory }

/-- What stands where the document of a directory is expected. -/
def stateIn (around : Surroundings) (tree : Files.Tree) (baseDirectory : String) : FileState :=
  .inTree tree around.directorySize (loaderIn baseDirectory).documentPath

variable {around : Surroundings} {tree : Files.Tree} {baseDirectory : String}
  {loader : Loader} {state : FileState} {policy : Policy}

theorem run_onDocument {named : Option String}
    (h : (documentDirectory? around.environment named).value = some baseDirectory)
    (f : Loader → FileState → Logged Answer) :
    ((onDocument around named f).run tree).value =
      (.returned (f (loaderIn baseDirectory) (stateIn around tree baseDirectory)).value, tree) := by
  have hdirectory : (Effect.ofLogged (documentDirectory? around.environment named) :
      Effect Files.Tree (Option String)).run tree =
        ⟨(.returned (some baseDirectory), tree),
          (documentDirectory? around.environment named).events⟩ := by
    rw [← h]
    rfl
  rw [onDocument, Effect.run_bind_returned hdirectory]
  rfl

/-- An event in front of a computation makes no difference to what it comes to. -/
theorem value_run_behindEvent {σ α : Type} (logs : Bool) (e : Log.Event) (x : Effect σ α)
    (s : σ) :
    ((if logs then Effect.event e >>= fun _ => x else x : Effect σ α).run s).value =
      (x.run s).value := by
  cases logs <;> rfl

theorem value_run_request {request : Request} {f : Loader → FileState → Logged Answer}
    (hdirectory : (documentDirectory? around.environment request.configDirectory).value =
      some baseDirectory)
    (hcommand : request.command.onPolicy? = some f) :
    ((request.run around).run tree).value =
      (.returned (f (loaderIn baseDirectory) (stateIn around tree baseDirectory)).value, tree) := by
  have hdocument : ((if !request.traced.isEmpty
        then Effect.event (tracingEnabled request.traced) >>= fun _ =>
          onDocument around request.configDirectory f
        else onDocument around request.configDirectory f).run tree).value =
      (.returned (f (loaderIn baseDirectory) (stateIn around tree baseDirectory)).value, tree) :=
    (value_run_behindEvent _ _ _ tree).trans (run_onDocument hdirectory f)
  -- The three commands on a policy differ only in what they hand to `onDocument`.
  obtain ⟨command, traced, level, configDirectory⟩ := request
  cases command with
  | validate json => cases hcommand; exact hdocument
  | inspect view => cases hcommand; exact hdocument
  | lookup className method signature => cases hcommand; exact hdocument
  | spanName identity => cases hcommand
  | emit identity error output => cases hcommand

/-- A run of the program on the policy of a document gives the answer of its command and
leaves all files as they are. -/
theorem perform_of_asks {arguments : List String} {command : Command}
    {f : Loader → FileState → Logged Answer}
    (hasks : Asks around baseDirectory arguments command) (hcommand : command.onPolicy? = some f) :
    (perform around tree arguments).answer =
        (f (loaderIn baseDirectory) (stateIn around tree baseDirectory)).value ∧
      (perform around tree arguments).tree = tree := by
  obtain ⟨request, hrequest, rfl, hdirectory⟩ := hasks
  obtain ⟨events, hrun⟩ : ∃ events, (request.run around).run tree =
      ⟨(.returned (f (loaderIn baseDirectory) (stateIn around tree baseDirectory)).value, tree),
        events⟩ :=
    ⟨_, by rw [← value_run_request hdirectory hcommand]⟩
  unfold perform
  simp only [hrequest, hrun, and_self]

/-! ## How commands end -/

theorem value_withPolicy (loader : Loader) (state : FileState) (f : Policy → Logged Answer) :
    (withPolicy loader state f).value =
      match (loader.tryLoadPolicy state).value with
      | .ok policy => (f policy).value
      | .error e => .failure ("No instrumentation policy produced from " ++ loader.documentPath)
          (e.message :: e.causes) := by
  rw [withPolicy, Logged.value_bind]
  cases (loader.tryLoadPolicy state).value <;> rfl

theorem value_validate (loader : Loader) (state : FileState) (json : Bool) :
    (validate loader state json).value =
      validationAnswer loader state json (loader.tryLoadPolicy state).value := rfl

/-- All commands on a policy succeed where an agent gets one. -/
theorem exit_onPolicy {command : Command} {f : Loader → FileState → Logged Answer}
    (hcommand : command.onPolicy? = some f) (loader : Loader) (state : FileState) :
    (f loader state).value.exit = if (loader.loadPolicy state).value.isSome then 0 else 1 := by
  rw [Policy.value_loadPolicy]
  cases command with
  | validate json =>
    cases hcommand
    rw [value_validate]
    cases (loader.tryLoadPolicy state).value <;> cases json <;> rfl
  | inspect view =>
    cases hcommand
    show (inspect loader state view).value.exit = _
    rw [inspect, value_withPolicy]
    cases (loader.tryLoadPolicy state).value <;> rfl
  | lookup className method signature =>
    cases hcommand
    show (lookup loader state className method signature).value.exit = _
    rw [lookup, value_withPolicy]
    cases (loader.tryLoadPolicy state).value <;> rfl
  | spanName identity => cases hcommand
  | emit identity error output => cases hcommand

theorem tryLoadPolicy_of_loadPolicy (h : (loader.loadPolicy state).value = some policy) :
    (loader.tryLoadPolicy state).value = .ok policy := by
  rw [Policy.value_loadPolicy] at h
  cases hloaded : (loader.tryLoadPolicy state).value with
  | ok loaded =>
    rw [hloaded] at h
    rw [Option.some.inj h]
  | error e =>
    rw [hloaded] at h
    cases h

theorem output_validate (h : (loader.loadPolicy state).value = some policy) :
    (validate loader state true).value.output =
      (validationReport loader state (.ok policy)).pretty ++ "\n" := by
  rw [value_validate, tryLoadPolicy_of_loadPolicy h]
  rfl

theorem output_inspect (h : (loader.loadPolicy state).value = some policy) (view : View) :
    (inspect loader state view).value.output = viewed policy view := by
  rw [inspect, value_withPolicy, tryLoadPolicy_of_loadPolicy h]
  rfl

theorem output_lookup (h : (loader.loadPolicy state).value = some policy)
    (className method signature : String) :
    (lookup loader state className method signature).value.output =
      (tracingOf policy className method signature).text className method ++ "\n" := by
  rw [lookup, value_withPolicy, tryLoadPolicy_of_loadPolicy h]
  rfl

/-! ## What is printed as data -/

/-- The classes of what a policy is shown as, with the methods of each. -/
def shownMethods? (shown : Json) : Option (List (List Json)) :=
  (shown.member? "classes").bind fun classes => classes.members?.bind fun members =>
    members.mapM fun e => (e.2.member? "methods").bind Json.items?

theorem shownMethods?_report (policy : Policy) :
    shownMethods? policy.report = some (policy.classes.values.map fun rule =>
      rule.methods.values.map Policy.MethodRule.report) := by
  have hclasses : (policy.classes.entries.map fun e => (e.1, e.2.report)).mapM
      (fun e => (e.2.member? "methods").bind Json.items?) =
        some (policy.classes.entries.map fun e =>
          e.2.methods.values.map Policy.MethodRule.report) :=
    Json.mapM_map_eq_some fun e _ => by simp [Policy.ClassRule.report]
  simp [shownMethods?, Policy.report, hclasses, Policy.Table.values]

/-- Validating counts the classes and methods that are shown. -/
theorem counts_of_shown (loader : Loader) (state : FileState) (policy : Policy) :
    ∃ methods, shownMethods? policy.report = some methods ∧
      (validationReport loader state (.ok policy)).member? "classes" =
        some (.number methods.length) ∧
      (validationReport loader state (.ok policy)).member? "methods" =
        some (.number methods.flatten.length) := by
  refine ⟨_, shownMethods?_report policy, ?_, ?_⟩
  · simp [validationReport, Policy.classCount, Policy.Table.size, Policy.Table.values]
  · simp [validationReport, Policy.methodCount_eq_sum, Policy.ClassRule.methodCount,
      Policy.Table.size, Policy.Table.values, List.length_flatten, Function.comp_def]

/-! ## What is said of a method -/

/-- How a policy deals with a method. -/
inductive Verdict where
  | uninstrumented
  | untraced
  | threshold (ms : Nat)
  deriving DecidableEq, Repr

/-- The verdict of a policy on a method, as an agent would ask for it. -/
def verdictOf (policy : Policy) (className method signature : String) : Verdict :=
  if policy.isInstrumented className then
    match policy.methodThresholdMs? className method signature with
    | none => .untraced
    | some ms => .threshold ms.toNat
  else .uninstrumented

/-- The words that tell a verdict. -/
def Verdict.words : Verdict → String
  | uninstrumented => " is not instrumented"
  | untraced => " is not traced"
  | threshold ms => " with threshold " ++ toString ms ++ " ms"

def EndsIn (line words : String) : Prop := (words ++ "\n").toList <:+ line.toList

/-- A list is read from behind up to its last blank in one way. -/
theorem eq_of_behind_blank {front other : List Char} {cs ds : List Char}
    (h : front ++ ' ' :: cs = other ++ ' ' :: ds) (hcs : ' ' ∉ cs) (hds : ' ' ∉ ds) : cs = ds := by
  rcases List.append_eq_append_iff.1 h with ⟨between, -, h⟩ | ⟨between, -, h⟩
  · cases between with
    | nil => exact (List.cons.inj h).2
    | cons c between => exact absurd ((List.cons.inj h).2 ▸ by simp) hcs
  · cases between with
    | nil => exact (List.cons.inj h).2.symm
    | cons c between => exact absurd ((List.cons.inj h).2 ▸ by simp) hds

theorem blank_notMem_toDigits (n : Nat) : ' ' ∉ Nat.toDigits 10 n := fun h =>
  absurd (Nat.isDigit_of_mem_toDigits (by decide) (by decide) h) (by decide)

def Verdict.lastWord : Verdict → String
  | uninstrumented => "instrumented"
  | untraced => "traced"
  | threshold _ => "ms"

theorem Verdict.threshold_words (ms : Nat) : (threshold ms).words.toList =
    " with threshold".toList ++ ' ' :: Nat.toDigits 10 ms ++ ' ' :: "ms".toList := by
  show (" with threshold " ++ toString ms ++ " ms").toList = _
  simp

theorem Verdict.words_toList (verdict : Verdict) :
    ∃ front, verdict.words.toList = front ++ ' ' :: verdict.lastWord.toList ∧
      ' ' ∉ verdict.lastWord.toList := by
  cases verdict with
  | uninstrumented => exact ⟨" is not".toList, by decide⟩
  | untraced => exact ⟨" is not".toList, by decide⟩
  | threshold ms => exact ⟨_, threshold_words ms, by simp [lastWord]⟩

/-- A line tells one verdict at most. -/
theorem Verdict.eq_of_endsIn {line : String} {a b : Verdict} (ha : EndsIn line a.words)
    (hb : EndsIn line b.words) : a = b := by
  obtain ⟨x, hx⟩ := ha
  obtain ⟨y, hy⟩ := hb
  have hwords : x ++ a.words.toList = y ++ b.words.toList := by
    rw [← hy, String.toList_append, String.toList_append, ← List.append_assoc,
      ← List.append_assoc] at hx
    exact List.append_cancel_right hx
  have hlast : a.lastWord = b.lastWord := by
    obtain ⟨front, hfront, hblank⟩ := a.words_toList
    obtain ⟨other, hother, hnone⟩ := b.words_toList
    rw [hfront, hother, ← List.append_assoc, ← List.append_assoc] at hwords
    exact String.toList_injective (eq_of_behind_blank hwords hblank hnone)
  -- Verdicts of different kinds have different last words.
  cases a with
  | uninstrumented => cases b <;> first | rfl | simp [lastWord] at hlast
  | untraced => cases b <;> first | rfl | simp [lastWord] at hlast
  | threshold n =>
    cases b with
    | uninstrumented => simp [lastWord] at hlast
    | untraced => simp [lastWord] at hlast
    | threshold k =>
      -- In front of the last word, the number is again what stands behind the last blank.
      have hdigits : Nat.toDigits 10 n = Nat.toDigits 10 k := by
        rw [threshold_words, threshold_words, ← List.append_assoc, ← List.append_assoc,
          ← List.append_assoc, ← List.append_assoc] at hwords
        exact eq_of_behind_blank (List.append_cancel_right hwords)
          (blank_notMem_toDigits n) (blank_notMem_toDigits k)
      have hnumber : n = k :=
        calc n = Nat.ofDigitChars 10 (Nat.toDigits 10 n) 0 := Nat.ofDigitChars_ten_toDigits.symm
          _ = Nat.ofDigitChars 10 (Nat.toDigits 10 k) 0 := by rw [hdigits]
          _ = k := Nat.ofDigitChars_ten_toDigits
      rw [hnumber]

/-- What is printed of a method tells the verdict of the policy. -/
theorem endsIn_tracingOf (policy : Policy) (className method signature : String) :
    EndsIn ((tracingOf policy className method signature).text className method ++ "\n")
      (verdictOf policy className method signature).words := by
  have hends : ∀ front words : String, EndsIn (front ++ words ++ "\n") words := by
    intro front words
    refine ⟨front.toList, ?_⟩
    simp
  -- Both sides ask for the class first, and then its rule for the method.
  unfold tracingOf verdictOf Policy.isInstrumented Policy.methodThresholdMs? Policy.methodRule?
    Policy.classRule? Policy.Table.contains
  cases policy.classes.get? className with
  | none => exact hends className _
  | some rule =>
    simp only [Option.isSome_some, if_true, Option.bind_some]
    cases rule.methodRule? method signature with
    | none => exact hends (className ++ "." ++ method) _
    | some found =>
      have hfront := hends (className ++ "." ++ method ++ " traced as " ++ rule.typeTag)
        (" with threshold " ++ toString found.thresholdMs.toNat ++ " ms")
      show EndsIn (className ++ "." ++ method ++ " traced as " ++ rule.typeTag ++
        " with threshold " ++ toString found.thresholdMs.toNat ++ " ms" ++ "\n")
        (" with threshold " ++ toString found.thresholdMs.toNat ++ " ms")
      simpa only [String.append_assoc] using hfront

theorem endsIn_text_iff (policy : Policy) (className method signature : String)
    (verdict : Verdict) :
    EndsIn ((tracingOf policy className method signature).text className method ++ "\n")
        verdict.words ↔
      verdict = verdictOf policy className method signature := by
  have htold := endsIn_tracingOf policy className method signature
  constructor
  · exact fun h => Verdict.eq_of_endsIn h htold
  · rintro rfl
    exact htold

section

variable {className method signature : String}

theorem isInstrumented_of_methodThresholdMs? {ms : UInt64}
    (h : policy.methodThresholdMs? className method signature = some ms) :
    policy.isInstrumented className = true := by
  unfold Policy.methodThresholdMs? Policy.methodRule? Policy.classRule? at h
  unfold Policy.isInstrumented Policy.Table.contains
  cases hclass : policy.classes.get? className with
  | none =>
    rw [hclass] at h
    cases h
  | some rule => rfl

theorem eq_verdictOf_threshold {ms : Nat} :
    .threshold ms = verdictOf policy className method signature ↔
      (policy.methodThresholdMs? className method signature).map UInt64.toNat = some ms := by
  unfold verdictOf
  cases hthreshold : policy.methodThresholdMs? className method signature with
  | none => cases policy.isInstrumented className <;> simp
  | some found =>
    rw [if_pos (isInstrumented_of_methodThresholdMs? hthreshold)]
    simp [eq_comm]

theorem eq_verdictOf_uninstrumented :
    .uninstrumented = verdictOf policy className method signature ↔
      policy.isInstrumented className = false := by
  unfold verdictOf
  cases policy.isInstrumented className <;>
    cases policy.methodThresholdMs? className method signature <;> simp

theorem eq_verdictOf_untraced :
    .untraced = verdictOf policy className method signature ↔
      policy.isInstrumented className = true ∧
        policy.methodThresholdMs? className method signature = none := by
  unfold verdictOf
  cases policy.isInstrumented className <;>
    cases policy.methodThresholdMs? className method signature <;> simp

end

/-! ## Agreement -/

/-- The commands on the policy of a document end with 0 if an agent would get a policy from
it, and with 1 if not, and change no file. What validating counts is what inspecting shows.
What is printed of a method ends in the threshold that the policy has for it, or says that
its class is not instrumented, or that it is not traced. -/
theorem commands_agree (around : Surroundings) (tree : Files.Tree) (baseDirectory : String) :
    let policy? := ((loaderIn baseDirectory).loadPolicy (stateIn around tree baseDirectory)).value
    let asked := Asks around baseDirectory
    let output := fun arguments => (perform around tree arguments).answer.output
    (∀ arguments command, asked arguments command → command.isOnPolicy = true →
      (perform around tree arguments).answer.exit = (if policy?.isSome then 0 else 1) ∧
      (perform around tree arguments).tree = tree) ∧
    (baseDirectory ≠ "" → ∀ command : Command, command.isOnPolicy = true →
      ∃ arguments, asked arguments command) ∧
    ∀ policy, policy? = some policy →
      (∀ arguments others, asked arguments (.validate true) → asked others (.inspect .json) →
        ∃ counted shown methods, Json.read? (output arguments) = some counted ∧
          Json.read? (output others) = some shown ∧ shownMethods? shown = some methods ∧
          counted.member? "classes" = some (.number methods.length) ∧
          counted.member? "methods" = some (.number methods.flatten.length)) ∧
      ∀ arguments className method signature,
        asked arguments (.lookup className method signature) →
        (∀ ms : Nat,
          EndsIn (output arguments) (" with threshold " ++ toString ms ++ " ms") ↔
            (policy.methodThresholdMs? className method signature).map UInt64.toNat = some ms) ∧
        (EndsIn (output arguments) " is not instrumented" ↔
          policy.isInstrumented className = false) ∧
        (EndsIn (output arguments) " is not traced" ↔
          policy.isInstrumented className = true ∧
            policy.methodThresholdMs? className method signature = none) := by
  intro policy? asked output
  refine ⟨?_, fun hdirectory _ hcommand => exists_asks around hdirectory hcommand, ?_⟩
  · intro arguments command hasked hcommand
    obtain ⟨f, hf⟩ := Option.isSome_iff_exists.1 hcommand
    obtain ⟨hanswer, htree⟩ := perform_of_asks hasked hf
    exact ⟨by rw [hanswer, exit_onPolicy hf], htree⟩
  · intro policy hpolicy
    refine ⟨?_, ?_⟩
    · intro arguments others hvalidate hinspect
      obtain ⟨methods, hmethods, hclasses, hcount⟩ :=
        counts_of_shown (loaderIn baseDirectory) (stateIn around tree baseDirectory) policy
      refine ⟨_, _, methods, ?_, ?_, hmethods, hclasses, hcount⟩
      · show Json.read? (perform around tree arguments).answer.output = _
        rw [(perform_of_asks hvalidate rfl).1, output_validate hpolicy, Json.read?_prettyLine]
      · show Json.read? (perform around tree others).answer.output = _
        rw [(perform_of_asks hinspect rfl).1, output_inspect hpolicy]
        exact Json.read?_prettyLine _
    · intro arguments className method signature hlookup
      have htold : ∀ verdict : Verdict, EndsIn (output arguments) verdict.words ↔
          verdict = verdictOf policy className method signature := by
        show ∀ verdict : Verdict, EndsIn (perform around tree arguments).answer.output _ ↔ _
        rw [(perform_of_asks hlookup rfl).1, output_lookup hpolicy]
        exact endsIn_text_iff policy className method signature
      exact ⟨fun ms => (htold (.threshold ms)).trans eq_verdictOf_threshold,
        (htold .uninstrumented).trans eq_verdictOf_uninstrumented,
        (htold .untraced).trans eq_verdictOf_untraced⟩

/-- The environment of a user without settings, at the beginning of time. -/
def plain : Surroundings := { environment := {}, now := ⟨.after 0 0, 0⟩, spanId := "" }

/-- A directory with a document of one class, one of whose methods is traced. -/
def kept : Files.Tree where
  entries :=
    [(["etc"], .directory), (["etc", "app"], .directory),
     (["etc", "app", "AI-Agent.xml"], .file (String.toUTF8
       ("<ApplicationInsightsAgent><Instrumentation><Class name='a.B'>" ++
        "<Method name='run' thresholdInMS='15'/></Class></Instrumentation>" ++
        "</ApplicationInsightsAgent>")))]

def lookingUp : List String :=
  ["lookup", "--config-dir", "/etc/app", "--class", "a.B", "--method", "run",
    "--signature", "()V"]

/-- The method is traced whatever its signature, so that is what is printed of it. -/
theorem commands_agree_of_traced :
    ∃ policy, ((loaderIn "/etc/app").loadPolicy (stateIn plain kept "/etc/app")).value =
        some policy ∧
      policy.methodThresholdMs? "a.B" "run" "()V" = some 15 ∧
      (perform plain kept lookingUp).answer.exit = 0 ∧
      EndsIn (perform plain kept lookingUp).answer.output
        (" with threshold " ++ toString 15 ++ " ms") ∧
      ∃ counted shown methods,
        Json.read? (perform plain kept
          ["--config-dir=/etc/app", "validate", "--json"]).answer.output = some counted ∧
        Json.read? (perform plain kept
          ["--config-dir=/etc/app", "inspect", "--json"]).answer.output = some shown ∧
        shownMethods? shown = some methods ∧
        counted.member? "classes" = some (.number methods.length) ∧
        counted.member? "methods" = some (.number methods.flatten.length) := by
  have hloaded : (((loaderIn "/etc/app").loadPolicy (stateIn plain kept "/etc/app")).value.map
      (·.methodThresholdMs? "a.B" "run" "()V")) = some (some 15) := by
    decide +kernel
  obtain ⟨policy, hpolicy, hthreshold⟩ := Option.map_eq_some_iff.1 hloaded
  have hlookup : Asks plain "/etc/app" lookingUp (.lookup "a.B" "run" "()V") :=
    ⟨_, rfl, rfl, rfl⟩
  have hvalidate : Asks plain "/etc/app" ["--config-dir=/etc/app", "validate", "--json"]
      (.validate true) := ⟨_, rfl, rfl, rfl⟩
  have hinspect : Asks plain "/etc/app" ["--config-dir=/etc/app", "inspect", "--json"]
      (.inspect .json) := ⟨_, rfl, rfl, rfl⟩
  obtain ⟨hexit, -, houtput⟩ := commands_agree plain kept "/etc/app"
  obtain ⟨hcounts, htold⟩ := houtput policy hpolicy
  have hzero := (hexit _ _ hlookup rfl).1
  rw [hpolicy] at hzero
  refine ⟨policy, hpolicy, hthreshold, hzero, ?_, hcounts _ _ hvalidate hinspect⟩
  refine ((htold _ _ _ _ hlookup).1 15).2 ?_
  rw [hthreshold]
  rfl

end Instrumentation.CommandLine
