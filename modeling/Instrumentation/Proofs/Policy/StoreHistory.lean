import Mathlib.Algebra.Order.Ring.Nat
import Instrumentation.Policy.Store
/-
  A store and its document over time

  A store is opened on a document. Then, in any order and one after the other, the
  document is changed, the store reads it again, and policies are published. What is in
  force is a matter of the last of these that posted a policy: a change of the document
  posts nothing until the store reads it.

  What is proved:
    1. `exists_inForce` — every history leaves a policy in force, or none, by the way it
       ends: with changes alone, with a reload and changes, or with a publication and
       changes.
    2. `Follows.step`, `Follows.run` — one act, and so any number of them, keeps the
       store in step with its history: its counter, its answers and what it reads.
    3. `store_follows_document` — what is current after a history is what the history
       leaves in force, and the store answers and counts accordingly.
-/

namespace Instrumentation.Policy

inductive Act where
  | change (document : FileState)
  | reload
  | publish (policy : Option Policy)

namespace Act

/-- The document that an act leaves at the path, if it changes it. -/
def document? : Act → Option FileState
  | change document => some document
  | reload | publish _ => none

/-- Whether an act posts a policy, or that there is none. -/
def posts : Act → Bool
  | change _ => false
  | reload | publish _ => true

end Act

/-! ## What a history says -/

/-- The document after a history that began with another. -/
def lastDocument (initial : FileState) (acts : List Act) : FileState :=
  (acts.filterMap Act.document?).getLastD initial

/-- The policy that a history leaves in force, or that it leaves none. -/
inductive InForce (loader : Loader) (initial : FileState) : List Act → Option Policy → Prop
  | loaded (changes : List FileState) :
    InForce loader initial (changes.map .change) (loader.loadPolicy initial).value
  | reloaded (acts : List Act) (changes : List FileState) :
    InForce loader initial (acts ++ .reload :: changes.map .change)
      (loader.loadPolicy (lastDocument initial acts)).value
  | published (acts : List Act) (policy : Option Policy) (changes : List FileState) :
    InForce loader initial (acts ++ .publish policy :: changes.map .change) policy

theorem exists_inForce (loader : Loader) (initial : FileState) (acts : List Act) :
    ∃ policy, InForce loader initial acts policy := by
  induction acts with
  | nil => exact ⟨_, .loaded []⟩
  | cons act rest ih =>
    obtain ⟨policy, h⟩ := ih
    cases h with
    | loaded changes =>
      -- Only here does it matter what the first act is: nothing was posted behind it.
      cases act with
      | change document => exact ⟨_, .loaded (document :: changes)⟩
      | reload => exact ⟨_, .reloaded [] changes⟩
      | publish policy => exact ⟨_, .published [] policy changes⟩
    | reloaded acts changes => exact ⟨_, .reloaded (act :: acts) changes⟩
    | published acts policy changes => exact ⟨_, .published (act :: acts) policy changes⟩

theorem lastDocument_snoc (initial : FileState) (acts : List Act) (act : Act) :
    lastDocument initial (acts ++ [act]) = act.document?.getD (lastDocument initial acts) := by
  cases act <;> simp [lastDocument, Act.document?]

/-! ## A run of acts -/

/-- A store with the document that it reads. -/
structure Course where
  store : Store
  document : FileState
  /-- What the store answered to reloads and publications, in their order. -/
  answers : List Publication

namespace Course

def opened (loader : Loader) (document : FileState) : Course :=
  ⟨(Store.load loader document).value, document, []⟩

def step (course : Course) : Act → Course
  | .change document => { course with document }
  | .reload =>
    let posted := (course.store.reload course.document).value
    { course with store := posted.2, answers := course.answers ++ [posted.1] }
  | .publish policy =>
    let posted := (course.store.publish policy).value
    { course with store := posted.2, answers := course.answers ++ [posted.1] }

def run (course : Course) (acts : List Act) : Course := acts.foldl step course

theorem run_acts (course : Course) (first second : List Act) :
    course.run (first ++ second) = (course.run first).run second := List.foldl_append

/-- What a store does when it posts a policy, or that there is none. -/
theorem value_publish (store : Store) (policy : Option Policy) :
    (store.publish policy).value =
      (if policy.isSome then .published else .disabled,
        { store with
          current := policy, reloadCount := store.reloadCount + 1, reloaded := true }) := by
  cases policy <;> rfl

theorem step_reload (course : Course) :
    course.step .reload =
      course.step (.publish (course.store.loader.loadPolicy course.document).value) := rfl

/-- Changes of the document leave the store as it is. -/
theorem store_run_changes (course : Course) (changes : List FileState) :
    (course.run (changes.map .change)).store = course.store := by
  induction changes generalizing course with
  | nil => rfl
  | cons document rest ih => exact ih _

/-! ## The store keeps in step with its history -/

/-- How many acts of a history post a policy, or that there is none. -/
def postings (acts : List Act) : Nat := acts.countP Act.posts

/-- A store after a history: it reads the last document, counts what was posted, and
has a policy as it last answered. -/
structure Follows (loader : Loader) (initial : FileState) (done : List Act) (course : Course) :
    Prop where
  loader_eq : course.store.loader = loader
  document_eq : course.document = lastDocument initial done
  answers : course.answers.length = postings done
  counted : course.store.reloadCount.toNat = postings done % 2 ^ 64
  reloaded : course.store.reloaded = true ↔ 0 < postings done
  enabled : course.store.isEnabled =
    (course.answers.getLast?.map (· == .published)).getD (loader.loadPolicy initial).value.isSome

variable {course : Course} {loader : Loader} {initial : FileState} {done : List Act}

theorem Follows.opened (loader : Loader) (initial : FileState) :
    Follows loader initial [] (opened loader initial) := by
  refine ⟨rfl, rfl, rfl, rfl, ?_, rfl⟩
  simp [Course.opened, Store.load, postings]

theorem Follows.publish (h : Follows loader initial done course) (policy : Option Policy)
    {act : Act} (hact : act.posts = true) (hdocument : act.document? = none) :
    Follows loader initial (done ++ [act]) (course.step (.publish policy)) := by
  have hpostings : postings (done ++ [act]) = postings done + 1 := by
    simp [postings, hact]
  constructor
  · simp only [step, value_publish]
    exact h.loader_eq
  · rw [lastDocument_snoc, hdocument]
    exact h.document_eq
  · simp only [step, List.length_append, List.length_singleton, h.answers, hpostings]
  · simp only [step, value_publish, hpostings, UInt64.toNat_add, h.counted]
    exact Nat.mod_add_mod _ _ _
  · simp [step, value_publish, hpostings]
  · simp only [step, value_publish, Store.isEnabled, List.getLast?_concat]
    cases policy <;> rfl

theorem Follows.step (h : Follows loader initial done course) (act : Act) :
    Follows loader initial (done ++ [act]) (course.step act) := by
  cases act with
  | change document =>
    have hpostings : postings (done ++ [.change document]) = postings done := by
      simp [postings, Act.posts]
    refine ⟨h.loader_eq, ?_, ?_, ?_, ?_, h.enabled⟩
    · rw [lastDocument_snoc]
      rfl
    · rw [hpostings]
      exact h.answers
    · rw [hpostings]
      exact h.counted
    · rw [hpostings]
      exact h.reloaded
  | reload =>
    rw [step_reload]
    exact h.publish _ rfl rfl
  | publish policy => exact h.publish policy rfl rfl

theorem Follows.run (h : Follows loader initial done course) (acts : List Act) :
    Follows loader initial (done ++ acts) (course.run acts) := by
  induction acts generalizing done course with
  | nil =>
    rw [List.append_nil]
    exact h
  | cons act rest ih =>
    have hrest := ih (h.step act)
    rw [List.append_assoc] at hrest
    exact hrest

theorem follows_run_opened (loader : Loader) (initial : FileState) (acts : List Act) :
    Follows loader initial acts ((opened loader initial).run acts) :=
  (Follows.opened loader initial).run acts

/-- What a history leaves in force is current. -/
theorem current_of_inForce {policy : Option Policy} {acts : List Act}
    (h : InForce loader initial acts policy) :
    ((opened loader initial).run acts).store.current = policy := by
  cases h with
  | loaded changes => rw [store_run_changes]; rfl
  | reloaded acts changes =>
    have hfollows := follows_run_opened loader initial acts
    rw [run_acts, run, List.foldl_cons, ← run, store_run_changes, step_reload]
    simp only [step, value_publish]
    rw [hfollows.loader_eq, hfollows.document_eq]
  | published acts policy changes =>
    rw [run_acts, run, List.foldl_cons, ← run, store_run_changes]
    simp only [step, value_publish]

theorem inForce_iff {policy : Option Policy} {acts : List Act} :
    InForce loader initial acts policy ↔
      ((opened loader initial).run acts).store.current = policy := by
  refine ⟨current_of_inForce, ?_⟩
  rintro rfl
  obtain ⟨policy, h⟩ := exists_inForce loader initial acts
  rw [current_of_inForce h]
  exact h

/-- After any history the policy that the history leaves in force is current. A reload
that fails leaves none, whatever was in force, and a change of the document alone leaves
what was. The store is enabled if it has a policy, that is, if it last answered that one
was published, or, before it answered anything, if there was one to load. It counts the
reloads and publications modulo `2 ^ 64` and knows whether there was any. -/
theorem store_follows_document (loader : Loader) (initial : FileState) (acts : List Act) :
    let course := (opened loader initial).run acts
    (∀ policy, course.store.current = policy ↔ InForce loader initial acts policy) ∧
    (course.step .reload).store.current =
      (loader.loadPolicy (lastDocument initial acts)).value ∧
    (∀ document, (course.step (.change document)).store = course.store) ∧
    (course.store.isEnabled = true ↔ ∃ policy, course.store.current = some policy) ∧
    (course.store.isEnabled = true ↔
      match course.answers.getLast? with
      | some answer => answer = .published
      | none => ∃ policy, (loader.loadPolicy initial).value = some policy) ∧
    course.answers.length = postings acts ∧
    course.store.reloadCount.toNat = postings acts % 2 ^ 64 ∧
    (course.store.reloaded = true ↔ ∃ act ∈ acts, act.posts = true) := by
  intro course
  have h : Follows loader initial acts course := follows_run_opened loader initial acts
  refine ⟨fun policy => inForce_iff.symm, ?_, fun _ => rfl, Option.isSome_iff_exists, ?_,
    h.answers, h.counted, ?_⟩
  · rw [step_reload]
    simp only [step, value_publish]
    rw [h.loader_eq, h.document_eq]
  · rw [h.enabled]
    cases course.answers.getLast? with
    | some answer => exact beq_iff_eq
    | none => exact Option.isSome_iff_exists
  · rw [h.reloaded, postings, List.countP_pos_iff]

end Course

end Instrumentation.Policy
