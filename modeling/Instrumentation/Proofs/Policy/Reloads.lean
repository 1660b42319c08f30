import Instrumentation.Policy.Store
/-
  Reloads that run at the same time

  A reload does two things to what others see: it reads the document and builds a
  policy from it, and later it stores that policy. Each of the two happens at once,
  but between them other reloads take their turns, the document is replaced and
  policies are published. A scene is a store with the document that it reads and the
  reloads that run on it.

  What is proved:
    1. `turn_turn` — a reload that nothing comes between is `Store.reload`.
    2. `Since.step`, `Since.run` — since the document was last replaced, a reload
       that reads it builds the policy of that document.
    3. `current_after_reload` — once a reload that read the last document has stored
       its policy, that policy is current, and it stays so for as long as no reload
       stores what it had read before.
    4. `older_reload_overwrites_newer` — the condition in (3) is not idle: nothing
       orders the reloads, so a slow one brings the policy of a document back that
       has been replaced and whose successor has been loaded.
-/

namespace Instrumentation.Policy

/-- How far a reload has come. -/
inductive Reload where
  | called
  /-- It has read the document and built a policy, or found none to build. -/
  | built (policy : Option Policy)
  | returned (outcome : Publication)
  deriving DecidableEq, Repr

/-- A store, the document that it reads, and the reloads that run on it. -/
structure Scene where
  store : Store
  document : FileState
  reloads : List Reload

inductive Event where
  /-- The reload at a place does the next of its two things. -/
  | turn (i : Nat)
  | replace (document : FileState)
  | publish (policy : Option Policy)

namespace Scene

def loaded (scene : Scene) : Option Policy := (scene.store.loader.loadPolicy scene.document).value

/-- The reload at a place does the next of its two things. -/
def turn (scene : Scene) (i : Nat) : Scene :=
  match scene.reloads[i]? with
  | some .called => { scene with reloads := scene.reloads.set i (.built scene.loaded) }
  | some (.built policy) =>
    let stored := (scene.store.publish policy).value
    { scene with store := stored.2, reloads := scene.reloads.set i (.returned stored.1) }
  | some (.returned _) | none => scene

def step (scene : Scene) : Event → Scene
  | .turn i => scene.turn i
  | .replace document => { scene with document }
  | .publish policy => { scene with store := (scene.store.publish policy).value.2 }

def run (scene : Scene) (events : List Event) : Scene := events.foldl step scene

/-- Whether the reload at a place has built a policy that it has yet to store. -/
def holds (scene : Scene) (i : Nat) : Prop := ∃ policy, scene.reloads[i]? = some (.built policy)

theorem run_append (scene : Scene) (first second : List Event) :
    scene.run (first ++ second) = (scene.run first).run second := List.foldl_append

theorem run_cons (scene : Scene) (event : Event) (events : List Event) :
    scene.run (event :: events) = (scene.step event).run events := rfl

variable {scene : Scene} {i j : Nat} {policy : Option Policy} {outcome : Publication}

/-! ## One turn -/

theorem turn_called (h : scene.reloads[i]? = some .called) :
    scene.turn i = { scene with reloads := scene.reloads.set i (.built scene.loaded) } := by
  simp only [turn, h]

theorem turn_built (h : scene.reloads[i]? = some (.built policy)) :
    scene.turn i =
      { scene with
        store := (scene.store.publish policy).value.2
        reloads := scene.reloads.set i (.returned (scene.store.publish policy).value.1) } := by
  simp only [turn, h]

theorem turn_returned (h : scene.reloads[i]? = some (.returned outcome)) :
    scene.turn i = scene := by
  simp only [turn, h]

theorem current_publish (store : Store) (policy : Option Policy) :
    (store.publish policy).value.2.current = policy := by
  cases policy <;> rfl

theorem loader_publish (store : Store) (policy : Option Policy) :
    (store.publish policy).value.2.loader = store.loader := by
  cases policy <;> rfl

/-- A reload that nothing comes between reads and stores like a reload alone. -/
theorem turn_turn (h : scene.reloads[i]? = some .called) :
    ((scene.turn i).turn i).store = (scene.store.reload scene.document).value.2 ∧
      ((scene.turn i).turn i).reloads[i]? =
        some (.returned (scene.store.reload scene.document).value.1) := by
  have hlt : i < scene.reloads.length := (List.getElem?_eq_some_iff.1 h).1
  have hbuilt : (scene.turn i).reloads[i]? = some (.built scene.loaded) := by
    rw [turn_called h]
    exact List.getElem?_set_self hlt
  rw [turn_built hbuilt, turn_called h]
  exact ⟨rfl, by simp [hlt]; rfl⟩

/-- A turn makes one reload go on and leaves the others where they are. -/
theorem reloads_turn_of_ne (h : j ≠ i) : (scene.turn i).reloads[j]? = scene.reloads[j]? := by
  unfold turn
  split <;> simp [List.getElem?_set_ne (Ne.symm h)]

/-- A reload that has built a policy after a turn had it before, or has just read the
document. -/
theorem built_of_turn (h : (scene.turn i).reloads[j]? = some (.built policy)) :
    scene.reloads[j]? = some (.built policy) ∨ policy = scene.loaded := by
  by_cases hj : j = i
  · subst hj
    cases hstage : scene.reloads[j]? with
    | none => simp [turn, hstage] at h
    | some stage =>
      have hlt : j < scene.reloads.length := (List.getElem?_eq_some_iff.1 hstage).1
      cases stage with
      | called =>
        rw [turn_called hstage] at h
        right
        simpa [hlt, eq_comm] using h
      | built policy' =>
        rw [turn_built hstage] at h
        simp [hlt] at h
      | returned outcome =>
        rw [turn_returned hstage, hstage] at h
        cases h
  · rw [reloads_turn_of_ne hj] at h
    exact .inl h

theorem loader_turn : (scene.turn i).store.loader = scene.store.loader := by
  unfold turn
  split <;> simp [loader_publish]

theorem document_turn : (scene.turn i).document = scene.document := by
  unfold turn
  split <;> rfl

theorem loaded_turn : (scene.turn i).loaded = scene.loaded := by
  rw [loaded, loader_turn, document_turn, loaded]

/-- What a reload has returned it has returned for good. -/
theorem returned_turn (h : scene.reloads[j]? = some (.returned outcome)) :
    (scene.turn i).reloads[j]? = some (.returned outcome) := by
  by_cases hj : j = i
  · subst hj
    rw [turn_returned h, h]
  · rw [reloads_turn_of_ne hj, h]

/-! ## Since the document was last replaced -/

/-- What holds of a scene since the document was last replaced in it: it is the same
document, and who has built a policy since then has built it from that. -/
structure Since (replaced scene : Scene) : Prop where
  loaded : scene.loaded = replaced.loaded
  built : ∀ (j : Nat) (policy : Option Policy), scene.reloads[j]? = some (.built policy) →
    replaced.reloads[j]? = some (.built policy) ∨ policy = replaced.loaded

theorem Since.refl (replaced : Scene) : Since replaced replaced := ⟨rfl, fun _ _ h => .inl h⟩

theorem Since.step {replaced : Scene} (h : Since replaced scene) {event : Event}
    (hevent : ∀ document, event ≠ .replace document) : Since replaced (scene.step event) := by
  cases event with
  | turn i =>
    refine ⟨loaded_turn.trans h.loaded, ?_⟩
    intro j policy hj
    rcases built_of_turn hj with hbefore | hread
    · exact h.built j policy hbefore
    · exact .inr (hread.trans h.loaded)
  | replace document => exact absurd rfl (hevent document)
  | publish policy =>
    have hloaded : (scene.step (.publish policy)).loaded = scene.loaded := by
      simp only [Scene.loaded, Scene.step, loader_publish]
    exact ⟨hloaded.trans h.loaded, h.built⟩

theorem Since.run {replaced : Scene} (h : Since replaced scene) {events : List Event}
    (hevents : ∀ document, .replace document ∉ events) : Since replaced (scene.run events) := by
  induction events generalizing scene with
  | nil => exact h
  | cons event rest ih =>
    have hevent : ∀ document, event ≠ .replace document := by
      rintro document rfl
      exact hevents document List.mem_cons_self
    exact ih (h.step hevent) fun document hmem => hevents document (List.mem_cons_of_mem _ hmem)

/-! ## While the reloads take turns -/

/-- A turn leaves the policy of the document current if the reload holds none but that. -/
theorem current_turn (hcurrent : scene.store.current = scene.loaded)
    (hheld : ∀ policy, scene.reloads[i]? = some (.built policy) → policy = scene.loaded) :
    (scene.turn i).store.current = scene.loaded := by
  cases hstage : scene.reloads[i]? with
  | none => simpa only [turn, hstage] using hcurrent
  | some stage =>
    cases stage with
    | called => simpa only [turn_called hstage] using hcurrent
    | built policy =>
      rw [turn_built hstage, current_publish]
      exact hheld policy hstage
    | returned outcome => simpa only [turn_returned hstage] using hcurrent

/-- The policy of the document stays current while only reloads take turns, and none
of them holds another policy. -/
theorem current_run_turns {events : List Event} (hturns : ∀ event ∈ events, ∃ j, event = .turn j)
    (hcurrent : scene.store.current = scene.loaded)
    (hheld : ∀ (j : Nat) (policy : Option Policy), .turn j ∈ events →
      scene.reloads[j]? = some (.built policy) → policy = scene.loaded) :
    (scene.run events).store.current = scene.loaded := by
  induction events generalizing scene with
  | nil => exact hcurrent
  | cons event rest ih =>
    obtain ⟨k, rfl⟩ := hturns event List.mem_cons_self
    have hnext : (scene.turn k).store.current = (scene.turn k).loaded := by
      rw [loaded_turn]
      exact current_turn hcurrent fun policy => hheld k policy List.mem_cons_self
    have hrest : ((scene.turn k).run rest).store.current = (scene.turn k).loaded := by
      apply ih (fun event hmem => hturns event (List.mem_cons_of_mem _ hmem)) hnext
      intro j policy hmem hj
      rw [loaded_turn]
      rcases built_of_turn hj with hbefore | hread
      · exact hheld j policy (List.mem_cons_of_mem _ hmem) hbefore
      · exact hread
    rw [loaded_turn] at hrest
    exact hrest

theorem returned_run_turns {events : List Event} (hturns : ∀ event ∈ events, ∃ j, event = .turn j)
    (h : scene.reloads[i]? = some (.returned outcome)) :
    (scene.run events).reloads[i]? = some (.returned outcome) := by
  induction events generalizing scene with
  | nil => exact h
  | cons event rest ih =>
    obtain ⟨k, rfl⟩ := hturns event List.mem_cons_self
    exact ih (fun event hmem => hturns event (List.mem_cons_of_mem _ hmem)) (returned_turn h)

/-- Whatever went before, let the document be replaced for the last time while a reload
has not begun. That reload builds the policy of the new document. When it stores it,
that policy becomes current; and it stays current through all further turns, as long
as none of them lets a reload store what it had built before the replacement. -/
theorem current_after_reload (scene : Scene) (document : FileState) (early late : List Event)
    (i : Nat) (hearly : ∀ document, .replace document ∉ early)
    (hlate : ∀ event ∈ late, ∃ j, event = .turn j)
    (hcalled : scene.reloads[i]? = some .called)
    (hholds : (scene.run (.replace document :: early)).holds i)
    (hstale : ∀ j, .turn j ∈ late → scene.holds j →
      ¬(scene.run (.replace document :: early)).holds j) :
    (scene.run (.replace document :: early ++ .turn i :: late)).store.current =
        (scene.store.loader.loadPolicy document).value ∧
      ∃ outcome, (scene.run (.replace document :: early ++ .turn i :: late)).reloads[i]? =
        some (.returned outcome) := by
  have hsince : Since { scene with document } (scene.run (.replace document :: early)) :=
    (Since.refl { scene with document }).run hearly
  rw [run_append, run_cons]
  generalize scene.run (.replace document :: early) = before at hholds hstale hsince ⊢
  obtain ⟨policy, hpolicy⟩ := hholds
  -- The reload had built nothing when the document was replaced, so it has read that one.
  have hfresh : policy = before.loaded := by
    rcases hsince.built i policy hpolicy with hold | hread
    · rw [show ({ scene with document } : Scene).reloads[i]? = some .called from hcalled] at hold
      cases hold
    · exact hread.trans hsince.loaded.symm
  have hcurrent : (before.turn i).store.current = (before.turn i).loaded := by
    rw [loaded_turn, turn_built hpolicy, current_publish, hfresh]
  have hreturned : (before.turn i).reloads[i]? =
      some (.returned (before.store.publish policy).value.1) := by
    rw [turn_built hpolicy]
    exact List.getElem?_set_self (List.getElem?_eq_some_iff.1 hpolicy).1
  refine ⟨?_, _, returned_run_turns hlate hreturned⟩
  have hstays : ((before.turn i).run late).store.current = (before.turn i).loaded := by
    apply current_run_turns hlate hcurrent
    intro j other hturn hj
    rw [loaded_turn]
    rcases built_of_turn hj with hbefore | hread
    · rcases hsince.built j other hbefore with hold | hread
      · exact absurd ⟨other, hbefore⟩ (hstale j hturn ⟨other, hold⟩)
      · exact hread.trans hsince.loaded.symm
    · exact hread
  exact hstays.trans (loaded_turn.trans hsince.loaded)

/-! ## An older reload -/

/-- A document that has one class traced. -/
def tracedDocument : FileState :=
  .file ("<ApplicationInsightsAgent><Instrumentation><Class name='a.B'/></Instrumentation>" ++
    "</ApplicationInsightsAgent>").toUTF8

/-- A store that was opened on that document, with two reloads called on it. -/
def opened : Scene :=
  ⟨(Store.load { baseDirectory := "config" } tracedDocument).value, tracedDocument,
    [.called, .called]⟩

/-- The first reload has read the document, the document is taken away, and the second
one reads that there is none. Here the first one stores before the second one does, and
the empty policy stays. -/
theorem current_after_reload_of_older_first :
    (opened.turn 0).reloads[1]? = some .called ∧
    (opened.turn 0).holds 0 ∧
    ((opened.turn 0).run [.replace .absent, .turn 1, .turn 0]).holds 1 ∧
    ¬((opened.turn 0).run [.replace .absent, .turn 1, .turn 0]).holds 0 ∧
    ((opened.turn 0).run [.replace .absent, .turn 1, .turn 0, .turn 1, .turn 0]).store.current =
      (opened.store.loader.loadPolicy .absent).value := by
  have hcalled : (opened.turn 0).reloads[1]? = some .called := rfl
  have hholds : ((opened.turn 0).run [.replace .absent, .turn 1, .turn 0]).holds 1 := ⟨_, rfl⟩
  have hstored : ¬((opened.turn 0).run [.replace .absent, .turn 1, .turn 0]).holds 0 := by
    rintro ⟨policy, h⟩
    cases h
  have hstale : ∀ j, .turn j ∈ [Event.turn 0] → (opened.turn 0).holds j →
      ¬((opened.turn 0).run [.replace .absent, .turn 1, .turn 0]).holds j := by
    intro j hturn _
    obtain rfl : j = 0 := by simpa using hturn
    exact hstored
  refine ⟨hcalled, ⟨_, rfl⟩, hholds, hstored, ?_⟩
  exact (current_after_reload (opened.turn 0) .absent [.turn 1, .turn 0] [.turn 0] 1 (by simp)
    (by simp) hcalled hholds hstale).1

/-- The first reload has read the document, the document has been taken away, and the
second one has read that there is none and has returned. -/
def newerReturned : Scene := opened.run [.turn 0, .replace .absent, .turn 1, .turn 1]

/-- With the second reload the policy of what is there now is current. Then the first one
stores what it had built, and the class of the document that is gone is traced again. -/
theorem older_reload_overwrites_newer :
    newerReturned.reloads[1]? = some (.returned .published) ∧
    newerReturned.store.current = newerReturned.loaded ∧
    newerReturned.loaded = (opened.store.loader.loadPolicy .absent).value ∧
    (newerReturned.run [.turn 0]).loaded = newerReturned.loaded ∧
    (newerReturned.run [.turn 0]).store.current ≠ newerReturned.loaded ∧
    (newerReturned.run [.turn 0]).store.current.any (·.isInstrumented "a.B") = true := by
  decide +kernel

end Scene

end Instrumentation.Policy
