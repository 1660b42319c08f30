import Instrumentation.Proofs.Telemetry.Delivery
/-
  Calls that run on a span at the same time

  A race is any number of calls on one span. A schedule says whose turn it is: at
  each turn a call makes one access to what the calls share, and the accesses of
  different calls mix in any order. Nothing else of a call is visible to the others.

  What is proved, of every race and every schedule:
    1. `Sound.step`, `Sound.run` — an invariant that ties the cell, the two flags and
       the stages of all calls together holds at the start and after every access.
    2. `finished_of_turns` — no call waits for another: after four turns each, all have
       returned. So every race can be finished.
    3. `race_outcomes` — one error is kept at most, and it is kept exactly if the
       completion reports it; one completion emits; what the span says of itself does
       not change once it has ended.
    4. `completion_reports_iff` — a completion that finds an error answered for
       reports an error exactly if no call stands between filling the cell and
       making the error visible.
    5. `unpublished_error_is_lost` — the condition in (4) is not idle: a call that is
       refused because the cell is full can complete the span as successful, and the
       error in the cell is never reported.

  The author of the error in the cell is a record of the past: no access reads it.
-/

namespace Instrumentation.Telemetry

open Time (Moment)

/-- A call on a span, as its caller makes it. -/
inductive Attempt where
  | record (fault : Fault)
  | complete
  | completeWith (fault : Fault)
  deriving DecidableEq, Repr

namespace Attempt

def fault? : Attempt → Option Fault
  | record fault | completeWith fault => some fault
  | complete => none

def completes : Attempt → Bool
  | record _ => false
  | complete | completeWith _ => true

def stage : Attempt → Stage
  | record fault => .check fault false
  | complete => .finish none
  | completeWith fault => .check fault true

end Attempt

/-- What recording the error of a call answered, once it did. -/
def Stage.answer? : Stage → Option Bool
  | recorded kept => some kept
  | finish kept | completed kept _ => kept
  | check _ _ | store _ _ | publish _ => none

/-- Calls on a span that run at the same time. -/
structure Race where
  shared : Shared := {}
  /-- How far each call has come. -/
  stages : List Stage
  /-- The place of the call whose error is in the cell. -/
  author : Option Nat := none
  deriving DecidableEq, Repr

namespace Race

def start (attempts : List Attempt) : Race := { stages := attempts.map Attempt.stage }

/-- The call at a place makes its next access. -/
def step (race : Race) (i : Nat) : Race :=
  match race.stages[i]? with
  | none => race
  | some stage =>
    { shared := (race.shared.step stage).shared
      stages := race.stages.set i (race.shared.step stage).stage
      author := if stage.stores && race.shared.stored.isNone then some i else race.author }

def run (race : Race) (schedule : List Nat) : Race := schedule.foldl step race

def answer? (race : Race) (i : Nat) : Option Bool := race.stages[i]?.bind Stage.answer?

def report? (race : Race) (i : Nat) : Option (Option Fault) := race.stages[i]?.bind Stage.report?

/-- Whether the call at a place filled the cell and has yet to make its error visible. -/
def publishes (race : Race) (i : Nat) : Prop :=
  ∃ completes, race.stages[i]? = some (.publish completes)

/-- Whether every call has its answer. -/
def finished (race : Race) : Prop := ∀ stage ∈ race.stages, stage.rank = 0

/-! ## The invariant -/

/-- What a stage says of the call that has reached it. -/
def Fits (attempt : Attempt) : Stage → Prop
  | .check fault completes | .store fault completes =>
    attempt.fault? = some fault ∧ attempt.completes = completes
  | .publish completes => attempt.fault?.isSome ∧ attempt.completes = completes
  | .finish kept | .completed kept _ =>
    attempt.completes = true ∧ kept.isSome = attempt.fault?.isSome
  | .recorded _ => attempt.completes = false

/-- What the answer about an error says of the call that got it: a kept error is in
the cell and visible, a refused one is not in the cell or came too late. -/
def Answered (shared : Shared) (author : Option Nat) (i : Nat) : Option Bool → Prop
  | none => author ≠ some i
  | some true => author = some i ∧ shared.errored = true
  | some false =>
    (author = some i → shared.errored = false ∧ shared.ended = true) ∧
      (author.isSome ∨ shared.ended = true)

/-- What a stage says of the cell and the flags. -/
def Stands (shared : Shared) (author : Option Nat) (i : Nat) : Stage → Prop
  | .check _ _ | .store _ _ => author ≠ some i
  | .publish _ => author = some i ∧ shared.errored = false
  | .finish kept => Answered shared author i kept
  | .recorded kept => Answered shared author i (some kept)
  | .completed kept completion =>
    Answered shared author i kept ∧ shared.ended = true ∧
      ∀ reported, completion = .emitted reported → reported = shared.error?

/-- The invariant of a race. -/
structure Sound (attempts : List Attempt) (race : Race) : Prop where
  length : race.stages.length = attempts.length
  fits : ∀ (i : Nat) (stage : Stage), race.stages[i]? = some stage →
    ∃ attempt, attempts[i]? = some attempt ∧ Fits attempt stage
  stands : ∀ (i : Nat) (stage : Stage), race.stages[i]? = some stage →
    Stands race.shared race.author i stage
  /-- The cell holds the error of its author. -/
  authored : ∀ i, race.author = some i →
    race.shared.stored.isSome ∧ race.shared.stored = attempts[i]?.bind Attempt.fault?
  unauthored : race.author = none → race.shared.stored = none ∧ race.shared.errored = false
  /-- One call ended the span at most. -/
  single : ∀ i j reported reported', race.report? i = some reported →
    race.report? j = some reported' → i = j
  ended : race.shared.ended = true → ∃ i reported, race.report? i = some reported

variable {attempts : List Attempt} {race : Race}

theorem Sound.start (attempts : List Attempt) : Sound attempts (start attempts) := by
  have hstage : ∀ (i : Nat) (stage : Stage), (Race.start attempts).stages[i]? = some stage →
      ∃ attempt, attempts[i]? = some attempt ∧ attempt.stage = stage := by
    intro i stage h
    simpa [Race.start, Option.map_eq_some_iff] using h
  have hreport : ∀ i, (Race.start attempts).report? i = none := by
    intro i
    rw [report?, Option.bind_eq_none_iff]
    intro stage h
    obtain ⟨attempt, -, rfl⟩ := hstage i stage h
    cases attempt <;> rfl
  refine ⟨by simp [Race.start], ?_, ?_, ?_, fun _ => ⟨rfl, rfl⟩, ?_, ?_⟩
  · intro i stage h
    obtain ⟨attempt, ha, rfl⟩ := hstage i stage h
    refine ⟨attempt, ha, ?_⟩
    cases attempt <;> simp [Attempt.stage, Fits, Attempt.fault?, Attempt.completes]
  · intro i stage h
    obtain ⟨attempt, -, rfl⟩ := hstage i stage h
    cases attempt <;> simp [Attempt.stage, Stands, Answered, Race.start]
  · intro i h
    cases h
  · intro i j reported reported' h
    rw [hreport] at h
    cases h
  · intro h
    cases h

/-- A call that reported anything ended the span, and what it reports is what the
span shows. -/
theorem Sound.report (h : Sound attempts race) {i : Nat} {reported : Option Fault}
    (hr : race.report? i = some reported) :
    race.shared.ended = true ∧ reported = race.shared.error? := by
  obtain ⟨stage, hstage, hr⟩ := Option.bind_eq_some_iff.1 hr
  have hstands := h.stands i stage hstage
  cases stage with
  | completed kept completion =>
    cases completion with
    | emitted r =>
      obtain rfl : r = reported := by simpa [Stage.report?] using hr
      exact ⟨hstands.2.1, hstands.2.2 r rfl⟩
    | alreadyEnded => simp [Stage.report?] at hr
  | check _ _ | store _ _ | publish _ | finish _ | recorded _ => simp [Stage.report?] at hr

theorem getElem?_set_cases {stages : List Stage} {i j : Nat} {stage' other : Stage}
    (h : (stages.set i stage')[j]? = some other) :
    (j = i ∧ other = stage') ∨ (j ≠ i ∧ stages[j]? = some other) := by
  by_cases hj : j = i
  · subst hj
    rw [List.getElem?_set] at h
    split at h
    · split at h
      · exact .inl ⟨rfl, (Option.some.inj h).symm⟩
      · cases h
    · exact absurd rfl ‹¬_›
  · rw [List.getElem?_set_ne (Ne.symm hj)] at h
    exact .inr ⟨hj, h⟩

/-- What has to be shown of one access: that the call at `i` and the cell are as
they should be afterwards, and that the other calls stand as they stood. -/
theorem Sound.move {i : Nat} {stage stage' : Stage} {shared' : Shared} {author' : Option Nat}
    (h : Sound attempts race) (hi : race.stages[i]? = some stage)
    (hidle : stage.report? = none)
    (hfits : ∀ attempt, Fits attempt stage → Fits attempt stage')
    (hself : Stands shared' author' i stage')
    (hothers : ∀ j other, j ≠ i → Stands race.shared race.author j other →
      Stands shared' author' j other)
    (hauthored : ∀ j, author' = some j →
      shared'.stored.isSome ∧ shared'.stored = attempts[j]?.bind Attempt.fault?)
    (hunauthored : author' = none → shared'.stored = none ∧ shared'.errored = false)
    (hreport : ∀ reported, stage'.report? = some reported → race.shared.ended = false)
    (hended : shared'.ended = true →
      race.shared.ended = true ∨ ∃ reported, stage'.report? = some reported) :
    Sound attempts ⟨shared', race.stages.set i stage', author'⟩ := by
  have hlt : i < race.stages.length := (List.getElem?_eq_some_iff.1 hi).1
  have hat : (race.stages.set i stage')[i]? = some stage' := List.getElem?_set_self hlt
  -- A report after the access is the new one, or an old one of another call.
  have hreports : ∀ j reported,
      Race.report? ⟨shared', race.stages.set i stage', author'⟩ j = some reported →
      (j = i ∧ stage'.report? = some reported) ∨ (j ≠ i ∧ race.report? j = some reported) := by
    intro j reported hj
    obtain ⟨other, hother, hr⟩ := Option.bind_eq_some_iff.1 hj
    rcases getElem?_set_cases hother with ⟨rfl, rfl⟩ | ⟨hne, hold⟩
    · exact .inl ⟨rfl, hr⟩
    · exact .inr ⟨hne, Option.bind_eq_some_iff.2 ⟨other, hold, hr⟩⟩
  refine ⟨by simpa using h.length, ?_, ?_, hauthored, hunauthored, ?_, ?_⟩
  · intro j other hj
    rcases getElem?_set_cases hj with ⟨rfl, rfl⟩ | ⟨-, hold⟩
    · obtain ⟨attempt, ha, hfit⟩ := h.fits j stage hi
      exact ⟨attempt, ha, hfits attempt hfit⟩
    · exact h.fits j other hold
  · intro j other hj
    rcases getElem?_set_cases hj with ⟨rfl, rfl⟩ | ⟨hne, hold⟩
    · exact hself
    · exact hothers j other hne (h.stands j other hold)
  · intro j k reported reported' hj hk
    rcases hreports j reported hj with ⟨rfl, hr⟩ | ⟨hj, hr⟩
    · rcases hreports k reported' hk with ⟨rfl, -⟩ | ⟨-, hr'⟩
      · rfl
      · exact absurd (h.report hr').1 (by simp [hreport _ hr])
    · rcases hreports k reported' hk with ⟨rfl, hr'⟩ | ⟨-, hr'⟩
      · exact absurd (h.report hr).1 (by simp [hreport _ hr'])
      · exact h.single j k reported reported' hr hr'
  · intro hend
    rcases hended hend with hold | ⟨reported, hr⟩
    · obtain ⟨j, reported, hj⟩ := h.ended hold
      have hne : j ≠ i := by
        rintro rfl
        rw [report?, hi, Option.bind_some, hidle] at hj
        cases hj
      refine ⟨j, reported, ?_⟩
      rw [report?, List.getElem?_set_ne (Ne.symm hne)]
      exact hj
    · exact ⟨i, reported, Option.bind_eq_some_iff.2 ⟨stage', hat, hr⟩⟩

/-- An access that leaves the cell and the flags alone. -/
theorem Sound.pass {i : Nat} {stage stage' : Stage} (h : Sound attempts race)
    (hi : race.stages[i]? = some stage) (hidle : stage.report? = none)
    (hidle' : stage'.report? = none) (hfits : ∀ attempt, Fits attempt stage → Fits attempt stage')
    (hself : Stands race.shared race.author i stage') :
    Sound attempts ⟨race.shared, race.stages.set i stage', race.author⟩ := by
  refine h.move hi hidle hfits hself (fun _ _ _ hj => hj) h.authored h.unauthored ?_ .inl
  intro reported hr
  rw [hidle'] at hr
  cases hr

theorem step_eq {i : Nat} {stage : Stage} (hi : race.stages[i]? = some stage) :
    race.step i = ⟨(race.shared.step stage).shared,
      race.stages.set i (race.shared.step stage).stage,
      if stage.stores && race.shared.stored.isNone then some i else race.author⟩ := by
  simp only [step, hi]

theorem getElem?_step_self {i : Nat} {stage : Stage} (hi : race.stages[i]? = some stage) :
    (race.step i).stages[i]? = some (race.shared.step stage).stage := by
  rw [step_eq hi, List.getElem?_set_self (List.getElem?_eq_some_iff.1 hi).1]

theorem getElem?_step_ne {i j : Nat} (hne : j ≠ i) :
    (race.step j).stages[i]? = race.stages[i]? := by
  cases hj : race.stages[j]? with
  | none => simp [step, hj]
  | some other => rw [step_eq hj, List.getElem?_set_ne hne]

theorem length_step (i : Nat) : (race.step i).stages.length = race.stages.length := by
  unfold step
  split <;> simp

theorem length_run (schedule : List Nat) :
    (race.run schedule).stages.length = race.stages.length := by
  induction schedule generalizing race with
  | nil => rfl
  | cons i rest ih => exact ih.trans (length_step i)

theorem report?_afterError (kept completes : Bool) :
    (Stage.afterError kept completes).report? = none := by
  cases completes <;> rfl

theorem fits_afterError {attempt : Attempt} {completes : Bool} (kept : Bool)
    (hfault : attempt.fault?.isSome) (hc : attempt.completes = completes) :
    Fits attempt (Stage.afterError kept completes) := by
  cases completes with
  | true => exact ⟨hc, hfault.symm⟩
  | false => exact hc

theorem stands_afterError {shared : Shared} {author : Option Nat} {i : Nat} {kept : Bool}
    (completes : Bool) (h : Answered shared author i (some kept)) :
    Stands shared author i (Stage.afterError kept completes) := by
  cases completes <;> exact h

/-- Filling an empty cell leaves the other calls as they stand: none of them wrote it,
and nothing was visible to report. -/
theorem Stands.fill {shared : Shared} {i j : Nat} {stage : Stage} (h : Stands shared none j stage)
    (hne : j ≠ i) (hclear : shared.errored = false) (fault : Fault) :
    Stands { shared with stored := some fault } (some i) j stage := by
  have hanswered : ∀ answer, Answered shared none j answer →
      Answered { shared with stored := some fault } (some i) j answer := by
    intro answer ha
    cases answer with
    | none => simpa [Answered] using Ne.symm hne
    | some kept =>
      cases kept with
      | true => cases ha.1
      | false => exact ⟨fun he => absurd (Option.some.inj he).symm hne, .inl rfl⟩
  cases stage with
  | check _ _ | store _ _ =>
    show some i ≠ some j
    simpa using Ne.symm hne
  | publish _ => cases h.1
  | finish kept => exact hanswered _ h
  | recorded kept => exact hanswered _ h
  | completed kept completion =>
    refine ⟨hanswered _ h.1, h.2.1, ?_⟩
    intro reported hr
    rw [h.2.2 reported hr]
    simp [Shared.error?, hclear]

/-- Making the error visible on an open span leaves the other calls as they stand: none
of them has completed, and none is the author. -/
theorem Stands.expose {shared : Shared} {i j : Nat} {stage : Stage}
    (h : Stands shared (some i) j stage) (hne : j ≠ i) (hopen : shared.ended = false) :
    Stands { shared with errored := true } (some i) j stage := by
  have hanswered : ∀ answer, Answered shared (some i) j answer →
      Answered { shared with errored := true } (some i) j answer := by
    intro answer ha
    cases answer with
    | none => exact ha
    | some kept =>
      cases kept with
      | true => exact ⟨ha.1, rfl⟩
      | false => exact ⟨fun he => absurd (Option.some.inj he).symm hne, .inl rfl⟩
  cases stage with
  | check _ _ | store _ _ => exact h
  | publish _ => exact absurd (Option.some.inj h.1).symm hne
  | finish kept => exact hanswered _ h
  | recorded kept => exact hanswered _ h
  | completed kept completion =>
    have hend := h.2.1
    rw [hopen] at hend
    cases hend

/-- Ending the span takes nothing back that an answer relies on. -/
theorem Answered.close {shared : Shared} {author : Option Nat} {i : Nat} {answer : Option Bool}
    (h : Answered shared author i answer) (hopen : shared.ended = false) :
    Answered { shared with ended := true } author i answer := by
  cases answer with
  | none => exact h
  | some kept =>
    cases kept with
    | true => exact h
    | false =>
      refine ⟨fun he => ?_, .inr rfl⟩
      have hend := (h.1 he).2
      rw [hopen] at hend
      cases hend

theorem Stands.close {shared : Shared} {author : Option Nat} {i : Nat} {stage : Stage}
    (h : Stands shared author i stage) (hopen : shared.ended = false) :
    Stands { shared with ended := true } author i stage := by
  cases stage with
  | check _ _ | store _ _ => exact h
  | publish _ => exact h
  | finish kept => exact Answered.close h hopen
  | recorded kept => exact Answered.close h hopen
  | completed kept completion =>
    have hend := h.2.1
    rw [hopen] at hend
    cases hend

/-- The cell is full exactly if it has an author. -/
theorem Sound.isSome_author (h : Sound attempts race) :
    race.author.isSome = race.shared.stored.isSome := by
  cases hauthor : race.author with
  | none =>
    rw [(h.unauthored hauthor).1]
    rfl
  | some j => exact (h.authored j hauthor).1.symm

/-- The next access of a call that is about to store its error. -/
theorem Sound.store {i : Nat} {fault : Fault} {completes : Bool} (h : Sound attempts race)
    (hi : race.stages[i]? = some (.store fault completes)) : Sound attempts (race.step i) := by
  have hself : race.author ≠ some i := h.stands i _ hi
  have hfits : ∀ attempt, Fits attempt (.store fault completes) →
      attempt.fault? = some fault ∧ attempt.completes = completes := fun _ hfit => hfit
  have hcell := h.isSome_author
  rw [step_eq hi]
  cases hstored : race.shared.stored with
  | some taken =>
    -- The cell is full, so another call is its author.
    have hauthor : race.author.isSome := by simp [hcell, hstored]
    simp only [Shared.step, hstored, Option.isNone_some, Bool.and_false, Bool.false_eq_true,
      if_false]
    apply h.pass hi rfl (report?_afterError _ _)
    · intro attempt hfit
      exact fits_afterError false (by simp [(hfits attempt hfit).1]) (hfits attempt hfit).2
    · exact stands_afterError _ ⟨fun he => absurd he hself, .inl hauthor⟩
  | none =>
    have hauthor : race.author = none := by simpa [hstored] using hcell
    have hclear : race.shared.errored = false := (h.unauthored hauthor).2
    simp only [Shared.step, hstored, Stage.stores, Option.isNone_none, Bool.and_true, if_true]
    apply h.move hi rfl
    · intro attempt hfit
      exact ⟨by simp [(hfits attempt hfit).1], (hfits attempt hfit).2⟩
    · exact ⟨rfl, hclear⟩
    · intro j other hne hstands
      rw [hauthor] at hstands
      exact hstands.fill hne hclear fault
    · intro j hj
      obtain rfl : i = j := Option.some.inj hj
      obtain ⟨attempt, ha, hfit⟩ := h.fits i _ hi
      refine ⟨rfl, ?_⟩
      rw [ha, Option.bind_some, (hfits attempt hfit).1]
    · intro hnone
      cases hnone
    · intro reported hr
      cases hr
    · exact fun hend => .inl hend

/-- The next access of a call that is about to make its error visible. -/
theorem Sound.publish {i : Nat} {completes : Bool} (h : Sound attempts race)
    (hi : race.stages[i]? = some (.publish completes)) : Sound attempts (race.step i) := by
  obtain ⟨hauthor, hclear⟩ : race.author = some i ∧ race.shared.errored = false :=
    h.stands i _ hi
  rw [step_eq hi]
  cases hend : race.shared.ended with
  | true =>
    simp only [Shared.step, hend, Bool.or_true, if_true, Stage.stores, Bool.false_and,
      Bool.false_eq_true, if_false]
    apply h.pass hi rfl (report?_afterError _ _)
    · exact fun attempt hfit => fits_afterError false hfit.1 hfit.2
    · exact stands_afterError _ ⟨fun _ => ⟨hclear, hend⟩, .inr hend⟩
  | false =>
    simp only [Shared.step, hend, hclear, Bool.or_self, Bool.false_eq_true, if_false,
      Stage.stores, Bool.false_and]
    apply h.move hi rfl
    · exact fun attempt hfit => fits_afterError true hfit.1 hfit.2
    · exact stands_afterError _ ⟨hauthor, rfl⟩
    · intro j other hne hstands
      rw [hauthor] at hstands ⊢
      simpa [hend] using hstands.expose hne hend
    · exact h.authored
    · intro hnone
      rw [hauthor] at hnone
      cases hnone
    · intro reported hr
      rw [report?_afterError] at hr
      cases hr
    · intro he
      cases he

/-- The next access of a call that is about to read whether the span has ended. -/
theorem Sound.check {i : Nat} {fault : Fault} {completes : Bool} (h : Sound attempts race)
    (hi : race.stages[i]? = some (.check fault completes)) : Sound attempts (race.step i) := by
  have hself : race.author ≠ some i := h.stands i _ hi
  rw [step_eq hi]
  simp only [Shared.step, Stage.stores, Bool.false_and, Bool.false_eq_true, if_false]
  split
  · next hend =>
    apply h.pass hi rfl (report?_afterError _ _)
    · intro attempt hfit
      exact fits_afterError false (by simp [hfit.1]) hfit.2
    · exact stands_afterError _ ⟨fun he => absurd he hself, .inr hend⟩
  · exact h.pass hi rfl rfl (fun _ hfit => hfit) hself

/-- The next access of a call that is about to end the span. -/
theorem Sound.finish {i : Nat} {kept : Option Bool} (h : Sound attempts race)
    (hi : race.stages[i]? = some (.finish kept)) : Sound attempts (race.step i) := by
  have hself : Answered race.shared race.author i kept := h.stands i _ hi
  rw [step_eq hi]
  cases hend : race.shared.ended with
  | true =>
    simp only [Shared.step, hend, if_true, Stage.stores, Bool.false_and, Bool.false_eq_true,
      if_false]
    apply h.pass hi rfl rfl
    · exact fun _ hfit => hfit
    · exact ⟨hself, hend, fun reported hr => by cases hr⟩
  | false =>
    simp only [Shared.step, hend, Bool.false_eq_true, if_false, Stage.stores, Bool.false_and]
    apply h.move hi rfl
    · exact fun _ hfit => hfit
    · exact ⟨hself.close hend, rfl, fun reported hr => by cases hr; rfl⟩
    · exact fun j other _ hstands => hstands.close hend
    · exact h.authored
    · exact h.unauthored
    · exact fun _ _ => hend
    · exact fun _ => .inr ⟨_, rfl⟩

/-- One access keeps the invariant. -/
theorem Sound.step (h : Sound attempts race) (i : Nat) : Sound attempts (race.step i) := by
  cases hi : race.stages[i]? with
  | none => simpa [Race.step, hi] using h
  | some stage =>
    cases stage with
    | check fault completes => exact h.check hi
    | store fault completes => exact h.store hi
    | publish completes => exact h.publish hi
    | finish kept => exact h.finish hi
    | recorded kept | completed kept completion =>
      obtain ⟨hlt, hget⟩ := List.getElem?_eq_some_iff.1 hi
      rw [step_eq hi]
      simpa [Shared.step, Stage.stores, ← hget] using h

theorem Sound.run (h : Sound attempts race) (schedule : List Nat) :
    Sound attempts (race.run schedule) := by
  induction schedule generalizing race with
  | nil => exact h
  | cons i rest ih => exact ih (h.step i)

/-- Every race is sound, whatever the order of its accesses. -/
theorem sound_run (attempts : List Attempt) (schedule : List Nat) :
    Sound attempts ((Race.start attempts).run schedule) :=
  (Sound.start attempts).run schedule

/-! ## What the invariant says of the calls -/

theorem Sound.answered (h : Sound attempts race) {i : Nat} {answer : Bool}
    (ha : race.answer? i = some answer) : Answered race.shared race.author i (some answer) := by
  obtain ⟨stage, hstage, ha⟩ := Option.bind_eq_some_iff.1 ha
  have hstands := h.stands i stage hstage
  cases stage with
  | check _ _ | store _ _ | publish _ => cases ha
  | finish kept =>
    obtain rfl : kept = some answer := ha
    exact hstands
  | recorded kept =>
    obtain rfl : kept = answer := Option.some.inj ha
    exact hstands
  | completed kept completion =>
    obtain rfl : kept = some answer := ha
    exact hstands.1

/-- The span shows an error exactly if the flag for it is raised. -/
theorem Sound.isSome_error? (h : Sound attempts race) :
    race.shared.error?.isSome = race.shared.errored := by
  unfold Shared.error?
  cases hflag : race.shared.errored with
  | false => rfl
  | true =>
    cases hauthor : race.author with
    | none => exact absurd (h.unauthored hauthor).2 (by simp [hflag])
    | some i => exact (h.authored i hauthor).1

/-- A kept error is visible, and it is the one that its call brought along. -/
theorem Sound.error?_of_kept (h : Sound attempts race) {i : Nat}
    (ha : race.answer? i = some true) :
    race.author = some i ∧ race.shared.errored = true ∧
      ∃ fault, attempts[i]?.bind Attempt.fault? = some fault ∧ race.shared.error? = some fault := by
  obtain ⟨hauthor, hflag⟩ := h.answered ha
  obtain ⟨hsome, hstored⟩ := h.authored i hauthor
  obtain ⟨fault, hfault⟩ := Option.isSome_iff_exists.1 hsome
  refine ⟨hauthor, hflag, fault, hstored ▸ hfault, ?_⟩
  simp [Shared.error?, hflag, hfault]

/-- Once the span has ended, no access changes what it says of itself. -/
theorem Sound.step_ended (h : Sound attempts race) (hend : race.shared.ended = true) (i : Nat) :
    (race.step i).shared.ended = true ∧
      (race.step i).shared.errored = race.shared.errored ∧
      (race.step i).shared.error? = race.shared.error? := by
  cases hi : race.stages[i]? with
  | none => simp [Race.step, hi, hend]
  | some stage =>
    rw [step_eq hi]
    cases stage with
    | store fault completes =>
      -- The cell may be filled late, but then its flag is down and stays down.
      simp only [Shared.step]
      split
      · exact ⟨hend, rfl, rfl⟩
      · next hstored =>
        have hclear : race.shared.errored = false := by
          rw [← h.isSome_error?, Shared.error?, hstored]
          split <;> rfl
        exact ⟨hend, rfl, by simp [Shared.error?, hclear]⟩
    | check _ _ | publish _ | finish _ | recorded _ | completed _ _ => simp [Shared.step, hend]

theorem Sound.run_ended (h : Sound attempts race) (hend : race.shared.ended = true)
    (later : List Nat) :
    (race.run later).shared.errored = race.shared.errored ∧
      (race.run later).shared.error? = race.shared.error? := by
  induction later generalizing race with
  | nil => exact ⟨rfl, rfl⟩
  | cons i rest ih =>
    obtain ⟨hend', hflag, herror⟩ := h.step_ended hend i
    obtain ⟨hflag', herror'⟩ := ih (h.step i) hend'
    exact ⟨hflag'.trans hflag, herror'.trans herror⟩

/-- A call that has ended the span keeps its answer. -/
theorem report?_step {i : Nat} {reported : Option Fault} (h : race.report? i = some reported)
    (j : Nat) : (race.step j).report? i = some reported := by
  by_cases hij : j = i
  · subst hij
    obtain ⟨stage, hstage, hr⟩ := Option.bind_eq_some_iff.1 h
    rw [report?, getElem?_step_self hstage, Option.bind_some]
    cases stage with
    | completed kept completion => exact hr
    | check _ _ | store _ _ | publish _ | finish _ | recorded _ => cases hr
  · rw [report?, getElem?_step_ne hij]
    exact h

theorem report?_run {i : Nat} {reported : Option Fault} (h : race.report? i = some reported)
    (later : List Nat) : (race.run later).report? i = some reported := by
  induction later generalizing race with
  | nil => exact h
  | cons j rest ih => exact ih (report?_step h j)

/-- When all calls have answered and one was to complete the span, one has. -/
theorem Sound.exists_report (h : Sound attempts race) (hfinished : race.finished)
    (hcompletes : ∃ attempt ∈ attempts, attempt.completes = true) :
    ∃ i reported, race.report? i = some reported := by
  obtain ⟨attempt, hmem, hc⟩ := hcompletes
  obtain ⟨i, hi⟩ := List.mem_iff_getElem?.1 hmem
  have hlt : i < race.stages.length := h.length ▸ (List.getElem?_eq_some_iff.1 hi).1
  have hstage : race.stages[i]? = some race.stages[i] := List.getElem?_eq_getElem hlt
  obtain ⟨attempt', hi', hfit⟩ := h.fits i _ hstage
  obtain rfl : attempt = attempt' := Option.some.inj (hi.symm.trans hi')
  have hrank := hfinished _ (List.getElem_mem hlt)
  have hstands := h.stands i _ hstage
  generalize race.stages[i] = stage at *
  cases stage with
  | completed kept completion => exact h.ended hstands.2.1
  | recorded kept =>
    have hnot : attempt.completes = false := hfit
    rw [hc] at hnot
    cases hnot
  | check _ _ | store _ _ | publish _ | finish _ => cases hrank

/-! ## Every call returns -/

/-- Every turn of a call brings it nearer to its answer, whatever the others do between
its turns. -/
theorem exists_rank_run_le {i : Nat} {stage : Stage} (hi : race.stages[i]? = some stage)
    (schedule : List Nat) : ∃ last, (race.run schedule).stages[i]? = some last ∧
      last.rank ≤ stage.rank - schedule.count i := by
  induction schedule generalizing race stage with
  | nil => exact ⟨stage, hi, Nat.le_refl _⟩
  | cons j rest ih =>
    by_cases hij : j = i
    · subst hij
      obtain ⟨last, hlast, hrank⟩ := ih (getElem?_step_self hi)
      have hstep := race.shared.rank_step_le stage
      refine ⟨last, hlast, ?_⟩
      rw [List.count_cons_self]
      omega
    · obtain ⟨last, hlast, hrank⟩ := ih ((getElem?_step_ne hij).trans hi)
      exact ⟨last, hlast, by rwa [List.count_cons_of_ne hij]⟩

/-- No call waits for another: once each has had four turns, all have their answers. -/
theorem finished_of_turns {schedule : List Nat}
    (h : ∀ i < race.stages.length, 4 ≤ schedule.count i) : (race.run schedule).finished := by
  intro last hlast
  obtain ⟨i, hi⟩ := List.mem_iff_getElem?.1 hlast
  have hlt : i < race.stages.length := length_run schedule ▸ (List.getElem?_eq_some_iff.1 hi).1
  obtain ⟨last', hlast', hrank⟩ := exists_rank_run_le (List.getElem?_eq_getElem hlt) schedule
  obtain rfl : last = last' := Option.some.inj (hi.symm.trans hlast')
  have hturns := h i hlt
  have hle := race.stages[i].rank_le
  omega

/-- However far a race has come, it can be finished. So what is said below of finished races
is said of some continuation of every race. -/
theorem exists_run_finished (race : Race) : ∃ later, (race.run later).finished := by
  refine ⟨(List.replicate 4 (List.range race.stages.length)).flatten, finished_of_turns ?_⟩
  intro i hi
  simp [List.count_range, hi]

/-! ## The records of a race -/

def records (span : Span) (now : Moment) (race : Race) : List Record :=
  race.stages.flatMap (span.handedOver now)

theorem flatMap_eq_of_single {α β : Type} {f : α → List β} {xs : List α} {i : Nat} {x : α}
    (hi : xs[i]? = some x) (hothers : ∀ (j : Nat) (y : α), xs[j]? = some y → j ≠ i → f y = []) :
    xs.flatMap f = f x := by
  induction xs generalizing i with
  | nil => cases hi
  | cons y rest ih =>
    cases i with
    | zero =>
      obtain rfl : y = x := by simpa using hi
      have hrest : rest.flatMap f = [] := by
        rw [List.flatMap_eq_nil_iff]
        intro z hz
        obtain ⟨j, hj⟩ := List.mem_iff_getElem?.1 hz
        exact hothers (j + 1) z (by simpa using hj) (by omega)
      rw [List.flatMap_cons, hrest, List.append_nil]
    | succ i =>
      have hy : f y = [] := hothers 0 y rfl (by omega)
      rw [List.flatMap_cons, hy, List.nil_append]
      apply ih (i := i) (by simpa using hi)
      intro j z hj hne
      exact hothers (j + 1) z (by simpa using hj) (by omega)

/-- Only the call that ended the span hands records over. -/
theorem Sound.records_eq (h : Sound attempts race) {i : Nat} {reported : Option Fault}
    (hr : race.report? i = some reported) (span : Span) (now : Moment) :
    race.records span now = span.records reported now := by
  obtain ⟨stage, hstage, hstager⟩ := Option.bind_eq_some_iff.1 hr
  rw [records, flatMap_eq_of_single hstage, Span.handedOver, hstager]
  intro j other hj hne
  rw [Span.handedOver]
  cases hr' : other.report? with
  | none => rfl
  | some reported' =>
    exact absurd (h.single j i _ _ (Option.bind_eq_some_iff.2 ⟨other, hj, hr'⟩) hr) hne

/-! ## What a race comes to -/

/-- **What every race comes to.** However the accesses mix, one call keeps its error
at most, namely the author of the error that the completion reports; one completion
emits at most, and one does if there is any; what an ended span says of itself stays;
and the flag, the success of the dependency and the exception agree in the end. -/
theorem race_outcomes (attempts : List Attempt) (schedule : List Nat) (span : Span)
    (now : Moment) :
    let race := (start attempts).run schedule
    (∀ i j, race.answer? i = some true → race.answer? j = some true → i = j) ∧
    (∀ i kept j reported, race.answer? i = some kept → race.report? j = some reported →
      (kept = true ↔ race.author = some i ∧
        ∃ fault, attempts[i]?.bind Attempt.fault? = some fault ∧
          span.exception fault now ∈ race.records span now)) ∧
    (∀ i j reported reported', race.report? i = some reported →
      race.report? j = some reported' → i = j) ∧
    (race.finished → (∃ attempt ∈ attempts, attempt.completes = true) →
      ∃ i reported, race.report? i = some reported) ∧
    (race.shared.ended = true → ∀ later,
      (race.run later).shared.errored = race.shared.errored ∧
        (race.run later).shared.error? = race.shared.error?) ∧
    race.shared.error?.isSome = race.shared.errored ∧
    (race.finished → (∃ attempt ∈ attempts, attempt.completes = true) →
      ∃ d es, race.records span now = .dependency d :: es.map .exception ∧
        (race.shared.errored = true ↔ d.success = false) ∧
        (race.shared.errored = true ↔ es.length = 1) ∧
        (race.shared.errored = false ↔ es = [])) := by
  intro race
  have h : Sound attempts race := sound_run attempts schedule
  refine ⟨?_, ?_, h.single, h.exists_report, h.run_ended, h.isSome_error?, ?_⟩
  · intro i j hi hj
    have hauthor := (h.error?_of_kept hi).1
    rw [(h.error?_of_kept hj).1] at hauthor
    exact (Option.some.inj hauthor).symm
  · intro i kept j reported hi hj
    rw [h.records_eq hj, (h.report hj).2]
    constructor
    · rintro rfl
      obtain ⟨hauthor, -, fault, hfault, herror⟩ := h.error?_of_kept hi
      refine ⟨hauthor, fault, hfault, ?_⟩
      simp [herror, Span.records]
    · rintro ⟨hauthor, fault, -, hmem⟩
      cases kept with
      | true => rfl
      | false =>
        -- A refused author came too late, so nothing is visible to report.
        have hclear := ((h.answered hi).1 hauthor).1
        simp [Span.records, Shared.error?, hclear, Span.dependency, Span.exception] at hmem
  · intro hfinished hcompletes
    obtain ⟨i, reported, hr⟩ := h.exists_report hfinished hcompletes
    obtain rfl : reported = race.shared.error? := (h.report hr).2
    rw [h.records_eq hr, ← h.isSome_error?]
    obtain ⟨d, hd, -, hsuccess⟩ := span.records_eq race.shared.error? now
    refine ⟨d, _, hd, ?_, ?_, ?_⟩
    · rw [hsuccess]
      cases race.shared.error? <;> simp
    · cases race.shared.error? <;> simp
    · cases race.shared.error? <;> simp

/-! ## When an error is lost -/

/-- While the span is open, the author of the error in the cell has yet to make it
visible or has done so. -/
theorem Sound.publishes_or_errored (h : Sound attempts race) (hopen : race.shared.ended = false)
    {i : Nat} (hauthor : race.author = some i) : race.publishes i ∨ race.shared.errored = true := by
  obtain ⟨hsome, hstored⟩ := h.authored i hauthor
  obtain ⟨attempt, ha⟩ : ∃ attempt, attempts[i]? = some attempt := by
    rw [hstored] at hsome
    cases ha : attempts[i]? with
    | none => simp [ha] at hsome
    | some attempt => exact ⟨attempt, rfl⟩
  have hlt : i < race.stages.length := h.length ▸ (List.getElem?_eq_some_iff.1 ha).1
  have hstage : race.stages[i]? = some race.stages[i] := List.getElem?_eq_getElem hlt
  have hstands := h.stands i _ hstage
  have hanswered : ∀ answer, Answered race.shared race.author i answer →
      race.shared.errored = true := by
    intro answer hanswer
    cases answer with
    | none => exact absurd hauthor hanswer
    | some kept =>
      cases kept with
      | true => exact hanswer.2
      | false =>
        have hend := (hanswer.1 hauthor).2
        rw [hopen] at hend
        cases hend
  generalize race.stages[i] = stage at *
  cases stage with
  | check _ _ | store _ _ => exact absurd hauthor hstands
  | publish completes => exact .inl ⟨completes, hstage⟩
  | finish kept => exact .inr (hanswered _ hstands)
  | recorded kept => exact .inr (hanswered _ hstands)
  | completed kept completion => exact .inr (hanswered _ hstands.1)

/-- Once a call was answered about its error while the span is open, the error in the
cell is visible unless its author has yet to make it so. -/
theorem Sound.errored_iff (h : Sound attempts race) (hopen : race.shared.ended = false)
    (hanswered : ∃ j answer, race.answer? j = some answer) :
    race.shared.errored = true ↔ ¬ ∃ j, race.publishes j := by
  constructor
  · rintro hflag ⟨j, completes, hj⟩
    have hclear : race.shared.errored = false := (h.stands j _ hj).2
    rw [hflag] at hclear
    cases hclear
  · intro hnone
    obtain ⟨j, answer, hj⟩ := hanswered
    have hauthor : ∃ i, race.author = some i := by
      cases answer with
      | true => exact ⟨j, (h.answered hj).1⟩
      | false =>
        rcases (h.answered hj).2 with hsome | hend
        · exact Option.isSome_iff_exists.1 hsome
        · rw [hopen] at hend
          cases hend
    obtain ⟨i, hi⟩ := hauthor
    rcases h.publishes_or_errored hopen hi with hp | hflag
    · exact absurd ⟨i, hp⟩ hnone
    · exact hflag

/-- The call that is about to end an open span reports what the span shows. -/
theorem Sound.report?_finish {i : Nat} {kept : Option Bool}
    (hi : race.stages[i]? = some (.finish kept)) (hopen : race.shared.ended = false) :
    (race.step i).report? i = some race.shared.error? := by
  have hlt := (List.getElem?_eq_some_iff.1 hi).1
  rw [step_eq hi, report?, List.getElem?_set_self hlt]
  simp [Shared.step, hopen, Stage.report?]

/-- **When a completion reports an error.** Say that the next access ends the span, and
that a call was already answered about its error, kept or refused, or that the
completion brought an error of its own. Then the span is reported as failed, with
one exception, exactly if no call stands between filling the cell and making its
error visible; otherwise it is reported as successful. -/
theorem completion_reports_iff (attempts : List Attempt) (schedule later : List Nat)
    (span : Span) (now : Moment) {i : Nat} {kept : Option Bool}
    (hturn : ((start attempts).run schedule).stages[i]? = some (.finish kept))
    (hopen : ((start attempts).run schedule).shared.ended = false)
    (hanswered : (∃ j answer, ((start attempts).run schedule).answer? j = some answer) ∨
      ∃ fault, attempts[i]? = some (.completeWith fault)) :
    let race := (start attempts).run schedule
    let records := ((race.step i).run later).records span now
    ((¬ ∃ j, race.publishes j) ↔
      ∃ d e, records = [.dependency d, .exception e] ∧ d.success = false) ∧
    ((∃ j, race.publishes j) ↔ ∃ d, records = [.dependency d] ∧ d.success = true) := by
  intro race records
  have h : Sound attempts race := sound_run attempts schedule
  have hown : ∃ j answer, race.answer? j = some answer := by
    rcases hanswered with hanswered | ⟨fault, hfault⟩
    · exact hanswered
    · obtain ⟨attempt, ha, hfit⟩ := h.fits i _ hturn
      obtain rfl : .completeWith fault = attempt := Option.some.inj (hfault.symm.trans ha)
      obtain ⟨answer, rfl⟩ : ∃ answer, kept = some answer :=
        Option.isSome_iff_exists.1 (by simp [hfit.2, Attempt.fault?])
      exact ⟨i, answer, Option.bind_eq_some_iff.2 ⟨_, hturn, rfl⟩⟩
  have hreport := report?_run (Sound.report?_finish hturn hopen) later
  have hrecords : records = span.records race.shared.error? now :=
    ((h.step i).run later).records_eq hreport span now
  have hiff := h.errored_iff hopen hown
  have hlost : (∃ j, race.publishes j) ↔ ¬ race.shared.errored = true := by
    rw [hiff, Classical.not_not]
  obtain ⟨d, hd, -, hsuccess⟩ := span.records_eq race.shared.error? now
  rw [hrecords, ← hiff, hlost, ← h.isSome_error?, hd]
  cases herror : race.shared.error? <;> simp [hsuccess, herror]

/-- A call that records an error, and one that completes the span with another. -/
def recordAndComplete : List Attempt :=
  [.record (.root "first"), .completeWith (.causedBy (.root "cause") "second")]

/-- The first call fills the cell, and before it makes its error visible the second is
refused and ends the span: the completion has an error and reports success. -/
theorem completion_reports_success_of_unpublished :
    ((start recordAndComplete).run [0, 0, 1, 1]).stages[1]? = some (.finish (some false)) ∧
    ((start recordAndComplete).run [0, 0, 1, 1]).shared.ended = false ∧
    ((start recordAndComplete).run [0, 0, 1, 1]).answer? 1 = some false ∧
    ((start recordAndComplete).run [0, 0, 1, 1, 1, 0]).finished ∧
    ∀ span now, ∃ d, ((start recordAndComplete).run [0, 0, 1, 1, 1, 0]).records span now =
      [.dependency d] ∧ d.success = true := by
  refine ⟨by decide, by decide, by decide, by unfold finished; decide, ?_⟩
  intro span now
  have hturn : ((start recordAndComplete).run [0, 0, 1, 1]).stages[1]? =
      some (.finish (some false)) := by decide
  exact (completion_reports_iff recordAndComplete [0, 0, 1, 1] [0] span now hturn (by decide)
    (.inr ⟨.causedBy (.root "cause") "second", rfl⟩)).2.1 ⟨0, false, by decide⟩

/-- An error is not always reported that a call was already answered about. -/
theorem unpublished_error_is_lost :
    ¬ ∀ (attempts : List Attempt) (schedule later : List Nat) (i : Nat) (kept : Option Bool)
        (span : Span) (now : Moment),
      ((start attempts).run schedule).stages[i]? = some (.finish kept) →
      ((start attempts).run schedule).shared.ended = false →
      (∃ j answer, ((start attempts).run schedule).answer? j = some answer) →
      ∃ d e, ((((start attempts).run schedule).step i).run later).records span now =
        [.dependency d, .exception e] ∧ d.success = false := by
  intro h
  obtain ⟨d, e, hrecords, -⟩ := h recordAndComplete [0, 0, 1, 1] [0] 1 (some false)
    ⟨"a", "", 0, ⟨0, 0, by decide⟩, {}⟩ ⟨⟨0, 0, by decide⟩, 0⟩ (by decide) (by decide)
    ⟨1, false, by decide⟩
  have hone := congrArg List.length hrecords
  cases hone

end Race

end Instrumentation.Telemetry
