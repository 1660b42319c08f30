import Instrumentation.Proofs.Guard.Reached
import Instrumentation.Proofs.Guard.Running
/-
  Guards inside one another

  Every guard makes a level. What a level comes to is told from the leaves that are
  reached in it: a request to shut down passes through every guard; otherwise the level
  returns, with the first failure that no deeper guard is around if there is one.

  What is proved:
    1. `run_observed` — the leaves that a computation runs, written down as it runs
       them, are those that it reaches.
    2. `answers_run` — a value that is returned holds, for each guard in the computation,
       what its level comes to.
    3. `takesAny` — what is around a part that returns runs and returns the
       same, whatever the part is and whatever failures it contained.
    4. `levels_contain_failures` — all of it for every computation.
-/

namespace Instrumentation.Guard.Computation

variable {α : Type}

/-! ## A run that is written down -/

mutual

/-- Runs a computation at the end of a way and writes down each leaf that is run. -/
def observed (way : Way) : Computation α → Effect (List (Leaf α)) (Result α)
  | value a => do
    Effect.change (· ++ [⟨way, .value a⟩])
    return .value a
  | unwind payload => do
    Effect.change (· ++ [⟨way, .unwind payload⟩])
    Effect.ofOutcome (.unwound payload)
  | guarded body => do
    let result ← (body.observed (way ++ [.inside])).contained
    return .contained result
  | sequence bodies => do
    let results ← observedAll way 0 bodies
    return .list results

def observedAll (way : Way) (index : Nat) :
    List (Computation α) → Effect (List (Leaf α)) (List (Result α))
  | [] => pure []
  | body :: rest => do
    let result ← body.observed (way ++ [.item index])
    let results ← observedAll way (index + 1) rest
    return result :: results

end

theorem map_behind_behind (outer inner : Way) (leaves : List (Leaf α)) :
    (leaves.map (Leaf.behind inner)).map (Leaf.behind outer) =
      leaves.map (Leaf.behind (outer ++ inner)) := by
  rw [List.map_map]
  apply List.map_congr_left
  intro leaf _
  simp [Leaf.behind]

theorem map_behind_nil (leaves : List (Leaf α)) : leaves.map (.behind []) = leaves :=
  List.map_id leaves

mutual

/-- A run writes down the leaves that are reached, and comes to what it comes to. -/
theorem run_observed : (c : Computation α) → (way : Way) → (seen : List (Leaf α)) →
    (c.observed way).run seen = ⟨(c.run, seen ++ c.reached.map (.behind way)), []⟩
  | value a, way, seen => by
    have hleaf : (value a).reached.map (Leaf.behind way) = [⟨way, .value a⟩] := by
      simp [reached, leaves, reachedAfter, Leaf.behind]
    rw [hleaf, observed, run]
    rfl
  | unwind payload, way, seen => by
    have hleaf : (unwind payload : Computation α).reached.map (Leaf.behind way) =
        [⟨way, .unwind payload⟩] := by
      simp [reached, leaves, reachedAfter, Leaf.behind]
    rw [hleaf, observed, run]
    rfl
  | guarded body, way, seen => by
    have hbody := Effect.run_contained (run_observed body (way ++ [.inside]) seen)
    rw [observed, reached_guarded, map_behind_behind, run]
    cases hrun : body.run.contained with
    | returned result =>
      rw [hrun] at hbody
      exact Effect.run_bind_pure hbody _
    | unwound payload =>
      rw [hrun] at hbody
      exact Effect.run_bind_unwound hbody _
  | sequence bodies, way, seen => by
    have hall := run_observedAll 0 bodies way seen
    rw [observed, reached_sequence, run]
    cases hrun : runAll bodies with
    | returned results =>
      rw [hrun] at hall
      exact Effect.run_bind_pure hall _
    | unwound payload =>
      rw [hrun] at hall
      exact Effect.run_bind_unwound hall _

theorem run_observedAll : (index : Nat) → (bodies : List (Computation α)) → (way : Way) →
    (seen : List (Leaf α)) →
    (observedAll way index bodies).run seen =
      ⟨(runAll bodies, seen ++ (reachedAll index bodies).map (.behind way)), []⟩
  | _, [], way, seen => by
    rw [observedAll, runAll, Effect.run_pure]
    simp [reachedAll, leavesFrom, reachedAfter]
  | index, body :: rest, way, seen => by
    have hbody := run_observed body (way ++ [.item index]) seen
    rw [observedAll, runAll]
    cases hrun : body.run with
    | unwound payload =>
      rw [hrun] at hbody
      rw [reachedAll_of_unwound hrun, map_behind_behind]
      exact Effect.run_bind_unwound hbody _
    | returned result =>
      rw [hrun] at hbody
      have hrest := run_observedAll (index + 1) rest way
        (seen ++ body.reached.map (.behind (way ++ [.item index])))
      rw [reachedAll_of_returned hrun, List.map_append, map_behind_behind, ← List.append_assoc]
      cases hall : runAll rest with
      | unwound payload =>
        rw [hall] at hrest
        exact Effect.run_bind hbody (Effect.run_bind_unwound hrest _)
      | returned results =>
        rw [hall] at hrest
        exact Effect.run_bind hbody (Effect.run_bind_pure hrest _)

end

/-! ## What a level comes to -/

mutual

/-- A value is one that a computation may return: at each guard in it, it holds what the
level of that guard comes to. -/
inductive Answers : Computation α → Result α → Prop
  | value (a : α) : Answers (.value a) (.value a)
  | guarded {body : Computation α} {result : Except Recovered (Result α)}
      (h : LevelAnswers body result) : Answers (.guarded body) (.contained result)
  | sequence {bodies : List (Computation α)} {results : List (Result α)}
      (h : AllAnswer bodies results) : Answers (.sequence bodies) (.list results)

/-- Values are those that the items of a sequence may return. -/
inductive AllAnswer : List (Computation α) → List (Result α) → Prop
  | nil : AllAnswer [] []
  | cons {body : Computation α} {result : Result α} {rest : List (Computation α)}
      {results : List (Result α)} (h : Answers body result) (hrest : AllAnswer rest results) :
      AllAnswer (body :: rest) (result :: results)

/-- What the level of a guard comes to. Without a failure outside of deeper guards it is
the value of the body; otherwise the first such failure decides, by its text if it has
one. -/
inductive LevelAnswers : Computation α → Except Recovered (Result α) → Prop
  | returned {body : Computation α} {result : Result α} (hfirst : body.firstFailure? = none)
      (h : Answers body result) : LevelAnswers body (.ok result)
  | literal {body : Computation α} {message : String}
      (hfirst : body.firstFailure? = some (.literal message)) :
      LevelAnswers body (.error ⟨message⟩)
  | text {body : Computation α} {message : String}
      (hfirst : body.firstFailure? = some (.text message)) : LevelAnswers body (.error ⟨message⟩)
  | other {body : Computation α} (hfirst : body.firstFailure? = some .other) :
      LevelAnswers body (.error ⟨"non-string panic payload"⟩)

end

/-- Nothing is reached behind a leaf, nor stopped by what is reached in front of it. -/
def IsLast (c : Computation α) (leaf : Leaf α) : Prop :=
  ∃ front, c.reached = front ++ [leaf] ∧ ∀ earlier ∈ front, earlier.escapes = false

/-- Where a leaf stops everything, the computation ends as the leaf does. -/
theorem run_of_escapes {c : Computation α} {leaf : Leaf α} (hleaf : leaf ∈ c.reached)
    (h : leaf.escapes = true) :
    ∃ payload, c.run = .unwound payload ∧ leaf.act = .unwind payload ∧ IsLast c leaf := by
  have hends := ends_run c
  cases hrun : c.run with
  | returned value =>
    rw [hrun] at hends
    rw [hends leaf hleaf] at h
    cases h
  | unwound payload =>
    rw [hrun] at hends
    obtain ⟨front, last, hleaves, hact, -, hfront⟩ := hends
    rw [hleaves, List.mem_append] at hleaf
    rcases hleaf with hleaf | hleaf
    · rw [hfront leaf hleaf] at h
      cases h
    · obtain rfl := List.mem_singleton.1 hleaf
      exact ⟨payload, rfl, hact, front, hleaves, hfront⟩

/-- A computation ends with a request to shut down if it reaches one. -/
theorem run_eq_termination_iff {c : Computation α} :
    c.run = .unwound .termination ↔ ∃ leaf ∈ c.reached, leaf.terminates = true := by
  constructor
  · intro h
    have hends : Ends c.reached (.unwound .termination : Outcome (Result α)) := h ▸ ends_run c
    obtain ⟨front, last, hleaves, hact, -, -⟩ := hends
    refine ⟨last, hleaves ▸ List.mem_append_right _ List.mem_cons_self, ?_⟩
    simp [Leaf.terminates, hact]
  · rintro ⟨leaf, hleaf, hterminates⟩
    have hescapes : leaf.escapes = true := by rw [Leaf.escapes, hterminates, Bool.true_or]
    obtain ⟨payload, hrun, hact, -⟩ := run_of_escapes hleaf hescapes
    rw [Leaf.terminates, hact] at hterminates
    rw [hrun, eq_of_beq hterminates]

theorem firstFailure?_of_returned {c : Computation α} {value : Result α}
    (h : c.run = .returned value) : c.firstFailure? = none := by
  have hends : Ends c.reached (.returned value) := h ▸ ends_run c
  rw [firstFailure?, List.findSome?_eq_none_iff]
  intro leaf hleaf
  simpa using (Bool.or_eq_false_iff.1 (hends leaf hleaf)).2

theorem firstFailure?_of_unwound {c : Computation α} {payload : Payload}
    (h : c.run = .unwound payload) (hp : payload ≠ .termination) :
    c.firstFailure? = some payload := by
  have hends : Ends c.reached (.unwound payload : Outcome (Result α)) := h ▸ ends_run c
  obtain ⟨front, last, hleaves, hact, hlast, hfront⟩ := hends
  have hnone : front.findSome? Leaf.failure? = none := by
    rw [List.findSome?_eq_none_iff]
    intro leaf hleaf
    simpa using (Bool.or_eq_false_iff.1 (hfront leaf hleaf)).2
  have hfailure : last.failure? = some payload := by
    unfold Leaf.escapes Leaf.terminates Leaf.failure? at hlast
    unfold Leaf.failure?
    have hlevel : last.way.level = [] := by simpa [hact, hp] using hlast
    simp [hact, hp, hlevel]
  rw [firstFailure?, hleaves, List.findSome?_append, hnone, List.findSome?_singleton, hfailure]
  rfl

/-- A level whose body does not ask to shut down comes to an answer. -/
theorem exists_levelAnswers {body : Computation α}
    (hbody : ∀ result, body.run = .returned result → Answers body result)
    (h : body.run ≠ .unwound .termination) :
    ∃ result, body.run.contained = .returned result ∧ LevelAnswers body result := by
  cases hrun : body.run with
  | returned value => exact ⟨_, rfl, .returned (firstFailure?_of_returned hrun) (hbody value hrun)⟩
  | unwound payload =>
    cases payload with
    | literal message => exact ⟨_, rfl, .literal (firstFailure?_of_unwound hrun nofun)⟩
    | text message => exact ⟨_, rfl, .text (firstFailure?_of_unwound hrun nofun)⟩
    | other => exact ⟨_, rfl, .other (firstFailure?_of_unwound hrun nofun)⟩
    | termination => exact absurd hrun h

mutual

theorem answers_run : (c : Computation α) → (result : Result α) → c.run = .returned result →
    Answers c result
  | value a, result, h => by
    rw [run] at h
    obtain rfl := Outcome.returned.inj h
    exact .value a
  | unwind payload, result, h => by
    rw [run] at h
    cases h
  | guarded body, result, h => by
    rw [run] at h
    have hbody : body.run ≠ .unwound .termination := by
      intro hterminates
      rw [hterminates] at h
      cases h
    obtain ⟨answer, hanswer, hlevel⟩ := exists_levelAnswers (answers_run body) hbody
    rw [hanswer] at h
    obtain rfl := Outcome.returned.inj h
    exact .guarded hlevel
  | sequence bodies, result, h => by
    rw [run] at h
    cases hrun : runAll bodies with
    | unwound payload =>
      rw [hrun] at h
      cases h
    | returned results =>
      rw [hrun] at h
      obtain rfl := Outcome.returned.inj h
      exact .sequence (allAnswer_runAll bodies results hrun)

theorem allAnswer_runAll : (bodies : List (Computation α)) → (results : List (Result α)) →
    runAll bodies = .returned results → AllAnswer bodies results
  | [], results, h => by
    rw [runAll] at h
    obtain rfl := Outcome.returned.inj h
    exact .nil
  | body :: rest, results, h => by
    rw [runAll] at h
    cases hrun : body.run with
    | unwound payload =>
      rw [hrun] at h
      cases h
    | returned result =>
      rw [hrun] at h
      cases hall : runAll rest with
      | unwound payload =>
        rw [hall] at h
        cases h
      | returned more =>
        rw [hall] at h
        obtain rfl := Outcome.returned.inj h
        exact .cons (answers_run body result hrun) (allAnswer_runAll rest more hall)

end

/-! ## What is around a part -/

theorem run_guarded (body : Computation α) :
    (guarded body).run =
      body.run.contained.andThen fun result => .returned (.contained result) := by
  rw [run]
  cases body.run.contained <;> rfl

theorem run_sequence (bodies : List (Computation α)) :
    (sequence bodies).run = (runAll bodies).andThen fun results => .returned (.list results) := by
  rw [run]
  cases runAll bodies <;> rfl

theorem runAll_cons (body : Computation α) (rest : List (Computation α)) :
    runAll (body :: rest) = body.run.andThen fun result =>
      (runAll rest).andThen fun results => .returned (result :: results) := by
  rw [runAll]
  cases body.run <;> cases runAll rest <;> rfl

/-- What is around a part of a computation. -/
inductive Around (α : Type) where
  | here
  | inside (around : Around α)
  | item (before : List (Computation α)) (around : Around α) (after : List (Computation α))

namespace Around

def fill : Around α → Computation α → Computation α
  | here, part => part
  | inside around, part => .guarded (around.fill part)
  | item before around after, part => .sequence (before ++ around.fill part :: after)

def way : Around α → Way
  | here => []
  | inside around => .inside :: around.way
  | item before around _ => .item before.length :: around.way

end Around

/-- A place in a result for the result of a part. -/
inductive Spot (α : Type) where
  | here
  | contained (spot : Spot α)
  | item (before : List (Result α)) (spot : Spot α) (after : List (Result α))

def Spot.fill : Spot α → Result α → Result α
  | here, result => result
  | contained spot, result => .contained (.ok (spot.fill result))
  | item before spot after, result => .list (before ++ spot.fill result :: after)

/-- What is around a part makes nothing of what the part returns. Either it comes to the
same end whatever the part returns, or it returns a result with that of the part in one
place. And the leaves that are reached around the part are the same whatever the part
is. -/
structure TakesAny (around : Around α) : Prop where
  outcome : (∃ outcome, ∀ part result, part.run = .returned result →
      (around.fill part).run = outcome) ∨
    ∃ spot : Spot α, ∀ part result, part.run = .returned result →
      (around.fill part).run = .returned (spot.fill result)
  reached : (∃ leaves, ∀ part result, part.run = .returned result →
      (around.fill part).reached = leaves) ∨
    ∃ front back, ∀ part result, part.run = .returned result →
      (around.fill part).reached = front ++ part.reached.map (.behind around.way) ++ back

theorem TakesAny.here : TakesAny (.here : Around α) where
  outcome := .inr ⟨.here, fun _ _ h => h⟩
  reached := by
    refine .inr ⟨[], [], ?_⟩
    intro part _ _
    rw [Around.way, map_behind_nil, List.nil_append, List.append_nil]
    rfl

theorem TakesAny.inside {around : Around α} (h : TakesAny around) :
    TakesAny around.inside where
  outcome := by
    rcases h.outcome with ⟨outcome, hend⟩ | ⟨spot, hspot⟩
    · refine .inl ⟨outcome.contained.andThen fun result => .returned (.contained result), ?_⟩
      intro part result hpart
      rw [Around.fill, run_guarded, hend part result hpart]
    · refine .inr ⟨.contained spot, ?_⟩
      intro part result hpart
      rw [Around.fill, run_guarded, hspot part result hpart]
      rfl
  reached := by
    rcases h.reached with ⟨leaves, hend⟩ | ⟨front, back, hmid⟩
    · refine .inl ⟨leaves.map (.behind [.inside]), ?_⟩
      intro part result hpart
      rw [Around.fill, reached_guarded, hend part result hpart]
    · refine .inr ⟨front.map (.behind [.inside]), back.map (.behind [.inside]), ?_⟩
      intro part result hpart
      rw [Around.fill, reached_guarded, hmid part result hpart, List.map_append, List.map_append,
        map_behind_behind]
      rfl

variable {around : Around α}

theorem outcome_item (h : TakesAny around) (before after : List (Computation α)) :
    (∃ outcome, ∀ part result, part.run = .returned result →
      runAll (before ++ around.fill part :: after) = outcome) ∨
    ∃ front spot back, ∀ part result, part.run = .returned result →
      runAll (before ++ around.fill part :: after) =
        .returned (front ++ Spot.fill spot result :: back) := by
  induction before with
  | nil =>
    rcases h.outcome with ⟨outcome, hend⟩ | ⟨spot, hspot⟩
    · refine .inl ⟨outcome.andThen fun result =>
        (runAll after).andThen fun results => .returned (result :: results), ?_⟩
      intro part result hpart
      rw [List.nil_append, runAll_cons, hend part result hpart]
    · cases hafter : runAll after with
      | unwound payload =>
        refine .inl ⟨.unwound payload, ?_⟩
        intro part result hpart
        rw [List.nil_append, runAll_cons, hspot part result hpart, hafter]
        rfl
      | returned results =>
        refine .inr ⟨[], spot, results, ?_⟩
        intro part result hpart
        rw [List.nil_append, runAll_cons, hspot part result hpart, hafter]
        rfl
  | cons body before ih =>
    cases hbody : body.run with
    | unwound payload =>
      refine .inl ⟨.unwound payload, ?_⟩
      intro part result hpart
      rw [List.cons_append, runAll_cons, hbody]
      rfl
    | returned first =>
      rcases ih with ⟨outcome, hend⟩ | ⟨front, spot, back, hspot⟩
      · refine .inl ⟨outcome.andThen fun results => .returned (first :: results), ?_⟩
        intro part result hpart
        rw [List.cons_append, runAll_cons, hbody, hend part result hpart]
        rfl
      · refine .inr ⟨first :: front, spot, back, ?_⟩
        intro part result hpart
        rw [List.cons_append, runAll_cons, hbody, hspot part result hpart]
        rfl

/-- A sequence goes on behind the part, or stops there, whatever the part is. -/
theorem exists_reached_behind (h : TakesAny around) (index : Nat) (after : List (Computation α)) :
    ∃ back, ∀ part result, part.run = .returned result →
      reachedAll index (around.fill part :: after) =
        (around.fill part).reached.map (.behind [.item index]) ++ back := by
  rcases h.outcome with ⟨outcome, hend⟩ | ⟨spot, hspot⟩
  · cases outcome with
    | unwound payload =>
      refine ⟨[], ?_⟩
      intro part result hpart
      rw [reachedAll_of_unwound (hend part result hpart), List.append_nil]
    | returned value =>
      refine ⟨reachedAll (index + 1) after, ?_⟩
      intro part result hpart
      rw [reachedAll_of_returned (hend part result hpart)]
  · refine ⟨reachedAll (index + 1) after, ?_⟩
    intro part result hpart
    rw [reachedAll_of_returned (hspot part result hpart)]

theorem reached_item (h : TakesAny around) (index : Nat) (before after : List (Computation α)) :
    (∃ leaves, ∀ part result, part.run = .returned result →
      reachedAll index (before ++ around.fill part :: after) = leaves) ∨
    ∃ front back, ∀ part result, part.run = .returned result →
      reachedAll index (before ++ around.fill part :: after) =
        front ++ part.reached.map (.behind (.item (index + before.length) :: around.way)) ++
          back := by
  induction before generalizing index with
  | nil =>
    obtain ⟨back, hback⟩ := exists_reached_behind h index after
    rcases h.reached with ⟨leaves, hend⟩ | ⟨front, rest, hmid⟩
    · refine .inl ⟨leaves.map (.behind [.item index]) ++ back, ?_⟩
      intro part result hpart
      rw [List.nil_append, hback part result hpart, hend part result hpart]
    · refine .inr ⟨front.map (.behind [.item index]),
        rest.map (.behind [.item index]) ++ back, ?_⟩
      intro part result hpart
      rw [List.nil_append, hback part result hpart, hmid part result hpart, List.map_append,
        List.map_append, map_behind_behind, List.append_assoc, List.append_assoc,
        List.append_assoc]
      rfl
  | cons body before ih =>
    cases hbody : body.run with
    | unwound payload =>
      refine .inl ⟨body.reached.map (.behind [.item index]), ?_⟩
      intro part result hpart
      rw [List.cons_append, reachedAll_of_unwound hbody]
    | returned first =>
      rcases ih (index + 1) with ⟨leaves, hend⟩ | ⟨front, back, hmid⟩
      · refine .inl ⟨body.reached.map (.behind [.item index]) ++ leaves, ?_⟩
        intro part result hpart
        rw [List.cons_append, reachedAll_of_returned hbody, hend part result hpart]
      · refine .inr ⟨body.reached.map (.behind [.item index]) ++ front, back, ?_⟩
        intro part result hpart
        rw [List.cons_append, reachedAll_of_returned hbody, hmid part result hpart,
          List.length_cons, Nat.add_right_comm, Nat.add_assoc]
        simp only [List.append_assoc]

theorem TakesAny.item (h : TakesAny around) (before after : List (Computation α)) :
    TakesAny (.item before around after) where
  outcome := by
    rcases outcome_item h before after with ⟨outcome, hend⟩ | ⟨front, spot, back, hspot⟩
    · refine .inl ⟨outcome.andThen fun results => .returned (.list results), ?_⟩
      intro part result hpart
      rw [Around.fill, run_sequence, hend part result hpart]
    · refine .inr ⟨.item front spot back, ?_⟩
      intro part result hpart
      rw [Around.fill, run_sequence, hspot part result hpart]
      rfl
  reached := by
    rcases reached_item h 0 before after with ⟨leaves, hend⟩ | ⟨front, back, hmid⟩
    · refine .inl ⟨leaves, ?_⟩
      intro part result hpart
      rw [Around.fill, reached_sequence, hend part result hpart]
    · refine .inr ⟨front, back, ?_⟩
      intro part result hpart
      rw [Around.fill, reached_sequence, hmid part result hpart, Nat.zero_add]
      rfl

/-- Whatever is around a part takes any part that returns. -/
theorem takesAny (around : Around α) : TakesAny around := by
  induction around with
  | here => exact .here
  | inside around ih => exact ih.inside
  | item before around after ih => exact ih.item before after

/-! ## Two kinds of failure -/

/-- What guards make of failures, for every computation. A run runs the leaves that are
reached and no others. If a request to shut down is reached, at any depth, it leaves all
guards as it came, and it is the last that is reached. If none is reached, a guard around
the computation returns what its level comes to, and the first failure outside of deeper
guards is the last that is reached. And what is around a part of a computation runs and
returns the same for every part that returns, so also for one whose guard contained a
failure. -/
theorem levels_contain_failures (c : Computation α) :
    (∀ way seen, (c.observed way).run seen =
      ⟨(c.run, seen ++ c.reached.map (.behind way)), []⟩) ∧
    (∀ leaf ∈ c.reached, leaf.terminates = true →
      c.run = .unwound .termination ∧ c.runGuarded = .unwound .termination ∧ IsLast c leaf) ∧
    ((∀ leaf ∈ c.reached, leaf.terminates = false) →
      ∃ result, c.runGuarded = .returned result ∧ LevelAnswers c result ∧
        (guarded c).run = .returned (.contained result) ∧
        ∀ leaf ∈ c.reached, leaf.failure?.isSome = true → IsLast c leaf) ∧
    ∀ around : Around α, TakesAny around := by
  refine ⟨run_observed c, ?_, ?_, takesAny⟩
  · intro leaf hleaf hterminates
    have hescapes : leaf.escapes = true := by rw [Leaf.escapes, hterminates, Bool.true_or]
    have hrun := run_eq_termination_iff.2 ⟨leaf, hleaf, hterminates⟩
    obtain ⟨-, -, -, hlast⟩ := run_of_escapes hleaf hescapes
    refine ⟨hrun, ?_, hlast⟩
    rw [runGuarded, hrun]
    rfl
  · intro hnone
    have hrun : c.run ≠ .unwound .termination := by
      intro hrun
      obtain ⟨leaf, hleaf, hterminates⟩ := run_eq_termination_iff.1 hrun
      rw [hnone leaf hleaf] at hterminates
      cases hterminates
    obtain ⟨result, hresult, hanswers⟩ := exists_levelAnswers (answers_run c) hrun
    refine ⟨result, hresult, hanswers, ?_, ?_⟩
    · rw [run_guarded, hresult]
      rfl
    · intro leaf hleaf hfailure
      have hescapes : leaf.escapes = true := by rw [Leaf.escapes, hfailure, Bool.or_true]
      obtain ⟨-, -, -, hlast⟩ := run_of_escapes hleaf hescapes
      exact hlast

/-- Two guards in a sequence, with a failure in each, and a failure behind them that keeps
the last item from being run. -/
def failing : Computation Nat :=
  .sequence
    [.guarded (.sequence [.value 1, .unwind (.literal "inner"), .value 2]),
     .guarded (.guarded (.unwind .other)), .unwind (.text "outer"), .value 3]

/-- A request to shut down two guards deep. -/
def stopping : Computation Nat :=
  .sequence [.guarded (.sequence [.guarded (.unwind .termination), .value 1]), .value 2]

/-- The failures in the inner levels are contained there, and the outer level comes to the
failure behind them; the request to shut down is contained nowhere. -/
theorem levels_contain_failures_of_nested :
    ((∀ leaf ∈ failing.reached, leaf.terminates = false) ∧
      failing.reached.map (·.act) = [.value 1, .unwind (.literal "inner"), .unwind .other,
        .unwind (.text "outer")] ∧
      ∃ result, failing.runGuarded = .returned result ∧ LevelAnswers failing result) ∧
    ⟨[.item 0, .inside, .item 0, .inside], .unwind .termination⟩ ∈ stopping.reached ∧
    stopping.runGuarded = .unwound .termination := by
  have hnone : ∀ leaf ∈ failing.reached, leaf.terminates = false := by decide
  have hstop : ⟨[.item 0, .inside, .item 0, .inside], .unwind .termination⟩ ∈
      stopping.reached := by
    decide
  obtain ⟨-, -, hlevel, -⟩ := levels_contain_failures failing
  obtain ⟨result, hresult, hanswers, -⟩ := hlevel hnone
  obtain ⟨-, hterminates, -⟩ := levels_contain_failures stopping
  exact ⟨⟨hnone, by decide, result, hresult, hanswers⟩, hstop, (hterminates _ hstop rfl).2.1⟩

end Instrumentation.Guard.Computation
