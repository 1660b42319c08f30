import Instrumentation.Guard
/-
  What a computation reaches

  A computation is written down leaf by leaf, in the order in which it is run: each leaf
  returns a value or unwinds, and the way to it says which guards are around it. Which
  leaves are reached is then told from this list alone. A request to shut down stops all
  that comes behind it. Any other failure stops what comes behind it within the innermost
  guard around it, and nothing outside of that guard.

  What is proved:
    1. `reachedAfter_append`, `reachedAfter_behind` — the leaves of a part of a
       computation are told apart as if the part stood alone.
    2. `reached_guarded`, `reachedAll_cons` — so the leaves that a computation reaches are
       put together from those of its parts.
    3. `ends_run` — a computation unwinds if the last leaf that it reaches stops all that
       could come behind it, and returns if none does.
-/

namespace Instrumentation.Guard

/-- One step on the way to a part of a computation: into a guard, or to one of a
sequence. -/
inductive WayStep where
  | inside
  | item (index : Nat)
  deriving DecidableEq, Repr

abbrev Way := List WayStep

/-- The way to the innermost guard that a way leads into, or no way if there is none. -/
def Way.level : Way → Way
  | [] => []
  | step :: rest => if WayStep.inside ∈ step :: rest then step :: level rest else []

inductive Act (α : Type) where
  | value (a : α)
  | unwind (payload : Payload)
  deriving DecidableEq, Repr

structure Leaf (α : Type) where
  way : Way
  act : Act α
  deriving DecidableEq, Repr

namespace Leaf

variable {α : Type}

/-- The leaf at the end of one more way. -/
def behind (way : Way) (leaf : Leaf α) : Leaf α := { leaf with way := way ++ leaf.way }

/-- Whether a leaf keeps a later one from being reached. -/
def stops (leaf later : Leaf α) : Bool :=
  match leaf.act with
  | .value _ => false
  | .unwind payload => payload == .termination || leaf.way.level.isPrefixOf later.way

def terminates (leaf : Leaf α) : Bool :=
  match leaf.act with
  | .value _ => false
  | .unwind payload => payload == .termination

/-- The failure of a leaf that no guard is around, unless it asks to shut down. -/
def failure? (leaf : Leaf α) : Option Payload :=
  match leaf.act with
  | .value _ => none
  | .unwind payload =>
    if payload ≠ .termination ∧ leaf.way.level = [] then some payload else none

end Leaf

namespace Computation

variable {α : Type}

mutual

/-- The leaves of a computation, in the order in which they are run. -/
def leaves : Computation α → List (Leaf α)
  | value a => [⟨[], .value a⟩]
  | unwind payload => [⟨[], .unwind payload⟩]
  | guarded body => body.leaves.map (.behind [.inside])
  | sequence bodies => leavesFrom 0 bodies

/-- The leaves of a sequence, the first of which has the given number. -/
def leavesFrom (index : Nat) : List (Computation α) → List (Leaf α)
  | [] => []
  | body :: rest => body.leaves.map (.behind [.item index]) ++ leavesFrom (index + 1) rest

end

/-- The leaves that are reached when those in `before` were: every one that none of those
reached before it stops. -/
def reachedAfter (before : List (Leaf α)) : List (Leaf α) → List (Leaf α)
  | [] => []
  | leaf :: rest =>
    if before.any (·.stops leaf) then reachedAfter before rest
    else leaf :: reachedAfter (before ++ [leaf]) rest

def reached (c : Computation α) : List (Leaf α) := reachedAfter [] c.leaves

def reachedAll (index : Nat) (bodies : List (Computation α)) : List (Leaf α) :=
  reachedAfter [] (leavesFrom index bodies)

/-- The first failure that is reached outside of all guards in a computation. -/
def firstFailure? (c : Computation α) : Option Payload := c.reached.findSome? Leaf.failure?

end Computation

theorem Payload.exists_recovered {payload : Payload} (h : payload ≠ .termination) :
    ∃ recovered, payload.recovered? = some recovered := by
  cases payload with
  | literal _ | text _ | other => exact ⟨_, rfl⟩
  | termination => exact absurd rfl h

/-! ## Levels -/

namespace Way

theorem level_inside (way : Way) : level (.inside :: way) = .inside :: level way := by
  rw [level, if_pos List.mem_cons_self]

theorem level_eq_nil {way : Way} : level way = [] ↔ WayStep.inside ∉ way := by
  cases way with
  | nil => simp [level]
  | cons step rest =>
    rw [level]
    by_cases h : WayStep.inside ∈ step :: rest
    · rw [if_pos h]
      exact ⟨fun h => (List.cons_ne_nil _ _ h).elim, fun hn => (hn h).elim⟩
    · rw [if_neg h]
      exact ⟨fun _ => h, fun _ => rfl⟩

theorem level_item (index : Nat) (way : Way) :
    level (.item index :: way) = if WayStep.inside ∈ way then .item index :: level way else [] := by
  rw [level]
  simp

end Way

namespace Leaf

variable {α : Type}

/-- Whether a leaf stops all that could come behind it. -/
def escapes (leaf : Leaf α) : Bool := leaf.terminates || leaf.failure?.isSome

theorem stops_of_escapes {leaf : Leaf α} (h : leaf.escapes = true) (later : Leaf α) :
    leaf.stops later = true := by
  unfold escapes terminates failure? at h
  unfold stops
  cases hact : leaf.act with
  | value a => simp [hact] at h
  | unwind payload =>
    by_cases hp : payload = .termination
    · simp [hp]
    · have hlevel : leaf.way.level = [] := by simpa [hact, hp] using h
      simp [hlevel]

theorem stops_behind (step : WayStep) (leaf later : Leaf α) :
    (leaf.behind [step]).stops (later.behind [step]) = leaf.stops later := by
  unfold stops behind
  cases leaf.act with
  | value a => rfl
  | unwind payload =>
    cases step with
    | inside => simp [Way.level_inside]
    | item index =>
      by_cases h : WayStep.inside ∈ leaf.way
      · simp [Way.level_item, h]
      · simp [Way.level_item, h, Way.level_eq_nil.2 h]

theorem terminates_behind (way : Way) (leaf : Leaf α) :
    (leaf.behind way).terminates = leaf.terminates := rfl

theorem failure?_behind_inside (leaf : Leaf α) : (leaf.behind [.inside]).failure? = none := by
  unfold failure? behind
  cases leaf.act <;> simp [Way.level_inside]

theorem failure?_behind_item (index : Nat) (leaf : Leaf α) :
    (leaf.behind [.item index]).failure? = leaf.failure? := by
  unfold failure? behind
  cases leaf.act <;> simp [Way.level_eq_nil]

theorem escapes_behind_item (index : Nat) (leaf : Leaf α) :
    (leaf.behind [.item index]).escapes = leaf.escapes := by
  rw [escapes, failure?_behind_item]
  rfl

theorem escapes_behind_inside (leaf : Leaf α) :
    (leaf.behind [.inside]).escapes = leaf.terminates := by
  rw [escapes, failure?_behind_inside]
  simp [terminates_behind]

/-- What stops an item of a sequence from another one stops everything. -/
theorem stops_other_item {index other : Nat} (hne : index ≠ other) (leaf later : Leaf α) :
    (leaf.behind [.item index]).stops (later.behind [.item other]) = leaf.escapes := by
  unfold stops escapes terminates failure? behind
  cases leaf.act with
  | value a => rfl
  | unwind payload =>
    by_cases hp : payload = .termination
    · simp [hp]
    · by_cases h : WayStep.inside ∈ leaf.way
      · simp [Way.level_item, h, List.isPrefixOf, hp, hne, Way.level_eq_nil]
      · simp [Way.level_item, h, hp, Way.level_eq_nil]

end Leaf

/-! ## The leaves of the parts of a computation -/

namespace Computation

variable {α : Type}

theorem reachedAfter_append (before leaves more : List (Leaf α)) :
    reachedAfter before (leaves ++ more) =
      reachedAfter before leaves ++ reachedAfter (before ++ reachedAfter before leaves) more := by
  induction leaves generalizing before with
  | nil => simp [reachedAfter]
  | cons leaf rest ih =>
    rw [List.cons_append, reachedAfter, reachedAfter]
    split
    · exact ih before
    · rw [ih, List.cons_append, List.append_assoc, List.singleton_append]

/-- One way in front of all leaves makes no difference. -/
theorem reachedAfter_behind (step : WayStep) (before leaves : List (Leaf α)) :
    reachedAfter (before.map (.behind [step])) (leaves.map (.behind [step])) =
      (reachedAfter before leaves).map (.behind [step]) := by
  induction leaves generalizing before with
  | nil => rfl
  | cons leaf rest ih =>
    have hstops : (before.map (Leaf.behind [step])).any (·.stops (leaf.behind [step])) =
        before.any (·.stops leaf) := by
      rw [List.any_map]
      congr 1
      funext earlier
      exact Leaf.stops_behind step earlier leaf
    rw [List.map_cons, reachedAfter, reachedAfter, hstops]
    split
    · exact ih before
    · rw [List.map_cons, ← ih, List.map_append]
      rfl

/-- Behind a leaf that stops everything nothing is reached. -/
theorem reachedAfter_of_escapes {before : List (Leaf α)} (h : ∃ leaf ∈ before, leaf.escapes = true)
    (leaves : List (Leaf α)) : reachedAfter before leaves = [] := by
  induction leaves with
  | nil => rfl
  | cons leaf rest ih =>
    obtain ⟨earlier, hmem, hescapes⟩ := h
    rw [reachedAfter,
      if_pos (List.any_eq_true.2 ⟨earlier, hmem, Leaf.stops_of_escapes hescapes leaf⟩),
      ih]

/-- What stops nothing of some leaves makes no difference to them. -/
theorem reachedAfter_of_apart {apart : List (Leaf α)} {leaves : List (Leaf α)}
    (h : ∀ leaf ∈ leaves, ∀ earlier ∈ apart, earlier.stops leaf = false)
    (before : List (Leaf α)) :
    reachedAfter (apart ++ before) leaves = reachedAfter before leaves := by
  induction leaves generalizing before with
  | nil => rfl
  | cons leaf rest ih =>
    have hhead : apart.any (·.stops leaf) = false := by
      rw [List.any_eq_false]
      intro earlier hmem
      simp [h leaf List.mem_cons_self earlier hmem]
    have hrest := fun later hlater => h later (List.mem_cons_of_mem _ hlater)
    rw [reachedAfter, reachedAfter, List.any_append, hhead, Bool.false_or, ih hrest,
      List.append_assoc, ih hrest]

theorem reached_guarded (body : Computation α) :
    (guarded body).reached = body.reached.map (.behind [.inside]) := by
  rw [reached, leaves]
  exact reachedAfter_behind .inside [] body.leaves

theorem exists_item_of_mem {index : Nat} {bodies : List (Computation α)} {leaf : Leaf α}
    (h : leaf ∈ leavesFrom index bodies) :
    ∃ other inner, index ≤ other ∧ leaf = Leaf.behind [.item other] inner := by
  induction bodies generalizing index with
  | nil => simp [leavesFrom] at h
  | cons body rest ih =>
    rw [leavesFrom, List.mem_append] at h
    rcases h with h | h
    · obtain ⟨inner, -, rfl⟩ := List.mem_map.1 h
      exact ⟨index, inner, Nat.le_refl _, rfl⟩
    · obtain ⟨other, inner, hle, rfl⟩ := ih h
      exact ⟨other, inner, Nat.le_of_succ_le hle, rfl⟩

/-- A sequence goes on behind its first item unless that reaches what stops everything. -/
theorem reachedAll_cons (index : Nat) (body : Computation α) (rest : List (Computation α)) :
    reachedAll index (body :: rest) =
      body.reached.map (.behind [.item index]) ++
        if body.reached.any Leaf.escapes then [] else reachedAll (index + 1) rest := by
  have hbody : reachedAfter [] (body.leaves.map (.behind [.item index])) =
      body.reached.map (.behind [.item index]) :=
    reachedAfter_behind (.item index) [] body.leaves
  rw [reachedAll, leavesFrom, reachedAfter_append, List.nil_append, hbody]
  congr 1
  split
  · next h =>
    apply reachedAfter_of_escapes
    obtain ⟨leaf, hmem, hescapes⟩ := List.any_eq_true.1 h
    exact ⟨_, List.mem_map_of_mem hmem, (Leaf.escapes_behind_item index leaf).trans hescapes⟩
  · next h =>
    have hapart : ∀ later ∈ leavesFrom (index + 1) rest,
        ∀ earlier ∈ body.reached.map (Leaf.behind [.item index]), earlier.stops later = false := by
      intro later hlater earlier hearlier
      obtain ⟨other, inner, hle, rfl⟩ := exists_item_of_mem hlater
      obtain ⟨leaf, hmem, rfl⟩ := List.mem_map.1 hearlier
      rw [Leaf.stops_other_item (Nat.ne_of_lt hle)]
      simpa using List.any_eq_false.1 (Bool.eq_false_iff.2 h) leaf hmem
    have hrest := reachedAfter_of_apart hapart []
    rwa [List.append_nil] at hrest

/-! ## How a computation ends -/

/-- The end of a run as the leaves that it reached tell it. -/
def Ends {β : Type} (leaves : List (Leaf α)) : Outcome β → Prop
  | .returned _ => ∀ leaf ∈ leaves, leaf.escapes = false
  | .unwound payload => ∃ front last, leaves = front ++ [last] ∧ last.act = .unwind payload ∧
      last.escapes = true ∧ ∀ leaf ∈ front, leaf.escapes = false

theorem Ends.any_of_returned {β : Type} {leaves : List (Leaf α)} {value : β}
    (h : Ends leaves (.returned value)) : leaves.any Leaf.escapes = false := by
  rw [List.any_eq_false]
  intro leaf hleaf
  simp [h leaf hleaf]

theorem Ends.any_of_unwound {β : Type} {leaves : List (Leaf α)} {payload : Payload}
    (h : Ends leaves (.unwound payload : Outcome β)) : leaves.any Leaf.escapes = true := by
  obtain ⟨front, last, rfl, -, hlast, -⟩ := h
  rw [List.any_eq_true]
  exact ⟨last, List.mem_append_right _ List.mem_cons_self, hlast⟩

theorem reached_sequence (bodies : List (Computation α)) :
    (sequence bodies).reached = reachedAll 0 bodies := by
  rw [reached, leaves, reachedAll]

/-- A guard lets only a request to shut down pass. -/
theorem Ends.guarded {body : Computation α} (h : Ends body.reached body.run) :
    Ends (guarded body).reached (guarded body).run := by
  rw [reached_guarded, run]
  cases hrun : body.run with
  | returned value =>
    rw [hrun] at h
    intro leaf hleaf
    obtain ⟨inner, hinner, rfl⟩ := List.mem_map.1 hleaf
    rw [Leaf.escapes_behind_inside]
    exact (Bool.or_eq_false_iff.1 (h inner hinner)).1
  | unwound payload =>
    rw [hrun] at h
    obtain ⟨front, last, hleaves, hact, hlast, hfront⟩ := h
    have hfront' : ∀ leaf ∈ front.map (Leaf.behind [.inside]), leaf.escapes = false := by
      intro leaf hleaf
      obtain ⟨inner, hinner, rfl⟩ := List.mem_map.1 hleaf
      rw [Leaf.escapes_behind_inside]
      exact (Bool.or_eq_false_iff.1 (hfront inner hinner)).1
    have hlast' : (last.behind [.inside]).escapes = (payload == .termination) := by
      rw [Leaf.escapes_behind_inside, Leaf.terminates, hact]
    have hmap : body.reached.map (Leaf.behind [.inside]) =
        front.map (Leaf.behind [.inside]) ++ [last.behind [.inside]] := by
      rw [hleaves, List.map_append]
      rfl
    rw [hmap]
    by_cases hp : payload = .termination
    · subst hp
      exact ⟨_, _, rfl, hact, hlast', hfront'⟩
    · obtain ⟨recovered, hrecovered⟩ := Payload.exists_recovered hp
      simp only [Outcome.contained, hrecovered]
      intro leaf hleaf
      rcases List.mem_append.1 hleaf with hleaf | hleaf
      · exact hfront' leaf hleaf
      · rw [List.mem_singleton.1 hleaf, hlast']
        simpa using hp

/-- A sequence ends where its first item unwinds, and else as the rest of it does. -/
theorem Ends.cons {body : Computation α} {rest : List (Computation α)} {index : Nat}
    (hbody : Ends body.reached body.run)
    (hrest : Ends (reachedAll (index + 1) rest) (runAll rest)) :
    Ends (reachedAll index (body :: rest)) (runAll (body :: rest)) := by
  have hitem : ∀ leaves : List (Leaf α), (∀ leaf ∈ leaves, leaf.escapes = false) →
      ∀ leaf ∈ leaves.map (Leaf.behind [.item index]), leaf.escapes = false := by
    intro leaves hleaves leaf hleaf
    obtain ⟨inner, hinner, rfl⟩ := List.mem_map.1 hleaf
    exact (Leaf.escapes_behind_item index inner).trans (hleaves inner hinner)
  rw [reachedAll_cons, runAll]
  cases hrun : body.run with
  | unwound payload =>
    rw [hrun] at hbody
    rw [if_pos hbody.any_of_unwound, List.append_nil]
    obtain ⟨front, last, hleaves, hact, hlast, hfront⟩ := hbody
    rw [hleaves, List.map_append]
    exact ⟨_, _, rfl, hact, (Leaf.escapes_behind_item index last).trans hlast, hitem front hfront⟩
  | returned value =>
    rw [hrun] at hbody
    have hhead := hitem body.reached hbody
    rw [hbody.any_of_returned, if_neg Bool.false_ne_true]
    cases hall : runAll rest with
    | unwound payload =>
      rw [hall] at hrest
      obtain ⟨front, last, hleaves, hact, hlast, hfront⟩ := hrest
      rw [hleaves, ← List.append_assoc]
      refine ⟨_, last, rfl, hact, hlast, ?_⟩
      intro leaf hleaf
      exact (List.mem_append.1 hleaf).elim (hhead leaf) (hfront leaf)
    | returned values =>
      rw [hall] at hrest
      intro leaf hleaf
      exact (List.mem_append.1 hleaf).elim (hhead leaf) (hrest leaf)

mutual

theorem ends_run : (c : Computation α) → Ends c.reached c.run
  | value a => by
    intro leaf hleaf
    obtain rfl := List.mem_singleton.1 hleaf
    rfl
  | unwind payload => by
    refine ⟨[], ⟨[], .unwind payload⟩, rfl, rfl, ?_, nofun⟩
    cases payload <;> rfl
  | guarded body => (ends_run body).guarded
  | sequence bodies => by
    have hall := ends_runAll 0 bodies
    rw [reached_sequence, run]
    cases hrun : runAll bodies <;> rwa [hrun] at hall

theorem ends_runAll : (index : Nat) → (bodies : List (Computation α)) →
    Ends (reachedAll index bodies) (runAll bodies)
  | _, [] => nofun
  | index, body :: rest => .cons (ends_run body) (ends_runAll (index + 1) rest)

end

theorem reachedAll_of_returned {body : Computation α} {value : Result α}
    (h : body.run = .returned value) (index : Nat) (rest : List (Computation α)) :
    reachedAll index (body :: rest) =
      body.reached.map (.behind [.item index]) ++ reachedAll (index + 1) rest := by
  have hends : Ends body.reached (.returned value) := h ▸ ends_run body
  rw [reachedAll_cons, hends.any_of_returned, if_neg Bool.false_ne_true]

theorem reachedAll_of_unwound {body : Computation α} {payload : Payload}
    (h : body.run = .unwound payload) (index : Nat) (rest : List (Computation α)) :
    reachedAll index (body :: rest) = body.reached.map (.behind [.item index]) := by
  have hends : Ends body.reached (.unwound payload : Outcome (Result α)) := h ▸ ends_run body
  rw [reachedAll_cons, if_pos hends.any_of_unwound, List.append_nil]

end Computation

end Instrumentation.Guard
