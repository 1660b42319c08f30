import Mathlib.Data.List.Basic
import Instrumentation.Telemetry.Name
/-
  The grammar of display names

  A text is cut at its first separator: no separator stands in front of the cut, and
  anything may stand behind it. What follows the marker of an identity is cut at its
  first comma into a class and a member. The display name is cut at its first dot, and
  since the dots of the class have become slashes that is where the member begins.

  What is proved:
    1. `CutsAt.unique` — a text is cut in one way at most.
    2. `namedMember?_eq_some_iff` — the class and the member that are read from an
       identity are those that it is written with.
    3. `displayName_follows_grammar` — so every identity either is written with one class
       and one member, and both are found in its display name, or is displayed as it is.
-/

namespace Instrumentation.Telemetry

/-! ## Texts cut at a separator -/

/-- The text is cut at its first separator. -/
structure CutsAt (separator : Char) (text front behind : String) : Prop where
  notMem : separator ∉ front.toList
  eq_append : text = front ++ String.singleton separator ++ behind

theorem CutsAt.toList {separator : Char} {text front behind : String}
    (h : CutsAt separator text front behind) :
    text.toList = front.toList ++ separator :: behind.toList := by
  rw [h.eq_append]
  simp

theorem cutsAt_iff_toList {separator : Char} {text front behind : String} :
    CutsAt separator text front behind ↔
      separator ∉ front.toList ∧ text.toList = front.toList ++ separator :: behind.toList := by
  constructor
  · intro h
    exact ⟨h.notMem, h.toList⟩
  · rintro ⟨hfront, htext⟩
    refine ⟨hfront, String.toList_inj.1 ?_⟩
    rw [htext]
    simp

/-- The first separator is at one place. -/
theorem CutsAt.unique {separator : Char} {text front behind front' behind' : String}
    (h : CutsAt separator text front behind) (h' : CutsAt separator text front' behind') :
    front = front' ∧ behind = behind' := by
  have hcut := Text.cutAt?_eq_some_iff.2 ⟨h.notMem, h.toList⟩
  rw [Text.cutAt?_eq_some_iff.2 ⟨h'.notMem, h'.toList⟩] at hcut
  obtain ⟨hfront, hbehind⟩ := Prod.mk.inj (Option.some.inj hcut)
  exact ⟨String.toList_inj.1 hfront.symm, String.toList_inj.1 hbehind.symm⟩

/-! ## Reading an identity -/

/-- The identity is written with a class, in which no comma stands, and a member. -/
def Identifies (identity className member : String) : Prop :=
  ∃ rest, identity = "__custom," ++ rest ∧ CutsAt ',' rest className member

theorem Identifies.unique {identity className member className' member' : String}
    (h : Identifies identity className member) (h' : Identifies identity className' member') :
    className = className' ∧ member = member' := by
  obtain ⟨rest, rfl, hcut⟩ := h
  obtain ⟨rest', heq, hcut'⟩ := h'
  obtain rfl : rest = rest' := by simpa [← String.toList_inj] using heq
  exact hcut.unique hcut'

/-- The class and the member that are read from an identity are those that it is
written with. -/
theorem namedMember?_eq_some_iff {identity className member : String} :
    namedMember? identity = some (className.toList, member.toList) ↔
      Identifies identity className member := by
  rw [namedMember?, Option.bind_eq_some_iff]
  constructor
  · rintro ⟨rest, hmarker, hsplit⟩
    refine ⟨String.ofList rest, ?_, ?_⟩
    · rw [← String.toList_inj, ← List.isPrefixOf?_eq_some_iff_append_eq.1 hmarker]
      simp [customMarker]
    · rw [cutsAt_iff_toList, String.toList_ofList]
      exact Text.cutAt?_eq_some_iff.1 hsplit
  · rintro ⟨rest, rfl, hcut⟩
    refine ⟨rest.toList, ?_, ?_⟩
    · rw [List.isPrefixOf?_eq_some_iff_append_eq]
      simp [customMarker]
    · rw [Text.cutAt?_eq_some_iff]
      exact cutsAt_iff_toList.1 hcut

/-! ## The display name -/

/-- The class with a slash for every dot. -/
def slashed (className : String) : String :=
  className.map fun c => if c = '.' then '/' else c

theorem dot_notMem_slashed (className : String) : '.' ∉ (slashed className).toList := by
  rw [slashed, String.toList_map, List.mem_map]
  rintro ⟨c, -, hc⟩
  split at hc
  · cases hc
  · next hne => exact hne hc

theorem memberName_eq (className member : String) :
    memberName className.toList member.toList = slashed className ++ "." ++ member := by
  rw [← String.toList_inj, memberName, slashed]
  simp

theorem cutsAt_slashed (className member : String) :
    CutsAt '.' (slashed className ++ "." ++ member) (slashed className) member :=
  ⟨dot_notMem_slashed className, rfl⟩

/-- An identity that is written with a class and a member is written with no others. Its
display name is the class with slashes for dots, a dot and the member as it is, and cut
at its first dot it gives these two and nothing else. Any other identity is displayed as
it is, and a warning says so. -/
theorem displayName_follows_grammar (identity : String) :
    (∀ className member, Identifies identity className member →
      (∀ className' member', Identifies identity className' member' →
        className' = className ∧ member' = member) ∧
      displayName identity = ⟨slashed className ++ "." ++ member, []⟩ ∧
      ∀ front behind, CutsAt '.' (displayName identity).value front behind ↔
        front = slashed className ∧ behind = member) ∧
    ((¬∃ className member, Identifies identity className member) →
      ∃ warning, displayName identity = ⟨identity, [warning]⟩ ∧ warning.level = .warn) := by
  constructor
  · intro className member h
    have hname : displayName identity = ⟨slashed className ++ "." ++ member, []⟩ := by
      rw [displayName, namedMember?_eq_some_iff.2 h, ← memberName_eq]
      rfl
    refine ⟨fun className' member' h' => h'.unique h, hname, ?_⟩
    intro front behind
    rw [hname]
    constructor
    · intro hcut
      exact hcut.unique (cutsAt_slashed className member)
    · rintro ⟨rfl, rfl⟩
      exact cutsAt_slashed className behind
  · intro hnone
    refine ⟨unexpectedIdentity identity, ?_, rfl⟩
    have hunread : namedMember? identity = none := by
      rw [Option.eq_none_iff_forall_ne_some]
      rintro ⟨className, member⟩ hread
      apply hnone
      refine ⟨String.ofList className, String.ofList member, ?_⟩
      rw [← namedMember?_eq_some_iff, String.toList_ofList, String.toList_ofList]
      exact hread
    rw [displayName, hunread]
    rfl

/-- A member may hold commas and dots, and the class dots; without a comma behind the
marker there is no member. -/
theorem displayName_follows_grammar_of_dotted :
    Identifies "__custom,a.B,run.c,()V" "a.B" "run.c,()V" ∧
    displayName "__custom,a.B,run.c,()V" = ⟨"a/B.run.c,()V", []⟩ ∧
    (¬∃ className member, Identifies "__custom,a.B" className member) ∧
    ∃ warning, displayName "__custom,a.B" = ⟨"__custom,a.B", [warning]⟩ ∧
      warning.level = .warn := by
  have hdotted : Identifies "__custom,a.B,run.c,()V" "a.B" "run.c,()V" :=
    ⟨"a.B,run.c,()V", by decide +kernel, by decide +kernel, by decide +kernel⟩
  have hnone : ¬∃ className member, Identifies "__custom,a.B" className member := by
    rintro ⟨className, member, h⟩
    have hread : namedMember? "__custom,a.B" = none := by decide +kernel
    rw [namedMember?_eq_some_iff.2 h] at hread
    cases hread
  have hname : slashed "a.B" ++ "." ++ "run.c,()V" = "a/B.run.c,()V" := by decide +kernel
  rw [← hname]
  exact ⟨hdotted, ((displayName_follows_grammar _).1 _ _ hdotted).2.1, hnone,
    (displayName_follows_grammar _).2 hnone⟩

end Instrumentation.Telemetry
