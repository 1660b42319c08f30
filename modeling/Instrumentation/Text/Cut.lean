/-
  Texts cut in two

  A text is cut at the first separator in it. In front of the cut there is none, and
  anything may stand behind it.
-/

namespace Instrumentation.Text

/-- The characters in front of the first separator and those behind it. -/
def cutAt? (separator : Char) (cs : List Char) : Option (List Char × List Char) :=
  match cs.dropWhile (· != separator) with
  | [] => none
  | _ :: behind => some (cs.takeWhile (· != separator), behind)

variable {separator : Char} {cs front behind : List Char}

theorem forall_ne_of_notMem (h : separator ∉ front) : ∀ c ∈ front, (c != separator) = true := by
  intro c hc
  rw [bne_iff_ne]
  rintro rfl
  exact h hc

theorem cutAt?_eq_some_iff :
    cutAt? separator cs = some (front, behind) ↔
      separator ∉ front ∧ cs = front ++ separator :: behind := by
  constructor
  · intro h
    have hsplit : cs.takeWhile (· != separator) ++ cs.dropWhile (· != separator) = cs :=
      List.takeWhile_append_dropWhile
    unfold cutAt? at h
    split at h
    · cases h
    · next c rest hdrop =>
      -- What the search stops at is the separator that it looks for.
      obtain rfl : c = separator := by
        have hhead := List.head_dropWhile_not (· != separator) (l := cs) (by simp [hdrop])
        simpa [hdrop] using hhead
      obtain ⟨rfl, rfl⟩ := Prod.mk.inj (Option.some.inj h)
      refine ⟨?_, ?_⟩
      · intro hmem
        simpa using List.all_eq_true.1 List.all_takeWhile c hmem
      · rw [← hdrop, hsplit]
  · rintro ⟨hfront, rfl⟩
    have hfront := forall_ne_of_notMem hfront
    simp [cutAt?, List.takeWhile_append_of_pos hfront, List.dropWhile_append_of_pos hfront]

end Instrumentation.Text
