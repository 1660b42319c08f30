import Instrumentation.Policy.Table
/-
  Tables and their lookups

  What is proved:
    1. `Table.mem_of_get?`, `Table.contains_eq_true_iff` — lookups find what is listed.
    2. `Table.ext_get?` — a table in ascending order is determined by its lookups,
       so two ways of filling a table that answer every lookup alike fill it alike.
    3. `Table.get?_ofFirsts` — `ofFirsts` makes a table out of a list in which the
       first entry of a key counts: it drops the later ones and sorts what is left.
       Its lookups are those in the list.
-/

namespace Instrumentation.Policy.Table

variable {κ ν : Type} [Ord κ]

/-! ## What is listed in a table -/

/-- What is found in a table is listed in it. -/
theorem mem_of_get? [Std.LawfulEqOrd κ] {table : Table κ ν} {key : κ} {value : ν}
    (h : table.get? key = some value) : (key, value) ∈ table.entries := by
  obtain ⟨entries⟩ := table
  simp only [get?] at h ⊢
  induction entries with
  | nil => cases h
  | cons e rest ih =>
    rw [find?] at h
    split at h
    · next heq =>
      obtain rfl := Std.LawfulEqOrd.eq_of_compare (beq_iff_eq.1 heq)
      obtain rfl := Option.some.inj h
      exact List.mem_cons_self
    · exact List.mem_cons_of_mem _ (ih h)

/-- There is a value under exactly the keys that are listed. -/
theorem contains_eq_true_iff [Std.LawfulEqOrd κ] {table : Table κ ν} {key : κ} :
    table.contains key = true ↔ key ∈ table.keys := by
  obtain ⟨entries⟩ := table
  simp only [contains, get?, keys]
  induction entries with
  | nil => simp [find?]
  | cons e rest ih =>
    by_cases hk : key = e.1
    · subst hk
      simp [find?]
    · have hc : compare key e.1 ≠ .eq := fun he => hk (Std.LawfulEqOrd.eq_of_compare he)
      simp only [find?, beq_iff_eq, hc, if_false, List.map_cons, List.mem_cons, hk, false_or]
      exact ih

/-- An entry with a key of its own is placed beside the others. -/
theorem perm_place [Std.LawfulEqOrd κ] {key : κ} {value : ν} {entries : List (κ × ν)}
    (h : key ∉ entries.map (·.1)) : (place key value entries).Perm ((key, value) :: entries) := by
  induction entries with
  | nil => exact .rfl
  | cons e rest ih =>
    rw [List.map_cons, List.mem_cons, not_or] at h
    rw [place]
    split
    · exact .rfl
    · next heq => exact absurd (Std.LawfulEqOrd.eq_of_compare heq) h.1
    · exact ((ih h.2).cons e).trans (.swap _ _ _)

/-! ## A table is determined by its lookups -/

theorem ascending_tail {e : κ × ν} {rest : List (κ × ν)}
    (h : (⟨e :: rest⟩ : Table κ ν).Ascending) : (⟨rest⟩ : Table κ ν).Ascending :=
  (List.pairwise_cons.1 h).2

/-- The keys behind an entry are not its own. -/
theorem key_ne_of_ascending [Std.LawfulEqOrd κ] {e : κ × ν} {rest : List (κ × ν)}
    (h : (⟨e :: rest⟩ : Table κ ν).Ascending) : ∀ d ∈ rest, d.1 ≠ e.1 := by
  intro d hd he
  have hlt : compare e.1 d.1 = .lt := (List.pairwise_cons.1 h).1 d hd
  rw [he, Std.ReflOrd.compare_self] at hlt
  cases hlt

/-- In a table in ascending order, what is listed under a key is what is found there. -/
theorem mem_entries_iff [Std.LawfulEqOrd κ] {table : Table κ ν} (h : table.Ascending)
    {key : κ} {value : ν} : (key, value) ∈ table.entries ↔ table.get? key = some value := by
  obtain ⟨entries⟩ := table
  simp only [get?]
  induction entries with
  | nil => simp [find?]
  | cons e rest ih =>
    have ih := ih (ascending_tail h)
    by_cases hk : key = e.1
    · subst hk
      have hrest : (e.1, value) ∉ rest := fun hm => key_ne_of_ascending h _ hm rfl
      have hhead : (e.1, value) = e ↔ e.2 = value := by
        obtain ⟨k, v⟩ := e
        simp [eq_comm]
      simp [find?, hrest, hhead]
    · have hc : compare key e.1 ≠ .eq := fun he => hk (Std.LawfulEqOrd.eq_of_compare he)
      have hne : (key, value) ≠ e := fun he => hk (congrArg Prod.fst he)
      simp [find?, hc, hne, ih]

theorem distinct_of_ascending [Std.LawfulEqOrd κ] {table : Table κ ν} (h : table.Ascending) :
    table.keys.Nodup := by
  refine List.pairwise_map.2 (h.imp fun {a b} hlt heq => ?_)
  rw [heq, Std.ReflOrd.compare_self] at hlt
  cases hlt

theorem nodup_entries [Std.LawfulEqOrd κ] {table : Table κ ν} (h : table.Ascending) :
    table.entries.Nodup := by
  refine List.Pairwise.imp ?_ (List.pairwise_map.1 (distinct_of_ascending h))
  intro a b hne hab
  exact hne (congrArg Prod.fst hab)

/-- Two tables in ascending order with the same lookups are the same. -/
theorem ext_get? [Std.TransOrd κ] [Std.LawfulEqOrd κ] {s t : Table κ ν} (hs : s.Ascending)
    (ht : t.Ascending) (h : ∀ key, s.get? key = t.get? key) : s = t := by
  have hperm : s.entries.Perm t.entries := by
    rw [List.perm_ext_iff_of_nodup (nodup_entries hs) (nodup_entries ht)]
    intro ⟨key, value⟩
    rw [mem_entries_iff hs, mem_entries_iff ht, h]
  have hentries : s.entries = t.entries := by
    refine List.Perm.eq_of_pairwise ?_ hs ht hperm
    intro a b _ _ hab hba
    exact absurd (Std.TransCmp.lt_trans hab hba) (by simp)
  obtain ⟨entries⟩ := s
  rw [show entries = t.entries from hentries]

/-! ## The table of a list in which the first entry of a key counts -/

variable [DecidableEq κ]

/-- The entries of a list whose keys do not stand in front of them already. -/
def firsts : List (κ × ν) → List (κ × ν)
  | [] => []
  | e :: rest => e :: (firsts rest).filter (·.1 ≠ e.1)

/-- The table of a list in which the first entry of a key counts. -/
def ofFirsts (entries : List (κ × ν)) : Table κ ν :=
  ⟨(firsts entries).mergeSort fun a b => (compare a.1 b.1).isLE⟩

omit [Ord κ] in
theorem mem_firsts {entries : List (κ × ν)} {key : κ} {value : ν} :
    (key, value) ∈ firsts entries ↔ entries.lookup key = some value := by
  induction entries with
  | nil => simp [firsts]
  | cons e rest ih =>
    obtain ⟨k, v⟩ := e
    by_cases hk : key = k
    · subst hk
      simp [firsts, eq_comm]
    · have hb : (key == k) = false := by simpa using hk
      simp [firsts, List.lookup_cons, hk, hb, ih]

omit [Ord κ] in
theorem firsts_pairwise (entries : List (κ × ν)) :
    (firsts entries).Pairwise fun a b => a.1 ≠ b.1 := by
  induction entries with
  | nil => exact List.Pairwise.nil
  | cons e rest ih =>
    refine List.pairwise_cons.2 ⟨?_, ih.filter _⟩
    intro d hd he
    have hne := (List.mem_filter.1 hd).2
    exact absurd he.symm (by simpa using hne)

omit [Ord κ] in
theorem firsts_sublist (entries : List (κ × ν)) : (firsts entries).Sublist entries := by
  induction entries with
  | nil => exact List.Sublist.refl []
  | cons e rest ih => exact (List.filter_sublist.trans ih).cons_cons e

/-- The table holds nothing but entries of the list. -/
theorem mem_of_mem_ofFirsts {entries : List (κ × ν)} {e : κ × ν}
    (h : e ∈ (ofFirsts entries).entries) : e ∈ entries :=
  (firsts_sublist entries).subset (List.mem_mergeSort.1 h)

theorem ascending_ofFirsts [Std.TransOrd κ] [Std.LawfulEqOrd κ] (entries : List (κ × ν)) :
    (ofFirsts entries).Ascending := by
  have hsorted : (ofFirsts entries).entries.Pairwise
      fun a b => (compare a.1 b.1).isLE = true := by
    apply List.pairwise_mergeSort
    · intro a b c hab hbc
      exact Std.TransCmp.isLE_trans hab hbc
    · intro a b
      cases h : compare a.1 b.1 with
      | lt => simp
      | eq => simp
      | gt => simp [Std.OrientedCmp.lt_of_gt h]
  have hdistinct : (ofFirsts entries).entries.Pairwise fun a b => a.1 ≠ b.1 :=
    (firsts_pairwise entries).perm (List.mergeSort_perm _ _).symm fun h => h.symm
  refine (hsorted.and hdistinct).imp ?_
  rintro a b ⟨hle, hne⟩
  cases h : compare a.1 b.1 with
  | lt => rfl
  | eq => exact absurd (Std.LawfulEqOrd.eq_of_compare h) hne
  | gt => simp [h] at hle

/-- The lookups in the table are those in the list. -/
theorem get?_ofFirsts [Std.TransOrd κ] [Std.LawfulEqOrd κ] (entries : List (κ × ν)) (key : κ) :
    (ofFirsts entries).get? key = entries.lookup key := by
  apply Option.ext
  intro value
  rw [← mem_entries_iff (ascending_ofFirsts entries), ← mem_firsts]
  exact List.mem_mergeSort

end Instrumentation.Policy.Table
