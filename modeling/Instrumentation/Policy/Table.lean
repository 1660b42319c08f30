/-
  Tables in ascending order of their keys

  A table is its list of entries. Setting a key keeps the entries in ascending
  order and leaves every other key alone, so a table lists the same entries in the
  same order however they were put in.
-/

namespace Instrumentation.Policy

/-- Entries by key, in ascending order of the keys. -/
structure Table (κ ν : Type) where
  entries : List (κ × ν)
  deriving DecidableEq, Repr

namespace Table

variable {κ ν : Type} [Ord κ]

def empty : Table κ ν := ⟨[]⟩

def find? (key : κ) : List (κ × ν) → Option ν
  | [] => none
  | e :: rest => if compare key e.1 == .eq then some e.2 else find? key rest

def get? (table : Table κ ν) (key : κ) : Option ν := find? key table.entries
def contains (table : Table κ ν) (key : κ) : Bool := (table.get? key).isSome

/-- Puts an entry where its key belongs, in place of one with the same key. -/
def place (key : κ) (value : ν) : List (κ × ν) → List (κ × ν)
  | [] => [(key, value)]
  | e :: rest =>
    match compare key e.1 with
    | .lt => (key, value) :: e :: rest
    | .eq => (key, value) :: rest
    | .gt => e :: place key value rest

def set (table : Table κ ν) (key : κ) (value : ν) : Table κ ν :=
  ⟨place key value table.entries⟩

def size (table : Table κ ν) : Nat := table.entries.length
def keys (table : Table κ ν) : List κ := table.entries.map (·.1)
def values (table : Table κ ν) : List ν := table.entries.map (·.2)

/-- Every key is smaller than those behind it. -/
def Ascending (table : Table κ ν) : Prop :=
  table.entries.Pairwise fun a b => compare a.1 b.1 = .lt

theorem ascending_empty : (empty : Table κ ν).Ascending := List.Pairwise.nil

theorem get?_set_self [Std.LawfulEqOrd κ] (table : Table κ ν) (key : κ) (value : ν) :
    (table.set key value).get? key = some value := by
  obtain ⟨entries⟩ := table
  simp only [get?, set]
  induction entries with
  | nil => simp [place, find?]
  | cons e rest ih =>
    rw [place]
    split
    · simp [find?]
    · simp [find?]
    · next h => simp [find?, h, ih]

theorem get?_set_of_ne [Std.LawfulEqOrd κ] (table : Table κ ν) {key other : κ} (value : ν)
    (h : other ≠ key) :
    (table.set key value).get? other = table.get? other := by
  obtain ⟨entries⟩ := table
  simp only [get?, set]
  have hne : compare other key ≠ .eq := fun he => h (Std.LawfulEqOrd.eq_of_compare he)
  induction entries with
  | nil => simp [place, find?, hne]
  | cons e rest ih =>
    rw [place]
    split
    · simp [find?, hne]
    · next he =>
      obtain rfl := Std.LawfulEqOrd.eq_of_compare he
      simp [find?, hne]
    · simp [find?, ih]

theorem mem_place {key : κ} {value : ν} {entries : List (κ × ν)} {e : κ × ν}
    (h : e ∈ place key value entries) : e = (key, value) ∨ e ∈ entries := by
  induction entries with
  | nil => simpa [place] using h
  | cons d rest ih =>
    rw [place] at h
    split at h
    · simpa using h
    · rcases List.mem_cons.1 h with h | h
      · exact .inl h
      · exact .inr (List.mem_cons_of_mem _ h)
    · rcases List.mem_cons.1 h with h | h
      · exact .inr (h ▸ List.mem_cons_self)
      · exact (ih h).imp id (List.mem_cons_of_mem _)

/-- Setting a key keeps the order. -/
theorem Ascending.set [Std.TransOrd κ] [Std.LawfulEqOrd κ] {table : Table κ ν}
    (h : table.Ascending) (key : κ) (value : ν) :
    (table.set key value).Ascending := by
  obtain ⟨entries⟩ := table
  simp only [Ascending, Table.set] at *
  induction entries with
  | nil => simp [place]
  | cons e rest ih =>
    obtain ⟨hrest, htail⟩ := List.pairwise_cons.1 h
    rw [place]
    split
    · next hlt =>
      refine List.pairwise_cons.2 ⟨fun d hd => ?_, h⟩
      rcases List.mem_cons.1 hd with rfl | hd
      · exact hlt
      · exact Std.TransCmp.lt_trans hlt (hrest d hd)
    · next heq =>
      obtain rfl := Std.LawfulEqOrd.eq_of_compare heq
      exact List.pairwise_cons.2 ⟨hrest, htail⟩
    · next hgt =>
      refine List.pairwise_cons.2 ⟨fun d hd => ?_, ih htail⟩
      rcases mem_place hd with rfl | hd
      · exact Std.OrientedCmp.lt_of_gt hgt
      · exact hrest d hd

end Table

end Instrumentation.Policy
