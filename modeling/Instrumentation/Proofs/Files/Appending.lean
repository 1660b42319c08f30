import Instrumentation.Files.Tree
/-
  What a file holds while it is opened and added to

  Making the directories above a path touches only places nearer to the root, and opening
  a file for appending makes an empty one at most where there was none. So neither
  changes what the file holds, and an append that succeeds puts its bytes behind all that
  was there.

  What is proved:
    1. `keeps_makeParents`, `keeps_openForAppend` — the file holds what it held.
    2. `append_cases` — an append adds its bytes at the end, or it does nothing.
-/

namespace Instrumentation.Files.Tree

/-- The bytes of the file at a place. Where there is no file there are none. -/
def bytesAt (tree : Tree) (place : List String) : List UInt8 :=
  match tree.entry? place with
  | some (.file bytes) => bytes.data.toList
  | _ => []

/-! ## Putting an entry at a place -/

theorem entry?_put_self (tree : Tree) {place : List String} (h : place ≠ []) (entry : Entry) :
    entry? (tree.put place entry) place = some entry := by
  have hempty : place.isEmpty = false := by simpa using h
  unfold entry? put
  simp [hempty]

theorem entry?_put_of_ne (tree : Tree) {place other : List String} (h : other ≠ place)
    (entry : Entry) : entry? (tree.put place entry) other = tree.entry? other := by
  have hne : (place == other) = false := by simpa using h.symm
  -- The filter takes out none of the entries that the search looks for.
  have hfilter : (fun e : List String × Entry => decide (e.1 != place ∧ e.1 == other)) =
      fun e => e.1 == other := by
    funext e
    cases hother : e.1 == other with
    | false => simp
    | true =>
      obtain rfl : e.1 = other := by simpa using hother
      simpa using h
  unfold entry? put
  simp only [List.find?_cons, hne, List.find?_filter, hfilter]

/-! ## What is kept -/

/-- What the file at a place holds is the same in both trees, and it is not one that
drains what it is given unless it was before. -/
structure Keeps (place : List String) (tree after : Tree) : Prop where
  current : after.current = tree.current
  bytes : after.bytesAt place = tree.bytesAt place
  drain : after.entry? place = some .drain → tree.entry? place = some .drain

variable {place : List String} {tree after last : Tree}

theorem Keeps.refl : Keeps place tree tree := ⟨rfl, rfl, id⟩

theorem Keeps.trans (h : Keeps place tree after) (hlast : Keeps place after last) :
    Keeps place tree last :=
  ⟨hlast.current.trans h.current, hlast.bytes.trans h.bytes, fun hd => h.drain (hlast.drain hd)⟩

theorem keeps_put_of_ne {other : List String} (h : place ≠ other) (entry : Entry) :
    Keeps place tree (tree.put other entry) := by
  have hentry := entry?_put_of_ne tree h entry
  refine ⟨rfl, ?_, ?_⟩
  · rw [bytesAt, hentry, bytesAt]
  · rw [hentry]
    exact id

/-! ## Directories above a file -/

theorem keeps_makeDirectories (names : List String) :
    ∀ (tree : Tree) (done : List String), done.length + names.length < place.length →
      Keeps place tree (tree.makeDirectories done names).2 := by
  induction names with
  | nil => intro tree done _; exact Keeps.refl
  | cons name rest ih =>
    intro tree done hlength
    have hshorter : (done ++ [name]).length + rest.length < place.length := by
      simp only [List.length_append, List.length_cons, List.length_nil] at hlength ⊢
      omega
    rw [makeDirectories]
    split
    · exact Keeps.refl
    split
    · exact ih tree _ hshorter
    · exact Keeps.refl
    · have hne : place ≠ done ++ [name] := by
        rintro rfl
        omega
      exact (keeps_put_of_ne hne .directory).trans (ih _ _ hshorter)

theorem keeps_makeParents (tree : Tree) (path : String) :
    Keeps (tree.place path) tree (tree.makeParents path).2 := by
  unfold makeParents
  split
  · exact Keeps.refl
  simp only
  split
  · exact Keeps.refl
  · next hfollow =>
    cases hplace : tree.place path with
    | nil =>
      -- The root needs no directory above it.
      rw [hplace] at hfollow
      cases hfollow
    | cons name names =>
      apply keeps_makeDirectories
      simp

/-! ## Opening -/

theorem follow_cons {name : String} {names done : List String}
    (h : tree.entry? done = some .directory) :
    tree.follow done (name :: names) =
      if name.utf8ByteSize > longestName then .error .nameTooLong
      else tree.follow (done ++ [name]) names := by
  rw [follow, h]

/-- What a walk that leads to a directory finds one name further. -/
theorem follow_snoc (name : String) {names : List String} :
    ∀ {done : List String}, tree.follow done names = .ok .directory →
      tree.follow done (names ++ [name]) =
        if name.utf8ByteSize > longestName then .error .nameTooLong
        else tree.follow (done ++ names ++ [name]) [] := by
  induction names with
  | nil =>
    intro done h
    have hentry : tree.entry? done = some .directory := by
      rw [follow] at h
      split at h <;> simp_all
    rw [List.nil_append, List.append_nil, follow_cons hentry]
  | cons first rest ih =>
    intro done h
    have hentry : tree.entry? done = some .directory := by
      rw [follow] at h
      split at h <;> simp_all
    rw [follow_cons hentry] at h
    split at h
    · cases h
    · next hshort =>
      rw [List.cons_append, follow_cons hentry, if_neg hshort, ih h]
      simp

/-- A file below a directory is found, or there is another reason that it is not. -/
theorem lookup_ne_notFound {path : String} {bytes : ByteArray}
    (hentry : tree.entry? (tree.place path) = some (.file bytes))
    (habove : tree.follow [] (tree.place path).dropLast = .ok .directory)
    (hpath : path.isEmpty = false) : tree.lookup path ≠ .error .notFound := by
  have hroot : tree.place path ≠ [] := by
    intro hroot
    rw [hroot] at hentry
    cases hentry
  have hfollow := follow_snoc ((tree.place path).getLast hroot) habove
  rw [List.nil_append, List.dropLast_concat_getLast hroot, follow, hentry] at hfollow
  have hcheck : checkText path = .ok () ∨ checkText path = .error .zeroInName := by
    simp only [checkText, hpath, Bool.false_eq_true, if_false]
    split
    · exact .inr rfl
    · exact .inl rfl
  unfold lookup
  rcases hcheck with hcheck | hcheck
  · rw [hcheck, hfollow]
    split
    · nofun
    · show (if _ then _ else _) ≠ _
      split <;> nofun
  · rw [hcheck]
    nofun

theorem bytesAt_of_not_found {path : String} (hlookup : tree.lookup path = .error .notFound)
    (habove : tree.follow [] (tree.place path).dropLast = .ok .directory)
    (hpath : path.isEmpty = false) : tree.bytesAt (tree.place path) = [] := by
  unfold bytesAt
  split
  · next hentry => exact absurd hlookup (lookup_ne_notFound hentry habove hpath)
  · rfl

theorem keeps_openForAppend (tree : Tree) (path : String) :
    Keeps (tree.place path) tree (tree.openForAppend path).2 := by
  unfold openForAppend
  split
  · exact Keeps.refl
  · exact Keeps.refl
  · next hlookup =>
    simp only
    split
    · next habove =>
      cases hpath : path.isEmpty with
      | true => exact Keeps.refl
      | false =>
        have hbytes := bytesAt_of_not_found hlookup habove hpath
        simp only [Bool.false_eq_true, if_false]
        split
        · exact Keeps.refl
        by_cases hroot : tree.place path = []
        · exact ⟨rfl, by rw [hroot]; rfl, by rw [hroot]; exact id⟩
        · have hentry := entry?_put_self tree hroot (.file .empty)
          refine ⟨rfl, ?_, ?_⟩
          · rw [hbytes, bytesAt, hentry]
            rfl
          · rw [hentry]
            nofun
    · exact Keeps.refl
    · exact Keeps.refl
  · exact Keeps.refl

/-! ## Appending -/

/-- The files after some bytes were added at a path: a file holds them behind what it held,
a device drained them, and nothing else is different. -/
inductive Takes (tree : Tree) (path : String) (added : List UInt8) (after : Tree) : Prop
  | file (old new : ByteArray) (before : tree.entry? (tree.place path) = some (.file old))
    (behind : after.entry? (tree.place path) = some (.file new))
    (content : new.data.toList = old.data.toList ++ added)
    (current : after.current = tree.current)
    (others : ∀ other, other ≠ tree.place path → after.entry? other = tree.entry? other)
  | drain (device : tree.entry? (tree.place path) = some .drain) (same : after = tree)

/-- A file or a draining device takes bytes. Anything else refuses them, and nothing changes. -/
theorem append_cases (tree : Tree) (path : String) (bytes : ByteArray) :
    (∃ after, tree.append path bytes = (.ok (), after) ∧ tree.Takes path bytes.data.toList after) ∨
    (∃ cause, tree.append path bytes = (.error cause, tree) ∧
      ∀ old, tree.entry? (tree.place path) ≠ some (.file old)) := by
  rw [Tree.append]
  cases hentry : tree.entry? (tree.place path) with
  | none => exact .inr ⟨_, rfl, nofun⟩
  | some entry =>
    cases entry with
    | directory => exact .inr ⟨_, rfl, nofun⟩
    | drain => exact .inl ⟨tree, rfl, .drain hentry rfl⟩
    | full => exact .inr ⟨_, rfl, nofun⟩
    | blocked cause => exact .inr ⟨_, rfl, nofun⟩
    | file old =>
      -- The root is always a directory, so a file that is found is not there.
      have hplace : tree.place path ≠ [] := by
        intro hroot
        rw [hroot] at hentry
        cases hentry
      refine .inl ⟨_, rfl,
        .file old (old ++ bytes) hentry (tree.entry?_put_self hplace _) ?_ rfl ?_⟩
      · rw [ByteArray.data_append, Array.toList_append]
      · exact fun other hother => tree.entry?_put_of_ne hother _

theorem append_ok {path : String} {bytes : ByteArray}
    (hdrain : tree.entry? (tree.place path) ≠ some .drain)
    (h : tree.append path bytes = (.ok (), after)) :
    after.current = tree.current ∧ after.entry? (tree.place path) ≠ some .drain ∧
      after.bytesAt (tree.place path) = tree.bytesAt (tree.place path) ++ bytes.data.toList := by
  rcases append_cases tree path bytes with ⟨_, happend, htakes⟩ | ⟨cause, happend, -⟩
  · obtain rfl := (Prod.mk.inj (happend.symm.trans h)).2
    cases htakes with
    | file old new before behind content current others =>
      refine ⟨current, ?_, ?_⟩
      · rw [behind]
        nofun
      · rw [bytesAt, behind, bytesAt, before]
        exact content
    | drain device same => exact absurd device hdrain
  · cases happend.symm.trans h

theorem append_error {path : String} {bytes : ByteArray} {cause : Failure}
    (h : tree.append path bytes = (.error cause, after)) : after = tree := by
  rcases append_cases tree path bytes with ⟨_, happend, -⟩ | ⟨_, happend, -⟩
  · cases happend.symm.trans h
  · exact (Prod.mk.inj (h.symm.trans happend)).2

end Instrumentation.Files.Tree
