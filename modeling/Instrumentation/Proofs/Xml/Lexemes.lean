import Instrumentation.Xml.Lexeme
/-
  What lexemes are made of

  A reader that succeeds takes a part off the front of what is left to read. Here is said
  of each which part that is.

  What is proved:
    1. `bind_eq_ok` — a computation that succeeds does so step by step.
    2. `rest_of_readThrough` — what is read up to an end mark does not hold the end mark.
    3. `rest_of_expect`, `rest_of_readName` and the like — what else is read over.
-/

namespace Instrumentation.Xml

/-- A computation that succeeds does so step by step. -/
theorem bind_eq_ok {α β : Type} {x : Except ReadError α} {f : α → Except ReadError β} {b : β}
    (h : x >>= f = .ok b) : ∃ a, x = .ok a ∧ f a = .ok b := by
  cases x with
  | error e => cases h
  | ok a => exact ⟨a, rfl, h⟩

namespace Cursor

variable {cur next : Cursor}

theorem rest_of_startsWith {lead : List Char} (h : cur.startsWith lead = true) :
    cur.rest = lead ++ (cur.drop lead.length).rest := by
  obtain ⟨rest, hrest⟩ := List.isPrefixOf_iff_prefix.1 h
  rw [drop_rest, ← hrest, List.drop_left]

theorem rest_of_expect {wanted : Char} (h : cur.expect wanted = .ok next) :
    cur.rest = wanted :: next.rest := by
  unfold expect at h
  split at h
  · cases h
  · next c rest hrest =>
    split at h
    · next hc =>
      obtain rfl := Except.ok.inj h
      obtain rfl : c = wanted := by simpa using hc
      rw [drop_rest, hrest, List.drop_one, List.tail_cons]
    · cases h

theorem rest_of_expectString {wanted : String} (h : cur.expectString wanted = .ok next) :
    cur.rest = wanted.toList ++ next.rest := by
  unfold expectString at h
  split at h
  · next hstarts =>
    obtain rfl := Except.ok.inj h
    rw [← String.length_toList]
    exact rest_of_startsWith hstarts
  · cases h

theorem mem_readWhile {p : Char → Bool} {c : Char} (h : c ∈ (cur.readWhile p).1) : p c = true :=
  List.all_eq_true.1 List.all_takeWhile c h

/-- Reading stops as soon as it may. -/
theorem readUntil_go_stop {stop : List Char → Bool} (cs : List Char) :
    ∀ (p : Position) (run front back : List Char) {next : Cursor},
      readUntil.go stop cs p run = .ok (run.reverse ++ front ++ back, next) → back ≠ [] →
        stop (back ++ next.rest) = false := by
  induction cs with
  | nil =>
    intro p run front back next h hback
    simp only [readUntil.go, Except.ok.injEq, Prod.mk.injEq, List.append_assoc,
      List.self_eq_append_right, List.append_eq_nil_iff] at h
    exact absurd h.1.2 hback
  | cons c rest ih =>
    intro p run front back next h hback
    have happend := readUntil_go_append h
    simp only [List.append_assoc, List.append_cancel_left_eq] at happend
    simp only [readUntil.go] at h
    split at h
    · cases h
    split at h
    · simp only [Except.ok.injEq, Prod.mk.injEq, List.append_assoc,
        List.self_eq_append_right, List.append_eq_nil_iff] at h
      exact absurd h.1.2 hback
    · next hstop =>
      cases front with
      | nil =>
        rw [List.nil_append] at happend
        rw [happend]
        simpa using hstop
      | cons d front =>
        obtain rfl : d = c := by simpa using congrArg List.head? happend
        apply ih (p.after d) (d :: run) front back _ hback
        simpa using h

theorem readUntil_stop {stop : List Char → Bool} {front back : List Char}
    (h : cur.readUntil stop = .ok (front ++ back, next)) (hback : back ≠ []) :
    stop (back ++ next.rest) = false :=
  readUntil_go_stop cur.rest cur.position [] front back h hback

/-- What is read up to an end mark does not hold it. -/
theorem rest_of_readThrough {terminator : String} {text : List Char} (hne : terminator.toList ≠ [])
    (h : cur.readThrough terminator = .ok (text, next)) :
    cur.rest = text ++ terminator.toList ++ next.rest ∧ ¬ terminator.toList <:+: text := by
  obtain ⟨⟨text', stopped⟩, huntil, h⟩ := bind_eq_ok h
  obtain ⟨after, hexpect, h⟩ := bind_eq_ok h
  cases h
  refine ⟨?_, ?_⟩
  · rw [← readUntil_append huntil, rest_of_expectString hexpect, List.append_assoc]
  · rintro ⟨front, back, rfl⟩
    rw [List.append_assoc] at huntil
    have hstop := readUntil_stop huntil (by simp [hne])
    have hbegins : terminator.toList.isPrefixOf (terminator.toList ++ back ++ stopped.rest) = true := by
      rw [List.isPrefixOf_iff_prefix, List.append_assoc]
      exact List.prefix_append _ _
    rw [hbegins] at hstop
    cases hstop

/-- A name is read over as a whole, and begins as names do. -/
theorem rest_of_readName {name : String} (h : cur.readName = .ok (name, next)) :
    cur.rest = name.toList ++ next.rest ∧ ∀ c ∈ name.toList, isNameChar c = true := by
  unfold readName at h
  split at h
  · cases h
  · split at h
    · cases h
      rw [String.toList_ofList]
      exact ⟨(cur.readWhile_append isNameChar).symm, fun c hc => mem_readWhile hc⟩
    · cases h

theorem rest_of_readQuote {quote : Char} (h : cur.readQuote = .ok (quote, next)) :
    cur.rest = quote :: next.rest ∧ (quote = '"' ∨ quote = '\x27') := by
  unfold readQuote at h
  split at h
  · cases h
  · next c rest hrest =>
    split at h
    · next hc =>
      cases h
      rw [drop_rest, hrest, List.drop_one, List.tail_cons]
      refine ⟨rfl, ?_⟩
      simpa using hc
    · cases h

/-- A run of name characters that can be split begins as names do. -/
theorem startsName_of_splitName {run : List Char} {name : QualifiedName}
    (h : splitName run = some name) : splitName.startsName run = true := by
  unfold splitName at h
  split at h
  · split at h
    · next hstarts => exact hstarts
    · cases h
  · next lead tail hcut =>
    split at h
    · next hstarts =>
      simp only [Bool.and_eq_true] at hstarts
      rw [(Text.cutAt?_eq_some_iff.1 hcut).2]
      cases lead with
      | nil => rfl
      | cons c lead => exact hstarts.1.1
    · cases h

theorem begins_of_readQualifiedName {name : QualifiedName}
    (h : cur.readQualifiedName = .ok (name, next)) :
    ∃ c rest, cur.rest = c :: rest ∧ isNameStart c = true := by
  have happend := cur.readWhile_append isNameChar
  unfold readQualifiedName at h
  simp only at h
  split at h
  · next name' hname =>
    have hstarts := startsName_of_splitName hname
    cases hrun : (cur.readWhile isNameChar).1 with
    | nil =>
      rw [hrun] at hstarts
      cases hstarts
    | cons c run =>
      rw [hrun] at hstarts happend
      exact ⟨c, _, happend.symm, hstarts⟩
  · cases h

theorem rest_of_skipBlanks (cur : Cursor) :
    ∃ blanks, cur.rest = blanks ++ cur.skipBlanks.rest ∧ ∀ c ∈ blanks, isBlank c = true :=
  ⟨_, (cur.readWhile_append isBlank).symm, fun _ hc => mem_readWhile hc⟩

end Cursor

end Instrumentation.Xml
