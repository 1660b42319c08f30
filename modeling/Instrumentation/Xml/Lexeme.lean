import Instrumentation.Text.Cut
import Instrumentation.Xml.Character
import Instrumentation.Xml.Error
/-
  The smallest readable units of a document

  Readers for fixed strings, single characters, names, quoted values and runs of
  text. Each takes a cursor and returns what it read with the cursor behind it,
  or the first reason it could not. The lemmas say that no reader moves back and
  which of them always move forward; the loops above them end because of that.
-/

namespace Instrumentation.Xml

/-- A name as written: what stands before its colon, if any, and what follows. -/
structure QualifiedName where
  qualifier : String
  localName : String
  deriving DecidableEq, Repr, Inhabited

def QualifiedName.text (name : QualifiedName) : String :=
  if name.qualifier.isEmpty then name.localName
  else name.qualifier ++ ":" ++ name.localName

namespace Cursor

def skipBlanks (cur : Cursor) : Cursor := (cur.readWhile isBlank).2

theorem skipBlanks_length_le (cur : Cursor) :
    cur.skipBlanks.rest.length ≤ cur.rest.length :=
  cur.readWhile_length_le isBlank

/-- Moves over the character `wanted`, which must come next. -/
def expect (wanted : Char) (cur : Cursor) : Except ReadError Cursor :=
  match cur.rest with
  | [] => .error .endOfInput
  | c :: _ =>
    if c == wanted then .ok (cur.drop 1)
    else .error (.unexpected (.character wanted) c cur.position)

theorem expect_length_lt {wanted : Char} {cur next : Cursor}
    (h : cur.expect wanted = .ok next) : next.rest.length < cur.rest.length := by
  unfold expect at h
  split at h
  · cases h
  · next c r hr =>
    split at h
    · cases h; simp [hr]
    · cases h

def expectString (wanted : String) (cur : Cursor) : Except ReadError Cursor :=
  if cur.startsWith wanted.toList then .ok (cur.drop wanted.length)
  else .error (.missing wanted cur.position)

theorem expectString_length_le {wanted : String} {cur next : Cursor}
    (h : cur.expectString wanted = .ok next) :
    next.rest.length ≤ cur.rest.length := by
  unfold expectString at h
  split at h
  · cases h; exact cur.drop_length_le _
  · cases h

/-- Reads characters up to where `stop` holds of what is left, or to the end of
the input. A character that may not stand in a document is refused. -/
def readUntil (stop : List Char → Bool) (cur : Cursor) :
    Except ReadError (List Char × Cursor) :=
  go cur.rest cur.position []
where
  /-- `run` holds what was read, the latest character first. -/
  go : List Char → Position → List Char → Except ReadError (List Char × Cursor)
    | [], p, run => .ok (run.reverse, ⟨[], p⟩)
    | c :: r, p, run =>
      if !isDocumentChar c then .error (.nonXmlCharacter c p)
      else if stop (c :: r) then .ok (run.reverse, ⟨c :: r, p⟩)
      else go r (p.after c) (c :: run)

theorem readUntil_go_append {stop : List Char → Bool} {cs : List Char} {p : Position}
    {run text : List Char} {next : Cursor}
    (h : readUntil.go stop cs p run = .ok (text, next)) :
    text ++ next.rest = run.reverse ++ cs := by
  induction cs generalizing p run with
  | nil => simp only [readUntil.go, Except.ok.injEq, Prod.mk.injEq] at h; simp [← h.1, ← h.2]
  | cons c r ih =>
    simp only [readUntil.go] at h
    split at h
    · cases h
    · split at h
      · simp only [Except.ok.injEq, Prod.mk.injEq] at h; simp [← h.1, ← h.2]
      · simpa using ih h

/-- What is read and what is left make up what there was. -/
theorem readUntil_append {stop : List Char → Bool} {cur next : Cursor} {text : List Char}
    (h : cur.readUntil stop = .ok (text, next)) : text ++ next.rest = cur.rest := by
  simpa using readUntil_go_append h

theorem readUntil_go_length_le {stop : List Char → Bool} {cs : List Char} {p : Position}
    {run text : List Char} {next : Cursor}
    (h : readUntil.go stop cs p run = .ok (text, next)) : next.rest.length ≤ cs.length := by
  induction cs generalizing p run with
  | nil => simp only [readUntil.go, Except.ok.injEq, Prod.mk.injEq] at h; simp [← h.2]
  | cons c r ih =>
    simp only [readUntil.go] at h
    split at h
    · cases h
    · split at h
      · simp only [Except.ok.injEq, Prod.mk.injEq] at h; simp [← h.2]
      · exact Nat.le_succ_of_le (ih h)

theorem readUntil_length_le {stop : List Char → Bool} {cur next : Cursor}
    {text : List Char} (h : cur.readUntil stop = .ok (text, next)) :
    next.rest.length ≤ cur.rest.length :=
  readUntil_go_length_le h

/-- Reads up to the string `terminator` and over it. -/
def readThrough (terminator : String) (cur : Cursor) :
    Except ReadError (List Char × Cursor) := do
  let (text, stopped) ← cur.readUntil terminator.toList.isPrefixOf
  let next ← stopped.expectString terminator
  return (text, next)

theorem readThrough_length_le {terminator : String} {cur next : Cursor}
    {text : List Char} (h : cur.readThrough terminator = .ok (text, next)) :
    next.rest.length ≤ cur.rest.length := by
  simp only [readThrough, bind, Except.bind] at h
  split at h
  · cases h
  · next v hv =>
    split at h
    · cases h
    · next w hw =>
      cases h
      exact Nat.le_trans (expectString_length_le hw) (readUntil_length_le hv)

/-- Reads a name that may hold colons anywhere. -/
def readName (cur : Cursor) : Except ReadError (String × Cursor) :=
  match cur.rest with
  | [] => .error (.invalidName cur.position)
  | c :: _ =>
    if isNameStart c then
      let (run, next) := cur.readWhile isNameChar
      .ok (String.ofList run, next)
    else .error (.invalidName cur.position)

theorem readName_length_le {cur next : Cursor} {name : String}
    (h : cur.readName = .ok (name, next)) : next.rest.length ≤ cur.rest.length := by
  unfold readName at h
  split at h
  · cases h
  · split at h
    · cases h; exact cur.readWhile_length_le _
    · cases h

/-- Splits a run of name characters at its colon. There may be one colon at
most; neither part may begin with anything but a name's first character, and the
part behind the colon may not be empty. -/
def splitName (run : List Char) : Option QualifiedName :=
  match Text.cutAt? ':' run with
  | none => if startsName run then some ⟨"", String.ofList run⟩ else none
  | some (lead, tail) =>
    if (lead.isEmpty || startsName lead) && startsName tail && !tail.contains ':' then
      some ⟨String.ofList lead, String.ofList tail⟩
    else none
where
  /-- Whether the run begins as a name does. -/
  startsName : List Char → Bool
    | [] => false
    | c :: _ => isNameStart c

/-- Reads a name with at most one colon. -/
def readQualifiedName (cur : Cursor) : Except ReadError (QualifiedName × Cursor) :=
  let (run, next) := cur.readWhile isNameChar
  match splitName run with
  | some name => .ok (name, next)
  | none => .error (.invalidName cur.position)

theorem splitName_nil : splitName [] = none := rfl

theorem readQualifiedName_length_lt {cur next : Cursor} {name : QualifiedName}
    (h : cur.readQualifiedName = .ok (name, next)) :
    next.rest.length < cur.rest.length := by
  simp only [readQualifiedName] at h
  split at h
  · next n hn =>
    cases h
    have hsum := congrArg List.length (cur.readWhile_append isNameChar)
    cases hrun : (cur.readWhile isNameChar).1 with
    | nil => rw [hrun, splitName_nil] at hn; cases hn
    | cons c r =>
      rw [hrun] at hsum
      simp only [List.cons_append, List.length_cons, List.length_append] at hsum
      omega
  · cases h

/-- Moves over an equals sign with blanks around it. -/
def expectEquals (cur : Cursor) : Except ReadError Cursor := do
  let next ← cur.skipBlanks.expect '='
  return next.skipBlanks

theorem expectEquals_length_lt {cur next : Cursor}
    (h : cur.expectEquals = .ok next) : next.rest.length < cur.rest.length := by
  simp only [expectEquals, bind, Except.bind] at h
  split at h
  · cases h
  · next v hv =>
    cases h
    have := expect_length_lt hv
    have := cur.skipBlanks_length_le
    have := v.skipBlanks_length_le
    omega

/-- Moves over a quotation mark of either kind and says which it was. -/
def readQuote (cur : Cursor) : Except ReadError (Char × Cursor) :=
  match cur.rest with
  | [] => .error .endOfInput
  | c :: _ =>
    if c == '"' || c == '\x27' then .ok (c, cur.drop 1)
    else .error (.unexpected .quote c cur.position)

theorem readQuote_length_lt {cur next : Cursor} {quote : Char}
    (h : cur.readQuote = .ok (quote, next)) : next.rest.length < cur.rest.length := by
  unfold readQuote at h
  split at h
  · cases h
  · next c r hr =>
    split at h
    · cases h; simp [hr]
    · cases h

end Cursor

/-- An attribute as written: its name, its value between the quotes, and where
the name and the value begin. -/
structure WrittenAttribute where
  name : QualifiedName
  value : List Char
  position : Position
  valuePosition : Position

namespace Cursor

/-- Reads `name = "value"`. The value may not hold a left angle bracket. -/
def readAttribute (cur : Cursor) : Except ReadError (WrittenAttribute × Cursor) := do
  let (name, named) ← cur.readQualifiedName
  let equated ← named.expectEquals
  let (quote, opened) ← equated.readQuote
  let (value, stopped) ← opened.readUntil fun rest =>
    match rest with
    | [] => true
    | c :: _ => c == quote || c == '<'
  let next ← stopped.expect quote
  return (⟨name, value, cur.position, opened.position⟩, next)

theorem readAttribute_length_lt {cur next : Cursor} {written : WrittenAttribute}
    (h : cur.readAttribute = .ok (written, next)) :
    next.rest.length < cur.rest.length := by
  simp only [readAttribute, bind, Except.bind] at h
  split at h
  · cases h
  next named hnamed =>
  split at h
  · cases h
  next equated hequated =>
  split at h
  · cases h
  next opened hopened =>
  split at h
  · cases h
  next stopped hstopped =>
  split at h
  · cases h
  next closed hclosed =>
  cases h
  have := readQualifiedName_length_lt hnamed
  have := expectEquals_length_lt hequated
  have := readQuote_length_lt hopened
  have := readUntil_length_le hstopped
  have := expect_length_lt hclosed
  omega

end Cursor

end Instrumentation.Xml
