import Instrumentation.Xml.Token
/-
  The token sequence of a document

  `Scan.ofSource` reads a document from its first character to its last, or to
  the first thing that cannot be read. An optional byte order mark and an
  optional XML declaration come first; comments and processing instructions may
  stand anywhere; one element stands between them. Document types are refused,
  so no entity can be declared.
-/

namespace Instrumentation.Xml

/-- Where in a document a reader stands: before the document element, inside it
with `outer` elements open around the innermost open one, or behind it. -/
inductive Place where
  | prolog
  | content (outer : Nat)
  | epilog
  deriving DecidableEq, Repr

def Place.enter : Place → Place
  | content outer => content (outer + 1)
  | _ => content 0

def Place.leave : Place → Place
  | content (outer + 1) => content outer
  | _ => epilog

def Place.pass : Place → Place
  | content outer => content outer
  | _ => epilog

inductive Step where
  | finish
  | token (token : Token) (place : Place) (next : Cursor)

namespace Step

/-- The step that a token makes which opens and closes nothing. -/
def within (place : Place) : Except ReadError (Token × Cursor) → Except ReadError Step
  | .ok (t, next) => .ok (token t place next)
  | .error e => .error e

def begin (place : Place) : Except ReadError (Option (StartTag × Cursor)) → Except ReadError Step
  | .ok none => .ok finish
  | .ok (some (tag, next)) =>
    .ok (token (.start tag) (if tag.selfClosing then place.pass else place.enter) next)
  | .error e => .error e

/-- Reads what may stand before, inside or behind the document element and opens
nothing: a comment or a processing instruction. -/
def remark? (place : Place) (cur : Cursor) : Option (Except ReadError Step) :=
  if cur.startsWith "<!--".toList then some (within place cur.readComment)
  else if cur.startsWith "<?".toList then some (within place cur.readInstruction)
  else none

/-- The next step outside the document element, blanks skipped. -/
def outside (place : Place) (cur : Cursor) : Except ReadError Step :=
  match remark? place cur with
  | some step => step
  | none =>
    if cur.rest.isEmpty then .ok finish
    else if place == .prolog && cur.startsWith "<!DOCTYPE".toList then .error .doctype
    else if place == .prolog && cur.startsWith ['<'] then begin place cur.readStartTag
    else .error (.unknownToken cur.position)

def inside (place : Place) (cur : Cursor) : Except ReadError Step :=
  match remark? place cur with
  | some step => step
  | none =>
    if cur.rest.isEmpty then .ok finish
    else if !cur.startsWith ['<'] then within place cur.readText
    else if cur.startsWith "<![CDATA[".toList then within place cur.readSection
    else if cur.startsWith "</".toList then within place.leave cur.readEndTag
    else if cur.startsWith "<!".toList || cur.rest.tail.isEmpty then
      .error (.unknownToken cur.position)
    else begin place cur.readStartTag

def read (place : Place) (cur : Cursor) : Except ReadError Step :=
  match place with
  | .content _ => inside place cur
  | _ => outside place cur.skipBlanks

end Step

namespace Cursor

/-- Moves over the blanks between the parts of an XML declaration. -/
def skipDeclarationBlanks (cur : Cursor) : Except ReadError Cursor :=
  match cur.rest with
  | [] => .ok cur
  | c :: _ =>
    if isBlank c || cur.startsWith "?>".toList then .ok cur.skipBlanks
    else .error (.unexpected .blank c cur.position)

/-- Moves over a part of an XML declaration, if it comes next. -/
def skipDeclarationPart (name : String) (cur : Cursor) : Except ReadError Cursor := do
  if cur.startsWith name.toList then
    let (_, next) ← cur.readAttribute
    return next
  else return cur

/-- Moves over an XML declaration, if there is one. It names a version, then
perhaps an encoding and then perhaps whether the document stands alone; what it
says has no effect. -/
def skipDeclaration (cur : Cursor) : Except ReadError Cursor := do
  if cur.startsWith "<?xml ".toList then
    let opened ← (cur.drop 5).skipDeclarationBlanks
    let _ ← opened.expectString "version"
    let versioned ← opened.skipDeclarationPart "version" >>= skipDeclarationBlanks
    let encoded ←
      if versioned.startsWith "encoding".toList then
        versioned.skipDeclarationPart "encoding" >>= skipDeclarationBlanks
      else pure versioned
    let closed ← encoded.skipDeclarationPart "standalone"
    closed.skipBlanks.expectString "?>"
  else return cur

def skipByteOrderMark (cur : Cursor) : Cursor :=
  if cur.startsWith ['\uFEFF'] then cur.drop 1 else cur

theorem length_lt_of_drop {cur next : Cursor} {n : Nat} (hc : cur.rest ≠ [])
    (h : next.rest.length ≤ (cur.drop (n + 1)).rest.length) :
    next.rest.length < cur.rest.length := by
  have := List.length_pos_iff.2 hc
  simp only [drop_rest, List.length_drop] at h
  omega

theorem readComment_length_lt {cur next : Cursor} {token : Token} (hc : cur.rest ≠ [])
    (h : cur.readComment = .ok (token, next)) : next.rest.length < cur.rest.length := by
  simp only [readComment, bind, Except.bind] at h
  split at h
  · cases h
  next read hread =>
  split at h
  · cases h
  cases h
  exact length_lt_of_drop hc (readThrough_length_le hread)

theorem readInstruction_length_lt {cur next : Cursor} {token : Token}
    (hc : cur.rest ≠ []) (h : cur.readInstruction = .ok (token, next)) :
    next.rest.length < cur.rest.length := by
  simp only [readInstruction, bind, Except.bind] at h
  split at h
  · cases h
  simp only [pure, Except.pure] at h
  split at h
  · cases h
  next named hnamed =>
  split at h
  · cases h
  next read hread =>
  cases h
  exact length_lt_of_drop hc <| Nat.le_trans (readThrough_length_le hread) <|
    Nat.le_trans (skipBlanks_length_le _) (readName_length_le hnamed)

theorem readSection_length_lt {cur next : Cursor} {token : Token} (hc : cur.rest ≠ [])
    (h : cur.readSection = .ok (token, next)) : next.rest.length < cur.rest.length := by
  simp only [readSection, bind, Except.bind] at h
  split at h
  · cases h
  next read hread =>
  cases h
  exact length_lt_of_drop hc (readThrough_length_le hread)

theorem readEndTag_length_lt {cur next : Cursor} {token : Token}
    (h : cur.readEndTag = .ok (token, next)) : next.rest.length < cur.rest.length := by
  simp only [readEndTag, bind, Except.bind] at h
  split at h
  · cases h
  next named hnamed =>
  split at h
  · cases h
  next closed hclosed =>
  cases h
  have := readQualifiedName_length_lt hnamed
  have := expect_length_lt hclosed
  have := named.2.skipBlanks_length_le
  have := cur.drop_length_le 2
  omega

/-- Text that does not end where it begins moves the cursor. -/
theorem readUntil_length_lt {stop : List Char → Bool} {cur next : Cursor} {text : List Char}
    (hc : cur.rest ≠ []) (hs : stop cur.rest = false)
    (h : cur.readUntil stop = .ok (text, next)) :
    next.rest.length < cur.rest.length := by
  unfold readUntil at h
  cases hr : cur.rest with
  | nil => exact absurd hr hc
  | cons c r =>
    rw [hr] at h hs
    simp only [readUntil.go, hs] at h
    split at h
    · cases h
    · exact Nat.lt_succ_of_le (readUntil_go_length_le h)

theorem readText_length_lt {cur next : Cursor} {token : Token} (hc : cur.rest ≠ [])
    (hs : cur.startsWith ['<'] = false) (h : cur.readText = .ok (token, next)) :
    next.rest.length < cur.rest.length := by
  simp only [readText, bind, Except.bind] at h
  split at h
  · cases h
  next read hread =>
  split at h
  · cases h
  simp only [pure, Except.pure] at h
  split at h
  · cases h
  cases h
  refine readUntil_length_lt hc ?_ hread
  unfold startsWith at hs
  cases hr : cur.rest with
  | nil => exact absurd hr hc
  | cons c r =>
    rw [hr] at hs
    simp only [List.isPrefixOf_cons_cons, List.isPrefixOf_nil_left, Bool.and_true] at hs
    simp only [List.head?_cons, Option.some_beq_some, beq_eq_false_iff_ne, ne_eq] at hs ⊢
    exact fun hcr => hs hcr.symm

end Cursor

namespace Step

theorem within_length_lt {place place' : Place} {cur next : Cursor} {token : Token}
    {read : Except ReadError (Token × Cursor)}
    (hread : ∀ t n, read = .ok (t, n) → n.rest.length < cur.rest.length)
    (h : within place read = .ok (.token token place' next)) :
    next.rest.length < cur.rest.length := by
  unfold within at h
  split at h
  · cases h; exact hread _ _ rfl
  · cases h

theorem begin_length_lt {place place' : Place} {cur next : Cursor} {token : Token}
    (h : begin place cur.readStartTag = .ok (.token token place' next)) :
    next.rest.length < cur.rest.length := by
  unfold begin at h
  split at h
  · cases h
  · next hr => cases h; exact Cursor.readStartTag_length_lt hr
  · cases h

theorem remark?_length_lt {place place' : Place} {cur next : Cursor} {token : Token}
    (h : remark? place cur = some (.ok (.token token place' next))) :
    next.rest.length < cur.rest.length := by
  unfold remark? at h
  split at h
  · next hs =>
    have hc : cur.rest ≠ [] := by intro hc; simp [Cursor.startsWith, hc] at hs
    exact within_length_lt (fun _ _ => Cursor.readComment_length_lt hc) (Option.some.inj h)
  split at h
  · next hs =>
    have hc : cur.rest ≠ [] := by intro hc; simp [Cursor.startsWith, hc] at hs
    exact within_length_lt (fun _ _ => Cursor.readInstruction_length_lt hc) (Option.some.inj h)
  · cases h

theorem outside_length_lt {place place' : Place} {cur next : Cursor} {token : Token}
    (h : outside place cur = .ok (.token token place' next)) :
    next.rest.length < cur.rest.length := by
  unfold outside at h
  split at h
  · next hr => exact remark?_length_lt (h ▸ hr)
  split at h
  · cases h
  split at h
  · cases h
  split at h
  · exact begin_length_lt h
  · cases h

theorem inside_length_lt {place place' : Place} {cur next : Cursor} {token : Token}
    (h : inside place cur = .ok (.token token place' next)) :
    next.rest.length < cur.rest.length := by
  unfold inside at h
  split at h
  · next hr => exact remark?_length_lt (h ▸ hr)
  split at h
  · cases h
  next hc =>
  have hc : cur.rest ≠ [] := by simpa using hc
  split at h
  · next hs =>
    exact within_length_lt (fun _ _ => Cursor.readText_length_lt hc (by simpa using hs)) h
  split at h
  · exact within_length_lt (fun _ _ => Cursor.readSection_length_lt hc) h
  split at h
  · exact within_length_lt (fun _ _ => Cursor.readEndTag_length_lt) h
  split at h
  · cases h
  · exact begin_length_lt h

/-- A token is never empty: reading one moves the cursor. -/
theorem read_length_lt {place place' : Place} {cur next : Cursor} {token : Token}
    (h : read place cur = .ok (.token token place' next)) :
    next.rest.length < cur.rest.length := by
  unfold read at h
  split at h
  · exact inside_length_lt h
  · exact Nat.lt_of_lt_of_le (outside_length_lt h) cur.skipBlanks_length_le

end Step

/-- The tokens of a document up to its end or to the first error. -/
structure Scan where
  tokens : List Token
  fault : Option ReadError

namespace Scan

/-- Reads the tokens from a cursor on. `tokens` holds those already read, the
latest first. -/
def run (place : Place) (cur : Cursor) (tokens : List Token) : Scan :=
  match h : Step.read place cur with
  | .error e => ⟨tokens.reverse, some e⟩
  | .ok .finish => ⟨tokens.reverse, none⟩
  | .ok (.token token place' next) =>
    have := Step.read_length_lt h
    run place' next (token :: tokens)
termination_by cur.rest.length

def ofSource (source : String) : Scan :=
  match (Cursor.ofChars source.toList).skipByteOrderMark.skipDeclaration with
  | .ok cur => run .prolog cur []
  | .error e => ⟨[], some e⟩

end Scan

end Instrumentation.Xml
