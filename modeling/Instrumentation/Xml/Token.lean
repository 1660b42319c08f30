import Instrumentation.Xml.CharacterData
/-
  Tokens of a document

  A document is read as a sequence of tokens: start tags with their attributes,
  end tags, text, comments and processing instructions. What a token stands for
  is already decoded. `Scan.ofSource` reads as many tokens as it can and says
  which error, if any, stopped it; whether the tokens make a tree is not its
  concern, except that it counts how many elements are open to know where the
  document element ends.
-/

namespace Instrumentation.Xml

def xmlUri : String := "http://www.w3.org/XML/1998/namespace"
def xmlnsUri : String := "http://www.w3.org/2000/xmlns/"

/-- A namespace declaration; an empty prefix declares the default namespace. -/
structure Declaration where
  label : String
  uri : String
  deriving DecidableEq, Repr

/-- An attribute of a start tag that declares no namespace. -/
structure TagAttribute where
  name : QualifiedName
  value : String
  position : Position
  deriving DecidableEq, Repr

structure StartTag where
  name : QualifiedName
  position : Position
  declarations : List Declaration
  attributes : List TagAttribute
  selfClosing : Bool
  deriving DecidableEq, Repr

/-- A unit of markup or a run of text. -/
inductive Token where
  | start (tag : StartTag)
  | close (name : QualifiedName) (position : Position)
  | text (value : String)
  | comment (value : String)
  | instruction (target : String) (value : Option String)
  deriving DecidableEq, Repr

/-- What an attribute of a start tag turns out to be. -/
inductive TagItem where
  | declaration (d : Declaration)
  | reserved
  | plain (a : TagAttribute)
  deriving DecidableEq, Repr

def TagItem.declaration? : TagItem → Option Declaration
  | declaration d => some d
  | _ => none

def TagItem.plain? : TagItem → Option TagAttribute
  | plain a => some a
  | _ => none

def StartTag.ofItems (name : QualifiedName) (position : Position) (items : List TagItem)
    (selfClosing : Bool) : StartTag :=
  { name, position, selfClosing
    declarations := items.filterMap TagItem.declaration?
    attributes := items.filterMap TagItem.plain? }

/-- Decides what an attribute is, after the declarations `earlier` of its tag.
The prefix `xml` may only be declared for its own namespace, which no other
prefix may have, and nothing may be declared for the namespace of `xmlns`. -/
def TagItem.of (earlier : List Declaration) (name : QualifiedName) (value : String)
    (position : Position) : Except ReadError TagItem :=
  if name.qualifier == "xmlns" then
    if value == xmlnsUri then .error (.xmlnsUri position)
    else if name.localName == "xml" then
      if value == xmlUri then
        if earlier.any (·.label == name.localName) then
          .error (.duplicateNamespace name.localName position)
        else .ok reserved
      else .error (.wrongXmlUri position)
    else if value == xmlUri then .error (.xmlUriElsewhere position)
    else if earlier.any (·.label == name.localName) then
      .error (.duplicateNamespace name.localName position)
    else .ok (.declaration ⟨name.localName, value⟩)
  else if name.localName == "xmlns" then
    if value == xmlUri then .error (.xmlUriElsewhere position)
    else if value == xmlnsUri then .error (.xmlnsUri position)
    else .ok (.declaration ⟨"", value⟩)
  else .ok (.plain ⟨name, value, position⟩)

namespace Cursor

/-- Reads one attribute of a start tag and decodes its value. -/
def readTagItem (earlier : List Declaration) (cur : Cursor) :
    Except ReadError (TagItem × Cursor) := do
  let (written, next) ← cur.readAttribute
  let pieces ← Piece.read ⟨written.value, written.valuePosition⟩
  let value := String.ofList (Piece.attributeValue pieces)
  let item ← TagItem.of earlier written.name value written.position
  return (item, next)

theorem readTagItem_length_lt {earlier : List Declaration} {cur next : Cursor}
    {item : TagItem} (h : cur.readTagItem earlier = .ok (item, next)) :
    next.rest.length < cur.rest.length := by
  simp only [readTagItem, bind, Except.bind] at h
  split at h
  · cases h
  next written hwritten =>
  split at h
  · cases h
  split at h
  · cases h
  cases h
  exact readAttribute_length_lt hwritten

/-- What comes next in a start tag, behind its name or an attribute. -/
inductive TagStep where
  | nothing
  | finish (selfClosing : Bool) (next : Cursor)
  | item (item : TagItem) (next : Cursor)

def TagStep.next? : TagStep → Option Cursor
  | nothing => none
  | finish _ next => some next
  | item _ next => some next

/-- Reads the next part of a start tag; only behind a blank may it be an attribute. -/
def readTagPart (earlier : List Declaration) (afterBlank : Bool) (cur : Cursor) :
    Except ReadError TagStep :=
  match cur.rest with
  | [] => .error .endOfInput
  | c :: _ =>
    if c == '/' then do
      let closed ← (cur.drop 1).expect '>'
      return .finish true closed
    else if c == '>' then .ok (.finish false (cur.drop 1))
    else if afterBlank then do
      let (item, rest) ← cur.readTagItem earlier
      return .item item rest
    else .error (.unexpected .blank c cur.position)

theorem readTagPart_length_lt {earlier : List Declaration} {afterBlank : Bool}
    {cur next : Cursor} {step : TagStep}
    (h : cur.readTagPart earlier afterBlank = .ok step) (hn : step.next? = some next) :
    next.rest.length < cur.rest.length := by
  unfold readTagPart at h
  split at h
  · cases h
  next c r hr =>
  have hd : (cur.drop 1).rest.length < cur.rest.length := by simp [hr]
  split at h
  · simp only [bind, Except.bind] at h
    split at h
    · cases h
    next hx =>
    cases h; cases hn
    exact Nat.lt_trans (expect_length_lt hx) hd
  split at h
  · cases h; cases hn; exact hd
  split at h
  · simp only [bind, Except.bind] at h
    split at h
    · cases h
    next hx =>
    cases h; cases hn
    exact readTagItem_length_lt hx
  · cases h

/-- Moves over blanks and reads the next part of a start tag. That the input ends
right here is not an error, but no tag comes of it. -/
def readTagStep (earlier : List Declaration) (cur : Cursor) : Except ReadError TagStep :=
  match cur.rest with
  | [] => .ok .nothing
  | c :: _ => cur.skipBlanks.readTagPart earlier (isBlank c)

theorem readTagStep_length_lt {earlier : List Declaration} {cur next : Cursor}
    {step : TagStep} (h : cur.readTagStep earlier = .ok step) (hn : step.next? = some next) :
    next.rest.length < cur.rest.length := by
  unfold readTagStep at h
  split at h
  · cases h; cases hn
  · exact Nat.lt_of_lt_of_le (readTagPart_length_lt h hn) cur.skipBlanks_length_le

/-- Reads the rest of a start tag behind its name. `items` holds what was read of
it, the latest first. -/
def readTagItems (name : QualifiedName) (position : Position) (items : List TagItem)
    (cur : Cursor) : Except ReadError (Option (StartTag × Cursor)) :=
  match h : cur.readTagStep (items.filterMap TagItem.declaration?) with
  | .error e => .error e
  | .ok .nothing => .ok none
  | .ok (.finish selfClosing next) =>
    .ok (some (StartTag.ofItems name position items.reverse selfClosing, next))
  | .ok (.item item next) =>
    have := readTagStep_length_lt h rfl
    readTagItems name position (item :: items) next
termination_by cur.rest.length

theorem readTagItems_length_lt {name : QualifiedName} {position : Position}
    {items : List TagItem} {cur next : Cursor} {tag : StartTag}
    (h : readTagItems name position items cur = .ok (some (tag, next))) :
    next.rest.length < cur.rest.length := by
  fun_induction readTagItems name position items cur with
  | case1 => cases h
  | case2 => cases h
  | case3 _ _ _ _ hx => cases h; exact readTagStep_length_lt hx rfl
  | case4 _ _ _ _ _ hlt ih => exact Nat.lt_trans (ih h) hlt

/-- Reads a start tag, from its left angle bracket on. -/
def readStartTag (cur : Cursor) : Except ReadError (Option (StartTag × Cursor)) := do
  let opened := cur.drop 1
  let (name, named) ← opened.readQualifiedName
  if name.qualifier == "xmlns" then throw (.reservedElementPrefix opened.position)
  named.readTagItems name opened.position []

theorem readStartTag_length_lt {cur next : Cursor} {tag : StartTag}
    (h : cur.readStartTag = .ok (some (tag, next))) :
    next.rest.length < cur.rest.length := by
  simp only [readStartTag, bind, Except.bind] at h
  split at h
  · cases h
  next named hnamed =>
  split at h
  · cases h
  next =>
  have := readQualifiedName_length_lt hnamed
  have := readTagItems_length_lt h
  have := cur.drop_length_le 1
  omega

def readEndTag (cur : Cursor) : Except ReadError (Token × Cursor) := do
  let (name, named) ← (cur.drop 2).readQualifiedName
  let next ← named.skipBlanks.expect '>'
  return (.close name cur.position, next)

def readComment (cur : Cursor) : Except ReadError (Token × Cursor) := do
  let (text, next) ← (cur.drop 4).readThrough "-->"
  if hasDashes text then throw (.dashesInComment cur.position)
  return (.comment (String.ofList text), next)
where
  /-- Whether two dashes stand together or one stands at the end. -/
  hasDashes : List Char → Bool
    | [] => false
    | ['-'] => true
    | '-' :: '-' :: _ => true
    | _ :: rest => hasDashes rest

def readInstruction (cur : Cursor) : Except ReadError (Token × Cursor) := do
  if cur.startsWith "<?xml ".toList then throw (.misplacedDeclaration cur.position)
  let (target, named) ← (cur.drop 2).readName
  let (value, next) ← named.skipBlanks.readThrough "?>"
  return (.instruction target (if value.isEmpty then none else some (String.ofList value)), next)

/-- Reads a CDATA section, from its left angle bracket on. References have no
meaning in it. -/
def readSection (cur : Cursor) : Except ReadError (Token × Cursor) := do
  let (text, next) ← (cur.drop 9).readThrough "]]>"
  return (.text (String.ofList (Piece.text (text.map .literal))), next)

/-- Reads the text up to the next markup. -/
def readText (cur : Cursor) : Except ReadError (Token × Cursor) := do
  let (text, next) ← cur.readUntil fun rest => rest.head? == some '<'
  if holdsSectionEnd text then throw (.sectionEndInText next.position)
  let pieces ← Piece.read ⟨text, cur.position⟩
  return (.text (String.ofList (Piece.text pieces)), next)
where
  /-- Whether the end mark of a CDATA section stands in the text. -/
  holdsSectionEnd : List Char → Bool
    | [] => false
    | ']' :: ']' :: '>' :: _ => true
    | _ :: rest => holdsSectionEnd rest

end Cursor

end Instrumentation.Xml
