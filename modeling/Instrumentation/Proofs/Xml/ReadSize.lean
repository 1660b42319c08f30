import Mathlib.Algebra.Order.Ring.Nat
import Instrumentation.Xml.Token
import Instrumentation.Proofs.Xml.Lexemes
/-
  Reading never lengthens

  Sizes are in bytes of UTF-8. What a reader gives and what it leaves are together no
  longer than what it was given. A reference is the only thing that is written in one way
  and stands for another character: the shortest one has four bytes, and no character has
  more. Line ends and blanks only become shorter or stay as long as they were.

  What is proved:
    1. `Reference.size_read`, `Piece.size_read` — a reference, and a run of character
       data, is no shorter than what it stands for.
    2. `Piece.byteLength_text`, `Piece.byteLength_attributeValue` — neither way to take
       pieces together makes them longer.
    3. `Cursor.size_readStartTag` and the like — so with every token.
-/

namespace Instrumentation.Xml

/-! ## Bytes of characters -/

/-- How many bytes characters take in UTF-8. -/
def byteLength (cs : List Char) : Nat := (cs.map Char.utf8Size).sum

@[simp] theorem byteLength_nil : byteLength [] = 0 := rfl

@[simp] theorem byteLength_cons (c : Char) (cs : List Char) :
    byteLength (c :: cs) = c.utf8Size + byteLength cs := by
  rw [byteLength, List.map_cons, List.sum_cons, byteLength]

@[simp] theorem byteLength_append (cs more : List Char) :
    byteLength (cs ++ more) = byteLength cs + byteLength more := by
  rw [byteLength, List.map_append, List.sum_append, byteLength, byteLength]

@[simp] theorem byteLength_reverse (cs : List Char) : byteLength cs.reverse = byteLength cs := by
  induction cs with
  | nil => rfl
  | cons c rest ih =>
    rw [List.reverse_cons, byteLength_append, ih, byteLength_cons, byteLength_cons, byteLength_nil]
    omega

theorem length_le_byteLength (cs : List Char) : cs.length ≤ byteLength cs := by
  induction cs with
  | nil => exact Nat.le_refl _
  | cons c rest ih =>
    have hc := c.utf8Size_pos
    rw [List.length_cons, byteLength_cons]
    omega

theorem utf8ByteSize_eq (text : String) : text.utf8ByteSize = byteLength text.toList := by
  have hbytes : ∀ cs : List Char, cs.utf8Encode.size = byteLength cs := by
    intro cs
    induction cs with
    | nil => simp
    | cons c rest ih =>
      rw [List.utf8Encode_cons, ByteArray.size_append, ih, byteLength_cons,
        List.utf8Encode_singleton]
      simp
  rw [← hbytes, String.utf8Encode_toList, String.size_toByteArray]

theorem utf8ByteSize_ofList (cs : List Char) : (String.ofList cs).utf8ByteSize = byteLength cs := by
  rw [utf8ByteSize_eq, String.toList_ofList]

/-! ## Lexemes -/

namespace Cursor

/-- How many bytes are left to read. -/
def size (cur : Cursor) : Nat := byteLength cur.rest

variable {cur next : Cursor}

theorem size_of_append {text : List Char} (h : text ++ next.rest = cur.rest) :
    byteLength text + next.size = cur.size := by
  rw [size, size, ← h, byteLength_append]

theorem size_drop_le (cur : Cursor) (n : Nat) : (cur.drop n).size ≤ cur.size := by
  have h : cur.rest.take n ++ (cur.drop n).rest = cur.rest := List.take_append_drop n cur.rest
  have hsize := size_of_append h
  omega

theorem size_drop_add {n : Nat} (h : n ≤ cur.rest.length) : (cur.drop n).size + n ≤ cur.size := by
  have happend : cur.rest.take n ++ (cur.drop n).rest = cur.rest :=
    List.take_append_drop n cur.rest
  have hsize := size_of_append happend
  have htake := length_le_byteLength (cur.rest.take n)
  rw [List.length_take, Nat.min_eq_left h] at htake
  omega

theorem length_le_of_startsWith {lead : List Char} (h : cur.startsWith lead = true) :
    lead.length ≤ cur.rest.length :=
  (List.isPrefixOf_iff_prefix.1 h).length_le

theorem size_readWhile (p : Char → Bool) (cur : Cursor) :
    byteLength (cur.readWhile p).1 + (cur.readWhile p).2.size = cur.size :=
  size_of_append (cur.readWhile_append p)

theorem size_skipBlanks_le (cur : Cursor) : cur.skipBlanks.size ≤ cur.size := by
  have h := cur.size_readWhile isBlank
  rw [skipBlanks]
  omega

theorem size_of_cons {c : Char} (h : cur.rest = c :: next.rest) : next.size + 1 ≤ cur.size := by
  have hc := c.utf8Size_pos
  rw [size, size, h, byteLength_cons]
  omega

theorem size_expect {wanted : Char} (h : cur.expect wanted = .ok next) :
    next.size + 1 ≤ cur.size := size_of_cons (rest_of_expect h)

theorem size_expectString_le {wanted : String} (h : cur.expectString wanted = .ok next) :
    next.size ≤ cur.size := by
  have hsize := size_of_append (rest_of_expectString h).symm
  omega

theorem size_readUntil {stop : List Char → Bool} {text : List Char}
    (h : cur.readUntil stop = .ok (text, next)) : byteLength text + next.size = cur.size :=
  size_of_append (readUntil_append h)

theorem size_readThrough {terminator : String} {text : List Char}
    (h : cur.readThrough terminator = .ok (text, next)) :
    byteLength text + next.size ≤ cur.size := by
  obtain ⟨⟨text', stopped⟩, huntil, h⟩ := bind_eq_ok h
  obtain ⟨after, hexpect, h⟩ := bind_eq_ok h
  cases h
  have hread := size_readUntil huntil
  have hover := size_expectString_le hexpect
  omega

theorem size_readName {name : String} (h : cur.readName = .ok (name, next)) :
    name.utf8ByteSize + next.size = cur.size := by
  rw [utf8ByteSize_eq]
  exact size_of_append (rest_of_readName h).1.symm

/-- A local name is not empty, and it is a part of what was written. -/
theorem size_splitName {run : List Char} {name : QualifiedName} (h : splitName run = some name) :
    1 ≤ name.localName.utf8ByteSize ∧ name.localName.utf8ByteSize ≤ byteLength run := by
  have hpos : ∀ cs : List Char, splitName.startsName cs = true → 1 ≤ byteLength cs := by
    intro cs hcs
    cases cs with
    | nil => cases hcs
    | cons c rest =>
      have hlength := length_le_byteLength (c :: rest)
      rw [List.length_cons] at hlength
      omega
  unfold splitName at h
  split at h
  · split at h
    · next hstarts =>
      obtain rfl := Option.some.inj h
      have hrun := hpos _ hstarts
      rw [utf8ByteSize_ofList]
      omega
    · cases h
  · next lead tail hcut =>
    split at h
    · next hstarts =>
      obtain rfl := Option.some.inj h
      simp only [Bool.and_eq_true] at hstarts
      have htail := hpos _ hstarts.1.2
      rw [(Text.cutAt?_eq_some_iff.1 hcut).2, byteLength_append, byteLength_cons,
        utf8ByteSize_ofList]
      omega
    · cases h

theorem size_readQualifiedName {name : QualifiedName}
    (h : cur.readQualifiedName = .ok (name, next)) :
    1 ≤ name.localName.utf8ByteSize ∧ name.localName.utf8ByteSize + next.size ≤ cur.size := by
  have hrun := cur.size_readWhile isNameChar
  unfold readQualifiedName at h
  simp only at h
  split at h
  · next name' hname =>
    cases h
    have hlocal := size_splitName hname
    omega
  · cases h

theorem size_expectEquals (h : cur.expectEquals = .ok next) : next.size + 1 ≤ cur.size := by
  obtain ⟨equated, hexpect, h⟩ := bind_eq_ok h
  cases h
  have hover := size_expect hexpect
  have hbefore := cur.size_skipBlanks_le
  have hbehind := equated.size_skipBlanks_le
  omega

theorem size_readQuote {quote : Char} (h : cur.readQuote = .ok (quote, next)) :
    next.size + 1 ≤ cur.size := size_of_cons (rest_of_readQuote h).1

/-- An attribute is longer than its local name and its written value: there are an equals
sign and two quotation marks as well. -/
theorem size_readAttribute {written : WrittenAttribute}
    (h : cur.readAttribute = .ok (written, next)) :
    written.name.localName.utf8ByteSize + byteLength written.value + next.size + 3 ≤ cur.size := by
  obtain ⟨⟨name, named⟩, hname, h⟩ := bind_eq_ok h
  obtain ⟨equated, hequals, h⟩ := bind_eq_ok h
  obtain ⟨⟨quote, opened⟩, hquote, h⟩ := bind_eq_ok h
  obtain ⟨⟨value, stopped⟩, hvalue, h⟩ := bind_eq_ok h
  obtain ⟨closed, hclose, h⟩ := bind_eq_ok h
  cases h
  have h₁ := (size_readQualifiedName hname).2
  have h₂ := size_expectEquals hequals
  have h₃ := size_readQuote hquote
  have h₄ := size_readUntil hvalue
  have h₅ := size_expect hclose
  simp only
  omega

end Cursor

/-! ## References and character data -/

namespace Reference

theorem namedChar_size {name : String} {c : Char} (h : namedChar name = some c) :
    c.utf8Size = 1 := by
  unfold namedChar at h
  split at h
  all_goals first | cases h; decide | cases h

/-- A numeric reference has a mark and a digit at least, and the name of another is not
shorter than the character: with ampersand and semicolon no character takes more. -/
theorem size_readBody {cur next : Cursor} {c : Char}
    (h : readBody cur = some (.character c, next)) :
    c.utf8Size + next.size ≤ cur.size + 2 := by
  have hc := c.utf8Size_le_four
  unfold readBody at h
  simp only at h
  split at h
  · next hmark =>
    have hdigits := (cur.drop 2).size_readWhile (isDigitOf true)
    have hdrop : (cur.drop 2).size + 2 ≤ cur.size :=
      Cursor.size_drop_add (Cursor.length_le_of_startsWith hmark)
    obtain ⟨d, -, hd⟩ := Option.map_eq_some_iff.1 h
    cases hd
    omega
  · split at h
    · next hmark =>
      have hdrop : (cur.drop 1).size + 1 ≤ cur.size :=
        Cursor.size_drop_add (Cursor.length_le_of_startsWith hmark)
      have hdigits := (cur.drop 1).size_readWhile (isDigitOf false)
      obtain ⟨d, hd, hpair⟩ := Option.map_eq_some_iff.1 h
      cases hpair
      -- There is a digit, so the mark and the digits have two bytes.
      have hsome : (cur.drop 1).readWhile (isDigitOf false) |>.1.length ≠ 0 := by
        intro hnone
        rw [List.length_eq_zero_iff] at hnone
        rw [numbered, hnone] at hd
        cases hd
      have hlength := length_le_byteLength ((cur.drop 1).readWhile (isDigitOf false)).1
      omega
    · split at h
      · next name after hname =>
        split at h
        · next d hd =>
          cases h
          have hone := namedChar_size hd
          have hread := Cursor.size_readName hname
          omega
        · cases h
      · cases h

/-- A reference is no shorter than the character that it names. -/
theorem size_read {cur next : Cursor} {c : Char} (hc : cur.rest ≠ [])
    (h : read cur = some (.character c, next)) : c.utf8Size + next.size ≤ cur.size := by
  have hdrop : (cur.drop 1).size + 1 ≤ cur.size :=
    Cursor.size_drop_add (List.length_pos_iff.2 hc)
  unfold read at h
  split at h
  · cases h
  · next reference after hbody =>
    split at h
    · next closed hclose =>
      cases h
      have hread := size_readBody hbody
      have hover := Cursor.size_expect hclose
      omega
    · cases h

end Reference

namespace Piece

theorem size_go (cur : Cursor) (run : List Piece) {pieces : List Piece}
    (h : read.go cur run = .ok pieces) :
    byteLength (pieces.map char) ≤ byteLength (run.map char) + cur.size := by
  fun_induction read.go cur run with
  | case1 cur run hrest =>
    obtain rfl := Except.ok.inj h
    rw [List.map_reverse, byteLength_reverse]
    omega
  | case2 => cases h
  | case3 => cases h
  | case4 cur run c rest hrest _ d next hread _ ih =>
    have hsize := Reference.size_read (by rw [hrest]; nofun) hread
    have hlater := ih h
    simp only [List.map_cons, byteLength_cons, char] at hlater
    omega
  | case5 cur run c rest hrest _ _ ih =>
    have hsize : c.utf8Size + (cur.drop 1).size = cur.size := by
      rw [Cursor.size, Cursor.size, Cursor.drop_rest, hrest]
      simp
    have hlater := ih h
    simp only [List.map_cons, byteLength_cons, char] at hlater
    omega

/-- A run of character data is no shorter than the characters that it stands for. -/
theorem size_read {cur : Cursor} {pieces : List Piece} (h : read cur = .ok pieces) :
    byteLength (pieces.map char) ≤ cur.size := by
  have hgo := size_go cur [] h
  simpa using hgo

/-- A return becomes a line feed, or goes together with the one behind it: either way the
text takes no more than what it is made of. -/
theorem byteLength_text_go (pieces : List Piece) (afterReference : Bool) (run : List Char) :
    byteLength (text.go pieces afterReference run) ≤
      byteLength (pieces.map char) + byteLength run := by
  have hfeed : '\n'.utf8Size = 1 := by decide
  fun_induction text.go pieces afterReference run with
  | case1 => rw [byteLength_reverse]; omega
  | case2 c rest _ run ih =>
    simp only [List.map_cons, byteLength_cons, char] at ih ⊢
    omega
  | case3 c afterReference run =>
    have hc := c.utf8Size_pos
    rw [byteLength_reverse]
    simp only [List.map_cons, List.map_nil, byteLength_cons, byteLength_nil, char]
    split <;> omega
  | case4 c d rest _ run ih =>
    simp only [List.map_cons, byteLength_cons, char] at ih ⊢
    omega
  | case5 c d rest _ run _ _ ih =>
    have hc := c.utf8Size_pos
    simp only [List.map_cons, byteLength_cons, char] at ih ⊢
    omega
  | case6 c d rest _ run _ _ ih =>
    have hc := c.utf8Size_pos
    simp only [List.map_cons, byteLength_cons, char] at ih ⊢
    omega
  | case7 c d rest _ run _ ih =>
    simp only [List.map_cons, byteLength_cons, char] at ih ⊢
    omega

theorem byteLength_text (pieces : List Piece) :
    byteLength (text pieces) ≤ byteLength (pieces.map char) := by
  have hgo := byteLength_text_go pieces false []
  simpa [text] using hgo

theorem byteLength_attributeValue_go (pieces : List Piece) (run : List Char) :
    byteLength (attributeValue.go pieces run) ≤ byteLength (pieces.map char) + byteLength run := by
  have hblank : ' '.utf8Size = 1 := by decide
  fun_induction attributeValue.go pieces run with
  | case1 => rw [byteLength_reverse]; omega
  | case2 c rest run ih =>
    simp only [List.map_cons, byteLength_cons, char] at ih ⊢
    omega
  | case3 c rest run _ ih =>
    simp only [List.map_cons, byteLength_cons, char] at ih ⊢
    omega
  | case4 c rest run _ _ ih =>
    have hc := c.utf8Size_pos
    simp only [List.map_cons, byteLength_cons, char] at ih ⊢
    omega
  | case5 c rest run _ _ ih =>
    simp only [List.map_cons, byteLength_cons, char] at ih ⊢
    omega

theorem byteLength_attributeValue (pieces : List Piece) :
    byteLength (attributeValue pieces) ≤ byteLength (pieces.map char) := by
  have hgo := byteLength_attributeValue_go pieces []
  simpa [attributeValue] using hgo

end Piece

/-! ## Tokens -/

/-- What is kept of the attributes of a tag: local names and values. -/
def TagAttribute.size (a : TagAttribute) : Nat :=
  a.name.localName.utf8ByteSize + a.value.utf8ByteSize

/-- What is kept of an attribute that declares a namespace is no part of the tree. -/
def TagItem.size : TagItem → Nat
  | plain a => a.size
  | declaration _ | reserved => 0

/-- The least that a tag can be written in: its brackets, its name and what is kept of its
attributes. -/
def StartTag.size (tag : StartTag) : Nat :=
  (if tag.selfClosing then 3 else 2) + max 1 tag.name.localName.utf8ByteSize +
    (tag.attributes.map TagAttribute.size).sum

/-- The least that a token can be written in. -/
def Token.size : Token → Nat
  | start tag => tag.size
  | close _ _ => 1
  | text value => value.utf8ByteSize
  | comment value => value.utf8ByteSize
  | instruction target value => target.utf8ByteSize + (value.getD "").utf8ByteSize

theorem sum_plain_size (items : List TagItem) :
    ((items.filterMap TagItem.plain?).map TagAttribute.size).sum = (items.map TagItem.size).sum := by
  induction items with
  | nil => rfl
  | cons item rest ih =>
    rw [List.filterMap_cons, List.map_cons, List.sum_cons, ← ih]
    cases item with
    | declaration d => simp only [TagItem.plain?, TagItem.size, Nat.zero_add]
    | reserved => simp only [TagItem.plain?, TagItem.size, Nat.zero_add]
    | plain a => simp only [TagItem.plain?, TagItem.size, List.map_cons, List.sum_cons]

theorem TagItem.size_of {earlier : List Declaration} {name : QualifiedName} {value : String}
    {position : Position} {item : TagItem} (h : TagItem.of earlier name value position = .ok item) :
    item.size ≤ name.localName.utf8ByteSize + value.utf8ByteSize := by
  unfold TagItem.of at h
  repeat' split at h
  all_goals cases h
  all_goals simp [TagItem.size, TagAttribute.size]

namespace Cursor

variable {cur next : Cursor}

theorem size_readTagItem {earlier : List Declaration} {item : TagItem}
    (h : cur.readTagItem earlier = .ok (item, next)) : item.size + next.size ≤ cur.size := by
  obtain ⟨⟨written, after⟩, hwritten, h⟩ := bind_eq_ok h
  obtain ⟨pieces, hpieces, h⟩ := bind_eq_ok h
  obtain ⟨item', hitem, h⟩ := bind_eq_ok h
  cases h
  have h₁ := size_readAttribute hwritten
  have h₂ := Piece.size_read hpieces
  have h₃ := Piece.byteLength_attributeValue pieces
  have h₄ := TagItem.size_of hitem
  rw [utf8ByteSize_ofList] at h₄
  rw [size] at h₂
  simp only at h₂ h₄
  omega

/-- What a part of a start tag takes. -/
def TagStep.size : TagStep → Nat
  | .nothing => 0
  | .finish selfClosing next => (if selfClosing then 2 else 1) + next.size
  | .item part next => part.size + next.size

theorem size_readTagPart {earlier : List Declaration} {afterBlank : Bool} {step : TagStep}
    (h : cur.readTagPart earlier afterBlank = .ok step) : step.size ≤ cur.size := by
  unfold readTagPart at h
  split at h
  · cases h
  next c rest hrest =>
  have hdrop : (cur.drop 1).size + 1 ≤ cur.size := by
    apply size_drop_add
    rw [hrest, List.length_cons]
    omega
  split at h
  · obtain ⟨closed, hclose, h⟩ := bind_eq_ok h
    cases h
    have hover := size_expect hclose
    simp only [TagStep.size, if_true]
    omega
  split at h
  · cases h
    simp only [TagStep.size, Bool.false_eq_true, if_false]
    omega
  split at h
  · obtain ⟨⟨item, after⟩, hitem, h⟩ := bind_eq_ok h
    cases h
    exact size_readTagItem hitem
  · cases h

theorem size_readTagStep {earlier : List Declaration} {step : TagStep}
    (h : cur.readTagStep earlier = .ok step) : step.size ≤ cur.size := by
  unfold readTagStep at h
  split at h
  · cases h
    exact Nat.zero_le _
  · exact Nat.le_trans (size_readTagPart h) cur.size_skipBlanks_le

theorem size_readTagItems {name : QualifiedName} {position : Position} {items : List TagItem}
    {cur next : Cursor} {tag : StartTag}
    (h : readTagItems name position items cur = .ok (some (tag, next))) :
    tag.size + next.size ≤
      1 + max 1 name.localName.utf8ByteSize + (items.map TagItem.size).sum + cur.size := by
  fun_induction readTagItems name position items cur with
  | case1 => cases h
  | case2 => cases h
  | case3 items cur selfClosing after hstep =>
    cases h
    have hsize := size_readTagStep hstep
    simp only [TagStep.size] at hsize
    simp only [StartTag.size, StartTag.ofItems, sum_plain_size, List.map_reverse,
      List.sum_reverse]
    split at hsize <;> simp_all <;> omega
  | case4 items cur item after hstep _ ih =>
    have hsize := size_readTagStep hstep
    have hlater := ih h
    simp only [TagStep.size] at hsize
    simp only [List.map_cons, List.sum_cons] at hlater
    omega

theorem size_readStartTag {tag : StartTag} (hc : cur.rest ≠ [])
    (h : cur.readStartTag = .ok (some (tag, next))) : tag.size + next.size ≤ cur.size := by
  have hdrop : (cur.drop 1).size + 1 ≤ cur.size := size_drop_add (List.length_pos_iff.2 hc)
  obtain ⟨⟨name, named⟩, hname, h⟩ := bind_eq_ok h
  simp only at h
  split at h
  · cases h
  have hread := size_readQualifiedName hname
  have hitems := size_readTagItems h
  simp only [List.map_nil, List.sum_nil] at hitems
  omega

theorem size_readEndTag {token : Token} (h : cur.readEndTag = .ok (token, next)) :
    token.size + next.size ≤ cur.size := by
  obtain ⟨⟨name, named⟩, hname, h⟩ := bind_eq_ok h
  obtain ⟨closed, hclose, h⟩ := bind_eq_ok h
  cases h
  have h₁ := (size_readQualifiedName hname).2
  have h₂ := size_expect hclose
  have h₃ := named.size_skipBlanks_le
  have h₄ := cur.size_drop_le 2
  simp only [Token.size]
  omega

theorem size_readComment {token : Token} (h : cur.readComment = .ok (token, next)) :
    token.size + next.size ≤ cur.size := by
  obtain ⟨⟨text, after⟩, hread, h⟩ := bind_eq_ok h
  simp only at h
  split at h
  · cases h
  cases h
  have hsize := size_readThrough hread
  have hdrop := cur.size_drop_le 4
  simp only [Token.size, utf8ByteSize_ofList]
  omega

theorem size_readInstruction {token : Token} (h : cur.readInstruction = .ok (token, next)) :
    token.size + next.size ≤ cur.size := by
  unfold readInstruction at h
  split at h
  · cases h
  obtain ⟨⟨target, named⟩, hname, h⟩ := bind_eq_ok h
  obtain ⟨⟨value, after⟩, hread, h⟩ := bind_eq_ok h
  cases h
  have h₁ := size_readName hname
  have h₂ := size_readThrough hread
  have h₃ := named.size_skipBlanks_le
  have h₄ := cur.size_drop_le 2
  simp only [Token.size]
  split
  · simp only [Option.getD_none, String.utf8ByteSize_empty]
    omega
  · simp only [Option.getD_some, utf8ByteSize_ofList]
    omega

theorem size_readSection {token : Token} (h : cur.readSection = .ok (token, next)) :
    token.size + next.size ≤ cur.size := by
  obtain ⟨⟨text, after⟩, hread, h⟩ := bind_eq_ok h
  cases h
  have hchars : (text.map Piece.literal).map Piece.char = text := by
    rw [List.map_map]
    exact List.map_id text
  have h₁ := size_readThrough hread
  have h₂ := cur.size_drop_le 9
  have h₃ := Piece.byteLength_text (text.map .literal)
  rw [hchars] at h₃
  simp only [Token.size, utf8ByteSize_ofList]
  omega

theorem size_readText {token : Token} (h : cur.readText = .ok (token, next)) :
    token.size + next.size ≤ cur.size := by
  obtain ⟨⟨text, after⟩, hread, h⟩ := bind_eq_ok h
  simp only at h
  split at h
  · cases h
  obtain ⟨pieces, hpieces, h⟩ := bind_eq_ok h
  cases h
  have h₁ := size_readUntil hread
  have h₂ := Piece.size_read hpieces
  have h₃ := Piece.byteLength_text pieces
  rw [size] at h₂
  simp only [Token.size, utf8ByteSize_ofList] at h₂ ⊢
  omega

end Cursor

end Instrumentation.Xml
