import Instrumentation.Xml.Reading
import Instrumentation.Proofs.Xml.Lexemes
/-
  What stands before the document element

  In front of the element of a document that is read there may be a byte order mark, an
  XML declaration, and then blanks, comments and processing instructions. There is no
  place for a document type: a comment ends with the first end mark behind its beginning,
  an instruction likewise, and no left angle bracket stands inside the declaration.

  What is proved:
    1. `HasElement.not_hasDoctype` — where an element stands behind such a prolog, no
       document type does.
    2. `passes_readAttribute`, `exists_declaration` — what an XML declaration is made of.
    3. `prolog_of_run` — what is read over before the first start tag.
    4. `prolog_of_read` — a document that is read begins with a prolog and an element.
-/

namespace Instrumentation.Xml

/-! ## Prologs -/

/-- What may stand between the XML declaration and the document element. -/
inductive Misc : List Char → Prop where
  | nil : Misc []
  | blank {c : Char} {rest : List Char} (hc : isBlank c = true) (hrest : Misc rest) :
    Misc (c :: rest)
  | comment {body rest : List Char} (hbody : ¬ "-->".toList <:+: body) (hrest : Misc rest) :
    Misc ("<!--".toList ++ body ++ "-->".toList ++ rest)
  | instruction {body rest : List Char} (hbody : ¬ "?>".toList <:+: body) (hrest : Misc rest) :
    Misc ("<?".toList ++ body ++ "?>".toList ++ rest)

/-- Whether an element stands at the beginning of a text. -/
def BeginsElement (cs : List Char) : Prop :=
  ∃ c rest, cs = '<' :: c :: rest ∧ isNameStart c = true

/-- A text with an element behind what may stand in front of one. -/
def HasElement (cs : List Char) : Prop :=
  ∃ misc element, cs = misc ++ element ∧ Misc misc ∧ BeginsElement element

/-- A text with a document type behind what may stand in front of it. -/
def HasDoctype (cs : List Char) : Prop :=
  ∃ misc rest, cs = misc ++ "<!DOCTYPE".toList ++ rest ∧ Misc misc

/-- An XML declaration, or nothing. -/
def IsDeclaration (cs : List Char) : Prop :=
  cs = [] ∨ ∃ body, cs = "<?xml ".toList ++ body ++ "?>".toList ∧ '<' ∉ body

theorem Misc.append {cs more : List Char} (h : Misc cs) (hmore : Misc more) : Misc (cs ++ more) := by
  induction h with
  | nil => exact hmore
  | blank hc _ ih => exact .blank hc ih
  | comment hbody _ ih =>
    rw [List.append_assoc]
    exact .comment hbody ih
  | instruction hbody _ ih =>
    rw [List.append_assoc]
    exact .instruction hbody ih

theorem Misc.blanks {cs : List Char} (h : ∀ c ∈ cs, isBlank c = true) : Misc cs := by
  induction cs with
  | nil => exact .nil
  | cons c rest ih =>
    apply Misc.blank (h c List.mem_cons_self)
    exact ih fun d hd => h d (List.mem_cons_of_mem c hd)

theorem HasElement.behind {cs misc : List Char} (h : HasElement cs) (hmisc : Misc misc) :
    HasElement (misc ++ cs) := by
  obtain ⟨front, element, rfl, hfront, helement⟩ := h
  exact ⟨misc ++ front, element, (List.append_assoc ..).symm, hmisc.append hfront, helement⟩

/-! ## An element or a document type, not both -/

/-- No end of the mark that is not the whole of it is also a beginning of it. -/
def Unbordered (mark : List Char) : Prop :=
  ∀ n < mark.length, 0 < n → ¬ mark.drop n <+: mark

instance (mark : List Char) : Decidable (Unbordered mark) :=
  inferInstanceAs (Decidable (∀ n < mark.length, 0 < n → ¬ mark.drop n <+: mark))

theorem Unbordered.eq_nil {mark front between behind rest : List Char} (hmark : Unbordered mark)
    (hfront : ¬ mark <:+: front ++ between) (h : mark ++ behind = between ++ (mark ++ rest)) :
    between = [] := by
  rcases List.append_eq_append_iff.1 h with ⟨more, rfl, -⟩ | ⟨more, heq, hbehind⟩
  · exact absurd ⟨front, more, List.append_assoc ..⟩ hfront
  · cases between with
    | nil => rfl
    | cons c between =>
      exfalso
      have hlength := congrArg List.length heq
      rw [List.length_append, List.length_cons] at hlength
      have hmore : more = mark.drop (between.length + 1) := by
        rw [heq, ← List.length_cons (a := c), List.drop_left]
      cases more with
      | nil =>
        rw [List.append_nil] at heq
        exact hfront ⟨front, [], by rw [heq, List.append_nil]⟩
      | cons d more =>
        rw [List.length_cons] at hlength
        apply hmark (between.length + 1) (by omega) (by omega)
        rw [← hmore]
        have hprefix : d :: more <+: mark ++ rest := ⟨behind, hbehind.symm⟩
        exact List.prefix_of_prefix_length_le hprefix (List.prefix_append mark rest)
          (by rw [List.length_cons]; omega)

/-- A text is cut at the first of such marks in one way only. -/
theorem Unbordered.cut_inj {mark front front' behind behind' : List Char} (hmark : Unbordered mark)
    (hfront : ¬ mark <:+: front) (hfront' : ¬ mark <:+: front')
    (h : front ++ mark ++ behind = front' ++ mark ++ behind') : behind = behind' := by
  rw [List.append_assoc, List.append_assoc] at h
  rcases List.append_eq_append_iff.1 h with ⟨between, rfl, heq⟩ | ⟨between, rfl, heq⟩
  · obtain rfl := hmark.eq_nil hfront' heq
    exact List.append_cancel_left heq
  · obtain rfl := hmark.eq_nil hfront heq
    exact (List.append_cancel_left heq).symm

section

variable {c : Char} {body rest : List Char}

theorem not_hasDoctype_element (hc : isNameStart c = true) : ¬ HasDoctype ('<' :: c :: rest) := by
  rintro ⟨misc, behind, h, hmisc⟩
  cases hmisc with
  | nil =>
    obtain ⟨rfl, -⟩ : c = '!' ∧ _ := by simpa using h
    cases hc
  | blank hb _ =>
    obtain rfl := (List.cons.inj h).1
    cases hb
  | comment _ _ =>
    obtain ⟨rfl, -⟩ : c = '!' ∧ _ := by simpa using h
    cases hc
  | instruction _ _ =>
    obtain ⟨rfl, -⟩ : c = '?' ∧ _ := by simpa using h
    cases hc

theorem HasDoctype.of_blank (hc : isBlank c = true) (h : HasDoctype (c :: rest)) :
    HasDoctype rest := by
  obtain ⟨misc, behind, h, hmisc⟩ := h
  cases hmisc with
  | blank _ hmore => exact ⟨_, behind, (List.cons.inj h).2, hmore⟩
  | nil | comment _ _ | instruction _ _ =>
    obtain ⟨rfl, -⟩ : c = '<' ∧ _ := by simpa using h
    cases hc

theorem HasDoctype.of_comment (hbody : ¬ "-->".toList <:+: body)
    (h : HasDoctype ("<!--".toList ++ body ++ "-->".toList ++ rest)) : HasDoctype rest := by
  obtain ⟨misc, behind, h, hmisc⟩ := h
  cases hmisc with
  | nil => simp at h
  | blank hb _ =>
    obtain rfl := (List.cons.inj h).1
    cases hb
  | instruction _ _ => simp at h
  | @comment body' more hbody' hmore =>
    have hmark : Unbordered "-->".toList := by decide
    have hcut : body ++ "-->".toList ++ rest =
        body' ++ "-->".toList ++ (more ++ "<!DOCTYPE".toList ++ behind) := by
      simpa only [List.append_assoc, List.append_cancel_left_eq] using h
    exact ⟨more, behind, hmark.cut_inj hbody hbody' hcut, hmore⟩

theorem HasDoctype.of_instruction (hbody : ¬ "?>".toList <:+: body)
    (h : HasDoctype ("<?".toList ++ body ++ "?>".toList ++ rest)) : HasDoctype rest := by
  obtain ⟨misc, behind, h, hmisc⟩ := h
  cases hmisc with
  | nil => simp at h
  | blank hb _ =>
    obtain rfl := (List.cons.inj h).1
    cases hb
  | comment _ _ => simp at h
  | @instruction body' more hbody' hmore =>
    have hmark : Unbordered "?>".toList := by decide
    have hcut : body ++ "?>".toList ++ rest =
        body' ++ "?>".toList ++ (more ++ "<!DOCTYPE".toList ++ behind) := by
      simpa only [List.append_assoc, List.append_cancel_left_eq] using h
    exact ⟨more, behind, hmark.cut_inj hbody hbody' hcut, hmore⟩

end

/-- Where an element comes first, no document type does. -/
theorem HasElement.not_hasDoctype {cs : List Char} (h : HasElement cs) : ¬ HasDoctype cs := by
  obtain ⟨misc, element, rfl, hmisc, c, rest, rfl, hc⟩ := h
  induction hmisc with
  | nil => exact not_hasDoctype_element hc
  | blank hb _ ih =>
    intro h
    exact ih (h.of_blank hb)
  | comment hbody _ ih =>
    intro h
    rw [List.append_assoc] at h
    exact ih (h.of_comment hbody)
  | instruction hbody _ ih =>
    intro h
    rw [List.append_assoc] at h
    exact ih (h.of_instruction hbody)

/-! ## The XML declaration -/

namespace Cursor

/-- Between two places of a document no left angle bracket is read over. -/
def Passes (cur next : Cursor) : Prop :=
  ∃ passed, cur.rest = passed ++ next.rest ∧ '<' ∉ passed

variable {cur next last : Cursor}

theorem Passes.refl (cur : Cursor) : Passes cur cur := ⟨[], rfl, nofun⟩

theorem Passes.trans (h : Passes cur next) (hlast : Passes next last) : Passes cur last := by
  obtain ⟨passed, hpassed, hbracket⟩ := h
  obtain ⟨more, hmore, hbracket'⟩ := hlast
  refine ⟨passed ++ more, ?_, ?_⟩
  · rw [hpassed, hmore, List.append_assoc]
  · intro hmem
    rcases List.mem_append.1 hmem with hmem | hmem
    · exact hbracket hmem
    · exact hbracket' hmem

theorem passes_readWhile {p : Char → Bool} (hp : p '<' = false) (cur : Cursor) :
    Passes cur (cur.readWhile p).2 := by
  refine ⟨_, (cur.readWhile_append p).symm, ?_⟩
  intro hmem
  rw [mem_readWhile hmem] at hp
  cases hp

theorem passes_skipBlanks (cur : Cursor) : Passes cur cur.skipBlanks := passes_readWhile rfl cur

theorem passes_of_cons {c : Char} (h : cur.rest = c :: next.rest) (hc : c ≠ '<') :
    Passes cur next := by
  refine ⟨[c], h, ?_⟩
  intro hmem
  exact hc (List.mem_singleton.1 hmem).symm

theorem passes_readQualifiedName {name : QualifiedName}
    (h : cur.readQualifiedName = .ok (name, next)) : Passes cur next := by
  unfold readQualifiedName at h
  simp only at h
  split at h
  · cases h
    exact passes_readWhile (by decide) cur
  · cases h

theorem passes_expectEquals (h : cur.expectEquals = .ok next) : Passes cur next := by
  obtain ⟨equated, hexpect, h⟩ := bind_eq_ok h
  cases h
  have hsign := passes_of_cons (rest_of_expect hexpect) (by decide)
  exact ((passes_skipBlanks cur).trans hsign).trans (passes_skipBlanks equated)

/-- The written value of an attribute ends at a left angle bracket at the latest. -/
theorem passes_readAttribute {written : WrittenAttribute}
    (h : cur.readAttribute = .ok (written, next)) : Passes cur next := by
  obtain ⟨⟨name, named⟩, hname, h⟩ := bind_eq_ok h
  obtain ⟨equated, hequals, h⟩ := bind_eq_ok h
  obtain ⟨⟨quote, opened⟩, hquote, h⟩ := bind_eq_ok h
  obtain ⟨⟨value, stopped⟩, hvalue, h⟩ := bind_eq_ok h
  obtain ⟨closed, hclose, h⟩ := bind_eq_ok h
  cases h
  obtain ⟨hopened, hmark⟩ := rest_of_readQuote hquote
  have hbracket : quote ≠ '<' := by
    rcases hmark with rfl | rfl
    · decide
    · decide
  have hinner : Passes opened stopped := by
    refine ⟨value, (readUntil_append hvalue).symm, ?_⟩
    intro hmem
    obtain ⟨front, back, rfl⟩ := List.append_of_mem hmem
    have hstop := readUntil_stop hvalue (by simp)
    simp at hstop
  exact (passes_readQualifiedName hname).trans <| (passes_expectEquals hequals).trans <|
    (passes_of_cons hopened hbracket).trans <| hinner.trans <|
      passes_of_cons (rest_of_expect hclose) hbracket

theorem passes_skipDeclarationBlanks (h : cur.skipDeclarationBlanks = .ok next) :
    Passes cur next := by
  unfold skipDeclarationBlanks at h
  split at h
  · cases h
    exact Passes.refl _
  · split at h
    · cases h
      exact passes_skipBlanks cur
    · cases h

theorem passes_skipDeclarationPart {name : String}
    (h : cur.skipDeclarationPart name = .ok next) : Passes cur next := by
  unfold skipDeclarationPart at h
  split at h
  · obtain ⟨⟨written, after⟩, hread, h⟩ := bind_eq_ok h
    cases h
    exact passes_readAttribute hread
  · cases h
    exact Passes.refl _

theorem exists_declaration (h : cur.skipDeclaration = .ok next) :
    ∃ declaration, cur.rest = declaration ++ next.rest ∧ IsDeclaration declaration := by
  unfold skipDeclaration at h
  split at h
  · next hstarts =>
    obtain ⟨opened, hopened, h⟩ := bind_eq_ok h
    obtain ⟨_, _, h⟩ := bind_eq_ok h
    obtain ⟨versioned, hversioned, h⟩ := bind_eq_ok h
    obtain ⟨named, hnamed, hversion⟩ := bind_eq_ok hversioned
    -- The encoding may be left out.
    obtain ⟨encoded, hencoded, h⟩ : ∃ encoded, Passes versioned encoded ∧
        (encoded.skipDeclarationPart "standalone" >>= fun closed =>
          closed.skipBlanks.expectString "?>") = .ok next := by
      simp only at h
      split at h
      · obtain ⟨encoded, hencoded, h⟩ := bind_eq_ok h
        obtain ⟨after, hafter, hblanks⟩ := bind_eq_ok hencoded
        exact ⟨encoded, (passes_skipDeclarationPart hafter).trans
          (passes_skipDeclarationBlanks hblanks), h⟩
      · exact ⟨versioned, Passes.refl _, h⟩
    obtain ⟨closed, hclosed, h⟩ := bind_eq_ok h
    obtain ⟨passed, hpassed, hbracket⟩ :=
      (passes_skipDeclarationBlanks hopened).trans <| (passes_skipDeclarationPart hnamed).trans <|
        (passes_skipDeclarationBlanks hversion).trans <| hencoded.trans <|
          (passes_skipDeclarationPart hclosed).trans (passes_skipBlanks closed)
    have hbegins := rest_of_startsWith hstarts
    rw [rest_of_expectString h] at hpassed
    have hblank : (cur.drop 5).rest = ' ' :: (cur.drop "<?xml ".toList.length).rest := by
      rw [drop_rest, hbegins]
      rfl
    -- The blank behind the mark is read over before the end mark.
    cases passed with
    | nil =>
      rw [hblank] at hpassed
      cases hpassed
    | cons c body =>
      rw [hblank, List.cons_append, List.cons.injEq] at hpassed
      refine ⟨"<?xml ".toList ++ body ++ "?>".toList, ?_, .inr ⟨body, rfl, ?_⟩⟩
      · rw [hbegins, hpassed.2, List.append_assoc, List.append_assoc]
      · intro hmem
        exact hbracket (List.mem_cons_of_mem c hmem)
  · cases h
    exact ⟨[], rfl, .inl rfl⟩

theorem exists_byteOrderMark (cur : Cursor) :
    ∃ mark, cur.rest = mark ++ cur.skipByteOrderMark.rest ∧ (mark = [] ∨ mark = ['\uFEFF']) := by
  unfold skipByteOrderMark
  split
  · next hstarts => exact ⟨['\uFEFF'], rest_of_startsWith hstarts, .inr rfl⟩
  · exact ⟨[], rfl, .inl rfl⟩

/-! ## Blanks, comments and instructions -/

theorem exists_blanks (cur : Cursor) :
    ∃ blanks, cur.rest = blanks ++ cur.skipBlanks.rest ∧ Misc blanks := by
  obtain ⟨blanks, hrest, hblank⟩ := rest_of_skipBlanks cur
  exact ⟨blanks, hrest, .blanks hblank⟩

theorem exists_comment {token : Token} (hstarts : cur.startsWith "<!--".toList = true)
    (h : cur.readComment = .ok (token, next)) :
    ∃ misc, cur.rest = misc ++ next.rest ∧ Misc misc := by
  obtain ⟨⟨text, after⟩, hread, h⟩ := bind_eq_ok h
  simp only at h
  split at h
  · cases h
  cases h
  obtain ⟨hrest, hbody⟩ := rest_of_readThrough (by decide) hread
  refine ⟨"<!--".toList ++ text ++ "-->".toList ++ [], ?_, .comment hbody .nil⟩
  rw [rest_of_startsWith hstarts, List.append_nil, List.append_assoc, List.append_assoc,
    ← List.append_assoc text, ← hrest]
  rfl

/-- An end mark that begins with a character which does not stand in front is not there
because of what stands in front. -/
theorem not_infix_append {mark front text : List Char} {c : Char} (h : ¬ c :: mark <:+: text)
    (hc : c ∉ front) : ¬ c :: mark <:+: front ++ text := by
  induction front with
  | nil => exact h
  | cons d front ih =>
    rw [List.cons_append, List.infix_cons_iff]
    rintro (hbegins | hinfix)
    · obtain ⟨rest, hrest⟩ := hbegins
      obtain rfl : c = d := by simpa using congrArg List.head? hrest
      exact hc List.mem_cons_self
    · exact ih (fun hmem => hc (List.mem_cons_of_mem d hmem)) hinfix

theorem exists_instruction {token : Token} (hstarts : cur.startsWith "<?".toList = true)
    (h : cur.readInstruction = .ok (token, next)) :
    ∃ misc, cur.rest = misc ++ next.rest ∧ Misc misc := by
  unfold readInstruction at h
  split at h
  · cases h
  obtain ⟨⟨target, named⟩, hname, h⟩ := bind_eq_ok h
  obtain ⟨⟨value, after⟩, hread, h⟩ := bind_eq_ok h
  cases h
  obtain ⟨htarget, hchars⟩ := rest_of_readName hname
  obtain ⟨blanks, hblanks, hblank⟩ := rest_of_skipBlanks named
  obtain ⟨hrest, hvalue⟩ := rest_of_readThrough (by decide) hread
  have hbody : ¬ "?>".toList <:+: target.toList ++ blanks ++ value := by
    rw [List.append_assoc]
    refine not_infix_append (not_infix_append hvalue ?_) ?_
    · intro hmem
      have hmark := hblank _ hmem
      cases hmark
    · intro hmem
      have hmark := hchars _ hmem
      revert hmark
      decide
  refine ⟨"<?".toList ++ (target.toList ++ blanks ++ value) ++ "?>".toList ++ [], ?_,
    .instruction hbody .nil⟩
  have hdrop : (cur.drop 2).rest = target.toList ++ blanks ++ value ++ "?>".toList ++ next.rest := by
    rw [htarget, hblanks, hrest]
    simp only [List.append_assoc]
  rw [rest_of_startsWith hstarts, List.append_nil]
  show _ ++ (cur.drop 2).rest = _
  rw [hdrop]
  simp only [List.append_assoc]

end Cursor

/-! ## The first start tag -/

def Token.isStart : Token → Bool
  | start _ => true
  | close _ _ | text _ | comment _ | instruction _ _ => false

namespace Step

variable {place place' : Place} {cur next : Cursor} {token : Token}

theorem beginsElement_of_begin (hstarts : cur.startsWith ['<'] = true)
    (h : begin place cur.readStartTag = .ok (.token token place' next)) :
    BeginsElement cur.rest := by
  unfold begin at h
  split at h
  · cases h
  · next tag after hread =>
    obtain ⟨⟨name, named⟩, hname, -⟩ := bind_eq_ok hread
    obtain ⟨c, rest, hrest, hc⟩ := Cursor.begins_of_readQualifiedName hname
    refine ⟨c, rest, ?_, hc⟩
    rw [Cursor.rest_of_startsWith hstarts, List.singleton_append]
    exact congrArg _ hrest
  · cases h

theorem remark?_prolog (h : remark? place cur = some (.ok (.token token place' next))) :
    token.isStart = false ∧ place' = place ∧ ∃ misc, cur.rest = misc ++ next.rest ∧ Misc misc := by
  have hcomment : ∀ {t n}, cur.readComment = .ok (t, n) → t.isStart = false := by
    intro t n hread
    obtain ⟨⟨text, after⟩, -, hread⟩ := bind_eq_ok hread
    simp only at hread
    split at hread
    · cases hread
    · cases hread
      rfl
  have hinstruction : ∀ {t n}, cur.readInstruction = .ok (t, n) → t.isStart = false := by
    intro t n hread
    unfold Cursor.readInstruction at hread
    split at hread
    · cases hread
    obtain ⟨⟨target, named⟩, -, hread⟩ := bind_eq_ok hread
    obtain ⟨⟨value, after⟩, -, hread⟩ := bind_eq_ok hread
    cases hread
    rfl
  unfold remark? at h
  split at h
  · next hstarts =>
    have hwithin := Option.some.inj h
    unfold within at hwithin
    split at hwithin
    · next hread =>
      cases hwithin
      exact ⟨hcomment hread, rfl, Cursor.exists_comment hstarts hread⟩
    · cases hwithin
  split at h
  · next hstarts =>
    have hwithin := Option.some.inj h
    unfold within at hwithin
    split at hwithin
    · next hread =>
      cases hwithin
      exact ⟨hinstruction hread, rfl, Cursor.exists_instruction hstarts hread⟩
    · cases hwithin
  · cases h

/-- What one step before the document element reads over. -/
theorem read_prolog (h : read .prolog cur = .ok (.token token place' next)) :
    HasElement cur.rest ∨
      token.isStart = false ∧ place' = .prolog ∧
        ∃ misc, cur.rest = misc ++ next.rest ∧ Misc misc := by
  obtain ⟨blanks, hblanks, hmisc⟩ := cur.exists_blanks
  unfold read outside at h
  simp only at h
  split at h
  · next step hremark =>
    subst h
    obtain ⟨htoken, hplace, misc, hrest, hmore⟩ := remark?_prolog hremark
    right
    refine ⟨htoken, hplace, blanks ++ misc, ?_, hmisc.append hmore⟩
    rw [hblanks, hrest, List.append_assoc]
  split at h
  · cases h
  split at h
  · cases h
  split at h
  · next hstarts =>
    left
    simp only [Bool.and_eq_true] at hstarts
    rw [hblanks]
    exact ⟨blanks, _, rfl, hmisc, beginsElement_of_begin hstarts.2 h⟩
  · cases h

end Step

/-- If a start tag is read at all, then only what may stand in front of an element is read
over before. -/
theorem prolog_of_run {place : Place} {cur : Cursor} {tokens : List Token}
    (hplace : place = .prolog) (hnone : ∀ token ∈ tokens, token.isStart = false)
    (hsome : ∃ token ∈ (Scan.run place cur tokens).tokens, token.isStart = true) :
    HasElement cur.rest := by
  fun_induction Scan.run place cur tokens with
  | case1 | case2 =>
    obtain ⟨token, hmem, hstart⟩ := hsome
    rw [hnone token (List.mem_reverse.1 hmem)] at hstart
    cases hstart
  | case3 place cur tokens token place' next hread _ ih =>
    subst hplace
    rcases Step.read_prolog hread with helement | ⟨htoken, hplace, misc, hrest, hmisc⟩
    · exact helement
    · have hnone' : ∀ t ∈ token :: tokens, t.isStart = false := by
        intro t ht
        rcases List.mem_cons.1 ht with rfl | ht
        · exact htoken
        · exact hnone t ht
      rw [hrest]
      exact (ih hplace hnone' hsome).behind hmisc

/-! ## A document has an element -/

namespace Growth

variable {limit : Nat} {growth grown : Growth}

theorem take_of_not_start {token : Token} (htoken : token.isStart = false)
    (hopened : growth.opened = []) (hnodes : growth.nodes.holdsElement = false)
    (h : growth.take limit token = .ok grown) :
    grown.opened = [] ∧ grown.nodes.holdsElement = false := by
  have hadd : ∀ behind : Content → Content, (behind growth.nodes).holdsElement = false →
      growth.add limit behind = .ok grown →
        grown.opened = [] ∧ grown.nodes.holdsElement = false := by
    intro behind hbehind hadded
    obtain ⟨count, -, hadded⟩ := bind_eq_ok hadded
    cases hadded
    exact ⟨hopened, hbehind⟩
  cases token with
  | start tag => cases htoken
  | close name position =>
    have hfinish : growth.finish name position = .ok grown := h
    rw [finish, hopened] at hfinish
    cases hfinish
  | text value =>
    have htext : growth.addText limit value = .ok grown := h
    unfold addText at htext
    split at htext
    · next earlier nodes hearlier =>
      cases htext
      rw [hearlier] at hnodes
      exact ⟨hopened, hnodes⟩
    · exact hadd _ hnodes htext
  | comment value => exact hadd _ hnodes h
  | instruction target value => exact hadd _ hnodes h

theorem exists_start {tokens : List Token} (h : growth.takeAll limit tokens = .ok grown)
    (hopened : growth.opened = []) (hnodes : growth.nodes.holdsElement = false)
    (helement : grown.nodes.holdsElement = true) : ∃ token ∈ tokens, token.isStart = true := by
  induction tokens generalizing growth with
  | nil =>
    obtain rfl := Except.ok.inj h
    rw [hnodes] at helement
    cases helement
  | cons token rest ih =>
    rw [takeAll] at h
    split at h
    · next growth' htake =>
      cases htoken : token.isStart with
      | true => exact ⟨token, List.mem_cons_self, htoken⟩
      | false =>
        obtain ⟨hopened', hnodes'⟩ := take_of_not_start htoken hopened hnodes htake
        obtain ⟨first, hmem, hfirst⟩ := ih h hopened' hnodes'
        exact ⟨first, List.mem_cons_of_mem token hmem, hfirst⟩
    · cases h

end Growth

/-- A document that is read has no document type in front of its element. -/
theorem prolog_of_read {limit : Nat} {source : String} {document : Document}
    (h : Document.read limit source = .ok document) :
    ∃ mark declaration rest, source.toList = mark ++ declaration ++ rest ∧
      (mark = [] ∨ mark = ['\uFEFF']) ∧ IsDeclaration declaration ∧ HasElement rest ∧
      ¬ HasDoctype rest := by
  have hstart : ∃ token ∈ (Scan.ofSource source).tokens, token.isStart = true := by
    unfold Document.read Document.ofScan at h
    split at h
    · cases h
    · cases h
    · next growth hgrowth _ =>
      unfold Growth.document at h
      split at h
      · cases h
      split at h
      · next helement => exact Growth.exists_start hgrowth rfl rfl helement
      · cases h
  obtain ⟨mark, hmark, hbyte⟩ := (Cursor.ofChars source.toList).exists_byteOrderMark
  unfold Scan.ofSource at hstart
  split at hstart
  · next cur hcur =>
    obtain ⟨declaration, hdeclaration, hdeclares⟩ := Cursor.exists_declaration hcur
    have hnone : ∀ token ∈ ([] : List Token), token.isStart = false := List.forall_mem_nil _
    have hrest := prolog_of_run rfl hnone hstart
    refine ⟨mark, declaration, cur.rest, ?_, hbyte, hdeclares, hrest, hrest.not_hasDoctype⟩
    rw [List.append_assoc, ← hdeclaration, ← hmark]
    rfl
  · obtain ⟨token, hmem, -⟩ := hstart
    cases hmem

end Instrumentation.Xml
