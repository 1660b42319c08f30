import Instrumentation.Format.Json
import Instrumentation.Text.Digit
/-
  Reading JSON

  A text is read in two passes, and neither looks back. The first cuts the text into
  tokens; what has been read of an unfinished token is kept, and white space between
  tokens is dropped. The second puts values together from the tokens; the arrays and
  objects that are still open are kept on a stack. The reader is for the values of
  this library: it refuses `null`, signs, fractions and exponents, and halves of
  surrogate pairs.

  What is proved:
    1. `tokens?_written` — the text of a value has the tokens of the value, in any
       layout that puts nothing but white space between them.
    2. `read_tokens` — the tokens of a value are put together to that value.
    3. `read?_compact`, `read?_pretty` — so a value is read back from its text.
-/

namespace Instrumentation.Format.Json

open Text (EndsNumber endsNumber_cons)

/-! ## Tokens -/

/-- A word of a JSON text. -/
inductive Token where
  | openArray
  | closeArray
  | openObject
  | closeObject
  | comma
  | colon
  | flag (value : Bool)
  | number (value : Nat)
  | text (value : String)
  deriving DecidableEq, Repr

/-- What has been read of an unfinished token. The characters of a text are kept with
the latest first. -/
inductive Pending where
  | nothing
  /-- The letters of a word that are still to come. -/
  | word (left : List Char) (value : Bool)
  | number (value : Nat)
  | text (read : List Char)
  /-- In a text, behind a backslash. -/
  | escape (read : List Char)
  /-- In a text, within the digits of a character. -/
  | code (read : List Char) (value missing : Nat)
  deriving DecidableEq, Repr

def isBlank (c : Char) : Bool := c == ' ' || c == '\n' || c == '\r' || c == '\t'

/-- The character that a letter behind a backslash stands for. -/
def escaped? (c : Char) : Option Char :=
  match c with
  | '"' => some '"'
  | '\\' => some '\\'
  | '/' => some '/'
  | 'b' => some '\x08'
  | 'f' => some '\x0c'
  | 'n' => some '\n'
  | 'r' => some '\r'
  | 't' => some '\t'
  | _ => none

/-- Begins a token with a character. Gives the tokens that are finished and what is
pending then. -/
def begin? (c : Char) : Option (List Token × Pending) :=
  if isBlank c then some ([], .nothing)
  else
    match c with
    | '[' => some ([.openArray], .nothing)
    | ']' => some ([.closeArray], .nothing)
    | '\x7b' => some ([.openObject], .nothing)
    | '\x7d' => some ([.closeObject], .nothing)
    | ',' => some ([.comma], .nothing)
    | ':' => some ([.colon], .nothing)
    | '"' => some ([], .text [])
    | 't' => some ([], .word ['r', 'u', 'e'] true)
    | 'f' => some ([], .word ['a', 'l', 's', 'e'] false)
    | c => (Text.digit? 10 c).map fun digit => ([], .number digit)

namespace Pending

def step? (pending : Pending) (c : Char) : Option (List Token × Pending) :=
  match pending with
  | nothing => begin? c
  | word [] _ => none
  | word [last] value => if c == last then some ([.flag value], nothing) else none
  | word (letter :: left) value => if c == letter then some ([], word left value) else none
  | number value =>
    match Text.digit? 10 c with
    -- A number of more than one digit does not begin with a zero.
    | some digit => if value = 0 then none else some ([], number (value * 10 + digit))
    | none => (begin? c).map fun (tokens, next) => (.number value :: tokens, next)
  | text read =>
    if c == '"' then some ([.text (String.ofList read.reverse)], nothing)
    else if c == '\\' then some ([], escape read)
    else if c.toNat < 0x20 then none
    else some ([], text (c :: read))
  | escape read =>
    if c == 'u' then some ([], code read 0 4)
    else (escaped? c).map fun meant => ([], text (meant :: read))
  | code read value missing =>
    (Text.digit? 16 c).bind fun digit =>
      if missing ≠ 1 then some ([], code read (value * 16 + digit) (missing - 1))
      else if (value * 16 + digit).isValidChar then
        some ([], text (Char.ofNat (value * 16 + digit) :: read))
      else none

/-- The tokens that are finished at the end of a text. -/
def finish? : Pending → Option (List Token)
  | nothing => some []
  | number value => some [.number value]
  | word _ _ | text _ | escape _ | code _ _ _ => none

end Pending

def tokens? (pending : Pending) : List Char → Option (List Token)
  | [] => pending.finish?
  | c :: rest =>
    (pending.step? c).bind fun (tokens, next) => (tokens? next rest).map (tokens ++ ·)

/-! ## Values -/

/-- An array or object that is still open, with what has been read of it, the latest
first. -/
inductive Frame where
  | array (items : List Json)
  /-- An object in which the value of a member comes next. -/
  | object (members : List (String × Json)) (name : String)

mutual

/-- Reads tokens of which a value comes next. -/
def readValue : List Frame → List Token → Option Json
  | stack, .flag value :: rest => readOn stack (.bool value) rest
  | stack, .number value :: rest => readOn stack (.number value) rest
  | stack, .text value :: rest => readOn stack (.string value) rest
  | stack, .openArray :: .closeArray :: rest => readOn stack (.array []) rest
  | stack, .openArray :: rest => readValue (.array [] :: stack) rest
  | stack, .openObject :: .closeObject :: rest => readOn stack (.object []) rest
  | stack, .openObject :: .text name :: .colon :: rest => readValue (.object [] name :: stack) rest
  | _, _ => none
termination_by structural _ tokens => tokens

/-- Reads tokens behind a value. -/
def readOn : List Frame → Json → List Token → Option Json
  | [], value, [] => some value
  | .array items :: stack, value, .comma :: rest =>
    readValue (.array (value :: items) :: stack) rest
  | .array items :: stack, value, .closeArray :: rest =>
    readOn stack (.array (value :: items).reverse) rest
  | .object members name :: stack, value, .comma :: .text next :: .colon :: rest =>
    readValue (.object ((name, value) :: members) next :: stack) rest
  | .object members name :: stack, value, .closeObject :: rest =>
    readOn stack (.object ((name, value) :: members).reverse) rest
  | _, _, _ => none
termination_by structural _ _ tokens => tokens

end

def read? (s : String) : Option Json :=
  (tokens? .nothing s.toList).bind (readValue [])

mutual

def tokens : Json → List Token
  | bool value => [.flag value]
  | number value => [.number value]
  | string value => [.text value]
  | array [] => [.openArray, .closeArray]
  | array (item :: items) => .openArray :: item.tokens ++ itemTokens items
  | object [] => [.openObject, .closeObject]
  | object ((name, value) :: members) =>
    .openObject :: .text name :: .colon :: value.tokens ++ memberTokens members

/-- The tokens of the items of an array behind its first, and of its end. -/
def itemTokens : List Json → List Token
  | [] => [.closeArray]
  | item :: items => .comma :: item.tokens ++ itemTokens items

/-- The tokens of the members of an object behind its first, and of its end. -/
def memberTokens : List (String × Json) → List Token
  | [] => [.closeObject]
  | (name, value) :: members =>
    .comma :: .text name :: .colon :: value.tokens ++ memberTokens members

end

/-! ## Tokens are put together to the value -/

theorem readValue_open (stack : List Frame) (value : Json) (rest : List Token) :
    readValue stack (.openArray :: value.tokens ++ rest) =
      readValue (.array [] :: stack) (value.tokens ++ rest) := by
  -- A value does not begin with the end of an array, so the array is not empty.
  cases value with
  | bool _ => rfl
  | number _ => rfl
  | string _ => rfl
  | array items => cases items <;> rfl
  | object members => cases members <;> rfl

mutual

theorem readValue_tokens : ∀ (value : Json) (stack : List Frame) (rest : List Token),
    readValue stack (value.tokens ++ rest) = readOn stack value rest
  | bool _, _, _ => rfl
  | number _, _, _ => rfl
  | string _, _, _ => rfl
  | array [], _, _ => rfl
  | array (item :: items), stack, rest => by
    rw [tokens, List.append_assoc]
    rw [readValue_open, readValue_tokens item, readOn_items items]
    rfl
  | object [], _, _ => rfl
  | object ((name, value) :: members), stack, rest => by
    show readValue (.object [] name :: stack) (value.tokens ++ memberTokens members ++ rest) = _
    rw [List.append_assoc, readValue_tokens value, readOn_members members]
    rfl

theorem readOn_items : ∀ (items : List Json) (before : List Json) (value : Json)
    (stack : List Frame) (rest : List Token),
    readOn (.array before :: stack) value (itemTokens items ++ rest) =
      readOn stack (.array ((value :: before).reverse ++ items)) rest
  | [], before, value, stack, rest => by
    rw [List.append_nil]
    rfl
  | item :: items, before, value, stack, rest => by
    show readValue (.array (value :: before) :: stack) (item.tokens ++ itemTokens items ++ rest) = _
    rw [List.append_assoc, readValue_tokens item, readOn_items items]
    simp

theorem readOn_members : ∀ (members before : List (String × Json)) (name : String) (value : Json)
    (stack : List Frame) (rest : List Token),
    readOn (.object before name :: stack) value (memberTokens members ++ rest) =
      readOn stack (.object (((name, value) :: before).reverse ++ members)) rest
  | [], before, name, value, stack, rest => by
    rw [List.append_nil]
    rfl
  | (next, item) :: members, before, name, value, stack, rest => by
    show readValue (.object ((name, value) :: before) next :: stack)
      (item.tokens ++ memberTokens members ++ rest) = _
    rw [List.append_assoc, readValue_tokens item, readOn_members members]
    simp

end

theorem read_tokens (value : Json) : readValue [] value.tokens = some value := by
  have h := readValue_tokens value [] []
  rw [List.append_nil] at h
  exact h

/-! ## Texts are cut into the tokens of the value -/

theorem map_append_map (o : Option (List Token)) (first second : List Token) :
    (o.map (second ++ ·)).map (first ++ ·) = o.map (first ++ second ++ ·) := by
  cases o <;> simp

theorem tokens?_cons {pending next : Pending} {c : Char} {finished : List Token}
    (h : pending.step? c = some (finished, next)) (rest : List Char) :
    tokens? pending (c :: rest) = (tokens? next rest).map (finished ++ ·) := by
  rw [tokens?, h, Option.bind_some]

theorem tokens?_skip {pending next : Pending} {c : Char} (h : pending.step? c = some ([], next))
    (rest : List Char) : tokens? pending (c :: rest) = tokens? next rest := by
  rw [tokens?_cons h]
  exact Option.map_id'

theorem tokens?_begin {next : Pending} {c : Char} {finished : List Token}
    (h : begin? c = some (finished, next)) (rest : List Char) :
    tokens? .nothing (c :: rest) = (tokens? next rest).map (finished ++ ·) := by
  have hstep : Pending.nothing.step? c = some (finished, next) := h
  exact tokens?_cons hstep rest

theorem tokens?_beginSkip {next : Pending} {c : Char} (h : begin? c = some ([], next))
    (rest : List Char) : tokens? .nothing (c :: rest) = tokens? next rest := by
  have hstep : Pending.nothing.step? c = some ([], next) := h
  exact tokens?_skip hstep rest

theorem tokens?_blank {blanks : List Char} (h : ∀ c ∈ blanks, isBlank c = true)
    (rest : List Char) : tokens? .nothing (blanks ++ rest) = tokens? .nothing rest := by
  induction blanks with
  | nil => rfl
  | cons c blanks ih =>
    have hstep : Pending.nothing.step? c = some ([], .nothing) := by
      simp [Pending.step?, begin?, h c List.mem_cons_self]
    rw [List.cons_append, tokens?_skip hstep, ih fun d hd => h d (List.mem_cons_of_mem c hd)]

/-! ### Numbers -/

theorem begin?_digitChar {digit : Nat} (h : digit < 10) :
    begin? (Nat.digitChar digit) = some ([], .number digit) := by
  have hall : ∀ d < 10, begin? (Nat.digitChar d) = some ([], .number d) := by decide
  exact hall digit h

theorem tokens?_toDigits (n : Nat) (rest : List Char) :
    tokens? .nothing (Nat.toDigits 10 n ++ rest) = tokens? (.number n) rest := by
  induction n using Nat.strongRecOn generalizing rest with
  | ind n ih =>
    by_cases hsmall : n < 10
    · rw [Nat.toDigits_of_lt_base hsmall]
      exact tokens?_beginSkip (begin?_digitChar hsmall) rest
    · -- The last digit is behind those of `n / 10`, and that is no leading zero.
      have hstep : (Pending.number (n / 10)).step? (Nat.digitChar (n % 10)) =
          some ([], .number n) := by
        have hdigit := Text.digit?_digitChar (by decide) (Nat.mod_lt n (by decide : 0 < 10))
        have hlead : n / 10 ≠ 0 := by omega
        simp only [Pending.step?, hdigit, hlead, if_false]
        rw [Nat.div_add_mod' n 10]
      rw [Nat.toDigits_of_base_le (by decide) (by omega), List.append_assoc,
        ih (n / 10) (by omega), List.singleton_append, tokens?_skip hstep]

theorem tokens?_number {rest : List Char} (h : EndsNumber rest) (n : Nat) :
    tokens? (.number n) rest = (tokens? .nothing rest).map ([.number n] ++ ·) := by
  cases rest with
  | nil => rfl
  | cons c rest =>
    have hdigit : Text.digit? 10 c = none := by
      rw [Text.digit?_ten, h c rfl]
      rfl
    simp only [tokens?, Pending.step?, hdigit]
    cases begin? c with
    | none => rfl
    | some begun => simp [Option.map_map, Function.comp_def]

/-! ### Texts -/

theorem tokens?_backslash (read rest : List Char) :
    tokens? (.text read) ('\\' :: rest) = tokens? (.escape read) rest :=
  tokens?_skip rfl rest

theorem tokens?_escape {c meant : Char} (h : escaped? c = some meant) (read rest : List Char) :
    tokens? (.text read) ('\\' :: c :: rest) = tokens? (.text (meant :: read)) rest := by
  have hstep : (Pending.escape read).step? c = some ([], .text (meant :: read)) := by
    have hletter : c ≠ 'u' := by
      rintro rfl
      cases h
    simp [Pending.step?, hletter, h]
  rw [tokens?_backslash, tokens?_skip hstep]

/-- A character below 256 is read from its four digits, of which the first two are zero. -/
theorem tokens?_code {c : Char} (h : c.toNat < 256) (read rest : List Char) :
    tokens? (.text read) (['\\', 'u', '0', '0'] ++ hexPair c.toNat ++ rest) =
      tokens? (.text (c :: read)) rest := by
  have hhigh := Text.digit?_digitChar (Nat.le_refl 16) (show c.toNat / 16 < 16 by omega)
  have hlow := Text.digit?_digitChar (Nat.le_refl 16) (show c.toNat % 16 < 16 by omega)
  have hfirst : (Pending.code read 0 2).step? (Nat.digitChar (c.toNat / 16)) =
      some ([], .code read (c.toNat / 16) 1) := by
    simp [Pending.step?, hhigh]
  have hsecond : (Pending.code read (c.toNat / 16) 1).step? (Nat.digitChar (c.toNat % 16)) =
      some ([], .text (c :: read)) := by
    have hvalid : c.toNat.isValidChar := c.valid
    simp [Pending.step?, hlow, Nat.div_add_mod', hvalid]
  have hletter : (Pending.escape read).step? 'u' = some ([], .code read 0 4) := rfl
  have hzero : (Pending.code read 0 4).step? '0' = some ([], .code read 0 3) := rfl
  have hzero' : (Pending.code read 0 3).step? '0' = some ([], .code read 0 2) := rfl
  show tokens? (.text read) ('\\' :: 'u' :: '0' :: '0' :: _ :: _ :: rest) = _
  rw [tokens?_backslash, tokens?_skip hletter, tokens?_skip hzero, tokens?_skip hzero',
    tokens?_skip hfirst, tokens?_skip hsecond]

theorem tokens?_escapedChar (read : List Char) (c : Char) (rest : List Char) :
    tokens? (.text read) (escapedChar c ++ rest) = tokens? (.text (c :: read)) rest := by
  have hspecial : ∀ {d : Char} {letter : Char}, escaped? letter = some d → (c == d) = true →
      tokens? (.text read) (['\\', letter] ++ rest) = tokens? (.text (c :: read)) rest := by
    intro d letter hletter hc
    obtain rfl := beq_iff_eq.1 hc
    exact tokens?_escape hletter read rest
  unfold escapedChar
  -- Seven characters have a letter of their own; the other control characters have a code.
  split
  · next hc => exact hspecial rfl hc
  split
  · next hc => exact hspecial rfl hc
  split
  · next hc => exact hspecial rfl hc
  split
  · next hc => exact hspecial rfl hc
  split
  · next hc => exact hspecial rfl hc
  split
  · next hc => exact hspecial rfl hc
  split
  · next hc => exact hspecial rfl hc
  split
  · next hcontrol => exact tokens?_code (by omega) read rest
  · next hquote hbackslash _ _ _ _ _ hcontrol =>
    have hstep : (Pending.text read).step? c = some ([], .text (c :: read)) := by
      simp only [Pending.step?, hquote, hbackslash, hcontrol, Bool.false_eq_true, if_false]
    exact tokens?_skip hstep rest

theorem tokens?_quoted (value : String) (rest : List Char) :
    tokens? .nothing (quoted value ++ rest) =
      (tokens? .nothing rest).map ([.text value] ++ ·) := by
  -- What was read of the text is kept with the latest character first.
  have hbody : ∀ (cs read : List Char),
      tokens? (.text read) (cs.flatMap escapedChar ++ ('"' :: rest)) =
        (tokens? .nothing rest).map ([.text (String.ofList (read.reverse ++ cs))] ++ ·) := by
    intro cs
    induction cs with
    | nil =>
      intro read
      rw [List.append_nil]
      exact tokens?_cons rfl rest
    | cons c cs ih =>
      intro read
      rw [List.flatMap_cons, List.append_assoc, tokens?_escapedChar, ih]
      simp
  have h := hbody value.toList []
  rw [List.reverse_nil, List.nil_append, String.ofList_toList] at h
  rw [← h, quoted, List.append_assoc]
  exact tokens?_beginSkip rfl _

/-! ### Values -/

/-- A layout that puts nothing but white space between tokens. -/
structure Layout.Blank (layout : Layout) : Prop where
  breakAt : ∀ depth, ∀ c ∈ layout.breakAt depth, isBlank c = true
  colon : ∃ blanks, layout.colon = ':' :: blanks ∧ ∀ c ∈ blanks, isBlank c = true

theorem blank_compact : Layout.compact.Blank :=
  ⟨by simp [Layout.compact], [], rfl, by simp⟩

theorem blank_indented : Layout.indented.Blank := by
  refine ⟨?_, [' '], rfl, by simp [isBlank]⟩
  intro depth c hc
  rcases List.mem_cons.1 hc with rfl | hc
  · rfl
  · rw [List.eq_of_mem_replicate hc]
    rfl

section Layouts

variable {layout : Layout}

theorem isDigit_of_isBlank {c : Char} (h : isBlank c = true) : c.isDigit = false := by
  simp only [isBlank, Bool.or_eq_true, beq_iff_eq] at h
  rcases h with ((rfl | rfl) | rfl) | rfl <;> rfl

/-- White space and what is no digit stand apart from a number. -/
theorem endsNumber_break (h : layout.Blank) (depth : Nat) {c : Char} (hc : c.isDigit = false)
    (rest : List Char) : EndsNumber (layout.breakAt depth ++ c :: rest) := by
  cases hbreak : layout.breakAt depth with
  | nil => exact endsNumber_cons hc rest
  | cons d blanks =>
    apply endsNumber_cons
    exact isDigit_of_isBlank (h.breakAt depth d (by rw [hbreak]; exact List.mem_cons_self))

theorem endsNumber_writtenItems (h : layout.Blank) (depth : Nat) (items : List Json)
    (rest : List Char) : EndsNumber (writtenItems layout depth items ++ rest) := by
  cases items with
  | nil =>
    rw [writtenItems, List.append_assoc]
    exact endsNumber_break h depth rfl rest
  | cons item items => exact endsNumber_cons rfl _

theorem endsNumber_writtenMembers (h : layout.Blank) (depth : Nat) (members : List (String × Json))
    (rest : List Char) : EndsNumber (writtenMembers layout depth members ++ rest) := by
  cases members with
  | nil =>
    rw [writtenMembers, List.append_assoc]
    exact endsNumber_break h depth rfl rest
  | cons member members => exact endsNumber_cons rfl _

/-- A mark and the white space behind it. -/
theorem tokens?_mark {c : Char} {token : Token} (hc : begin? c = some ([token], .nothing))
    {blanks : List Char} (hblanks : ∀ d ∈ blanks, isBlank d = true) (rest : List Char) :
    tokens? .nothing (c :: (blanks ++ rest)) = (tokens? .nothing rest).map ([token] ++ ·) := by
  rw [tokens?_begin hc, tokens?_blank hblanks]

theorem tokens?_word (value : Bool) (rest : List Char) : ∀ (letter : Char) (left : List Char),
    tokens? (.word (letter :: left) value) (letter :: left ++ rest) =
      (tokens? .nothing rest).map ([.flag value] ++ ·)
  | letter, [] => tokens?_cons (by simp [Pending.step?]) rest
  | letter, next :: left => by
    have hstep : (Pending.word (letter :: next :: left) value).step? letter =
        some ([], .word (next :: left) value) := by
      simp [Pending.step?]
    rw [List.cons_append, tokens?_skip hstep, tokens?_word value rest next left]

theorem tokens?_true (rest : List Char) :
    tokens? .nothing ("true".toList ++ rest) =
      (tokens? .nothing rest).map ([.flag true] ++ ·) :=
  (tokens?_beginSkip rfl _).trans (tokens?_word true rest 'r' ['u', 'e'])

theorem tokens?_false (rest : List Char) :
    tokens? .nothing ("false".toList ++ rest) =
      (tokens? .nothing rest).map ([.flag false] ++ ·) :=
  (tokens?_beginSkip rfl _).trans (tokens?_word false rest 'a' ['l', 's', 'e'])

theorem tokens?_empty {c d : Char} {first second : Token}
    (hc : begin? c = some ([first], .nothing)) (hd : begin? d = some ([second], .nothing))
    (rest : List Char) :
    tokens? .nothing (c :: d :: rest) = (tokens? .nothing rest).map ([first, second] ++ ·) := by
  rw [tokens?_begin hc, tokens?_begin hd, map_append_map]
  rfl

/-- The name of a member and what stands between it and the value. -/
theorem tokens?_name (h : layout.Blank) (name : String) (rest : List Char) :
    tokens? .nothing (quoted name ++ (layout.colon ++ rest)) =
      (tokens? .nothing rest).map ([.text name, .colon] ++ ·) := by
  obtain ⟨blanks, hcolon, hblanks⟩ := h.colon
  rw [hcolon, tokens?_quoted, List.cons_append, tokens?_mark rfl hblanks, map_append_map]
  rfl

mutual

/-- The text of a value has the tokens of the value. -/
theorem tokens?_written (h : layout.Blank) : ∀ (value : Json) (depth : Nat) {rest : List Char},
    EndsNumber rest → tokens? .nothing (written layout depth value ++ rest) =
      (tokens? .nothing rest).map (value.tokens ++ ·)
  | bool true, _, rest, _ => tokens?_true rest
  | bool false, _, rest, _ => tokens?_false rest
  | number value, _, rest, hrest => by
    rw [written, tokens?_toDigits, tokens?_number hrest, tokens]
  | string value, _, rest, _ => by
    rw [written, tokens?_quoted, tokens]
  | array [], _, rest, _ => tokens?_empty rfl rfl rest
  | array (item :: items), depth, rest, hrest => by
    -- Behind an item comes a comma, white space or the end, so a number in it ends there.
    simp only [written, List.cons_append, List.append_assoc]
    rw [tokens?_mark rfl (h.breakAt _), tokens?_written h item _ (endsNumber_writtenItems h _ _ _),
      tokens?_items h items _ hrest, map_append_map, map_append_map]
    rfl
  | object [], _, rest, _ => tokens?_empty rfl rfl rest
  | object ((name, value) :: members), depth, rest, hrest => by
    simp only [written, List.cons_append, List.append_assoc]
    rw [tokens?_mark rfl (h.breakAt _), tokens?_name h,
      tokens?_written h value _ (endsNumber_writtenMembers h _ _ _),
      tokens?_members h members _ hrest, map_append_map, map_append_map, map_append_map]
    rfl

theorem tokens?_items (h : layout.Blank) : ∀ (items : List Json) (depth : Nat) {rest : List Char},
    EndsNumber rest → tokens? .nothing (writtenItems layout depth items ++ rest) =
      (tokens? .nothing rest).map (itemTokens items ++ ·)
  | [], depth, rest, _ => by
    rw [writtenItems, List.append_assoc, tokens?_blank (h.breakAt depth)]
    exact tokens?_begin rfl rest
  | item :: items, depth, rest, hrest => by
    simp only [writtenItems, List.cons_append, List.append_assoc]
    rw [tokens?_mark rfl (h.breakAt _), tokens?_written h item _ (endsNumber_writtenItems h _ _ _),
      tokens?_items h items _ hrest, map_append_map, map_append_map]
    rfl

theorem tokens?_members (h : layout.Blank) : ∀ (members : List (String × Json)) (depth : Nat)
    {rest : List Char}, EndsNumber rest →
    tokens? .nothing (writtenMembers layout depth members ++ rest) =
      (tokens? .nothing rest).map (memberTokens members ++ ·)
  | [], depth, rest, _ => by
    rw [writtenMembers, List.append_assoc, tokens?_blank (h.breakAt depth)]
    exact tokens?_begin rfl rest
  | (name, value) :: members, depth, rest, hrest => by
    simp only [writtenMembers, List.cons_append, List.append_assoc]
    rw [tokens?_mark rfl (h.breakAt _), tokens?_name h,
      tokens?_written h value _ (endsNumber_writtenMembers h _ _ _),
      tokens?_members h members _ hrest, map_append_map, map_append_map, map_append_map]
    rfl

end

theorem endsNumber_blanks {blanks : List Char} (h : ∀ c ∈ blanks, isBlank c = true) :
    EndsNumber blanks :=
  fun c hc => isDigit_of_isBlank (h c (List.mem_of_mem_head? hc))

/-- A value is read back from its text, and from a text that ends in white space. -/
theorem read?_written (h : layout.Blank) (value : Json) (blanks : List Char)
    (hblanks : ∀ c ∈ blanks, isBlank c = true) :
    read? (String.ofList (written layout 0 value ++ blanks)) = some value := by
  have htokens : tokens? .nothing (written layout 0 value ++ blanks) = some value.tokens := by
    have hblank : tokens? .nothing blanks = some [] := by
      have hnothing := tokens?_blank hblanks []
      rwa [List.append_nil] at hnothing
    rw [tokens?_written h value 0 (endsNumber_blanks hblanks), hblank]
    show some (value.tokens ++ []) = some value.tokens
    rw [List.append_nil]
  rw [read?, String.toList_ofList, htokens, Option.bind_some, read_tokens]

end Layouts

theorem read?_compact (value : Json) : read? value.compact = some value := by
  have hread := read?_written blank_compact value [] nofun
  rwa [List.append_nil] at hread

theorem read?_pretty (value : Json) : read? value.pretty = some value := by
  have hread := read?_written blank_indented value [] nofun
  rwa [List.append_nil] at hread

/-- The text on indented lines, the last of which is ended. -/
theorem read?_prettyLine (value : Json) : read? (value.pretty ++ "\n") = some value := by
  have hread := read?_written blank_indented value ['\n'] (List.forall_mem_singleton.2 rfl)
  rwa [String.ofList_append] at hread

-- The reader knows more texts than the layouts make, but nothing may follow a last comma.
example : read? " [ 10, \"\\u00e9\\/\" ] " = some (.array [.number 10, .string "é/"]) := by rfl
example : read? "[10,]" = none := by rfl

end Instrumentation.Format.Json
