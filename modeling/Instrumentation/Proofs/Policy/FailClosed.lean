import Instrumentation.Policy.Document
/-
  Failing closed

  Loading a policy has two outcomes. There is a policy if there is no document, or
  if there is one that can be read and parsed as a whole; there is none otherwise,
  and then one error is logged. Nothing in between is possible, for a policy comes
  from a parsed document, and what is wrong with one attribute of it is no error.

  What is proved:
    1. `noError_ofDocument` — resolving a document logs no error.
    2. `decode_eq_ok` — a file holds a text if its bytes are the encoding of it.
    3. `loadPolicy_file_eq_some` — which files give a policy, and which policy.
    4. `load_fails_closed` — the outcomes of loading, for every state of the path
       and all limits, and the errors that are logged.
-/

namespace Instrumentation

/-! ## Errors in a log -/

namespace Logged

variable {α β σ : Type}

def errors (x : Logged α) : List Log.Event := x.events.filter (·.level == .error)

def NoError (x : Logged α) : Prop := ∀ e ∈ x.events, e.level ≠ .error

theorem NoError.errors_eq_nil {x : Logged α} (h : x.NoError) : x.errors = [] := by
  rw [errors, List.filter_eq_nil_iff]
  intro e he
  simpa using h e he

theorem errors_bind (x : Logged α) (f : α → Logged β) :
    (x >>= f).errors = x.errors ++ (f x.value).errors := by
  rw [errors, events_bind, List.filter_append]
  rfl

namespace NoError

theorem pure' (a : α) : NoError (pure a : Logged α) := nofun

theorem event' {e : Log.Event} (h : e.level ≠ .error) : NoError (event e) := by
  intro e' he
  rw [events_event, List.mem_singleton] at he
  exact he ▸ h

theorem bind' {x : Logged α} {f : α → Logged β} (hx : x.NoError) (hf : (f x.value).NoError) :
    (x >>= f).NoError := by
  intro e he
  rw [events_bind, List.mem_append] at he
  exact he.elim (hx e) (hf e)

/-- One event, and then a value. -/
theorem eventPure {e : Log.Event} (h : e.level ≠ .error) (a : α) :
    NoError (event e >>= fun _ => pure a) :=
  bind' (event' h) (pure' a)

/-- A fold logs no error if no step does. -/
theorem foldl' {f : σ → α → Logged σ} (hf : ∀ s a, (f s a).NoError) (s : σ) (xs : List α) :
    (foldl f s xs).NoError := by
  -- The events so far are carried along, so the induction is for any such log.
  suffices h : ∀ log, (∀ e ∈ log, e.level ≠ .error) → (foldl.go f s log xs).NoError from
    h [] nofun
  induction xs generalizing s with
  | nil =>
    intro log hlog e he
    exact hlog e (List.mem_reverse.1 he)
  | cons x rest ih =>
    intro log hlog
    apply ih
    intro e he
    rcases List.mem_append.1 he with hstep | hbefore
    · exact hf s x e (List.mem_reverse.1 hstep)
    · exact hlog e hbefore

end NoError

end Logged

namespace Policy

open Logged (NoError)
open Xml (Document Node)

/-! ## Resolving a document -/

theorem noError_numberAttribute (node : Node) (name : String) (default : UInt64) :
    (node.numberAttribute name default).NoError := by
  unfold Node.numberAttribute
  split
  · exact .pure' _
  · split
    · exact .pure' _
    · exact .eventPure (by nofun) _

theorem noError_numberText? (node : Node) : node.numberText?.NoError := by
  unfold Node.numberText?
  split
  · exact .pure' _
  · split
    · exact .pure' _
    · exact .eventPure (by nofun) _

theorem noError_featuresOf (block : Node) : (featuresOf block).NoError := by
  unfold featuresOf
  dsimp only
  split
  · exact .bind' (noError_numberText? _) (.pure' _)
  · exact .bind' (.pure' _) (.pure' _)

theorem noError_resolveBuiltIns (declarations : Node) :
    (resolveBuiltIns declarations).NoError := by
  unfold resolveBuiltIns
  split
  · exact .eventPure (by nofun) _
  · split
    · exact noError_featuresOf _
    · exact .eventPure (by nofun) _

theorem noError_declareMethod (rule : ClassRule) (name signature : String)
    (thresholdMs : UInt64) : (rule.declareMethod name signature thresholdMs).NoError := by
  unfold ClassRule.declareMethod
  split
  · exact .pure' _
  · exact .eventPure (by nofun) _

theorem noError_addMethodNode (rule : ClassRule) (node : Node) :
    (addMethodNode rule node).NoError := by
  unfold addMethodNode
  split
  · exact .pure' _
  · split
    · exact .pure' _
    · exact .bind' (noError_numberAttribute _ _ _) (noError_declareMethod _ _ _ _)

theorem noError_beginClass (node : Node) : (beginClass node).NoError :=
  .bind' (noError_numberAttribute _ _ _) (.pure' _)

theorem noError_addClass (classes : Table String ClassRule) (node : Node) :
    (addClass classes node).NoError := by
  unfold addClass
  split
  · exact .pure' _
  · split
    · exact .pure' _
    · have hmethods : ∀ rule, (addMethods rule node).NoError := fun _ =>
        .foldl' noError_addMethodNode _ _
      dsimp only
      split
      · exact .bind' (.pure' _) (.bind' (hmethods _) (.pure' _))
      · exact .bind' (noError_beginClass _) (.bind' (hmethods _) (.pure' _))

theorem noError_ofDeclarations (declarations : Node) : (ofDeclarations declarations).NoError :=
  .bind' (noError_resolveBuiltIns _)
    (.bind' (.foldl' noError_addClass _ _) (.eventPure (by nofun) _))

/-- What is wrong with a document that is parsed is at most a warning. -/
theorem noError_ofDocument (document : Document) : (ofDocument document).NoError := by
  unfold ofDocument
  split
  · exact .eventPure (by nofun) _
  · split
    · exact .eventPure (by nofun) _
    · exact noError_ofDeclarations _

/-! ## The policy of a document -/

theorem noError_policy (document : SourceDocument) : document.policy.NoError := by
  unfold SourceDocument.policy
  split
  · exact .pure' _
  · exact .pure' _
  · exact .bind' (noError_ofDocument _) (.pure' _)

/-- A text has a policy if it is parsed. -/
theorem exists_policy_iff_parsed (text : String) (limits : Limits) :
    (∃ policy, (SourceDocument.ofSource text limits).policy.value = .ok policy) ↔
      ∃ tree, (SourceDocument.ofSource text limits).parse = .ok (some tree) := by
  unfold SourceDocument.policy SourceDocument.parse
  simp only [SourceDocument.ofSource]
  cases Document.read limits.maxNodes.toNat text with
  | error e => simp
  | ok tree => simp

/-! ## Reading the document -/

theorem noError_read (loader : Loader) (state : FileState) : (loader.read state).NoError := by
  cases state with
  | absent => exact .eventPure (by nofun) _
  | blocked cause => exact .pure' _
  | directory size => exact .eventPure (by nofun) _
  | file bytes => exact .eventPure (by nofun) _

/-- The text of a file is the one whose encoding it holds. -/
theorem decode_eq_ok {bytes : ByteArray} {text : String} :
    Loader.decode bytes = .ok text ↔ text.toUTF8 = bytes := by
  unfold Loader.decode
  constructor
  · intro h
    split at h
    · next decoded hdecoded =>
      obtain rfl := Except.ok.inj h
      unfold String.fromUTF8? at hdecoded
      split at hdecoded
      · obtain rfl := Option.some.inj hdecoded
        rfl
      · cases hdecoded
    · cases h
  · rintro rfl
    have hdecoded : String.fromUTF8? text.toUTF8 = some text := by
      rw [String.fromUTF8?, dif_pos (show text.toUTF8.IsValidUTF8 from text.isValidUTF8)]
      rfl
    rw [hdecoded]

/-- When the bytes of a file are a document: there are not too many of them, they
encode a text, and the text is parsed within the limit on nodes. -/
structure IsDocument (limits : Limits) (bytes : ByteArray) (text : String) : Prop where
  fits : bytes.size ≤ limits.maxBytes.toNat
  encoded : text.toUTF8 = bytes
  parsed : ∃ tree, (SourceDocument.ofSource text limits).parse = .ok (some tree)

/-! ## Loading -/

theorem value_loadPolicy (loader : Loader) (state : FileState) :
    (loader.loadPolicy state).value = (loader.tryLoadPolicy state).value.toOption := by
  rw [Loader.loadPolicy, Logged.value_bind]
  cases (loader.tryLoadPolicy state).value <;> rfl

theorem noError_tryLoadPolicy (loader : Loader) (state : FileState) :
    (loader.tryLoadPolicy state).NoError := by
  refine .bind' (noError_read loader state) ?_
  split
  · exact noError_policy _
  · exact .pure' _

/-- The only error that loading logs is that there is no policy. -/
theorem errors_loadPolicy (loader : Loader) (state : FileState) :
    (loader.loadPolicy state).errors =
      match (loader.tryLoadPolicy state).value with
      | .ok _ => []
      | .error e =>
        [{ level := .error
           origin := .document
           message := "Exception parsing " ++ loader.documentPath ++
            ", custom instrumentation disabled: " ++ e.message }] := by
  rw [Loader.loadPolicy, Logged.errors_bind, (noError_tryLoadPolicy loader state).errors_eq_nil]
  cases (loader.tryLoadPolicy state).value <;> rfl

/-- A file that is too large, or that holds no text, gives nothing. Any other one gives
what its text gives. -/
theorem value_tryLoadPolicy_file (loader : Loader) (bytes : ByteArray) :
    (loader.tryLoadPolicy (.file bytes)).value =
      if loader.limits.maxBytes.toNat < bytes.size then
        .error (.tooLarge loader.documentPath (.ofNat bytes.size) loader.limits.maxBytes)
      else
        match Loader.decode bytes with
        | .ok text => (SourceDocument.ofSource text loader.limits).policy.value
        | .error cause => .error (.unreadable loader.documentPath cause) := by
  have hread : (loader.read (.file bytes)).value =
      loader.readSized bytes.size (Loader.decode bytes) := rfl
  rw [Loader.tryLoadPolicy, Logged.value_bind, hread]
  unfold Loader.readSized
  by_cases hsize : loader.limits.maxBytes.toNat < bytes.size
  · rw [if_pos hsize, if_pos hsize]
    rfl
  · rw [if_neg hsize, if_neg hsize]
    cases Loader.decode bytes <;> rfl

/-- A file gives a policy if it holds a document, and then the policy of that. -/
theorem loadPolicy_file_eq_some {loader : Loader} {bytes : ByteArray} {policy : Policy} :
    (loader.loadPolicy (.file bytes)).value = some policy ↔
      ∃ text, IsDocument loader.limits bytes text ∧
        (SourceDocument.ofSource text loader.limits).policy.value = .ok policy := by
  rw [value_loadPolicy, value_tryLoadPolicy_file]
  constructor
  · intro h
    split at h
    · cases h
    · next hfits =>
      split at h
      · next text htext =>
        have hpolicy : (SourceDocument.ofSource text loader.limits).policy.value = .ok policy := by
          cases hvalue : (SourceDocument.ofSource text loader.limits).policy.value with
          | ok loaded =>
            rw [hvalue] at h
            rw [Option.some.inj h]
          | error e =>
            rw [hvalue] at h
            cases h
        have hparsed := (exists_policy_iff_parsed text loader.limits).1 ⟨policy, hpolicy⟩
        exact ⟨text, ⟨Nat.le_of_not_lt hfits, decode_eq_ok.1 htext, hparsed⟩, hpolicy⟩
      · cases h
  · rintro ⟨text, hdocument, hpolicy⟩
    rw [if_neg (Nat.not_lt.2 hdocument.fits), decode_eq_ok.2 hdocument.encoded]
    simp only [hpolicy]
    rfl

theorem isSome_loadPolicy_file {loader : Loader} {bytes : ByteArray} :
    (loader.loadPolicy (.file bytes)).value.isSome = true ↔
      ∃ text, IsDocument loader.limits bytes text := by
  rw [Option.isSome_iff_exists]
  constructor
  · rintro ⟨policy, h⟩
    obtain ⟨text, hdocument, -⟩ := loadPolicy_file_eq_some.1 h
    exact ⟨text, hdocument⟩
  · rintro ⟨text, hdocument⟩
    obtain ⟨policy, hpolicy⟩ := (exists_policy_iff_parsed text loader.limits).2 hdocument.parsed
    exact ⟨policy, loadPolicy_file_eq_some.2 ⟨text, hdocument, hpolicy⟩⟩

theorem loadPolicy_directory (loader : Loader) (size : UInt64) :
    (loader.loadPolicy (.directory size)).value = none := by
  have hread : (loader.read (.directory size)).value =
      loader.readSized size.toNat (.error .isDirectory) := rfl
  rw [value_loadPolicy, Loader.tryLoadPolicy, Logged.value_bind, hread]
  unfold Loader.readSized
  by_cases hsize : loader.limits.maxBytes.toNat < size.toNat
  · rw [if_pos hsize]
    rfl
  · rw [if_neg hsize]
    rfl

/-- No text is no document, whatever the limit on nodes. -/
theorem read_empty (limit : Nat) : ∃ e, Document.read limit "" = .error e := by
  have htokens : (Xml.Scan.ofSource "").tokens = [] := by decide +kernel
  have hfault : (Xml.Scan.ofSource "").fault = none := by decide +kernel
  rw [Document.read, Document.ofScan, htokens, hfault]
  exact ⟨_, rfl⟩

theorem not_isDocument_empty (limits : Limits) (text : String) :
    ¬IsDocument limits .empty text := by
  intro h
  obtain rfl : text = "" := String.toByteArray_inj.1 h.encoded
  obtain ⟨tree, hparse⟩ := h.parsed
  obtain ⟨e, hread⟩ := read_empty limits.maxNodes.toNat
  unfold SourceDocument.parse SourceDocument.ofSource at hparse
  simp only [hread] at hparse
  cases hparse

/-- What loading comes to, whatever is at the path and whatever the limits are. Without
a document the policy is empty. A file has the policy of its text if it is a document as
a whole, and otherwise none, as an empty file or anything else at the path. One error is
logged if there is none, and no error otherwise. -/
theorem load_fails_closed (loader : Loader) :
    (loader.loadPolicy .absent).value = some .empty ∧
    (∀ bytes policy, (loader.loadPolicy (.file bytes)).value = some policy ↔
      ∃ text, IsDocument loader.limits bytes text ∧
        (SourceDocument.ofSource text loader.limits).policy.value = .ok policy) ∧
    (∀ bytes, (loader.loadPolicy (.file bytes)).value.isSome = true ↔
      ∃ text, IsDocument loader.limits bytes text) ∧
    (loader.loadPolicy (.file .empty)).value = none ∧
    (∀ size, (loader.loadPolicy (.directory size)).value = none) ∧
    (∀ cause, (loader.loadPolicy (.blocked cause)).value = none) ∧
    ∀ state, (loader.loadPolicy state).errors.length =
      if (loader.loadPolicy state).value.isSome then 0 else 1 := by
  refine ⟨rfl, fun _ _ => loadPolicy_file_eq_some, fun _ => isSome_loadPolicy_file, ?_,
    loadPolicy_directory loader, fun _ => rfl, ?_⟩
  · cases hvalue : (loader.loadPolicy (.file .empty)).value with
    | none => rfl
    | some policy =>
      obtain ⟨text, hdocument, -⟩ := loadPolicy_file_eq_some.1 hvalue
      exact absurd hdocument (not_isDocument_empty _ text)
  · intro state
    rw [errors_loadPolicy, value_loadPolicy]
    cases (loader.tryLoadPolicy state).value <;> rfl

end Policy

end Instrumentation
