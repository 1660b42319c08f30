import Instrumentation.Proofs.Policy.Likeness
/-
  Features that are in effect

  A feature is in effect only where a document says so twice: its first block of built-in
  features is there and counts, and so does the first element for the feature in that block.
  Of a block that does not count nothing is stored, whatever is inside it and whatever other
  blocks there are. So one flag tells whether any of the settings can differ from their
  defaults, and a policy that traces nothing by that flag is the empty policy.

  What is proved:
    1. `builtIns_of_switchedOff`, `builtIns_of_switchedOn` — what is stored for a document.
    2. `inEffect_iff` — when a feature is in effect, for any one of them.
    3. `BuiltIns.normal_stored`, `isEmpty_iff_of_normal` — the invariant of the stored
       settings, and what it says about the emptiness of policies.
    4. `built_ins_fail_safe` — all of it, for every document.
-/

namespace Instrumentation.Policy

open Xml (Attribute Content Document Node)

/-! ## The block of a document -/

/-- The first block of built-in features among the declarations of a document. -/
def builtInBlock? (document : Document) : Option Node :=
  (declarations? document).bind (·.firstElement? builtInTag)

/-- Whether an element is there and counts. -/
def SwitchedOn (element? : Option Node) : Prop := ∃ element ∈ element?, counts element = true

theorem featureEnabled_iff (element? : Option Node) :
    Node.featureEnabled element? = true ↔ SwitchedOn element? := by
  cases element? with
  | none => simp [Node.featureEnabled, SwitchedOn]
  | some element => simp [Node.featureEnabled, SwitchedOn, isEnabled_eq_counts]

variable {document : Document}

theorem builtIns_of_switchedOn {block : Node} (h : builtInBlock? document = some block)
    (hcounts : counts block = true) :
    (ofDocument document).value.builtIns = (featuresOf block).value := by
  have hblock : featureBlock? document = some block := by
    rw [featureBlock?, show (declarations? document).bind (·.firstElement? builtInTag) = some block
      from h, Option.filter_some, isEnabled_eq_counts, hcounts]
    rfl
  rw [builtIns_ofDocument, hblock]
  rfl

/-- Of a block that is not there or does not count, nothing is stored. -/
theorem builtIns_of_switchedOff (h : ¬SwitchedOn (builtInBlock? document)) :
    (ofDocument document).value.builtIns = .disabled := by
  have hblock : featureBlock? document = none := by
    rw [featureBlock?, Option.filter_eq_none_iff]
    intro block hmem hcounts
    apply h
    exact ⟨block, hmem, by rwa [isEnabled_eq_counts] at hcounts⟩
  rw [builtIns_ofDocument, hblock]
  rfl

/-! ## Features -/

/-- A feature that is off by default, and that a block switches on by its first element of
one tag, is in effect exactly if the block and that element are there and count. -/
theorem inEffect_iff (document : Document) {inEffect : BuiltIns → Bool} {tag : String}
    (hoff : inEffect .disabled = false)
    (hon : ∀ block : Node, inEffect (featuresOf block).value =
      Node.featureEnabled (block.firstElement? tag)) :
    inEffect (ofDocument document).value.builtIns = true ↔
      SwitchedOn (builtInBlock? document) ∧
        SwitchedOn ((builtInBlock? document).bind (·.firstElement? tag)) := by
  by_cases h : SwitchedOn (builtInBlock? document)
  · obtain ⟨block, hblock, hcounts⟩ := h
    have hsome : builtInBlock? document = some block := hblock
    rw [builtIns_of_switchedOn hsome hcounts, hon, featureEnabled_iff, hsome, Option.bind_some]
    constructor
    · intro hfeature
      exact ⟨⟨block, rfl, hcounts⟩, hfeature⟩
    · exact fun h => h.2
  · rw [builtIns_of_switchedOff h, hoff]
    constructor
    · intro hfalse
      cases hfalse
    · exact fun hboth => absurd hboth.1 h

theorem BuiltIns.anyEnabled_iff (b : BuiltIns) :
    b.anyEnabled = true ↔ b.httpEnabled = true ∨ b.jdbcEnabled = true ∨
      b.loggingEnabled = true ∨ b.cacheClientEnabled = true := by
  unfold anyEnabled enabledFeatures
  cases b.httpEnabled <;> cases b.jdbcEnabled <;> cases b.loggingEnabled <;>
    cases b.cacheClientEnabled <;> simp

/-! ## Empty policies -/

/-- Settings as they are stored: where the block is off, all of them are at their
defaults. -/
def BuiltIns.Normal (b : BuiltIns) : Prop := b.enabled = false → b = .disabled

theorem BuiltIns.normal_stored (collected : BuiltIns) : collected.stored.Normal := by
  intro hoff
  unfold stored at hoff ⊢
  split
  · next hon =>
    rw [if_pos hon, hon] at hoff
    cases hoff
  · rfl

theorem normal_featuresOf (block : Node) : (featuresOf block).value.Normal := by
  unfold featuresOf
  dsimp only
  split <;> exact BuiltIns.normal_stored _

theorem normal_ofDocument (document : Document) : (ofDocument document).value.builtIns.Normal := by
  rw [builtIns_ofDocument]
  cases featureBlock? document with
  | none => exact fun _ => rfl
  | some block => exact normal_featuresOf block

/-- Where the settings are as they are stored, the one flag says enough. -/
theorem isEmpty_iff_of_normal {policy : Policy} (h : policy.builtIns.Normal) :
    policy.isEmpty = true ↔ policy = .empty := by
  obtain ⟨builtIns, ⟨entries⟩⟩ := policy
  constructor
  · intro hempty
    rw [isEmpty, Bool.and_eq_true, Bool.not_eq_true', List.isEmpty_iff] at hempty
    obtain ⟨rfl, hoff⟩ := hempty
    obtain rfl : builtIns = .disabled := h hoff
    rfl
  · intro hempty
    rw [hempty]
    rfl

/-! ## What documents switch on -/

/-- What the settings of a policy owe to the block that they come from. -/
structure FailSafe (block? : Option Node) (policy : Policy) : Prop where
  off : ¬SwitchedOn block? → policy.builtIns = .disabled
  on : SwitchedOn block? → policy.builtIns.enabled = true
  http : policy.builtIns.httpEnabled = true ↔
    SwitchedOn block? ∧ SwitchedOn (block?.bind (·.firstElement? httpTag))
  jdbc : policy.builtIns.jdbcEnabled = true ↔
    SwitchedOn block? ∧ SwitchedOn (block?.bind (·.firstElement? jdbcTag))
  logging : policy.builtIns.loggingEnabled = true ↔
    SwitchedOn block? ∧ SwitchedOn (block?.bind (·.firstElement? loggingTag))
  cacheClient : policy.builtIns.cacheClientEnabled = true ↔
    SwitchedOn block? ∧ SwitchedOn (block?.bind (·.firstElement? cacheClientTag))
  traceContext : policy.builtIns.traceContextEnabled = true → policy.builtIns.httpEnabled = true
  backCompat : policy.builtIns.backCompatEnabled = true → policy.builtIns.httpEnabled = true
  any : policy.builtIns.anyEnabled = true ↔
    policy.builtIns.httpEnabled = true ∨ policy.builtIns.jdbcEnabled = true ∨
      policy.builtIns.loggingEnabled = true ∨ policy.builtIns.cacheClientEnabled = true
  empty : policy.isEmpty = true ↔ policy = .empty

/-- Built-in features fail safe: whatever a document holds, without a first block of them
that counts all of them are off and at their defaults, and a feature is in effect only if
its first element in that block counts too. A policy counts as empty only if it is. -/
theorem built_ins_fail_safe (document : Document) :
    FailSafe (builtInBlock? document) (ofDocument document).value where
  off := builtIns_of_switchedOff
  on := by
    rintro ⟨block, hblock, hcounts⟩
    rw [builtIns_of_switchedOn hblock hcounts, value_featuresOf]
  http := inEffect_iff document rfl fun block => by rw [value_featuresOf]; rfl
  jdbc := inEffect_iff document rfl fun block => by rw [value_featuresOf]; rfl
  logging := inEffect_iff document rfl fun block => by rw [value_featuresOf]; rfl
  cacheClient := inEffect_iff document rfl fun block => by rw [value_featuresOf]; rfl
  traceContext h := (Bool.and_eq_true_iff.1 h).1
  backCompat h := (Bool.and_eq_true_iff.1 h).1
  any := BuiltIns.anyEnabled_iff _
  empty := isEmpty_iff_of_normal (normal_ofDocument document)

/-- What is inside a block that is switched off, and what a later block says, is not stored. -/
example :
    (ofDocument ⟨.element ⟨agentTag, none⟩ [] (.element ⟨instrumentationTag, none⟩ []
      (.element ⟨builtInTag, none⟩ [⟨⟨enabledAttribute, none⟩, "no"⟩]
        (.element ⟨httpTag, none⟩ [] .nil .nil)
        (.element ⟨builtInTag, none⟩ [] (.element ⟨jdbcTag, none⟩ [] .nil .nil) .nil))
      .nil) .nil⟩).value = .empty := by
  decide +kernel

end Instrumentation.Policy
