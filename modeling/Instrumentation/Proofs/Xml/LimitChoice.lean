import Instrumentation.Policy.Document
import Instrumentation.Proofs.Xml.Lexemes
import Instrumentation.Proofs.Xml.NodeLimit
/-
  The choice of a limit on nodes

  A limit is asked for each new node and for nothing else. So two runs over the same
  tokens, one under a narrow and one under a wide limit, go side by side: they grow the
  same tree until the narrow limit is met, and when it is, the tree of the wide run has
  more nodes than the narrow limit allows, now and to the end.

  What is proved:
    1. `narrows_take`, `narrows_takeAll` — what a narrow limit makes of one token and of
       a run of tokens, compared with a wide one.
    2. `narrows_read` — so a narrow limit reads the same document, or is met.
    3. `node_limit_exact` — under any limit a text gives the tree that it gives under the
       widest if the limit allows its nodes, and no tree otherwise.
-/

namespace Instrumentation

namespace Xml

/-! ## Outcomes under two limits -/

/-- How an outcome under a narrow limit compares with the one under a wide limit. It is
the same, or the limit is met; then what the wide limit lets pass has more nodes. -/
def Narrows {α : Type} (limit : Nat) (count : α → Nat) (narrow wide : Except ReadError α) :
    Prop :=
  narrow = wide ∨ narrow = .error .nodeLimit ∧ ∀ a, wide = .ok a → limit < count a

variable {limit wider : Nat}

namespace Narrows

variable {α β : Type} {count : α → Nat} {count' : β → Nat} {narrow wide : Except ReadError α}

theorem refl (count : α → Nat) (outcome : Except ReadError α) :
    Narrows limit count outcome outcome :=
  .inl rfl

/-- Going on from two outcomes side by side, where what the wide one goes on with loses
no nodes. -/
theorem bind (h : Narrows limit count narrow wide) {f g : α → Except ReadError β}
    (hnext : ∀ a, Narrows limit count' (f a) (g a))
    (hcount : ∀ a b, wide = .ok a → g a = .ok b → count a ≤ count' b) :
    Narrows limit count' (narrow >>= f) (wide >>= g) := by
  rcases h with rfl | ⟨rfl, hover⟩
  · cases narrow with
    | error e => exact .refl _ _
    | ok a => exact hnext a
  · refine .inr ⟨rfl, ?_⟩
    intro b hb
    cases wide with
    | error e => cases hb
    | ok a => exact Nat.lt_of_lt_of_le (hover a rfl) (hcount a b rfl hb)

/-- Going on from one outcome under both limits. -/
theorem bindSame (outcome : Except ReadError α) {f g : α → Except ReadError β}
    (hnext : ∀ a, Narrows limit count' (f a) (g a)) :
    Narrows limit count' (outcome >>= f) (outcome >>= g) :=
  (refl (fun _ => 0) outcome).bind hnext fun _ _ _ _ => Nat.zero_le _

end Narrows

namespace Growth

variable {growth grown : Growth}

/-! ## One token -/

theorem narrows_count? (hle : limit ≤ wider) (growth : Growth) :
    Narrows limit id (growth.count? limit) (growth.count? wider) := by
  by_cases hlimit : growth.count < limit
  · have hnarrow : growth.count? limit = .ok (growth.count + 1) := if_pos hlimit
    have hwide : growth.count? wider = .ok (growth.count + 1) :=
      if_pos (Nat.lt_of_lt_of_le hlimit hle)
    exact .inl (hnarrow.trans hwide.symm)
  · refine .inr ⟨if_neg hlimit, ?_⟩
    intro count hcount
    obtain ⟨rfl, -⟩ := count?_eq hcount
    exact Nat.lt_succ_of_le (Nat.le_of_not_lt hlimit)

theorem narrows_add (hle : limit ≤ wider) (behind : Content → Content) (growth : Growth) :
    Narrows limit count (growth.add limit behind) (growth.add wider behind) := by
  refine (narrows_count? hle growth).bind (fun _ => .refl _ _) ?_
  intro count grown _ hgrown
  obtain rfl := Except.ok.inj hgrown
  exact Nat.le_refl _

theorem narrows_addText (hle : limit ≤ wider) (value : String) (growth : Growth) :
    Narrows limit count (growth.addText limit value) (growth.addText wider value) := by
  unfold addText
  split
  · exact .refl _ _
  · exact narrows_add hle _ growth

theorem narrows_begin (hle : limit ≤ wider) (tag : StartTag) (growth : Growth) :
    Narrows limit count (growth.begin limit tag) (growth.begin wider tag) := by
  -- Names are resolved before a node is asked for, alike under both limits.
  refine .bindSame _ fun attributes => .bindSame _ fun space => ?_
  dsimp only
  split
  · exact narrows_add hle _ growth
  · refine (narrows_count? hle growth).bind (fun _ => .refl _ _) ?_
    intro count grown _ hgrown
    obtain rfl := Except.ok.inj hgrown
    exact Nat.le_refl _

/-- One token under two limits. -/
theorem narrows_take (hle : limit ≤ wider) (growth : Growth) (token : Token) :
    Narrows limit count (growth.take limit token) (growth.take wider token) := by
  cases token with
  | start tag => exact narrows_begin hle tag growth
  | close name position => exact .refl _ _
  | text value => exact narrows_addText hle value growth
  | comment value => exact narrows_add hle _ growth
  | instruction target value => exact narrows_add hle _ growth

/-! ## A run of tokens -/

theorem count_le_of_add {behind : Content → Content} (h : growth.add limit behind = .ok grown) :
    growth.count ≤ grown.count := by
  obtain ⟨count, hcount, h⟩ := bind_eq_ok h
  obtain ⟨rfl, -⟩ := count?_eq hcount
  obtain rfl := Except.ok.inj h
  exact Nat.le_succ _

theorem count_le_of_begin {tag : StartTag} (h : growth.begin limit tag = .ok grown) :
    growth.count ≤ grown.count := by
  obtain ⟨attributes, -, h⟩ := bind_eq_ok h
  obtain ⟨space, -, h⟩ := bind_eq_ok h
  dsimp only at h
  split at h
  · exact count_le_of_add h
  · obtain ⟨count, hcount, h⟩ := bind_eq_ok h
    obtain ⟨rfl, -⟩ := count?_eq hcount
    obtain rfl := Except.ok.inj h
    exact Nat.le_succ _

/-- No token takes a node away. -/
theorem count_le_of_take {token : Token} (h : growth.take limit token = .ok grown) :
    growth.count ≤ grown.count := by
  cases token with
  | start tag => exact count_le_of_begin h
  | close name position =>
    rw [take, finish] at h
    split at h
    · cases h
    · split at h
      · obtain rfl := Except.ok.inj h
        exact Nat.le_refl _
      · cases h
  | text value =>
    rw [take, addText] at h
    split at h
    · obtain rfl := Except.ok.inj h
      exact Nat.le_refl _
    · exact count_le_of_add h
  | comment value => exact count_le_of_add h
  | instruction target value => exact count_le_of_add h

theorem takeAll_cons (limit : Nat) (growth : Growth) (token : Token) (rest : List Token) :
    growth.takeAll limit (token :: rest) =
      growth.take limit token >>= fun grown => grown.takeAll limit rest := by
  rw [takeAll]
  cases growth.take limit token <;> rfl

theorem count_le_of_takeAll {tokens : List Token} (h : growth.takeAll limit tokens = .ok grown) :
    growth.count ≤ grown.count := by
  induction tokens generalizing growth with
  | nil =>
    obtain rfl := Except.ok.inj h
    exact Nat.le_refl _
  | cons token rest ih =>
    rw [takeAll] at h
    split at h
    · next next hnext => exact Nat.le_trans (count_le_of_take hnext) (ih h)
    · cases h

/-- A run of tokens under two limits. -/
theorem narrows_takeAll (hle : limit ≤ wider) (growth : Growth) (tokens : List Token) :
    Narrows limit count (growth.takeAll limit tokens) (growth.takeAll wider tokens) := by
  induction tokens generalizing growth with
  | nil => exact .refl _ _
  | cons token rest ih =>
    rw [takeAll_cons, takeAll_cons]
    exact (narrows_take hle growth token).bind ih fun _ _ _ h => count_le_of_takeAll h

end Growth

/-! ## A document -/

theorem ofScan_eq (limit : Nat) (scan : Scan) :
    Document.ofScan limit scan =
      Growth.start.takeAll limit scan.tokens >>= fun growth =>
        match scan.fault with
        | some e => .error e
        | none => growth.document := by
  rw [Document.ofScan]
  cases Growth.start.takeAll limit scan.tokens <;> cases scan.fault <;> rfl

/-- A text under two limits. -/
theorem narrows_read (hle : limit ≤ wider) (source : String) :
    Narrows limit Document.nodeCount (Document.read limit source)
      (Document.read wider source) := by
  rw [Document.read, Document.read, ofScan_eq, ofScan_eq]
  refine (Growth.narrows_takeAll hle .start _).bind (fun _ => .refl _ _) ?_
  intro growth document hgrowth hdocument
  split at hdocument
  · cases hdocument
  · have hwithin := (Growth.Within.start wider).takeAll hgrowth
    exact Nat.le_of_eq (hwithin.nodeCount_eq hdocument).symm

end Xml

namespace Policy

open Xml (Document)

/-- The limits that allow the most nodes. -/
def Limits.widest : Limits := { maxNodes := .ofNat (2 ^ 32 - 1) }

theorem maxNodes_le_widest (limits : Limits) :
    limits.maxNodes.toNat ≤ Limits.widest.maxNodes.toNat :=
  Nat.le_of_lt_succ limits.maxNodes.toNat_lt

theorem parse_ofSource (source : String) (limits : Limits) :
    (SourceDocument.ofSource source limits).parse =
      match Document.read limits.maxNodes.toNat source with
      | .ok parsed => .ok (some parsed)
      | .error e => .error (.malformed e) :=
  rfl

/-- A text under some limits, compared with the widest. If it is a document under the
widest, it is the same document under limits that allow all its nodes, and under any
others it is malformed for having too many. If it is none under the widest, it is none
under any, for the same cause or for having too many nodes in front of it. -/
theorem node_limit_exact (source : String) (limits : Limits) :
    (∀ tree, (SourceDocument.ofSource source .widest).parse = .ok (some tree) →
      (SourceDocument.ofSource source limits).parse =
        if tree.nodeCount ≤ limits.maxNodes.toNat then .ok (some tree)
        else .error (.malformed .nodeLimit)) ∧
    (∀ e, (SourceDocument.ofSource source .widest).parse = .error e →
      (SourceDocument.ofSource source limits).parse = .error e ∨
      (SourceDocument.ofSource source limits).parse = .error (.malformed .nodeLimit)) := by
  have hread := Xml.narrows_read (maxNodes_le_widest limits) source
  simp only [parse_ofSource]
  constructor
  · intro tree htree
    have hwide : Document.read Limits.widest.maxNodes.toNat source = .ok tree := by
      split at htree
      · next parsed hparsed =>
        obtain rfl := Option.some.inj (Except.ok.inj htree)
        exact hparsed
      · cases htree
    rcases hread with hsame | ⟨hmet, hover⟩
    · have hnarrow := hsame.trans hwide
      rw [hnarrow, if_pos (Xml.nodeCount_le_of_read hnarrow)]
    · rw [hmet, if_neg (Nat.not_le.2 (hover tree hwide))]
  · intro e he
    rcases hread with hsame | ⟨hmet, -⟩
    · exact .inl (hsame ▸ he)
    · exact .inr (by rw [hmet])

/-- Text on both sides of a comment, the latter from a section and what stands behind
it. -/
def remarked : String := "<a>x<!--c--><![CDATA[y]]>z</a>"

/-- The tree of that text: with the root, five nodes. -/
def remarkedTree : Document :=
  ⟨.element ⟨"a", none⟩ [] (.text "x" (.comment "c" (.text "yz" .nil))) .nil⟩

/-- Five nodes are enough for it and four are not; an element that does not end is no
document with any number of them. -/
theorem node_limit_exact_of_remarked :
    (SourceDocument.ofSource remarked .widest).parse = .ok (some remarkedTree) ∧
    remarkedTree.nodeCount = 5 ∧
    (SourceDocument.ofSource remarked { maxNodes := 5 }).parse = .ok (some remarkedTree) ∧
    (SourceDocument.ofSource remarked { maxNodes := 4 }).parse =
      .error (.malformed .nodeLimit) ∧
    (SourceDocument.ofSource "<a>" .widest).parse = .error (.malformed .unclosedRoot) ∧
    ((SourceDocument.ofSource "<a>" { maxNodes := 2 }).parse =
        .error (.malformed .unclosedRoot) ∨
      (SourceDocument.ofSource "<a>" { maxNodes := 2 }).parse =
        .error (.malformed .nodeLimit)) := by
  have hparse : (SourceDocument.ofSource remarked .widest).parse = .ok (some remarkedTree) := by
    decide +kernel
  have hopen : (SourceDocument.ofSource "<a>" .widest).parse =
      .error (.malformed .unclosedRoot) := by
    decide +kernel
  exact ⟨hparse, rfl, (node_limit_exact remarked { maxNodes := 5 }).1 _ hparse,
    (node_limit_exact remarked { maxNodes := 4 }).1 _ hparse, hopen,
    (node_limit_exact "<a>" { maxNodes := 2 }).2 _ hopen⟩

end Policy

end Instrumentation
