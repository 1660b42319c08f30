import Instrumentation.Xml.Content
/-
  Gaps in a tree

  A gap is where a run of nodes can stand in the tree of a document: all that is
  around the run, from the top of the document down to it. Two documents that
  differ in one element and what is in it are one gap, filled with two runs.

  What is proved:
    1. `Content.descendants_append` — document order lists one run after the other.
    2. `exists_gap` — every element of a tree fills a gap in it, so a law for all gaps
       is a law for all elements of all documents.
-/

namespace Instrumentation.Xml

namespace Content

def append : Content → Content → Content
  | nil, behind => behind
  | element name attributes children next, behind =>
    element name attributes children (next.append behind)
  | text value next, behind => text value (next.append behind)
  | comment value next, behind => comment value (next.append behind)
  | instruction target value next, behind => instruction target value (next.append behind)

instance : Append Content := ⟨append⟩

@[simp] theorem nil_append (behind : Content) : nil ++ behind = behind := rfl

@[simp] theorem element_append (name : Name) (attributes : List Attribute)
    (children next behind : Content) :
    element name attributes children next ++ behind =
      element name attributes children (next ++ behind) := rfl

@[simp] theorem text_append (value : String) (next behind : Content) :
    text value next ++ behind = text value (next ++ behind) := rfl

@[simp] theorem comment_append (value : String) (next behind : Content) :
    comment value next ++ behind = comment value (next ++ behind) := rfl

@[simp] theorem instruction_append (target : String) (value : Option String)
    (next behind : Content) :
    instruction target value next ++ behind = instruction target value (next ++ behind) := rfl

theorem append_assoc (a b c : Content) : a ++ b ++ c = a ++ (b ++ c) := by
  induction a with
  | nil => rfl
  | element name attributes children next _ ihn => simp [ihn]
  | text value next ih => simp [ih]
  | comment value next ih => simp [ih]
  | instruction target value next ih => simp [ih]

@[simp] theorem descendants_append (run behind : Content) :
    (run ++ behind).descendants = run.descendants ++ behind.descendants := by
  induction run with
  | nil => rfl
  | element name attributes children next _ ihn => simp [ihn]
  | text value next ih => simp [ih]
  | comment value next ih => simp [ih]
  | instruction target value next ih => simp [ih]

/-- What is inside a node of a run stands in the run, in the same order. -/
theorem descendants_content_sublist {run : Content} {node : Node} (h : node ∈ run.descendants) :
    node.content.descendants.Sublist run.descendants := by
  induction run with
  | nil => cases h
  | text _ next ih | comment _ next ih | instruction _ _ next ih =>
    simp only [descendants_text, descendants_comment, descendants_instruction,
      List.mem_cons] at h ⊢
    rcases h with rfl | hnext
    · exact List.nil_sublist _
    · exact (ih hnext).cons _
  | element name attributes children next ihc ihn =>
    rw [descendants_element] at h ⊢
    rcases List.mem_cons.1 h with rfl | hinside
    · exact (List.sublist_append_left _ _).cons _
    · rcases List.mem_append.1 hinside with hchildren | hnext
      · exact ((ihc hchildren).trans (List.sublist_append_left _ _)).cons _
      · exact ((ihn hnext).trans (List.sublist_append_right _ _)).cons _

end Content

/-- Where a run of nodes can stand in a tree. -/
inductive Gap where
  /-- Between two runs at the top of the tree. -/
  | here (before after : Content)
  /-- In a gap inside an element, which stands between two runs itself. -/
  | inside (before : Content) (name : Name) (attributes : List Attribute) (gap : Gap)
      (after : Content)

namespace Gap

/-- The tree in which a run fills a gap. -/
def fill : Gap → Content → Content
  | here before after, run => before ++ (run ++ after)
  | inside before name attributes gap after, run =>
    before ++ .element name attributes (gap.fill run) after

/-- The same gap behind one more run. -/
def behind (run : Content) : Gap → Gap
  | here before after => here (run ++ before) after
  | inside before name attributes gap after =>
    inside (run ++ before) name attributes gap after

theorem fill_behind (gap : Gap) (front run : Content) :
    (gap.behind front).fill run = front ++ gap.fill run := by
  cases gap <;> simp [behind, fill, Content.append_assoc]

/-- Every element of a tree fills a gap in it. -/
theorem exists_gap {tree : Content} {name : Name} {attributes : List Attribute}
    {children : Content} (h : .element name attributes children ∈ tree.descendants) :
    ∃ gap : Gap, tree = gap.fill (.element name attributes children .nil) := by
  induction tree with
  | nil => simp at h
  | element name' attributes' children' next ihc ihn =>
    rw [Content.descendants_element, List.mem_cons, List.mem_append] at h
    rcases h with h | h | h
    · obtain ⟨rfl, rfl, rfl⟩ := Node.element.inj h
      exact ⟨here .nil next, rfl⟩
    · obtain ⟨gap, hgap⟩ := ihc h
      exact ⟨inside .nil name' attributes' gap next, by rw [fill, ← hgap]; rfl⟩
    · obtain ⟨gap, hgap⟩ := ihn h
      exact ⟨gap.behind (.element name' attributes' children' .nil), by
        rw [fill_behind, ← hgap]; rfl⟩
  | text value next ih =>
    obtain ⟨gap, hgap⟩ := ih (by simpa using h)
    exact ⟨gap.behind (.text value .nil), by rw [fill_behind, ← hgap]; rfl⟩
  | comment value next ih =>
    obtain ⟨gap, hgap⟩ := ih (by simpa using h)
    exact ⟨gap.behind (.comment value .nil), by rw [fill_behind, ← hgap]; rfl⟩
  | instruction target value next ih =>
    obtain ⟨gap, hgap⟩ := ih (by simpa using h)
    exact ⟨gap.behind (.instruction target value .nil), by rw [fill_behind, ← hgap]; rfl⟩

end Gap

end Instrumentation.Xml
