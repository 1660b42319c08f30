import Instrumentation.Proofs.Policy.Likeness
/-
  Declarations in another order

  The class table takes the first declaration of a class and the first of a method, so the
  order of declarations matters, but only among those of one class, and inside a class only
  among those of one method. Two lists of declarations are alike by their keys if under
  every key they list the same, in the same order.

  What is proved:
    1. `AlikeByKey.append`, `AlikeByKey.swap` — lists that share no key may change places,
       whatever stands around them.
    2. `declaredTable_congr` — declarations that are alike by the names of their classes, and
       inside each class by their methods, make the same table.
    3. `sameClassOrder_fill` — so two runs may take each other's place in a gap if their classes
       are alike; inside a class their methods have to be alike too.
-/

namespace Instrumentation.Policy

open Xml (Content Gap)

/-! ## Lists that are alike by their keys -/

section AlikeByKey

variable {α κ : Type} [DecidableEq κ]

/-- Under every key the lists hold related items, in the same order. -/
def AlikeByKey (key : α → κ) (r : α → α → Prop) (xs ys : List α) : Prop :=
  ∀ k, List.Forall₂ r (xs.filter (key · == k)) (ys.filter (key · == k))

variable {key : α → κ} {r : α → α → Prop} {xs ys : List α}

theorem AlikeByKey.refl (hr : ∀ a, r a a) (xs : List α) : AlikeByKey key r xs xs := by
  intro k
  rw [List.forall₂_same]
  exact fun a _ => hr a

theorem AlikeByKey.append {more others : List α} (h : AlikeByKey key r xs ys)
    (hmore : AlikeByKey key r more others) :
    AlikeByKey key r (xs ++ more) (ys ++ others) := by
  intro k
  rw [List.filter_append, List.filter_append]
  exact List.rel_append (h k) (hmore k)

/-- Lists that share no key may change places. -/
theorem AlikeByKey.swap (hr : ∀ a, r a a) (h : ∀ x ∈ xs, ∀ y ∈ ys, key x ≠ key y) :
    AlikeByKey key r (xs ++ ys) (ys ++ xs) := by
  intro k
  have hsame : (xs ++ ys).filter (key · == k) = (ys ++ xs).filter (key · == k) := by
    rw [List.filter_append, List.filter_append]
    -- One of the two lists has nothing under the key.
    by_cases hk : ∃ x ∈ xs, key x = k
    · obtain ⟨x, hx, rfl⟩ := hk
      have hnone : ys.filter (key · == key x) = [] := by
        rw [List.filter_eq_nil_iff]
        intro y hy hkey
        exact h x hx y hy (beq_iff_eq.1 hkey).symm
      rw [hnone, List.append_nil, List.nil_append]
    · have hnone : xs.filter (key · == k) = [] := by
        rw [List.filter_eq_nil_iff]
        intro x hx hkey
        exact hk ⟨x, hx, beq_iff_eq.1 hkey⟩
      rw [hnone, List.append_nil, List.nil_append]
  rw [hsame, List.forall₂_same]
  exact fun a _ => hr a

/-- The first items under a key are related. -/
theorem AlikeByKey.find? (h : AlikeByKey key r xs ys) (k : κ) :
    Option.Rel r (xs.find? (key · == k)) (ys.find? (key · == k)) := by
  rw [← List.head?_filter, ← List.head?_filter]
  exact forall₂_head? (h k)

end AlikeByKey

/-! ## The table of declarations that are alike -/

/-- Methods that are the same under every key, in the same order. -/
def SameMethods (methods others : List MethodDeclaration) : Prop :=
  AlikeByKey MethodDeclaration.key Eq methods others

/-- Class declarations that say the same, their methods perhaps in another order. -/
structure SameDeclaration (d e : ClassDeclaration) : Prop where
  name : d.name = e.name
  typeTag? : d.typeTag? = e.typeTag?
  thresholdMs? : d.thresholdMs? = e.thresholdMs?
  methods : SameMethods d.methods e.methods

theorem SameDeclaration.refl (d : ClassDeclaration) : SameDeclaration d d :=
  ⟨rfl, rfl, rfl, .refl (fun _ => rfl) _⟩

/-- Declarations that are the same under every class name, in the same order. -/
def SameClassOrder (ds es : List ClassDeclaration) : Prop :=
  AlikeByKey ClassDeclaration.name SameDeclaration ds es

theorem SameMethods.flatMap {ds es : List ClassDeclaration}
    (h : List.Forall₂ SameDeclaration ds es) :
    SameMethods (ds.flatMap (·.methods)) (es.flatMap (·.methods)) := by
  induction h with
  | nil => exact .refl (fun _ => rfl) _
  | cons hd _ ih =>
    rw [List.flatMap_cons, List.flatMap_cons]
    exact hd.methods.append ih

/-- The first of each key makes the same table. -/
theorem SameMethods.ofFirsts_eq {methods others : List MethodDeclaration}
    (h : SameMethods methods others) (f : MethodDeclaration → MethodRule) :
    Table.ofFirsts (methods.map fun d => (d.key, f d)) =
      Table.ofFirsts (others.map fun d => (d.key, f d)) := by
  apply Table.ext_get? (Table.ascending_ofFirsts _) (Table.ascending_ofFirsts _)
  intro key
  rw [Table.get?_ofFirsts, Table.get?_ofFirsts, lookup_map_key, lookup_map_key]
  exact rel_congr (Option.map f) (h.find? key) fun hd => by rw [hd]

theorem declaredRule_congr {ds es : List ClassDeclaration} (h : SameClassOrder ds es)
    {d e : ClassDeclaration} (hd : SameDeclaration d e) :
    declaredRule ds d = declaredRule es e := by
  have hmethods := (SameMethods.flatMap (h d.name)).ofFirsts_eq
    fun m => ⟨m.key.name, m.key.signature, m.thresholdMs?.getD (d.thresholdMs?.getD 0)⟩
  rw [declaredRule, hmethods, declaredRule, hd.name, hd.typeTag?, hd.thresholdMs?]

/-- Declarations that are alike by their classes make the same table. -/
theorem declaredTable_congr {ds es : List ClassDeclaration} (h : SameClassOrder ds es) :
    declaredTable ds = declaredTable es := by
  apply Table.ext_get? (ascending_declaredTable ds) (ascending_declaredTable es)
  intro className
  rw [get?_declaredTable, get?_declaredTable]
  have hfirst := h.find? className
  revert hfirst
  generalize ds.find? (·.name == className) = first?
  generalize es.find? (·.name == className) = other?
  intro hfirst
  cases hfirst with
  | none => rfl
  | some hd => rw [Option.map_some, Option.map_some, declaredRule_congr h hd]

/-! ## Runs that are alike -/

theorem sameMethods_fill {run other : Content} (gap : Gap)
    (h : SameMethods (declaredMethods run) (declaredMethods other)) :
    SameMethods (declaredMethods (gap.fill run)) (declaredMethods (gap.fill other)) := by
  have hrefl : ∀ methods, SameMethods methods methods := .refl fun _ => rfl
  induction gap with
  | here before after =>
    simp only [Gap.fill, declaredMethods_append]
    exact (hrefl _).append (h.append (hrefl _))
  | inside before name attributes gap after ih =>
    have hsaid : methodDeclaration? (.element name attributes (gap.fill run)) =
        methodDeclaration? (.element name attributes (gap.fill other)) := rfl
    simp only [Gap.fill, declaredMethods_append, declaredMethods_element, hsaid]
    exact (hrefl _).append ((hrefl _).append (ih.append (hrefl _)))

/-- Two runs with the same classes may take each other's place. Inside a class they need
the same methods too, for these are methods of that class. -/
theorem sameClassOrder_fill {run other : Content} (gap : Gap)
    (h : SameClassOrder (declaredClasses run) (declaredClasses other))
    (hmethods : inClass gap = true →
      SameMethods (declaredMethods run) (declaredMethods other)) :
    SameClassOrder (declaredClasses (gap.fill run)) (declaredClasses (gap.fill other)) := by
  have hrefl : ∀ declared, SameClassOrder declared declared := .refl SameDeclaration.refl
  induction gap with
  | here before after =>
    simp only [Gap.fill, declaredClasses_append]
    exact (hrefl _).append (h.append (hrefl _))
  | inside before name attributes gap after ih =>
    have ih := ih fun hin => hmethods (by simp [inClass, hin])
    have hclass : SameClassOrder
        (classDeclaration? (.element name attributes (gap.fill run))).toList
        (classDeclaration? (.element name attributes (gap.fill other))).toList := by
      rw [classDeclaration?_element, classDeclaration?_element name attributes (gap.fill other)]
      cases hcounts : classDeclaration? (.element name attributes .nil) with
      | none => exact hrefl _
      | some d =>
        have hinside := sameMethods_fill gap (hmethods (by simp [inClass, hcounts]))
        intro className
        simp only [Option.map_some, Option.toList_some, List.filter_cons, List.filter_nil]
        split
        · exact .cons ⟨rfl, rfl, rfl, hinside⟩ .nil
        · exact .nil
    simp only [Gap.fill, declaredClasses_append, declaredClasses_element]
    exact (hrefl _).append (hclass.append (ih.append (hrefl _)))

end Instrumentation.Policy
