import Instrumentation.Proofs.Format.JsonReading
/-
  Looking into JSON values

  A member of an object is found by its name, and a value is taken for what it should
  be: members, items, a flag, a text or a number of 64 bits. A value of another kind is
  none of these.

  What is proved:
    1. `member?_cons_self`, `member?_cons_of_ne` — the members of an object, one by one.
    2. `mapM_map_eq_some`, `mapM_map_some` — a list is read if each of its items is, and it
       is read back if each of them is.
-/

namespace Instrumentation.Format.Json

/-- The value of the first member with the name. -/
def member? (value : Json) (name : String) : Option Json :=
  match value with
  | object members => members.lookup name
  | _ => none

def members? : Json → Option (List (String × Json))
  | object members => some members
  | _ => none

def items? : Json → Option (List Json)
  | array items => some items
  | _ => none

def flag? : Json → Option Bool
  | bool value => some value
  | _ => none

def text? : Json → Option String
  | string value => some value
  | _ => none

/-- A number that 64 bits can hold. -/
def word? : Json → Option UInt64
  | number value => if value < UInt64.size then some (.ofNat value) else none
  | _ => none

@[simp] theorem member?_cons_self (name : String) (value : Json)
    (members : List (String × Json)) :
    (object ((name, value) :: members)).member? name = some value := by
  simp [member?]

@[simp] theorem member?_cons_of_ne {name other : String} (h : name ≠ other) (value : Json)
    (members : List (String × Json)) :
    (object ((other, value) :: members)).member? name = (object members).member? name := by
  have hb : (name == other) = false := by simpa using h
  simp [member?, List.lookup_cons, hb]

@[simp] theorem members?_object (members : List (String × Json)) :
    (object members).members? = some members := rfl

@[simp] theorem items?_array (items : List Json) : (array items).items? = some items := rfl

@[simp] theorem flag?_bool (value : Bool) : (bool value).flag? = some value := rfl

@[simp] theorem text?_string (value : String) : (string value).text? = some value := rfl

@[simp] theorem word?_number (value : UInt64) : (number value.toNat).word? = some value := by
  rw [word?, if_pos value.toNat_lt, UInt64.ofNat_toNat]

theorem mapM_map_eq_some {α β γ : Type} {read : β → Option γ} {report : α → β} {f : α → γ}
    {as : List α} (h : ∀ a ∈ as, read (report a) = some (f a)) :
    (as.map report).mapM read = some (as.map f) := by
  induction as with
  | nil => rfl
  | cons a as ih =>
    have htail := ih fun b hb => h b (List.mem_cons_of_mem a hb)
    rw [List.map_cons, List.mapM_cons, h a List.mem_cons_self, htail]
    rfl

theorem mapM_map_some {α β : Type} {read : β → Option α} {report : α → β} {as : List α}
    (h : ∀ a ∈ as, read (report a) = some a) : (as.map report).mapM read = some as := by
  rw [mapM_map_eq_some h, List.map_id']

end Instrumentation.Format.Json
