import Taskboard.Json.Field
import Taskboard.Proofs.Checked
import Taskboard.Proofs.Json.Spelling

/-! The members of objects. A key is looked up by itself: the order of the members does not matter as long as no other
    member has the key, and neither do members that nobody asks for (`Value.Holds`). -/

namespace Taskboard
namespace Json
variable {key : String} {v : Value} {members : List (String × Value)} {α : Type} {check : Value → Checked α} {a : α}

/-! ### Looking up -/

/-- The value under a key of an object. -/
def Value.member? (key : String) : Value → Option Value
  | .object members => lookup key members
  | _ => none

theorem lookup_eq_some (hmem : (key, v) ∈ members) (honly : ∀ m ∈ members, m.1 = key → m.2 = v) :
    lookup key members = some v := by
  rw [lookup]
  cases hfind : members.reverse.find? (·.1 = key) with
  | none =>
    have hnone := List.find?_eq_none.mp hfind (key, v) (List.mem_reverse.mpr hmem)
    simp at hnone
  | some m =>
    have hm : m ∈ members := List.mem_reverse.mp (List.mem_of_find?_eq_some hfind)
    have hkey : m.1 = key := by simpa using List.find?_some hfind
    rw [Option.map_some, honly m hm hkey]

theorem lookup_eq_none (h : ∀ m ∈ members, m.1 ≠ key) : lookup key members = none := by
  rw [lookup, Option.map_eq_none_iff, List.find?_eq_none]
  intro m hm
  simpa using h m (List.mem_reverse.mp hm)

theorem field_eq_ok_iff : field members key check = .ok a ↔ ∃ v, lookup key members = some v ∧ check v = .ok a := by
  unfold field
  split
  next v hlookup => simp [hlookup, Checked.under_eq_ok_iff]
  next hlookup => simp [hlookup, Checked.under, Checked.fail]

theorem fieldOr_eq_ok_iff {absent : α} : fieldOr absent members key check = .ok a ↔
    (lookup key members = none ∧ absent = a) ∨ ∃ v, lookup key members = some v ∧ check v = .ok a := by
  unfold fieldOr
  split
  next v hlookup => simp [hlookup, Checked.under_eq_ok_iff]
  next hlookup => simp [hlookup]

/-! ### In any order and among others -/

/-- A value under a key that nobody asks for: a text, or a whole number that is not too long. -/
inductive Value.Idle : Value → Prop
  | string (s : String) : Idle (.string s)
  | int {n : Int} (h : n.natAbs < 10 ^ Numeral.maxDigits) : Idle (.int n)

/-- An object that has the fields in any order, and besides them only members under keys that are not known. -/
inductive Value.Holds (known : List String) (fields : List (String × Value)) : Value → Prop
  | intro {members others : List (String × Value)} (order : members.Perm (fields ++ others))
    (unknown : ∀ m ∈ others, m.1 ∉ known ∧ m.2.Idle) : Holds known fields (.object members)

theorem Value.Idle.fits (h : v.Idle) (depth : Nat) : v.Fits depth := by
  cases h with
  | string s => exact .string s
  | int h => exact .int h

namespace Value.Holds
variable {known : List String} {fields : List (String × Value)}

theorem eq_object (h : v.Holds known fields) : ∃ members, v = .object members := by
  cases h
  exact ⟨_, rfl⟩

theorem lookup_field (h : (Value.object members).Holds known fields) (hkey : key ∈ known) (hmem : (key, v) ∈ fields)
    (honly : ∀ m ∈ fields, m.1 = key → m.2 = v) : lookup key members = some v := by
  obtain ⟨order, unknown⟩ := h
  refine lookup_eq_some (order.mem_iff.mpr (List.mem_append_left _ hmem)) fun m hm hm' => ?_
  rcases List.mem_append.mp (order.mem_iff.mp hm) with hm | hm
  · exact honly m hm hm'
  · exact absurd (hm' ▸ hkey) (unknown m hm).1

theorem lookup_absent (h : (Value.object members).Holds known fields) (hkey : key ∈ known)
    (hnone : ∀ m ∈ fields, m.1 ≠ key) : lookup key members = none := by
  obtain ⟨order, unknown⟩ := h
  refine lookup_eq_none fun m hm => ?_
  rcases List.mem_append.mp (order.mem_iff.mp hm) with hm | hm
  · exact hnone m hm
  · rintro rfl
    exact (unknown m hm).1 hkey

theorem field_eq_ok (h : (Value.object members).Holds known fields) (hkey : key ∈ known) (hmem : (key, v) ∈ fields)
    (honly : ∀ m ∈ fields, m.1 = key → m.2 = v) (hcheck : check v = .ok a) : field members key check = .ok a :=
  field_eq_ok_iff.mpr ⟨v, h.lookup_field hkey hmem honly, hcheck⟩

theorem fieldOr_eq_ok (h : (Value.object members).Holds known fields) (hkey : key ∈ known) (hmem : (key, v) ∈ fields)
    (honly : ∀ m ∈ fields, m.1 = key → m.2 = v) (absent : α) (hcheck : check v = .ok a) :
    fieldOr absent members key check = .ok a :=
  fieldOr_eq_ok_iff.mpr (.inr ⟨v, h.lookup_field hkey hmem honly, hcheck⟩)

theorem fieldOr_absent (h : (Value.object members).Holds known fields) (hkey : key ∈ known)
    (hnone : ∀ m ∈ fields, m.1 ≠ key) (absent : α) : fieldOr absent members key check = .ok absent :=
  fieldOr_eq_ok_iff.mpr (.inl ⟨h.lookup_absent hkey hnone, rfl⟩)

theorem fits {depth : Nat} (h : v.Holds known fields) (hfields : ∀ m ∈ fields, m.2.Fits depth) :
    v.Fits (depth + 1) := by
  obtain ⟨order, unknown⟩ := h
  refine .object fun m hm => ?_
  rcases List.mem_append.mp (order.mem_iff.mp hm) with hm | hm
  · exact hfields m hm
  · exact (unknown m hm).2.fits depth

end Value.Holds
end Json
end Taskboard
