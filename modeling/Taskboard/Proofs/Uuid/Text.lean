import Taskboard.Proofs.Number.Hexadecimal
import Taskboard.Uuid.Reader

/-! The four shapes in which an identifier is read, and no others (`read?_eq_some_iff`). Its text has one of them, so
    that no two identifiers have the same text. -/

namespace Taskboard
namespace Uuid

/-! ### Groups of digits -/

section Groups
variable {sizes : List Nat} {ds : List Char}

/-- Hyphens are all that grouping adds. -/
theorem mem_hyphenate {c : Char} (h : c ∈ hyphenate sizes ds) : c ∈ ds ∨ c = '-' := by
  induction sizes, ds using hyphenate.induct with
  | case1 ds => exact Or.inl h
  | case2 n ds => exact Or.inl h
  | case3 n n' sizes ds ih =>
    rcases List.mem_append.mp h with h | h
    · exact Or.inl (List.mem_of_mem_take h)
    · rcases List.mem_cons.mp h with h | h
      · exact Or.inr h
      · exact (ih h).imp_left List.mem_of_mem_drop

/-- A hyphen stands between any two groups. -/
theorem length_hyphenate (n : Nat) (sizes : List Nat) (ds : List Char) :
    (hyphenate (n :: sizes) ds).length = ds.length + sizes.length := by
  induction sizes generalizing n ds with
  | nil => rfl
  | cons n' sizes ih =>
    rw [hyphenate, List.length_append, List.length_cons, ih, List.length_take, List.length_drop, List.length_cons]
    omega

/-- Taking the hyphens out gives the digits back. -/
theorem dropHyphens?_hyphenate (hne : sizes ≠ []) (hlen : ds.length = sizes.sum) :
    dropHyphens? sizes (hyphenate sizes ds) = some ds := by
  induction sizes, ds using hyphenate.induct with
  | case1 ds => exact absurd rfl hne
  | case2 n ds => rw [hyphenate, dropHyphens?, if_pos (by simpa using hlen)]
  | case3 n n' sizes ds ih =>
    rw [List.sum_cons] at hlen
    have htake : (ds.take n).length = n := by rw [List.length_take]; omega
    have hrest := ih (List.cons_ne_nil n' sizes) (by rw [List.length_drop]; omega)
    rw [hyphenate, dropHyphens?, List.drop_left' htake, List.take_left' htake]
    simp only [hrest, Option.map_some, List.take_append_drop]

/-- Hyphens are taken out only from between groups. -/
theorem eq_hyphenate_of_dropHyphens? {s : List Char} (h : dropHyphens? sizes s = some ds) : s = hyphenate sizes ds := by
  fun_induction dropHyphens? sizes s generalizing ds with
  | case1 => cases h
  | case2 => rw [← Option.some.inj h, hyphenate]
  | case3 => cases h
  | case4 n n' sizes s rest hrest ih =>
    obtain ⟨ds', hds', rfl⟩ := Option.map_eq_some_iff.mp h
    have hlen : (s.take n).length = n := by
      have hpos := congrArg List.length hrest
      rw [List.length_drop, List.length_cons] at hpos
      rw [List.length_take]
      omega
    calc s = s.take n ++ '-' :: rest := by rw [← hrest, List.take_append_drop]
      _ = hyphenate (n :: n' :: sizes) (s.take n ++ ds') := by
        rw [hyphenate, List.take_left' hlen, List.drop_left' hlen, ih hds']
  | case5 => cases h

end Groups

/-! ### The four shapes -/

/-- The digits of an identifier, in either case, alone or in their groups; and the groups in braces or behind
    `urn:uuid:`. -/
inductive Shape (u : Uuid) : List Char → Prop
  | plain {ds : List Char} (h : Numeral.Hexadecimal 32 u.toNat ds) : Shape u ds
  | grouped {ds : List Char} (h : Numeral.Hexadecimal 32 u.toNat ds) : Shape u (hyphenate groups ds)
  | braced {ds : List Char} (h : Numeral.Hexadecimal 32 u.toNat ds) : Shape u ('{' :: (hyphenate groups ds ++ ['}']))
  | long {ds : List Char} (h : Numeral.Hexadecimal 32 u.toNat ds) : Shape u (urn ++ hyphenate groups ds)

section Shapes
variable {u : Uuid} {s ds : List Char}

theorem ofDigits?_eq_some_iff : ofDigits? s = some u ↔ Numeral.Hexadecimal 32 u.toNat s := by
  rw [ofDigits?, Option.ite_none_right_eq_some]
  constructor
  · rintro ⟨hlen, h⟩
    obtain ⟨values, hvalues, h⟩ := Option.bind_eq_some_iff.mp h
    unfold ofNat? at h
    split at h
    · cases h
      exact ⟨hlen, values, hvalues, rfl⟩
    · cases h
  · rintro ⟨hlen, values, hvalues, hu⟩
    refine ⟨hlen, ?_⟩
    rw [hvalues, Option.bind_some, hu, ofNat?, dif_pos u.isLt]

theorem ofGroups?_eq_some_iff :
    ofGroups? s = some u ↔ ∃ ds, Numeral.Hexadecimal 32 u.toNat ds ∧ s = hyphenate groups ds := by
  rw [ofGroups?, Option.bind_eq_some_iff]
  constructor
  · rintro ⟨ds, hds, hu⟩
    exact ⟨ds, ofDigits?_eq_some_iff.mp hu, eq_hyphenate_of_dropHyphens? hds⟩
  · rintro ⟨ds, hds, rfl⟩
    exact ⟨ds, dropHyphens?_hyphenate (by decide) hds.length, ofDigits?_eq_some_iff.mpr hds⟩

theorem eq_of_unbrace? {inner : List Char} (h : unbrace? s = some inner) : s = '{' :: (inner ++ ['}']) := by
  unfold unbrace? at h
  split at h
  next s =>
    rw [Option.ite_none_right_eq_some] at h
    obtain ⟨hlast, h⟩ := h
    rw [← Option.some.inj h, List.dropLast_append_getLast? '}' hlast]
  next => cases h

theorem unbrace?_of_notMem (h : '{' ∉ s) : unbrace? s = none := by
  cases hs : unbrace? s with
  | none => rfl
  | some inner =>
    rw [eq_of_unbrace? hs] at h
    exact absurd List.mem_cons_self h

theorem isPrefixOf_urn_of_notMem (h : 'u' ∉ s) : urn.isPrefixOf s = false := by
  rw [← Bool.not_eq_true, List.isPrefixOf_iff_prefix]
  intro hurn
  exact h (hurn.subset (by decide))

theorem shape_of_read? (h : read? s = some u) : Shape u s := by
  unfold read? at h
  split at h
  next inner hinner =>
    obtain ⟨ds, hds, rfl⟩ := ofGroups?_eq_some_iff.mp h
    rw [eq_of_unbrace? hinner]
    exact .braced hds
  split at h
  next hurn =>
    obtain ⟨rest, rfl⟩ := List.isPrefixOf_iff_prefix.mp hurn
    rw [List.drop_left] at h
    obtain ⟨ds, hds, rfl⟩ := ofGroups?_eq_some_iff.mp h
    exact .long hds
  split at h
  next => exact .plain (ofDigits?_eq_some_iff.mp h)
  next =>
    obtain ⟨ds, hds, rfl⟩ := ofGroups?_eq_some_iff.mp h
    exact .grouped hds

/-- Digits and hyphens are neither in braces nor behind a mark. -/
theorem read?_of_hexChars (h : ∀ c ∈ s, c ∈ Text.hexChars ∨ c = '-') :
    read? s = if s.length = 32 then ofDigits? s else ofGroups? s := by
  have hnot {c : Char} (hc : c ∉ Text.hexChars ∧ c ≠ '-') : c ∉ s := fun hs => (h c hs).elim hc.1 hc.2
  rw [read?, unbrace?_of_notMem (hnot (by decide))]
  simp only [isPrefixOf_urn_of_notMem (hnot (by decide)), Bool.false_eq_true, if_false]

theorem read?_of_shape (h : Shape u s) : read? s = some u := by
  have hgroups {ds : List Char} (hds : Numeral.Hexadecimal 32 u.toNat ds) :
      (∀ c ∈ hyphenate groups ds, c ∈ Text.hexChars ∨ c = '-') ∧ (hyphenate groups ds).length = 36 ∧
        ofGroups? (hyphenate groups ds) = some u := by
    refine ⟨fun c hc => (mem_hyphenate hc).imp_left (hds.mem_hexChars c), ?_, ofGroups?_eq_some_iff.mpr ⟨ds, hds, rfl⟩⟩
    rw [groups, length_hyphenate, hds.length]
    rfl
  cases h with
  | plain h =>
    rw [read?_of_hexChars fun c hc => .inl (h.mem_hexChars c hc), if_pos h.length, ofDigits?_eq_some_iff.mpr h]
  | grouped h =>
    obtain ⟨hchars, hlen, hread⟩ := hgroups h
    rw [read?_of_hexChars hchars, if_neg (by rw [hlen]; decide), hread]
  | braced h =>
    obtain ⟨-, -, hread⟩ := hgroups h
    rw [read?, unbrace?, if_pos (by simp), List.dropLast_concat]
    exact hread
  | long h =>
    obtain ⟨-, -, hread⟩ := hgroups h
    have hurn (s : List Char) : urn.isPrefixOf (urn ++ s) = true :=
      List.isPrefixOf_iff_prefix.mpr (List.prefix_append _ _)
    have hbrace (s : List Char) : unbrace? (urn ++ s) = none := rfl
    rw [read?, hbrace]
    simp only [hurn, if_true, List.drop_left, hread]

theorem read?_eq_some_iff : read? s = some u ↔ Shape u s := ⟨shape_of_read?, read?_of_shape⟩

end Shapes

/-! ### The text -/

variable (u : Uuid)

theorem toList_text : u.text.toList = hyphenate groups u.digits := String.toList_ofList

/-- The text of an identifier consists of hexadecimal digits and hyphens. -/
theorem ne_of_mem_text {c d : Char} (hc : c ∈ u.text.toList) (hd : Text.hexDigit? d = none) (hhyphen : d ≠ '-') :
    c ≠ d := by
  rw [toList_text] at hc
  rcases mem_hyphenate hc with hc | rfl
  · exact Text.ne_of_mem_hexDigits hc hd
  · exact hhyphen.symm

theorem length_text : u.text.toList.length = 36 := by
  rw [toList_text, groups, length_hyphenate, digits, Text.length_hexDigits]
  rfl

theorem hexadecimal_digits : Numeral.Hexadecimal 32 u.toNat u.digits :=
  Numeral.hexadecimal_hexDigits (Nat.lt_of_lt_of_eq u.isLt (by decide))

/-- The text of an identifier is read as the identifier. -/
theorem read?_text : read? u.text.toList = some u := by
  rw [toList_text]
  exact read?_of_shape (.grouped u.hexadecimal_digits)

/-- No two identifiers have the same text. -/
theorem text_injective {u v : Uuid} (h : u.text = v.text) : u = v := by
  have hread := read?_text u
  rw [h, read?_text v] at hread
  exact (Option.some.inj hread).symm

end Uuid
end Taskboard
