import Taskboard.Proofs.Number.Decimal

/-! Numbers that are filled up with zeros. The zeros in front do not change what the digits denote, and they are put
    there only to reach the width: so a padded number is never cut, and no two numbers are padded to the same text. -/

namespace Taskboard
namespace Numeral

/-- Decimal digits, zeros in front included, that denote a number. -/
structure Denotes (ds : List Char) (n : Nat) : Prop where
  isDigit : ∀ c ∈ ds, c.isDigit = true
  value : ofDigits 10 (ds.map (·.toNat - 48)) = n

/-- A whole number in at least so many characters: a minus sign if it is negative, and digits that denote it. Where
    there are more characters than that, no digit is there for the width. -/
structure Spells (width : Nat) (n : Int) (s : List Char) : Prop where
  width_le : width ≤ s.length
  digits : ∃ ds, s = (if n < 0 then ['-'] else []) ++ ds ∧ Denotes ds n.natAbs ∧ (width < s.length → IsPlain ds)

section Fill
variable {width n : Nat} {ds : List Char}

/-- Noughts in front of digits do not count. -/
theorem ofDigits_replicate_append (base k : Nat) (ds : List Nat) :
    ofDigits base (List.replicate k 0 ++ ds) = ofDigits base ds := by
  induction k with
  | zero => rfl
  | succ k ih =>
    rw [List.replicate_succ, List.cons_append, ofDigits, List.foldl_cons, Nat.zero_mul]
    exact ih

theorem length_fill (width : Nat) (ds : List Char) : (padded.fill width ds).length = max width ds.length := by
  rw [padded.fill, List.length_append, List.length_replicate]
  omega

theorem denotes_fill (width n : Nat) : Denotes (padded.fill width (decimal n)) n where
  isDigit c hc := by
    rcases List.mem_append.mp hc with hc | hc
    · rw [List.eq_of_mem_replicate hc]
      rfl
    · exact (isPlain_decimal n).isDigit c hc
  value := by
    rw [padded.fill, List.map_append, List.map_replicate]
    exact (ofDigits_replicate_append 10 _ _).trans (ofDigits_decimal n)

/-- Digits that are too many for the width are not filled up. -/
theorem fill_of_lt (h : width < (padded.fill width ds).length) : padded.fill width ds = ds := by
  rw [length_fill] at h
  rw [padded.fill, Nat.sub_eq_zero_of_le (by omega), List.replicate_zero, List.nil_append]

theorem isPlain_fill (h : width < (padded.fill width (decimal n)).length) :
    IsPlain (padded.fill width (decimal n)) := by
  rw [fill_of_lt h]
  exact isPlain_decimal n

end Fill

theorem spells_padded (width : Nat) (n : Int) : Spells width n (padded width n) := by
  cases n with
  | ofNat n =>
    have hsign : ¬Int.ofNat n < 0 := Int.not_lt.mpr (Int.natCast_nonneg n)
    refine ⟨?_, padded.fill width (decimal n), ?_, denotes_fill width n, isPlain_fill⟩
    · rw [padded, length_fill]
      exact Nat.le_max_left _ _
    · rw [if_neg hsign]
      rfl
  | negSucc n =>
    -- The minus sign takes one of the characters.
    have hsign : Int.negSucc n < 0 := Int.negSucc_lt_zero n
    have hlength : (padded width (Int.negSucc n)).length = (padded.fill (width - 1) (decimal (n + 1))).length + 1 := rfl
    refine ⟨?_, padded.fill (width - 1) (decimal (n + 1)), ?_, denotes_fill (width - 1) (n + 1), fun h => ?_⟩
    · rw [hlength, length_fill]
      omega
    · rw [if_pos hsign]
      rfl
    · have hpos : 0 < (padded.fill (width - 1) (decimal (n + 1))).length := by
        rw [length_fill]
        exact lt_max_of_lt_right (List.length_pos_of_ne_nil (isPlain_decimal (n + 1)).ne_nil)
      rw [hlength] at h
      exact isPlain_fill (by omega)

/-- A number that is narrow enough takes exactly the width. -/
theorem length_padded {width n : Nat} (hpos : 0 < width) (h : n < 10 ^ width) : (padded width n).length = width := by
  have hlength : (decimal n).length ≤ width := (length_decimal_le_iff hpos).mpr h
  calc (padded width n).length
      = max width (decimal n).length := length_fill width (decimal n)
    _ = width := Nat.max_eq_left hlength

theorem Denotes.ne_cons_minus {ds : List Char} {n : Nat} (h : Denotes ds n) (cs : List Char) : ds ≠ '-' :: cs := by
  rintro rfl
  exact absurd (h.isDigit '-' List.mem_cons_self) (by decide)

/-- A number is spelled in digits, and a minus sign perhaps. -/
theorem Spells.isDigit_or {width : Nat} {n : Int} {s : List Char} (h : Spells width n s) {c : Char} (hc : c ∈ s) :
    c.isDigit = true ∨ c = '-' := by
  obtain ⟨-, ds, rfl, hds, -⟩ := h
  rcases List.mem_append.mp hc with hc | hc
  · split at hc
    · exact .inr (List.mem_singleton.mp hc)
    · exact nomatch hc
  · exact .inl (hds.isDigit c hc)

/-- A text spells one number only. -/
theorem Spells.unique {width : Nat} {m n : Int} {s : List Char} (hm : Spells width m s) (hn : Spells width n s) :
    m = n := by
  obtain ⟨-, ds, hs, hds, -⟩ := hm
  obtain ⟨-, ds', hs', hds', -⟩ := hn
  rw [hs] at hs'
  have hvalue (heq : ds = ds') : m.natAbs = n.natAbs := by rw [← hds.value, heq, hds'.value]
  by_cases hneg : m < 0 <;> by_cases hneg' : n < 0
  · rw [if_pos hneg, if_pos hneg'] at hs'
    have habs := hvalue (List.cons.inj hs').2
    omega
  · rw [if_pos hneg, if_neg hneg'] at hs'
    exact absurd hs'.symm (hds'.ne_cons_minus ds)
  · rw [if_neg hneg, if_pos hneg'] at hs'
    exact absurd hs' (hds.ne_cons_minus ds')
  · rw [if_neg hneg, if_neg hneg'] at hs'
    have habs := hvalue hs'
    omega

theorem padded_injective (width : Nat) : Function.Injective (padded width) := fun m n h =>
  (spells_padded width m).unique (h ▸ spells_padded width n)

end Numeral
end Taskboard
