import Mathlib.Data.List.TakeDrop
import Mathlib.Tactic.IntervalCases
import Taskboard.Number.Lenient
import Taskboard.Proofs.Text.Trim

/-! Decimal digits. A number is printed with digits that denote it, none of them a zero before others, and the
    lenient reading of fields gives back every number of at most `Numeral.maxDigits` digits. -/

namespace Taskboard
namespace Numeral

/-- Digits as a number is printed with: at least one, and no zero before others. -/
structure IsPlain (ds : List Char) : Prop where
  ne_nil : ds ≠ []
  isDigit : ∀ c ∈ ds, c.isDigit = true
  head : ds.head? = some '0' → ds.length = 1

/-- Only nought is printed with a zero at the beginning. -/
theorem eq_zero_of_head?_decimal {n : Nat} (h : (decimal n).head? = some '0') : n = 0 := by
  induction n using Nat.strongRecOn with
  | ind n ih =>
    by_cases hn : n < 10
    · rw [decimal, Nat.toDigits_of_lt_base hn] at h
      interval_cases n <;> revert h <;> decide
    · have hdiv : n / 10 = 0 := by
        refine ih (n / 10) (by omega) ?_
        rwa [decimal, Nat.toDigits_of_base_le (by decide) (by omega),
          List.head?_append_of_ne_nil _ Nat.toDigits_ne_nil] at h
      omega

theorem isPlain_decimal (n : Nat) : IsPlain (decimal n) where
  ne_nil := Nat.toDigits_ne_nil
  isDigit _ hc := Nat.isDigit_of_mem_toDigits (by decide) (by decide) hc
  head h := by
    rw [eq_zero_of_head?_decimal h]
    rfl

/-- The digits of a number denote it. -/
theorem ofDigits_decimal (n : Nat) : ofDigits 10 ((decimal n).map (·.toNat - 48)) = n := by
  calc ofDigits 10 ((decimal n).map (·.toNat - 48))
      = (decimal n).foldl (fun m c => 10 * m + (c.toNat - '0'.toNat)) 0 := by
        rw [ofDigits, List.foldl_map]
        exact List.foldl_ext _ _ _ fun m c _ => by rw [Nat.mul_comm]; rfl
    _ = n := Nat.ofDigitChars_ten_toDigits

/-- Digits begin with no sign. -/
theorem IsPlain.exists_cons {ds : List Char} (h : IsPlain ds) : ∃ c cs, ds = c :: cs ∧ c ≠ '-' ∧ c ≠ '+' := by
  obtain ⟨c, cs, rfl⟩ := List.exists_cons_of_ne_nil h.ne_nil
  have hc := h.isDigit c List.mem_cons_self
  exact ⟨c, cs, rfl, by rintro rfl; revert hc; decide, by rintro rfl; revert hc; decide⟩

theorem length_decimal_le_iff {n k : Nat} (hk : 0 < k) : (decimal n).length ≤ k ↔ n < 10 ^ k :=
  Nat.length_toDigits_le_iff (by decide) hk

theorem length_decimal_le {n : Nat} (h : n < 10 ^ maxDigits) : (decimal n).length ≤ maxDigits :=
  (length_decimal_le_iff (by decide)).mpr h

/-- Numbers of a usual size are not too long. -/
theorem lt_pow_maxDigits {n : Nat} (h : n < 10 ^ 19) : n < 10 ^ maxDigits :=
  Nat.lt_of_lt_of_le h (Nat.pow_le_pow_right (by decide) (by decide))

/-- Digits denote less than the power of the base that has one more digit. -/
theorem ofDigits_lt {base : Nat} {ds : List Nat} (h : ∀ d ∈ ds, d < base) : ofDigits base ds < base ^ ds.length := by
  -- with a number in front, which is what the fold has read so far
  have hfold (n : Nat) : ds.foldl (fun n d => n * base + d) n < (n + 1) * base ^ ds.length := by
    induction ds generalizing n with
    | nil => simp
    | cons d ds ih =>
      obtain ⟨hd, hds⟩ := List.forall_mem_cons.mp h
      have hstep : n * base + d + 1 ≤ (n + 1) * base := by
        rw [Nat.succ_mul]
        omega
      calc (d :: ds).foldl (fun n d => n * base + d) n
          < (n * base + d + 1) * base ^ ds.length := ih hds _
        _ ≤ (n + 1) * base * base ^ ds.length := Nat.mul_le_mul_right _ hstep
        _ = (n + 1) * base ^ (d :: ds).length := by rw [List.length_cons, Nat.pow_succ', Nat.mul_assoc]
  simpa [ofDigits] using hfold 0

theorem ofDigits_lt_pow_maxDigits {cs : List Char} (h : ∀ c ∈ cs, c.isDigit = true) (hlen : cs.length ≤ maxDigits) :
    ofDigits 10 (cs.map (·.toNat - 48)) < 10 ^ maxDigits := by
  have hds : ∀ d ∈ cs.map (·.toNat - 48), d < 10 := by
    intro d hd
    obtain ⟨c, hc, rfl⟩ := List.mem_map.mp hd
    have hc : c.toNat ≤ 57 := (Char.isDigit_iff_toNat.mp (h c hc)).2
    omega
  calc ofDigits 10 (cs.map (·.toNat - 48))
      < 10 ^ (cs.map (·.toNat - 48)).length := ofDigits_lt hds
    _ ≤ 10 ^ maxDigits := Nat.pow_le_pow_right (by decide) (by rwa [List.length_map])

theorem prints_iff {n : Int} : prints n = true ↔ n.natAbs < 10 ^ maxDigits := by
  rw [prints, decide_eq_true_iff, Nat.pow_eq]

/-- A number is printed as its digits, or as those of its opposite behind a minus sign. -/
theorem ofInt_eq (n : Int) :
    0 ≤ n ∧ ofInt n = decimal n.natAbs ∨ n < 0 ∧ ofInt n = '-' :: decimal n.natAbs := by
  cases n with
  | ofNat n => exact Or.inl ⟨Int.natCast_nonneg n, rfl⟩
  | negSucc n => exact Or.inr ⟨Int.negSucc_lt_zero n, rfl⟩

end Numeral

/-! ### The lenient reading -/

namespace Lenient
open Numeral
variable {ds : List Char}

theorem dropZeros_of_isPlain (h : IsPlain ds) : dropZeros ds = some ds := by
  obtain ⟨c, cs, rfl⟩ := List.exists_cons_of_ne_nil h.ne_nil
  by_cases hc : c = '0'
  · subst hc
    obtain rfl : cs = [] := by simpa using h.head rfl
    rfl
  · rw [dropZeros, if_neg hc, if_pos (h.isDigit c List.mem_cons_self)]

theorem dropFraction_of_isPlain (h : IsPlain ds) : dropFraction ds = some ds := by
  have hpoint : ∀ c ∈ ds, decide (c ≠ '.') = true := fun c hc => by
    have := h.isDigit c hc
    rw [decide_eq_true_eq]
    rintro rfl
    revert this
    decide
  rw [dropFraction, List.span_eq_takeWhile_dropWhile, List.takeWhile_eq_self_iff.mpr hpoint,
    List.dropWhile_eq_nil_iff.mpr hpoint]

theorem dropUnderscores_of_isPlain (h : IsPlain ds) : dropUnderscores ds = some ds := by
  have hnone : '_' ∉ ds := fun hm => by
    have := h.isDigit _ hm
    revert this
    decide
  rw [dropUnderscores, List.splitOn_eq_singleton hnone]
  simp [h.ne_nil.symm]

theorem strip_of_isPlain (h : IsPlain ds) : strip ds = some ds := by
  rw [strip, dropZeros_of_isPlain h, Option.bind_some, dropFraction_of_isPlain h, Option.bind_some,
    dropUnderscores_of_isPlain h]

theorem natural?_of_isPlain (h : IsPlain ds) (hlen : ds.length ≤ maxDigits) :
    natural? ds = some (ofDigits 10 (ds.map (·.toNat - 48))) :=
  if_pos ⟨h.ne_nil, List.all_eq_true.mpr h.isDigit, h.head, hlen⟩

theorem not_isOversized (h : IsPlain ds) (hlen : ds.length ≤ maxDigits) :
    isOversized ds = false ∧ isOversized ('-' :: ds) = false := by
  have htake : ds.takeWhile Char.isDigit = ds := List.takeWhile_eq_self_iff.mpr h.isDigit
  have hshort : decide (maxDigits < ds.length) = false := decide_eq_false (Nat.not_lt.mpr hlen)
  obtain ⟨c, cs, rfl, hminus, -⟩ := h.exists_cons
  constructor
  · unfold isOversized
    split
    · next heq => exact absurd (List.cons.inj heq).1 hminus
    · simp only [htake, hshort, Bool.and_false]
  · simp only [isOversized, htake, hshort, Bool.and_false]

theorem number?_of_isPlain (h : IsPlain ds) (hlen : ds.length ≤ maxDigits) :
    number? ds = some ((ofDigits 10 (ds.map (·.toNat - 48)) : Nat) : Int) ∧
      number? ('-' :: ds) = some (-((ofDigits 10 (ds.map (·.toNat - 48)) : Nat) : Int)) := by
  have hblank : ∀ c ∈ ds, Text.isWhiteSpace c = false := fun c hc => Text.isWhiteSpace_of_isDigit (h.isDigit c hc)
  have htrim : Text.trim Text.isWhiteSpace ds = ds := Text.trim_eq_self hblank
  have htrim' : Text.trim Text.isWhiteSpace ('-' :: ds) = '-' :: ds := Text.trim_eq_self fun c hc => by
    rcases List.mem_cons.mp hc with rfl | hc
    · decide
    · exact hblank c hc
  have hnat := natural?_of_isPlain h hlen
  have hstrip := strip_of_isPlain h
  obtain ⟨c, cs, rfl, hminus, hplus⟩ := h.exists_cons
  constructor
  · rw [number?, htrim]
    split
    · next heq => exact absurd (List.cons.inj heq).1 hminus
    · next heq => exact absurd (List.cons.inj heq).1 hplus
    · rw [hstrip, Option.bind_some, plain?, hnat]
      · rfl
      · intro s heq
        exact hminus (List.cons.inj heq).1
  · rw [number?, htrim']
    simp only [hstrip, Option.bind_some, plain?, hnat]
    rfl

/-- A printed number is read as itself. -/
theorem read_ofInt {n : Int} (h : n.natAbs < 10 ^ maxDigits) : read (ofInt n) = .ok n := by
  have hplain := isPlain_decimal n.natAbs
  have hlen := length_decimal_le h
  obtain ⟨hover, hover'⟩ := not_isOversized hplain hlen
  obtain ⟨hnum, hnum'⟩ := number?_of_isPlain hplain hlen
  rw [ofDigits_decimal] at hnum hnum'
  rcases ofInt_eq n with ⟨hn, heq⟩ | ⟨hn, heq⟩
  · simp only [read, heq, hover, hnum, Bool.false_eq_true, ↓reduceIte]
    rw [Int.natAbs_of_nonneg hn]
  · simp only [read, heq, hover', hnum', Bool.false_eq_true, ↓reduceIte]
    rw [Int.ofNat_natAbs_of_nonpos hn.le, Int.neg_neg]

/-! ### No more digits than are allowed -/

theorem natural?_lt {s : List Char} {n : Nat} (h : natural? s = some n) : n < 10 ^ maxDigits := by
  obtain ⟨⟨-, hdigits, -, hlen⟩, h⟩ := Option.ite_none_right_eq_some.mp h
  obtain rfl := Option.some.inj h
  exact ofDigits_lt_pow_maxDigits (List.all_eq_true.mp hdigits) hlen

theorem plain?_lt {s : List Char} {n : Int} (h : plain? s = some n) : n.natAbs < 10 ^ maxDigits := by
  unfold plain? at h
  split at h <;> obtain ⟨m, hm, rfl⟩ := Option.map_eq_some_iff.mp h <;>
    obtain ⟨k, hk, hm⟩ := Option.bind_eq_some_iff.mp hm <;> obtain rfl := Option.some.inj hm
  · rw [Int.natAbs_neg, Int.natAbs_natCast]
    exact natural?_lt hk
  · rw [Int.natAbs_natCast]
    exact natural?_lt hk

theorem number?_lt {s : List Char} {n : Int} (h : number? s = some n) : n.natAbs < 10 ^ maxDigits := by
  unfold number? at h
  split at h <;> obtain ⟨t, -, ht⟩ := Option.bind_eq_some_iff.mp h <;> exact plain?_lt ht

/-- A number that is read has at most `Numeral.maxDigits` digits, however it is written. -/
theorem natAbs_lt_of_read {s : List Char} {n : Int} (h : read s = .ok n) : n.natAbs < 10 ^ maxDigits := by
  unfold read at h
  split at h
  · cases h
  · split at h
    next hn =>
      cases h
      exact number?_lt hn
    next => cases h

end Lenient
end Taskboard
