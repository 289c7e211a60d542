import Mathlib.Tactic.IntervalCases
import Taskboard.Number.Numeral

/-! Hexadecimal digits: each is read as what it was written for, and several of them denote the number they were
    written for as far as they reach. -/

namespace Taskboard
namespace Text

theorem hexDigit?_hexDigit {n : Nat} (h : n < 16) : hexDigit? (hexDigit n) = some n := by
  interval_cases n <;> decide

theorem mem_hexDigits {width n : Nat} {c : Char} (h : c ∈ hexDigits width n) : ∃ d, d < 16 ∧ c = hexDigit d := by
  induction width generalizing n with
  | zero => exact nomatch h
  | succ width ih =>
    rcases List.mem_append.mp h with h | h
    · exact ih h
    · exact ⟨n % 16, Nat.mod_lt n (by decide), List.mem_singleton.mp h⟩

/-- A character that is no hexadecimal digit is not among the digits of a number. -/
theorem ne_of_mem_hexDigits {width n : Nat} {c d : Char} (hc : c ∈ hexDigits width n) (hd : hexDigit? d = none) :
    c ≠ d := by
  obtain ⟨k, hk, rfl⟩ := mem_hexDigits hc
  rintro rfl
  rw [hexDigit?_hexDigit hk] at hd
  exact nomatch hd

/-- The digits of a number denote its remainder by the power of sixteen that they reach to. -/
theorem mapM_hexDigits (width n : Nat) :
    ∃ ds, (hexDigits width n).mapM hexDigit? = some ds ∧ Numeral.ofDigits 16 ds = n % 16 ^ width := by
  induction width generalizing n with
  | zero => exact ⟨[], rfl, (Nat.mod_one n).symm⟩
  | succ width ih =>
    obtain ⟨ds, hds, hvalue⟩ := ih (n / 16)
    refine ⟨ds ++ [n % 16], ?_, ?_⟩
    · have hlast : [hexDigit (n % 16)].mapM hexDigit? = some [n % 16] := by
        rw [List.mapM_cons, hexDigit?_hexDigit (Nat.mod_lt n (by decide))]
        rfl
      rw [hexDigits, List.mapM_append, hds, hlast]
      rfl
    · calc Numeral.ofDigits 16 (ds ++ [n % 16])
          = Numeral.ofDigits 16 ds * 16 + n % 16 := by rw [Numeral.ofDigits, List.foldl_append]; rfl
        _ = n % 16 + 16 * (n / 16 % 16 ^ width) := by rw [hvalue, Nat.mul_comm, Nat.add_comm]
        _ = n % 16 ^ (width + 1) := by rw [Nat.pow_succ, Nat.mul_comm (16 ^ width), Nat.mod_mul]

end Text
end Taskboard
