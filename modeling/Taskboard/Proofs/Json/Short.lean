import Taskboard.Proofs.Json.Object

/-! Whole numbers that are not too long. No text has a longer one in it (`short_of_read`), and whatever passes for a
    whole number is not longer either. -/

namespace Taskboard

/-! ### Whole numbers that pass -/

/-- A number with a fraction of nought passes only if it is far shorter than a whole number may be. -/
theorem Binary64.natAbs_lt_of_toInt {x : Binary64} {n : Int} (h : x.toInt = .ok n) :
    n.natAbs < 10 ^ Numeral.maxDigits := by
  cases x with
  | finite negative mantissa exponent =>
    rw [toInt] at h
    split at h
    · cases h
    · split at h
      · cases h
      next hsize =>
        have hwhole : n.natAbs = mantissa * pow2 exponent / pow2 (-exponent) := by
          cases h
          split
          · rw [Int.natAbs_neg, Int.natAbs_natCast]
          · rw [Int.natAbs_natCast]
        have hlt : n.natAbs < pow2 63 := hwhole ▸ Nat.not_le.mp hsize
        exact Numeral.lt_pow_maxDigits (hlt.trans (by decide))
  | _ => cases h

namespace Json
variable {v : Value}

theorem natAbs_lt_of_intOfText {s : String} {n : Int} (h : intOfText s = .ok n) :
    n.natAbs < 10 ^ Numeral.maxDigits := by
  unfold intOfText at h
  split at h
  next hread =>
    cases h
    exact Lenient.natAbs_lt_of_read hread
  all_goals cases h

/-- Whatever passes for a whole number is not too long if the whole numbers themselves are not. -/
theorem Value.natAbs_lt_of_asInt {n : Int} (h : v.asInt = .ok n)
    (hshort : ∀ m, v = .int m → m.natAbs < 10 ^ Numeral.maxDigits) : n.natAbs < 10 ^ Numeral.maxDigits := by
  cases v with
  | int m =>
    cases h
    exact hshort n rfl
  | bool b =>
    cases h
    cases b <;> exact Numeral.lt_pow_maxDigits (by decide)
  | float x =>
    rw [asInt] at h
    split at h
    next hint =>
      cases h
      exact x.natAbs_lt_of_toInt hint
    all_goals cases h
  | string s => exact natAbs_lt_of_intOfText h
  | _ => cases h

theorem Value.lt_of_asNat {n : Nat} (h : v.asNat = .ok n)
    (hshort : ∀ m, v = .int m → m.natAbs < 10 ^ Numeral.maxDigits) : n < 10 ^ Numeral.maxDigits := by
  unfold asNat at h
  cases hint : v.asInt with
  | error issues =>
    rw [hint] at h
    cases h
  | ok m =>
    rw [hint] at h
    cases m with
    | ofNat k =>
      cases h
      exact v.natAbs_lt_of_asInt hint hshort
    | negSucc k => cases h

/-! ### Whole numbers that are read -/

/-- A value in which no whole number is too long. -/
inductive Value.Short : Value → Prop
  | null : Short .null
  | bool (b : Bool) : Short (.bool b)
  | int {n : Int} (h : n.natAbs < 10 ^ Numeral.maxDigits) : Short (.int n)
  | float (x : Binary64) : Short (.float x)
  | string (s : String) : Short (.string s)
  | array {items : List Value} (h : ∀ v ∈ items, v.Short) : Short (.array items)
  | object {members : List (String × Value)} (h : ∀ m ∈ members, m.2.Short) : Short (.object members)

section Reading
open Numeral
variable {s rest : List Char}

theorem short_of_readMagnitude {negative : Bool} (h : readMagnitude negative s = some (v, rest)) : v.Short := by
  simp only [readMagnitude, Option.bind_eq_bind, Option.bind_eq_some_iff, Prod.exists] at h
  obtain ⟨_, hguard, fraction, t, -, exponent, u, -, h⟩ := h
  have hlen : (readDigits s).1.length ≤ maxDigits := (Option.ite_none_right_eq_some.mp hguard).1.2.2
  have hdigits : ∀ c ∈ (readDigits s).1, c.isDigit = true := by
    rw [readDigits, List.span_eq_takeWhile_dropWhile]
    exact fun c hc => List.mem_takeWhile_imp hc
  have hlt : natOf (readDigits s).1 < 10 ^ maxDigits := ofDigits_lt_pow_maxDigits hdigits hlen
  split at h
  · cases h
    refine .int ?_
    split
    · rwa [Int.natAbs_neg, Int.natAbs_natCast]
    · rwa [Int.natAbs_natCast]
  · cases h
    exact .float _

theorem short_of_readNumber (h : readNumber s = some (v, rest)) : v.Short := by
  simp only [readNumber] at h
  split at h
  · cases h
    exact .float _
  · exact short_of_readMagnitude h

theorem short_of_readPlain (h : readPlain s = some (v, rest)) : v.Short := by
  unfold readPlain at h
  split at h
  · cases h
    exact .null
  · cases h
    exact .bool true
  · cases h
    exact .bool false
  · cases h
    exact .float .nan
  · exact short_of_readNumber h

/-- With so much fuel, none of the readers that call each other reads a number that is too long. -/
structure ReadsShort (fuel : Nat) : Prop where
  value {depth : Nat} {s rest : List Char} {v : Value} (h : readValue fuel depth s = some (v, rest)) : v.Short
  items {depth : Nat} {s rest : List Char} {vs : List Value} (h : readItems fuel depth s = some (vs, rest)) :
    ∀ v ∈ vs, v.Short
  members {depth : Nat} {s rest : List Char} {ms : List (String × Value)}
    (h : readMembers fuel depth s = some (ms, rest)) : ∀ m ∈ ms, m.2.Short

section Step
variable {fuel depth : Nat} (ih : ReadsShort fuel)
include ih

theorem ReadsShort.readValue_succ (h : readValue (fuel + 1) depth s = some (v, rest)) : v.Short := by
  unfold readValue at h
  split at h
  · obtain ⟨p, -, hp⟩ := Option.map_eq_some_iff.mp h
    cases hp
    exact .string _
  · split at h
    · cases h
      exact .array (List.forall_mem_nil _)
    · cases h
    · simp only [Option.bind_eq_bind, Option.bind_eq_some_iff, Prod.exists] at h
      obtain ⟨w, t, hw, ws, u, hws, h⟩ := h
      cases h
      exact .array (List.forall_mem_cons.mpr ⟨ih.value hw, ih.items hws⟩)
  · split at h
    · cases h
      exact .object (List.forall_mem_nil _)
    · cases h
    · simp only [Option.bind_eq_bind, Option.bind_eq_some_iff, Prod.exists] at h
      obtain ⟨k, t, -, w, u, hw, ms, x, hms, h⟩ := h
      cases h
      exact .object (List.forall_mem_cons.mpr ⟨ih.value hw, ih.members hms⟩)
  · exact short_of_readPlain h

theorem ReadsShort.readItems_succ {vs : List Value} (h : readItems (fuel + 1) depth s = some (vs, rest)) :
    ∀ v ∈ vs, v.Short := by
  unfold readItems at h
  split at h
  · cases h
    exact List.forall_mem_nil _
  · simp only [Option.bind_eq_bind, Option.bind_eq_some_iff, Prod.exists] at h
    obtain ⟨w, t, hw, ws, u, hws, h⟩ := h
    cases h
    exact List.forall_mem_cons.mpr ⟨ih.value hw, ih.items hws⟩
  · cases h

theorem ReadsShort.readMembers_succ {ms : List (String × Value)}
    (h : readMembers (fuel + 1) depth s = some (ms, rest)) : ∀ m ∈ ms, m.2.Short := by
  unfold readMembers at h
  split at h
  · cases h
    exact List.forall_mem_nil _
  · simp only [Option.bind_eq_bind, Option.bind_eq_some_iff, Prod.exists] at h
    obtain ⟨k, t, -, w, u, hw, ns, x, hns, h⟩ := h
    cases h
    exact List.forall_mem_cons.mpr ⟨ih.value hw, ih.members hns⟩
  · cases h

end Step

theorem readsShort (fuel : Nat) : ReadsShort fuel := by
  induction fuel with
  | zero =>
    refine ⟨fun h => ?_, fun h => ?_, fun h => ?_⟩
    · rw [readValue] at h
      cases h
    · rw [readItems] at h
      cases h
    · rw [readMembers] at h
      cases h
  | succ fuel ih => exact ⟨ih.readValue_succ, ih.readItems_succ, ih.readMembers_succ⟩

/-- No text has a number in it that is too long. -/
theorem short_of_read {depth : Nat} (h : read depth s = some v) : v.Short := by
  unfold read at h
  split at h
  next w rest hread =>
    obtain ⟨-, hv⟩ := Option.ite_none_right_eq_some.mp h
    cases hv
    exact (readsShort _).value hread
  next => cases h

end Reading

/-! ### Parts of a value that is read -/

namespace Value.Short

theorem natAbs_lt_of_asInt {n : Int} (hv : v.Short) (h : v.asInt = .ok n) : n.natAbs < 10 ^ Numeral.maxDigits := by
  refine v.natAbs_lt_of_asInt h fun m hm => ?_
  subst hm
  cases hv with
  | int h => exact h

theorem lookup {key : String} {members : List (String × Value)} (hv : (Value.object members).Short)
    (h : lookup key members = some v) : v.Short := by
  obtain ⟨m, hm, rfl⟩ := Option.map_eq_some_iff.mp h
  cases hv with
  | object h => exact h m (List.mem_reverse.mp (List.mem_of_find?_eq_some hm))

end Value.Short
end Json
end Taskboard
