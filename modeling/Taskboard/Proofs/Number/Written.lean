import Taskboard.Proofs.Number.Decimal

/-! How numbers of base sixteen may be written. The reading takes white space around the number, a sign, a base mark,
    single underscores and the decimal digits of all scripts, and nothing else (`Numeral.read?_eq_some_iff`). However it
    is written, a number has no more digits than its text has characters (`Numeral.Written.lt`). -/

namespace Taskboard
namespace Numeral
open Text

/-- Digits with single underscores between them, and what each digit is worth. -/
inductive Spaced (value : Char → Option Nat) : List Char → List Nat → Prop
  | last {c : Char} {d : Nat} (h : value c = some d) : Spaced value [c] [d]
  | next {c : Char} {d : Nat} {s : List Char} {ds : List Nat} (h : value c = some d) (hs : Spaced value s ds) :
    Spaced value (c :: s) (d :: ds)
  | spaced {c : Char} {d : Nat} {s : List Char} {ds : List Nat} (h : value c = some d) (hs : Spaced value s ds) :
    Spaced value (c :: '_' :: s) (d :: ds)

/-- Digits of base sixteen, or such digits behind a base mark, which may have an underscore behind it. -/
inductive Marked (n : Nat) : List Char → Prop
  | plain {s : List Char} {ds : List Nat} (h : Spaced (digit? 16) s ds) (hn : ofDigits 16 ds = n) : Marked n s
  | marked {z x : Char} {s : List Char} {ds : List Nat} (hz : digit? 16 z = some 0) (hx : x = 'x' ∨ x = 'X')
    (h : Spaced (digit? 16) s ds) (hn : ofDigits 16 ds = n) : Marked n (z :: x :: s)
  | spaced {z x : Char} {s : List Char} {ds : List Nat} (hz : digit? 16 z = some 0) (hx : x = 'x' ∨ x = 'X')
    (h : Spaced (digit? 16) s ds) (hn : ofDigits 16 ds = n) : Marked n (z :: x :: '_' :: s)

/-- A number of base sixteen without a minus sign: white space may stand around it, and a plus sign in front. -/
inductive Written (n : Nat) : List Char → Prop
  | plain {before s after : List Char} (hbefore : ∀ c ∈ before, isWhiteSpace c = true) (h : Marked n s)
    (hafter : ∀ c ∈ after, isWhiteSpace c = true) : Written n (before ++ s ++ after)
  | plus {before s after : List Char} (hbefore : ∀ c ∈ before, isWhiteSpace c = true) (h : Marked n s)
    (hafter : ∀ c ∈ after, isWhiteSpace c = true) : Written n (before ++ '+' :: s ++ after)

/-! ### Digits -/

section Digits
variable {base d : Nat} {c : Char} {s : List Char} {ds : List Nat} {value : Char → Option Nat}

theorem digit?_lt (h : digit? base c = some d) : d < base := by
  unfold digit? at h
  split at h
  · obtain ⟨hlt, h⟩ := Option.ite_none_right_eq_some.mp h
    exact Option.some.inj h ▸ hlt
  · exact of_decide_eq_true (Option.filter_eq_some_iff.mp h).2

/-- White space is no digit. -/
theorem digit?_of_isWhiteSpace (base : Nat) (h : isWhiteSpace c = true) : digit? base c = none := by
  have hnone : decimalDigit? c = none ∧ hexDigit? c = none := by
    obtain ⟨r, hr, hlow, hhigh⟩ := inRanges_iff.mp h
    rw [← Char.ofNat_toNat c]
    simp only [whiteSpaceRanges, List.mem_cons, List.not_mem_nil, or_false] at hr
    rcases hr with rfl | rfl | rfl | rfl | rfl | rfl | rfl | rfl | rfl | rfl <;> simp only at hlow hhigh <;>
      interval_cases c.toNat <;> decide
  rw [digit?, hnone.1, hnone.2]
  rfl

namespace Spaced

theorem exists_cons (h : Spaced value s ds) : ∃ c d rest, s = c :: rest ∧ value c = some d := by
  cases h with
  | last h => exact ⟨_, _, _, rfl, h⟩
  | next h _ => exact ⟨_, _, _, rfl, h⟩
  | spaced h _ => exact ⟨_, _, _, rfl, h⟩

theorem mem (h : Spaced value s ds) (hc : c ∈ s) : (value c).isSome ∨ c = '_' := by
  induction h with
  | last h =>
    rw [List.mem_singleton.mp hc, h]
    exact .inl rfl
  | next h _ ih =>
    rcases List.mem_cons.mp hc with rfl | hc
    · rw [h]
      exact .inl rfl
    · exact ih hc
  | spaced h _ ih =>
    rcases List.mem_cons.mp hc with rfl | hc
    · rw [h]
      exact .inl rfl
    · rcases List.mem_cons.mp hc with rfl | hc
      · exact .inr rfl
      · exact ih hc

theorem length_le (h : Spaced value s ds) : ds.length ≤ s.length := by
  induction h with
  | last => exact Nat.le_refl 1
  | next _ _ ih => exact Nat.succ_le_succ ih
  | spaced _ _ ih => exact Nat.le_succ_of_le (Nat.succ_le_succ ih)

theorem digit_lt (h : Spaced (digit? base) s ds) : ∀ d ∈ ds, d < base := by
  induction h with
  | last h => exact List.forall_mem_singleton.mpr (digit?_lt h)
  | next h _ ih => exact List.forall_mem_cons.mpr ⟨digit?_lt h, ih⟩
  | spaced h _ ih => exact List.forall_mem_cons.mpr ⟨digit?_lt h, ih⟩

end Spaced

theorem spaced_of_digits? (h : digits? value s = some ds) : Spaced value s ds := by
  fun_induction digits? value s generalizing ds with
  | case1 => cases h
  | case2 c =>
    obtain ⟨d, hd, rfl⟩ := Option.map_eq_some_iff.mp h
    exact .last hd
  | case3 c rest ih =>
    obtain ⟨d, hd, h⟩ := Option.bind_eq_some_iff.mp h
    obtain ⟨ds', hds, h⟩ := Option.bind_eq_some_iff.mp h
    cases h
    exact .spaced hd (ih hds)
  | case4 c c' rest _ ih =>
    obtain ⟨d, hd, h⟩ := Option.bind_eq_some_iff.mp h
    obtain ⟨ds', hds, h⟩ := Option.bind_eq_some_iff.mp h
    cases h
    exact .next hd (ih hds)

theorem digits?_of_spaced (hunderscore : value '_' = none) (h : Spaced value s ds) : digits? value s = some ds := by
  induction h with
  | last h =>
    rw [digits?, h]
    rfl
  | next h hs ih =>
    obtain ⟨c', d', rest, rfl, hd'⟩ := hs.exists_cons
    have hc' : c' ≠ '_' := by
      rintro rfl
      rw [hunderscore] at hd'
      cases hd'
    rw [digits?, h, ih]
    · rfl
    · exact hc'
  | spaced h _ ih =>
    rw [digits?, h, ih]
    rfl

end Digits

/-! ### Numbers -/

section Numbers
variable {n : Nat} {c : Char} {s : List Char}

theorem dropMark_of_notMem (hx : 'x' ∉ s) (hX : 'X' ∉ s) : dropMark 16 s = s := by
  unfold dropMark
  split
  next z x rest =>
    rw [if_neg]
    rintro ⟨-, -, rfl | rfl⟩
    · exact hx (by simp)
    · exact hX (by simp)
  next => rfl

theorem magnitude?_eq_some_iff : magnitude? 16 s = some n ↔ Marked n s := by
  rw [magnitude?, Option.map_eq_some_iff]
  constructor
  · rintro ⟨ds, hds, hn⟩
    have hspaced := spaced_of_digits? hds
    unfold dropMark at hspaced
    split at hspaced
    · split at hspaced
      next hmark =>
        obtain ⟨-, hz, hx⟩ := hmark
        split at hspaced
        · exact .spaced hz hx hspaced hn
        · exact .marked hz hx hspaced hn
      next => exact .plain hspaced hn
    · exact .plain hspaced hn
  · have read {s : List Char} {ds : List Nat} (hs : Spaced (digit? 16) s ds) : digits? (digit? 16) s = some ds :=
      digits?_of_spaced (by decide) hs
    intro h
    cases h with
    | plain hs hn =>
      -- Digits alone are not taken for a mark, as no letter of a mark is a digit.
      have hnot {x : Char} (hx : ¬((digit? 16 x).isSome ∨ x = '_')) : x ∉ s := fun h => hx (hs.mem h)
      exact ⟨_, by rw [dropMark_of_notMem (hnot (by decide)) (hnot (by decide)), read hs], hn⟩
    | marked hz hx hs hn =>
      -- What stands behind the mark begins with a digit, so no underscore goes with the mark.
      obtain ⟨c, d, rest, rfl, hd⟩ := hs.exists_cons
      refine ⟨_, ?_, hn⟩
      rw [dropMark, if_pos ⟨rfl, hz, hx⟩]
      · exact read hs
      · rintro rest' ⟨⟩
        cases hd
    | spaced hz hx hs hn =>
      refine ⟨_, ?_, hn⟩
      rw [dropMark, if_pos ⟨rfl, hz, hx⟩]
      exact read hs

theorem Marked.mem (h : Marked n s) (hc : c ∈ s) : (digit? 16 c).isSome ∨ c ∈ "_xX".toList := by
  have mem {s : List Char} {ds : List Nat} (hs : Spaced (digit? 16) s ds) (hc : c ∈ s) :
      (digit? 16 c).isSome ∨ c ∈ "_xX".toList := (hs.mem hc).imp_right (by rintro rfl; decide)
  have mark {x : Char} (hx : x = 'x' ∨ x = 'X') : x ∈ "_xX".toList := by rcases hx with rfl | rfl <;> decide
  cases h with
  | plain hs _ => exact mem hs hc
  | marked hz hx hs _ =>
    rcases List.mem_cons.mp hc with rfl | hc
    · exact .inl (by rw [hz]; rfl)
    · rcases List.mem_cons.mp hc with rfl | hc
      · exact .inr (mark hx)
      · exact mem hs hc
  | spaced hz hx hs _ =>
    rcases List.mem_cons.mp hc with rfl | hc
    · exact .inl (by rw [hz]; rfl)
    · rcases List.mem_cons.mp hc with rfl | hc
      · exact .inr (mark hx)
      · rcases List.mem_cons.mp hc with rfl | hc
        · exact .inr (by decide)
        · exact mem hs hc

/-- Neither white space nor a sign is part of the digits and their mark. -/
theorem Marked.notMem (h : Marked n s) : (∀ c ∈ s, isWhiteSpace c = false) ∧ '-' ∉ s ∧ '+' ∉ s := by
  refine ⟨fun c hc => ?_, fun hc => absurd (h.mem hc) (by decide), fun hc => absurd (h.mem hc) (by decide)⟩
  rcases h.mem hc with hdigit | hmark
  · rw [Bool.eq_false_iff]
    intro hblank
    rw [digit?_of_isWhiteSpace 16 hblank] at hdigit
    cases hdigit
  · exact (List.forall_iff_forall_mem.mp (by decide) : ∀ c ∈ "_xX".toList, isWhiteSpace c = false) c hmark

theorem trim_of_marked {before after t : List Char} (hbefore : ∀ c ∈ before, isWhiteSpace c = true)
    (hafter : ∀ c ∈ after, isWhiteSpace c = true) (ht : ∀ c ∈ t, isWhiteSpace c = false) :
    trim isWhiteSpace (before ++ t ++ after) = t :=
  (trim_append hbefore hafter t).trans (trim_eq_self ht)

theorem read?_of_written (h : Written n s) : read? 16 s = some (n : Int) := by
  cases h with
  | plain hbefore h hafter =>
    obtain ⟨hblank, hminus, hplus⟩ := h.notMem
    rw [read?, trim_of_marked hbefore hafter hblank]
    split
    · exact absurd List.mem_cons_self hminus
    · exact absurd List.mem_cons_self hplus
    · rw [magnitude?_eq_some_iff.mpr h]
      rfl
  | plus hbefore h hafter =>
    have hplus : isWhiteSpace '+' = false := by decide
    rw [read?, trim_of_marked hbefore hafter (List.forall_mem_cons.mpr ⟨hplus, h.notMem.1⟩)]
    simp only [magnitude?_eq_some_iff.mpr h]
    rfl

/-- Which texts without a minus sign are read as numbers, and as which. -/
theorem read?_eq_some_iff {z : Int} (hminus : '-' ∉ s) : read? 16 s = some z ↔ ∃ n : Nat, z = n ∧ Written n s := by
  constructor
  · intro h
    have number {o : Option Nat} (h : Option.map (fun n : Int => n) (do return ((← o : Nat) : Int)) = some z) :
        ∃ n : Nat, o = some n ∧ z = n := by
      cases o with
      | none => cases h
      | some n => exact ⟨n, rfl, (Option.some.inj h).symm⟩
    obtain ⟨before, after, hbefore, hafter, hs⟩ := exists_eq_append_trim isWhiteSpace s
    rw [read?] at h
    split at h
    next rest hcore =>
      rw [hs, hcore] at hminus
      exact absurd (by simp) hminus
    next rest hcore =>
      obtain ⟨n, hn, rfl⟩ := number h
      rw [hs, hcore]
      exact ⟨n, rfl, .plus hbefore (magnitude?_eq_some_iff.mp hn) hafter⟩
    next =>
      obtain ⟨n, hn, rfl⟩ := number h
      refine ⟨n, rfl, ?_⟩
      rw [hs]
      exact .plain hbefore (magnitude?_eq_some_iff.mp hn) hafter
  · rintro ⟨n, rfl, hwritten⟩
    exact read?_of_written hwritten

/-- Around the digits and their mark stand white space and at most a sign. -/
theorem Written.exists_marked (h : Written n s) : ∃ core, Marked n core ∧ core.Sublist s ∧
    ∀ c ∈ s, isWhiteSpace c = true ∨ c = '+' ∨ c ∈ core := by
  have around {before core after : List Char} (hbefore : ∀ c ∈ before, isWhiteSpace c = true)
      (hafter : ∀ c ∈ after, isWhiteSpace c = true) : ∀ c ∈ before ++ core ++ after, isWhiteSpace c = true ∨ c ∈ core :=
    List.forall_mem_append.mpr ⟨List.forall_mem_append.mpr ⟨fun c hc => .inl (hbefore c hc), fun _ => .inr⟩,
      fun c hc => .inl (hafter c hc)⟩
  cases h with
  | @plain before core after hbefore h hafter =>
    refine ⟨core, h, ?_, fun c hc => (around hbefore hafter c hc).imp_right .inr⟩
    exact (List.sublist_append_right before core).trans (List.sublist_append_left _ after)
  | @plus before core after hbefore h hafter =>
    refine ⟨core, h, ?_, fun c hc => (around hbefore hafter c hc).imp_right List.mem_cons.mp⟩
    exact (List.sublist_cons_self '+' core).trans
      ((List.sublist_append_right before _).trans (List.sublist_append_left _ after))

/-- A text is one number at most. -/
theorem Written.unique {m : Nat} (hm : Written m s) (hn : Written n s) : m = n := by
  have h := read?_of_written hm
  rw [read?_of_written hn, Option.some_inj] at h
  exact (Int.ofNat_inj.mp h).symm

theorem Written.ne_nil (h : Written n s) : s ≠ [] := by
  rintro rfl
  cases read?_of_written h

/-! ### Bounds -/

theorem Marked.lt (h : Marked n s) : n < 16 ^ s.length := by
  have lt {s t : List Char} {ds : List Nat} (hs : Spaced (digit? 16) s ds) (hlen : s.length ≤ t.length) :
      ofDigits 16 ds < 16 ^ t.length :=
    (ofDigits_lt hs.digit_lt).trans_le (Nat.pow_le_pow_right (by decide) (hs.length_le.trans hlen))
  cases h with
  | plain hs hn => exact hn ▸ lt hs (Nat.le_refl _)
  | marked _ _ hs hn => exact hn ▸ lt hs (Nat.le_add_right _ 2)
  | spaced _ _ hs hn => exact hn ▸ lt hs (Nat.le_add_right _ 3)

/-- A number is less than the power of sixteen with the length of its text. -/
theorem Written.lt (h : Written n s) : n < 16 ^ s.length := by
  obtain ⟨core, hmarked, hsub, -⟩ := h.exists_marked
  exact hmarked.lt.trans_le (Nat.pow_le_pow_right (by decide) hsub.length_le)

end Numbers
end Numeral
end Taskboard
