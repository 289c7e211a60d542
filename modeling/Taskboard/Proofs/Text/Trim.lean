import Mathlib.Data.List.DropRight
import Taskboard.Text.Blank

/-! Cutting characters from the ends of a text. A text with none of them stays as it is, and so do digits where
    white space is cut. Blanks that are put behind a text are cut from it again. -/

namespace Taskboard
namespace Text
variable {p : Char → Bool} {s : List Char}

theorem trimEnd_eq_rdropWhile (p : Char → Bool) (s : List Char) : trimEnd p s = s.rdropWhile p := rfl

/-- Nothing is cut from a text that holds no character to be cut. -/
theorem trimEnd_eq_self (h : ∀ c ∈ s, p c = false) : trimEnd p s = s := by
  rw [trimEnd_eq_rdropWhile, List.rdropWhile_eq_self_iff]
  intro hl
  rw [h _ (List.getLast_mem hl)]
  exact Bool.false_ne_true

theorem trim_eq_self (h : ∀ c ∈ s, p c = false) : trim p s = s := by
  have hdrop : s.dropWhile p = s := List.dropWhile_eq_self_iff.mpr fun hl => by
    rw [h _ (List.getElem_mem hl)]
    exact Bool.false_ne_true
  rw [trim, hdrop, trimEnd_eq_self h]

theorem trim_eq_nil (h : ∀ c ∈ s, p c = true) : trim p s = [] := by
  rw [trim, List.dropWhile_eq_nil_iff.mpr h]
  rfl

/-- What is cut from the end of a text may be put there as well. -/
theorem trimEnd_append {after : List Char} (h : ∀ c ∈ after, p c = true) (s : List Char) :
    trimEnd p (s ++ after) = trimEnd p s := by
  have hall : ∀ c ∈ after.reverse, p c = true := fun c hc => h c (List.mem_reverse.mp hc)
  rw [trimEnd, List.reverse_append, List.dropWhile_append_of_pos hall, trimEnd]

theorem trimEnd_append_replicate {c : Char} (hc : p c = true) (s : List Char) (n : Nat) :
    trimEnd p (s ++ List.replicate n c) = trimEnd p s :=
  trimEnd_append (fun _ hd => List.eq_of_mem_replicate hd ▸ hc) s

/-- What is cut from the two ends of a text may be put there as well. -/
theorem trim_append {before after : List Char} (hbefore : ∀ c ∈ before, p c = true) (hafter : ∀ c ∈ after, p c = true)
    (s : List Char) : trim p (before ++ s ++ after) = trim p s := by
  rw [trim, trim, List.append_assoc, List.dropWhile_append_of_pos hbefore, List.dropWhile_append]
  split
  next hs =>
    rw [List.isEmpty_iff] at hs
    rw [hs, List.dropWhile_eq_nil_iff.mpr hafter]
  next => exact trimEnd_append hafter _

/-- A text is what is left of it between the characters that were cut. -/
theorem exists_eq_append_trim (p : Char → Bool) (s : List Char) :
    ∃ before after, (∀ c ∈ before, p c = true) ∧ (∀ c ∈ after, p c = true) ∧ s = before ++ trim p s ++ after := by
  refine ⟨s.takeWhile p, (s.dropWhile p).rtakeWhile p, fun c hc => List.mem_takeWhile_imp hc,
    fun c hc => List.mem_rtakeWhile_imp hc, ?_⟩
  rw [List.append_assoc, trim, trimEnd_eq_rdropWhile, List.rdropWhile_append_rtakeWhile,
    List.takeWhile_append_dropWhile]

/-- Nothing is left to be cut. -/
theorem trim_trim (p : Char → Bool) (s : List Char) : trim p (trim p s) = trim p s := by
  have hhead : (trim p s).dropWhile p = trim p s := by
    refine List.dropWhile_eq_self_iff.mpr fun hl => ?_
    have hcut : trim p s <+: s.dropWhile p := List.rdropWhile_prefix p _
    rw [hcut.getElem hl]
    exact List.dropWhile_get_zero_not p s (hl.trans_le hcut.length_le)
  rw [trim, hhead, trim, trimEnd_eq_rdropWhile, trimEnd_eq_rdropWhile, List.rdropWhile_idempotent]

/-- A text is what is left of it and the characters that were cut. -/
theorem exists_eq_trimEnd_append (c : Char) (s : List Char) :
    ∃ n, s = trimEnd (· == c) s ++ List.replicate n c := by
  have hcut : s.rtakeWhile (· == c) = List.replicate (s.rtakeWhile (· == c)).length c :=
    List.eq_replicate_of_mem fun d hd => beq_iff_eq.mp (List.mem_rtakeWhile_imp (p := (· == c)) hd)
  refine ⟨(s.rtakeWhile (· == c)).length, ?_⟩
  rw [← hcut, trimEnd_eq_rdropWhile, List.rdropWhile_append_rtakeWhile]

/-- Nothing is cut from a text that ends in another character. -/
theorem trimEnd_concat {c : Char} (hc : p c = false) (s : List Char) : trimEnd p (s ++ [c]) = s ++ [c] :=
  List.rdropWhile_concat_neg p s c (by rw [hc]; exact Bool.false_ne_true)

/-- A digit is no white space. -/
theorem isWhiteSpace_of_isDigit {c : Char} (h : c.isDigit = true) : isWhiteSpace c = false := by
  obtain ⟨hlow, hhigh⟩ := Char.isDigit_iff_toNat.mp h
  have hlow' : 48 ≤ c.toNat := hlow
  have hhigh' : c.toNat ≤ 57 := hhigh
  rw [isWhiteSpace, Bool.eq_false_iff, Ne, inRanges_iff]
  rintro ⟨r, hr, h₁, h₂⟩
  simp only [whiteSpaceRanges, List.mem_cons, List.not_mem_nil, or_false] at hr
  rcases hr with rfl | rfl | rfl | rfl | rfl | rfl | rfl | rfl | rfl | rfl <;> simp only at h₁ h₂ <;> omega

end Text
end Taskboard
