import Taskboard.Text.Width

/-! Texts cut at a width. No character is without width, so that the width of what stands in front says where it
    ends. -/

namespace Taskboard
namespace Text
open width (widthOf)

theorem units_pos (c : Char) : 0 < units c := by
  unfold units
  split <;> decide

theorem widthOf_replicate_blank (n : Nat) : widthOf (List.replicate n ' ') = n := by
  induction n with
  | zero => rfl
  | succ n ih =>
    rw [List.replicate_succ, widthOf, ih, Nat.add_comm]
    rfl

/-- Two texts that go on are the same only if what stands in front is, as soon as it is equally wide. -/
theorem append_inj_of_widthOf {s t x y : List Char} (h : s ++ x = t ++ y) (hwidth : widthOf s = widthOf t) :
    s = t ∧ x = y := by
  induction s generalizing t with
  | nil =>
    cases t with
    | nil => exact ⟨rfl, h⟩
    | cons d t =>
      have hpos := units_pos d
      rw [widthOf, widthOf] at hwidth
      omega
  | cons c s ih =>
    cases t with
    | nil =>
      have hpos := units_pos c
      rw [widthOf, widthOf] at hwidth
      omega
    | cons d t =>
      obtain ⟨rfl, hrest⟩ := List.cons.inj h
      rw [widthOf, widthOf] at hwidth
      obtain ⟨rfl, hxy⟩ := ih hrest (by omega)
      exact ⟨rfl, hxy⟩

/-- A run of blanks ends where something else begins. -/
theorem replicate_blank_inj {m n : Nat} {x y : List Char} (h : List.replicate m ' ' ++ x = List.replicate n ' ' ++ y)
    (hx : x.head? ≠ some ' ') (hy : y.head? ≠ some ' ') : m = n ∧ x = y := by
  induction m generalizing n with
  | zero =>
    cases n with
    | zero => exact ⟨rfl, h⟩
    | succ n =>
      rw [List.replicate_zero, List.nil_append, List.replicate_succ] at h
      exact absurd (by rw [h]; rfl) hx
  | succ m ih =>
    cases n with
    | zero =>
      rw [List.replicate_zero, List.nil_append, List.replicate_succ] at h
      exact absurd (by rw [← h]; rfl) hy
    | succ n =>
      rw [List.replicate_succ, List.replicate_succ, List.cons_append, List.cons_append] at h
      obtain ⟨rfl, hxy⟩ := ih (List.cons.inj h).2
      exact ⟨rfl, hxy⟩

end Text
end Taskboard
