import Mathlib.Data.List.Basic
import Mathlib.Data.List.Count

/-! Cutting a list at an item. There is one piece more than there are such items, no piece holds one, and lists that
    are put together with the item in front of each are cut one by one. -/

namespace Taskboard
namespace Text
variable {α : Type}

theorem length_splitOn [BEq α] (a : α) (s : List α) : (s.splitOn a).length = s.count a + 1 := by
  induction s with
  | nil => rfl
  | cons b s ih =>
    rw [List.splitOn_cons_eq_if_modifyHead, List.count_cons]
    split
    · rw [List.length_cons, ih]
    · rw [List.length_modifyHead, ih, Nat.add_zero]

theorem mem_of_mem_splitOn [BEq α] {a b : α} {s piece : List α} (h : piece ∈ s.splitOn a) (hb : b ∈ piece) : b ∈ s := by
  induction s generalizing piece with
  | nil =>
    rw [List.splitOn_nil, List.mem_singleton] at h
    exact h ▸ hb
  | cons c s ih =>
    rw [List.splitOn_cons_eq_if_modifyHead] at h
    split at h
    · rcases List.mem_cons.mp h with rfl | h
      · cases hb
      · exact List.mem_cons_of_mem c (ih h hb)
    · obtain ⟨first, rest, hs⟩ := List.exists_cons_of_ne_nil (List.splitOn_ne_nil a s)
      rw [hs, List.modifyHead_cons] at h
      rcases List.mem_cons.mp h with rfl | h
      · rcases List.mem_cons.mp hb with rfl | hb
        · exact List.mem_cons_self
        · exact List.mem_cons_of_mem c (ih (hs ▸ List.mem_cons_self) hb)
      · exact List.mem_cons_of_mem c (ih (hs ▸ List.mem_cons_of_mem first h) hb)

section Pieces
variable [BEq α] [LawfulBEq α] {a : α}

theorem notMem_of_mem_splitOn {s piece : List α} (h : piece ∈ s.splitOn a) : a ∉ piece := by
  induction s generalizing piece with
  | nil =>
    rw [List.splitOn_nil, List.mem_singleton] at h
    rw [h]
    exact List.not_mem_nil
  | cons b s ih =>
    rw [List.splitOn_cons_eq_if_modifyHead] at h
    split at h
    · rcases List.mem_cons.mp h with rfl | h
      · exact List.not_mem_nil
      · exact ih h
    next hb =>
      obtain ⟨first, rest, hs⟩ := List.exists_cons_of_ne_nil (List.splitOn_ne_nil a s)
      rw [hs, List.modifyHead_cons] at h
      rcases List.mem_cons.mp h with rfl | h
      · have hfirst : a ∉ first := ih (hs ▸ List.mem_cons_self)
        rw [List.mem_cons, not_or]
        exact ⟨fun hab => hb (beq_iff_eq.mpr hab.symm), hfirst⟩
      · exact ih (hs ▸ List.mem_cons_of_mem first h)

/-- Lists that are joined by the item are cut one by one. -/
theorem splitOn_intercalate_eq_flatMap {lines : List (List α)} (hne : lines ≠ []) :
    ([a].intercalate lines).splitOn a = lines.flatMap (·.splitOn a) := by
  induction lines with
  | nil => exact absurd rfl hne
  | cons l lines ih =>
    cases lines with
    | nil => simp
    | cons l' lines =>
      rw [List.intercalate_cons_cons, List.append_assoc, List.singleton_append, List.splitOn_append_cons_self,
        ih (List.cons_ne_nil l' lines)]
      rfl

/-- What stands in front of the first item is cut by itself, and so is each list behind one. -/
theorem splitOn_append_flatMap (a : α) (s : List α) (lines : List (List α)) :
    (s ++ lines.flatMap (a :: ·)).splitOn a = s.splitOn a ++ lines.flatMap (·.splitOn a) := by
  induction lines generalizing s with
  | nil => rw [List.flatMap_nil, List.flatMap_nil, List.append_nil, List.append_nil]
  | cons l lines ih => rw [List.flatMap_cons, List.flatMap_cons, List.cons_append, List.splitOn_append_cons_self, ih]

/-- Cutting leaves lists as they are exactly if none of them holds the item. -/
theorem flatMap_splitOn_eq_self_iff {lines : List (List α)} :
    lines.flatMap (·.splitOn a) = lines ↔ ∀ l ∈ lines, a ∉ l := by
  constructor
  · intro h l hl
    rw [← h] at hl
    obtain ⟨l', -, hpiece⟩ := List.mem_flatMap.mp hl
    exact notMem_of_mem_splitOn hpiece
  · intro h
    have hsingle : ∀ l ∈ lines, l.splitOn a = [l] := fun l hl => List.splitOn_eq_singleton (h l hl)
    rw [List.flatMap_congr hsingle, List.flatMap_singleton']

end Pieces

end Text
end Taskboard
