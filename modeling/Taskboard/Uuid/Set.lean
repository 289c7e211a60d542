import Taskboard.Uuid.Basic

/-! Finite sets of identifiers, kept in ascending order and without repetition, so that two sets with the
    same members are equal. -/

namespace Taskboard

structure IdSet where
  toList : List Uuid
  ascending : toList.Pairwise fun u v => u.toNat < v.toNat

namespace IdSet

/-- Puts an identifier into its place in an ascending list, unless it is there. -/
def place (u : Uuid) : List Uuid → List Uuid
  | [] => [u]
  | v :: vs =>
    if u.toNat < v.toNat then u :: v :: vs
    else if u.toNat = v.toNat then v :: vs
    else v :: place u vs

theorem mem_place {u w : Uuid} {l : List Uuid} : w ∈ place u l ↔ w = u ∨ w ∈ l := by
  induction l with
  | nil => simp [place]
  | cons v vs ih =>
    simp only [place]
    split
    · simp
    · split
      · next h => simp [Uuid.ext h]
      · simp only [List.mem_cons, ih]
        constructor <;> rintro (h | h | h) <;> simp [h]

theorem place_ascending {u : Uuid} {l : List Uuid} (h : l.Pairwise fun u v => u.toNat < v.toNat) :
    (place u l).Pairwise fun u v => u.toNat < v.toNat := by
  induction l with
  | nil => simp [place]
  | cons v vs ih =>
    obtain ⟨hv, hvs⟩ := List.pairwise_cons.mp h
    simp only [place]
    split
    · next lt =>
      refine List.pairwise_cons.mpr ⟨fun w hw => ?_, h⟩
      rcases List.mem_cons.mp hw with rfl | hw
      · exact lt
      · exact Nat.lt_trans lt (hv w hw)
    · split
      · exact h
      · refine List.pairwise_cons.mpr ⟨fun w hw => ?_, ih hvs⟩
        rcases mem_place.mp hw with rfl | hw
        · omega
        · exact hv w hw

/-- An ascending list is known by its members. -/
theorem eq_of_ascending {l m : List Uuid} (hl : l.Pairwise fun u v => u.toNat < v.toNat)
    (hm : m.Pairwise fun u v => u.toNat < v.toNat) (same : ∀ u, u ∈ l ↔ u ∈ m) : l = m := by
  induction l generalizing m with
  | nil => cases m with
    | nil => rfl
    | cons v vs => exact absurd ((same v).mpr (by simp)) (by simp)
  | cons u us ih => cases m with
    | nil => exact absurd ((same u).mp (by simp)) (by simp)
    | cons v vs =>
      obtain ⟨least, hus⟩ := List.pairwise_cons.mp hl
      obtain ⟨least', hvs⟩ := List.pairwise_cons.mp hm
      have first : u = v := by
        rcases List.mem_cons.mp ((same u).mp (by simp)) with h | h
        · exact h
        · rcases List.mem_cons.mp ((same v).mpr (by simp)) with h' | h'
          · exact h'.symm
          · exact absurd (least' u h) (Nat.lt_asymm (least v h'))
      subst first
      refine congrArg (u :: ·) (ih hus hvs fun w => ?_)
      constructor
      · intro h
        rcases List.mem_cons.mp ((same w).mp (by simp [h])) with rfl | h'
        · exact absurd (least w h) (Nat.lt_irrefl _)
        · exact h'
      · intro h
        rcases List.mem_cons.mp ((same w).mpr (by simp [h])) with rfl | h'
        · exact absurd (least' w h) (Nat.lt_irrefl _)
        · exact h'

instance : Membership Uuid IdSet := ⟨fun s u => u ∈ s.toList⟩

instance (u : Uuid) (s : IdSet) : Decidable (u ∈ s) := inferInstanceAs (Decidable (u ∈ s.toList))

def empty : IdSet := ⟨[], .nil⟩

instance : EmptyCollection IdSet := ⟨empty⟩

def insert (u : Uuid) (s : IdSet) : IdSet := ⟨place u s.toList, place_ascending s.ascending⟩

def ofList (us : List Uuid) : IdSet := us.foldl (fun s u => s.insert u) ∅

def isEmpty (s : IdSet) : Bool := s.toList.isEmpty

@[simp] theorem not_mem_empty (u : Uuid) : ¬u ∈ (∅ : IdSet) := List.not_mem_nil

@[simp] theorem mem_insert {u w : Uuid} {s : IdSet} : w ∈ s.insert u ↔ w = u ∨ w ∈ s := mem_place

/-- Two sets with the same members are equal. -/
theorem eq_of_mem_iff {s t : IdSet} (same : ∀ u, u ∈ s ↔ u ∈ t) : s = t := by
  cases s with | mk l hl => cases t with | mk m hm =>
    cases eq_of_ascending hl hm same
    rfl

end IdSet
end Taskboard
