import Taskboard.Task.Filter

/-! What a written filter comes to. If all its items are identifiers, it is the set of these; otherwise the first
    item that is none is the error. -/

namespace Taskboard
namespace Filter

section Items
variable {ids : IdSet} {items good rest : List (List Char)} {bad : List Char}

theorem add_ok {u : Uuid} {item : List Char} (h : Uuid.readLoose? item = some u) :
    add ids item = .ok (ids.insert u) := by
  simp only [add, h]

theorem add_error (h : Uuid.readLoose? bad = none) : add ids bad = .error ⟨bad⟩ := by
  simp only [add, h]

theorem foldlM_add_ok (ids : IdSet) (h : ∀ item ∈ items, (Uuid.readLoose? item).isSome) :
    ∃ ids', items.foldlM add ids = .ok ids' ∧
      ∀ u, u ∈ ids' ↔ u ∈ ids ∨ ∃ item ∈ items, Uuid.readLoose? item = some u := by
  induction items generalizing ids with
  | nil => exact ⟨ids, rfl, fun u => by simp⟩
  | cons item items ih =>
    obtain ⟨v, hv⟩ := Option.isSome_iff_exists.mp (h item List.mem_cons_self)
    obtain ⟨ids', hfold, hmem⟩ := ih (ids.insert v) fun x hx => h x (List.mem_cons_of_mem item hx)
    refine ⟨ids', ?_, fun u => ?_⟩
    · rw [List.foldlM_cons, add_ok hv]
      exact hfold
    · rw [hmem, IdSet.mem_insert]
      simp only [List.mem_cons, exists_eq_or_imp, hv, Option.some.injEq, @eq_comm _ v u]
      exact or_assoc.trans or_left_comm

theorem foldlM_add_error (hgood : ∀ item ∈ good, (Uuid.readLoose? item).isSome) (hbad : Uuid.readLoose? bad = none) :
    (good ++ bad :: rest).foldlM add ids = .error ⟨bad⟩ := by
  obtain ⟨ids', hfold, -⟩ := foldlM_add_ok ids hgood
  rw [List.foldlM_append, hfold]
  show (bad :: rest).foldlM add ids' = .error ⟨bad⟩
  rw [List.foldlM_cons, add_error hbad]
  rfl

theorem exists_first_bad (h : ¬∀ item ∈ items, (Uuid.readLoose? item).isSome) : ∃ good bad rest,
    items = good ++ bad :: rest ∧ (∀ item ∈ good, (Uuid.readLoose? item).isSome) ∧ Uuid.readLoose? bad = none := by
  induction items with
  | nil => exact absurd nofun h
  | cons item items ih =>
    cases hitem : Uuid.readLoose? item with
    | none => exact ⟨[], item, items, rfl, nofun, hitem⟩
    | some u =>
      have hsome : (Uuid.readLoose? item).isSome := by rw [hitem]; rfl
      obtain ⟨good, bad, rest, rfl, hgood, hbad⟩ := ih fun h' => h (List.forall_mem_cons.mpr ⟨hsome, h'⟩)
      exact ⟨item :: good, bad, rest, rfl, List.forall_mem_cons.mpr ⟨hsome, hgood⟩, hbad⟩

end Items

theorem parse_ok {values : List String} (h : ∀ item ∈ items values, (Uuid.readLoose? item).isSome) :
    ∃ ids, parse values = .ok ids ∧ ∀ u, u ∈ ids ↔ ∃ item ∈ items values, Uuid.readLoose? item = some u := by
  obtain ⟨ids, hfold, hmem⟩ := foldlM_add_ok ∅ h
  exact ⟨ids, hfold, fun u => by rw [hmem, or_iff_right (IdSet.not_mem_empty u)]⟩

theorem parse_error {values : List String} {good rest : List (List Char)} {bad : List Char}
    (h : items values = good ++ bad :: rest) (hgood : ∀ item ∈ good, (Uuid.readLoose? item).isSome)
    (hbad : Uuid.readLoose? bad = none) : parse values = .error ⟨bad⟩ := by
  rw [parse, h]
  exact foldlM_add_error hgood hbad

theorem parse_eq_ok_iff {values : List String} {ids : IdSet} : parse values = .ok ids ↔
    (∀ item ∈ items values, (Uuid.readLoose? item).isSome) ∧
      ∀ u, u ∈ ids ↔ ∃ item ∈ items values, Uuid.readLoose? item = some u := by
  by_cases h : ∀ item ∈ items values, (Uuid.readLoose? item).isSome
  · obtain ⟨ids', hparse, hmem⟩ := parse_ok h
    rw [hparse, Except.ok.injEq]
    constructor
    · rintro rfl
      exact ⟨h, hmem⟩
    · rintro ⟨-, hmem'⟩
      exact IdSet.eq_of_mem_iff fun u => (hmem u).trans (hmem' u).symm
  · obtain ⟨good, bad, rest, hitems, hgood, hbad⟩ := exists_first_bad h
    rw [parse_error hitems hgood hbad]
    constructor
    · rintro ⟨⟩
    · rintro ⟨h', -⟩
      exact absurd h' h

end Filter
end Taskboard
