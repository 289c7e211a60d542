import Mathlib.Data.List.Forall2
import Taskboard.Issue

/-! When a check passes. Independent checks pass together exactly if each of them does, and a check of a part
    passes as seen from the whole exactly if it passes by itself. -/

namespace Taskboard
namespace Checked
variable {ε α β : Type}

theorem map_eq_ok_iff {f : α → β} {x : Except ε α} {b : β} : x.map f = .ok b ↔ ∃ a, x = .ok a ∧ f a = b := by
  cases x <;> simp [Except.map]

theorem both_eq_ok_iff {x : Checked α} {y : Checked β} {p : α × β} :
    x.both y = .ok p ↔ x = .ok p.1 ∧ y = .ok p.2 := by
  obtain ⟨a, b⟩ := p
  cases x <;> cases y <;> simp [both]

theorem under_eq_ok_iff {step : Step} {x : Checked α} {a : α} : under step x = .ok a ↔ x = .ok a := by
  cases x <;> simp [under]

/-- What is wrong, if anything. -/
def issues : Checked α → List Issue
  | .ok _ => []
  | .error is => is

theorem issues_map (f : α → β) (x : Checked α) : issues (x.map f) = x.issues := by
  cases x <;> rfl

theorem issues_both (x : Checked α) (y : Checked β) : (x.both y).issues = x.issues ++ y.issues := by
  cases x <;> cases y <;> simp [both, issues]

/-- A list passes item by item. -/
theorem list_eq_ok_iff {check : α → Checked β} {as : List α} {bs : List β} :
    list check as = .ok bs ↔ List.Forall₂ (fun a b => check a = .ok b) as bs := by
  unfold list
  generalize 0 = index
  induction as generalizing index bs with
  | nil => rw [listFrom, List.forall₂_nil_left_iff, Except.ok.injEq, eq_comm]
  | cons a as ih =>
    rw [listFrom, map_eq_ok_iff, List.forall₂_cons_left_iff]
    simp only [both_eq_ok_iff, under_eq_ok_iff, ih]
    constructor
    · rintro ⟨⟨b, bs⟩, ⟨hb, hbs⟩, rfl⟩
      exact ⟨b, bs, hb, hbs, rfl⟩
    · rintro ⟨b, bs, hb, hbs, rfl⟩
      exact ⟨(b, bs), ⟨hb, hbs⟩, rfl⟩

theorem list_map_ok {check : α → Checked β} {γ : Type} {f : γ → α} {g : γ → β} {cs : List γ}
    (h : ∀ c ∈ cs, check (f c) = .ok (g c)) : list check (cs.map f) = .ok (cs.map g) := by
  rw [list_eq_ok_iff, List.forall₂_map_left_iff, List.forall₂_map_right_iff]
  exact List.forall₂_same.mpr h

end Checked
end Taskboard
