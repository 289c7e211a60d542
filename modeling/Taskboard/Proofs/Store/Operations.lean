import Mathlib.Data.List.Induction
import Mathlib.Data.List.Nodup
import Taskboard.Proofs.Checked
import Taskboard.Task.Store

/-! What the operations do to the lists of a store: which records are there afterwards and in what order. A
    store is tidy when no two running tasks share an identifier; every operation keeps it so. -/

namespace Taskboard
namespace Store

/-! ### The last items of a list -/

section LastOf
variable {α : Type}

/-- What an earlier cut took away would have been cut now. -/
theorem lastOf_lastOf_append (n : Nat) (l m : List α) : lastOf n (lastOf n l ++ m) = lastOf n (l ++ m) := by
  simp only [lastOf, List.length_append, List.length_drop, List.drop_append, List.drop_drop]
  congr 2 <;> omega

theorem lastOf_of_length_le {n : Nat} {l : List α} (h : l.length ≤ n) : lastOf n l = l := by
  rw [lastOf, Nat.sub_eq_zero_of_le h, List.drop_zero]

theorem length_lastOf_le (n : Nat) (l : List α) : (lastOf n l).length ≤ n := by
  rw [lastOf, List.length_drop]
  omega

/-- An item is among the last ones if fewer than these come after it. -/
theorem mem_lastOf_append_cons {n : Nat} {m : List α} (h : m.length < n) (l : List α) (a : α) :
    a ∈ lastOf n (l ++ a :: m) := by
  rw [lastOf, List.drop_append_of_le_length (by rw [List.length_append, List.length_cons]; omega)]
  exact List.mem_append_right _ List.mem_cons_self

theorem mem_lastOf_concat {n : Nat} (hn : 0 < n) (l : List α) (a : α) : a ∈ lastOf n (l ++ [a]) :=
  mem_lastOf_append_cons hn l a

/-- Nothing is left of what as many items come after. -/
theorem lastOf_append_of_le_length {n : Nat} {m : List α} (h : n ≤ m.length) (l : List α) :
    lastOf n (l ++ m) = lastOf n m := by
  have hlen : (l ++ m).length - n = l.length + (m.length - n) := by
    rw [List.length_append]
    omega
  rw [lastOf, hlen, List.drop_append, lastOf]
  simp

end LastOf

/-! ### Records by their identifiers -/

/-- No two records of a list share an identifier. -/
def Distinct (l : List Record) : Prop := (l.map (·.id)).Nodup

section Lists
variable {l : List Record} {q r : Record} {id : Uuid}

theorem Distinct.eq_of_id (h : Distinct l) (hq : q ∈ l) (hr : r ∈ l) (hid : q.id = r.id) : q = r :=
  List.inj_on_of_nodup_map h hq hr hid

/-- An identifier picks one record out of a list. -/
theorem Distinct.filter_id (h : Distinct l) (hr : r ∈ l) : l.filter (·.id = r.id) = [r] := by
  induction l with
  | nil => exact nomatch hr
  | cons q qs ih =>
    obtain ⟨hq, hqs⟩ := List.nodup_cons.mp (show ((q :: qs).map (·.id)).Nodup from h)
    rcases List.mem_cons.mp hr with rfl | hr
    · have hnil : qs.filter (·.id = r.id) = [] := List.filter_eq_nil_iff.mpr fun x hx hid =>
        hq (List.mem_map.mpr ⟨x, hx, of_decide_eq_true hid⟩)
      rw [List.filter_cons_of_pos (by simp), hnil]
    · have hne : q.id ≠ r.id := fun hid => hq (List.mem_map.mpr ⟨r, hr, hid.symm⟩)
      rw [List.filter_cons_of_neg (by simpa using hne), ih hqs hr]

theorem find?_eq_some_iff (h : Distinct l) : l.find? (·.id = id) = some r ↔ r ∈ l ∧ r.id = id := by
  constructor
  · intro hf
    exact ⟨List.mem_of_find?_eq_some hf, by simpa using List.find?_some hf⟩
  · rintro ⟨hr, rfl⟩
    obtain ⟨q, hq⟩ : ∃ q, l.find? (·.id = r.id) = some q :=
      Option.isSome_iff_exists.mp (List.find?_isSome.mpr ⟨r, hr, by simp⟩)
    have hid : q.id = r.id := by simpa using List.find?_some hq
    rw [hq, h.eq_of_id (List.mem_of_find?_eq_some hq) hr hid]

/-- A record with a new identifier goes to the end. -/
theorem put_of_fresh (h : ∀ q ∈ l, q.id ≠ r.id) : put r l = l ++ [r] := by
  induction l with
  | nil => rfl
  | cons q qs ih =>
    have hq : q.id ≠ r.id := h q List.mem_cons_self
    rw [put, if_neg hq, ih fun x hx => h x (List.mem_cons_of_mem _ hx), List.cons_append]

/-- A record that was put into a list is found there. -/
theorem find?_put : (put r l).find? (·.id = r.id) = some r := by
  induction l with
  | nil => rw [put, List.find?_cons_of_pos (by simp)]
  | cons q qs ih =>
    rw [put]
    split
    · rw [List.find?_cons_of_pos (by simp)]
    next hq => rw [List.find?_cons_of_neg (by simpa using hq), ih]

/-- Putting a record into a list does not change which records of other identifiers are there. -/
theorem filter_put : (put r l).filter (·.id ≠ r.id) = l.filter (·.id ≠ r.id) := by
  induction l with
  | nil => rw [put, List.filter_cons_of_neg (by simp)]
  | cons q qs ih =>
    rw [put]
    split
    next hq => rw [List.filter_cons_of_neg (by simp), List.filter_cons_of_neg (by simpa using hq)]
    next hq => rw [List.filter_cons, List.filter_cons, ih]

/-- A record with a known identifier takes the place of the one that has it. -/
theorem map_id_put_of_mem (h : r.id ∈ l.map (·.id)) : (put r l).map (·.id) = l.map (·.id) := by
  induction l with
  | nil => cases h
  | cons q qs ih =>
    by_cases hq : q.id = r.id
    · simp [put, hq]
    · have hqs : r.id ∈ qs.map (·.id) := by
        rcases List.mem_cons.mp h with h' | h'
        · exact absurd h'.symm hq
        · exact h'
      rw [put, if_neg hq, List.map_cons, ih hqs, List.map_cons]

theorem eq_or_mem_of_mem_put (h : q ∈ put r l) : q = r ∨ q ∈ l := by
  induction l with
  | nil => exact .inl (List.mem_singleton.mp h)
  | cons x xs ih =>
    rw [put] at h
    split at h
    · exact (List.mem_cons.mp h).imp_right (List.mem_cons_of_mem x)
    · rcases List.mem_cons.mp h with rfl | h
      · exact .inr List.mem_cons_self
      · exact (ih h).imp_right (List.mem_cons_of_mem _)

theorem mem_put (h : Distinct l) : q ∈ put r l ↔ q = r ∨ q ∈ l ∧ q.id ≠ r.id := by
  induction l with
  | nil => simp [put]
  | cons x xs ih =>
    have hx : x.id ∉ xs.map (·.id) := (List.nodup_cons.mp h).1
    have hxs : Distinct xs := (List.nodup_cons.mp h).2
    by_cases hxr : x.id = r.id
    · have other : ∀ y ∈ xs, y.id ≠ r.id := fun y hy hyr =>
        hx (List.mem_map.mpr ⟨y, hy, hyr.trans hxr.symm⟩)
      rw [put, if_pos hxr, List.mem_cons, List.mem_cons]
      constructor
      · rintro (rfl | hq)
        · exact Or.inl rfl
        · exact Or.inr ⟨Or.inr hq, other q hq⟩
      · rintro (rfl | ⟨rfl | hq, hne⟩)
        · exact Or.inl rfl
        · exact absurd hxr hne
        · exact Or.inr hq
    · rw [put, if_neg hxr, List.mem_cons, ih hxs, List.mem_cons]
      constructor
      · rintro (rfl | rfl | ⟨hq, hne⟩)
        · exact Or.inr ⟨Or.inl rfl, hxr⟩
        · exact Or.inl rfl
        · exact Or.inr ⟨Or.inr hq, hne⟩
      · rintro (rfl | ⟨rfl | hq, hne⟩)
        · exact Or.inr (Or.inl rfl)
        · exact Or.inl rfl
        · exact Or.inr (Or.inr ⟨hq, hne⟩)

end Lists

/-! ### Operations -/

/-- A record is started under the identifier that it was given. -/
theorem Draft.record_id {d : Draft} {id : Uuid} {now : Int} {r : Record} (h : d.record id now = .ok r) : r.id = id := by
  obtain ⟨⟨i, u, c, t⟩, hboth, rfl⟩ := Checked.map_eq_ok_iff.mp h
  have hid : (Except.ok id : Checked Uuid) = .ok i := (Checked.both_eq_ok_iff.mp hboth).1
  exact (Except.ok.inj hid).symm

/-- What holds of a record and of all that are there holds of all once it has been started. -/
theorem forall_mem_start {s : Store} {r : Record} {p : Record → Prop} (hs : ∀ q ∈ s.active ++ s.completed, p q)
    (hr : p r) : ∀ q ∈ (s.start r).active ++ (s.start r).completed, p q := by
  obtain ⟨hactive, hcompleted⟩ := List.forall_mem_append.mp hs
  refine List.forall_mem_append.mpr ⟨fun q hq => ?_, hcompleted⟩
  rcases eq_or_mem_of_mem_put hq with rfl | hq
  · exact hr
  · exact hactive q hq

theorem complete_of_none {s : Store} {id : Uuid} (h : s.active.find? (·.id = id) = none) :
    s.complete id = (s, false) := by
  simp only [complete, h]

theorem complete_of_some {s : Store} {id : Uuid} {r : Record} (h : s.active.find? (·.id = id) = some r) :
    s.complete id = (⟨s.bound, s.active.filter (·.id ≠ id), lastOf s.bound (s.completed ++ [r])⟩, true) := by
  simp only [complete, h]

/-- Finishing a task keeps every record, unless one has to make room. -/
theorem mem_complete {s : Store} {id : Uuid} {r : Record} (hdistinct : Distinct s.active)
    (hroom : s.completed.length < s.bound) :
    (r ∈ (s.complete id).1.active ∨ r ∈ (s.complete id).1.completed) ↔ (r ∈ s.active ∨ r ∈ s.completed) := by
  cases hfind : s.active.find? (·.id = id) with
  | none => rw [complete_of_none hfind]
  | some q =>
    obtain ⟨hq, rfl⟩ := (find?_eq_some_iff hdistinct).mp hfind
    have hkept : lastOf s.bound (s.completed ++ [q]) = s.completed ++ [q] :=
      lastOf_of_length_le (by rw [List.length_append, List.length_singleton]; exact hroom)
    rw [complete_of_some hfind, hkept]
    simp only [List.mem_filter, decide_eq_true_eq, List.mem_append, List.mem_singleton]
    constructor
    · rintro (⟨hr, -⟩ | hr | rfl)
      · exact .inl hr
      · exact .inr hr
      · exact .inl hq
    · rintro (hr | hr)
      · by_cases hid : r.id = q.id
        · exact .inr (.inr (hdistinct.eq_of_id hr hq hid))
        · exact .inl ⟨hr, hid⟩
      · exact .inr (.inl hr)

theorem run_append (s : Store) (actions : List Action) (a : Action) :
    s.run (actions ++ [a]) = ((s.run actions).step a).1 := by
  simp only [run, List.foldl_append, List.foldl_cons, List.foldl_nil]

theorem step_bound (s : Store) (a : Action) : (s.step a).1.bound = s.bound := by
  cases a with
  | create id draft now =>
    simp only [step]
    split <;> rfl
  | complete id =>
    simp only [step, complete]
    split <;> rfl
  | get id => rfl
  | snapshot => rfl
  | clear => rfl

theorem run_bound (s : Store) (actions : List Action) : (s.run actions).bound = s.bound := by
  induction actions using List.reverseRecOn with
  | nil => rfl
  | append_singleton actions a ih => rw [run_append, step_bound, ih]

/-- No more finished tasks stay than the bound says. -/
theorem length_completed_step_le {s : Store} (h : s.completed.length ≤ s.bound) (a : Action) :
    (s.step a).1.completed.length ≤ s.bound := by
  cases a with
  | create id draft now =>
    simp only [step]
    split <;> exact h
  | complete id =>
    simp only [step]
    cases hf : s.active.find? (·.id = id) with
    | none => rw [complete_of_none hf]; exact h
    | some r => rw [complete_of_some hf]; exact length_lastOf_le _ _
  | get id => exact h
  | snapshot => exact h
  | clear => exact Nat.zero_le _

theorem length_completed_run_le {s : Store} (h : s.completed.length ≤ s.bound) (actions : List Action) :
    (s.run actions).completed.length ≤ s.bound := by
  induction actions using List.reverseRecOn with
  | nil => exact h
  | append_singleton actions a ih =>
    rw [run_append]
    have hstep := length_completed_step_le (by rwa [run_bound]) a
    rwa [run_bound] at hstep

/-- What a new store is like: empty, and with the bound that was given, if one was. -/
theorem new_eq_ok {bound : Option Int} {settings : Except Failure Settings} {s : Store}
    (h : new bound settings = .ok s) :
    s.active = [] ∧ s.completed = [] ∧ ∀ n, bound = some n → (s.bound : Int) = n := by
  have ofBound {n : Int} (hn : new.ofBound n = .ok s) : s.active = [] ∧ s.completed = [] ∧ (s.bound : Int) = n := by
    unfold new.ofBound at hn
    split at hn
    · cases hn
    · split at hn
      · cases hn
      · next hneg =>
        cases hn
        exact ⟨rfl, rfl, Int.toNat_of_nonneg (Int.not_lt.mp hneg)⟩
  cases bound with
  | some n =>
    obtain ⟨ha, hc, hb⟩ := ofBound h
    exact ⟨ha, hc, fun m hm => Option.some.inj hm ▸ hb⟩
  | none =>
    cases settings with
    | ok t =>
      obtain ⟨ha, hc, -⟩ := ofBound h
      exact ⟨ha, hc, fun m hm => nomatch hm⟩
    | error f => cases h

end Store
end Taskboard
