import Mathlib.Data.List.Perm.Subperm
import Taskboard.Proofs.Store.Operations

/-! The life of a task. It is unknown until it is started, runs until it is finished, and is gone once the store
    has forgotten it. As long as no identifier is given out twice, no task ever goes back (`Sound.passes`), and
    so each is finished at most once and no two records of a store share an identifier. -/

namespace Taskboard
namespace Store

/-- The identifier under which an operation starts a task. A draft that does not pass starts none. -/
def Action.started? : Action → Option Uuid
  | .create id draft now => match draft.record id now with
    | .ok _ => some id
    | .error _ => none
  | .complete _ | .get _ | .snapshot | .clear => none

/-- The identifiers under which tasks were started, in order. -/
def started (actions : List Action) : List Uuid := actions.filterMap Action.started?

/-- Where a task is in its life. -/
inductive Standing where
  | unknown
  | active
  | completed
  | gone
deriving DecidableEq

/-- How far a task has come. -/
def Standing.rank : Standing → Nat
  | .unknown => 0
  | .active => 1
  | .completed => 2
  | .gone => 3

/-- Where the task of an identifier is, in a store with the given past. -/
def standing (past : List Action) (s : Store) (id : Uuid) : Standing :=
  if id ∈ s.active.map (·.id) then .active
  else if id ∈ s.completed.map (·.id) then .completed
  else if id ∈ started past then .gone
  else .unknown

/-- The steps in the life of a task, each with the operations that make it, where `n` finished tasks stay. -/
inductive Passage (n : Nat) (id : Uuid) : Action → Standing → Standing → Prop where
  | start (draft : Draft) (now : Int) : Passage n id (.create id draft now) .unknown .active
  | finish (hn : 0 < n) : Passage n id (.complete id) .active .completed
  | lapse (hn : n = 0) : Passage n id (.complete id) .active .gone
  | evict {other : Uuid} (hne : other ≠ id) : Passage n id (.complete other) .completed .gone
  | clearActive : Passage n id .clear .active .gone
  | clearCompleted : Passage n id .clear .completed .gone

theorem Passage.rank_lt {n : Nat} {id : Uuid} {a : Action} {x y : Standing} (h : Passage n id a x y) :
    x.rank < y.rank := by
  cases h <;> decide

section Standing
variable {past : List Action} {s : Store} {a : Action} {id : Uuid}

theorem standing_eq_active_iff : standing past s id = .active ↔ id ∈ s.active.map (·.id) := by
  unfold standing
  split
  · next h => exact iff_of_true rfl h
  · next h => exact iff_of_false (by split <;> (try split) <;> decide) h

theorem standing_eq_completed (ha : id ∉ s.active.map (·.id)) (hc : id ∈ s.completed.map (·.id)) :
    standing past s id = .completed := by
  rw [standing, if_neg ha, if_pos hc]

theorem standing_eq_gone (ha : id ∉ s.active.map (·.id)) (hc : id ∉ s.completed.map (·.id)) (hs : id ∈ started past) :
    standing past s id = .gone := by
  rw [standing, if_neg ha, if_neg hc, if_pos hs]

theorem standing_eq_unknown (ha : id ∉ s.active.map (·.id)) (hc : id ∉ s.completed.map (·.id))
    (hs : id ∉ started past) : standing past s id = .unknown := by
  rw [standing, if_neg ha, if_neg hc, if_neg hs]

theorem started_append : started (past ++ [a]) = started past ++ a.started?.toList := by
  rw [started, List.filterMap_append, started]
  cases h : a.started? <;> simp [h]

section Create
variable {r : Record} {draft : Draft} {now : Int}

theorem started_create (hd : draft.record id now = .ok r) :
    started (past ++ [.create id draft now]) = started past ++ [id] := by
  rw [started_append, Action.started?, hd]
  rfl

theorem notMem_started_of_create (hd : draft.record id now = .ok r)
    (hnew : (started (past ++ [.create id draft now])).Nodup) : id ∉ started past := by
  rw [started_create hd] at hnew
  exact fun hmem => List.disjoint_of_nodup_append hnew hmem (List.mem_singleton_self id)

end Create

/-- An operation that starts no task changes nothing but the store. -/
theorem standing_append (ha : a.started? = none) : standing (past ++ [a]) s id = standing past s id := by
  rw [standing, started_append, ha, Option.toList_none, List.append_nil, standing]

theorem standing_congr {t : Store} (ha : id ∈ t.active.map (·.id) ↔ id ∈ s.active.map (·.id))
    (hc : id ∈ t.completed.map (·.id) ↔ id ∈ s.completed.map (·.id))
    (hs : id ∈ started (past ++ [a]) ↔ id ∈ started past) : standing (past ++ [a]) t id = standing past s id := by
  simp only [standing, ha, hc, hs]

/-- Finishing a task that runs succeeds, and finishing any other does nothing. -/
theorem step_complete (past : List Action) (s : Store) (id : Uuid) :
    (standing past s id = .active ∧ (s.step (.complete id)).2 = .completed true) ∨
      (standing past s id ≠ .active ∧ s.step (.complete id) = (s, .completed false)) := by
  rw [Ne, standing_eq_active_iff, step]
  cases hf : s.active.find? (·.id = id) with
  | none =>
    rw [complete_of_none hf]
    refine Or.inr ⟨fun hid => ?_, rfl⟩
    obtain ⟨r, hr, hid⟩ := List.mem_map.mp hid
    exact absurd (decide_eq_true hid) (List.find?_eq_none.mp hf r hr)
  | some r =>
    rw [complete_of_some hf]
    exact Or.inl ⟨List.mem_map.mpr ⟨r, List.mem_of_find?_eq_some hf, by simpa using List.find?_some hf⟩, rfl⟩

theorem standing_of_completed (past : List Action) (h : (s.step (.complete id)).2 = .completed true) :
    standing past s id = .active := by
  rcases step_complete past s id with ⟨hactive, -⟩ | ⟨-, hidle⟩
  · exact hactive
  · rw [hidle] at h
    cases h

end Standing

/-! ### A store whose tasks have identifiers of their own -/

/-- What a store is like when no identifier was given out twice. -/
structure Sound (past : List Action) (s : Store) : Prop where
  distinct : Distinct (s.active ++ s.completed)
  known : ∀ r ∈ s.active ++ s.completed, r.id ∈ started past

namespace Sound
variable {past : List Action} {s : Store} {a : Action} {id : Uuid}

theorem nil (ha : s.active = []) (hc : s.completed = []) : Sound [] s := by
  constructor
  · rw [ha, hc]
    exact .nil
  · rw [ha, hc]
    exact fun r hr => nomatch hr

theorem mem_started (S : Sound past s) (h : id ∈ s.active.map (·.id) ∨ id ∈ s.completed.map (·.id)) :
    id ∈ started past := by
  rw [← List.mem_append, ← List.map_append] at h
  obtain ⟨q, hq, rfl⟩ := List.mem_map.mp h
  exact S.known q hq

theorem fresh (S : Sound past s) (hid : id ∉ started past) : ∀ q ∈ s.active ++ s.completed, q.id ≠ id :=
  fun q hq hqid => hid (hqid ▸ S.known q hq)

theorem notMem_active (S : Sound past s) (hc : id ∈ s.completed.map (·.id)) : id ∉ s.active.map (·.id) := by
  have hnodup := S.distinct
  rw [Distinct, List.map_append] at hnodup
  exact fun ha => List.disjoint_of_nodup_append hnodup ha hc

/-- A store that holds some of the records of another one is sound if that one is. -/
theorem of_subperm {t : Store} (S : Sound past s)
    (h : (t.active ++ t.completed).Subperm (s.active ++ s.completed)) : Sound past t where
  distinct := by
    obtain ⟨l, hperm, hsub⟩ := h
    exact ((hperm.map _).nodup_iff).mp (S.distinct.sublist (hsub.map _))
  known r hr := S.known r (h.subset hr)

theorem start (S : Sound past s) {r : Record} (hid : r.id ∉ started past) (ha : a.started? = some r.id) :
    Sound (past ++ [a]) (s.start r) := by
  have hfresh := S.fresh hid
  have hput : put r s.active = s.active ++ [r] := put_of_fresh fun q hq => hfresh q (List.mem_append_left _ hq)
  have hperm : (s.active ++ [r] ++ s.completed).Perm (s.active ++ s.completed ++ [r]) := by
    rw [List.append_assoc, List.append_assoc]
    exact List.perm_append_comm.append_left _
  constructor
  · rw [Store.start, hput, Distinct, (hperm.map _).nodup_iff, List.map_append]
    refine List.Nodup.append S.distinct (List.nodup_singleton _) (List.disjoint_singleton.mpr fun hmem => ?_)
    obtain ⟨q, hq, hqid⟩ := List.mem_map.mp hmem
    exact hfresh q hq hqid
  · intro q hq
    rw [Store.start, hput] at hq
    rw [started_append, ha]
    rcases List.mem_append.mp (hperm.subset hq) with hq | hq
    · exact List.mem_append_left _ (S.known q hq)
    · rw [List.mem_singleton.mp hq]
      exact List.mem_append_right _ (List.mem_singleton_self _)

theorem append (S : Sound past s) (ha : a.started? = none) : Sound (past ++ [a]) s where
  distinct := S.distinct
  known r hr := by
    rw [started_append, ha, Option.toList_none, List.append_nil]
    exact S.known r hr

theorem complete (S : Sound past s) (id : Uuid) : Sound past (s.complete id).1 := by
  cases hf : s.active.find? (·.id = id) with
  | none =>
    rw [complete_of_none hf]
    exact S
  | some r =>
    have hr : r ∈ s.active := List.mem_of_find?_eq_some hf
    obtain rfl : r.id = id := by simpa using List.find?_some hf
    have hactive : Distinct s.active := S.distinct.sublist ((List.sublist_append_left _ _).map _)
    -- The record goes from one list to the other, and the cut only takes records away.
    have htaken : (s.active.filter (·.id ≠ r.id) ++ (s.completed ++ [r])).Perm (s.active ++ s.completed) := by
      have hsplit := List.filter_append_perm (fun q => decide (q.id = r.id)) s.active
      rw [hactive.filter_id hr] at hsplit
      simp only [ne_eq, decide_not]
      rw [← List.append_assoc]
      exact List.perm_append_comm.trans (hsplit.append_right s.completed)
    have hcut : (lastOf s.bound (s.completed ++ [r])).Sublist (s.completed ++ [r]) := List.drop_sublist _ _
    rw [complete_of_some hf]
    exact S.of_subperm ((hcut.append_left _).subperm.trans htaken.subperm)

theorem clear (S : Sound past s) : Sound past s.clear := S.of_subperm List.nil_subperm

theorem step (S : Sound past s) (hnew : (started (past ++ [a])).Nodup) : Sound (past ++ [a]) (s.step a).1 := by
  cases a with
  | create id draft now =>
    simp only [Store.step]
    cases hd : draft.record id now with
    | ok r =>
      obtain rfl := Draft.record_id hd
      exact S.start (notMem_started_of_create hd hnew) (by simp only [Action.started?, hd])
    | error issues => exact S.append (by simp only [Action.started?, hd])
  | complete id => exact (S.complete id).append rfl
  | get id => exact S.append rfl
  | snapshot => exact S.append rfl
  | clear => exact S.clear.append rfl

theorem run (ha : s.active = []) (hc : s.completed = []) (hnew : (started past).Nodup) : Sound past (s.run past) := by
  induction past using List.reverseRecOn with
  | nil => exact .nil ha hc
  | append_singleton past a ih =>
    rw [run_append]
    rw [started_append] at hnew
    exact (ih (List.Nodup.of_append_left hnew)).step (started_append ▸ hnew)

/-! ### One step in the life of a task -/

theorem passes_start (S : Sound past s) {r : Record} (hnew : r.id ∉ started past) {draft : Draft} {now : Int}
    (hd : draft.record r.id now = .ok r) :
    standing (past ++ [.create r.id draft now]) (s.start r) id = standing past s id ∨
      Passage s.bound id (.create r.id draft now) (standing past s id)
        (standing (past ++ [.create r.id draft now]) (s.start r) id) := by
  have hfresh := S.fresh hnew
  have hput : (s.start r).active = s.active ++ [r] := put_of_fresh fun q hq => hfresh q (List.mem_append_left _ hq)
  have hstarted : started (past ++ [.create r.id draft now]) = started past ++ [r.id] := started_create hd
  by_cases hid : id = r.id
  · subst hid
    have hbefore : standing past s r.id = .unknown :=
      standing_eq_unknown (fun ha => hnew (S.mem_started (.inl ha))) (fun hc => hnew (S.mem_started (.inr hc))) hnew
    have hafter : standing (past ++ [.create r.id draft now]) (s.start r) r.id = .active :=
      standing_eq_active_iff.mpr (by rw [hput]; simp)
    rw [hbefore, hafter]
    exact Or.inr (.start draft now)
  · refine Or.inl (standing_congr ?_ Iff.rfl ?_)
    · rw [hput]
      simp [hid]
    · rw [hstarted]
      simp [hid]

/-- A task that is finished stays, if any do. -/
theorem passes_complete_self (S : Sound past s) {r : Record} (hr : r ∈ s.active) {t : Store}
    (hactive : t.active = s.active.filter (·.id ≠ r.id))
    (hcompleted : t.completed = lastOf s.bound (s.completed ++ [r])) :
    Passage s.bound r.id (.complete r.id) (standing past s r.id) (standing past t r.id) := by
  have hrun : r.id ∈ s.active.map (·.id) := List.mem_map_of_mem hr
  have hleft : r.id ∉ t.active.map (·.id) := by
    rw [hactive]
    simp
  rw [standing_eq_active_iff.mpr hrun]
  rcases Nat.eq_zero_or_pos s.bound with hn | hn
  · have hnone : r.id ∉ t.completed.map (·.id) := by
      rw [hcompleted, hn, lastOf, Nat.sub_zero, List.drop_length]
      exact List.not_mem_nil
    rw [standing_eq_gone hleft hnone (S.mem_started (.inl hrun))]
    exact .lapse hn
  · have hlast : r.id ∈ t.completed.map (·.id) := by
      rw [hcompleted]
      exact List.mem_map_of_mem (mem_lastOf_concat hn s.completed r)
    rw [standing_eq_completed hleft hlast]
    exact .finish hn

/-- A task may have to make room when another one is finished. -/
theorem passes_complete_other (S : Sound past s) {r : Record} {t : Store} (hne : r.id ≠ id)
    (hactive : t.active = s.active.filter (·.id ≠ r.id))
    (hcompleted : t.completed = lastOf s.bound (s.completed ++ [r])) :
    standing past t id = standing past s id ∨
      Passage s.bound id (.complete r.id) (standing past s id) (standing past t id) := by
  have hrun : id ∈ t.active.map (·.id) ↔ id ∈ s.active.map (·.id) := by
    rw [hactive]
    simp only [List.mem_map, List.mem_filter, decide_eq_true_eq, ne_eq]
    exact ⟨fun ⟨q, ⟨hq, _⟩, hid⟩ => ⟨q, hq, hid⟩, fun ⟨q, hq, hid⟩ => ⟨q, ⟨hq, fun h => hne (h ▸ hid)⟩, hid⟩⟩
  have hkept : id ∈ t.completed.map (·.id) → id ∈ s.completed.map (·.id) := by
    rw [hcompleted]
    intro hmem
    obtain ⟨q, hq, rfl⟩ := List.mem_map.mp hmem
    rcases List.mem_append.mp (List.mem_of_mem_drop hq) with hq | hq
    · exact List.mem_map_of_mem hq
    · exact absurd (List.mem_singleton.mp hq ▸ rfl) hne
  by_cases hmem : id ∈ s.completed.map (·.id) → id ∈ t.completed.map (·.id)
  · exact Or.inl (by simp only [standing, hrun, iff_of_eq (propext ⟨hkept, hmem⟩)])
  · obtain ⟨hc, hgone⟩ := Classical.not_imp.mp hmem
    have hnot := S.notMem_active hc
    rw [standing_eq_completed hnot hc, standing_eq_gone (mt hrun.mp hnot) hgone (S.mem_started (.inr hc))]
    exact Or.inr (.evict hne)

/-- An operation takes each task at most one step further in its life. -/
theorem passes (S : Sound past s) (hnew : (started (past ++ [a])).Nodup) (id : Uuid) :
    standing (past ++ [a]) (s.step a).1 id = standing past s id ∨
      Passage s.bound id a (standing past s id) (standing (past ++ [a]) (s.step a).1 id) := by
  cases a with
  | create i draft now =>
    simp only [Store.step]
    cases hd : draft.record i now with
    | ok r =>
      obtain rfl := Draft.record_id hd
      exact S.passes_start (notMem_started_of_create hd hnew) hd
    | error issues => exact Or.inl (standing_append (by simp only [Action.started?, hd]))
  | complete i =>
    rw [standing_append rfl]
    simp only [Store.step]
    cases hf : s.active.find? (·.id = i) with
    | none =>
      rw [complete_of_none hf]
      exact Or.inl rfl
    | some r =>
      obtain rfl : r.id = i := by simpa using List.find?_some hf
      rw [complete_of_some hf]
      by_cases hid : r.id = id
      · subst hid
        exact Or.inr (S.passes_complete_self (List.mem_of_find?_eq_some hf) rfl rfl)
      · exact S.passes_complete_other hid rfl rfl
  | get i => exact Or.inl (standing_append rfl)
  | snapshot => exact Or.inl (standing_append rfl)
  | clear =>
    rw [standing_append rfl]
    have hafter : id ∈ started past → standing past s.clear id = .gone :=
      standing_eq_gone List.not_mem_nil List.not_mem_nil
    simp only [Store.step]
    by_cases ha : id ∈ s.active.map (·.id)
    · rw [standing_eq_active_iff.mpr ha, hafter (S.mem_started (.inl ha))]
      exact Or.inr .clearActive
    · by_cases hc : id ∈ s.completed.map (·.id)
      · rw [standing_eq_completed ha hc, hafter (S.mem_started (.inr hc))]
        exact Or.inr .clearCompleted
      · refine Or.inl ?_
        rw [standing, standing, if_neg ha, if_neg hc]
        rfl

theorem rank_lt_of_completed (S : Sound past s) (h : (s.step (.complete id)).2 = .completed true) :
    (standing past s id).rank < (standing (past ++ [.complete id]) (s.step (.complete id)).1 id).rank := by
  rw [standing_append rfl]
  simp only [Store.step] at h ⊢
  cases hf : s.active.find? (·.id = id) with
  | none =>
    rw [complete_of_none hf] at h
    cases h
  | some r =>
    obtain rfl : r.id = id := by simpa using List.find?_some hf
    rw [complete_of_some hf]
    exact (S.passes_complete_self (List.mem_of_find?_eq_some hf) rfl rfl).rank_lt

end Sound

/-! ### Runs -/

section Runs
variable {s : Store} {actions past later more : List Action} {id : Uuid}

theorem nodup_started_of_isPrefix (hnew : (started actions).Nodup) (h : past <+: actions) : (started past).Nodup :=
  hnew.sublist (h.sublist.filterMap _)

/-- Where the task of an identifier is after a run. -/
def standingAfter (s : Store) (actions : List Action) (id : Uuid) : Standing := standing actions (s.run actions) id

theorem rank_standingAfter_le (ha : s.active = []) (hc : s.completed = []) (hnew : (started (past ++ more)).Nodup)
    (id : Uuid) : (standingAfter s past id).rank ≤ (standingAfter s (past ++ more) id).rank := by
  induction more using List.reverseRecOn with
  | nil => exact Nat.le_of_eq (by rw [List.append_nil])
  | append_singleton more a ih =>
    rw [← List.append_assoc] at hnew ⊢
    have hbefore : (started (past ++ more)).Nodup := nodup_started_of_isPrefix hnew (List.prefix_append _ _)
    refine Nat.le_trans (ih hbefore) ?_
    rw [standingAfter, standingAfter, run_append]
    rcases (Sound.run ha hc hbefore).passes hnew id with heq | hpass
    · exact Nat.le_of_eq (congrArg Standing.rank heq.symm)
    · exact Nat.le_of_lt hpass.rank_lt

theorem not_completed_again (ha : s.active = []) (hc : s.completed = []) (hnew : (started actions).Nodup)
    (h : past ++ [.complete id] <+: actions) (hdone : ((s.run past).step (.complete id)).2 = .completed true) :
    ((s.run actions).step (.complete id)).2 ≠ .completed true := by
  have hsound : Sound past (s.run past) :=
    .run ha hc (nodup_started_of_isPrefix hnew ((List.prefix_append _ _).trans h))
  -- A task that was finished is past the state in which it runs, and ranks never fall.
  have hlt := hsound.rank_lt_of_completed hdone
  obtain ⟨more, rfl⟩ := h
  have hle := rank_standingAfter_le ha hc hnew id
  rw [standingAfter, standingAfter, run_append] at hle
  intro hagain
  rw [standing_of_completed past hdone] at hlt
  rw [standing_of_completed _ hagain] at hle
  exact absurd (Nat.lt_of_lt_of_le hlt hle) (Nat.lt_irrefl _)

/-- There is at most one point of a run at which a task is finished. -/
theorem eq_of_completed (ha : s.active = []) (hc : s.completed = []) (hnew : (started actions).Nodup)
    (h : past ++ [.complete id] <+: actions) (h' : later ++ [.complete id] <+: actions)
    (hdone : ((s.run past).step (.complete id)).2 = .completed true)
    (hdone' : ((s.run later).step (.complete id)).2 = .completed true) : past = later := by
  have hpast : past <+: actions := (List.prefix_append _ _).trans h
  have hlater : later <+: actions := (List.prefix_append _ _).trans h'
  rcases Nat.lt_trichotomy past.length later.length with hlt | heq | hlt
  · have hearly := List.prefix_of_prefix_length_le h hlater (by rw [List.length_append]; exact hlt)
    exact absurd hdone' (not_completed_again ha hc (nodup_started_of_isPrefix hnew hlater) hearly hdone)
  · exact (List.prefix_of_prefix_length_le hpast hlater (Nat.le_of_eq heq)).eq_of_length heq
  · have hearly := List.prefix_of_prefix_length_le h' hpast (by rw [List.length_append]; exact hlt)
    exact absurd hdone (not_completed_again ha hc (nodup_started_of_isPrefix hnew hpast) hearly hdone')

end Runs

/-- The life of tasks over a run in which no task is started under an identifier that was used before. At every
    point the records have identifiers of their own, and no more finished ones stay than the bound says. Every
    operation takes every task at most one step further, from unknown to running to finished to gone, and never
    back. To finish a task succeeds at most once, and does nothing where it does not succeed. -/
theorem run_lifecycle {bound : Option Int} {settings : Except Failure Settings} {s₀ : Store}
    (hnew : new bound settings = .ok s₀) {actions : List Action} (fresh : (started actions).Nodup) :
    (∀ past, past <+: actions →
      (((s₀.run past).active ++ (s₀.run past).completed).map (·.id)).Nodup ∧
      (s₀.run past).completed.length ≤ s₀.bound) ∧
    (∀ id, standingAfter s₀ [] id = .unknown) ∧
    (∀ past a id, past ++ [a] <+: actions → standingAfter s₀ (past ++ [a]) id = standingAfter s₀ past id ∨
      Passage s₀.bound id a (standingAfter s₀ past id) (standingAfter s₀ (past ++ [a]) id)) ∧
    (∀ past more id, past ++ more <+: actions →
      (standingAfter s₀ past id).rank ≤ (standingAfter s₀ (past ++ more) id).rank) ∧
    (∀ past id, past ++ [.complete id] <+: actions →
      ((s₀.run past).step (.complete id)).2 = .completed true ∨
        (s₀.run past).step (.complete id) = (s₀.run past, .completed false)) ∧
    ∀ past later id, past ++ [.complete id] <+: actions → later ++ [.complete id] <+: actions →
      ((s₀.run past).step (.complete id)).2 = .completed true →
      ((s₀.run later).step (.complete id)).2 = .completed true → past = later := by
  obtain ⟨ha, hc, -⟩ := new_eq_ok hnew
  have sound : ∀ {past}, past <+: actions → Sound past (s₀.run past) := fun h =>
    .run ha hc (nodup_started_of_isPrefix fresh h)
  have hlen : s₀.completed.length ≤ s₀.bound := by
    rw [hc]
    exact Nat.zero_le _
  refine ⟨fun past h => ⟨(sound h).distinct, length_completed_run_le hlen past⟩, fun id => ?_, fun past a id h => ?_,
    fun past more id h => rank_standingAfter_le ha hc (nodup_started_of_isPrefix fresh h) id, fun past id h => ?_, ?_⟩
  · exact standing_eq_unknown (by rw [run, List.foldl_nil, ha]; exact List.not_mem_nil)
      (by rw [run, List.foldl_nil, hc]; exact List.not_mem_nil) List.not_mem_nil
  · have hpass := (sound ((List.prefix_append _ _).trans h)).passes (nodup_started_of_isPrefix fresh h) id
    rwa [run_bound, ← run_append] at hpass
  · exact (step_complete past (s₀.run past) id).imp And.right And.right
  · exact fun past later id h h' => eq_of_completed ha hc fresh h h'

/-- A task that had to make room for another one cannot be finished again. -/
theorem run_lifecycle_evicted :
    let draft : Draft := ⟨.string "/a", .string "c", some (.int 3)⟩
    let actions : List Action := [.create default draft 0, .create ⟨1, by decide⟩ draft 0, .complete default,
      .complete ⟨1, by decide⟩, .complete default]
    new (some 1) (.ok {}) = .ok ⟨1, [], []⟩ ∧ (started actions).Nodup ∧
    standingAfter ⟨1, [], []⟩ (actions.take 3) default = .completed ∧
    standingAfter ⟨1, [], []⟩ (actions.take 4) default = .gone ∧
    (((⟨1, [], []⟩ : Store).run (actions.take 4)).step (.complete default)).2 ≠ .completed true := by
  intro draft actions
  have hnew : new (some 1) (.ok {}) = .ok ⟨1, [], []⟩ := rfl
  have fresh : (started actions).Nodup := by decide
  obtain ⟨-, -, -, -, -, once⟩ := run_lifecycle hnew fresh
  refine ⟨hnew, fresh, by decide, by decide, fun hagain => ?_⟩
  have hfirst : (((⟨1, [], []⟩ : Store).run (actions.take 2)).step (.complete default)).2 = .completed true := by decide
  have hsame := once (actions.take 2) (actions.take 4) default ⟨actions.drop 3, rfl⟩ ⟨[], rfl⟩ hfirst hagain
  exact absurd (congrArg List.length hsame) (by decide)

end Store
end Taskboard
