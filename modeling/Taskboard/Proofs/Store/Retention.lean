import Taskboard.Proofs.Store.History
import Taskboard.Proofs.Store.Lifecycle

/-! How long a store keeps a task. A task that runs is kept; one that was finished is kept until as many others have
    been finished after it as the bound says; and nothing is kept over a clear. So what a store has under an
    identifier at the end of a run is told by the tasks that the run finished (`run_retention`). -/

namespace Taskboard
namespace Store

/-- The task that an operation finishes. -/
def finishes? (s : Store) : Action → Option Uuid
  | .complete id => if (s.step (.complete id)).2 = .completed true then some id else none
  | .create .. | .get _ | .snapshot | .clear => none

/-- The tasks that a run finishes, in the order in which it does. -/
def finishes (s : Store) : List Action → List Uuid
  | [] => []
  | a :: actions => (s.finishes? a).toList ++ finishes (s.step a).1 actions

theorem finishes_append (s : Store) (actions : List Action) (a : Action) :
    s.finishes (actions ++ [a]) = s.finishes actions ++ ((s.run actions).finishes? a).toList := by
  induction actions generalizing s with
  | nil => simp [finishes, run]
  | cons b actions ih =>
    simp only [List.cons_append, finishes, ih, List.append_assoc]
    rfl

section Finishes
variable {s : Store} {id : Uuid}

theorem finishes?_of_none (h : s.active.find? (·.id = id) = none) : s.finishes? (.complete id) = none := by
  simp [finishes?, step, complete_of_none h]

theorem finishes?_of_some {r : Record} (h : s.active.find? (·.id = id) = some r) :
    s.finishes? (.complete id) = some id := by
  simp [finishes?, step, complete_of_some h]

theorem mem_active_of_finishes? {a : Action} (h : s.finishes? a = some id) : id ∈ s.active.map (·.id) := by
  cases a with
  | complete i =>
    cases hf : s.active.find? (·.id = i) with
    | none =>
      rw [finishes?_of_none hf] at h
      cases h
    | some r =>
      rw [finishes?_of_some hf] at h
      cases h
      exact List.mem_map.mpr ⟨r, List.mem_of_find?_eq_some hf, by simpa using List.find?_some hf⟩
  | _ => cases h

/-- Only tasks that were started are finished. -/
theorem mem_started_of_mem_finishes {past : List Action} (ha : s.active = []) (hc : s.completed = [])
    (hnew : (started past).Nodup) (h : id ∈ s.finishes past) : id ∈ started past := by
  induction past using List.reverseRecOn with
  | nil => cases h
  | append_singleton past a ih =>
    rw [started_append] at hnew ⊢
    have hpast : (started past).Nodup := List.Nodup.of_append_left hnew
    rw [finishes_append, List.mem_append, Option.mem_toList] at h
    refine List.mem_append_left _ ?_
    rcases h with h | h
    · exact ih hpast h
    · exact (Sound.run ha hc hpast).mem_started (Or.inl (mem_active_of_finishes? h))

end Finishes

/-! ### What is there under an identifier -/

section Get
variable {s : Store} {id : Uuid} {r : Record}

theorem get?_eq_find? (s : Store) (id : Uuid) : s.get? id = (s.active ++ s.completed).find? (·.id = id) := by
  rw [get?, List.find?_append]

theorem get?_eq_none_iff : s.get? id = none ↔ ∀ r ∈ s.active ++ s.completed, r.id ≠ id := by
  rw [get?_eq_find?, List.find?_eq_none]
  simp

theorem Sound.get?_eq_some {past : List Action} (S : Sound past s) (h : r ∈ s.active ++ s.completed) :
    s.get? r.id = some r := by
  rw [get?_eq_find?, find?_eq_some_iff S.distinct]
  exact ⟨h, rfl⟩

theorem get?_of_gone (past : List Action) (h : standing past s id = .gone) : s.get? id = none := by
  unfold standing at h
  split at h
  · cases h
  · split at h
    · cases h
    · next ha hc =>
      rw [get?_eq_none_iff]
      intro r hr hid
      rcases List.mem_append.mp hr with hr | hr
      · exact ha (List.mem_map.mpr ⟨r, hr, hid⟩)
      · exact hc (List.mem_map.mpr ⟨r, hr, hid⟩)

end Get

/-! ### Tasks over a run without a clear -/

/-- What a store has of a task whose start no clear has followed, where `done` are the tasks finished so far: the
    task runs, or it was finished and `back` are the records of those that were finished after it. -/
inductive Tracked (s : Store) (r : Record) (done : List Uuid) : Prop
  | running (hdone : r.id ∉ done) (hr : r ∈ s.active)
  | finished (earlier : List Uuid) (front back : List Record) (hdone : done = earlier ++ r.id :: back.map (·.id))
      (hearlier : r.id ∉ earlier) (hback : r.id ∉ back.map (·.id)) (hactive : r.id ∉ s.active.map (·.id))
      (hcompleted : s.completed = lastOf s.bound (front ++ r :: back))

/-- The tasks that were finished leave room for that of an identifier, where `n` finished tasks stay: it is not
    among them, or fewer than `n` come after it. -/
def LeavesRoom (n : Nat) (done : List Uuid) (id : Uuid) : Prop :=
  id ∉ done ∨ ∃ earlier later, done = earlier ++ id :: later ∧ later.length < n

namespace Tracked
variable {past : List Action} {s : Store} {r q : Record} {done : List Uuid} {a : Action}

theorem start (T : Tracked s r done) (hactive : Distinct s.active) (hfresh : ∀ x ∈ s.active, x.id ≠ q.id)
    (hne : r.id ≠ q.id) : Tracked (s.start q) r done := by
  cases T with
  | running hdone hr => exact .running hdone ((mem_put hactive).mpr (.inr ⟨hr, hne⟩))
  | finished earlier front back hdone hearlier hback hnot hcompleted =>
    refine .finished earlier front back hdone hearlier hback ?_ hcompleted
    rw [Store.start, put_of_fresh hfresh, List.map_append, List.mem_append, not_or]
    exact ⟨hnot, by simpa using hne⟩

/-- Another task, or the task itself, is finished. -/
theorem finish (T : Tracked s r done) (hactive : Distinct s.active) (hq : q ∈ s.active) :
    Tracked ⟨s.bound, s.active.filter (·.id ≠ q.id), lastOf s.bound (s.completed ++ [q])⟩ r (done ++ [q.id]) := by
  cases T with
  | running hdone hr =>
    by_cases hid : r.id = q.id
    · obtain rfl := hactive.eq_of_id hr hq hid
      refine .finished done s.completed [] rfl hdone List.not_mem_nil ?_ rfl
      simp
    · refine .running ?_ (List.mem_filter.mpr ⟨hr, by simpa using hid⟩)
      rw [List.mem_append, not_or, List.mem_singleton]
      exact ⟨hdone, hid⟩
  | finished earlier front back hdone hearlier hback hnot hcompleted =>
    have hid : r.id ≠ q.id := fun hid => hnot (hid ▸ List.mem_map_of_mem hq)
    refine .finished earlier front (back ++ [q]) ?_ hearlier ?_ ?_ ?_
    · simp [hdone]
    · rw [List.map_append, List.mem_append, not_or]
      exact ⟨hback, by simpa using hid⟩
    · exact fun h => hnot (List.map_subset _ (List.filter_subset_self _) h)
    · show lastOf s.bound (s.completed ++ [q]) = lastOf s.bound (front ++ r :: (back ++ [q]))
      rw [hcompleted, lastOf_lastOf_append, List.append_assoc, List.cons_append]

theorem step (T : Tracked s r done) (S : Sound past s) (hr : r.id ∈ started past)
    (hnew : (started (past ++ [a])).Nodup) (hclear : a.clears = false) :
    Tracked (s.step a).1 r (done ++ (s.finishes? a).toList) := by
  have hactive : Distinct s.active := S.distinct.sublist ((List.sublist_append_left _ _).map _)
  cases a with
  | create i draft now =>
    simp only [Store.step, finishes?, Option.toList_none, List.append_nil]
    cases hd : draft.record i now with
    | error issues => exact T
    | ok q =>
      obtain rfl := Draft.record_id hd
      have hunused := notMem_started_of_create hd hnew
      exact T.start hactive (fun x hx => S.fresh hunused x (List.mem_append_left _ hx)) fun hid => hunused (hid ▸ hr)
  | complete i =>
    simp only [Store.step]
    cases hf : s.active.find? (·.id = i) with
    | none =>
      rw [complete_of_none hf, finishes?_of_none hf, Option.toList_none, List.append_nil]
      exact T
    | some q =>
      obtain ⟨hq, rfl⟩ := (find?_eq_some_iff hactive).mp hf
      rw [complete_of_some hf, finishes?_of_some hf]
      exact T.finish hactive hq
  | get i => simpa [Store.step, finishes?] using T
  | snapshot => simpa [Store.step, finishes?] using T
  | clear => cases hclear

/-- A task is there as long as the tasks that were finished leave room for it. -/
theorem get? (T : Tracked s r done) (S : Sound past s) :
    (LeavesRoom s.bound done r.id → s.get? r.id = some r) ∧ (¬LeavesRoom s.bound done r.id → s.get? r.id = none) := by
  cases T with
  | running hdone hr => exact ⟨fun _ => S.get?_eq_some (List.mem_append_left _ hr), fun h => absurd (.inl hdone) h⟩
  | finished earlier front back hdone hearlier hback hactive hcompleted =>
    constructor
    · rintro (h | ⟨earlier', later, hdone', hlen⟩)
      · exact absurd (by simp [hdone]) h
      · -- The task was finished only once, so it is the same place in the list.
        rw [hdone, List.append_cons_inj_of_notMem hearlier hback] at hdone'
        obtain ⟨-, -, rfl⟩ := hdone'
        refine S.get?_eq_some (List.mem_append_right _ ?_)
        rw [List.length_map] at hlen
        rw [hcompleted]
        exact mem_lastOf_append_cons hlen front r
    · intro hroom
      have hlen : s.bound ≤ back.length := by
        by_contra hlt
        exact hroom (.inr ⟨earlier, back.map (·.id), hdone, by rw [List.length_map]; omega⟩)
      have hcut : s.completed = lastOf s.bound back := by
        rw [hcompleted, ← List.singleton_append, ← List.append_assoc, lastOf_append_of_le_length hlen]
      rw [get?_eq_none_iff]
      intro q hq hid
      rcases List.mem_append.mp hq with hq | hq
      · exact hactive (List.mem_map.mpr ⟨q, hq, hid⟩)
      · rw [hcut] at hq
        exact hback (List.mem_map.mpr ⟨q, List.mem_of_mem_drop hq, hid⟩)

end Tracked

/-! ### Runs -/

section Runs
variable {s : Store} {past later : List Action} {draft : Draft} {now : Int} {r : Record}

theorem Draft.record_eq_ok {d : Draft} {id : Uuid} (h : d.record id now = .ok r) :
    r.id = id ∧ d.requestUrl = .string r.requestUrl ∧ d.clientIdentity = .string r.clientIdentity ∧
      d.startMs.elim (r.startMs = millis now) fun v => v.asInt = .ok r.startMs := by
  have asString {v : Json.Value} {t : String} (hv : v.asString = .ok t) : v = .string t := by
    cases v <;> cases hv
    rfl
  obtain ⟨⟨i, url, client, start⟩, hboth, rfl⟩ := Checked.map_eq_ok_iff.mp h
  simp only [Checked.both_eq_ok_iff, Checked.under_eq_ok_iff] at hboth
  obtain ⟨hid, hurl, hclient, hstart⟩ := hboth
  refine ⟨(Except.ok.inj hid).symm, asString hurl, asString hclient, ?_⟩
  cases hms : d.startMs with
  | none =>
    rw [hms] at hstart
    exact (Except.ok.inj hstart).symm
  | some v =>
    rw [hms] at hstart
    exact Checked.under_eq_ok_iff.mp hstart

theorem mem_started_create (hd : draft.record r.id now = .ok r) :
    r.id ∈ started (past ++ .create r.id draft now :: later) := by
  rw [started, List.filterMap_append, List.filterMap_cons_some (b := r.id) (by simp only [Action.started?, hd])]
  simp

/-- A task is tracked from its start to the next clear. -/
theorem Tracked.run (ha : s.active = []) (hc : s.completed = []) (hd : draft.record r.id now = .ok r)
    (hnew : (started (past ++ .create r.id draft now :: later)).Nodup) (hclear : ∀ a ∈ later, a.clears = false) :
    Tracked (s.run (past ++ .create r.id draft now :: later)) r
      (s.finishes (past ++ .create r.id draft now :: later)) := by
  induction later using List.reverseRecOn with
  | nil =>
    have hunused := notMem_started_of_create hd hnew
    rw [started_create hd] at hnew
    have hpast : (started past).Nodup := List.Nodup.of_append_left hnew
    have hactive : Distinct (s.run past).active :=
      (Sound.run ha hc hpast).distinct.sublist ((List.sublist_append_left _ _).map _)
    rw [run_append, finishes_append]
    refine .running ?_ ?_
    · simpa [finishes?] using fun h => hunused (mem_started_of_mem_finishes ha hc hpast h)
    · simp only [Store.step, hd]
      exact (mem_put hactive).mpr (.inl rfl)
  | append_singleton later a ih =>
    have hassoc : past ++ Action.create r.id draft now :: (later ++ [a]) =
        (past ++ Action.create r.id draft now :: later) ++ [a] := by simp
    rw [hassoc] at hnew ⊢
    have hbefore := nodup_started_of_isPrefix hnew (List.prefix_append _ _)
    rw [run_append, finishes_append]
    refine (ih hbefore fun b hb => hclear b (List.mem_append_left _ hb)).step (.run ha hc hbefore)
      (mem_started_create hd) hnew (hclear a ?_)
    simp

/-- A clear is for good. -/
theorem get?_run_of_clear {id : Uuid} (ha : s.active = []) (hc : s.completed = [])
    (hnew : (started (past ++ later)).Nodup) (hid : id ∈ started past) (hclear : .clear ∈ later) :
    (s.run (past ++ later)).get? id = none := by
  obtain ⟨before, after, rfl⟩ := List.append_of_mem hclear
  have hsplit : past ++ (before ++ Action.clear :: after) = (past ++ before ++ [.clear]) ++ after := by simp
  rw [hsplit] at hnew ⊢
  have hgone : standingAfter s (past ++ before ++ [.clear]) id = .gone := by
    rw [standingAfter, run_append]
    refine standing_eq_gone List.not_mem_nil List.not_mem_nil ?_
    simp only [started, List.filterMap_append, List.mem_append] at hid ⊢
    exact .inl (.inl hid)
  have hle := rank_standingAfter_le ha hc hnew id
  rw [hgone] at hle
  refine get?_of_gone (past ++ before ++ [.clear] ++ after) ?_
  rw [standingAfter] at hle
  cases hstanding : standing (past ++ before ++ [.clear] ++ after) (s.run (past ++ before ++ [.clear] ++ after)) id with
  | gone => rfl
  | _ =>
    rw [hstanding] at hle
    exact absurd hle (by decide)

end Runs

/-- How long a store keeps a task, over a run in which no task is started under an identifier that was used before. A
    task that was started is there with what was said of it at its start, if no clear followed and the tasks that were
    finished leave room for it: it is not among them, or fewer come after it than the bound says. Otherwise, and under
    any other identifier, nothing is there. After any run at all, nothing is there under an identifier exactly if no
    record of the snapshot has it. -/
theorem run_retention {bound : Option Int} {settings : Except Failure Settings} {s₀ : Store}
    (hnew : new bound settings = .ok s₀) (actions : List Action) :
    let s := s₀.run actions
    ((started actions).Nodup →
      ∀ past id draft now later r, actions = past ++ .create id draft now :: later → draft.record id now = .ok r →
        (r.id = id ∧ draft.requestUrl = .string r.requestUrl ∧ draft.clientIdentity = .string r.clientIdentity ∧
          draft.startMs.elim (r.startMs = now / 1000000) fun v => v.asInt = .ok r.startMs) ∧
        ((∀ a ∈ later, a.clears = false) ∧ LeavesRoom s₀.bound (s₀.finishes actions) id → s.get? id = some r) ∧
        (¬((∀ a ∈ later, a.clears = false) ∧ LeavesRoom s₀.bound (s₀.finishes actions) id) → s.get? id = none)) ∧
    ((started actions).Nodup → ∀ id, id ∉ started actions → s.get? id = none) ∧
    ∀ id, s.get? id = none ↔ ∀ r ∈ s.snapshot.active ++ s.snapshot.completed, r.id ≠ id := by
  intro s
  obtain ⟨ha, hc, -⟩ := new_eq_ok hnew
  refine ⟨fun fresh past id draft now later r hactions hd => ?_,
    fun fresh id hid => get?_eq_none_iff.mpr ((Sound.run ha hc fresh).fresh hid), fun id => get?_eq_none_iff⟩
  obtain ⟨rfl, hfields⟩ := Draft.record_eq_ok hd
  subst hactions
  refine ⟨⟨rfl, hfields⟩, ?_⟩
  by_cases hclear : ∀ a ∈ later, a.clears = false
  · obtain ⟨hkept, hgone⟩ := (Tracked.run ha hc hd fresh hclear).get? (.run ha hc fresh)
    rw [run_bound] at hkept hgone
    exact ⟨fun h => hkept h.2, fun h => hgone fun hroom => h ⟨hclear, hroom⟩⟩
  · have hmem : Action.clear ∈ later := by
      obtain ⟨a, hmem, hclears⟩ : ∃ a ∈ later, a.clears ≠ false := by simpa using hclear
      cases a with
      | clear => exact hmem
      | _ => exact absurd rfl hclears
    refine ⟨fun h => absurd h.1 hclear, fun _ => ?_⟩
    have hsplit : past ++ Action.create r.id draft now :: later = (past ++ [.create r.id draft now]) ++ later := by simp
    show (s₀.run _).get? r.id = none
    rw [hsplit] at fresh ⊢
    exact get?_run_of_clear ha hc fresh (mem_started_create hd) hmem

/-- Where one finished task stays, the second one to be finished takes the place of the first. -/
theorem run_retention_evicted :
    let draft : Draft := ⟨.string "/a", .string "c", some (.int 3)⟩
    let id : Uuid := ⟨1, by decide⟩
    let actions : List Action := [.create default draft 0, .create id draft 5000000, .complete default, .complete id]
    let s := (⟨1, [], []⟩ : Store).run actions
    new (some 1) (.ok {}) = .ok ⟨1, [], []⟩ ∧ (started actions).Nodup ∧
    (⟨1, [], []⟩ : Store).finishes actions = [default, id] ∧
    s.get? default = none ∧ s.get? id = some ⟨id, "/a", "c", 3⟩ := by
  intro draft id actions s
  have hnew : new (some 1) (.ok {}) = .ok ⟨1, [], []⟩ := rfl
  have fresh : (started actions).Nodup := by decide
  have hdone : (⟨1, [], []⟩ : Store).finishes actions = [default, id] := by decide
  have hkeeps := (run_retention hnew actions).1 fresh
  obtain ⟨-, -, hgone⟩ := hkeeps [] default draft 0 (actions.drop 1) _ rfl rfl
  obtain ⟨-, hkept, -⟩ := hkeeps (actions.take 1) id draft 5000000 (actions.drop 2) _ rfl rfl
  refine ⟨hnew, fresh, hdone, hgone ?_, hkept ⟨by decide, ?_⟩⟩
  · rintro ⟨-, h | ⟨earlier, later, h, hlen⟩⟩
    · exact h (by decide)
    · rw [hdone] at h
      have hfirst : default ∉ ([] : List Uuid) := List.not_mem_nil
      obtain ⟨-, -, rfl⟩ := (List.append_cons_inj_of_notMem hfirst (by decide)).mp h
      exact absurd hlen (by decide)
  · exact .inr ⟨[default], [], hdone, by decide⟩

end Store
end Taskboard
