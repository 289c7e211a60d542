import Mathlib.Data.List.TakeWhile
import Taskboard.Proofs.Store.Operations

/-! A store told by its history. The history of a run is what was asked of its tasks since the store was last
    cleared: each was started, maybe more than once, or was to be finished.

    The history alone, without the store, says which tasks run (`running?`), in which order (`arrival`), which
    records have been finished (`finished`) and what the next operation answers (`answer`). -/

namespace Taskboard
namespace Store

/-! ### What is asked of tasks -/

/-- What an operation asks of a task. -/
inductive Move where
  | start (r : Record)
  | finish (id : Uuid)
deriving DecidableEq

/-- The task that is meant. -/
def Move.id : Move → Uuid
  | .start r => r.id
  | .finish id => id

/-- The record that a move starts a task with. -/
def Move.starts? (id : Uuid) : Move → Option Record
  | .start r => if r.id = id then some r else none
  | .finish _ => none

/-- What an operation asks for. A draft that does not pass starts nothing. -/
def Action.moves : Action → List Move
  | .create id draft now => match draft.record id now with
    | .ok r => [.start r]
    | .error _ => []
  | .complete id => [.finish id]
  | .get _ | .snapshot | .clear => []

def Action.clears : Action → Bool
  | .clear => true
  | _ => false

/-- The operations since the last one that cleared the store. -/
def sinceClear (actions : List Action) : List Action := (actions.reverse.takeWhile fun a => !a.clears).reverse

/-- What was asked since the store was last cleared. -/
def history (actions : List Action) : List Move := (sinceClear actions).flatMap Action.moves

/-! ### What a history says -/

/-- The moves since a task was last to be finished. If it did not run then, it was not started since it was
    last finished, and these moves hold the same starts of it. -/
def stay (h : List Move) (id : Uuid) : List Move := (h.reverse.takeWhile (· ≠ .finish id)).reverse

/-- The record of a task that runs: the one of its last start. -/
def running? (h : List Move) (id : Uuid) : Option Record := ((stay h id).filterMap (Move.starts? id)).getLast?

/-- The place in the history of the first start of a task since it was last to be finished. -/
def arrival (h : List Move) (id : Uuid) : Nat :=
  h.length - (stay h id).length + (stay h id).findIdx (·.id = id)

/-- The records of the tasks that run: each at the place in the history at which its task arrived. -/
def runningAll (h : List Move) : List Record :=
  (List.range h.length).filterMap fun place => h[place]?.bind fun m =>
    if arrival h m.id = place then running? h m.id else none

/-- The record that a move takes off, after the given history. -/
def taken (h : List Move) : Move → Option Record
  | .start _ => none
  | .finish id => running? h id

/-- The records that were finished, in the order in which they were. -/
def finished (h : List Move) : List Record :=
  (List.range h.length).filterMap fun place => h[place]?.bind (taken (h.take place))

/-- What an operation answers after the given history, where `n` finished tasks stay. -/
def answer (n : Nat) (h : List Move) : Action → Answer
  | .create id draft now => match draft.record id now with
    | .ok _ => .created id
    | .error issues => .rejected ⟨.record, issues⟩
  | .complete id => .completed (running? h id).isSome
  | .get id => .found ((running? h id).or ((lastOf n (finished h)).find? (·.id = id)))
  | .snapshot => .captured ⟨runningAll h, lastOf n (finished h)⟩
  | .clear => .cleared

/-! ### One more move -/

section Moves
variable {h : List Move} {r q : Record} {id i : Uuid}

theorem stay_start : stay (h ++ [.start r]) id = stay h id ++ [.start r] := by
  simp [stay]

theorem stay_finish_self : stay (h ++ [.finish id]) id = [] := by
  simp [stay]

theorem stay_finish_of_ne (hne : i ≠ id) : stay (h ++ [.finish i]) id = stay h id ++ [.finish i] := by
  simp [stay, hne]

theorem length_stay_le (h : List Move) (id : Uuid) : (stay h id).length ≤ h.length := by
  rw [stay, List.length_reverse]
  exact (List.takeWhile_sublist _).length_le.trans List.length_reverse.le

/-- In the stay of a task no move finishes it. -/
theorem finish_notMem_stay : Move.finish id ∉ stay h id := by
  intro hm
  rw [stay, List.mem_reverse] at hm
  simpa using List.mem_takeWhile_imp hm

theorem running?_id (hr : running? h id = some r) : r.id = id := by
  obtain ⟨m, -, hm⟩ := List.mem_filterMap.mp (List.mem_of_getLast? hr)
  cases m with
  | start q =>
    simp only [Move.starts?, Option.ite_none_right_eq_some, Option.some.injEq] at hm
    exact hm.2 ▸ hm.1
  | finish i => cases hm

theorem running?_start : running? (h ++ [.start r]) id = if r.id = id then some r else running? h id := by
  rw [running?, stay_start, List.filterMap_append]
  by_cases hid : r.id = id <;> simp [Move.starts?, hid, running?]

theorem running?_finish : running? (h ++ [.finish i]) id = if i = id then none else running? h id := by
  by_cases hid : i = id
  · subst hid
    simp [running?, stay_finish_self]
  · rw [running?, stay_finish_of_ne hid, List.filterMap_append]
    simp [Move.starts?, hid, running?]

/-- A task runs if some move of its stay is about it. -/
theorem running?_isSome_iff : (running? h id).isSome ↔ ∃ m ∈ stay h id, m.id = id := by
  rw [running?, List.getLast?_isSome, Ne, List.filterMap_eq_nil_iff]
  constructor
  · intro hne
    by_contra hno
    refine hne fun m hm => ?_
    cases m with
    | start r => exact if_neg fun hid => hno ⟨.start r, hm, hid⟩
    | finish i => rfl
  · rintro ⟨m, hm, hid⟩ hall
    cases m with
    | start r => simpa [Move.starts?, show r.id = id from hid] using hall _ hm
    | finish i => exact finish_notMem_stay ((show i = id from hid) ▸ hm)

theorem findIdx_stay_lt (hr : (running? h id).isSome) : (stay h id).findIdx (·.id = id) < (stay h id).length :=
  List.findIdx_lt_length.mpr (by simpa using running?_isSome_iff.mp hr)

theorem arrival_lt (hr : (running? h id).isSome) : arrival h id < h.length := by
  have hlt := findIdx_stay_lt hr
  have hle := length_stay_le h id
  unfold arrival
  omega

/-- The move at the arrival of a running task is about it. -/
theorem getElem?_arrival (hr : (running? h id).isSome) : ∃ m, h[arrival h id]? = some m ∧ m.id = id := by
  have hlt := findIdx_stay_lt hr
  have hid : ((stay h id)[(stay h id).findIdx (·.id = id)]).id = id := by
    simpa using List.findIdx_getElem (w := hlt)
  obtain ⟨past, hpast⟩ : ∃ past, h = past ++ stay h id := by
    obtain ⟨t, ht⟩ := List.takeWhile_prefix (l := h.reverse) (· ≠ Move.finish id)
    exact ⟨t.reverse, by rw [stay, ← List.reverse_append, ht, List.reverse_reverse]⟩
  refine ⟨_, ?_, hid⟩
  have hlen := congrArg List.length hpast
  rw [List.length_append] at hlen
  rw [arrival, show h.length - (stay h id).length = past.length by omega]
  conv => lhs; lhs; rw [hpast]
  rw [List.getElem?_append_right (Nat.le_add_right _ _), Nat.add_sub_cancel_left, List.getElem?_eq_getElem hlt]

/-- A move that does not finish a running task leaves its arrival as it is. -/
theorem arrival_append {m : Move} (hr : (running? h id).isSome) (hm : m ≠ .finish id) :
    arrival (h ++ [m]) id = arrival h id := by
  have hstay : stay (h ++ [m]) id = stay h id ++ [m] := by
    cases m with
    | start r => exact stay_start
    | finish i => exact stay_finish_of_ne fun hi => hm (hi ▸ rfl)
  have hlt := findIdx_stay_lt hr
  have hle := length_stay_le h id
  simp only [arrival, hstay, List.length_append, List.length_singleton, List.findIdx_append, if_pos hlt]
  omega

/-- A task that did not run arrives with the move that starts it. -/
theorem arrival_start (hr : running? h r.id = none) : arrival (h ++ [.start r]) r.id = h.length := by
  have hnot : ¬(stay h r.id).findIdx (·.id = r.id) < (stay h r.id).length := by
    rw [List.findIdx_lt_length]
    intro hex
    have : (running? h r.id).isSome := running?_isSome_iff.mpr (by simpa using hex)
    rw [hr] at this
    cases this
  have hle := length_stay_le h r.id
  simp only [arrival, stay_start, List.length_append, List.length_singleton, List.findIdx_append, if_neg hnot]
  simp only [List.findIdx_singleton, Move.id, decide_true, ↓reduceIte]
  omega

theorem finished_append (m : Move) : finished (h ++ [m]) = finished h ++ (taken h m).toList := by
  have hold : ∀ place ∈ List.range h.length, (h ++ [m])[place]?.bind (taken ((h ++ [m]).take place)) =
      h[place]?.bind (taken (h.take place)) := by
    intro place hp
    have hlt := List.mem_range.mp hp
    rw [List.getElem?_append_left hlt, List.take_append_of_le_length hlt.le]
  have hnew : (h ++ [m])[h.length]?.bind (taken ((h ++ [m]).take h.length)) = taken h m := by simp
  rw [finished, List.length_append, List.length_singleton, List.range_succ, List.filterMap_append,
    List.filterMap_congr hold, finished, List.filterMap_cons, hnew]
  cases taken h m <;> rfl

end Moves

/-! ### The list of the tasks that run -/

/-- A list holds the records of the running tasks, each once, in the order in which the tasks arrived. -/
structure Roll (h : List Move) (l : List Record) : Prop where
  mem : ∀ r, r ∈ l ↔ running? h r.id = some r
  order : l.Pairwise fun q r => arrival h q.id < arrival h r.id

namespace Roll
variable {h : List Move} {l : List Record}

theorem distinct (R : Roll h l) : Distinct l :=
  List.pairwise_map.mpr (R.order.imp fun hlt hid => by rw [hid] at hlt; exact Nat.lt_irrefl _ hlt)

theorem isSome (R : Roll h l) {r : Record} (hr : r ∈ l) : (running? h r.id).isSome := by
  rw [(R.mem r).mp hr]
  rfl

/-- Looking for a task in the list is asking the history. -/
theorem find? (R : Roll h l) (id : Uuid) : l.find? (·.id = id) = running? h id := by
  ext r
  rw [find?_eq_some_iff R.distinct]
  constructor
  · rintro ⟨hr, rfl⟩
    exact (R.mem r).mp hr
  · intro hr
    have hid := running?_id hr
    exact ⟨(R.mem r).mpr (hid ▸ hr), hid⟩

theorem nil : Roll [] [] := ⟨fun r => by simp [running?, stay], .nil⟩

theorem start (R : Roll h l) (r : Record) : Roll (h ++ [.start r]) (put r l) where
  mem q := by
    rw [mem_put R.distinct, running?_start, R.mem q]
    by_cases hid : r.id = q.id
    · simp [hid, eq_comm]
    · simp [hid, Ne.symm hid, show q ≠ r from fun hq => hid (hq ▸ rfl)]
  order := by
    have kept : ∀ q ∈ l, arrival (h ++ [.start r]) q.id = arrival h q.id := fun q hq =>
      arrival_append (R.isSome hq) (by simp)
    have hold : l.Pairwise fun q r' => arrival (h ++ [.start r]) q.id < arrival (h ++ [.start r]) r'.id :=
      R.order.imp_of_mem fun ha hb hlt => by rwa [kept _ ha, kept _ hb]
    by_cases hmem : r.id ∈ l.map (·.id)
    · -- The order is one of identifiers, and these stay where they were.
      have hids : (l.map (·.id)).Pairwise fun i j => arrival (h ++ [.start r]) i < arrival (h ++ [.start r]) j :=
        List.pairwise_map.mpr hold
      rw [← map_id_put_of_mem hmem] at hids
      simpa only [List.pairwise_map] using hids
    · have fresh : ∀ q ∈ l, q.id ≠ r.id := fun q hq hid => hmem (List.mem_map.mpr ⟨q, hq, hid⟩)
      rw [put_of_fresh fresh]
      refine List.pairwise_append.mpr ⟨hold, List.pairwise_singleton _ _, ?_⟩
      rintro q hq x hx
      obtain rfl := List.mem_singleton.mp hx
      have hnone : running? h x.id = none := by
        rw [← R.find?]
        simpa using fresh
      rw [kept q hq, arrival_start hnone]
      exact arrival_lt (R.isSome hq)

theorem finish (R : Roll h l) (id : Uuid) : Roll (h ++ [.finish id]) (l.filter (·.id ≠ id)) where
  mem q := by
    rw [List.mem_filter, R.mem q, running?_finish]
    by_cases hid : id = q.id
    · simp [hid]
    · simp [hid, Ne.symm hid]
  order := by
    refine (R.order.filter _).imp_of_mem fun ha hb hlt => ?_
    have kept : ∀ q ∈ l.filter (·.id ≠ id), arrival (h ++ [.finish id]) q.id = arrival h q.id := fun q hq => by
      obtain ⟨hql, hne⟩ := List.mem_filter.mp hq
      exact arrival_append (R.isSome hql) (by simpa using Ne.symm (of_decide_eq_true hne))
    rwa [kept _ ha, kept _ hb]

/-- There is only one such list. -/
theorem unique {m : List Record} (R : Roll h l) (S : Roll h m) : l = m := by
  have nodup : ∀ {k : List Record}, Roll h k → k.Nodup := fun K => List.Nodup.of_map _ K.distinct
  have perm : l.Perm m := (List.perm_ext_iff_of_nodup (nodup R) (nodup S)).mpr fun r => (R.mem r).trans (S.mem r).symm
  refine perm.eq_of_pairwise ?_ R.order S.order
  intro a b _ _ hab hba
  exact absurd hab (Nat.lt_asymm hba)

theorem of_history (h : List Move) : Roll h (runningAll h) where
  mem r := by
    simp only [runningAll, List.mem_filterMap, List.mem_range, Option.bind_eq_some_iff, Option.ite_none_right_eq_some]
    constructor
    · rintro ⟨place, -, m, -, -, hr⟩
      rwa [running?_id hr]
    · intro hr
      have hsome : (running? h r.id).isSome := by rw [hr]; rfl
      obtain ⟨m, hm, hid⟩ := getElem?_arrival hsome
      exact ⟨arrival h r.id, arrival_lt hsome, m, hm, by rw [hid], by rw [hid, hr]⟩
  order := by
    have at_place : ∀ place r, (h[place]?.bind fun m => if arrival h m.id = place then running? h m.id else none) = some r →
        arrival h r.id = place := by
      intro place r hr
      obtain ⟨m, -, hm⟩ := Option.bind_eq_some_iff.mp hr
      obtain ⟨hplace, hrun⟩ := Option.ite_none_right_eq_some.mp hm
      rw [running?_id hrun, hplace]
    refine List.pairwise_filterMap.mpr (List.pairwise_lt_range.imp fun hlt q hq r hr => ?_)
    rwa [at_place _ q hq, at_place _ r hr]

end Roll

/-! ### Runs -/

theorem history_append (actions : List Action) (a : Action) :
    history (actions ++ [a]) = if a.clears then [] else history actions ++ a.moves := by
  cases hc : a.clears <;> simp [history, sinceClear, hc]

/-- The lists of a store are those that a history tells. -/
structure Follows (h : List Move) (s : Store) : Prop where
  roll : Roll h s.active
  completed : s.completed = lastOf s.bound (finished h)

namespace Follows
variable {h : List Move} {s : Store}

theorem empty (ha : s.active = []) (hc : s.completed = []) : Follows [] s :=
  ⟨ha ▸ Roll.nil, by rw [hc]; exact List.drop_nil.symm⟩

theorem start (F : Follows h s) (r : Record) : Follows (h ++ [.start r]) (s.start r) :=
  ⟨F.roll.start r, by rw [finished_append, taken, Option.toList_none, List.append_nil]; exact F.completed⟩

theorem complete (F : Follows h s) (id : Uuid) : Follows (h ++ [.finish id]) (s.complete id).1 := by
  have hroll := F.roll.finish id
  have hfind := F.roll.find? id
  have hfin : finished (h ++ [.finish id]) = finished h ++ (running? h id).toList := finished_append _
  cases hr : running? h id with
  | none =>
    rw [hr] at hfind hfin
    -- Nothing runs under the identifier, so the filter keeps every record.
    have hall : s.active.filter (·.id ≠ id) = s.active := by
      rw [List.find?_eq_none] at hfind
      exact List.filter_eq_self.mpr fun q hq => by simpa using hfind q hq
    rw [complete_of_none hfind]
    exact ⟨hall ▸ hroll, by rw [hfin, Option.toList_none, List.append_nil]; exact F.completed⟩
  | some r =>
    rw [hr] at hfind hfin
    rw [complete_of_some hfind]
    refine ⟨hroll, ?_⟩
    simp only [hfin, F.completed, lastOf_lastOf_append, Option.toList_some]

theorem step {actions : List Action} (F : Follows (history actions) s) (a : Action) :
    Follows (history (actions ++ [a])) (s.step a).1 := by
  rw [history_append]
  cases a with
  | create id draft now =>
    simp only [Store.step, Action.clears, Action.moves]
    cases draft.record id now with
    | ok r => exact F.start r
    | error issues => simpa using F
  | complete id => exact F.complete id
  | get id => simpa [Store.step, Action.clears, Action.moves] using F
  | snapshot => simpa [Store.step, Action.clears, Action.moves] using F
  | clear => exact empty rfl rfl

theorem run (ha : s.active = []) (hc : s.completed = []) (actions : List Action) :
    Follows (history actions) (s.run actions) := by
  induction actions using List.reverseRecOn with
  | nil => exact empty ha hc
  | append_singleton actions a ih =>
    rw [run_append]
    exact ih.step a

/-- What an operation answers is told by the history. -/
theorem answer (F : Follows h s) (a : Action) : (s.step a).2 = answer s.bound h a := by
  cases a with
  | create id draft now =>
    simp only [Store.step, Store.answer]
    cases draft.record id now <;> rfl
  | complete id =>
    simp only [Store.step, Store.answer]
    cases hr : running? h id with
    | none => rw [complete_of_none (by rw [F.roll.find?, hr])]; rfl
    | some r => rw [complete_of_some (by rw [F.roll.find?, hr])]; rfl
  | get id => simp only [Store.step, Store.answer, get?, F.roll.find?, F.completed]
  | snapshot => simp only [Store.step, Store.answer, snapshot, F.completed, F.roll.unique (Roll.of_history h)]
  | clear => rfl

end Follows

/-- An operation that starts and finishes nothing and does not clear the store leaves it as it is. -/
theorem step_eq_self {s : Store} {a : Action} (hcreated : ∀ id, (s.step a).2 ≠ .created id)
    (hcompleted : (s.step a).2 ≠ .completed true) (hcleared : (s.step a).2 ≠ .cleared) : (s.step a).1 = s := by
  cases a with
  | create id draft now =>
    simp only [step] at hcreated ⊢
    cases hd : draft.record id now with
    | ok r => exact absurd (by rw [hd]) (hcreated id)
    | error issues => rfl
  | complete id =>
    simp only [step] at hcompleted ⊢
    cases hf : s.active.find? (·.id = id) with
    | none => rw [complete_of_none hf]
    | some r => exact absurd (by rw [complete_of_some hf]) hcompleted
  | get id => rfl
  | snapshot => rfl
  | clear => exact absurd rfl hcleared

/-- The lists and answers of a store after any run are told by the history since it was last cleared. The
    running tasks are those that were started and not finished since, each once, with the record of its last
    start, in the order of arrival; the finished ones are the last of the records taken off. -/
theorem run_eq_history {bound : Option Int} {settings : Except Failure Settings} {s₀ : Store}
    (hnew : new bound settings = .ok s₀) (actions : List Action) :
    let h := history actions
    let s := s₀.run actions
    (s.bound = s₀.bound ∧ ∀ n, bound = some n → (s₀.bound : Int) = n) ∧
    s.active = runningAll h ∧
    (s.active.map (·.id)).Nodup ∧
    (∀ r, r ∈ s.active ↔ running? h r.id = some r) ∧
    s.active.Pairwise (fun q r => arrival h q.id < arrival h r.id) ∧
    s.completed = lastOf s₀.bound (finished h) ∧
    (∀ a, (s.step a).2 = answer s₀.bound h a) ∧
    ∀ a, (∀ id, (s.step a).2 ≠ .created id) → (s.step a).2 ≠ .completed true → (s.step a).2 ≠ .cleared →
      (s.step a).1 = s := by
  intro h s
  obtain ⟨ha, hc, hbound⟩ := new_eq_ok hnew
  have F : Follows h s := .run ha hc actions
  have hb : s.bound = s₀.bound := run_bound s₀ actions
  exact ⟨⟨hb, hbound⟩, F.roll.unique (.of_history h), F.roll.distinct, F.roll.mem, F.roll.order, hb ▸ F.completed,
    fun a => hb ▸ F.answer a, fun _ => step_eq_self⟩

/-- A task that was finished and is started again has the new record. -/
theorem run_of_restart :
    new (some 1) (.ok {}) = .ok ⟨1, [], []⟩ ∧
    ((⟨1, [], []⟩ : Store).run
      [.create default ⟨.string "/a", .string "c", none⟩ 5000000, .complete default,
       .create default ⟨.string "/b", .string "c", none⟩ 7000000]).active = [⟨default, "/b", "c", 7⟩] :=
  ⟨rfl, (run_eq_history (show new (some 1) (.ok {}) = .ok ⟨1, [], []⟩ from rfl) _).2.1.trans (by decide)⟩

end Store
end Taskboard
