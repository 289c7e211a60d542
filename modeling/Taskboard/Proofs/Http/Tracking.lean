import Taskboard.Http.Service
import Taskboard.Proofs.Store.Operations

/-! What requests leave in the store. A request that is tracked does what two operations do: it starts its task
    and finishes it, however it is answered. So it adds one finished task, and the tasks that run after any
    run of requests and operations are those that the operations alone would leave. -/

namespace Taskboard
namespace Http
open Store

/-- What happens to a store while the service runs. -/
inductive Deed where
  /-- An operation on the store itself. -/
  | operate (a : Action)
  | request (settings : Settings) (visit : Visit) (r : Request)

namespace Deed

/-- The store afterwards. -/
def apply (s : Store) : Deed → Store
  | operate a => (s.step a).1
  | request settings visit r => (handle settings visit r s).store

/-- The operation that was performed on the store itself. -/
def operation? : Deed → Option Action
  | operate a => some a
  | request .. => none

/-- The operations that a deed comes to: a request that is tracked starts its task and finishes it. -/
def operations : Deed → List Action
  | operate a => [a]
  | request _ visit r =>
    if Route.untracked r.url.path then []
    else
      [.create visit.id ⟨.string r.target, .string (r.client.getD "unknown"), none⟩ visit.now, .complete visit.id]

/-- A request comes under an identifier under which no task runs. -/
def Fresh (s : Store) : Deed → Prop
  | operate _ => True
  | request _ visit _ => ∀ q ∈ s.active, q.id ≠ visit.id

end Deed

/-- The store after a run of deeds. -/
def attend (s : Store) (deeds : List Deed) : Store := deeds.foldl Deed.apply s

/-- Each request of a run comes under an identifier under which no task runs at that time. -/
def AllFresh : Store → List Deed → Prop
  | _, [] => True
  | s, d :: deeds => d.Fresh s ∧ AllFresh (d.apply s) deeds

/-! ### One request -/

theorem untracked_iff {path : List Char} :
    Route.untracked path = true ↔ String.ofList path ∈ ["/health", "/docs", "/redoc", "/openapi.json"] := by
  have same (s : String) : path = s.toList ↔ String.ofList path = s := by
    rw [← String.toList_inj, String.toList_ofList]
  simp [Route.untracked, Route.path, same]

@[simp] theorem conclude_store (r : Request) (s : Store) (events : List Event) (x : Except Fault Response) :
    (conclude r s events x).store = s := by
  cases x <;> rfl

/-- The store after a request does not depend on how the request is answered. -/
theorem handle_store_eq (settings : Settings) (visit : Visit) (r : Request) (s : Store) :
    (handle settings visit r s).store =
      if Route.untracked r.url.path then s else ((s.start (r.task visit)).complete visit.id).1 := by
  unfold handle
  split <;> simp only [conclude_store]

/-- A task that is finished at once is among the finished ones, and no other record of its identifier runs on. -/
theorem complete_start (s : Store) (r : Record) : ((s.start r).complete r.id).1 =
    ⟨s.bound, s.active.filter (·.id ≠ r.id), lastOf s.bound (s.completed ++ [r])⟩ := by
  rw [complete_of_some find?_put]
  simp only [start, filter_put]

/-- A new task that is finished at once is added to the finished ones, and nothing else changes. -/
theorem complete_start_of_fresh {s : Store} {r : Record} (fresh : ∀ q ∈ s.active, q.id ≠ r.id) :
    ((s.start r).complete r.id).1 = ⟨s.bound, s.active, lastOf s.bound (s.completed ++ [r])⟩ := by
  rw [complete_start, List.filter_eq_self.mpr fun q hq => decide_eq_true (fresh q hq)]

theorem handle_store {s : Store} (settings : Settings) {visit : Visit} (r : Request)
    (fresh : ∀ q ∈ s.active, q.id ≠ visit.id) :
    (handle settings visit r s).store =
      if Route.untracked r.url.path then s
      else ⟨s.bound, s.active, lastOf s.bound (s.completed ++ [r.task visit])⟩ := by
  rw [handle_store_eq]
  split
  · rfl
  · exact complete_start_of_fresh (r := r.task visit) fresh

/-! ### Runs -/

theorem apply_eq_run (s : Store) (d : Deed) : d.apply s = s.run d.operations := by
  cases d with
  | operate a => rfl
  | request settings visit r =>
    rw [Deed.apply, handle_store_eq, Deed.operations]
    split <;> rfl

theorem attend_eq_run (s : Store) (deeds : List Deed) : attend s deeds = s.run (deeds.flatMap Deed.operations) := by
  induction deeds generalizing s with
  | nil => rfl
  | cons d deeds ih =>
    have hd : attend s (d :: deeds) = attend (d.apply s) deeds := rfl
    rw [hd, ih, apply_eq_run, List.flatMap_cons, run, run, run, List.foldl_append]

/-- Which tasks run after an operation depends only on which did before. -/
theorem step_active {s t : Store} (h : s.active = t.active) (a : Action) :
    (s.step a).1.active = (t.step a).1.active := by
  cases a with
  | create id draft now =>
    simp only [step]
    cases draft.record id now with
    | ok r => simp only [start, h]
    | error issues => exact h
  | complete id =>
    simp only [step]
    cases hf : t.active.find? (·.id = id) with
    | none => rw [complete_of_none hf, complete_of_none (h ▸ hf)]; exact h
    | some r => rw [complete_of_some hf, complete_of_some (h ▸ hf)]; simp only [h]
  | get id => exact h
  | snapshot => exact h
  | clear => rfl

/-- Requests do not count for the tasks that run. -/
theorem attend_active {s t : Store} {deeds : List Deed} (h : s.active = t.active) (fresh : AllFresh s deeds) :
    (attend s deeds).active = (t.run (deeds.filterMap Deed.operation?)).active := by
  induction deeds generalizing s t with
  | nil => exact h
  | cons d deeds ih =>
    obtain ⟨hd, hdeeds⟩ := fresh
    cases d with
    | operate a => exact ih (step_active h a) hdeeds
    | request settings visit r =>
      refine ih (s := (Deed.request settings visit r).apply s) ?_ hdeeds
      have hstore := handle_store settings r hd
      rw [Deed.apply, hstore]
      split <;> exact h

/-- Tracking over whole runs. After any run of requests and operations, one more request to an untracked path
    changes nothing, and any other adds its record to the finished tasks, whatever its method and headers and
    however it is answered. The run itself comes to the operations that start and finish the tasks of its
    requests, and no request is left among the tasks that run. -/
theorem attend_tracks (s₀ : Store) (deeds : List Deed) :
    let s := attend s₀ deeds
    (∀ settings visit r, (∀ q ∈ s.active, q.id ≠ visit.id) →
      (handle settings visit r s).store =
        if String.ofList r.url.path ∈ ["/health", "/docs", "/redoc", "/openapi.json"] then s
        else ⟨s.bound, s.active, lastOf s.bound
          (s.completed ++ [⟨visit.id, r.target, r.client.getD "unknown", visit.now / 1000000⟩])⟩) ∧
    (∀ settings settings' visit trouble r method headers,
      (handle settings visit r s).store =
        (handle settings' { visit with trouble } { r with method, headers } s).store) ∧
    s = s₀.run (deeds.flatMap Deed.operations) ∧
    (AllFresh s₀ deeds → s.active = (s₀.run (deeds.filterMap Deed.operation?)).active) := by
  intro s
  refine ⟨fun settings visit r fresh => ?_, fun settings settings' visit trouble r method headers => ?_,
    attend_eq_run s₀ deeds, attend_active rfl⟩
  · rw [handle_store settings r fresh, ← ite_congr (propext untracked_iff) (fun _ => rfl) fun _ => rfl]
    rfl
  · rw [handle_store_eq, handle_store_eq]
    rfl

/-- A request that fails leaves the task that runs beside it, and itself as finished. -/
theorem attend_tracks_failure :
    AllFresh ⟨1, [], []⟩
      [.operate (.create default ⟨.string "/a", .string "c", some (.int 3)⟩ 0),
       .request {} ⟨⟨1, by decide⟩, 5000000, some (Fault.named "RuntimeError" "")⟩ { path := "/user_tasks" }] ∧
    (attend ⟨1, [], []⟩
      [.operate (.create default ⟨.string "/a", .string "c", some (.int 3)⟩ 0),
       .request {} ⟨⟨1, by decide⟩, 5000000, some (Fault.named "RuntimeError" "")⟩ { path := "/user_tasks" }]).active =
      [⟨default, "/a", "c", 3⟩] ∧
    (handle {} ⟨⟨1, by decide⟩, 5000000, some (Fault.named "RuntimeError" "")⟩ { path := "/user_tasks" }
      ⟨1, [⟨default, "/a", "c", 3⟩], []⟩).store =
      ⟨1, [⟨default, "/a", "c", 3⟩], [⟨⟨1, by decide⟩, "/user_tasks", "unknown", 5⟩]⟩ := by
  have fresh : AllFresh ⟨1, [], []⟩
      [.operate (.create default ⟨.string "/a", .string "c", some (.int 3)⟩ 0),
       .request {} ⟨⟨1, by decide⟩, 5000000, some (Fault.named "RuntimeError" "")⟩ { path := "/user_tasks" }] :=
    ⟨trivial, by unfold Deed.Fresh; decide, trivial⟩
  refine ⟨fresh, ((attend_tracks _ _).2.2.2 fresh).trans (by decide), ?_⟩
  exact ((attend_tracks ⟨1, [⟨default, "/a", "c", 3⟩], []⟩ []).1 _ _ _ (by decide)).trans (by decide)

end Http
end Taskboard
