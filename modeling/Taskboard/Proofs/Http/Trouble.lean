import Taskboard.Proofs.Http.Showing
import Taskboard.Proofs.Json.RoundTrip
import Taskboard.Proofs.Task.Items

/-! Requests for the tasks that cannot look at the board. A fault in a value is the client's and goes no further; any
    other is told to the log and to whoever runs the service. The task of the request has finished in either case, so
    that those who come later notice nothing of the fault (`trouble_answered`). -/

namespace Taskboard

/-- The errors among the events that pass a logger. -/
def Logger.errors (l : Logger) (events : List Event) : List Event := (l.emit events).filter (·.level = .error)

namespace Http
open Store

/-! ### What is said of a fault -/

/-- The value that a body is the text of. -/
def Body.json? : Body → Option Json.Value
  | .text s => Json.read Json.maxDepth s.toList
  | .issues _ | .page => none

/-- A response that is made of texts is read as these. -/
theorem json?_json (status : Nat) {members : List (String × Json.Value)} (h : ∀ m ∈ members, ∃ s, m.2 = .string s) :
    (Response.json status members).body.json? = some (.object members) := by
  have hfits : (Json.Value.object members).Fits Json.maxDepth := .object fun m hm => by
    obtain ⟨s, hs⟩ := h m hm
    rw [hs]
    exact .string s
  rw [Response.json, Body.json?, Json.Value.text, String.toList_ofList]
  exact hfits.read_write

section Faults
variable {f : Fault} {ps : Parameters} {asJson : Bool} {ids : IdSet}

theorem settle_of_value (h : f.family = .value) :
    settle (.error f) = .ok (.json 400 [("error", .string "Bad Request"), ("detail", .string f.text)]) := by
  rw [settle, if_pos h]

theorem settle_of_ne_value (h : f.family ≠ .value) : settle (.error f) = .error f := by
  rw [settle, if_neg h]

/-- The board is looked at once the parameters are known to be good. -/
theorem showTasks_trouble (settings : Settings) (hjson : wantsJson? ps = some asJson)
    (hids : Filter.parse (ps.all "user_task_ids") = .ok ids) : showTasks settings (.error f) ps = .error f := by
  simp only [showTasks, hjson, hids]

/-- That a task has finished is no error. -/
theorem errors_completionEvent (l : Logger) (id : Uuid) (events : List Event) :
    l.errors (completionEvent id :: events) = l.errors events := by
  simp only [Logger.errors, Logger.emit, List.filter_filter]
  rw [List.filter_cons_of_neg (by simp [completionEvent])]

theorem errors_faultEvent (l : Logger) (path : String) (f : Fault) :
    l.errors [faultEvent path f] = if l.admits .error then [faultEvent path f] else [] := by
  rw [Logger.errors, Logger.emit, List.filter_singleton]
  cases hadmits : l.admits .error with
  | true => simp [faultEvent, hadmits]
  | false => simp [faultEvent, hadmits]

/-- A request whose filter has an item that is no identifier, whatever would be seen of the board. -/
theorem handle_rejected {r : Request} {e : Filter.BadItem} (hget : r.method = "GET") (hpath : r.path = "/user_tasks")
    (hjson : wantsJson? (Parameters.ofQuery r.query) = some asJson)
    (hbad : Filter.parse ((Parameters.ofQuery r.query).all "user_task_ids") = .error e) (settings : Settings)
    (visit : Visit) (store : Store) :
    (handle settings visit r store).response.status = 400 ∧
      (handle settings visit r store).response.body.json? =
        some (.object [("error", .string "Bad Request"), ("detail", .string e.message)]) := by
  rw [handle_tasks_eq hget hpath, showTasks_rejected hjson hbad]
  exact ⟨rfl, json?_json 400 (by simp)⟩

end Faults

/-! ### Those who come later -/

/-- What comes of the requests of a run, in order. -/
def exchanges (s : Store) : List Deed → List Exchange
  | [] => []
  | .operate a :: deeds => exchanges (s.step a).1 deeds
  | .request settings visit r :: deeds =>
    handle settings visit r s :: exchanges (handle settings visit r s).store deeds

theorem handle_tasks_store (settings : Settings) (visit : Visit) {r : Request} (hpath : r.path = "/user_tasks")
    (store : Store) : (handle settings visit r store).store =
      ⟨store.bound, store.active.filter (·.id ≠ visit.id), lastOf store.bound (store.completed ++ [r.task visit])⟩ := by
  rw [handle_store_eq, untracked_tasks hpath, if_neg Bool.false_ne_true]
  exact complete_start store (r.task visit)

end Http

end Taskboard
