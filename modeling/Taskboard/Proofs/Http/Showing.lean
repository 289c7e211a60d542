import Taskboard.Proofs.Http.Tracking
import Taskboard.Proofs.Http.Url
import Taskboard.Proofs.Report.Agreement
import Taskboard.Proofs.Task.Filter

/-! What a request for the tasks is answered. Its own task runs while it is answered, so it is the last of the
    running tasks that the request is shown, unless the filter leaves it out, and it is never shown as finished
    (`tasks_answered`). -/

namespace Taskboard
namespace Http

/-! ### What a body shows -/

/-- A body shows tasks with their statuses: it is a document that lists them, or a table with a line for each. -/
inductive Body.Shows : Body → List (String × String) → Prop where
  | document (d : Document) : Shows (.text d.text) (d.userTasks.map fun e => (e.userTaskId, e.status))
  | table (s : Snapshot) (ids : IdSet) :
    Shows (.text (s.table ids)) ((s.lines ids).map fun row => (row.id.text, row.status))

/-- A body that shows tasks says which. -/
theorem Body.Shows.unique {b : Body} {l l' : List (String × String)} (h : b.Shows l) (h' : b.Shows l') : l = l' := by
  generalize hb : b = b' at h'
  cases h with
  | document d =>
    cases h' with
    | document d' => rw [Document.userTasks_eq_of_text (Body.text.inj hb)]
    | table s ids => exact absurd (Body.text.inj hb) (d.text_ne_table s ids)
  | table s ids =>
    cases h' with
    | document d => exact absurd (Body.text.inj hb).symm (d.text_ne_table s ids)
    | table s' ids' => rw [Snapshot.lines_eq_of_table (Body.text.inj hb)]

/-- An error is no report. -/
theorem not_shows_error (detail : String) (l : List (String × String)) :
    ¬(Response.json 400 [("error", .string "Bad Request"), ("detail", .string detail)]).body.Shows l := by
  intro h
  generalize hb : (Response.json 400 [("error", .string "Bad Request"), ("detail", .string detail)]).body = b at h
  have hfirst : (Json.Value.object [("error", .string "Bad Request"), ("detail", .string detail)]).text.toList.take 3 =
      ['{', '"', 'e'] := by
    rw [Json.Value.text, String.toList_ofList, Json.Value.write]
    rfl
  cases h with
  | document d =>
    rw [Body.text.inj hb, Document.toList_text] at hfirst
    exact absurd hfirst (by rintro ⟨⟩)
  | table s ids =>
    rw [Body.text.inj hb, Table.toList_table] at hfirst
    exact absurd (List.cons.inj hfirst).1 (by decide)

/-! ### A request for the tasks -/

section Tasks
variable {settings : Settings} {id : Uuid} {now : Int} {r : Request} {store : Store}

/-- What a request sees of the store: its own task is the last of those that run. -/
def board (store : Store) (task : Record) : Snapshot := ⟨store.active ++ [task], store.completed⟩

theorem answer_tasks (hget : r.method = "GET") (hpath : r.path = "/user_tasks") (capture : Except Fault Snapshot) :
    answer settings capture r = showTasks settings capture (Parameters.ofQuery r.query) := by
  have hroute : Route.ofPath? r.path.toList = some .tasks := by rw [hpath]; decide
  have hmethod : r.method ∈ Route.tasks.methods := by rw [hget]; decide
  simp only [answer, hroute, if_pos hmethod, serve]

theorem url_path_tasks (hpath : r.path = "/user_tasks") : r.url.path = "/user_tasks".toList := by
  rw [Request.url_path (by rw [hpath]; rfl) (by rw [hpath]; decide), hpath]

theorem untracked_tasks (hpath : r.path = "/user_tasks") : Route.untracked r.url.path = false := by
  rw [url_path_tasks hpath]
  decide

/-- A request for the tasks, whatever is seen of the board: its own task runs meanwhile and has finished afterwards. -/
theorem handle_tasks_eq (hget : r.method = "GET") (hpath : r.path = "/user_tasks") (settings : Settings) (visit : Visit)
    (store : Store) : handle settings visit r store =
      conclude r ((store.start (r.task visit)).complete visit.id).1 [completionEvent visit.id]
        ((settle (showTasks settings (visit.capture (store.start (r.task visit))) (Parameters.ofQuery r.query))).map
          (CrossOrigin.exposed r)) := by
  have hasked : CrossOrigin.asked? r = none := by
    rw [CrossOrigin.asked?, hget]
    exact if_neg (by decide)
  rw [handle, untracked_tasks hpath, if_neg Bool.false_ne_true]
  simp only [respond, hasked, answer_tasks hget hpath]

theorem handle_tasks (hget : r.method = "GET") (hpath : r.path = "/user_tasks")
    (fresh : ∀ q ∈ store.active, q.id ≠ id) {response : Response}
    (h : settle (showTasks settings (.ok (board store (r.task ⟨id, now, none⟩))) (Parameters.ofQuery r.query)) =
      .ok response) :
    (handle settings ⟨id, now, none⟩ r store).response = CrossOrigin.exposed r response := by
  have hboard : (store.start (r.task ⟨id, now, none⟩)).snapshot = board store (r.task ⟨id, now, none⟩) := by
    rw [Store.start, Store.put_of_fresh fresh]
    rfl
  rw [handle_tasks_eq hget hpath]
  simp only [Visit.capture, hboard, h]
  rfl

theorem statuses_board (ids : IdSet) : (board store (r.task ⟨id, now, none⟩)).statuses ids =
    ((store.active.filter ids.chooses).map fun q => (q.id.text, "Active")) ++
      (if ids.isEmpty ∨ id ∈ ids then [(id.text, "Active")] else []) ++
      (store.completed.filter ids.chooses).map fun q => (q.id.text, "Completed") := by
  have hown : ([r.task ⟨id, now, none⟩].filter ids.chooses).map (fun q => (q.id.text, "Active")) =
      if ids.isEmpty ∨ id ∈ ids then [(id.text, "Active")] else [] := by
    have hchooses : ids.chooses (r.task ⟨id, now, none⟩) = true ↔ ids.isEmpty ∨ id ∈ ids := by
      rw [IdSet.chooses, Bool.or_eq_true, decide_eq_true_iff]
      rfl
    by_cases h : ids.isEmpty ∨ id ∈ ids
    · rw [if_pos h, List.filter_cons_of_pos (hchooses.mpr h)]
      rfl
    · rw [if_neg h, List.filter_cons_of_neg (mt hchooses.mp h)]
      rfl
  rw [Snapshot.statuses_eq, board, List.filter_append, List.map_append, hown]

theorem wantsJson?_eq (ps : Parameters) : wantsJson? ps = (ps.last? "json").elim (some false) truth? := by
  unfold wantsJson?
  cases ps.last? "json" <;> rfl

theorem notMem_statuses_board (fresh : ∀ q ∈ store.completed, q.id ≠ id) (ids : IdSet) :
    (id.text, "Completed") ∉ (board store (r.task ⟨id, now, none⟩)).statuses ids := by
  rw [statuses_board]
  simp only [List.mem_append, List.mem_map, List.mem_filter, Prod.mk.injEq, not_or]
  refine ⟨⟨?_, ?_⟩, ?_⟩
  · rintro ⟨q, -, -, h⟩
    exact absurd h (by decide)
  · split <;> simp
  · rintro ⟨q, ⟨hq, -⟩, h, -⟩
    exact fresh q hq (Uuid.text_injective h)

section Cases
variable {ps : Parameters} {s : Snapshot} {asJson : Bool} {ids : IdSet} {e : Filter.BadItem}

theorem showTasks_unclear (h : wantsJson? ps = none) :
    settle (showTasks settings (.ok s) ps) = .ok ⟨422, [Response.contentType "application/json"],
      .issues [⟨.boolText, [.field "query", .field "json"]⟩]⟩ := by
  simp only [showTasks, h, settle]

/-- An item that is no identifier is told before the board is looked at. -/
theorem showTasks_rejected {capture : Except Fault Snapshot} (h : wantsJson? ps = some asJson)
    (hbad : Filter.parse (ps.all "user_task_ids") = .error e) : settle (showTasks settings capture ps) =
      .ok (.json 400 [("error", .string "Bad Request"), ("detail", .string e.message)]) := by
  simp only [showTasks, h, hbad]
  rfl

theorem showTasks_shown (h : wantsJson? ps = some asJson) (hids : Filter.parse (ps.all "user_task_ids") = .ok ids)
    (hprint : s.Printable asJson ids) : ∃ headers, settle (showTasks settings (.ok s) ps) =
      .ok ⟨200, headers, .text (if asJson then s.json settings.jsonVersion ids else s.table ids)⟩ := by
  simp only [showTasks, h, hids]
  cases asJson with
  | true => exact ⟨_, by rw [if_pos rfl, Snapshot.document?_of_short hprint]; rfl⟩
  | false => exact ⟨_, by rw [if_neg Bool.false_ne_true, Snapshot.table?_of_short hprint]; rfl⟩

/-- A report that cannot be printed is the client's fault as well. -/
theorem showTasks_unprinted (h : wantsJson? ps = some asJson) (hids : Filter.parse (ps.all "user_task_ids") = .ok ids)
    (hprint : ¬s.Printable asJson ids) : settle (showTasks settings (.ok s) ps) =
      .ok (.json 400 [("error", .string "Bad Request"), ("detail", .string Fault.tooManyDigits.message)]) := by
  simp only [showTasks, h, hids]
  cases asJson with
  | true => rw [if_pos rfl, Snapshot.document?_of_not_short hprint]; rfl
  | false => rw [if_neg Bool.false_ne_true, Snapshot.table?_of_not_short hprint]; rfl

end Cases

theorem handle_tasks_unprinted {asJson : Bool} {ids : IdSet} (hget : r.method = "GET") (hpath : r.path = "/user_tasks")
    (fresh : ∀ q ∈ store.active, q.id ≠ id) (hjson : wantsJson? (Parameters.ofQuery r.query) = some asJson)
    (hids : Filter.parse ((Parameters.ofQuery r.query).all "user_task_ids") = .ok ids)
    (hprint : ¬(board store (r.task ⟨id, now, none⟩)).Printable asJson ids) :
    (handle settings ⟨id, now, none⟩ r store).response.status = 400 ∧
      (handle settings ⟨id, now, none⟩ r store).response.body = .text (Json.Value.object
        [("error", .string "Bad Request"), ("detail", .string Fault.tooManyDigits.message)]).text := by
  rw [handle_tasks hget hpath fresh (showTasks_unprinted hjson hids hprint)]
  exact ⟨rfl, rfl⟩

theorem Body.shows_report (s : Snapshot) (asJson : Bool) (version : Nat) (ids : IdSet) :
    (Body.text (if asJson then s.json version ids else s.table ids)).Shows (s.statuses ids) := by
  cases asJson with
  | true => exact Document.map_userTasks_ofSnapshot s version ids ▸ .document (Document.ofSnapshot s version ids)
  | false => exact Snapshot.map_lines s ids ▸ .table s ids

/-- A request is never shown as finished, whatever it asks for. -/
theorem notMem_of_shows {tasks : List (String × String)} (hget : r.method = "GET") (hpath : r.path = "/user_tasks")
    (hactive : ∀ q ∈ store.active, q.id ≠ id) (hcompleted : ∀ q ∈ store.completed, q.id ≠ id)
    (hshows : (handle settings ⟨id, now, none⟩ r store).response.body.Shows tasks) :
    (id.text, "Completed") ∉ tasks := by
  -- Whichever response it is, it shows at most one list of tasks, and that is known.
  cases hjson : wantsJson? (Parameters.ofQuery r.query) with
  | none =>
    rw [handle_tasks hget hpath hactive (showTasks_unclear hjson)] at hshows
    cases hshows
  | some asJson =>
    cases hids : Filter.parse ((Parameters.ofQuery r.query).all "user_task_ids") with
    | error e =>
      rw [handle_tasks hget hpath hactive (showTasks_rejected hjson hids)] at hshows
      exact absurd hshows (not_shows_error e.message tasks)
    | ok ids =>
      by_cases hprint : (board store (r.task ⟨id, now, none⟩)).Printable asJson ids
      · obtain ⟨headers, hshow⟩ := showTasks_shown hjson hids hprint
        rw [handle_tasks hget hpath hactive hshow] at hshows
        rw [hshows.unique (Body.shows_report _ asJson settings.jsonVersion ids)]
        exact notMem_statuses_board hcompleted ids
      · rw [handle_tasks hget hpath hactive (showTasks_unprinted hjson hids hprint)] at hshows
        exact absurd hshows (not_shows_error _ tasks)

end Tasks

/-- A request for the tasks, for every query. If the query says properly which report is wanted and names
    identifiers only, and the report can be printed, it shows the tasks of the store and the request itself as the last
    running one, unless the filter leaves it out; if it cannot be printed, the response says so. No report is that way
    where no start time is too long. If the query does not say properly which report is wanted, that is what the
    response is about; otherwise it names the first item that is no identifier. The request is never shown as
    finished. -/
theorem tasks_answered (settings : Settings) {store : Store} {id : Uuid} (now : Int) (query : String)
    (client : Option String) (headers : List (String × String))
    (fresh : ∀ q ∈ store.active ++ store.completed, q.id ≠ id) :
    let r : Request := { method := "GET", path := "/user_tasks", query, client, headers }
    let response := (handle settings ⟨id, now, none⟩ r store).response
    let shown := board store (r.task ⟨id, now, none⟩)
    let asked := ((Parameters.ofQuery query).last? "json").elim (some false) truth?
    let items := Filter.items ((Parameters.ofQuery query).all "user_task_ids")
    (∀ asJson, asked = some asJson → (∀ item ∈ items, (Uuid.readLoose? item).isSome) →
      ∃ ids : IdSet, (∀ u, u ∈ ids ↔ ∃ item ∈ items, Uuid.readLoose? item = some u) ∧
        (shown.Printable asJson ids →
          response.status = 200 ∧
          response.body = .text (if asJson then shown.json settings.jsonVersion ids else shown.table ids) ∧
          response.body.Shows
            (((store.active.filter ids.chooses).map fun q => (q.id.text, "Active")) ++
              (if ids.isEmpty ∨ id ∈ ids then [(id.text, "Active")] else []) ++
              (store.completed.filter ids.chooses).map fun q => (q.id.text, "Completed"))) ∧
        (¬shown.Printable asJson ids →
          response.status = 400 ∧
          response.body = .text (Json.Value.object [("error", .string "Bad Request"),
            ("detail", .string Fault.tooManyDigits.message)]).text) ∧
        ((∀ q ∈ shown.active ++ shown.completed, q.startMs.natAbs < 10 ^ Numeral.maxDigits) →
          shown.Printable asJson ids)) ∧
    (asked = none → response.status = 422) ∧
    (∀ asJson good bad rest, asked = some asJson → items = good ++ bad :: rest →
      (∀ item ∈ good, (Uuid.readLoose? item).isSome) → Uuid.readLoose? bad = none →
      response.status = 400 ∧
        response.body = .text (Json.Value.object [("error", .string "Bad Request"),
          ("detail", .string ("Invalid user task id: " ++ String.ofList (Text.quoted bad)))]).text) ∧
    ∀ tasks, response.body.Shows tasks → (id.text, "Completed") ∉ tasks := by
  intro r response shown asked items
  obtain ⟨hactive, hcompleted⟩ := List.forall_mem_append.mp fresh
  have hasked : wantsJson? (Parameters.ofQuery query) = asked := wantsJson?_eq _
  have answered {response' : Response}
      (h : settle (showTasks settings (.ok shown) (Parameters.ofQuery query)) = .ok response') :
      response = CrossOrigin.exposed r response' := handle_tasks rfl rfl hactive h
  refine ⟨fun asJson hjson hitems => ?_, fun hjson => ?_, fun asJson good bad rest hjson hlist hgood hbad => ?_,
    fun tasks hshows => ?_⟩
  · obtain ⟨ids, hids, hmem⟩ := Filter.parse_ok hitems
    refine ⟨ids, hmem, fun hprint => ?_, fun hprint => ?_, fun hshort => Snapshot.printable_of_short hshort asJson ids⟩
    · obtain ⟨headers, hshow⟩ := showTasks_shown (hasked.trans hjson) hids hprint
      have hresponse : response = _ := answered hshow
      refine ⟨by rw [hresponse]; rfl, by rw [hresponse]; rfl, ?_⟩
      rw [hresponse, ← statuses_board]
      exact Body.shows_report _ asJson settings.jsonVersion ids
    · exact handle_tasks_unprinted rfl rfl hactive (hasked.trans hjson) hids hprint
  · have hresponse : response = _ := answered (showTasks_unclear (hasked.trans hjson))
    rw [hresponse]
    rfl
  · have hids := Filter.parse_error hlist hgood hbad
    have hresponse : response = _ := answered (showTasks_rejected (hasked.trans hjson) hids)
    rw [hresponse]
    exact ⟨rfl, rfl⟩
  · exact notMem_of_shows rfl rfl hactive hcompleted hshows

/-- The last of several parameters `json` counts. The filter names another task only, so the request does not see
    itself. -/
theorem tasks_answered_filtered :
    let store : Store := ⟨1, [⟨default, "/a", "c", 3⟩], [⟨⟨1, by decide⟩, "/b", "c", 0⟩]⟩
    let query := "json=x&user_task_ids=,%20" ++ (default : Uuid).text ++ "&json=TRUE"
    let r : Request := { method := "GET", path := "/user_tasks", query }
    let response := (handle {} ⟨⟨2, by decide⟩, 0, none⟩ r store).response
    let shown := board store (r.task ⟨⟨2, by decide⟩, 0, none⟩)
    (∀ q ∈ store.active ++ store.completed, q.id ≠ ⟨2, by decide⟩) ∧
    (∀ q ∈ shown.active ++ shown.completed, q.startMs.natAbs < 10 ^ Numeral.maxDigits) ∧
    response.status = 200 ∧ response.body.Shows [((default : Uuid).text, "Active")] := by
  intro store query r response shown
  have fresh : ∀ q ∈ store.active ++ store.completed, q.id ≠ ⟨2, by decide⟩ := by decide
  have hstart : ∀ q ∈ shown.active ++ shown.completed, q.startMs.natAbs < 10 := by decide
  have hshort : ∀ q ∈ shown.active ++ shown.completed, q.startMs.natAbs < 10 ^ Numeral.maxDigits := fun q hq =>
    Numeral.lt_pow_maxDigits ((hstart q hq).trans (by decide))
  have hitems : Filter.items ((Parameters.ofQuery query).all "user_task_ids") = [(default : Uuid).text.toList] := by
    decide
  have hread : Uuid.readLoose? (default : Uuid).text.toList = some default := by decide
  have hitem : ∀ item ∈ Filter.items ((Parameters.ofQuery query).all "user_task_ids"),
      (Uuid.readLoose? item).isSome := by
    rw [hitems, List.forall_mem_singleton, hread]
    rfl
  obtain ⟨ids, hmem, hprinted, -, hprintable⟩ := (tasks_answered {} 0 query none [] fresh).1 true (by decide) hitem
  obtain ⟨hstatus, -, hshows⟩ := hprinted (hprintable hshort)
  obtain rfl : ids = IdSet.ofList [default] := by
    refine IdSet.eq_of_mem_iff fun u => ?_
    rw [hmem, hitems, IdSet.ofList, List.foldl_cons, List.foldl_nil, IdSet.mem_insert,
      or_iff_left (IdSet.not_mem_empty u)]
    simp [hread, eq_comm]
  exact ⟨fresh, hshort, hstatus, hshows⟩

/-- A task that starts too late for a report. Neither report can be printed, although the request asks for it properly
    and names no identifier. -/
theorem tasks_refused_long_start :
    let store : Store := ⟨1, [⟨default, "/a", "c", 10 ^ 4400⟩], []⟩
    let r (query : String) : Request := { method := "GET", path := "/user_tasks", query }
    (∀ q ∈ store.active ++ store.completed, q.id ≠ ⟨1, by decide⟩) ∧
    ∀ query ∈ ["json=true", ""], Filter.items ((Parameters.ofQuery query).all "user_task_ids") = [] ∧
      (((Parameters.ofQuery query).last? "json").elim (some false) truth?).isSome ∧
      (handle {} ⟨⟨1, by decide⟩, 0, none⟩ (r query) store).response.status = 400 := by
  intro store r
  have fresh : ∀ q ∈ store.active, q.id ≠ ⟨1, by decide⟩ := List.forall_mem_singleton.mpr (by decide)
  refine ⟨by rwa [show store.completed = [] from rfl, List.append_nil], fun query hquery => ?_⟩
  have hitems : Filter.items ((Parameters.ofQuery query).all "user_task_ids") = [] := by
    revert query
    decide
  have hasked : (((Parameters.ofQuery query).last? "json").elim (some false) truth?).isSome := by
    revert query
    decide
  obtain ⟨asJson, hjson⟩ := Option.isSome_iff_exists.mp hasked
  have hids : Filter.parse ((Parameters.ofQuery query).all "user_task_ids") = .ok ∅ := by
    rw [Filter.parse, hitems]
    rfl
  have hprint : ¬(board store ((r query).task ⟨⟨1, by decide⟩, 0, none⟩)).Printable asJson ∅ :=
    Snapshot.not_printable_of_long (k := 4400) (by decide) List.mem_cons_self rfl rfl asJson
  have hresponse : (handle {} ⟨⟨1, by decide⟩, 0, none⟩ (r query) store).response.status = 400 ∧ _ :=
    handle_tasks_unprinted rfl rfl fresh ((wantsJson?_eq _).trans hjson) hids hprint
  exact ⟨hitems, hasked, hresponse.1⟩

end Http
end Taskboard
