import Taskboard.Proofs.Http.Tracking

/-! Requests that overlap. Each of them starts its task, may look at the tasks, and finishes its task; between
    these acts the others have theirs, in any order. At any moment the tasks that run are those that ran before
    and those of the requests under way, in the order in which they arrived (`Interleaving.run`). When all have
    left, the order in which they arrived is forgotten, and the order in which they left is kept. -/

namespace Taskboard
namespace Http
open Store

/-- A request, with what comes with it from outside. -/
structure Caller where
  request : Request
  visit : Visit

namespace Caller

def id (c : Caller) : Uuid := c.visit.id

def task (c : Caller) : Record := c.request.task c.visit

@[simp] theorem task_id (c : Caller) : c.task.id = c.id := rfl

end Caller

/-- What a request does to the store at one moment. -/
inductive Act where
  /-- It starts its task. -/
  | arrive
  /-- It looks at the tasks. -/
  | look
  /-- It finishes its task. -/
  | leave
deriving DecidableEq

/-- An act of a request. -/
structure Turn where
  caller : Caller
  act : Act

/-- The operation that a turn is. -/
def Turn.action : Turn → Action
  | ⟨c, .arrive⟩ =>
    .create c.id ⟨.string c.request.target, .string (c.request.client.getD "unknown"), none⟩ c.visit.now
  | ⟨_, .look⟩ => .snapshot
  | ⟨c, .leave⟩ => .complete c.id

/-- A request that is tracked and handled alone arrives, is answered by what it may see, and leaves. -/
theorem handle_eq_turns {r : Request} (tracked : Route.untracked r.url.path = false) (settings : Settings)
    (visit : Visit) (s : Store) :
    handle settings visit r s =
      conclude r (s.run ([⟨⟨r, visit⟩, .arrive⟩, ⟨⟨r, visit⟩, .leave⟩].map Turn.action)) [completionEvent visit.id]
        (respond settings (visit.capture (s.run ([⟨⟨r, visit⟩, .arrive⟩].map Turn.action))) r) := by
  rw [handle, tracked]
  rfl

/-! ### Interleavings -/

/-- All acts of a request, if it looks so many times. -/
def course (looks : Nat) : List Act := .arrive :: (List.replicate looks .look ++ [.leave])

/-- The acts of the request of an identifier, in order. -/
def acts (turns : List Turn) (id : Uuid) : List Act := (turns.filter (·.caller.id = id)).map (·.act)

/-- Turns of several requests, in any order that keeps the order of the acts of each of them. A request may be
    anywhere on its course. -/
structure Interleaving (callers : List Caller) (turns : List Turn) : Prop where
  distinct : (callers.map Caller.id).Nodup
  known : ∀ t ∈ turns, t.caller ∈ callers
  courses : ∀ c ∈ callers, ∃ looks, acts turns c.id <+: course looks

/-- All requests have come to the end of their course. -/
def AllLeft (callers : List Caller) (turns : List Turn) : Prop :=
  ∀ c ∈ callers, ∃ looks, acts turns c.id = course looks

/-- The requests under way, in the order in which they arrived. -/
def present (turns : List Turn) : List Caller :=
  ((turns.filter (·.act = .arrive)).map (·.caller)).filter fun c => .leave ∉ acts turns c.id

/-- The requests that have left, in the order in which they did. -/
def departed (turns : List Turn) : List Caller := (turns.filter (·.act = .leave)).map (·.caller)

section Course
variable {l : List Act} {a : Act} {looks : Nat}

theorem nil_of_course_arrive (h : l ++ [.arrive] <+: course looks) : l = [] := by
  cases l with
  | nil => rfl
  | cons x l =>
    have hrest := (List.cons_prefix_cons.mp h).2
    have hmem : Act.arrive ∈ List.replicate looks Act.look ++ [.leave] := hrest.subset (by simp)
    simp at hmem

/-- A request looks and leaves after it has arrived and before it has left. -/
theorem mem_of_course (h : l ++ [a] <+: course looks) (ha : a ≠ .arrive) : .arrive ∈ l ∧ .leave ∉ l := by
  cases l with
  | nil => exact absurd (List.cons_prefix_cons.mp h).1 ha
  | cons x l =>
    obtain ⟨rfl, hrest⟩ := List.cons_prefix_cons.mp h
    have hlooks : l <+: List.replicate looks .look := by
      rcases List.prefix_concat_iff.mp hrest with heq | hpre
      · exact (List.append_inj' heq rfl).1 ▸ List.prefix_rfl
      · exact (List.prefix_append l [a]).trans hpre
    -- On the way between arriving and leaving there is nothing but looks.
    refine ⟨List.mem_cons_self, fun hleave => ?_⟩
    rcases List.mem_cons.mp hleave with hx | hl
    · cases hx
    · exact absurd (List.eq_of_mem_replicate (hlooks.subset hl)) (by decide)

end Course

/-! ### One more turn -/

section Turns
variable {callers : List Caller} {turns : List Turn} {t : Turn} {c d : Caller} {id : Uuid}

theorem acts_append : acts (turns ++ [t]) id = acts turns id ++ if t.caller.id = id then [t.act] else [] := by
  rw [acts, List.filter_append, List.map_append, acts]
  by_cases hid : t.caller.id = id <;> simp [hid]

theorem mem_acts {a : Act} : a ∈ acts turns id ↔ ∃ t ∈ turns, t.caller.id = id ∧ t.act = a := by
  simp [acts, and_assoc]

theorem mem_present : c ∈ present turns ↔ (∃ t ∈ turns, t.act = .arrive ∧ t.caller = c) ∧ .leave ∉ acts turns c.id := by
  simp [present, and_assoc]

theorem mem_departed : c ∈ departed turns ↔ ∃ t ∈ turns, t.act = .leave ∧ t.caller = c := by
  simp [departed, and_assoc]

theorem departed_append : departed (turns ++ [t]) = departed turns ++ if t.act = .leave then [t.caller] else [] := by
  rw [departed, List.filter_append, List.map_append, departed]
  by_cases hact : t.act = .leave <;> simp [hact]

theorem leave_notMem_append :
    .leave ∉ acts (turns ++ [t]) id ↔ .leave ∉ acts turns id ∧ ¬(t.caller.id = id ∧ t.act = .leave) := by
  rw [acts_append]
  by_cases hid : t.caller.id = id <;> simp [hid, eq_comm]

theorem present_arrive (h : acts turns c.id = []) : present (turns ++ [⟨c, .arrive⟩]) = present turns ++ [c] := by
  simp [present, leave_notMem_append, h]

theorem present_look : present (turns ++ [⟨c, .look⟩]) = present turns := by
  simp [present, leave_notMem_append]

theorem present_leave : present (turns ++ [⟨c, .leave⟩]) = (present turns).filter (·.id ≠ c.id) := by
  simp [present, leave_notMem_append, List.filter_filter, and_comm, eq_comm]

namespace Interleaving

theorem init (h : Interleaving callers (turns ++ [t])) : Interleaving callers turns where
  distinct := h.distinct
  known u hu := h.known u (List.mem_append_left _ hu)
  courses c hc := by
    obtain ⟨looks, hcourse⟩ := h.courses c hc
    rw [acts_append] at hcourse
    exact ⟨looks, (List.prefix_append _ _).trans hcourse⟩

/-- The last turn is the next act on the course of its request. -/
theorem last (h : Interleaving callers (turns ++ [t])) :
    t.caller ∈ callers ∧ ∃ looks, acts turns t.caller.id ++ [t.act] <+: course looks := by
  have hc : t.caller ∈ callers := h.known t (by simp)
  obtain ⟨looks, hcourse⟩ := h.courses t.caller hc
  rw [acts_append, if_pos rfl] at hcourse
  exact ⟨hc, looks, hcourse⟩

theorem eq_of_id (h : Interleaving callers turns) (hc : c ∈ callers) (hd : d ∈ callers) (hid : c.id = d.id) : c = d :=
  List.inj_on_of_nodup_map h.distinct hc hd hid

theorem mem_callers (h : Interleaving callers turns) (hc : c ∈ present turns) : c ∈ callers := by
  obtain ⟨⟨t, ht, -, rfl⟩, -⟩ := mem_present.mp hc
  exact h.known t ht

theorem mem_present_of_last (h : Interleaving callers (turns ++ [t])) (hact : t.act ≠ .arrive) :
    t.caller ∈ present turns := by
  obtain ⟨hc, looks, hcourse⟩ := h.last
  obtain ⟨harrive, hleave⟩ := mem_of_course hcourse hact
  obtain ⟨u, hu, hid, hua⟩ := mem_acts.mp harrive
  exact mem_present.mpr ⟨⟨u, hu, hua, h.init.eq_of_id (h.init.known u hu) hc hid⟩, hleave⟩

end Interleaving
end Turns

/-! ### What the turns do to the store -/

/-- The tasks of the requests are new to a store. -/
def NewTo (s : Store) (callers : List Caller) : Prop := ∀ c ∈ callers, ∀ q ∈ s.active ++ s.completed, q.id ≠ c.id

/-- What a store is like while requests are under way. -/
structure Underway (s : Store) (turns : List Turn) (now : Store) : Prop where
  bound : now.bound = s.bound
  active : now.active = s.active ++ (present turns).map Caller.task
  completed : now.completed = lastOf s.bound (s.completed ++ (departed turns).map Caller.task)
  distinct : Distinct ((present turns).map Caller.task)

namespace Underway
variable {s now : Store} {callers : List Caller} {turns : List Turn} {c : Caller}

theorem nil (short : s.completed.length ≤ s.bound) : Underway s [] s :=
  ⟨rfl, (List.append_nil _).symm, by rw [departed, List.filter_nil, List.map_nil, List.map_nil, List.append_nil,
    lastOf_of_length_le short], .nil⟩

/-- Of the tasks that run, the one under the identifier of a request under way is that of the request. -/
theorem filter_active (U : Underway s turns now) (fresh : ∀ q ∈ s.active, q.id ≠ c.id) (hc : c ∈ present turns) :
    now.active.filter (·.id = c.id) = [c.task] := by
  have hold : s.active.filter (·.id = c.id) = [] :=
    List.filter_eq_nil_iff.mpr fun q hq => by simpa using fresh q hq
  have hown : ((present turns).map Caller.task).filter (·.id = c.id) = [c.task] :=
    U.distinct.filter_id (List.mem_map_of_mem hc)
  rw [U.active, List.filter_append, hold, hown, List.nil_append]

theorem find?_active (U : Underway s turns now) (fresh : ∀ q ∈ s.active, q.id ≠ c.id) (hc : c ∈ present turns) :
    now.active.find? (·.id = c.id) = some c.task := by
  rw [← List.head?_filter, U.filter_active fresh hc, List.head?_cons]

theorem arrive (U : Underway s turns now) (fresh : ∀ q ∈ s.active, q.id ≠ c.id) (hc : acts turns c.id = []) :
    Underway s (turns ++ [⟨c, .arrive⟩]) (now.step (Turn.action ⟨c, .arrive⟩)).1 := by
  have hpresent := present_arrive hc
  have hnew : ∀ d ∈ present turns, d.id ≠ c.id := by
    intro d hd hid
    obtain ⟨⟨t, ht, hact, rfl⟩, -⟩ := mem_present.mp hd
    have hmem : .arrive ∈ acts turns c.id := mem_acts.mpr ⟨t, ht, hid, hact⟩
    rw [hc] at hmem
    cases hmem
  have hput : put c.task now.active = now.active ++ [c.task] := by
    refine put_of_fresh fun q hq => ?_
    rw [U.active] at hq
    rcases List.mem_append.mp hq with hq | hq
    · exact fresh q hq
    · obtain ⟨d, hd, rfl⟩ := List.mem_map.mp hq
      exact hnew d hd
  have hstep : (now.step (Turn.action ⟨c, .arrive⟩)).1 = now.start c.task := rfl
  rw [hstep, start, hput]
  refine ⟨U.bound, ?_, ?_, ?_⟩
  · rw [hpresent, List.map_append, ← List.append_assoc, ← U.active]
    rfl
  · rw [departed_append]
    simpa using U.completed
  · rw [hpresent, Distinct, List.map_append, List.map_append]
    refine List.Nodup.append U.distinct (List.nodup_singleton _) ?_
    simpa [Function.comp_def] using hnew

theorem look (U : Underway s turns now) : Underway s (turns ++ [⟨c, .look⟩]) (now.step (Turn.action ⟨c, .look⟩)).1 :=
  ⟨U.bound, by rw [present_look]; exact U.active,
    by rw [departed_append, if_neg nofun, List.append_nil]; exact U.completed, by rw [present_look]; exact U.distinct⟩

theorem leave (U : Underway s turns now) (fresh : ∀ q ∈ s.active, q.id ≠ c.id) (hc : c ∈ present turns) :
    Underway s (turns ++ [⟨c, .leave⟩]) (now.step (Turn.action ⟨c, .leave⟩)).1 := by
  have hstep : (now.step (Turn.action ⟨c, .leave⟩)).1 = (now.complete c.id).1 := rfl
  have hkeep : s.active.filter (·.id ≠ c.id) = s.active :=
    List.filter_eq_self.mpr fun q hq => by simpa using fresh q hq
  have htasks : ((present turns).map Caller.task).filter (·.id ≠ c.id) =
      ((present turns).filter (·.id ≠ c.id)).map Caller.task := by
    rw [List.filter_map]
    rfl
  rw [hstep, complete_of_some (U.find?_active fresh hc)]
  refine ⟨U.bound, ?_, ?_, ?_⟩
  · simp only [U.active, List.filter_append, hkeep, htasks, present_leave]
  · show lastOf now.bound (now.completed ++ [c.task]) = _
    rw [U.completed, U.bound, lastOf_lastOf_append, departed_append, if_pos rfl, List.map_append, List.append_assoc]
    rfl
  · rw [present_leave, ← htasks]
    exact U.distinct.sublist (List.filter_sublist.map _)

theorem notMem_completed (U : Underway s turns now) (fresh : ∀ q ∈ s.completed, q.id ≠ c.id) (hc : c ∈ present turns) :
    ∀ q ∈ now.completed, q.id ≠ c.id := by
  intro q hq
  rw [U.completed] at hq
  rcases List.mem_append.mp (List.mem_of_mem_drop hq) with hq | hq
  · exact fresh q hq
  · obtain ⟨d, hd, rfl⟩ := List.mem_map.mp hq
    intro hid
    obtain ⟨t, ht, hact, rfl⟩ := mem_departed.mp hd
    exact (mem_present.mp hc).2 (mem_acts.mpr ⟨t, ht, hid, hact⟩)

/-- What a request under way sees shows its own task once, as one that runs. -/
theorem filter_rows (U : Underway s turns now) (fresh : ∀ q ∈ s.active ++ s.completed, q.id ≠ c.id)
    (hc : c ∈ present turns) : now.snapshot.rows.filter (fun (_, r) => r.id = c.id) = [(.active, c.task)] := by
  obtain ⟨hactive, hcompleted⟩ := List.forall_mem_append.mp fresh
  have hrunning : (now.active.map (Status.active, ·)).filter (fun (_, r) => r.id = c.id) = [(.active, c.task)] := by
    rw [List.filter_map]
    exact congrArg (List.map (Status.active, ·)) (U.filter_active hactive hc)
  have hfinished : (now.completed.map (Status.completed, ·)).filter (fun (_, r) => r.id = c.id) = [] := by
    refine List.filter_eq_nil_iff.mpr fun row hrow => ?_
    obtain ⟨q, hq, rfl⟩ := List.mem_map.mp hrow
    simpa using U.notMem_completed hcompleted hc q hq
  rw [Snapshot.rows_eq, List.filter_append, snapshot, hrunning, hfinished, List.append_nil]

end Underway

namespace Interleaving
variable {s : Store} {callers : List Caller} {turns : List Turn}

theorem step {t : Turn} {now : Store} (h : Interleaving callers (turns ++ [t])) (fresh : NewTo s callers)
    (U : Underway s turns now) : Underway s (turns ++ [t]) (now.step t.action).1 := by
  have hfresh : ∀ q ∈ s.active, q.id ≠ t.caller.id := fun q hq => fresh _ h.last.1 q (List.mem_append_left _ hq)
  obtain ⟨c, act⟩ := t
  cases act with
  | arrive =>
    obtain ⟨-, looks, hcourse⟩ := h.last
    exact U.arrive hfresh (nil_of_course_arrive hcourse)
  | look => exact U.look
  | leave => exact U.leave hfresh (h.mem_present_of_last nofun)

/-- Requests under way leave the tasks that ran before as they are, and theirs run behind them. -/
theorem run (h : Interleaving callers turns) (fresh : NewTo s callers) (short : s.completed.length ≤ s.bound) :
    Underway s turns (s.run (turns.map Turn.action)) := by
  -- The turns grow at their end, and without the last one they are an interleaving too.
  induction turns using List.reverseRecOn with
  | nil => exact .nil short
  | append_singleton turns t ih =>
    rw [List.map_append, List.map_singleton, run_append]
    exact h.step fresh (ih h.init)

theorem present_eq_nil (h : Interleaving callers turns) (left : AllLeft callers turns) : present turns = [] := by
  refine List.eq_nil_iff_forall_not_mem.mpr fun c hc => ?_
  obtain ⟨looks, hcourse⟩ := left c (h.mem_callers hc)
  exact (mem_present.mp hc).2 (by rw [hcourse, course]; simp)

end Interleaving

/-- Requests that overlap in any way. At any moment the tasks that run are those that ran before and those of the
    requests under way, in the order of arrival; what a request sees shows its own task once, as running; and it
    finishes its task. When all have left, the store holds what it held and the tasks of the requests as finished,
    in the order in which they left. So that order alone decides what they leave behind. -/
theorem overlapping_tracks {bound : Option Int} {settings : Except Failure Settings} {s₀ : Store}
    (hnew : new bound settings = .ok s₀) (actions : List Action) {callers : List Caller}
    (fresh : NewTo (s₀.run actions) callers) :
    let s := s₀.run actions
    (∀ turns, Interleaving callers turns →
      let now := s.run (turns.map Turn.action)
      now.active = s.active ++ (present turns).map Caller.task ∧
      (∀ c, Interleaving callers (turns ++ [⟨c, .look⟩]) →
        ∃ seen, (now.step (Turn.action ⟨c, .look⟩)).2 = .captured seen ∧
        seen.rows.filter (fun (_, r) => r.id = c.id) = [(.active, c.task)]) ∧
      (∀ c, Interleaving callers (turns ++ [⟨c, .leave⟩]) →
        (now.step (Turn.action ⟨c, .leave⟩)).2 = .completed true) ∧
      (AllLeft callers turns →
        now = ⟨s.bound, s.active, lastOf s.bound (s.completed ++ (departed turns).map Caller.task)⟩)) ∧
    ∀ turns turns', Interleaving callers turns → Interleaving callers turns' → AllLeft callers turns →
      AllLeft callers turns' → departed turns = departed turns' →
      s.run (turns.map Turn.action) = s.run (turns'.map Turn.action) := by
  intro s
  have short : s.completed.length ≤ s.bound := by
    obtain ⟨-, hempty, -⟩ := new_eq_ok hnew
    have hlen := length_completed_run_le (s := s₀) (by rw [hempty]; exact Nat.zero_le _) actions
    rwa [← run_bound s₀ actions] at hlen
  have hactive : ∀ c ∈ callers, ∀ q ∈ s.active, q.id ≠ c.id := fun c hc q hq => fresh c hc q (List.mem_append_left _ hq)
  have final : ∀ turns, Interleaving callers turns → AllLeft callers turns → s.run (turns.map Turn.action) =
      ⟨s.bound, s.active, lastOf s.bound (s.completed ++ (departed turns).map Caller.task)⟩ := by
    intro turns h left
    obtain ⟨hbound, hact, hcomp, -⟩ := h.run fresh short
    rw [h.present_eq_nil left, List.map_nil, List.append_nil] at hact
    rw [← hbound, ← hact, hbound, ← hcomp, ← hbound]
  refine ⟨fun turns h => ?_, fun turns turns' h h' left left' same => ?_⟩
  · have U := h.run fresh short
    refine ⟨U.active, fun c hlook => ?_, fun c hleave => ?_, final turns h⟩
    · have hc : c ∈ present turns := hlook.mem_present_of_last nofun
      exact ⟨_, rfl, U.filter_rows (fresh c hlook.last.1) hc⟩
    · have hc : c ∈ present turns := hleave.mem_present_of_last nofun
      have hfind := U.find?_active (hactive c hleave.last.1) hc
      show Answer.completed ((s.run (turns.map Turn.action)).complete c.id).2 = .completed true
      rw [complete_of_some hfind]
  · rw [final turns h left, final turns' h' left', same]

/-- Of two requests that overlap, the one that came first leaves last, and only its task stays. -/
theorem overlapping_tracks_two :
    let first : Caller := ⟨{ path := "/user_tasks" }, ⟨⟨1, by decide⟩, 5000000, none⟩⟩
    let second : Caller := ⟨{ path := "/user_tasks", client := some "c" }, ⟨⟨2, by decide⟩, 7000000, none⟩⟩
    let turns : List Turn := [⟨first, .arrive⟩, ⟨second, .arrive⟩, ⟨first, .look⟩, ⟨second, .leave⟩, ⟨first, .leave⟩]
    let actions : List Action := [.create default ⟨.string "/a", .string "c", some (.int 3)⟩ 0]
    new (some 1) (.ok {}) = .ok ⟨1, [], []⟩ ∧
    NewTo ((⟨1, [], []⟩ : Store).run actions) [first, second] ∧
    Interleaving [first, second] turns ∧ AllLeft [first, second] turns ∧
    ((⟨1, [], []⟩ : Store).run actions).run (turns.map Turn.action) =
      ⟨1, [⟨default, "/a", "c", 3⟩], [⟨⟨1, by decide⟩, "/user_tasks", "unknown", 5⟩]⟩ := by
  intro first second turns actions
  have hnew : new (some 1) (.ok {}) = .ok ⟨1, [], []⟩ := rfl
  have fresh : NewTo ((⟨1, [], []⟩ : Store).run actions) [first, second] := by
    intro c hc
    rcases List.mem_cons.mp hc with rfl | hc
    · decide
    · rw [List.mem_singleton.mp hc]
      decide
  have left : AllLeft [first, second] turns := by
    intro c hc
    rcases List.mem_cons.mp hc with rfl | hc
    · exact ⟨1, by decide⟩
    · rw [List.mem_singleton.mp hc]
      exact ⟨0, by decide⟩
  have h : Interleaving [first, second] turns := by
    refine ⟨by decide, fun t ht => ?_, fun c hc => ?_⟩
    · have hall : turns.map (·.caller) ⊆ [first, second] := by simp [turns]
      exact hall (List.mem_map_of_mem ht)
    · obtain ⟨looks, hcourse⟩ := left c hc
      exact ⟨looks, hcourse ▸ List.prefix_rfl⟩
  exact ⟨hnew, fresh, h, left, (((overlapping_tracks hnew actions fresh).1 turns h).2.2.2 left).trans (by decide)⟩

end Http
end Taskboard
