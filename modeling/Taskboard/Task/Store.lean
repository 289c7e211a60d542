import Taskboard.Json.Field
import Taskboard.Settings.Basic
import Taskboard.Task.Snapshot

/-! The store of tasks: the ones that run, in the order they were started in, and the last ones that have
    finished, in the order they finished in.

    `Store.step` is one operation on the store, with its answer. -/

namespace Taskboard

structure Store where
  /-- How many finished tasks stay. -/
  bound : Nat
  active : List Record := []
  completed : List Record := []
deriving DecidableEq

namespace Store

/-- The last `n` items of a list. -/
def lastOf {α : Type} (n : Nat) (l : List α) : List α := l.drop (l.length - n)

/-- Puts a record at the end of a list, or in place of the one with its identifier. -/
def put (r : Record) : List Record → List Record
  | [] => [r]
  | q :: qs => if q.id = r.id then r :: qs else q :: put r qs

/-- Starts a task. -/
def start (s : Store) (r : Record) : Store := { s with active := put r s.active }

/-- Finishes a task, if it runs. -/
def complete (s : Store) (id : Uuid) : Store × Bool :=
  match s.active.find? (·.id = id) with
  | some r =>
    ({ s with
        active := s.active.filter (·.id ≠ id)
        completed := lastOf s.bound (s.completed ++ [r]) }, true)
  | none => (s, false)

/-- The record of a task, running or finished. -/
def get? (s : Store) (id : Uuid) : Option Record :=
  (s.active.find? (·.id = id)).or (s.completed.find? (·.id = id))

/-- Forgets all tasks. -/
def clear (s : Store) : Store := { s with active := [], completed := [] }

def snapshot (s : Store) : Snapshot := ⟨s.active, s.completed⟩

/-! ### Starting a task from unchecked values -/

/-- What is said of a task that is to be started. -/
structure Draft where
  requestUrl : Json.Value
  clientIdentity : Json.Value
  /-- Where it is not said, the task starts now. -/
  startMs : Option Json.Value := none

/-- Milliseconds since the beginning of 1970, for a clock that counts nanoseconds. -/
def millis (nanos : Int) : Int := nanos / 1000000

/-- The record of a draft, under an identifier and at a time. -/
def Draft.record (d : Draft) (id : Uuid) (now : Int) : Checked Record :=
  Record.ofFields (.ok id) (d.requestUrl.asString.under (.field "request_url"))
    (d.clientIdentity.asString.under (.field "client_identity"))
    (match d.startMs with
      | some v => v.asInt.under (.field "start_ms")
      | none => .ok (millis now))

/-! ### Operations -/

inductive Action where
  | create (id : Uuid) (draft : Draft) (now : Int)
  | complete (id : Uuid)
  | get (id : Uuid)
  | snapshot
  | clear

inductive Answer where
  | created (id : Uuid)
  | rejected (r : Rejection)
  | completed (moved : Bool)
  | found (r : Option Record)
  | captured (s : Snapshot)
  | cleared
deriving DecidableEq

/-- Performs an operation. A draft that does not pass leaves the store as it is. -/
def step (s : Store) : Action → Store × Answer
  | .create id draft now =>
    match draft.record id now with
    | .ok r => (s.start r, .created id)
    | .error issues => (s, .rejected ⟨.record, issues⟩)
  | .complete id => ((s.complete id).1, .completed (s.complete id).2)
  | .get id => (s, .found (s.get? id))
  | .snapshot => (s, .captured s.snapshot)
  | .clear => (s.clear, .cleared)

/-- The store after a run of operations. -/
def run (s : Store) (actions : List Action) : Store := actions.foldl (fun s a => (s.step a).1) s

/-! ### New stores -/

/-- Why there is no new store. -/
inductive Refusal where
  /-- The bound is negative. -/
  | negative
  /-- The bound is beyond 63 bits. -/
  | beyondWord
  /-- The bound is to come from settings, and there are none. -/
  | settings (f : Failure)
deriving DecidableEq

/-- The greatest bound, the last number of 63 bits. -/
def maxBound : Int := 9223372036854775807

/-- An empty store with the given bound, or with that of the settings. -/
def new (bound : Option Int) (settings : Except Failure Settings) : Except Refusal Store :=
  match bound with
  | some n => ofBound n
  | none => match settings with
    | .ok settings => ofBound settings.maxCompleted
    | .error f => .error (.settings f)
where
  ofBound (n : Int) : Except Refusal Store :=
    if n < -maxBound - 1 ∨ maxBound < n then .error .beyondWord
    else if n < 0 then .error .negative
    else .ok { bound := n.toNat }

end Store
end Taskboard
