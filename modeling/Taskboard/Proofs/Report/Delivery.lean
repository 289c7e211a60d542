import Taskboard.Proofs.Report.Printing
import Taskboard.Proofs.Text.Utf8
import Taskboard.Report.Delivery

/-! What becomes of a table that is written to a sink. The sink is asked once, and its answer decides about the rest:
    nothing happens, or the fault is told to one logger, or the fault comes out (`Snapshot.deliver_outcome`). -/

namespace Taskboard

theorem Logger.emit_singleton (l : Logger) (e : Event) :
    l.emit [e] = if l.level ≤ e.level.number then [e] else [] := by
  rw [emit, List.filter_singleton, admits, Bool.cond_decide]

namespace Delivery
variable {loggers : Registry} {given : Option (String × Logger)} {settings : Except Failure Settings} {name : String}
  {logger : Logger} {f : Fault}

/-- The logger that is told of a failure: the given one, or else the default one, set up as the settings want it. -/
inductive Tells (loggers : Registry) : Option (String × Logger) → Except Failure Settings → String → Logger → Prop
  | given {settings : Except Failure Settings} (name : String) (logger : Logger) :
    Tells loggers (some (name, logger)) settings name logger
  | obtained (settings : Settings) :
    Tells loggers none (.ok settings) defaultLogger ((loggers defaultLogger).configure settings)

theorem exists_tells (h : given.isSome ∨ ∃ st, settings = .ok st) :
    ∃ name logger, Tells loggers given settings name logger := by
  rcases given with - | ⟨name, logger⟩
  · obtain ⟨st, rfl⟩ := h.resolve_left Bool.false_ne_true
    exact ⟨_, _, .obtained st⟩
  · exact ⟨_, _, .given name logger⟩

theorem forgives_iff : forgives f = true ↔ f.family = .io ∨ f.family = .value := by
  simp [forgives]

end Delivery

namespace Snapshot
open Delivery
variable {s : Snapshot} {ids : IdSet} {sink : Sink} {given : Option (String × Logger)} {loggers : Registry}
  {settings : Except Failure Settings} {name table : String} {logger : Logger} {f : Fault}

/-- A table that cannot be printed is not written. -/
theorem deliver_of_unprinted (hprint : s.table? ids = .error f) :
    s.deliver ids sink given loggers settings = ⟨[], [], some (.fault f)⟩ := by
  simp only [deliver, hprint]

section Printed
variable (hprint : s.table? ids = .ok table)
include hprint

theorem deliver_of_taken (h : sink (Utf8.encode table) = none) :
    s.deliver ids sink given loggers settings = ⟨[Utf8.encode table], [], none⟩ := by
  simp only [deliver, hprint, h]

theorem deliver_of_forgiven (h : sink (Utf8.encode table) = some f) (hf : forgives f = true)
    (htells : Tells loggers given settings name logger) :
    s.deliver ids sink given loggers settings = ⟨[Utf8.encode table], logger.emit [event name f], none⟩ := by
  cases htells with
  | given => simp only [deliver, hprint, h, if_pos hf]
  | obtained settings => simp only [deliver, hprint, h, if_pos hf, Registry.obtain, Registry.nameOf, defaultLogger]; rfl

theorem deliver_of_unforgiven (h : sink (Utf8.encode table) = some f) (hf : forgives f = false) :
    s.deliver ids sink given loggers settings = ⟨[Utf8.encode table], [], some (.fault f)⟩ := by
  simp only [deliver, hprint, h, hf, Bool.false_eq_true, if_false]

/-- A table that is printed is written once, whatever comes of it. -/
theorem deliver_writes : (s.deliver ids sink given loggers settings).writes = [Utf8.encode table] := by
  cases hsink : sink (Utf8.encode table) with
  | none => rw [deliver_of_taken hprint hsink]
  | some f =>
    cases hf : forgives f with
    | false => rw [deliver_of_unforgiven hprint hsink hf]
    | true =>
      simp only [deliver, hprint, hsink, if_pos hf]
      rcases given with - | ⟨name, logger⟩
      · cases settings <;> rfl
      · rfl

end Printed
end Snapshot

/-- Where a logger is given or the settings pass. If the years of all tasks are short enough to be printed, the sink is
    asked for one write, of the table in UTF-8. If it takes the bytes, nothing is logged and nothing comes out. If it
    fails for input and output or for a value, nothing comes out, and one error with the fault goes to the logger that
    is told of it, which lets it pass if its level is not higher. Any other fault comes out, and nothing is logged. If
    a year is too long, the sink is not asked, nothing is logged and the fault of the number comes out. No year is too
    long where no start time is. -/
theorem Snapshot.deliver_outcome (s : Snapshot) (ids : IdSet) (sink : Sink) (given : Option (String × Logger))
    (loggers : Registry) (settings : Except Failure Settings) (h : given.isSome ∨ ∃ st, settings = .ok st) :
    let bytes := Utf8.encode (s.table ids)
    let d := s.deliver ids sink given loggers settings
    (s.ShortYears →
      d.writes = [bytes] ∧ Utf8.decode bytes = .ok (s.table ids).toList ∧
      (sink bytes = none → d.logged = [] ∧ d.raised = none) ∧
      (∀ f, sink bytes = some f → f.family = .io ∨ f.family = .value → d.raised = none ∧
        ∃ name logger, Delivery.Tells loggers given settings name logger ∧
          d.logged = if logger.level ≤ Level.error.number then
            [⟨.error, name, "Failed to write output stream.", some f⟩] else []) ∧
      ∀ f, sink bytes = some f → f.family ≠ .io → f.family ≠ .value → d.logged = [] ∧ d.raised = some (.fault f)) ∧
    (¬s.ShortYears → d.writes = [] ∧ d.logged = [] ∧ d.raised = some (.fault .tooManyDigits)) ∧
    ((∀ r ∈ s.active ++ s.completed, r.startMs.natAbs < 10 ^ Numeral.maxDigits) → s.ShortYears) := by
  intro bytes d
  refine ⟨fun hyears => ?_, fun hyears => ?_, shortYears_of_short⟩
  · have hprint : s.table? ids = .ok (s.table ids) := table?_of_short hyears
    have hdecode : Utf8.decode bytes = .ok (s.table ids).toList :=
      Utf8.decode_eq_ok_iff.mpr (by rw [String.ofList_toList])
    refine ⟨deliver_writes hprint, hdecode, fun hsink => ?_, fun f hsink hf => ?_, fun f hsink hio hvalue => ?_⟩
    · have hd : d = ⟨[bytes], [], none⟩ := deliver_of_taken hprint hsink
      exact ⟨by rw [hd], by rw [hd]⟩
    · obtain ⟨name, logger, htells⟩ : ∃ name logger, Delivery.Tells loggers given settings name logger :=
        Delivery.exists_tells h
      have hd : d = ⟨[bytes], logger.emit [Delivery.event name f], none⟩ :=
        deliver_of_forgiven hprint hsink (Delivery.forgives_iff.mpr hf) htells
      exact ⟨by rw [hd], name, logger, htells, by rw [hd, logger.emit_singleton]; rfl⟩
    · have hforgives : Delivery.forgives f = false :=
        Bool.eq_false_iff.mpr fun hf => (Delivery.forgives_iff.mp hf).elim hio hvalue
      have hd : d = ⟨[bytes], [], some (.fault f)⟩ := deliver_of_unforgiven hprint hsink hforgives
      exact ⟨by rw [hd], by rw [hd]⟩
  · have hd : d = ⟨[], [], some (.fault .tooManyDigits)⟩ := deliver_of_unprinted (table?_of_not_short hyears)
    exact ⟨by rw [hd], by rw [hd], by rw [hd]⟩

/-- A pipe that breaks while no logger is given and only errors are to be logged. -/
theorem Snapshot.deliver_outcome_broken_pipe :
    let s : Snapshot := ⟨[⟨default, "/é", "c", 5⟩], []⟩
    let f := Fault.named "BrokenPipeError" "Broken pipe"
    let settings : Except Failure Settings := .ok { logLevel := .error }
    let d := s.deliver ∅ (.failing f) none .fresh settings
    ((none : Option (String × Logger)).isSome ∨ ∃ st, settings = .ok st) ∧ s.ShortYears ∧
      d.writes = [Utf8.encode (s.table ∅)] ∧ d.raised = none ∧
      d.logged = [⟨.error, "taskstate.state", "Failed to write output stream.", some f⟩] := by
  intro s f settings d
  have hsettings : (none : Option (String × Logger)).isSome ∨ ∃ st, settings = .ok st := .inr ⟨_, rfl⟩
  have hstart : ∀ r ∈ s.active ++ s.completed, r.startMs.natAbs < 10 ^ Numeral.maxDigits :=
    List.forall_mem_singleton.mpr (Numeral.lt_pow_maxDigits (by decide))
  obtain ⟨hprinted, -, hyears⟩ := s.deliver_outcome ∅ (.failing f) none .fresh settings hsettings
  obtain ⟨hwrites, -, -, hforgiven, -⟩ := hprinted (hyears hstart)
  obtain ⟨hraised, name, logger, htells, hlogged⟩ := hforgiven f rfl (.inl (by decide))
  change Delivery.Tells .fresh none (.ok { logLevel := .error }) name logger at htells
  cases htells
  exact ⟨hsettings, hyears hstart, hwrites, hraised, hlogged⟩

/-- A task that starts too late for its year to be printed. A sink that would take every table is not asked. -/
theorem Snapshot.deliver_long_year :
    let s : Snapshot := ⟨[⟨default, "/a", "c", 10 ^ 4400⟩], []⟩
    let d := s.deliver ∅ .willing none .fresh (.ok {})
    d.writes = [] ∧ d.logged = [] ∧ d.raised = some (.fault .tooManyDigits) := by
  intro s d
  have hyears : ¬s.ShortYears := not_shortYears_of_long (k := 4400) (by decide) List.mem_cons_self rfl
  have hd : d = ⟨[], [], some (.fault .tooManyDigits)⟩ := deliver_of_unprinted (table?_of_not_short hyears)
  exact ⟨by rw [hd], by rw [hd], by rw [hd]⟩

end Taskboard
