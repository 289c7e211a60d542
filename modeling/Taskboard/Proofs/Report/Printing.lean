import Taskboard.Proofs.Calendar.StartTime
import Taskboard.Proofs.Json.Short
import Taskboard.Report.Document
import Taskboard.Report.Table

/-! Where the reports are printed. The document is where the start times of the chosen tasks are not too long, and the
    table where the years of all tasks are not. Both are where no start time is too long (`shortYears_of_short`), and
    none is that was read from a file (`short_of_ofText`). -/

namespace Taskboard
open Json Numeral

/-! ### Snapshots with short start times -/

namespace Snapshot
variable {s : Snapshot} {ids : IdSet} {version : Nat}

/-- No start time of a chosen task is too long. -/
def ShortStarts (s : Snapshot) (ids : IdSet) : Prop :=
  ∀ r ∈ s.active ++ s.completed, ids.chooses r = true → r.startMs.natAbs < 10 ^ maxDigits

/-- No year in which a task started is too long. -/
def ShortYears (s : Snapshot) : Prop :=
  ∀ r ∈ s.active ++ s.completed, (Moment.ofMillis r.startMs).date.year.natAbs < 10 ^ maxDigits

/-- The report that is asked for can be printed, as JSON or as a table. -/
def Printable (s : Snapshot) (asJson : Bool) (ids : IdSet) : Prop := if asJson then s.ShortStarts ids else s.ShortYears

theorem printsStarts_iff : s.printsStarts ids = true ↔ s.ShortStarts ids := by
  simp only [printsStarts, ← List.filter_append, List.all_eq_true, List.mem_filter, prints_iff, and_imp]
  rfl

theorem printsYears_iff : s.printsYears = true ↔ s.ShortYears := by
  simp only [printsYears, List.all_eq_true, startTime?, Fault.isOk_printing, Moment.printsYear, prints_iff]
  rfl

section Short
variable (h : ∀ r ∈ s.active ++ s.completed, r.startMs.natAbs < 10 ^ maxDigits)
include h

theorem shortStarts_of_short (ids : IdSet) : s.ShortStarts ids := fun r hr _ => h r hr

theorem shortYears_of_short : s.ShortYears := fun r hr =>
  Moment.natAbs_year_lt _ (lt_pow_maxDigits (by decide)).le (h r hr)

theorem printable_of_short (asJson : Bool) (ids : IdSet) : s.Printable asJson ids := by
  cases asJson with
  | true => exact shortStarts_of_short h ids
  | false => exact shortYears_of_short h

end Short

section Long
variable {k : Nat} {r : Record} (hk : 11 + maxDigits ≤ k) (hr : r ∈ s.active ++ s.completed) (hstart : r.startMs = 10 ^ k)
include hk

theorem mul_pow_maxDigits_le : 10 ^ 11 * 10 ^ maxDigits ≤ 10 ^ k := by
  rw [← Nat.pow_add]
  exact Nat.pow_le_pow_right (by decide) hk

include hr hstart

theorem not_shortStarts_of_long (hchosen : ids.chooses r = true) : ¬s.ShortStarts ids := by
  intro hstarts
  have hshort := hstarts r hr hchosen
  rw [hstart, Int.natAbs_pow, show (10 : Int).natAbs = 10 from rfl] at hshort
  have hlt : k < maxDigits := (Nat.pow_lt_pow_iff_right (by decide)).mp hshort
  omega

theorem not_shortYears_of_long : ¬s.ShortYears := by
  intro hyears
  have hshort := hyears r hr
  rw [hstart] at hshort
  have hlong : ((10 ^ maxDigits : Nat) : Int) ≤ (Moment.ofMillis (10 ^ k)).date.year :=
    Moment.le_year _ (by exact_mod_cast mul_pow_maxDigits_le hk)
  omega

theorem not_printable_of_long (hchosen : ids.chooses r = true) (asJson : Bool) : ¬s.Printable asJson ids := by
  cases asJson with
  | true => exact not_shortStarts_of_long hk hr hstart hchosen
  | false => exact not_shortYears_of_long hk hr hstart

end Long

/-! ### Reports that are printed -/

theorem document?_of_short (h : s.ShortStarts ids) : s.document? version ids = .ok (s.json version ids) :=
  Fault.printing_eq_ok_iff.mpr ⟨printsStarts_iff.mpr h, rfl⟩

theorem widths?_of_short (h : s.ShortYears) : s.widths? = .ok s.widths :=
  Fault.printing_eq_ok_iff.mpr ⟨printsYears_iff.mpr h, rfl⟩

theorem table?_of_short (h : s.ShortYears) : s.table? ids = .ok (s.table ids) := by
  rw [table?, widths?_of_short h]
  rfl

theorem document?_of_not_short (h : ¬s.ShortStarts ids) : s.document? version ids = .error .tooManyDigits := by
  rw [document?, Fault.printing, if_neg (mt printsStarts_iff.mp h)]

theorem widths?_of_not_short (h : ¬s.ShortYears) : s.widths? = .error .tooManyDigits := by
  rw [widths?, Fault.printing, if_neg (mt printsYears_iff.mp h)]

theorem table?_of_not_short (h : ¬s.ShortYears) : s.table? ids = .error .tooManyDigits := by
  rw [table?, widths?_of_not_short h]
  rfl

theorem json?_int (h : s.ShortStarts ids) (version : Nat) : s.json? (.int version) ids = .ok (s.json version ids) := by
  rw [json?, if_pos (printsStarts_iff.mpr h)]
  rfl

end Snapshot

/-! ### Snapshots that are read -/

/-- The records that are written in a list of a snapshot. -/
def Snapshot.listed (v : Value) (key : String) : List Value :=
  match v.member? key with
  | some (.array items) => items
  | _ => []

theorem Snapshot.forall₂_listed {members : List (String × Value)} {key : String} {records : List Record}
    (h : fieldOr [] members key (fun v => do Checked.list Record.ofValue (← v.items)) = .ok records) :
    List.Forall₂ (fun v r => Record.ofValue v = .ok r) (Snapshot.listed (.object members) key) records := by
  rcases fieldOr_eq_ok_iff.mp h with ⟨hlookup, rfl⟩ | ⟨v, hlookup, h⟩
  · rw [listed, Value.member?, hlookup]
    exact .nil
  · cases v with
    | array items =>
      rw [listed, Value.member?, hlookup]
      exact Checked.list_eq_ok_iff.mp h
    | _ => cases h

theorem Snapshot.read_of_ofText {file : List Char} {s : Snapshot} (h : Snapshot.ofText file = .ok s) :
    ∃ v, Json.read maxDepth file = some v ∧
      List.Forall₂ (fun v r => Record.ofValue v = .ok r) (listed v "active" ++ listed v "completed")
        (s.active ++ s.completed) := by
  unfold ofText at h
  split at h
  next v hread =>
    refine ⟨v, hread, ?_⟩
    cases v with
    | object members =>
      obtain ⟨p, hp, rfl⟩ := Checked.map_eq_ok_iff.mp h
      obtain ⟨hactive, hcompleted⟩ := Checked.both_eq_ok_iff.mp hp
      exact List.rel_append (forall₂_listed hactive) (forall₂_listed hcompleted)
    | _ => cases h
  next => cases h

theorem Snapshot.short_listed {v : Value} (hv : v.Short) (key : String) : ∀ w ∈ listed v key, w.Short := by
  unfold listed
  split
  next items hmember =>
    cases v with
    | object members =>
      cases hv.lookup hmember with
      | array hitems => exact hitems
    | _ => cases hmember
  · exact List.forall_mem_nil _

theorem Record.short_of_ofValue {v : Value} {r : Record} (hv : v.Short) (h : ofValue v = .ok r) :
    r.startMs.natAbs < 10 ^ maxDigits := by
  cases v with
  | object members =>
    obtain ⟨p, hp, rfl⟩ := Checked.map_eq_ok_iff.mp h
    have htexts := Checked.both_eq_ok_iff.mp (Checked.both_eq_ok_iff.mp hp).2
    obtain ⟨w, hlookup, hint⟩ := field_eq_ok_iff.mp (Checked.both_eq_ok_iff.mp htexts.2).2
    exact (hv.lookup hlookup).natAbs_lt_of_asInt hint
  | _ => cases h

/-- No start time in a snapshot that is read is too long: a text has no longer number in it. -/
theorem Snapshot.short_of_ofText {file : List Char} {s : Snapshot} (h : ofText file = .ok s) :
    ∀ r ∈ s.active ++ s.completed, r.startMs.natAbs < 10 ^ maxDigits := by
  obtain ⟨v, hread, hlists⟩ := read_of_ofText h
  have hv := short_of_read hread
  intro r hr
  obtain ⟨i, hi, rfl⟩ := List.getElem_of_mem hr
  have hi' : i < (listed v "active" ++ listed v "completed").length := hlists.length_eq ▸ hi
  have hshort : ∀ w ∈ listed v "active" ++ listed v "completed", w.Short :=
    List.forall_mem_append.mpr ⟨short_listed hv _, short_listed hv _⟩
  exact Record.short_of_ofValue (hshort _ (List.getElem_mem hi')) (hlists.get hi' hi)

end Taskboard
