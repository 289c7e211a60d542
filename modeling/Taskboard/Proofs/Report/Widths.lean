import Mathlib.Data.List.Forall2
import Mathlib.Order.Bounds.Basic
import Taskboard.Proofs.Store.History
import Taskboard.Report.Table

/-! How wide the columns are. A column is two wider than the widest of its cells, or than its least width if that is
    more. So the widths say nothing of order, number and status of the tasks: they are those of a set of records, and
    finishing a task does not move the columns (`Snapshot.widths_greatest`). -/

namespace Taskboard

/-- A column of the table. -/
inductive Column where
  | id
  | client
  | start
  | status
  | url
deriving DecidableEq

namespace Columns
variable {α β γ : Type}

/-- What is there for a column. -/
def get (c : Columns α) : Column → α
  | .id => c.id
  | .client => c.client
  | .start => c.start
  | .status => c.status
  | .url => c.url

@[simp] theorem get_map (f : α → β) (c : Columns α) (col : Column) : (c.map f).get col = f (c.get col) := by
  cases col <;> rfl

@[simp] theorem get_zipWith (f : α → β → γ) (c : Columns α) (d : Columns β) (col : Column) :
    (c.zipWith f d).get col = f (c.get col) (d.get col) := by
  cases col <;> rfl

theorem eq_of_get {c d : Columns α} (h : ∀ col, c.get col = d.get col) : c = d := by
  cases c
  cases d
  simpa [get] using And.intro (h .id) ⟨h .client, h .start, h .status, h .url⟩

theorem forall₂_toList_iff {R : α → β → Prop} {c : Columns α} {d : Columns β} :
    List.Forall₂ R c.toList d.toList ↔ ∀ col, R (c.get col) (d.get col) := by
  simp only [toList, List.forall₂_cons, List.Forall₂.nil, and_true]
  constructor
  · rintro ⟨hid, hclient, hstart, hstatus, hurl⟩ (_ | _ | _ | _ | _) <;> assumption
  · exact fun h => ⟨h .id, h .client, h .start, h .status, h .url⟩

end Columns

/-! ### The least upper bound -/

namespace Table

/-- Widths that leave room for a further task. -/
def widen (widths : Columns Nat) (row : Status × Record) : Columns Nat :=
  widths.zipWith max ((cells row.1 row.2).map Text.width)

theorem widths_eq (s : Snapshot) : s.widths = (s.rows.foldl widen leastWidths).map (· + gap) := rfl

/-- The width of the cell that a task has in a column. -/
def cellWidth (col : Column) (row : Status × Record) : Nat := Text.width ((cells row.1 row.2).get col)

section CellWidth
variable {w : Columns Nat} {rows : List (Status × Record)} {col : Column} {n : Nat}

theorem get_widen (w : Columns Nat) (row : Status × Record) (col : Column) :
    (widen w row).get col = max (w.get col) (cellWidth col row) := by
  rw [widen, Columns.get_zipWith, Columns.get_map, cellWidth]

theorem get_foldl_widen_le_iff :
    (rows.foldl widen w).get col ≤ n ↔ w.get col ≤ n ∧ ∀ row ∈ rows, cellWidth col row ≤ n := by
  induction rows generalizing w with
  | nil => simp
  | cons row rows ih =>
    rw [List.foldl_cons, ih, get_widen, Nat.max_le, List.forall_mem_cons, and_assoc]

theorem width_label_le (status : Status) : Text.width status.label ≤ 10 := by
  cases status <;> decide

/-- Where the least width of a column has room, the status of a task does not matter. -/
theorem cellWidth_le_iff (h : leastWidths.get col ≤ n) (status status' : Status) (r : Record) :
    cellWidth col (status, r) ≤ n ↔ cellWidth col (status', r) ≤ n := by
  cases col with
  -- The labels of both statuses are narrower than the least width of their column.
  | status => exact iff_of_true ((width_label_le status).trans h) ((width_label_le status').trans h)
  | id => exact Iff.rfl
  | client => exact Iff.rfl
  | start => exact Iff.rfl
  | url => exact Iff.rfl

end CellWidth

end Table

namespace Snapshot
open Table (cellWidth leastWidths)
variable {s t : Snapshot} {row : Status × Record} {col : Column} {n : Nat}

/-- How wide the columns would be without the blanks between them. -/
def breadths (s : Snapshot) : Columns Nat := s.rows.foldl Table.widen leastWidths

theorem get_widths (s : Snapshot) (col : Column) : s.widths.get col = s.breadths.get col + 2 := by
  rw [Table.widths_eq, Columns.get_map]
  rfl

theorem breadths_le_iff :
    s.breadths.get col ≤ n ↔ leastWidths.get col ≤ n ∧ ∀ row ∈ s.rows, cellWidth col row ≤ n :=
  Table.get_foldl_widen_le_iff

/-! A column has room for its least width and for each of its cells, and two blanks besides. -/

theorem leastWidths_add_two_le (s : Snapshot) (col : Column) : leastWidths.get col + 2 ≤ s.widths.get col := by
  rw [get_widths]
  exact Nat.add_le_add_right (breadths_le_iff.mp (Nat.le_refl _)).1 2

theorem cellWidth_add_two_le (h : row ∈ s.rows) (col : Column) : cellWidth col row + 2 ≤ s.widths.get col := by
  rw [get_widths]
  exact Nat.add_le_add_right ((breadths_le_iff.mp (Nat.le_refl _)).2 row h) 2

/-- The least upper bound is one of the widths. -/
theorem isGreatest_breadths (s : Snapshot) (col : Column) :
    IsGreatest ({leastWidths.get col} ∪ {m | ∃ row ∈ s.rows, cellWidth col row = m}) (s.breadths.get col) := by
  obtain ⟨hleast, hcells⟩ := breadths_le_iff.mp (Nat.le_refl (s.breadths.get col))
  constructor
  · by_contra hnot
    rw [Set.mem_union, Set.mem_singleton_iff, not_or] at hnot
    obtain ⟨hne, hcell⟩ := hnot
    -- If every width were less, something less would be a bound for all of them.
    have hlower : s.breadths.get col ≤ s.breadths.get col - 1 := by
      refine breadths_le_iff.mpr ⟨by omega, fun row hrow => ?_⟩
      have hle := hcells row hrow
      have hne' : cellWidth col row ≠ s.breadths.get col := fun heq => hcell ⟨row, hrow, heq⟩
      omega
    omega
  · rintro m (rfl | ⟨row, hrow, rfl⟩)
    · exact hleast
    · exact hcells row hrow

theorem widths_eq_of_bounds {w : Columns Nat} (h : ∀ col n, s.breadths.get col ≤ n ↔ w.get col ≤ n) :
    s.widths = w.map (· + 2) :=
  Columns.eq_of_get fun col => by rw [get_widths, Columns.get_map, eq_of_forall_ge_iff (h col)]

theorem mem_rows :
    row ∈ s.rows ↔ row.1 = .active ∧ row.2 ∈ s.active ∨ row.1 = .completed ∧ row.2 ∈ s.completed := by
  obtain ⟨status, r⟩ := row
  simp [rows_eq, and_comm, eq_comm]

theorem mem_of_mem_rows (h : row ∈ s.rows) : row.2 ∈ s.active ++ s.completed :=
  List.mem_append.mpr ((mem_rows.mp h).imp And.right And.right)

/-- Only the records count, whatever their status. -/
theorem breadths_le_iff_records : s.breadths.get col ≤ n ↔
    leastWidths.get col ≤ n ∧ ∀ r, r ∈ s.active ∨ r ∈ s.completed → cellWidth col (.active, r) ≤ n := by
  rw [breadths_le_iff]
  refine and_congr_right fun hleast => ⟨fun h r hr => ?_, fun h row hrow => ?_⟩
  · rcases hr with hr | hr
    · exact h (.active, r) (mem_rows.mpr (.inl ⟨rfl, hr⟩))
    · exact (Table.cellWidth_le_iff hleast _ _ r).mp (h (.completed, r) (mem_rows.mpr (.inr ⟨rfl, hr⟩)))
  · obtain ⟨status, r⟩ := row
    have hr := (mem_rows.mp hrow).imp And.right And.right
    exact (Table.cellWidth_le_iff hleast _ _ r).mp (h r hr)

/-- Snapshots of the same records have columns of the same widths. -/
theorem widths_congr (h : ∀ r, (r ∈ s.active ∨ r ∈ s.completed) ↔ (r ∈ t.active ∨ r ∈ t.completed)) :
    s.widths = t.widths :=
  widths_eq_of_bounds (w := t.breadths) fun col n => by simp only [breadths_le_iff_records, h]

/-- Two snapshots in one: the running tasks of both, and the finished ones of both. -/
def merge (s t : Snapshot) : Snapshot := ⟨s.active ++ t.active, s.completed ++ t.completed⟩

theorem widths_merge (s t : Snapshot) : (s.merge t).widths = s.widths.zipWith max t.widths := by
  have hrows (row : Status × Record) : row ∈ (s.merge t).rows ↔ row ∈ s.rows ∨ row ∈ t.rows := by
    simp only [mem_rows, merge, List.mem_append]
    tauto
  have hbounds : (s.merge t).widths = (s.breadths.zipWith max t.breadths).map (· + 2) := by
    refine widths_eq_of_bounds fun col n => ?_
    simp only [Columns.get_zipWith, Nat.max_le, breadths_le_iff, hrows, or_imp, forall_and]
    tauto
  rw [hbounds]
  refine Columns.eq_of_get fun col => ?_
  rw [Columns.get_map, Columns.get_zipWith, Columns.get_zipWith, get_widths, get_widths, Nat.add_max_add_right]

theorem status_widths (s : Snapshot) : s.widths.status = 12 := by
  have hleast : s.breadths.get .status ≤ 10 :=
    breadths_le_iff.mpr ⟨Nat.le_refl 10, fun row _ => Table.width_label_le row.1⟩
  have hwidth := s.get_widths .status
  have hroom : 12 ≤ s.widths.get .status := s.leastWidths_add_two_le .status
  show s.widths.get .status = 12
  omega

end Snapshot

end Taskboard
