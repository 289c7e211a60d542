import Taskboard.Proofs.Report.Widths
import Taskboard.Proofs.Text.Trim
import Taskboard.Proofs.Text.Width
import Taskboard.Proofs.Uuid.Text

/-! The table says what it shows. Nothing stands between the cells of a line, and a cell may hold blanks and line
    feeds; but the header says how wide the columns are, and the widths say where each cell ends. So two tables are
    the same text exactly if their columns are equally wide and their lines show the same (`Snapshot.table_eq_iff`). -/

namespace Taskboard

/-! ### What a line shows -/

/-- A cell without the blanks at its end. -/
def Table.bare (cell : String) : String := String.ofList (Text.trimEnd (· == ' ') cell.toList)

/-- What a line shows of a task. -/
structure Table.Row where
  id : Uuid
  client : String
  start : String
  status : String
  url : String
deriving DecidableEq

/-- The line of a task. -/
def Table.row (status : Status) (r : Record) : Table.Row :=
  ⟨r.id, Table.bare r.clientIdentity, startTime r.startMs, status.label, Table.bare r.requestUrl⟩

/-- The lines of the tasks that a filter chooses. -/
def Snapshot.lines (s : Snapshot) (ids : IdSet) : List Table.Row :=
  (s.rows.filter fun (_, r) => ids.chooses r).map fun (status, r) => Table.row status r

/-- The cells of the tasks that a filter chooses. -/
def Snapshot.shown (s : Snapshot) (ids : IdSet) : List (Columns String) :=
  (s.rows.filter fun (_, r) => ids.chooses r).map fun (status, r) => Table.cells status r

theorem Columns.toList_injective {α : Type} : Function.Injective (@Columns.toList α) := by
  rintro ⟨_, _, _, _, _⟩ ⟨_, _, _, _, _⟩ h
  simpa [Columns.toList] using h

namespace Table
open Text.width (widthOf)

/-! ### One cell -/

section Cell
variable {w : Nat} {c d : String} {x y : List Char}

theorem toList_bare (c : String) : (bare c).toList = Text.trimEnd (· == ' ') c.toList := String.toList_ofList

/-- A cell and the blanks behind it. -/
theorem toList_pad (w : Nat) (c : String) :
    (pad (w : Int) c).toList = c.toList ++ List.replicate (w - Text.width c) ' ' := by
  rw [pad, String.toList_append, String.toList_ofList, Int.toNat_sub]

/-- A cell that is not too wide takes the width of its column. -/
theorem widthOf_pad (h : Text.width c ≤ w) : widthOf (pad (w : Int) c).toList = w := by
  rw [toList_pad, Text.widthOf_append, Text.widthOf_replicate_blank]
  exact Nat.add_sub_cancel' h

/-- In its column a cell looks as it does without the blanks at its end. -/
theorem pad_bare (h : Text.width c ≤ w) : pad (w : Int) c = pad (w : Int) (bare c) := by
  obtain ⟨n, hn⟩ := Text.exists_eq_trimEnd_append ' ' c.toList
  rw [← toList_bare] at hn
  have hwidth : Text.width c = Text.width (bare c) + n := by
    rw [Text.width, hn, Text.widthOf_append, Text.widthOf_replicate_blank, Text.width]
  have hblanks : w - Text.width (bare c) = n + (w - Text.width c) := by omega
  refine String.toList_inj.mp ?_
  rw [toList_pad, toList_pad, hblanks, ← List.replicate_append_replicate, ← List.append_assoc, ← hn]

/-- What a cell shows can be told from its column. -/
theorem bare_pad (w : Nat) (c : String) : bare (pad (w : Int) c) = bare c := by
  rw [bare, toList_pad, Text.trimEnd_append_replicate (by decide), bare]

theorem pad_eq_iff (hc : Text.width c ≤ w) (hd : Text.width d ≤ w) :
    pad (w : Int) c = pad (w : Int) d ↔ bare c = bare d := by
  constructor
  · intro h
    rw [← bare_pad w c, h, bare_pad]
  · intro h
    rw [pad_bare hc, pad_bare hd, h]

end Cell

/-! ### One line -/

/-- Cells that are not too wide for their columns. -/
abbrev Fit (ws : List Nat) (cs : List String) : Prop := List.Forall₂ (fun w c => Text.width c ≤ w) ws cs

/-- Cells one after the other, each filled up to its width. -/
def filled (ws : List Nat) (cs : List String) : List Char := (ws.zip cs).flatMap fun (w, c) => (pad (w : Int) c).toList

section Line
variable {ws vs : List Nat} {cs ds titles : List String} {x y : List Char}

theorem filled_cons (w : Nat) (ws : List Nat) (c : String) (cs : List String) :
    filled (w :: ws) (c :: cs) = (pad (w : Int) c).toList ++ filled ws cs := rfl

theorem toList_line (widths : Columns Nat) (cells : Columns String) :
    (line widths cells).toList = '\n' :: filled widths.toList cells.toList := by
  rw [line, String.toList_append, String.toList_join]
  rfl

/-- Equally wide cells that are the same text show the same, and so does what follows. -/
theorem filled_append_inj (hc : Fit ws cs) (hd : Fit ws ds) (h : filled ws cs ++ x = filled ws ds ++ y) :
    cs.map bare = ds.map bare ∧ x = y := by
  induction hc generalizing ds with
  | nil =>
    cases hd
    exact ⟨rfl, h⟩
  | cons hc _ ih =>
    cases hd with
    | cons hd hds =>
      rw [filled_cons, filled_cons, List.append_assoc, List.append_assoc] at h
      obtain ⟨hcell, hrest⟩ := Text.append_inj_of_widthOf h (by rw [widthOf_pad hc, widthOf_pad hd])
      obtain ⟨hcells, hxy⟩ := ih hds hrest
      rw [List.map_cons, List.map_cons, (pad_eq_iff hc hd).mp (String.toList_inj.mp hcell), hcells]
      exact ⟨rfl, hxy⟩

/-- Cells that show the same are the same text in equally wide columns. -/
theorem filled_congr (hc : Fit ws cs) (hd : Fit ws ds) (h : cs.map bare = ds.map bare) :
    filled ws cs = filled ws ds := by
  induction hc generalizing ds with
  | nil =>
    cases hd
    rfl
  | cons hc _ ih =>
    cases hd with
    | cons hd hds =>
      obtain ⟨hcell, hcells⟩ := List.cons.inj h
      rw [filled_cons, filled_cons, (pad_eq_iff hc hd).mpr hcell, ih hds hcells]

/-- A title, which no blank stands before. -/
def IsTitle (t : String) : Prop := ∃ c cs, t.toList = c :: cs ∧ c ≠ ' '

/-- Titles do not begin with a blank, whatever their widths. -/
theorem head?_filled_ne (ht : ∀ t ∈ titles, IsTitle t) (ws : List Nat) (hx : x.head? ≠ some ' ') :
    (filled ws titles ++ x).head? ≠ some ' ' := by
  cases ws with
  | nil => exact hx
  | cons w ws =>
    cases titles with
    | nil => exact hx
    | cons t titles =>
      obtain ⟨c, cs, hcons, hc⟩ := ht t List.mem_cons_self
      rw [filled_cons, toList_pad, hcons]
      exact fun h => hc (Option.some.inj h)

/-- The titles say how wide their columns are. -/
theorem filled_titles_inj (ht : ∀ t ∈ titles, IsTitle t) (hws : Fit ws titles) (hvs : Fit vs titles)
    (hx : x.head? ≠ some ' ') (hy : y.head? ≠ some ' ') (h : filled ws titles ++ x = filled vs titles ++ y) :
    ws = vs ∧ x = y := by
  induction hws generalizing vs with
  | nil =>
    cases hvs
    exact ⟨rfl, h⟩
  | @cons w t ws titles hw _ ih =>
    cases hvs with
    | @cons v _ vs _ hv hvs =>
      have ht' : ∀ t ∈ titles, IsTitle t := fun u hu => ht u (List.mem_cons_of_mem t hu)
      rw [filled_cons, filled_cons, toList_pad, toList_pad, List.append_assoc, List.append_assoc, List.append_assoc,
        List.append_assoc] at h
      -- The blanks behind a title end where the next title begins, and there are more of them in a wider column.
      obtain ⟨hblanks, hrest⟩ := Text.replicate_blank_inj (List.append_cancel_left h) (head?_filled_ne ht' ws hx)
        (head?_filled_ne ht' vs hy)
      obtain ⟨rfl, hxy⟩ := ih ht' hvs hrest
      obtain rfl : w = v := by omega
      exact ⟨rfl, hxy⟩

end Line

/-! ### The widths of the columns -/

theorem fit_iff {w : Columns Nat} {c : Columns String} :
    Fit w.toList c.toList ↔ ∀ col, Text.width (c.get col) ≤ w.get col :=
  Columns.forall₂_toList_iff

/-- The least width of a column is that of its title or more. -/
theorem width_header_le (col : Column) : Text.width (header.get col) ≤ leastWidths.get col := by
  cases col <;> decide

/-- Every column has room for its title. -/
theorem fit_header (s : Snapshot) : Fit s.widths.toList header.toList :=
  fit_iff.mpr fun col => (width_header_le col).trans (Nat.le_of_add_right_le (s.leastWidths_add_two_le col))

/-- Every column has room for the cells of every task. -/
theorem fit_cells {s : Snapshot} {row : Status × Record} (h : row ∈ s.rows) :
    Fit s.widths.toList (cells row.1 row.2).toList :=
  fit_iff.mpr fun col => Nat.le_of_add_right_le (s.cellWidth_add_two_le h col)

/-! ### All lines -/

/-- A text without blanks is its own bare form. -/
theorem bare_of_not_mem {s : String} (h : ' ' ∉ s.toList) : bare s = s := by
  have htrim : Text.trimEnd (· == ' ') s.toList = s.toList :=
    Text.trimEnd_eq_self fun c hc => beq_false_of_ne (ne_of_mem_of_not_mem hc h)
  rw [bare, htrim, String.ofList_toList]

theorem bare_id (u : Uuid) : bare u.text = u.text :=
  bare_of_not_mem fun h => Uuid.ne_of_mem_text u h (by decide) (by decide) rfl

theorem bare_label (status : Status) : bare status.label = status.label := by
  cases status <;> exact bare_of_not_mem (by decide)

/-- A start time ends in the name of its time zone. -/
theorem bare_startTime (ms : Int) : bare (startTime ms) = startTime ms := by
  obtain ⟨s, hs⟩ : ∃ s, (startTime ms).toList = s ++ ['C'] := by
    rw [startTime, Moment.text, String.toList_ofList, Moment.chars, show " UTC".toList = " UT".toList ++ ['C'] from rfl,
      ← List.append_assoc]
    exact ⟨_, rfl⟩
  rw [bare, hs, Text.trimEnd_concat (by decide), ← hs, String.ofList_toList]

namespace Row

/-- The cells that show a line. -/
def cells (row : Row) : Columns String := ⟨row.id.text, row.client, row.start, row.status, row.url⟩

theorem cells_injective : Function.Injective cells := by
  intro row row' h
  obtain ⟨id, client, start, status, url⟩ := row
  obtain ⟨id', client', start', status', url'⟩ := row'
  obtain ⟨hid, hrest⟩ := Columns.mk.inj h
  obtain rfl := Uuid.text_injective hid
  obtain ⟨rfl, rfl, rfl, rfl⟩ := hrest
  rfl

end Row

/-- Without the blanks at their ends, the cells of a task are those of its line. -/
theorem map_bare_cells (status : Status) (r : Record) : (cells status r).map bare = (row status r).cells := by
  simp only [Columns.map, cells, row, Row.cells, bare_id, bare_startTime, bare_label]

section Lines
variable {w : Columns Nat} {cs ds : List (Columns String)}

/-- Lines below the header. -/
def body (w : Columns Nat) (cs : List (Columns String)) : List Char := cs.flatMap fun c => (line w c).toList

theorem body_cons (w : Columns Nat) (c : Columns String) (cs : List (Columns String)) :
    body w (c :: cs) = '\n' :: (filled w.toList c.toList ++ body w cs) := by
  rw [body, List.flatMap_cons, toList_line]
  rfl

theorem toList_table (s : Snapshot) (ids : IdSet) :
    (s.table ids).toList = '\n' :: (filled s.widths.toList header.toList ++ body s.widths (s.shown ids)) := by
  rw [Snapshot.table, String.toList_join, List.flatMap_map, List.flatMap_cons, toList_line]
  rfl

/-- Equally wide lines are the same text exactly if they show the same. -/
theorem body_eq_iff (hc : ∀ c ∈ cs, Fit w.toList c.toList) (hd : ∀ d ∈ ds, Fit w.toList d.toList) :
    body w cs = body w ds ↔ cs.map (Columns.map bare) = ds.map (Columns.map bare) := by
  induction cs generalizing ds with
  | nil =>
    cases ds with
    | nil => exact ⟨fun _ => rfl, fun _ => rfl⟩
    | cons d ds => exact iff_of_false (body_cons w d ds ▸ (List.cons_ne_nil _ _).symm) (List.cons_ne_nil _ _).symm
  | cons c cs ih =>
    cases ds with
    | nil => exact iff_of_false (body_cons w c cs ▸ List.cons_ne_nil _ _) (List.cons_ne_nil _ _)
    | cons d ds =>
      have hfit := hc c List.mem_cons_self
      have hfit' := hd d List.mem_cons_self
      have hrest := ih (fun x hx => hc x (List.mem_cons_of_mem c hx)) fun x hx => hd x (List.mem_cons_of_mem d hx)
      rw [body_cons, body_cons, List.map_cons, List.map_cons]
      constructor
      · intro h
        obtain ⟨hcells, hbody⟩ := filled_append_inj hfit hfit' (List.cons.inj h).2
        rw [Columns.toList_injective (show (c.map bare).toList = (d.map bare).toList from hcells), hrest.mp hbody]
      · intro h
        obtain ⟨hcells, hcs⟩ := List.cons.inj h
        have hcells' : c.toList.map bare = d.toList.map bare := congrArg Columns.toList hcells
        rw [filled_congr hfit hfit' hcells', hrest.mpr hcs]

end Lines

theorem isTitle_header : ∀ t ∈ header.toList, IsTitle t := by
  intro t ht
  simp only [Columns.toList, header, List.mem_cons, List.not_mem_nil, or_false] at ht
  rcases ht with rfl | rfl | rfl | rfl | rfl <;> exact ⟨_, _, rfl, by decide⟩

/-- What follows the header is a line feed, if anything does. -/
theorem head?_body_ne (w : Columns Nat) (cs : List (Columns String)) : (body w cs).head? ≠ some ' ' := by
  cases cs with
  | nil => exact fun h => nomatch h
  | cons c cs =>
    rw [body_cons]
    exact fun h => absurd (Option.some.inj h) (by decide)

end Table

/-- The lines of a snapshot are the cells of its tasks without the blanks at their ends. -/
theorem Snapshot.map_bare_cells (s : Snapshot) (ids : IdSet) :
    (s.shown ids).map (Columns.map Table.bare) = (s.lines ids).map Table.Row.cells := by
  rw [Snapshot.shown, Snapshot.lines, List.map_map, List.map_map]
  exact List.map_congr_left fun row _ => Table.map_bare_cells row.1 row.2

theorem Snapshot.fit_shown (s : Snapshot) (ids : IdSet) :
    ∀ c ∈ s.shown ids, Table.Fit s.widths.toList c.toList := by
  intro c hc
  obtain ⟨row, hrow, rfl⟩ := List.mem_map.mp hc
  exact Table.fit_cells (List.mem_of_mem_filter hrow)

/-- The lines of a table can be told from its text. -/
theorem Snapshot.lines_eq_of_table {s s' : Snapshot} {ids ids' : IdSet} (h : s.table ids = s'.table ids') :
    s.lines ids = s'.lines ids' := by
  rw [← String.toList_inj, Table.toList_table, Table.toList_table] at h
  obtain ⟨hwidths, hbody⟩ := Table.filled_titles_inj Table.isTitle_header (Table.fit_header s) (Table.fit_header s')
    (Table.head?_body_ne _ _) (Table.head?_body_ne _ _) (List.cons.inj h).2
  have hw : s.widths = s'.widths := Columns.toList_injective hwidths
  rw [← hw] at hbody
  have hcells := (Table.body_eq_iff (s.fit_shown ids) (hw ▸ s'.fit_shown ids')).mp hbody
  rw [map_bare_cells, map_bare_cells] at hcells
  exact List.map_injective_iff.mpr Table.Row.cells_injective hcells

end Taskboard
