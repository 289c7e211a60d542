import Taskboard.Proofs.Report.Agreement

/-! A filter on a report and a filter on the tasks. The document under a filter is that of the tasks that the filter
    leaves; the table is not, since its columns stay as wide as all tasks need them: from it the lines of the other
    tasks are taken out, and the rest stays as it is (`Snapshot.reports_restrict`). -/

namespace Taskboard

/-! ### Filters -/

namespace IdSet
variable {ids ids' : IdSet} {u : Uuid}

/-- The identifiers that two sets have in common. -/
def inter (ids ids' : IdSet) : IdSet := ⟨ids.toList.filter (· ∈ ids'), ids.ascending.filter _⟩

instance : Inter IdSet := ⟨inter⟩

@[simp] theorem mem_inter : u ∈ ids ∩ ids' ↔ u ∈ ids ∧ u ∈ ids' := by
  show u ∈ ids.toList.filter (· ∈ ids') ↔ _
  rw [List.mem_filter, decide_eq_true_iff]
  rfl

theorem isEmpty_eq_false (h : u ∈ ids) : ids.isEmpty = false :=
  List.isEmpty_eq_false_iff_exists_mem.mpr ⟨u, h⟩

/-- A filter with an identifier in it chooses by identifiers. -/
theorem chooses_of_mem (h : u ∈ ids) (r : Record) : ids.chooses r = decide (r.id ∈ ids) := by
  rw [chooses, isEmpty_eq_false h, Bool.false_or]

/-- The filters that choose everything. -/
theorem chooses_of_all {r : Record} (h : ids = ∅ ∨ r.id ∈ ids) : ids.chooses r = true := by
  rcases h with rfl | h
  · rfl
  · rw [chooses, decide_eq_true h, Bool.or_true]

theorem filter_of_all {records : List Record} (h : ids = ∅ ∨ ∀ r ∈ records, r.id ∈ ids) :
    records.filter ids.chooses = records :=
  List.filter_eq_self.mpr fun r hr => chooses_of_all (h.imp_right fun h => h r hr)

theorem filter_empty (records : List Record) : records.filter (∅ : IdSet).chooses = records := filter_of_all (.inl rfl)

theorem filter_of_mem (h : u ∈ ids) (records : List Record) :
    records.filter ids.chooses = records.filter (·.id ∈ ids) :=
  List.filter_congr fun r _ => chooses_of_mem h r

/-- To filter twice is to filter by what both filters have in common. -/
theorem filter_inter (h : u ∈ ids) (h' : u ∈ ids') (records : List Record) :
    (records.filter (·.id ∈ ids)).filter ids'.chooses = records.filter (ids ∩ ids').chooses := by
  rw [filter_of_mem h', filter_of_mem (mem_inter.mpr ⟨h, h'⟩), List.filter_filter]
  refine List.filter_congr fun r _ => ?_
  rw [← Bool.decide_and, decide_eq_decide, mem_inter, and_comm]

end IdSet

/-! ### Reports -/

namespace Snapshot
variable {s t : Snapshot} {ids ids' : IdSet}

/-- The tasks with an identifier of a set. -/
def restrict (s : Snapshot) (ids : IdSet) : Snapshot :=
  ⟨s.active.filter (·.id ∈ ids), s.completed.filter (·.id ∈ ids)⟩

/-- A document depends on nothing but the chosen tasks. -/
theorem json?_congr (hactive : s.active.filter ids.chooses = t.active.filter ids'.chooses)
    (hcompleted : s.completed.filter ids.chooses = t.completed.filter ids'.chooses) (version : Json.Value) :
    s.json? version ids = t.json? version ids' := by
  have hprints : s.printsStarts ids = t.printsStarts ids' := by simp only [printsStarts, hactive, hcompleted]
  have hjson (version : Nat) : s.json version ids = t.json version ids' := by
    simp only [json, Document.ofSnapshot, Document.entries, hactive, hcompleted]
  simp only [json?, hprints, hjson]

/-- The line of a task in the table of a snapshot. -/
def rowLine (s : Snapshot) (row : Status × Record) : String := Table.line s.widths (Table.cells row.1 row.2)

theorem table_eq_join (s : Snapshot) (ids : IdSet) : s.table ids = Table.line s.widths Table.header ++
    String.join ((s.rows.filter fun row => ids.chooses row.2).map s.rowLine) := by
  rw [table, List.map_cons, List.map_map, String.join_cons]
  rfl

theorem filter_rows_of_all (h : ids = ∅ ∨ ∀ r ∈ s.active ++ s.completed, r.id ∈ ids) :
    (s.rows.filter fun row => ids.chooses row.2) = s.rows :=
  List.filter_eq_self.mpr fun _ hrow => IdSet.chooses_of_all (h.imp_right fun h => h _ (mem_of_mem_rows hrow))

end Snapshot

/-- Without a filter both reports show every task. Under a filter with an identifier in it the document is the one of
    the tasks that the filter leaves, whatever the version, and from the table the lines of the other tasks are taken
    out, while the header and the lines that stay are the same texts as before. A filter that is empty, or has the
    identifiers of all tasks, takes nothing out. And to filter the document of filtered tasks is to filter by what the
    two filters have in common, if there is anything. -/
theorem Snapshot.reports_restrict (s : Snapshot) :
    (∀ version, s.json version ∅ = Document.text
      ⟨s.active.map (Entry.ofRecord .active) ++ s.completed.map (Entry.ofRecord .completed), version⟩) ∧
    s.table ∅ = Table.line s.widths Table.header ++ String.join (s.rows.map s.rowLine) ∧
    (∀ ids u, u ∈ ids →
      (∀ version, s.json? version ids = (s.restrict ids).json? version ∅) ∧
      s.table ids = Table.line s.widths Table.header ++
        String.join ((s.rows.filter fun row => row.2.id ∈ ids).map s.rowLine)) ∧
    (∀ ids, (ids = ∅ ∨ ∀ r ∈ s.active ++ s.completed, r.id ∈ ids) →
      (∀ version, s.json? version ids = s.json? version ∅) ∧ s.table ids = s.table ∅) ∧
    ∀ ids ids' u, u ∈ ids → u ∈ ids' →
      ∀ version, (s.restrict ids).json? version ids' = s.json? version (ids ∩ ids') := by
  refine ⟨fun version => ?_, ?_, fun ids u hu => ⟨?_, ?_⟩, fun ids hall => ⟨?_, ?_⟩, fun ids ids' u hu hu' => ?_⟩
  · rw [json, Document.ofSnapshot, Document.entries, Document.entries, IdSet.filter_empty, IdSet.filter_empty]
  · rw [table_eq_join, filter_rows_of_all (.inl rfl)]
  · have hfilter (records : List Record) :
        records.filter ids.chooses = (records.filter (·.id ∈ ids)).filter (∅ : IdSet).chooses := by
      rw [IdSet.filter_empty, IdSet.filter_of_mem hu]
    exact json?_congr (hfilter s.active) (hfilter s.completed)
  · rw [table_eq_join]
    simp only [IdSet.chooses_of_mem hu]
  · have hfilter {records : List Record} (h : ∀ r ∈ records, r ∈ s.active ++ s.completed) :
        records.filter ids.chooses = records.filter (∅ : IdSet).chooses := by
      rw [IdSet.filter_empty, IdSet.filter_of_all (hall.imp_right fun hall r hr => hall r (h r hr))]
    exact json?_congr (hfilter fun _ => List.mem_append_left _) (hfilter fun _ => List.mem_append_right _)
  · rw [table_eq_join, table_eq_join, filter_rows_of_all hall, filter_rows_of_all (.inl rfl)]
  · exact json?_congr (IdSet.filter_inter hu hu' s.active) (IdSet.filter_inter hu hu' s.completed)

/-- Three tasks, two filters with one identifier in common, and a filter with all identifiers. -/
theorem Snapshot.reports_restrict_common :
    let u : Uuid := ⟨1, by decide⟩
    let v : Uuid := ⟨2, by decide⟩
    let s : Snapshot := ⟨[⟨default, "/a", "c", 0⟩, ⟨u, "/b", "c", 0⟩], [⟨v, "/c", "c", 0⟩]⟩
    let ids := IdSet.ofList [default, u]
    let ids' := IdSet.ofList [u, v]
    let all := IdSet.ofList [v, u, default]
    (u ∈ ids ∧ u ∈ ids') ∧ s.restrict (ids ∩ ids') = ⟨[⟨u, "/b", "c", 0⟩], []⟩ ∧
    s.json? (.int 1) ids = (s.restrict ids).json? (.int 1) ∅ ∧
    (∀ r ∈ s.active ++ s.completed, r.id ∈ all) ∧ s.table all = s.table ∅ ∧
    (s.restrict ids).json? (.int 1) ids' = s.json? (.int 1) (ids ∩ ids') := by
  intro u v s ids ids' all
  have hu : u ∈ ids := by decide
  have hu' : u ∈ ids' := by decide
  have hall : ∀ r ∈ s.active ++ s.completed, r.id ∈ all := by decide
  obtain ⟨-, -, hfilter, hnone, hcommon⟩ := reports_restrict s
  exact ⟨⟨hu, hu'⟩, by decide, (hfilter ids u hu).1 _, hall, (hnone all (.inr hall)).2, hcommon ids ids' u hu hu' _⟩

end Taskboard
