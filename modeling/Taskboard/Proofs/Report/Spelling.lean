import Taskboard.Proofs.Json.Object
import Taskboard.Proofs.Report.Restriction
import Taskboard.Proofs.Task.Items
import Taskboard.Proofs.Uuid.Spelling

/-! Tasks are found by the identifiers that were written for them. A text that is good for the identifier of a record is
    good for a filter, and chooses by the same identifier; so the tasks in a file can be asked for in the spelling of
    the file, and the identifiers of any set by their own texts (`Filter.parse_spellings`). -/

namespace Taskboard

/-! ### Filters -/

namespace Filter
variable {values values' : List String} {value text : String} {u : Uuid} {ids ids' : IdSet}

theorem items_of_spells (before after : String) (h : Uuid.Spells u text.toList)
    (hbefore : ∀ c ∈ before.toList, Text.isBlank c = true) (hafter : ∀ c ∈ after.toList, Text.isBlank c = true) :
    items [before ++ text ++ after] = [text.toList] := by
  have hchars := h.no_separator
  have hcomma : ',' ∉ (before ++ text ++ after).toList := by
    have hblank : ¬Text.isBlank ',' = true := by decide
    simp only [String.toList_append, List.mem_append, not_or]
    exact ⟨⟨fun hc => hblank (hbefore _ hc), fun hc => (hchars _ hc).2 rfl⟩, fun hc => hblank (hafter _ hc)⟩
  have htrim : Text.trim Text.isBlank (before ++ text ++ after).toList = text.toList := by
    rw [String.toList_append, String.toList_append, Text.trim_append hbefore hafter,
      Text.trim_eq_self fun c hc => (hchars c hc).1]
  have hne : text.toList ≠ [] := by
    intro hnil
    rw [hnil] at h
    cases h.readLoose?
  rw [items, List.flatMap_singleton, List.splitOn_eq_singleton hcomma, List.map_singleton, htrim,
    List.filter_singleton, decide_eq_true hne]
  rfl

/-- A spelling alone, with blanks around it. -/
theorem parse_of_spells (before after : String) (h : Uuid.Spells u text.toList)
    (hbefore : ∀ c ∈ before.toList, Text.isBlank c = true) (hafter : ∀ c ∈ after.toList, Text.isBlank c = true) :
    parse [before ++ text ++ after] = .ok (IdSet.ofList [u]) := by
  refine parse_of_reads [u] (fun _ => text.toList) (items_of_spells before after h hbefore hafter) fun v hv => ?_
  rw [List.mem_singleton.mp hv]
  exact h.readLoose?

theorem parse_among (hleft : parse values = .ok ids) (hvalue : parse [value] = .ok (IdSet.ofList [u]))
    (hright : parse values' = .ok ids') :
    parse (values ++ value :: values') = .ok (ids ∪ IdSet.ofList [u] ∪ ids') := by
  rw [List.append_cons, parse_append, parse_append, hleft, hvalue, hright]
  rfl

theorem items_map_text (us : List Uuid) : items (us.map Uuid.text) = us.map (·.text.toList) := by
  induction us with
  | nil => rfl
  | cons u us ih =>
    have hu : items [u.text] = [u.text.toList] := by
      simpa using items_of_spells "" "" (Uuid.spells_of_read? u.read?_text)
    rw [List.map_cons, items_cons, hu, ih]
    rfl

theorem parse_map_text (us : List Uuid) : parse (us.map Uuid.text) = .ok (IdSet.ofList us) :=
  parse_of_reads us (·.text.toList) (items_map_text us) fun u _ => Uuid.readLoose?_of_read? u.read?_text

end Filter

/-! ### Files -/

theorem Record.spells_of_idOf {text : String} {u : Uuid} (h : Record.idOf (.string text) = .ok u) :
    Uuid.Spells u text.toList := by
  rw [idOf] at h
  split at h
  next hread =>
    cases h
    exact Uuid.spells_of_read? hread
  next => cases h

/-- What is written for the identifier of a record. -/
def Record.idText? (v : Json.Value) : Option String :=
  match v.member? "id" with
  | some (.string text) => some text
  | _ => none

theorem Record.idText?_of_ofValue {v : Json.Value} {r : Record} (h : Record.ofValue v = .ok r) :
    ∃ text, Record.idText? v = some text ∧ Record.idOf (.string text) = .ok r.id := by
  cases v with
  | object members =>
    obtain ⟨p, hp, rfl⟩ := Checked.map_eq_ok_iff.mp h
    obtain ⟨v, hlookup, hid⟩ := Json.field_eq_ok_iff.mp (Checked.both_eq_ok_iff.mp hp).1
    cases v with
    | string text => exact ⟨text, by rw [idText?, Json.Value.member?, hlookup], hid⟩
    | _ => cases hid
  | _ => cases h

/-- Under a filter the reports show the tasks with an identifier, all of them, and no others. -/
structure Snapshot.Shows (s : Snapshot) (ids : IdSet) (u : Uuid) : Prop where
  document : ∀ version, s.json version ids = Document.text
    ⟨(s.active.filter (·.id = u)).map (Entry.ofRecord .active) ++
      (s.completed.filter (·.id = u)).map (Entry.ofRecord .completed), version⟩
  table : s.table ids = Table.line s.widths Table.header ++
    String.join ((s.rows.filter (·.2.id = u)).map s.rowLine)

theorem IdSet.chooses_ofList (u : Uuid) : (IdSet.ofList [u]).chooses = fun r => decide (r.id = u) := by
  funext r
  have hmem (v : Uuid) : v ∈ IdSet.ofList [u] ↔ v = u := by rw [mem_ofList, List.mem_singleton]
  rw [chooses_of_mem ((hmem u).mpr rfl), decide_eq_decide, hmem]

theorem Snapshot.shows_ofList (s : Snapshot) (u : Uuid) : s.Shows (IdSet.ofList [u]) u where
  document version := by rw [json, Document.ofSnapshot, Document.entries, Document.entries, IdSet.chooses_ofList]
  table := by rw [table_eq_join, IdSet.chooses_ofList]

/-- Every text that is good for the identifier of a record is good for a filter, with blanks around it, alone and among
    others, and chooses by that identifier. So if a snapshot is read from a file, then what is written there for the
    identifier of a record makes the reports show the tasks with this identifier and no others. And the texts of the
    identifiers of a set, in any order, give back the set. -/
theorem Filter.parse_spellings :
    (∀ text u before after, Record.idOf (.string text) = .ok u →
      (∀ c ∈ before.toList, Text.isBlank c = true) → (∀ c ∈ after.toList, Text.isBlank c = true) →
      parse [before ++ text ++ after] = .ok (IdSet.ofList [u]) ∧
      ∀ left right ids ids', parse left = .ok ids → parse right = .ok ids' →
        parse (left ++ (before ++ text ++ after) :: right) = .ok (ids ∪ IdSet.ofList [u] ∪ ids') ∧
        parse [",".intercalate (left ++ (before ++ text ++ after) :: right)] = .ok (ids ∪ IdSet.ofList [u] ∪ ids')) ∧
    (∀ file s, Snapshot.ofText file = .ok s → ∃ v, Json.read Json.maxDepth file = some v ∧
      List.Forall₂ (fun object r => ∃ text, Record.idText? object = some text ∧
          parse [text] = .ok (IdSet.ofList [r.id]) ∧ s.Shows (IdSet.ofList [r.id]) r.id)
        (Snapshot.listed v "active" ++ Snapshot.listed v "completed") (s.active ++ s.completed)) ∧
    ∀ (ids : IdSet) (us : List Uuid), (∀ u, u ∈ us ↔ u ∈ ids) →
      parse (us.map Uuid.text) = .ok ids ∧ parse [",".intercalate (us.map Uuid.text)] = .ok ids := by
  refine ⟨fun text u before after hid hbefore hafter => ?_, fun file s hfile => ?_, fun ids us hsame => ?_⟩
  · have halone := parse_of_spells before after (Record.spells_of_idOf hid) hbefore hafter
    refine ⟨halone, fun left right ids ids' hleft hright => ?_⟩
    have hamong := parse_among hleft halone hright
    exact ⟨hamong, (parse_congr (items_intercalate _)).trans hamong⟩
  · obtain ⟨v, hread, hrecords⟩ := Snapshot.read_of_ofText hfile
    refine ⟨v, hread, hrecords.imp fun object r hr => ?_⟩
    obtain ⟨text, htext, hid⟩ := Record.idText?_of_ofValue hr
    have halone := parse_of_spells "" "" (Record.spells_of_idOf hid) (by simp) (by simp)
    rw [String.empty_append, String.append_empty] at halone
    exact ⟨text, htext, halone, s.shows_ofList r.id⟩
  · have hids : IdSet.ofList us = ids := IdSet.eq_of_mem_iff fun u => IdSet.mem_ofList.trans (hsame u)
    have hparse := parse_map_text us
    rw [hids] at hparse
    exact ⟨hparse, (parse_congr (items_intercalate _)).trans hparse⟩

/-- The groups in braces, in both cases, behind another identifier and with blanks around them; and the long form, which
    is asked for as it stands in a file. -/
theorem Filter.parse_spellings_braced :
    let u : Uuid := ⟨175, by decide⟩
    let braced := "\x7b00000000-0000-0000-0000-0000000000Af\x7d"
    let long := "urn:uuid:00000000-0000-0000-0000-0000000000aF"
    let file := "\x7b\"active\":[\x7b\"id\":\"urn:uuid:00000000-0000-0000-0000-0000000000aF\"," ++
      "\"request_url\":\"/a\",\"client_identity\":\"c\",\"start_ms\":5\x7d]\x7d"
    let s : Snapshot := ⟨[⟨u, "/a", "c", 5⟩], []⟩
    Record.idOf (.string braced) = .ok u ∧
    parse [",".intercalate [(default : Uuid).text, "\t" ++ braced ++ " "]] =
      .ok (IdSet.ofList [default] ∪ IdSet.ofList [u] ∪ ∅) ∧
    Snapshot.ofText file.toList = .ok s ∧ parse [long] = .ok (IdSet.ofList [u]) ∧ s.Shows (IdSet.ofList [u]) u := by
  intro u braced long file s
  obtain ⟨hspelled, hfiles, hsets⟩ := parse_spellings
  have hid : Record.idOf (.string braced) = .ok u := by decide
  have hfile : Snapshot.ofText file.toList = .ok s := by decide +kernel
  have hlong : ((Json.read Json.maxDepth file.toList).map fun v =>
      (Snapshot.listed v "active" ++ Snapshot.listed v "completed").map Record.idText?) = some [some long] := by
    decide +kernel
  have hleft : parse [(default : Uuid).text] = .ok (IdSet.ofList [default]) :=
    (hsets _ [default] fun u => IdSet.mem_ofList.symm).1
  have htab : ∀ c ∈ "\t".toList, Text.isBlank c = true := List.forall_mem_singleton.mpr rfl
  have hspace : ∀ c ∈ " ".toList, Text.isBlank c = true := List.forall_mem_singleton.mpr rfl
  obtain ⟨-, hamong⟩ := hspelled braced u "\t" " " hid htab hspace
  refine ⟨hid, (hamong [_] [] _ ∅ hleft rfl).2, hfile, ?_⟩
  obtain ⟨v, hread, hrecords⟩ := hfiles _ s hfile
  rw [hread, Option.map_some, Option.some_inj] at hlong
  obtain ⟨object, objects, ⟨text, htext, hparse, hshows⟩, -, hobjects⟩ :=
    List.forall₂_cons_right_iff.mp hrecords
  rw [hobjects, List.map_cons, htext] at hlong
  obtain rfl := Option.some.inj (List.cons.inj hlong).1
  exact ⟨hparse, hshows⟩

end Taskboard
