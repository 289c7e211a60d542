import Taskboard.Proofs.Checked
import Taskboard.Proofs.Json.RoundTrip
import Taskboard.Proofs.Report.Printing
import Taskboard.Proofs.Uuid.Text

/-! The document of a snapshot loses nothing: its text is read as the object it was written from, and the entries
    of the object give back the records that the filter chooses (`Snapshot.json_lossless`). -/

namespace Taskboard
open Json

/-! ### Records out of entries -/

/-- The object that stands for a task in a document. -/
def Record.object (status : Status) (r : Record) : Value :=
  .object [("UserTaskId", .string r.id.text), ("RequestURL", .string r.requestUrl),
    ("ClientIdentity", .string r.clientIdentity), ("StartMs", .string (String.ofList (Numeral.ofInt r.startMs))),
    ("Status", .string status.label)]

/-- The record of an entry, each of its texts checked as the field of a record. -/
def Entry.record (e : Entry) : Checked Record :=
  Record.ofValue (.object [("id", .string e.userTaskId), ("request_url", .string e.requestUrl),
    ("client_identity", .string e.clientIdentity), ("start_ms", .string e.startMs)])

namespace Document

/-- Reads the text of a document. -/
def ofText (s : List Char) : Checked Document :=
  match Json.read Json.maxDepth s with
  | some v => ofValue v
  | none => .fail .jsonText

/-- The records of the entries with a status, in order. -/
def recordsOf (d : Document) (status : Status) : Checked (List Record) :=
  Checked.list Entry.record (d.userTasks.filter (·.status = status.label))

/-- The snapshot of a document, its entries divided by their status. -/
def snapshot (d : Document) : Checked Snapshot :=
  ((d.recordsOf .active).both (d.recordsOf .completed)).map fun (active, completed) => ⟨active, completed⟩

end Document

/-! ### Entries -/

/-- An entry is read as itself. -/
theorem Entry.ofValue_toValue (e : Entry) : Entry.ofValue e.toValue = .ok e := rfl

theorem Entry.toValue_injective : Function.Injective Entry.toValue := by
  intro e e' h
  have hread : Entry.ofValue e.toValue = Entry.ofValue e'.toValue := congrArg Entry.ofValue h
  rw [Entry.ofValue_toValue, Entry.ofValue_toValue] at hread
  exact Except.ok.inj hread

theorem Entry.record_eq (e : Entry) :
    e.record = Record.ofFields ((Record.idOf (.string e.userTaskId)).under (.field "id")) (.ok e.requestUrl)
      (.ok e.clientIdentity) ((intOfText e.startMs).under (.field "start_ms")) := rfl

/-- An entry gives back the record it was made of. -/
theorem Entry.record_ofRecord {r : Record} (h : r.startMs.natAbs < 10 ^ Numeral.maxDigits) (status : Status) :
    (Entry.ofRecord status r).record = .ok r := by
  have hid : Record.idOf (.string (Entry.ofRecord status r).userTaskId) = .ok r.id := by
    rw [Entry.ofRecord, Record.idOf, Uuid.read?_text]
  have hstart : intOfText (Entry.ofRecord status r).startMs = .ok r.startMs := by
    rw [Entry.ofRecord, intOfText, String.toList_ofList, Lenient.read_ofInt h]
  rw [Entry.record_eq, hid, hstart]
  rfl

theorem Entry.fits_toValue (e : Entry) (depth : Nat) : e.toValue.Fits (depth + 1) := by
  refine .object fun m hm => ?_
  simp only [List.mem_cons, List.not_mem_nil, or_false] at hm
  rcases hm with rfl | rfl | rfl | rfl | rfl <;> exact .string _

/-! ### Documents -/

namespace Document

/-- The labels tell the statuses apart. -/
theorem label_injective {status status' : Status} (h : status.label = status'.label) : status = status' := by
  cases status <;> cases status' <;> first | rfl | exact absurd h (by decide)

theorem filter_entries_self (ids : IdSet) (status : Status) (records : List Record) :
    (entries ids status records).filter (·.status = status.label) = entries ids status records := by
  refine List.filter_eq_self.mpr fun e he => ?_
  obtain ⟨r, -, rfl⟩ := List.mem_map.mp he
  exact decide_eq_true rfl

theorem filter_entries_other (ids : IdSet) {status status' : Status} (hne : status ≠ status') (records : List Record) :
    (entries ids status records).filter (·.status = status'.label) = [] := by
  refine List.filter_eq_nil_iff.mpr fun e he => ?_
  obtain ⟨r, -, rfl⟩ := List.mem_map.mp he
  exact fun h => hne (label_injective (of_decide_eq_true h))

/-- Entries give back the records they were made of. -/
theorem list_record_entries {records : List Record} (h : ∀ r ∈ records, r.startMs.natAbs < 10 ^ Numeral.maxDigits)
    (ids : IdSet) (status : Status) :
    Checked.list Entry.record (entries ids status records) = .ok (records.filter ids.chooses) := by
  have hlist : Checked.list Entry.record (entries ids status records) = .ok ((records.filter ids.chooses).map id) :=
    Checked.list_map_ok fun r hr => Entry.record_ofRecord (h r (List.mem_of_mem_filter hr)) status
  rwa [List.map_id] at hlist

/-- The document of a snapshot gives back the tasks that the filter chooses. -/
theorem snapshot_ofSnapshot {s : Snapshot}
    (h : ∀ r ∈ s.active ++ s.completed, r.startMs.natAbs < 10 ^ Numeral.maxDigits) (version : Nat) (ids : IdSet) :
    (ofSnapshot s version ids).snapshot = .ok ⟨s.active.filter ids.chooses, s.completed.filter ids.chooses⟩ := by
  obtain ⟨hactive, hcompleted⟩ := List.forall_mem_append.mp h
  have hfirst : (ofSnapshot s version ids).recordsOf .active = .ok (s.active.filter ids.chooses) := by
    rw [recordsOf, ofSnapshot, List.filter_append, filter_entries_self, filter_entries_other ids (by decide),
      List.append_nil, list_record_entries hactive]
  have hsecond : (ofSnapshot s version ids).recordsOf .completed = .ok (s.completed.filter ids.chooses) := by
    rw [recordsOf, ofSnapshot, List.filter_append, filter_entries_self, filter_entries_other ids (by decide),
      List.nil_append, list_record_entries hcompleted]
  rw [snapshot, hfirst, hsecond]
  rfl

/-- A document is read as itself. -/
theorem ofValue_toValue (d : Document) : ofValue d.toValue = .ok d := by
  have hentries : Checked.list Entry.ofValue (d.userTasks.map Entry.toValue) = .ok (d.userTasks.map id) :=
    Checked.list_map_ok fun e _ => Entry.ofValue_toValue e
  rw [List.map_id] at hentries
  calc ofValue d.toValue
      = (((Checked.list Entry.ofValue (d.userTasks.map Entry.toValue)).under (.field "userTasks")).both
          (.ok d.version)).map fun p => ⟨p.1, p.2⟩ := rfl
    _ = .ok d := by rw [hentries]; rfl

theorem fits_toValue {d : Document} (h : d.version < 10 ^ Numeral.maxDigits) : d.toValue.Fits Json.maxDepth := by
  refine Value.Fits.object fun m hm => ?_
  simp only [List.mem_cons, List.not_mem_nil, or_false] at hm
  rcases hm with rfl | rfl
  · refine Value.Fits.array fun v hv => ?_
    obtain ⟨e, -, rfl⟩ := List.mem_map.mp hv
    exact e.fits_toValue _
  · exact Value.Fits.int h

/-- The text of a document is read as the document. -/
theorem ofText_text {d : Document} (h : d.version < 10 ^ Numeral.maxDigits) : ofText d.text.toList = .ok d := by
  rw [ofText, text, Value.text, String.toList_ofList, (fits_toValue h).read_write]
  exact ofValue_toValue d

theorem toList_text (d : Document) : d.text.toList = '{' :: (quote "userTasks".toList ++
    ':' :: ((Value.array (d.userTasks.map Entry.toValue)).write ++ writeMembers [("version", .int d.version)])) := by
  rw [text, Value.text, String.toList_ofList, toValue, Value.write]

/-- The text of a document says what its entries are, however long the number of its version is. -/
theorem userTasks_eq_of_text {d d' : Document} (h : d.text = d'.text) : d.userTasks = d'.userTasks := by
  have hfits (d : Document) : (Value.array (d.userTasks.map Entry.toValue)).Fits 2 := by
    refine Value.Fits.array fun v hv => ?_
    obtain ⟨e, -, rfl⟩ := List.mem_map.mp hv
    exact e.fits_toValue 0
  have hends (n : Nat) : Ends (writeMembers [("version", .int n)]) := by
    have hnil := ends_writeMembers [("version", .int n)] []
    rwa [List.append_nil] at hnil
  rw [← String.toList_inj, toList_text, toList_text] at h
  have hrest := (List.cons.inj (List.append_cancel_left (List.cons.inj h).2)).2
  obtain ⟨harray, -⟩ := (hfits d).write_append_inj (hfits d') (hends d.version) (hends d'.version) hrest
  exact List.map_injective_iff.mpr Entry.toValue_injective (Value.array.inj harray)

end Document

/-- The text of the document of a snapshot has no control character, and it is read as an object that has the
    chosen tasks, running ones first, and the version, in this order and nothing else. The document read from it
    gives back the chosen tasks. -/
theorem Snapshot.json_lossless (s : Snapshot) (version : Nat) (ids : IdSet)
    (hversion : version < 10 ^ Numeral.maxDigits)
    (hstart : ∀ r ∈ s.active ++ s.completed, r.startMs.natAbs < 10 ^ Numeral.maxDigits) :
    s.json? (.int version) ids = .ok (s.json version ids) ∧
      (∀ c ∈ (s.json version ids).toList, 0x20 ≤ c.toNat) ∧
      Json.read Json.maxDepth (s.json version ids).toList = some (.object
        [("userTasks", .array ((s.active.filter ids.chooses).map (Record.object .active) ++
          (s.completed.filter ids.chooses).map (Record.object .completed))), ("version", .int version)]) ∧
      (Document.ofText (s.json version ids).toList).bind Document.snapshot =
        .ok ⟨s.active.filter ids.chooses, s.completed.filter ids.chooses⟩ := by
  have hfits : (Document.ofSnapshot s version ids).toValue.Fits Json.maxDepth := Document.fits_toValue hversion
  refine ⟨json?_int (shortStarts_of_short hstart ids) version, ?_, ?_, ?_⟩
  · rw [json, Document.text, Value.text, String.toList_ofList]
    exact hfits.printable_write
  · have hobjects : ∀ status records, (Document.entries ids status records).map Entry.toValue =
        (records.filter ids.chooses).map (Record.object status) := fun _ _ => List.map_map
    rw [json, Document.text, Value.text, String.toList_ofList, hfits.read_write, Document.toValue, Document.ofSnapshot,
      List.map_append, hobjects, hobjects]
  · rw [json, Document.ofText_text hversion]
    exact Document.snapshot_ofSnapshot hstart version ids

/-- A task whose texts are escaped, and which started before 1970; the filter leaves the other one out. -/
theorem Snapshot.json_lossless_escaped :
    12 < 10 ^ Numeral.maxDigits ∧
    (∀ r ∈ [⟨default, "/a\"b\\c\n\x01", "😀", -15⟩] ++ [⟨⟨1, by decide⟩, "", "", 0⟩],
      (Record.startMs r).natAbs < 10 ^ Numeral.maxDigits) ∧
    (Document.ofText ((⟨[⟨default, "/a\"b\\c\n\x01", "😀", -15⟩], [⟨⟨1, by decide⟩, "", "", 0⟩]⟩ : Snapshot).json 12
        (IdSet.ofList [default])).toList).bind Document.snapshot =
      .ok ⟨[⟨default, "/a\"b\\c\n\x01", "😀", -15⟩], []⟩ := by
  have hsmall : ∀ n, n < 10 ^ 2 → n < 10 ^ Numeral.maxDigits := fun n hn =>
    Nat.lt_of_lt_of_le hn (Nat.pow_le_pow_right (by decide) (by decide))
  have hversion : 12 < 10 ^ Numeral.maxDigits := hsmall 12 (by decide)
  have hstart : ∀ r ∈ [⟨default, "/a\"b\\c\n\x01", "😀", -15⟩] ++ [⟨⟨1, by decide⟩, "", "", 0⟩],
      (Record.startMs r).natAbs < 10 ^ Numeral.maxDigits := by
    intro r hr
    rcases List.mem_cons.mp hr with rfl | hr
    · exact hsmall 15 (by decide)
    · rw [List.mem_singleton.mp hr]
      exact hsmall 0 (by decide)
  exact ⟨hversion, hstart, (json_lossless _ 12 (IdSet.ofList [default]) hversion hstart).2.2.2.trans rfl⟩

end Taskboard
