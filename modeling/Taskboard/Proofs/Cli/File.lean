import Taskboard.Proofs.Cli.Show
import Taskboard.Proofs.Json.Object
import Taskboard.Proofs.Report.Document

/-! Snapshot files. A file may give the members of every object in any order, hold members under keys that nobody asks
    for, and leave out a list that is empty; an identifier may have any of its shapes, a start time may be a number or
    the text of one, and every text may be spelled in any way. Whatever is chosen, the file is read as the snapshot that
    it was written for (`Snapshot.reads_file`). -/

namespace Taskboard
open Json

/-! ### Records -/

/-- A start time as a number, or as the text of one. -/
inductive StartAs (n : Int) : Value → Prop
  | number : StartAs n (.int n)
  | text : StartAs n (.string (String.ofList (Numeral.ofInt n)))

namespace Record

def keys : List String := ["id", "request_url", "client_identity", "start_ms"]

/-- The fields of a record, with a text for its identifier and a value for its start time. -/
def fields (r : Record) (id : String) (start : Value) : List (String × Value) :=
  [("id", .string id), ("request_url", .string r.requestUrl), ("client_identity", .string r.clientIdentity),
    ("start_ms", start)]

/-- The objects that a record may be written as. -/
inductive WrittenAs (r : Record) : Value → Prop
  | intro {id : String} {start object : Value} (shape : Uuid.Shape r.id id.toList) (startAs : StartAs r.startMs start)
    (holds : object.Holds keys (r.fields id start)) : WrittenAs r object

/-- The object of a record without anything added. -/
def toValue (r : Record) : Value := .object (r.fields r.id.text (.int r.startMs))

variable {r : Record} {v : Value}

theorem asInt_of_startAs {n : Int} (hn : n.natAbs < 10 ^ Numeral.maxDigits) (h : StartAs n v) : v.asInt = .ok n := by
  cases h with
  | number => rfl
  | text => rw [Value.asInt, intOfText, String.toList_ofList, Lenient.read_ofInt hn]

theorem WrittenAs.ofValue (h : r.WrittenAs v) (hr : r.startMs.natAbs < 10 ^ Numeral.maxDigits) : ofValue v = .ok r := by
  obtain @⟨id, start, _, shape, startAs, holds⟩ := h
  obtain ⟨members, rfl⟩ := holds.eq_object
  have hid : Json.field members "id" idOf = .ok r.id :=
    holds.field_eq_ok (v := .string id) (by decide) (by simp [fields]) (by simp [fields])
      (by rw [idOf, Uuid.read?_of_shape shape])
  have hurl : Json.field members "request_url" (·.asString) = .ok r.requestUrl :=
    holds.field_eq_ok (v := .string r.requestUrl) (by decide) (by simp [fields]) (by simp [fields]) rfl
  have hclient : Json.field members "client_identity" (·.asString) = .ok r.clientIdentity :=
    holds.field_eq_ok (v := .string r.clientIdentity) (by decide) (by simp [fields]) (by simp [fields]) rfl
  have hstart : Json.field members "start_ms" (·.asInt) = .ok r.startMs :=
    holds.field_eq_ok (v := start) (by decide) (by simp [fields]) (by simp [fields]) (asInt_of_startAs hr startAs)
  calc Record.ofValue (.object members)
      = ofFields (Json.field members "id" idOf) (Json.field members "request_url" (·.asString))
          (Json.field members "client_identity" (·.asString)) (Json.field members "start_ms" (·.asInt)) := rfl
    _ = .ok r := by rw [hid, hurl, hclient, hstart]; rfl

theorem WrittenAs.fits (h : r.WrittenAs v) (hr : r.startMs.natAbs < 10 ^ Numeral.maxDigits) (depth : Nat) :
    v.Fits (depth + 1) := by
  obtain ⟨-, startAs, holds⟩ := h
  refine holds.fits fun m hm => ?_
  simp only [fields, List.mem_cons, List.not_mem_nil, or_false] at hm
  rcases hm with rfl | rfl | rfl | rfl
  · exact .string _
  · exact .string _
  · exact .string _
  · cases startAs with
    | number => exact .int hr
    | text => exact .string _

theorem writtenAs_toValue (r : Record) : r.WrittenAs r.toValue :=
  .intro (Uuid.read?_eq_some_iff.mp r.id.read?_text) .number (.intro (.of_eq (List.append_nil _).symm) (by simp))

end Record

/-! ### Snapshots -/

namespace Snapshot

/-- The member that a list of records may be written as; without records it may be left out. -/
inductive ListedAs (key : String) : List Record → List (String × Value) → Prop
  | absent : ListedAs key [] []
  | present {records : List Record} {items : List Value} (h : List.Forall₂ Record.WrittenAs records items) :
    ListedAs key records [(key, .array items)]

/-- The objects that a snapshot may be written as. -/
inductive WrittenAs (s : Snapshot) : Value → Prop
  | intro {active completed : List (String × Value)} {object : Value} (runs : ListedAs "active" s.active active)
    (finished : ListedAs "completed" s.completed completed)
    (holds : object.Holds ["active", "completed"] (active ++ completed)) : WrittenAs s object

/-- The object of a snapshot with both lists and without anything added. -/
def toValue (s : Snapshot) : Value :=
  .object [("active", .array (s.active.map Record.toValue)), ("completed", .array (s.completed.map Record.toValue))]

/-- What is checked of a list of records. -/
def records (v : Value) : Checked (List Record) := do Checked.list Record.ofValue (← v.items)

variable {s : Snapshot} {v : Value} {key : String} {rs : List Record} {fields : List (String × Value)}

theorem list_of_forall₂ {items : List Value} (h : List.Forall₂ Record.WrittenAs rs items)
    (hrs : ∀ r ∈ rs, r.startMs.natAbs < 10 ^ Numeral.maxDigits) : Checked.list Record.ofValue items = .ok rs := by
  rw [Checked.list_eq_ok_iff]
  induction h with
  | nil => exact .nil
  | cons hr _ ih =>
    obtain ⟨hfirst, hothers⟩ := List.forall_mem_cons.mp hrs
    exact .cons (hr.ofValue hfirst) (ih hothers)

namespace ListedAs

theorem key_eq (h : ListedAs key rs fields) : ∀ m ∈ fields, m.1 = key := by
  cases h with
  | absent => simp
  | present _ => simp

/-- A list is read off an object in which its member is the only one under its key. -/
theorem fieldOr_records {known : List String} {all members : List (String × Value)} (h : ListedAs key rs fields)
    (holds : (Value.object members).Holds known all) (hkey : key ∈ known)
    (hall : ∀ m, m.1 = key → (m ∈ all ↔ m ∈ fields))
    (hrs : ∀ r ∈ rs, r.startMs.natAbs < 10 ^ Numeral.maxDigits) : fieldOr [] members key records = .ok rs := by
  cases h with
  | absent => exact holds.fieldOr_absent hkey (fun m hm hm' => List.not_mem_nil ((hall m hm').mp hm)) []
  | @present _ items h =>
    refine holds.fieldOr_eq_ok hkey ((hall _ rfl).mpr (List.mem_singleton_self _)) (fun m hm hm' => ?_) []
      (list_of_forall₂ h hrs)
    rw [List.mem_singleton.mp ((hall m hm').mp hm)]

theorem fits (h : ListedAs key rs fields) (hrs : ∀ r ∈ rs, r.startMs.natAbs < 10 ^ Numeral.maxDigits) (depth : Nat) :
    ∀ m ∈ fields, m.2.Fits (depth + 2) := by
  cases h with
  | absent => simp
  | @present _ items h =>
    rw [List.forall_mem_singleton]
    refine .array fun v hv => ?_
    obtain ⟨i, hi, rfl⟩ := List.getElem_of_mem hv
    have hi' : i < rs.length := h.length_eq ▸ hi
    exact (h.get hi' hi).fits (hrs _ (List.getElem_mem hi')) depth

end ListedAs

theorem WrittenAs.ofValue (h : s.WrittenAs v)
    (hstart : ∀ r ∈ s.active ++ s.completed, r.startMs.natAbs < 10 ^ Numeral.maxDigits) : ofValue v = .ok s := by
  obtain ⟨runs, finished, holds⟩ := h
  obtain ⟨members, rfl⟩ := holds.eq_object
  obtain ⟨hactive, hcompleted⟩ := List.forall_mem_append.mp hstart
  -- The members of either list are told from those of the other one by their keys.
  have hruns : fieldOr [] members "active" records = .ok s.active := by
    refine runs.fieldOr_records holds (by decide) (fun m hm => ?_) hactive
    have hnot : m ∉ _ := fun hm' => absurd (hm.symm.trans (finished.key_eq m hm')) (by decide)
    rw [List.mem_append, or_iff_left hnot]
  have hfinished : fieldOr [] members "completed" records = .ok s.completed := by
    refine finished.fieldOr_records holds (by decide) (fun m hm => ?_) hcompleted
    have hnot : m ∉ _ := fun hm' => absurd (hm.symm.trans (runs.key_eq m hm')) (by decide)
    rw [List.mem_append, or_iff_right hnot]
  exact Checked.map_eq_ok_iff.mpr ⟨(s.active, s.completed), Checked.both_eq_ok_iff.mpr ⟨hruns, hfinished⟩, rfl⟩

theorem WrittenAs.fits (h : s.WrittenAs v)
    (hstart : ∀ r ∈ s.active ++ s.completed, r.startMs.natAbs < 10 ^ Numeral.maxDigits) : v.Fits maxDepth := by
  obtain ⟨runs, finished, holds⟩ := h
  obtain ⟨hactive, hcompleted⟩ := List.forall_mem_append.mp hstart
  exact @Value.Holds.fits _ _ _ 199 holds
    (List.forall_mem_append.mpr ⟨runs.fits hactive 197, finished.fits hcompleted 197⟩)

/-- A file as the tool itself would write it is one of the files that the snapshot may be written as. -/
theorem writtenAs_toValue (s : Snapshot) : s.WrittenAs s.toValue := by
  have hlisted (rs : List Record) : List.Forall₂ Record.WrittenAs rs (rs.map Record.toValue) :=
    List.forall₂_map_right_iff.mpr (List.forall₂_same.mpr fun r _ => r.writtenAs_toValue)
  exact .intro (.present (hlisted s.active)) (.present (hlisted s.completed)) (.intro (.of_eq rfl) (by simp))

end Snapshot

/-- The text of a snapshot is read as the snapshot, and so is every other text of every object that the snapshot may be
    written as. A file is read as what its text is read as. -/
theorem Snapshot.reads_file (s : Snapshot)
    (hstart : ∀ r ∈ s.active ++ s.completed, r.startMs.natAbs < 10 ^ Numeral.maxDigits) :
    ofText s.toValue.write = .ok s ∧
      ∀ v text, s.WrittenAs v → Spells v text →
        ofText text = .ok s ∧ Cli.readSnapshot (Utf8.encode (String.ofList text)) = .ok s := by
  have hread (v : Value) (text : List Char) (hv : s.WrittenAs v) (htext : Spells v text) : ofText text = .ok s := by
    rw [ofText, htext.read (hv.fits hstart)]
    exact hv.ofValue hstart
  refine ⟨hread _ _ s.writtenAs_toValue (s.writtenAs_toValue.fits hstart).spells_write, fun v text hv htext => ?_⟩
  exact ⟨hread v text hv htext, Cli.readSnapshot_eq_ok_iff.mpr ⟨text, rfl, hread v text hv htext⟩⟩

/-- The finished list is left out, and the running one comes behind a key that nobody asks for. Its record has the
    members from last to first, a start time as a text, a pair of surrogates for a character and an identifier in
    braces. -/
theorem Snapshot.reads_file_rearranged :
    (∀ r ∈ [⟨⟨10, by decide⟩, "/😀", "", -15⟩] ++ [], (Record.startMs r).natAbs < 10 ^ Numeral.maxDigits) ∧
    ofText ("\x7b\"later\":-7,\"active\":[\x7b\"x\":\"\",\"start_ms\":\"-15\",\"client_identity\":\"\"," ++
        "\"request_url\":\"\\/\\ud83D\\uDe00\"," ++
        "\"id\":\"\x7b00000000-0000-0000-0000-00000000000A\x7d\"\x7d]\x7d").toList =
      .ok ⟨[⟨⟨10, by decide⟩, "/😀", "", -15⟩], []⟩ := by
  have hstart : ∀ r ∈ [⟨⟨10, by decide⟩, "/😀", "", -15⟩] ++ [],
      (Record.startMs r).natAbs < 10 ^ Numeral.maxDigits := by
    intro r hr
    rw [List.mem_singleton.mp hr]
    exact Numeral.lt_pow_maxDigits (by decide)
  have hshape : Uuid.Shape ⟨10, by decide⟩ "\x7b00000000-0000-0000-0000-00000000000A\x7d".toList :=
    Uuid.read?_eq_some_iff.mp (by decide)
  have hrecord : Record.WrittenAs ⟨⟨10, by decide⟩, "/😀", "", -15⟩ (.object [("x", .string ""),
      ("start_ms", .string "-15"), ("client_identity", .string ""), ("request_url", .string "/😀"),
      ("id", .string "\x7b00000000-0000-0000-0000-00000000000A\x7d")]) := by
    refine .intro hshape .text (@Value.Holds.intro _ _ _ [("x", .string "")] ?_ ?_)
    · exact List.reverse_perm [("id", _), ("request_url", _), ("client_identity", _), ("start_ms", _), ("x", _)]
    · exact List.forall_mem_singleton.mpr ⟨by decide, .string ""⟩
  have hruns := @ListedAs.present "active" _ _ (.cons hrecord .nil)
  have hwritten := @WrittenAs.intro ⟨[⟨⟨10, by decide⟩, "/😀", "", -15⟩], []⟩ _ _ _ hruns .absent
    (@Value.Holds.intro _ _ _ [("later", .int (-7))] (List.reverse_perm [("active", _), ("later", _)])
      (List.forall_mem_singleton.mpr ⟨by decide, .int (Numeral.lt_pow_maxDigits (by decide))⟩))
  have hurl : Spells (.string "/😀") "\"\\/\\ud83D\\uDe00\"".toList := by
    refine .string ⟨[['\\', '/'], "\\ud83D\\uDe00".toList], .cons (.letter (by decide)) (.cons ?_ .nil), by decide⟩
    exact @Stands.units _ ["d83D".toList, "De00".toList] (.cons ⟨by decide, [13, 8, 3, 13], by decide, by decide⟩
      (.cons ⟨by decide, [13, 14, 0, 0], by decide, by decide⟩ .nil))
  have hplain (s : String) : Spells (.string s) (quote s.toList) := .string (quotes_quote _)
  have hid := SpellsMembers.cons (quotes_quote "id".toList)
    (hplain "\x7b00000000-0000-0000-0000-00000000000A\x7d") .nil
  have hrest := SpellsMembers.cons (quotes_quote "start_ms".toList) (hplain "-15")
    (.cons (quotes_quote "client_identity".toList) (hplain "") (.cons (quotes_quote "request_url".toList) hurl hid))
  have htext := Spells.object (quotes_quote "later".toList) (.int (-7)) (.cons (quotes_quote "active".toList)
    (.array (.object (quotes_quote "x".toList) (hplain "") hrest) .nil) .nil)
  refine ⟨hstart, (congrArg ofText ?_).trans ((reads_file _ hstart).2 _ _ hwritten htext).1⟩
  decide +kernel

end Taskboard
