import Taskboard.Proofs.Json.Short
import Taskboard.Proofs.Report.Document

/-! The normal form of a document. However the keys and the version of a document are written, once it has passed it is
    written in one way, which is read and passes as the same document (`Document.normalize_fixed`). -/

namespace Taskboard
open Json

/-! ### Documents -/

namespace Document
variable {x y : Value} {d e : Document} {t u : String}

/-- The text of a value that passes as a document. -/
def normalize (x : Value) : Checked String := (ofValue x).map text

theorem version_lt (h : ofValue x = .ok d)
    (hshort : ∀ n, x.member? "version" = some (.int n) → n.natAbs < 10 ^ Numeral.maxDigits) :
    d.version < 10 ^ Numeral.maxDigits := by
  cases x with
  | object members =>
    obtain ⟨⟨entries, version⟩, hp, rfl⟩ := Checked.map_eq_ok_iff.mp h
    obtain ⟨v, hlookup, hversion⟩ := field_eq_ok_iff.mp (Checked.both_eq_ok_iff.mp hp).2
    exact v.lt_of_asNat hversion fun n hn => hshort n (hn ▸ hlookup)
  | _ => cases h

theorem text_inj (hd : d.version < 10 ^ Numeral.maxDigits) (he : e.version < 10 ^ Numeral.maxDigits)
    (h : d.text = e.text) : d = e := by
  have hread := ofText_text hd
  rw [h, ofText_text he] at hread
  exact (Except.ok.inj hread).symm

/-- The text of a document is read as a value that passes as the document. -/
theorem read_text (h : d.version < 10 ^ Numeral.maxDigits) :
    ∃ v, read maxDepth d.text.toList = some v ∧ ofValue v = .ok d :=
  ⟨d.toValue, by rw [text, Value.text, String.toList_ofList, (fits_toValue h).read_write], ofValue_toValue d⟩

/-- A value that passes is written as a text that is read as a value which passes as the same document, and is written
    as the same text again. Two values that pass are written as the same text exactly if they pass as the same
    document. -/
theorem normalize_fixed (hx : normalize x = .ok t) (hy : normalize y = .ok u)
    (hshort : ∀ n, x.member? "version" = some (.int n) → n.natAbs < 10 ^ Numeral.maxDigits)
    (hshort' : ∀ n, y.member? "version" = some (.int n) → n.natAbs < 10 ^ Numeral.maxDigits) :
    (∃ v, read maxDepth t.toList = some v ∧ ofValue v = ofValue x ∧ normalize v = .ok t) ∧
      (t = u ↔ ofValue x = ofValue y) := by
  obtain ⟨d, hd, rfl⟩ := Checked.map_eq_ok_iff.mp hx
  obtain ⟨e, he, rfl⟩ := Checked.map_eq_ok_iff.mp hy
  have hversion := version_lt hd hshort
  obtain ⟨v, hread, hv⟩ := read_text hversion
  refine ⟨⟨v, hread, hv.trans hd.symm, Checked.map_eq_ok_iff.mpr ⟨d, hv, rfl⟩⟩, fun h => ?_, fun h => ?_⟩
  · rw [hd, he, text_inj hversion (version_lt he hshort') h]
  · rw [hd, he] at h
    rw [Except.ok.inj h]

/-- One entry under keys of both kinds and with more than is asked for, and the version a number with a fraction; the
    same entry under its public keys, and the version a text. -/
theorem normalize_fixed_mixed :
    let x : Value := .object [("version", .float (.finite false 4 (-1))), ("more", .array []),
      ("user_tasks", .array [.object [("UserTaskId", .string "a"), ("user_task_id", .int 7), ("x", .null),
        ("request_url", .string "/é"), ("client_identity", .string ""), ("StartMs", .string "5"),
        ("status", .string "Active")]])]
    let y : Value := .object [("userTasks", .array [.object [("Status", .string "Active"), ("UserTaskId", .string "a"),
      ("RequestURL", .string "/é"), ("ClientIdentity", .string ""), ("StartMs", .string "5")]]),
      ("version", .string " +0_02.0")]
    let t := "\x7b\"userTasks\":[\x7b\"UserTaskId\":\"a\",\"RequestURL\":\"/é\",\"ClientIdentity\":\"\"," ++
      "\"StartMs\":\"5\",\"Status\":\"Active\"\x7d],\"version\":2\x7d"
    normalize x = .ok t ∧ normalize y = .ok t ∧ ofValue x = ofValue y ∧
      ∃ v, read maxDepth t.toList = some v ∧ ofValue v = ofValue x ∧ normalize v = .ok t := by
  intro x y t
  have hx : normalize x = .ok t := by decide +kernel
  have hy : normalize y = .ok t := by decide +kernel
  have hversion : x.member? "version" = some (.float (.finite false 4 (-1))) := rfl
  have hversion' : y.member? "version" = some (.string " +0_02.0") := rfl
  obtain ⟨hread, heq⟩ := normalize_fixed hx hy (fun n hn => by rw [hversion] at hn; cases hn)
    fun n hn => by rw [hversion'] at hn; cases hn
  exact ⟨hx, hy, heq.mp rfl, hread⟩

end Document
end Taskboard
