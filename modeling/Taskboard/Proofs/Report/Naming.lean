import Taskboard.Proofs.Cli.Show
import Taskboard.Proofs.Http.Trouble
import Taskboard.Proofs.Report.Spelling
import Taskboard.Proofs.Uuid.Loose

/-! What the items of a filter name. Every item that is taken is a name of one identifier, which its own text names as
    well (`Filter.parse_canonical`). What is left of the item is a number of base sixteen in thirty-two characters, but
    these need not be plain digits (`Filter.parse_named`). -/

namespace Taskboard
namespace Filter
variable {values : List String} {ids : IdSet} {item : List Char} {u : Uuid}

theorem parse_of_named (hitem : item ∈ items values) (h : Uuid.Named u item) :
    parse [String.ofList item] = .ok (IdSet.ofList [u]) := by
  refine parse_of_reads [u] (fun _ => item) (items_of_mem hitem) fun v hv => ?_
  rw [List.mem_singleton.mp hv]
  exact h.readLoose?

theorem parse_of_denoted {text : String} (h : Uuid.Denoted u text.toList) : parse [text] = .ok (IdSet.ofList [u]) := by
  have hparse := parse_of_spells "" "" (.plain h) nofun nofun
  rwa [String.empty_append, String.append_empty] at hparse

theorem parse_eq_ok_iff_named : parse values = .ok ids ↔
    (∀ item ∈ items values, ∃ u, Uuid.Named u item) ∧ ∀ u, u ∈ ids ↔ ∃ item ∈ items values, Uuid.Named u item := by
  simp only [parse_eq_ok_iff, Uuid.readLoose?_isSome_iff, Uuid.readLoose?_eq_some_iff]

theorem parse_eq_error_iff_named {e : BadItem} : parse values = .error e ↔ ∃ good rest,
    items values = good ++ e.item :: rest ∧ (∀ item ∈ good, ∃ u, Uuid.Named u item) ∧ ¬∃ u, Uuid.Named u e.item := by
  simp only [parse_eq_error_iff, Uuid.readLoose?_isSome_iff, Uuid.readLoose?_eq_none_iff]

end Filter

/-- Thirty-two characters are never a negative number, nor one that is too large for an identifier. So every item of a
    filter without error is a name of an identifier of the filter, with the number that is left of the item; and the
    text of this identifier, in thirty-two small hexadecimal digits and four hyphens, names it too, also in capitals and
    without the hyphens. It is the only identifier whose text names what the item does. -/
theorem Filter.parse_canonical :
    (∀ (s : List Char) (z : Int), (Uuid.bare s).length = 32 → Numeral.read? 16 (Uuid.bare s) = some z →
      0 ≤ z ∧ z < 2 ^ 128) ∧
    ∀ (values : List String) (ids : IdSet), parse values = .ok ids →
      ∀ item ∈ items values, ∃ u ∈ ids,
        parse [String.ofList item] = .ok (IdSet.ofList [u]) ∧
        Numeral.read? 16 (Uuid.bare item) = some (u.toNat : Int) ∧ u.toNat < 2 ^ 128 ∧
        u.text.toList.length = 36 ∧ Uuid.Canonical u.toNat u.text.toList ∧
        (∀ capitals hyphens, parse [u.variant capitals hyphens] = .ok (IdSet.ofList [u])) ∧
        ∀ v : Uuid, parse [v.text] = parse [String.ofList item] ↔ v = u := by
  refine ⟨fun s z hlen hz => ?_, fun values ids hids item hitem => ?_⟩
  -- The hyphens are gone, and with them the minus sign.
  · obtain ⟨n, rfl, hwritten⟩ := (Numeral.read?_eq_some_iff (Uuid.notMem_bare s)).mp hz
    exact ⟨Int.natCast_nonneg n, by exact_mod_cast Uuid.lt_of_written hlen hwritten⟩
  · obtain ⟨hnamed, hmem⟩ := parse_eq_ok_iff_named.mp hids
    obtain ⟨u, hu⟩ := hnamed item hitem
    have halone := parse_of_named hitem hu
    have htext (v : Uuid) : parse [v.text] = .ok (IdSet.ofList [v]) := parse_of_denoted v.denoted_text
    refine ⟨u, (hmem u).mpr ⟨item, hitem, hu⟩, halone, Numeral.read?_of_written hu.written, u.isLt, u.length_text,
      u.canonical_text, fun capitals hyphens => parse_of_denoted (u.denoted_variant capitals hyphens), fun v => ?_⟩
    rw [htext, halone, Except.ok.injEq]
    exact ⟨IdSet.ofList_singleton_inj, congrArg fun w => IdSet.ofList [w]⟩

/-- An item in braces, with white space, a sign, a base mark, underscores, capitals and a digit of another script. -/
theorem Filter.parse_canonical_marked :
    let u : Uuid := ⟨58, by decide⟩
    let item := "\x7b-\t+0X_000000000000000000-0000_0_٣A\x7d"
    (Uuid.bare item.toList).length = 32 ∧ Numeral.read? 16 (Uuid.bare item.toList) = some 58 ∧
    (0 ≤ (58 : Int) ∧ (58 : Int) < 2 ^ 128) ∧
    parse [" ," ++ item] = .ok (IdSet.ofList [u]) ∧ parse [item] = .ok (IdSet.ofList [u]) ∧
    u.text = "00000000-0000-0000-0000-00000000003a" ∧ u.variant true false = "0000000000000000000000000000003A" ∧
    parse [u.variant true false] = .ok (IdSet.ofList [u]) ∧
    ∀ v : Uuid, parse [v.text] = parse [item] ↔ v = u := by
  intro u item
  have hitems : items [" ," ++ item] = [item.toList] := by decide
  have hlen : (Uuid.bare item.toList).length = 32 := by decide
  have hread : Numeral.read? 16 (Uuid.bare item.toList) = some 58 := by decide
  have hparse : parse [" ," ++ item] = .ok (IdSet.ofList [u]) :=
    parse_of_reads [u] (fun _ => item.toList) hitems (by decide)
  obtain ⟨hrange, hnames⟩ := parse_canonical
  obtain ⟨v, -, halone, hv, -, -, -, hvariant, honly⟩ :=
    hnames _ _ hparse item.toList (hitems ▸ List.mem_singleton_self _)
  obtain rfl : u = v := Uuid.ext (Int.ofNat_inj.mp (Option.some.inj (hread.symm.trans hv)))
  rw [String.ofList_toList] at halone honly
  have htext : u.text = "00000000-0000-0000-0000-00000000003a" := by decide
  have hcapitals : u.variant true false = "0000000000000000000000000000003A" := by decide
  exact ⟨hlen, hread, hrange _ _ hlen hread, hparse, halone, htext, hcapitals, hvariant true false, honly⟩

open Http in
/-- An item is taken exactly if thirty-two characters are left of it and they are a number of base sixteen, as such
    numbers may be written, and the filter has the identifier of this number. Thirty-two plain digits are such a number;
    and other items that are taken have white space, a sign, a base mark, underscores or digits of another script among
    what is left. The first item that is not taken is the error of the filter; the service answers a request with it by
    400, whatever would be seen of the board, and the command line reports it and ends with 1 and nothing on standard
    output. -/
theorem Filter.parse_named (values : List String) :
    (∀ ids, parse values = .ok ids ↔ (∀ item ∈ items values, ∃ u, Uuid.Named u item) ∧
      ∀ u, u ∈ ids ↔ ∃ item ∈ items values, Uuid.Named u item) ∧
    (∀ item n, Numeral.Hexadecimal 32 n (Uuid.bare item) ↔
      (∃ u : Uuid, u.toNat = n ∧ Uuid.Named u item) ∧ ∀ c ∈ Uuid.bare item, ¬Numeral.Foreign c) ∧
    (∀ e, parse values = .error e ↔ ∃ good rest, items values = good ++ e.item :: rest ∧
      (∀ item ∈ good, ∃ u, Uuid.Named u item) ∧ ¬∃ u, Uuid.Named u e.item) ∧
    ∀ e, parse values = .error e →
      (∀ settings visit store query client headers asJson,
        (Parameters.ofQuery query).all "user_task_ids" = values → wantsJson? (Parameters.ofQuery query) = some asJson →
        let r : Request := { method := "GET", path := "/user_tasks", query, client, headers }
        let response := (handle settings visit r store).response
        response.status = 400 ∧ response.body.json? = some (.object [("error", .string "Bad Request"),
          ("detail", .string ("Invalid user task id: " ++ String.ofList (Text.quoted e.item)))])) ∧
      ∀ w what bytes arguments, Cli.parse arguments = some (.show what) → what.ids = values →
        w.file? what.file = some bytes → Cli.run w arguments = ⟨1, [], some ("❌ Snapshot Error: " ++
          String.ofList (Text.Markup.display
            ("Invalid user task id: " ++ String.ofList (Text.quoted e.item)).toList)), none, none⟩ := by
  refine ⟨fun ids => parse_eq_ok_iff_named, fun item n => Uuid.hexadecimal_bare_iff,
    fun e => parse_eq_error_iff_named, fun e hbad => ⟨?_, ?_⟩⟩
  · rintro settings visit store query client headers asJson rfl hjson r response
    exact handle_rejected (r := r) rfl rfl hjson hbad settings visit store
  · rintro w what bytes arguments hparse rfl hfile
    exact Cli.run_show_rejected hparse hfile hbad

open Http in
/-- The first item is taken although it has a sign, and the second is refused. -/
theorem Filter.parse_named_refused :
    let values := ["+0000000000000000000000000000001, not-a-uuid"]
    let query := "user_task_ids=%2B0000000000000000000000000000001,+not-a-uuid"
    let r : Request := { method := "GET", path := "/user_tasks", query }
    let response := (handle {} ⟨default, 0, some (Fault.named "KeyError" "")⟩ r ⟨1, [], []⟩).response
    let what : Cli.Show := ⟨"s.json", false, values, none⟩
    Uuid.Named ⟨1, by decide⟩ "+0000000000000000000000000000001".toList ∧
    parse values = .error ⟨"not-a-uuid".toList⟩ ∧ response.status = 400 ∧
    response.body.json? = some (.object [("error", .string "Bad Request"),
      ("detail", .string "Invalid user task id: 'not-a-uuid'")]) ∧
    Cli.run ⟨[], [("s.json", .file [])]⟩ what.arguments =
      ⟨1, [], some "❌ Snapshot Error: Invalid user task id: 'not-a-uuid'", none, none⟩ := by
  intro values query r response what
  have hitems : items values = ["+0000000000000000000000000000001".toList] ++ "not-a-uuid".toList :: [] := by decide
  have hnamed : Uuid.Named ⟨1, by decide⟩ "+0000000000000000000000000000001".toList :=
    Uuid.readLoose?_eq_some_iff.mp (by decide)
  have hnone : ¬∃ u, Uuid.Named u "not-a-uuid".toList := Uuid.readLoose?_eq_none_iff.mp (by decide)
  have hquery : (Parameters.ofQuery query).all "user_task_ids" = values := by decide
  have hparse : Cli.parse what.arguments = some (.show what) := Cli.parse_arguments nofun
  have hquoted : "Invalid user task id: " ++ String.ofList (Text.quoted "not-a-uuid".toList) =
    "Invalid user task id: 'not-a-uuid'" := by decide +kernel
  have hshown : String.ofList (Text.Markup.display "Invalid user task id: 'not-a-uuid'".toList) =
    "Invalid user task id: 'not-a-uuid'" := by decide +kernel
  obtain ⟨-, -, herror, htold⟩ := parse_named values
  have hbad : parse values = .error ⟨"not-a-uuid".toList⟩ :=
    (herror _).mpr ⟨_, [], hitems, List.forall_mem_singleton.mpr ⟨_, hnamed⟩, hnone⟩
  obtain ⟨hservice, hcommand⟩ := htold _ hbad
  obtain ⟨hstatus, hbody⟩ := hservice {} ⟨default, 0, some (Fault.named "KeyError" "")⟩ ⟨1, [], []⟩ query none [] false
    hquery (by decide)
  have hfile : World.file? ⟨[], [("s.json", .file [])]⟩ "s.json" = some [] := rfl
  have hrun := hcommand _ what [] what.arguments hparse rfl hfile
  rw [hquoted] at hbody hrun
  rw [hshown] at hrun
  exact ⟨hnamed, hbad, hstatus, hbody, hrun⟩

open Http in
/-- Texts with a sign, a base mark, underscores, white space in braces and the digits of another script. Thirty-two
    plain digits are left of none of them, and none is good for the identifier of a record; but all are taken for the
    number one. A request with such a filter is answered with a report that shows no task, not even its own. -/
theorem Filter.parse_named_broken :
    let one : Uuid := ⟨1, by decide⟩
    let texts := ["+0000000000000000000000000000001", "0x000000000000000000000000000001",
      "00_00_00_00_00_00_00_00_00_00_01", "\x7b 000000000000000000000000000001 \x7d",
      "٠٠٠٠٠٠٠٠-٠٠٠٠-٠٠٠٠-٠٠٠٠-٠٠٠٠٠٠٠٠٠٠٠١"]
    let query := "user_task_ids=%2B0000000000000000000000000000001"
    let r : Request := { method := "GET", path := "/user_tasks", query }
    let response := (handle {} ⟨default, 0, none⟩ r ⟨1, [], []⟩).response
    (∀ text ∈ texts, items [text] = [text.toList] ∧ (¬∃ n, Numeral.Hexadecimal 32 n (Uuid.bare text.toList)) ∧
      (∀ u, Record.idOf (.string text) ≠ .ok u) ∧ parse [text] = .ok (IdSet.ofList [one])) ∧
    response.status = 200 ∧ response.body.Shows [] := by
  intro one texts query r response
  have hitems : ∀ text ∈ texts, items [text] = [text.toList] := by decide
  have hodd : ∀ text ∈ texts, (Uuid.bare text.toList).any (· ∉ Text.hexChars) := by decide
  have hrecord : ∀ text ∈ texts, Uuid.read? text.toList = none := by decide
  have hread : ∀ text ∈ texts, Uuid.readLoose? text.toList = some one := by decide
  have hparse : ∀ text ∈ texts, parse [text] = .ok (IdSet.ofList [one]) := fun text ht =>
    parse_of_reads [one] (fun _ => text.toList) (hitems text ht) (List.forall_mem_singleton.mpr (hread text ht))
  have hquery : (Parameters.ofQuery r.query).all "user_task_ids" = ["+0000000000000000000000000000001"] := by decide
  have hjson : wantsJson? (Parameters.ofQuery r.query) = some false := by decide
  let shown := board ⟨1, [], []⟩ (r.task ⟨default, 0, none⟩)
  have hshort : ∀ q ∈ shown.active ++ shown.completed, q.startMs.natAbs < 10 ^ Numeral.maxDigits :=
    List.forall_mem_singleton.mpr (Numeral.lt_pow_maxDigits (by decide))
  obtain ⟨headers, hshow⟩ := showTasks_shown hjson (hquery ▸ hparse _ List.mem_cons_self)
    (Snapshot.printable_of_short hshort false _)
  have hnone : shown.statuses (IdSet.ofList [one]) = [] := by
    rw [statuses_board, if_neg (by decide)]
    rfl
  have hshown := Body.shows_report shown false 1 (IdSet.ofList [one])
  rw [hnone] at hshown
  have hresponse : response = _ := handle_tasks rfl rfl (List.forall_mem_nil _) hshow
  refine ⟨fun text ht => ⟨hitems text ht, ?_, ?_, hparse text ht⟩, by rw [hresponse]; rfl, ?_⟩
  · rintro ⟨n, hn⟩
    obtain ⟨c, hc, hnot⟩ := List.any_eq_true.mp (hodd text ht)
    exact of_decide_eq_true hnot (hn.mem_hexChars c hc)
  · intro u hu
    rw [Record.idOf, hrecord text ht] at hu
    cases hu
  · rw [hresponse]
    exact hshown

end Taskboard
