import Taskboard.Cli.Run
import Taskboard.Proofs.Cli.Console
import Taskboard.Proofs.Report.Delivery
import Taskboard.Proofs.Task.Filter

/-! What `show` writes. A command line that asks for it ends with code 0 and the whole report on standard output,
    or with another code and nothing there (`show_all_or_nothing`). -/

namespace Taskboard
namespace Cli

/-! ### What is to be shown -/

/-- A file holds a snapshot, and the items of the filter are the identifiers of a set. -/
structure Show.Reads (what : Show) (bytes : List UInt8) (s : Snapshot) (ids : IdSet) : Prop where
  snapshot : ∃ text, bytes = Utf8.encode (String.ofList text) ∧ Snapshot.ofText text = .ok s
  items : ∀ item ∈ Filter.items what.ids, (Uuid.readLoose? item).isSome
  mem : ∀ u, u ∈ ids ↔ ∃ item ∈ Filter.items what.ids, Uuid.readLoose? item = some u

/-- The report that is asked for. -/
inductive Show.Prints (w : World) (what : Show) (s : Snapshot) (ids : IdSet) : String → Prop where
  | table {settings : Settings} (json : what.asJson = false) (loaded : Settings.ofWorld w = .ok settings) :
    Prints w what s ids (s.table ids)
  | document {version : Nat} (json : what.asJson = true) (given : what.version = some version) :
    Prints w what s ids (s.json version ids)
  | settledDocument {settings : Settings} (json : what.asJson = true) (given : what.version = none)
    (loaded : Settings.ofWorld w = .ok settings) : Prints w what s ids (s.json settings.jsonVersion ids)

theorem Show.Reads.unique {what : Show} {bytes : List UInt8} {s s' : Snapshot} {ids ids' : IdSet}
    (h : what.Reads bytes s ids) (h' : what.Reads bytes s' ids') : s = s' ∧ ids = ids' := by
  obtain ⟨⟨text, hbytes, htext⟩, -, hmem⟩ := h
  obtain ⟨⟨text', hbytes', htext'⟩, -, hmem'⟩ := h'
  have hsame := Utf8.decode_eq_ok_iff.mpr hbytes
  rw [Utf8.decode_eq_ok_iff.mpr hbytes', Except.ok.injEq] at hsame
  rw [hsame, htext, Except.ok.injEq] at htext'
  exact ⟨htext', IdSet.eq_of_mem_iff fun u => (hmem u).trans (hmem' u).symm⟩

theorem readSnapshot_eq_ok_iff {bytes : List UInt8} {s : Snapshot} : readSnapshot bytes = .ok s ↔
    ∃ text, bytes = Utf8.encode (String.ofList text) ∧ Snapshot.ofText text = .ok s := by
  simp only [← Utf8.decode_eq_ok_iff]
  unfold readSnapshot
  constructor
  · split
    · rintro ⟨⟩
    next text hdecode =>
      split
      next hread =>
        rintro ⟨⟩
        exact ⟨text, hdecode, hread⟩
      · rintro ⟨⟩
  · rintro ⟨text, hdecode, hread⟩
    rw [hdecode]
    simp only [hread]

/-! ### What is done -/

section Perform
variable {w : World} {what : Show} {s : Snapshot} {ids : IdSet} {bytes out out' : List UInt8} {stop : Stop}
open Console

theorem obtain_eq_ok_iff (r : Registry) (name : String) {settings : Except Failure Settings} :
    (∃ l, (r.obtain name settings).2 = .ok l) ↔ ∃ s, settings = .ok s := by
  cases settings with
  | ok s => exact ⟨fun _ => ⟨s, rfl⟩, fun _ => ⟨_, rfl⟩⟩
  | error f =>
    constructor
    · rintro ⟨l, ⟨⟩⟩
    · rintro ⟨s, ⟨⟩⟩

/-- Standard output takes a table that is printed, so there is nothing to stop at behind that. -/
theorem table_eq (w : World) (s : Snapshot) (ids : IdSet) : Show.table w s ids =
    (take .failure (Registry.fresh.obtain Show.logger (Settings.ofWorld w)).2 >>= fun _ =>
      take (fun f : Fault => .failure (.fault f)) (s.table? ids) >>= fun table =>
        write (Utf8.encode table) >>= fun _ => write (Utf8.encode "\n")) := by
  cases hprint : s.table? ids with
  | ok table =>
    have htaken : Sink.willing (Utf8.encode table) = none := rfl
    simp only [Show.table, Snapshot.deliver_of_taken hprint htaken, List.flatten_singleton, take, pure_bind]
  | error f =>
    simp only [Show.table, Snapshot.deliver_of_unprinted hprint, List.flatten_nil, write_nil, take, pure_bind]
    rfl

theorem allOrNothing_table (w : World) (s : Snapshot) (ids : IdSet) : AllOrNothing 1 (Show.table w s ids) := by
  rw [table_eq]
  refine (silent_take .failure (fun _ => rfl) _).bind_allOrNothing fun _ => ?_
  refine (silent_take (fun f : Fault => .failure (.fault f)) (fun _ => rfl) _).bind_allOrNothing fun table => ?_
  exact Unstopped.allOrNothing ((unstopped_write _).bind fun _ => unstopped_write _)

theorem table_eq_ok_iff (h : s.ShortYears) : Show.table w s ids out = .ok () out' ↔
    (∃ settings, Settings.ofWorld w = .ok settings) ∧ out' = out ++ Utf8.encode (s.table ids ++ "\n") := by
  rw [table_eq, Utf8.encode_append, ← List.append_assoc, ← obtain_eq_ok_iff Registry.fresh Show.logger]
  simp only [bind_eq_ok_iff, take_eq_ok_iff, write_eq_ok_iff, Snapshot.table?_of_short h]
  constructor
  · rintro ⟨l, -, ⟨hl, rfl⟩, -, -, ⟨⟨⟩, rfl⟩, -, -, rfl, rfl⟩
    exact ⟨⟨l, hl⟩, rfl⟩
  · rintro ⟨⟨l, hl⟩, rfl⟩
    exact ⟨l, out, ⟨hl, rfl⟩, s.table ids, out, ⟨rfl, rfl⟩, (), _, rfl, rfl⟩

theorem silent_documentVersion (w : World) (version : Option Nat) : Silent 1 (Show.documentVersion w version) := by
  cases version with
  | some version => exact silent_pure version
  | none => exact (silent_take .failure (fun _ => rfl) _).bind fun settings => silent_pure _

theorem allOrNothing_document (w : World) (version : Option Nat) (s : Snapshot) (ids : IdSet) :
    AllOrNothing 1 (Show.document w version s ids) := by
  refine (silent_documentVersion w version).bind_allOrNothing fun _ => ?_
  refine (silent_take (fun f : Fault => .failure (.fault f)) (fun _ => rfl) _).bind_allOrNothing fun text => ?_
  exact (unstopped_write _).allOrNothing

theorem documentVersion_eq_ok_iff {version : Option Nat} {n : Nat} : Show.documentVersion w version out = .ok n out' ↔
    (version = some n ∨ version = none ∧ ∃ settings, Settings.ofWorld w = .ok settings ∧ settings.jsonVersion = n) ∧
      out' = out := by
  cases version with
  | some version =>
    rw [Show.documentVersion, pure_eq_ok_iff]
    constructor
    · rintro ⟨rfl, rfl⟩
      exact ⟨.inl rfl, rfl⟩
    · rintro ⟨⟨⟨⟩⟩ | ⟨⟨⟩, -⟩, rfl⟩
      exact ⟨rfl, rfl⟩
  | none =>
    rw [Show.documentVersion, bind_eq_ok_iff]
    constructor
    · rintro ⟨settings, mid, htake, hpure⟩
      obtain ⟨hsettings, rfl⟩ := take_eq_ok_iff.mp htake
      obtain ⟨rfl, rfl⟩ := pure_eq_ok_iff.mp hpure
      exact ⟨.inr ⟨rfl, settings, hsettings, rfl⟩, rfl⟩
    · rintro ⟨⟨⟨⟩⟩ | ⟨-, settings, hsettings, rfl⟩, rfl⟩
      exact ⟨settings, out', take_eq_ok_iff.mpr ⟨hsettings, rfl⟩, rfl⟩

theorem document_eq_ok_iff {version : Option Nat} (h : s.ShortStarts ids) :
    Show.document w version s ids out = .ok () out' ↔
    ∃ n, (version = some n ∨
      version = none ∧ ∃ settings, Settings.ofWorld w = .ok settings ∧ settings.jsonVersion = n) ∧
      out' = out ++ Utf8.encode (s.json n ids ++ "\n") := by
  simp only [Show.document, Console.echo, bind_eq_ok_iff, documentVersion_eq_ok_iff, take_eq_ok_iff, write_eq_ok_iff,
    Snapshot.document?_of_short h]
  constructor
  · rintro ⟨n, -, ⟨hversion, rfl⟩, -, -, ⟨⟨⟩, rfl⟩, rfl⟩
    exact ⟨n, hversion, rfl⟩
  · rintro ⟨n, hversion, rfl⟩
    exact ⟨n, out, ⟨hversion, rfl⟩, s.json n ids, out, ⟨rfl, rfl⟩, rfl⟩

theorem prints_eq_ok_iff (h : ∀ r ∈ s.active ++ s.completed, r.startMs.natAbs < 10 ^ Numeral.maxDigits) :
    (if what.asJson then Show.document w what.version s ids else Show.table w s ids) out = .ok () out' ↔
      ∃ report, what.Prints w s ids report ∧ out' = out ++ Utf8.encode (report ++ "\n") := by
  cases hjson : what.asJson with
  | true =>
    rw [if_pos rfl, document_eq_ok_iff (Snapshot.shortStarts_of_short h ids)]
    constructor
    · rintro ⟨n, hversion | ⟨hversion, settings, hsettings, rfl⟩, rfl⟩
      · exact ⟨_, .document hjson hversion, rfl⟩
      · exact ⟨_, .settledDocument hjson hversion hsettings, rfl⟩
    · rintro ⟨report, hprints, rfl⟩
      cases hprints with
      | table json => exact absurd (hjson.symm.trans json) (by decide)
      | document json given => exact ⟨_, .inl given, rfl⟩
      | settledDocument json given loaded => exact ⟨_, .inr ⟨given, _, loaded, rfl⟩, rfl⟩
  | false =>
    rw [if_neg Bool.false_ne_true, table_eq_ok_iff (Snapshot.shortYears_of_short h)]
    constructor
    · rintro ⟨⟨settings, hsettings⟩, rfl⟩
      exact ⟨_, .table hjson hsettings, rfl⟩
    · rintro ⟨report, hprints, rfl⟩
      cases hprints with
      | table json loaded => exact ⟨⟨_, loaded⟩, rfl⟩
      | document json => exact absurd (hjson.symm.trans json) (by decide)
      | settledDocument json => exact absurd (hjson.symm.trans json) (by decide)

theorem perform_eq_ok_iff (hfile : w.file? what.file = some bytes) : what.perform w out = .ok () out' ↔
    ∃ s ids report, what.Reads bytes s ids ∧ what.Prints w s ids report ∧
      out' = out ++ Utf8.encode (report ++ "\n") := by
  have hshort {s : Snapshot} (hs : ∃ text, bytes = Utf8.encode (String.ofList text) ∧ Snapshot.ofText text = .ok s) :
      ∀ r ∈ s.active ++ s.completed, r.startMs.natAbs < 10 ^ Numeral.maxDigits := by
    obtain ⟨text, -, hread⟩ := hs
    exact Snapshot.short_of_ofText hread
  simp only [Show.perform, hfile, bind_eq_ok_iff, take_eq_ok_iff, Filter.parse_eq_ok_iff, readSnapshot_eq_ok_iff]
  constructor
  · rintro ⟨ids, _, ⟨⟨hitems, hmem⟩, rfl⟩, s, _, ⟨hs, rfl⟩, hreport⟩
    obtain ⟨report, hprints, rfl⟩ := (prints_eq_ok_iff (hshort hs)).mp hreport
    exact ⟨s, ids, report, ⟨hs, hitems, hmem⟩, hprints, rfl⟩
  · rintro ⟨s, ids, report, ⟨hs, hitems, hmem⟩, hprints, rfl⟩
    refine ⟨ids, out, ⟨⟨hitems, hmem⟩, rfl⟩, s, out, ⟨hs, rfl⟩, ?_⟩
    exact (prints_eq_ok_iff (hshort hs)).mpr ⟨report, hprints, rfl⟩

theorem allOrNothing_perform (hfile : w.file? what.file = some bytes) : AllOrNothing 1 (what.perform w) := by
  simp only [Show.perform, hfile]
  refine (silent_take (fun e : Filter.BadItem => .refused e.message) (fun _ => rfl) _).bind_allOrNothing fun ids => ?_
  refine (silent_take .refused (fun _ => rfl) _).bind_allOrNothing fun s => ?_
  split
  · exact allOrNothing_document w what.version s ids
  · exact allOrNothing_table w s ids

/-- No setting is looked at for a document whose version is given. -/
theorem perform_congr {w' : World} (hjson : what.asJson = true) (hversion : what.version.isSome)
    (hfile : w'.file? what.file = w.file? what.file) : what.perform w' = what.perform w := by
  obtain ⟨version, hversion⟩ := Option.isSome_iff_exists.mp hversion
  simp only [Show.perform, hfile, hjson, hversion]
  rfl

end Perform

/-! ### The command line -/

namespace Show
variable (what : Show)

/-- A command line that asks for what is to be shown. -/
def arguments : List String :=
  "show" :: ((if what.asJson then ["--json"] else []) ++ (what.ids.flatMap (fun ids => ["--id", ids]) ++
    ((what.version.elim [] fun n => ["--version", String.ofList (Numeral.decimal n)]) ++ ["--", what.file])))

/-- The options that it is taken apart into. -/
def options : List (Given ShowOption) :=
  (if what.asJson then [⟨.json, ""⟩] else []) ++ (what.ids.map (⟨.id, ·⟩) ++
    what.version.elim [] fun n => [⟨.version, String.ofList (Numeral.decimal n)⟩])

theorem parse_tail_arguments : showGrammar.parse what.arguments.tail = some ⟨what.options, [what.file]⟩ := by
  have hversion : showGrammar.parse ((what.version.elim [] fun n => ["--version", String.ofList (Numeral.decimal n)]) ++
      ["--", what.file]) =
      some ⟨what.version.elim [] fun n => [⟨.version, String.ofList (Numeral.decimal n)⟩], [what.file]⟩ := by
    cases what.version <;> rfl
  have hids : showGrammar.parse (what.ids.flatMap (fun ids => ["--id", ids]) ++
      ((what.version.elim [] fun n => ["--version", String.ofList (Numeral.decimal n)]) ++ ["--", what.file])) =
      some ⟨what.ids.map (⟨.id, ·⟩) ++
        what.version.elim [] fun n => [⟨.version, String.ofList (Numeral.decimal n)⟩], [what.file]⟩ := by
    induction what.ids with
    | nil => exact hversion
    | cons ids rest ih =>
      have hclass : showGrammar.classify "--id" = .awaiting [] .id := rfl
      rw [List.flatMap_cons, List.append_assoc, List.cons_append, List.cons_append, List.nil_append, Grammar.parse,
        hclass]
      simp only [ih]
      rfl
  have hclass : showGrammar.classify "--json" = .options [⟨.json, ""⟩] := rfl
  rw [arguments, List.tail_cons, options]
  cases what.asJson with
  | true =>
    rw [if_pos rfl, if_pos rfl, List.singleton_append, Grammar.parse, hclass]
    simp only [hids]
    rfl
  | false => exact hids

end Show

theorem natOption_decimal {n : Nat} (h : n < 10 ^ Numeral.maxDigits) :
    natOption (some (String.ofList (Numeral.decimal n))) = some (some n) := by
  have hread : Lenient.read (Numeral.decimal n) = .ok n := Lenient.read_ofInt (n := n) h
  simp only [natOption, intOption, String.toList_ofList, hread]

/-- The command line asks for what is to be shown, unless the version has more digits than a number is read with. -/
theorem parse_arguments {what : Show} (h : ∀ n ∈ what.version, n < 10 ^ Numeral.maxDigits) :
    parse what.arguments = some (.show what) := by
  have hids : (what.options.filter (·.option = .id)).map (·.value) = what.ids := by
    rw [Show.options]
    cases what.asJson <;> cases what.version <;> simp [List.filter_map, Function.comp_def]
  have hversion : natOption ((what.options.filter (·.option = .version)).map (·.value)).getLast? =
      some what.version := by
    rw [Show.options]
    cases hv : what.version with
    | none => cases what.asJson <;> simp [List.filter_map, Function.comp_def, natOption, intOption]
    | some n => cases what.asJson <;> simp [List.filter_map, Function.comp_def, natOption_decimal (h n hv)]
  have hjson : what.options.any (·.option = .json) = what.asJson := by
    rw [Show.options]
    cases what.asJson <;> cases what.version <;> simp
  have hshow : parseShow what.arguments.tail = some what := by
    rw [parseShow, what.parse_tail_arguments]
    simp only [Option.bind_eq_bind, Option.bind_some, Arguments.last?, Arguments.values, Arguments.has, hids, hversion,
      hjson]
    rfl
  show (parseShow what.arguments.tail).map Command.show = _
  rw [hshow]
  rfl

section Run
variable {w : World} {what : Show} {bytes : List UInt8} {arguments : List String}

theorem run_show (h : parse arguments = some (.show what)) :
    run w arguments = .of (what.perform w >>= fun _ => pure none) := by
  rw [run, h]
  rfl

/-- The filter is looked at before the file, and its error is reported. -/
theorem run_show_rejected {e : Filter.BadItem} (hparse : parse arguments = some (.show what))
    (hfile : w.file? what.file = some bytes) (hbad : Filter.parse what.ids = .error e) :
    run w arguments = ⟨1, [], some ("❌ Snapshot Error: " ++ String.ofList (Text.Markup.display e.message.toList)),
      none, none⟩ := by
  rw [run_show hparse]
  simp only [Show.perform, hfile, hbad]
  rfl

theorem run_show_cases (hparse : parse arguments = some (.show what)) (hfile : w.file? what.file = some bytes) :
    ((run w arguments).exitCode = 0 ∧ ∃ s ids report, what.Reads bytes s ids ∧ what.Prints w s ids report ∧
        (run w arguments).written = Utf8.encode (report ++ "\n")) ∨
      ((run w arguments).exitCode = 1 ∧ (run w arguments).written = [] ∧
        ∀ s ids report, what.Reads bytes s ids → ¬what.Prints w s ids report) := by
  rw [run_show hparse]
  cases hperform : what.perform w [] with
  | ok u written =>
    have hcommand : (what.perform w >>= fun _ => (pure none : Console (Option Launch))) [] = .ok none written :=
      Console.bind_eq_ok_iff.mpr ⟨u, written, hperform, rfl⟩
    obtain ⟨s, ids, report, hreads, hprints, hwritten⟩ := (perform_eq_ok_iff hfile).mp hperform
    rw [Outcome.of, hcommand]
    exact .inl ⟨rfl, s, ids, report, hreads, hprints, hwritten⟩
  | error stop written =>
    have hcommand : (what.perform w >>= fun _ => (pure none : Console (Option Launch))) [] = .error stop written :=
      Console.bind_eq_error_iff.mpr (.inl hperform)
    obtain ⟨hcode, hwritten⟩ := allOrNothing_perform hfile hperform
    rw [Outcome.of, hcommand]
    -- If there were a report, the command would not have stopped.
    refine .inr ⟨hcode, hwritten, fun s ids report hreads hprints => ?_⟩
    have hok : what.perform w [] = .ok () ([] ++ Utf8.encode (report ++ "\n")) :=
      (perform_eq_ok_iff hfile).mpr ⟨s, ids, report, hreads, hprints, rfl⟩
    rw [hperform] at hok
    cases hok

end Run

end Cli
end Taskboard
