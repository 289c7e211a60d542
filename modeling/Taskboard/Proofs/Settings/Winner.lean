import Taskboard.Proofs.Settings.EnvFile
import Taskboard.Settings.Basic

/-! Which value counts for a variable: that of the environment, else what the last env file says that mentions it,
    else a default (`World.Wins`). Definitions that another one overrides, and names that no variable has, may come
    and go as long as no value refers to them (`World.EnvironmentEdit`, `World.FileEdit`). -/

namespace Taskboard

namespace Variable

/-- In the order in which settings are declared. -/
def all : List Variable := [.stage, .logLevel, .jsonVersion, .maxCompleted, .host, .port]

/-- What counts where nothing is given. -/
def default : Variable → String
  | .stage => "dev"
  | .logLevel => "INFO"
  | .jsonVersion => "1"
  | .maxCompleted => "100"
  | .host => "127.0.0.1"
  | .port => "8000"

end Variable

namespace World
variable {w w' : World} {v : Variable}

/-- The env files are texts, as far as there are any. -/
def Legible (w : World) : Prop := ∀ file ∈ envFiles, ∃ text, w.text file = .ok text

/-- The statements of an env file. A directory, and a file that is not there, have none. -/
def statements (w : World) (file : String) : List EnvFile.Statement :=
  EnvFile.statements ((w.text file).toOption.getD [])

/-- The value that counts for a variable. -/
inductive Wins (w : World) (v : Variable) : String → Prop where
  /-- The environment gives it; of several spellings the last one does. -/
  | environment {front back : List (String × String)} {name value : String}
    (given : w.given = front ++ (name, value) :: back) (named : SameName name v.name)
    (last : ∀ entry ∈ back, ¬SameName entry.1 v.name) : Wins w v value
  /-- The last env file that mentions it gives it, or leaves it at the default. -/
  | file {front back : List String} {file : String} {value : Option String}
    (absent : ∀ entry ∈ w.given, ¬SameName entry.1 v.name) (files : envFiles = front ++ file :: back)
    (said : EnvFile.Says w.outside (w.statements file) v.name value)
    (last : ∀ f ∈ back, ∀ d ∈ w.statements f, ¬SameName d.name v.name) : Wins w v (value.getD v.default)
  | default (absent : ∀ entry ∈ w.given, ¬SameName entry.1 v.name)
    (unmentioned : ∀ f ∈ envFiles, ∀ d ∈ w.statements f, ¬SameName d.name v.name) : Wins w v v.default

/-- Variables of the environment, the stage aside, come or go or change. No value refers to them, and those that
    settings have are given again behind them. -/
structure EnvironmentEdit (w w' : World) (front mid mid' back : List (String × String)) : Prop where
  old : w.environment = front ++ mid ++ back
  new : w'.environment = front ++ mid' ++ back
  files : w'.files = w.files
  stage : ∀ entry ∈ mid ++ mid', entry.1 ≠ Variable.stage.name
  unread : ∀ entry ∈ mid ++ mid', ∀ f ∈ envFiles, ¬EnvFile.Reads (w.statements f) entry.1
  overridden : ∀ entry ∈ mid ++ mid', ∀ v : Variable, SameName entry.1 v.name →
    (∃ later ∈ back, SameName later.1 v.name) ∨ v = .stage ∧ w.value? v.name = none

/-- Statements of an env file come or go or change. No value behind them refers to them, and those of variables that
    settings have are overridden: by the environment, by a later file, or by others in the file itself. -/
structure FileEdit (w w' : World) (front : List String) (file : String) (back : List String)
    (before mid mid' after : List EnvFile.Statement) : Prop where
  files : envFiles = front ++ file :: back
  environment : w'.environment = w.environment
  others : ∀ f ∈ front ++ back, w'.text f = w.text f
  legible : ∃ text, w'.text file = .ok text
  old : w.statements file = before ++ mid ++ after
  new : w'.statements file = before ++ mid' ++ after
  unread : ∀ d ∈ mid ++ mid', ¬EnvFile.Reads after d.name
  overridden : ∀ d ∈ mid ++ mid', ∀ v : Variable, SameName d.name v.name →
    (∃ entry ∈ w.given, SameName entry.1 v.name) ∨ (∃ f ∈ back, ∃ e ∈ w.statements f, SameName e.name v.name) ∨
      EnvFile.Idle before mid mid' after v.name

/-! ### The sources -/

theorem sources_eq (h : w.Legible) : w.sources =
    .ok ⟨w.given, envFiles.map fun file => EnvFile.defineAll w.outside (w.statements file)⟩ := by
  have hread (files : List String) (hfiles : ∀ file ∈ files, ∃ text, w.text file = .ok text) :
      files.mapM w.text = .ok (files.map fun file => (w.text file).toOption.getD []) := by
    induction files with
    | nil => rfl
    | cons file files ih =>
      obtain ⟨⟨text, htext⟩, hrest⟩ := List.forall_mem_cons.mp hfiles
      rw [List.mapM_cons, ih hrest, List.map_cons, htext]
      rfl
  rw [sources, hread envFiles h, Except.map, List.map_map]
  rfl

end World

namespace Sources
variable {name : String}

theorem valueIn_eq_some_iff {α : Type} {table : List (String × α)} {value : α} : valueIn table name = some value ↔
    ∃ front n back, table = front ++ (n, value) :: back ∧ SameName n name ∧
      ∀ entry ∈ back, ¬SameName entry.1 name := by
  rw [valueIn, Option.map_eq_some_iff]
  constructor
  · rintro ⟨⟨n, value⟩, hfind, rfl⟩
    obtain ⟨hsame, back, front, hreverse, hback⟩ := List.find?_eq_some_iff_append.mp hfind
    rw [List.reverse_eq_append_iff, List.reverse_cons, List.append_assoc] at hreverse
    refine ⟨front.reverse, n, back.reverse, hreverse, of_decide_eq_true hsame, fun entry hentry => ?_⟩
    have hne := hback entry (List.mem_reverse.mp hentry)
    rwa [Bool.not_eq_eq_eq_not, Bool.not_true, decide_eq_false_iff_not] at hne
  · rintro ⟨front, n, back, rfl, hsame, hback⟩
    refine ⟨(n, value), ?_, rfl⟩
    refine List.find?_eq_some_iff_append.mpr ⟨decide_eq_true hsame, back.reverse, front.reverse, ?_, ?_⟩
    · rw [List.reverse_append, List.reverse_cons, List.append_assoc]
      rfl
    · intro entry hentry
      rw [Bool.not_eq_eq_eq_not, Bool.not_true, decide_eq_false_iff_not]
      exact hback entry (List.mem_reverse.mp hentry)

theorem valueIn_append {α : Type} (l l' : List (String × α)) (name : String) :
    valueIn (l ++ l') name = (valueIn l' name).or (valueIn l name) := by
  rw [valueIn, List.reverse_append, List.find?_append, Option.map_or, valueIn, valueIn]

theorem valueIn_eq_none_iff {α : Type} {table : List (String × α)} : valueIn table name = none ↔
    ∀ entry ∈ table, ¬SameName entry.1 name := by
  rw [valueIn, Option.map_eq_none_iff, List.find?_eq_none]
  simp only [List.mem_reverse, decide_eq_true_eq]
  rfl

end Sources

namespace World
variable {w w' : World} {v : Variable}

/-- What the last file says that mentions a name. -/
def lastMention? (w : World) (name : String) : Option (Option String) :=
  envFiles.reverse.findSome? fun file => Sources.valueIn (EnvFile.defineAll w.outside (w.statements file)) name

theorem lastMention?_eq_some_iff {name : String} {value : Option String} : w.lastMention? name = some value ↔
    ∃ front file back, envFiles = front ++ file :: back ∧ EnvFile.Says w.outside (w.statements file) name value ∧
      ∀ f ∈ back, ∀ d ∈ w.statements f, ¬SameName d.name name := by
  rw [lastMention?, List.findSome?_eq_some_iff]
  simp only [EnvFile.valueIn_defineAll_eq_some_iff, EnvFile.valueIn_defineAll_eq_none_iff,
    List.reverse_eq_append_iff]
  constructor
  · rintro ⟨back, file, front, hfiles, hsays, hback⟩
    rw [List.reverse_cons, List.append_assoc] at hfiles
    exact ⟨front.reverse, file, back.reverse, hfiles, hsays, fun f hf => hback f (List.mem_reverse.mp hf)⟩
  · rintro ⟨front, file, back, hfiles, hsays, hback⟩
    refine ⟨back.reverse, file, front.reverse, ?_, hsays, fun f hf => hback f (List.mem_reverse.mp hf)⟩
    rw [List.reverse_cons, List.reverse_reverse, List.reverse_reverse, List.append_assoc]
    exact hfiles

theorem lastMention?_eq_none_iff {name : String} : w.lastMention? name = none ↔
    ∀ f ∈ envFiles, ∀ d ∈ w.statements f, ¬SameName d.name name := by
  rw [lastMention?, List.findSome?_eq_none_iff]
  simp only [EnvFile.valueIn_defineAll_eq_none_iff, List.mem_reverse]

/-- The value that counts. -/
def winning (w : World) (v : Variable) : String :=
  ((Sources.valueIn w.given v.name).or (w.lastMention? v.name).join).getD v.default

theorem wins_iff {value : String} : w.Wins v value ↔ value = w.winning v := by
  constructor
  · intro h
    cases h with
    | environment given named last =>
      have hgiven := Sources.valueIn_eq_some_iff.mpr ⟨_, _, _, given, named, last⟩
      rw [winning, hgiven]
      rfl
    | file absent files said last =>
      have hgiven := Sources.valueIn_eq_none_iff.mpr absent
      have hfiles := lastMention?_eq_some_iff.mpr ⟨_, _, _, files, said, last⟩
      rw [winning, hgiven, hfiles]
      rfl
    | default absent unmentioned =>
      have hgiven := Sources.valueIn_eq_none_iff.mpr absent
      have hfiles := lastMention?_eq_none_iff.mpr unmentioned
      rw [winning, hgiven, hfiles]
      rfl
  · rintro rfl
    rw [winning]
    cases hgiven : Sources.valueIn w.given v.name with
    | some value =>
      obtain ⟨front, name, back, given, named, last⟩ := Sources.valueIn_eq_some_iff.mp hgiven
      exact .environment given named last
    | none =>
      have absent := Sources.valueIn_eq_none_iff.mp hgiven
      cases hfiles : w.lastMention? v.name with
      | some value =>
        obtain ⟨front, file, back, files, said, last⟩ := lastMention?_eq_some_iff.mp hfiles
        exact .file absent files said last
      | none => exact .default absent (lastMention?_eq_none_iff.mp hfiles)

/-! ### Changes that do not matter -/

/-- The stage that is added where none is given. -/
theorem given_eq (w : World) : w.given = w.environment ++
    if (w.value? Variable.stage.name).isSome then [] else [(Variable.stage.name, Stage.dev.name)] := by
  rw [given]
  split
  · rw [List.append_nil]
  · rfl

theorem findSome?_congr {α β : Type} {f g : α → Option β} {l : List α} (h : ∀ a ∈ l, f a = g a) :
    l.findSome? f = l.findSome? g := by
  induction l with
  | nil => rfl
  | cons a l ih =>
    obtain ⟨ha, hl⟩ := List.forall_mem_cons.mp h
    rw [List.findSome?_cons, List.findSome?_cons, ha, ih hl]

section Environment
variable {front mid mid' back : List (String × String)}

theorem find?_edit {n : String} (h : ∀ entry ∈ mid ++ mid', entry.1 ≠ n) :
    (front ++ mid' ++ back).find? (·.1 = n) = (front ++ mid ++ back).find? (·.1 = n) := by
  obtain ⟨hmid, hmid'⟩ := List.forall_mem_append.mp h
  have hnone {l : List (String × String)} (hl : ∀ entry ∈ l, entry.1 ≠ n) : l.find? (·.1 = n) = none := by
    simpa [List.find?_eq_none] using hl
  simp only [List.find?_append, hnone hmid, hnone hmid']

namespace EnvironmentEdit
variable (edit : EnvironmentEdit w w' front mid mid' back)
include edit

theorem text_eq (f : String) : w'.text f = w.text f := by
  rw [text, node?, edit.files]
  rfl

theorem value?_stage : w'.value? Variable.stage.name = w.value? Variable.stage.name := by
  rw [value?, value?, edit.new, edit.old, find?_edit edit.stage]

theorem outside_eq {n : String} (h : ∀ entry ∈ mid ++ mid', entry.1 ≠ n) : w'.outside n = w.outside n := by
  rw [outside, outside, given_eq, given_eq, edit.value?_stage, edit.new, edit.old, List.append_assoc (front ++ mid'),
    List.append_assoc (front ++ mid), find?_edit h]

theorem valueIn_given (v : Variable) : Sources.valueIn w'.given v.name = Sources.valueIn w.given v.name := by
  rw [given_eq, given_eq, edit.value?_stage, edit.new, edit.old]
  simp only [Sources.valueIn_append]
  by_cases hnamed : ∃ entry ∈ mid ++ mid', SameName entry.1 v.name
  · obtain ⟨entry, hentry, hsame⟩ := hnamed
    -- What overrides one of the changed variables overrides all of this name.
    rcases edit.overridden entry hentry v hsame with ⟨later, hlater, hsame'⟩ | ⟨rfl, hnone⟩
    · have hback : (Sources.valueIn back v.name).isSome := by
        rw [Option.isSome_iff_ne_none]
        exact fun hback => Sources.valueIn_eq_none_iff.mp hback later hlater hsame'
      obtain ⟨value, hvalue⟩ := Option.isSome_iff_exists.mp hback
      rw [hvalue, Option.some_or, Option.some_or]
    · rw [hnone]
      rfl
  · have hnone {l : List (String × String)} (hl : ∀ entry ∈ l, entry ∈ mid ++ mid') :
        Sources.valueIn l v.name = none :=
      Sources.valueIn_eq_none_iff.mpr fun entry hentry hsame => hnamed ⟨entry, hl entry hentry, hsame⟩
    rw [hnone fun _ => List.mem_append_left mid', hnone fun _ => List.mem_append_right mid]

theorem lastMention?_eq (name : String) : w'.lastMention? name = w.lastMention? name := by
  refine findSome?_congr fun f hf => ?_
  rw [List.mem_reverse] at hf
  rw [statements, edit.text_eq, ← statements]
  refine EnvFile.valueIn_outside (fun n hn => edit.outside_eq fun entry hentry heq => ?_) name
  exact edit.unread entry hentry f hf (heq ▸ hn)

theorem winning_eq (v : Variable) : w'.winning v = w.winning v := by
  rw [winning, winning, edit.valueIn_given, edit.lastMention?_eq]

theorem stays_legible (h : w.Legible) : w'.Legible := by
  intro file hfile
  rw [edit.text_eq]
  exact h file hfile

end EnvironmentEdit
end Environment

namespace FileEdit
variable {front back : List String} {file : String} {before mid mid' after : List EnvFile.Statement}
  (edit : FileEdit w w' front file back before mid mid' after)
include edit

theorem given_eq : w'.given = w.given := by
  rw [given, given, value?, value?, edit.environment]

theorem outside_eq : w'.outside = w.outside := by
  funext n
  rw [outside, outside, edit.given_eq]

theorem stays_legible (h : w.Legible) : w'.Legible := by
  intro f hf
  rw [edit.files] at hf
  rcases List.mem_append.mp hf with hf | hf
  · rw [edit.others f (List.mem_append_left _ hf)]
    exact h f (edit.files ▸ List.mem_append_left _ hf)
  rcases List.mem_cons.mp hf with rfl | hf'
  · exact edit.legible
  · rw [edit.others f (List.mem_append_right _ hf')]
    exact h f (edit.files ▸ List.mem_append_right _ hf)

theorem statements_other {f : String} (hf : f ∈ front ++ back) : w'.statements f = w.statements f := by
  rw [statements, statements, edit.others f hf]

/-- A file that mentions a name hides what the files before it say of it. -/
theorem lastMention?_of_later {name : String} (h : ∃ f ∈ back, ∃ e ∈ w.statements f, SameName e.name name) :
    w'.lastMention? name = w.lastMention? name := by
  have hback : (back.reverse.findSome? fun f =>
      Sources.valueIn (EnvFile.defineAll w.outside (w.statements f)) name).isSome := by
    rw [Option.isSome_iff_ne_none]
    intro hnone
    obtain ⟨f, hf, e, he, hsame⟩ := h
    have hnone := List.findSome?_eq_none_iff.mp hnone f (List.mem_reverse.mpr hf)
    exact EnvFile.valueIn_defineAll_eq_none_iff.mp hnone e he hsame
  have hsame : (back.reverse.findSome? fun f =>
      Sources.valueIn (EnvFile.defineAll w'.outside (w'.statements f)) name) =
      back.reverse.findSome? fun f => Sources.valueIn (EnvFile.defineAll w.outside (w.statements f)) name :=
    findSome?_congr fun f hf => by
      rw [edit.outside_eq, edit.statements_other (List.mem_append_right _ (List.mem_reverse.mp hf))]
  obtain ⟨value, hvalue⟩ := Option.isSome_iff_exists.mp hback
  rw [lastMention?, lastMention?, edit.files, List.reverse_append, List.reverse_cons, List.append_assoc,
    List.findSome?_append, hsame, hvalue, Option.some_or, List.findSome?_append, hvalue, Option.some_or]

theorem lastMention?_of_idle {name : String} (h : EnvFile.Idle before mid mid' after name) :
    w'.lastMention? name = w.lastMention? name := by
  refine findSome?_congr fun f hf => ?_
  rw [List.mem_reverse, edit.files] at hf
  rw [edit.outside_eq]
  rcases List.mem_append.mp hf with hf | hf
  · rw [edit.statements_other (List.mem_append_left _ hf)]
  rcases List.mem_cons.mp hf with rfl | hf
  · rw [edit.old, edit.new]
    exact EnvFile.valueIn_edit edit.unread h
  · rw [edit.statements_other (List.mem_append_right _ hf)]

theorem winning_eq (v : Variable) : w'.winning v = w.winning v := by
  rw [winning, winning, edit.given_eq]
  by_cases hnamed : ∃ d ∈ mid ++ mid', SameName d.name v.name
  · obtain ⟨d, hd, hsame⟩ := hnamed
    rcases edit.overridden d hd v hsame with ⟨entry, hentry, hsame'⟩ | hlater | hidle
    · cases hgiven : Sources.valueIn w.given v.name with
      | some value => rw [Option.some_or, Option.some_or]
      | none => exact absurd hsame' (Sources.valueIn_eq_none_iff.mp hgiven entry hentry)
    · rw [edit.lastMention?_of_later hlater]
    · rw [edit.lastMention?_of_idle hidle]
  · have hunnamed : ∀ d ∈ mid ++ mid', ¬SameName d.name v.name := fun d hd hsame => hnamed ⟨d, hd, hsame⟩
    rw [edit.lastMention?_of_idle (EnvFile.idle_of_unnamed hunnamed)]

end FileEdit

end World
end Taskboard
