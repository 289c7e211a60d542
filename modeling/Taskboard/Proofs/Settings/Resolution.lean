import Taskboard.Proofs.Checked
import Taskboard.Proofs.Settings.Winner
import Taskboard.Proofs.Text.Utf8

/-! What settings come to. They are made of the winning values and of nothing else: of each variable its own, checked,
    or of all that do not pass the issues, in the order of declaration (`Settings.resolved`). -/

namespace Taskboard

namespace Variable

/-- What a variable is read as. -/
def Value : Variable → Type
  | .stage => Stage
  | .logLevel => Level
  | .jsonVersion => Nat
  | .maxCompleted => Nat
  | .host => String
  | .port => Nat

def check : (v : Variable) → String → Checked v.Value
  | .stage => Settings.oneOf Stage.all Stage.name
  | .logLevel => Settings.oneOf Level.all Level.name
  | .jsonVersion => Settings.count
  | .maxCompleted => Settings.count
  | .host => .ok
  | .port => Settings.portNumber

/-- What is wrong with a value of a variable. -/
def flaw? (v : Variable) (raw : String) : Option Flaw := (v.check raw).issues.head?.map (·.flaw)

end Variable

namespace Settings
variable {s : Sources} {w : World} {raw : String} {v : Variable}

/-- The setting of a variable. -/
def get (settings : Settings) : (v : Variable) → v.Value
  | .stage => settings.stage
  | .logLevel => settings.logLevel
  | .jsonVersion => settings.jsonVersion
  | .maxCompleted => settings.maxCompleted
  | .host => settings.host
  | .port => settings.port

/-- Each default passes. -/
theorem check_default (v : Variable) : v.check v.default = .ok (get {} v) := by
  cases v <;> rfl

/-! ### One variable -/

theorem oneOf_cases {α : Type} (all : List α) (name : α → String) (raw : String) :
    (∃ a, oneOf all name raw = .ok a) ∨ ∃ flaw, oneOf all name raw = .fail flaw := by
  rw [oneOf]
  split
  · exact .inl ⟨_, rfl⟩
  · exact .inr ⟨_, rfl⟩

theorem intOfText_cases (raw : String) :
    (∃ n, Json.intOfText raw = .ok n) ∨ ∃ flaw, Json.intOfText raw = .fail flaw := by
  rw [Json.intOfText]
  split
  · exact .inl ⟨_, rfl⟩
  · exact .inr ⟨_, rfl⟩
  · exact .inr ⟨_, rfl⟩

theorem count_cases (raw : String) : (∃ n, count raw = .ok n) ∨ ∃ flaw, count raw = .fail flaw := by
  rw [count]
  rcases intOfText_cases raw with ⟨n, h⟩ | ⟨flaw, h⟩ <;> rw [h]
  · cases n with
    | ofNat n => exact .inl ⟨n, rfl⟩
    | negSucc n => exact .inr ⟨.tooSmall, rfl⟩
  · exact .inr ⟨flaw, rfl⟩

theorem portNumber_cases (raw : String) : (∃ n, portNumber raw = .ok n) ∨ ∃ flaw, portNumber raw = .fail flaw := by
  rw [portNumber]
  rcases intOfText_cases raw with ⟨n, h⟩ | ⟨flaw, h⟩ <;> rw [h]
  · simp only [Except.bind]
    split
    · exact .inr ⟨_, rfl⟩
    split
    · exact .inr ⟨_, rfl⟩
    · exact .inl ⟨_, rfl⟩
  · exact .inr ⟨flaw, rfl⟩

/-- A value passes or has a single flaw. -/
theorem check_cases (v : Variable) (raw : String) :
    (∃ a, v.check raw = .ok a) ∨ ∃ flaw, v.check raw = .fail flaw := by
  cases v with
  | stage => exact oneOf_cases Stage.all Stage.name raw
  | logLevel => exact oneOf_cases Level.all Level.name raw
  | jsonVersion => exact count_cases raw
  | maxCompleted => exact count_cases raw
  | host => exact .inl ⟨raw, rfl⟩
  | port => exact portNumber_cases raw

theorem flaw?_eq_none_iff : v.flaw? raw = none ↔ ∃ a, v.check raw = .ok a := by
  rw [Variable.flaw?]
  rcases check_cases v raw with ⟨a, h⟩ | ⟨flaw, h⟩ <;> rw [h]
  · exact ⟨fun _ => ⟨a, rfl⟩, fun _ => rfl⟩
  · constructor
    · rintro ⟨⟩
    · rintro ⟨a, ⟨⟩⟩

theorem issues_under_check (v : Variable) (raw : String) : ((v.check raw).under (.field v.name)).issues =
    ((v.flaw? raw).map fun flaw => ⟨flaw, [.field v.name]⟩).toList := by
  rw [Variable.flaw?]
  rcases check_cases v raw with ⟨a, h⟩ | ⟨flaw, h⟩ <;> rw [h] <;> rfl

/-! ### All of them -/

/-- What is read from a world whose env files are texts. -/
def read (w : World) : Sources :=
  ⟨w.given, World.envFiles.map fun file => EnvFile.defineAll w.outside (w.statements file)⟩

theorem ofWorld_eq (h : w.Legible) : ofWorld w = match checked (read w) with
    | .ok settings => .ok settings
    | .error issues => .error (.rejected ⟨.settings, issues⟩) := by
  rw [ofWorld, World.sources_eq h]
  rfl

theorem getD_winner_read (w : World) (v : Variable) : ((read w).winner v).getD v.default = w.winning v := by
  rw [Sources.winner, Sources.valueInFiles, read, ← List.map_reverse, List.findSome?_map]
  rfl

theorem resolve_eq (w : World) (v : Variable) :
    resolve (read w) v (get {} v) v.check = (v.check (w.winning v)).under (.field v.name) := by
  rw [resolve, ← getD_winner_read]
  cases (read w).winner v with
  | none =>
    -- A default is taken unchecked; it makes no difference.
    rw [Option.getD_none, check_default]
    rfl
  | some raw => rfl

theorem checked_eq (w : World) : checked (read w) =
    (((Variable.stage.check (w.winning .stage)).under (.field Variable.stage.name)).both <|
      ((Variable.logLevel.check (w.winning .logLevel)).under (.field Variable.logLevel.name)).both <|
      ((Variable.jsonVersion.check (w.winning .jsonVersion)).under (.field Variable.jsonVersion.name)).both <|
      ((Variable.maxCompleted.check (w.winning .maxCompleted)).under (.field Variable.maxCompleted.name)).both <|
      ((Variable.host.check (w.winning .host)).under (.field Variable.host.name)).both
        ((Variable.port.check (w.winning .port)).under (.field Variable.port.name))).map
      fun (e, l, j, m, h, p) => ⟨e, l, j, m, h, p⟩ := by
  simp only [← resolve_eq]
  rfl

theorem checked_eq_ok_iff {settings : Settings} :
    checked (read w) = .ok settings ↔ ∀ v : Variable, v.check (w.winning v) = .ok (settings.get v) := by
  simp only [checked_eq, Checked.map_eq_ok_iff, Checked.both_eq_ok_iff, Checked.under_eq_ok_iff]
  constructor
  · rintro ⟨⟨e, l, j, m, h, p⟩, ⟨he, hl, hj, hm, hh, hp⟩, rfl⟩ v
    cases v
    · exact he
    · exact hl
    · exact hj
    · exact hm
    · exact hh
    · exact hp
  · intro h
    exact ⟨(_, _, _, _, _, _), ⟨h .stage, h .logLevel, h .jsonVersion, h .maxCompleted, h .host, h .port⟩, rfl⟩

theorem issues_checked (w : World) : (checked (read w)).issues = Variable.all.filterMap fun v =>
    (v.flaw? (w.winning v)).map fun flaw => ⟨flaw, [.field v.name]⟩ := by
  rw [checked_eq, Checked.issues_map, List.filterMap_eq_flatMap_toList]
  simp only [Checked.issues_both, issues_under_check, Variable.all, List.flatMap_cons, List.flatMap_nil,
    List.append_nil]

theorem ofWorld_eq_ok_iff (legible : w.Legible) {settings : Settings} :
    ofWorld w = .ok settings ↔ ∀ v : Variable, v.check (w.winning v) = .ok (settings.get v) := by
  rw [← checked_eq_ok_iff, ofWorld_eq legible]
  cases checked (read w) with
  | ok settings => rw [Except.ok.injEq, Except.ok.injEq]
  | error issues =>
    constructor
    · rintro ⟨⟩
    · rintro ⟨⟩

theorem exists_ofWorld (legible : w.Legible) (h : ∀ v : Variable, ∃ a, v.check (w.winning v) = .ok a) :
    ∃ settings, ofWorld w = .ok settings := by
  choose value hvalue using h
  refine ⟨⟨value .stage, value .logLevel, value .jsonVersion, value .maxCompleted, value .host, value .port⟩, ?_⟩
  rw [ofWorld_eq_ok_iff legible]
  intro v
  rw [hvalue]
  cases v <;> rfl

theorem ofWorld_rejected (legible : w.Legible) (h : ∃ v : Variable, ∀ a, v.check (w.winning v) ≠ .ok a) :
    ofWorld w = .error (.rejected ⟨.settings, Variable.all.filterMap fun v =>
      (v.flaw? (w.winning v)).map fun flaw => ⟨flaw, [.field v.name]⟩⟩) := by
  rw [← issues_checked, ofWorld_eq legible]
  cases hchecked : checked (read w) with
  | ok settings =>
    obtain ⟨v, hv⟩ := h
    exact absurd (checked_eq_ok_iff.mp hchecked v) (hv _)
  | error issues => rfl

/-- Worlds with the same winning values have the same settings. -/
theorem ofWorld_congr {w' : World} (legible : w.Legible) (legible' : w'.Legible)
    (h : ∀ v, w'.winning v = w.winning v) : ofWorld w' = ofWorld w := by
  have hchecked : checked (read w') = checked (read w) := by
    simp only [checked_eq, h]
  rw [ofWorld_eq legible, ofWorld_eq legible', hchecked]

theorem winning_stage_of_none (h : w.value? Variable.stage.name = none) : w.winning .stage = Stage.dev.name := by
  have given : w.given = w.environment ++ (Variable.stage.name, Stage.dev.name) :: [] := by
    rw [World.given_eq, h]
    rfl
  exact (World.wins_iff.mp (.environment given rfl nofun)).symm

theorem winning_stage_of_some {value : String} (h : w.value? Variable.stage.name = some value)
    (alone : ∀ entry ∈ w.environment, SameName entry.1 Variable.stage.name → entry = (Variable.stage.name, value)) :
    w.winning .stage = value := by
  have given : w.given = w.environment := by
    rw [World.given, if_pos (h ▸ rfl)]
  rw [World.winning, given]
  cases hvalue : Sources.valueIn w.environment Variable.stage.name with
  | none =>
    obtain ⟨entry, hfind, -⟩ := Option.map_eq_some_iff.mp h
    have hname := List.find?_some hfind
    rw [decide_eq_true_eq] at hname
    have hother := Sources.valueIn_eq_none_iff.mp hvalue entry (List.mem_of_find?_eq_some hfind)
    exact absurd (congrArg Sources.fold hname) hother
  | some value' =>
    obtain ⟨front, name, back, hentry, hsame, -⟩ := Sources.valueIn_eq_some_iff.mp hvalue
    have hmem : (name, value') ∈ w.environment := hentry ▸ List.mem_append_right front List.mem_cons_self
    exact (Prod.mk.inj (alone _ hmem hsame)).2

/-- A world whose files are texts. -/
def worldOf (environment texts : List (String × String)) : World :=
  ⟨environment, texts.map fun (file, text) => (file, .file (Utf8.encode text))⟩

theorem legible_worldOf (environment texts : List (String × String)) : (worldOf environment texts).Legible := by
  intro file _
  rw [World.text]
  split
  next bytes hnode =>
    obtain ⟨entry, hfind, hentry⟩ := Option.map_eq_some_iff.mp hnode
    obtain ⟨⟨name, text⟩, -, rfl⟩ := List.mem_map.mp (List.mem_of_find?_eq_some hfind)
    obtain rfl : Utf8.encode text = bytes := Node.file.inj hentry
    exact ⟨text.toList, Utf8.decode_eq_ok_iff.mpr (by rw [String.ofList_toList])⟩
  · exact ⟨[], rfl⟩

end Settings
end Taskboard
