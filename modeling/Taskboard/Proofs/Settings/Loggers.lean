import Taskboard.Session

/-! Loggers over the run of a program. A logger that is asked for gets its handler before the settings are read, so that
    a call which finds no settings leaves something behind. That does not matter: a second handler is never added, and
    whoever asks later is answered as if the call had not been made (`Session.run_loggers`). -/

namespace Taskboard

namespace Logger
variable {l l' : Logger}

/-- No handler, or the one that a logger gets. -/
def Tidy (l : Logger) : Prop := l.formats = [] ∨ l.formats = [format]

@[simp] theorem level_withHandler (l : Logger) : l.withHandler.level = l.level := by
  unfold withHandler
  split <;> rfl

@[simp] theorem propagate_withHandler (l : Logger) : l.withHandler.propagate = l.propagate := by
  unfold withHandler
  split <;> rfl

theorem formats_withHandler (h : l.Tidy) : l.withHandler.formats = [format] := by
  unfold withHandler
  rcases h with h | h <;> simp only [h]

/-- A handler is added once. -/
@[simp] theorem withHandler_withHandler (l : Logger) : l.withHandler.withHandler = l.withHandler := by
  rcases l with ⟨level, propagate, - | ⟨f, fs⟩⟩ <;> rfl

theorem tidy_withHandler (h : l.Tidy) : l.withHandler.Tidy := .inr (formats_withHandler h)

theorem configure_eq (h : l.Tidy) (settings : Settings) :
    l.configure settings = ⟨settings.logLevel.number, false, [format]⟩ := by
  rw [configure, formats_withHandler h]

theorem tidy_configure (h : l.Tidy) (settings : Settings) : (l.configure settings).Tidy := by
  rw [configure_eq h]
  exact .inr rfl

/-- How a logger is set up does not depend on whether it has its handler yet. -/
theorem configure_congr (h : l.withHandler = l'.withHandler) (settings : Settings) :
    l.configure settings = l'.configure settings := by
  rw [configure, configure, h]

end Logger

namespace Session
variable {s t : Session} {name n : String} {w : World} {settings : Settings} {failure : Failure}

/-! ### One call -/

/-- What a call comes to where there are settings. -/
structure Obtained (s : Session) (name : String) (settings : Settings) (r : Session × Except Failure Logger) :
    Prop where
  kept : r.1.settings = some settings
  answer : r.2 = .ok ((s.logger (Registry.nameOf name)).configure settings)
  named : r.1.logger (Registry.nameOf name) = (s.logger (Registry.nameOf name)).configure settings
  others : ∀ n, n ≠ Registry.nameOf name → r.1.logger n = s.logger n

/-- What a call comes to where there are none. -/
structure Refused (s : Session) (name : String) (failure : Failure) (r : Session × Except Failure Logger) : Prop where
  kept : r.1.settings = none
  answer : r.2 = .error failure
  named : r.1.logger (Registry.nameOf name) = (s.logger (Registry.nameOf name)).withHandler
  others : ∀ n, n ≠ Registry.nameOf name → r.1.logger n = s.logger n

theorem obtain_of_ok (h : s.load w = .ok settings) (name : String) : s.Obtained name settings (s.obtain name w) := by
  unfold obtain
  rw [h]
  exact ⟨rfl, rfl, if_pos rfl, fun n hn => if_neg hn⟩

theorem obtain_of_error (h : s.load w = .error failure) (name : String) : s.Refused name failure (s.obtain name w) := by
  unfold obtain
  rw [h]
  exact ⟨rfl, rfl, if_pos rfl, fun n hn => if_neg hn⟩

theorem settings_eq_none (h : s.load w = .error failure) : s.settings = none := by
  unfold load at h
  split at h
  · cases h
  · assumption

/-- A call reaches no other logger. -/
theorem obtain_other (s : Session) (w : World) (h : n ≠ Registry.nameOf name) :
    (s.obtain name w).1.logger n = s.logger n := by
  cases hload : s.load w with
  | ok settings => exact (obtain_of_ok hload name).others n h
  | error failure => exact (obtain_of_error hload name).others n h

/-! ### At most one handler -/

/-- Every logger has no handler, or the one that it gets. -/
def Tidy (s : Session) : Prop := ∀ n, (s.logger n).Tidy

theorem Tidy.step (h : s.Tidy) (step : Step) : (s.step step).1.Tidy := by
  cases step with
  | forget => exact h
  | obtain name w =>
    intro n
    change ((s.obtain name w).1.logger n).Tidy
    by_cases hn : n = Registry.nameOf name
    · subst hn
      cases hload : s.load w with
      | ok settings =>
        rw [(obtain_of_ok hload name).named]
        exact Logger.tidy_configure (h _) settings
      | error failure =>
        rw [(obtain_of_error hload name).named]
        exact Logger.tidy_withHandler (h _)
    · rw [obtain_other s w hn]
      exact h n

theorem Tidy.run (h : s.Tidy) (steps : List Step) : (s.run steps).Tidy := by
  induction steps generalizing s with
  | nil => exact h
  | cons step steps ih => exact ih (h.step step)

/-! ### What a failed call leaves behind -/

/-- Sessions that differ at most in which loggers have their handler yet. -/
structure Alike (s t : Session) : Prop where
  settings : s.settings = t.settings
  logger : ∀ n, (s.logger n).withHandler = (t.logger n).withHandler

theorem Alike.load (h : Alike s t) (w : World) : s.load w = t.load w := by
  rw [Session.load, Session.load, h.settings]

theorem Alike.obtain (h : Alike s t) (name : String) (w : World) :
    Alike (s.obtain name w).1 (t.obtain name w).1 ∧ (s.obtain name w).2 = (t.obtain name w).2 := by
  have hothers (n : String) (hn : n ≠ Registry.nameOf name) :
      ((s.obtain name w).1.logger n).withHandler = ((t.obtain name w).1.logger n).withHandler := by
    rw [obtain_other s w hn, obtain_other t w hn, h.logger]
  cases hload : s.load w with
  | ok settings =>
    have hs := obtain_of_ok hload name
    have ht := obtain_of_ok (h.load w ▸ hload) name
    have hconfigure := Logger.configure_congr (h.logger (Registry.nameOf name)) settings
    refine ⟨⟨hs.kept.trans ht.kept.symm, fun n => ?_⟩, by rw [hs.answer, ht.answer, hconfigure]⟩
    by_cases hn : n = Registry.nameOf name
    · rw [hn, hs.named, ht.named, hconfigure]
    · exact hothers n hn
  | error failure =>
    have hs := obtain_of_error hload name
    have ht := obtain_of_error (h.load w ▸ hload) name
    refine ⟨⟨hs.kept.trans ht.kept.symm, fun n => ?_⟩, by rw [hs.answer, ht.answer]⟩
    by_cases hn : n = Registry.nameOf name
    · rw [hn, hs.named, ht.named, h.logger]
    · exact hothers n hn

theorem Alike.step (h : Alike s t) (step : Step) :
    Alike (s.step step).1 (t.step step).1 ∧ (s.step step).2 = (t.step step).2 := by
  cases step with
  | forget => exact ⟨⟨rfl, h.logger⟩, rfl⟩
  | obtain name w => exact (h.obtain name w).imp_right (congrArg some)

theorem Alike.answers (h : Alike s t) (steps : List Step) : s.answers steps = t.answers steps := by
  induction steps generalizing s t with
  | nil => rfl
  | cons step steps ih =>
    obtain ⟨hnext, hanswer⟩ := h.step step
    rw [Session.answers, Session.answers, hanswer, ih hnext]

theorem alike_of_error (h : s.load w = .error failure) (name : String) : Alike (s.obtain name w).1 s := by
  have hs := obtain_of_error h name
  refine ⟨hs.kept.trans (settings_eq_none h).symm, fun n => ?_⟩
  by_cases hn : n = Registry.nameOf name
  · -- All that is left behind is the handler, which the next call would add anyway.
    rw [hn, hs.named, Logger.withHandler_withHandler]
  · rw [hs.others n hn]

/-! ### Runs -/

/-- Loggers that have no handlers at first have at most one at every point of a run, in the format of the program. A
    call changes no logger but its own. If there are settings, kept ones or those of the world, the call leaves its
    logger with one handler and the level of the settings, and the logger keeps its events to itself. If there are none,
    the call fails for that reason, no level changes and no logger hands on other events than before, and whatever is
    asked for later is answered as if the call had not been made. -/
theorem run_loggers (s : Session) (h : ∀ n, (s.logger n).formats = []) (before : List Step) (name : String)
    (w : World) :
    let t := s.run before
    let after := (t.obtain name w).1
    (∀ n, (t.logger n).formats = [] ∨ (t.logger n).formats = [Logger.format]) ∧
      (∀ n, n ≠ Registry.nameOf name → after.logger n = t.logger n) ∧
      (∀ settings, t.load w = .ok settings →
        (t.obtain name w).2 = .ok ⟨settings.logLevel.number, false, [Logger.format]⟩ ∧
        after.logger (Registry.nameOf name) = ⟨settings.logLevel.number, false, [Logger.format]⟩) ∧
      ∀ failure, t.load w = .error failure → (t.obtain name w).2 = .error failure ∧
        (∀ n, (after.logger n).level = (t.logger n).level ∧ (after.logger n).propagate = (t.logger n).propagate) ∧
        ∀ later, after.answers later = t.answers later := by
  intro t after
  have hstart : s.Tidy := fun n => .inl (h n)
  have htidy : t.Tidy := hstart.run before
  refine ⟨htidy, fun n hn => obtain_other t w hn, fun settings hload => ?_, fun failure hload => ?_⟩
  · have ht := obtain_of_ok hload name
    have hconfigure := Logger.configure_eq (htidy (Registry.nameOf name)) settings
    exact ⟨by rw [ht.answer, hconfigure], by rw [ht.named, hconfigure]⟩
  · have hafter : Alike after t := alike_of_error hload name
    refine ⟨(obtain_of_error hload name).answer, fun n => ⟨?_, ?_⟩, hafter.answers⟩
    · simpa using congrArg Logger.level (hafter.logger n)
    · simpa using congrArg Logger.propagate (hafter.logger n)

/-- A level that does not exist is given while a logger is asked for the first time; then settings that pass are. -/
theorem run_loggers_refused :
    let quiet : World := ⟨[("LOG_LEVEL", "ERROR")], []⟩
    let wrong : World := ⟨[("LOG_LEVEL", "LOUD")], []⟩
    let s : Session := ⟨.fresh, none⟩
    let t := s.run [.obtain "taskstate" quiet, .forget]
    let after := (t.obtain "taskstate.api" wrong).1
    (∀ n, (s.logger n).formats = []) ∧ after.logger "taskstate" = ⟨40, false, [Logger.format]⟩ ∧
      after.logger "taskstate.api" = ⟨0, true, [Logger.format]⟩ ∧
      after.answers [.obtain "taskstate.api" quiet] = t.answers [.obtain "taskstate.api" quiet] ∧
      t.answers [.obtain "taskstate.api" quiet] = [.ok ⟨40, false, [Logger.format]⟩] := by
  intro quiet wrong s t after
  have hstart : ∀ n, (s.logger n).formats = [] := fun _ => rfl
  have hload : t.load wrong = .error (.rejected ⟨.settings, [⟨.notListed, [.field "LOG_LEVEL"]⟩]⟩) := rfl
  obtain ⟨-, hothers, -, hrefused⟩ := run_loggers s hstart [.obtain "taskstate" quiet, .forget] "taskstate.api" wrong
  obtain ⟨-, -, hlater⟩ := hrefused _ hload
  exact ⟨hstart, (hothers "taskstate" (by decide)).trans rfl, rfl, hlater _, rfl⟩

end Session
end Taskboard
