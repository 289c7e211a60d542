import Taskboard.Log

/-! What a running program keeps: its loggers, and its settings once they have been read. Settings that could not be
    read are not kept, so that the next one who asks reads them again. -/

namespace Taskboard

structure Session where
  loggers : Registry
  settings : Option Settings

namespace Session

/-- The logger of a name. -/
def logger (s : Session) (name : String) : Logger := s.loggers name

/-- The settings that are kept, or else those of the world. -/
def load (s : Session) (w : World) : Except Failure Settings :=
  match s.settings with
  | some settings => .ok settings
  | none => Settings.ofWorld w

/-- Sets up a logger. -/
def obtain (s : Session) (name : String) (w : World) : Session × Except Failure Logger :=
  let settings := s.load w
  let obtained := s.loggers.obtain name settings
  (⟨obtained.1, settings.toOption⟩, obtained.2)

/-- What happens to a session: the settings are forgotten, or a logger is asked for in a world. -/
inductive Step where
  | forget
  | obtain (name : String) (world : World)

/-- One step, and what is answered if something is asked for. -/
def step (s : Session) : Step → Session × Option (Except Failure Logger)
  | .forget => (⟨s.loggers, none⟩, none)
  | .obtain name world => ((s.obtain name world).1, some (s.obtain name world).2)

/-- The session after some steps. -/
def run (s : Session) (steps : List Step) : Session := steps.foldl (fun s step => (s.step step).1) s

/-- What is answered in some steps. -/
def answers (s : Session) : List Step → List (Except Failure Logger)
  | [] => []
  | step :: steps => (s.step step).2.toList ++ (s.step step).1.answers steps

end Session
end Taskboard
