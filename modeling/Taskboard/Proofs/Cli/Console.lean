import Taskboard.Cli.Console

/-! What a command at work leaves on standard output. A command that writes only where it cannot stop any more
    writes all or nothing (`Console.Silent.bind`, `Console.Silent.bind_allOrNothing`). -/

namespace Taskboard
namespace Cli
namespace Console
variable {α β ε : Type} {c : Console α} {f : α → Console β} {a : α} {b : β} {stop : Stop} {out out' : List UInt8}

/-! ### One step after the other -/

theorem pure_eq_ok_iff {a' : α} : (pure a : Console α) out = .ok a' out' ↔ a = a' ∧ out = out' := by
  constructor
  · rintro ⟨⟩
    exact ⟨rfl, rfl⟩
  · rintro ⟨rfl, rfl⟩
    rfl

theorem bind_eq_ok_iff : (c >>= f) out = .ok b out' ↔ ∃ a mid, c out = .ok a mid ∧ f a mid = .ok b out' := by
  show EStateM.bind c f out = _ ↔ _
  rw [EStateM.bind]
  cases c out with
  | ok a mid =>
    constructor
    · exact fun h => ⟨a, mid, rfl, h⟩
    · rintro ⟨a, mid, ⟨⟩, h⟩
      exact h
  | error stop mid =>
    constructor
    · rintro ⟨⟩
    · rintro ⟨a, mid, ⟨⟩, -⟩

theorem bind_eq_error_iff : (c >>= f) out = .error stop out' ↔
    c out = .error stop out' ∨ ∃ a mid, c out = .ok a mid ∧ f a mid = .error stop out' := by
  show EStateM.bind c f out = _ ↔ _
  rw [EStateM.bind]
  cases c out with
  | ok a mid =>
    constructor
    · exact fun h => .inr ⟨a, mid, rfl, h⟩
    · rintro (⟨⟨⟩⟩ | ⟨a, mid, ⟨⟩, h⟩)
      exact h
  | error stop' mid =>
    constructor
    · rintro ⟨⟩
      exact .inl rfl
    · rintro (⟨⟨⟩⟩ | ⟨a, mid, ⟨⟩, -⟩)
      rfl

theorem write_eq_ok_iff {bytes : List UInt8} {u : Unit} : write bytes out = .ok u out' ↔ out' = out ++ bytes := by
  constructor
  · rintro ⟨⟩
    rfl
  · rintro rfl
    rfl

theorem write_nil : write [] = pure () := by
  funext out
  show EStateM.Result.ok () (out ++ []) = .ok () out
  rw [List.append_nil]

theorem take_eq_ok_iff {stop : ε → Stop} {x : Except ε α} :
    take stop x out = .ok a out' ↔ x = .ok a ∧ out' = out := by
  cases x with
  | ok b =>
    constructor
    · rintro ⟨⟩
      exact ⟨rfl, rfl⟩
    · rintro ⟨⟨⟩, rfl⟩
      rfl
  | error e =>
    constructor
    · rintro ⟨⟩
    · rintro ⟨⟨⟩, -⟩

theorem take_eq_error_iff {stop : ε → Stop} {x : Except ε α} {stopped : Stop} :
    take stop x out = .error stopped out' ↔ ∃ e, x = .error e ∧ stopped = stop e ∧ out' = out := by
  cases x with
  | ok b =>
    constructor
    · rintro ⟨⟩
    · rintro ⟨e, ⟨⟩, -⟩
  | error e =>
    constructor
    · rintro ⟨⟩
      exact ⟨e, rfl, rfl, rfl⟩
    · rintro ⟨e', ⟨⟩, rfl, rfl⟩
      rfl

/-! ### Writing and stopping -/

section Stopping
variable {code : Nat}

/-- The command writes nothing; if it stops, then with the given code. -/
structure Silent (code : Nat) (c : Console α) : Prop where
  ok : ∀ {out a out'}, c out = .ok a out' → out' = out
  error : ∀ {out stop out'}, c out = .error stop out' → stop.exitCode = code ∧ out' = out

/-- The command does not stop. -/
def Unstopped (c : Console α) : Prop := ∀ ⦃out stop out'⦄, c out ≠ .error stop out'

/-- If the command stops, then with the given code, and it has written nothing. -/
def AllOrNothing (code : Nat) (c : Console α) : Prop :=
  ∀ ⦃out stop out'⦄, c out = .error stop out' → stop.exitCode = code ∧ out' = out

theorem silent_pure (a : α) : Silent code (pure a) where
  ok h := (pure_eq_ok_iff.mp h).2.symm
  error := by rintro _ _ _ ⟨⟩

theorem silent_take (stop : ε → Stop) (hcode : ∀ e, (stop e).exitCode = code) (x : Except ε α) :
    Silent code (take stop x) where
  ok h := (take_eq_ok_iff.mp h).2
  error h := by
    obtain ⟨e, -, rfl, hout⟩ := take_eq_error_iff.mp h
    exact ⟨hcode e, hout⟩

theorem Silent.bind (hc : Silent code c) (hf : ∀ a, Silent code (f a)) : Silent code (c >>= f) where
  ok h := by
    obtain ⟨a, mid, hmid, h⟩ := bind_eq_ok_iff.mp h
    rw [(hf a).ok h, hc.ok hmid]
  error h := by
    rcases bind_eq_error_iff.mp h with h | ⟨a, mid, hmid, h⟩
    · exact hc.error h
    · rw [← hc.ok hmid]
      exact (hf a).error h

theorem unstopped_write (bytes : List UInt8) : Unstopped (write bytes) := nofun

theorem Unstopped.bind (hc : Unstopped c) (hf : ∀ a, Unstopped (f a)) : Unstopped (c >>= f) := by
  intro out stop out' h
  rcases bind_eq_error_iff.mp h with h | ⟨a, mid, -, h⟩
  · exact hc h
  · exact hf a h

theorem Unstopped.allOrNothing (hc : Unstopped c) : AllOrNothing code c := fun _ _ _ h => absurd h (@hc _ _ _)

/-- Where a silent command comes first, nothing is written until the rest begins. -/
theorem Silent.bind_allOrNothing (hc : Silent code c) (hf : ∀ a, AllOrNothing code (f a)) :
    AllOrNothing code (c >>= f) := by
  intro out stop out' h
  rcases bind_eq_error_iff.mp h with h | ⟨a, mid, hmid, h⟩
  · exact hc.error h
  · rw [← hc.ok hmid]
    exact hf a h

end Stopping

end Console
end Cli
end Taskboard
