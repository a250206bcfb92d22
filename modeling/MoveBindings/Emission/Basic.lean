import MoveBindings.Diagnostic.Log
import MoveBindings.Failure

/-!
# Emissions

An emission is a step of generation: it finds diagnostics and then has a result
or fails. A sequence of emissions finds what each of its steps finds, in order;
it ends at the first failure and keeps what was found until then.
-/

namespace MoveBindings

/-- What a step of generation finds, and its result. -/
structure Emission (α : Type) where
  found : List Diagnostic
  outcome : Except Failure α

namespace Emission

variable {α β : Type}

/-- A step that finds nothing. -/
def ofResult (a : α) : Emission α := ⟨[], .ok a⟩

/-- A step that fails. -/
def fail (failure : Failure) : Emission α := ⟨[], .error failure⟩

/-- A step that finds one thing. -/
def note (d : Diagnostic) : Emission Unit := ⟨[d], .ok ()⟩

/-- A step that finds nothing and has a given outcome. -/
def ofExcept (outcome : Except Failure α) : Emission α := ⟨[], outcome⟩

/-- One step after the other. -/
def andThen (first : Emission α) (next : α → Emission β) : Emission β :=
  match first.outcome with
  | .ok a => ⟨first.found ++ (next a).found, (next a).outcome⟩
  | .error failure => ⟨first.found, .error failure⟩

instance : Monad Emission where
  pure := ofResult
  bind := andThen

theorem pure_def (a : α) : (pure a : Emission α) = ⟨[], .ok a⟩ := rfl

theorem bind_def (first : Emission α) (next : α → Emission β) :
    first >>= next = first.andThen next := rfl

theorem map_id (x : Emission α) : id <$> x = x := by
  obtain ⟨found, outcome⟩ := x
  cases outcome <;> simp [Functor.map, andThen, ofResult]

theorem pure_andThen (a : α) (next : α → Emission β) : pure a >>= next = next a := by
  simp [bind_def, pure_def, andThen]

theorem andThen_assoc {γ : Type} (x : Emission α) (f : α → Emission β) (g : β → Emission γ) :
    x >>= f >>= g = x >>= fun a => f a >>= g := by
  obtain ⟨found, outcome⟩ := x
  cases outcome with
  | error failure => simp [bind_def, andThen]
  | ok a =>
    simp only [bind_def, andThen]
    cases (f a).outcome <;> simp

instance : LawfulMonad Emission := LawfulMonad.mk' Emission map_id pure_andThen andThen_assoc

/-- The results of a sequence are those of its steps. -/
theorem outcome_bind (first : Emission α) (next : α → Emission β) :
    (first >>= next).outcome = first.outcome >>= fun a => (next a).outcome := by
  obtain ⟨found, outcome⟩ := first
  cases outcome <;> rfl

/-- A sequence succeeds exactly when both of its steps do. -/
theorem outcome_bind_eq_ok_iff {first : Emission α} {next : α → Emission β} {b : β} :
    (first >>= next).outcome = .ok b ↔
      ∃ a, first.outcome = .ok a ∧ (next a).outcome = .ok b := by
  obtain ⟨found, outcome⟩ := first
  cases outcome with
  | error failure => simp [bind_def, andThen]
  | ok a => simp [bind_def, andThen]

/-- After a successful step a sequence goes on to find what the next one finds. -/
theorem found_bind_of_ok {first : Emission α} {a : α} (h : first.outcome = .ok a)
    (next : α → Emission β) : (first >>= next).found = first.found ++ (next a).found := by
  simp [bind_def, andThen, h]

/-- After a failure nothing more is found. -/
theorem found_bind_of_error {first : Emission α} {failure : Failure}
    (h : first.outcome = .error failure) (next : α → Emission β) :
    (first >>= next).found = first.found := by
  simp [bind_def, andThen, h]

/-- Adds what an emission finds to a log. -/
def record (emission : Emission α) (log : Log) : Except Failure α × Log :=
  (emission.outcome, log.append emission.found)

end Emission

end MoveBindings
