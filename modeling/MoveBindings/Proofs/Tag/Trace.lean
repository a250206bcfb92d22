import MoveBindings.Tag.Reader

/-!
# What the reader of tags begins

To read a tag the reader calls itself for the element of a vector and for the
parameters of a struct, where each parameter after the first takes another pass of
a loop. A trace has a record of every call and every pass, with the number of
characters that are left where it begins. The traced reader is the reader of tags
with these records added: both come to the same outcome.
-/

namespace MoveBindings.Tag.Reader

open Text

/-- What is begun where some characters are left: to read a tag, with all that is begun inside it,
or one more pass over parameters. -/
inductive Event where
  | call (left : Nat) (inner : List Event)
  | pass (left : Nat)

/-- An outcome, and what was begun on the way. -/
structure Traced (α : Type) where
  events : List Event
  outcome : Except (Stop Problem) α

namespace Traced

variable {α β : Type}

instance : Monad Traced where
  pure a := ⟨[], .ok a⟩
  bind first next :=
    match first.outcome with
    | .ok a => ⟨first.events ++ (next a).events, (next a).outcome⟩
    | .error stop => ⟨first.events, .error stop⟩

/-- A step in which nothing is begun. -/
def step (outcome : Except (Stop Problem) α) : Traced α := ⟨[], outcome⟩

/-- Begins to read a tag. -/
def calling (left : Nat) (body : Traced α) : Traced α :=
  ⟨[.call left body.events], body.outcome⟩

/-- Begins one more pass. -/
def passing (left : Nat) (body : Traced α) : Traced α :=
  ⟨.pass left :: body.events, body.outcome⟩

@[simp] theorem outcome_pure (a : α) : (pure a : Traced α).outcome = .ok a := rfl

@[simp] theorem outcome_step (outcome : Except (Stop Problem) α) :
    (step outcome).outcome = outcome := rfl

@[simp] theorem outcome_calling (left : Nat) (body : Traced α) :
    (calling left body).outcome = body.outcome := rfl

@[simp] theorem outcome_passing (left : Nat) (body : Traced α) :
    (passing left body).outcome = body.outcome := rfl

@[simp] theorem outcome_bind (first : Traced α) (next : α → Traced β) :
    (first >>= next).outcome = first.outcome >>= fun a => (next a).outcome := by
  simp only [bind]
  cases first.outcome <;> rfl

mutual

/-- Reads a tag off the front of a text, traced. -/
def tag (text : List Char) : Traced (Reading Tag text) := calling text.length do
  let ⟨keyword, afterWord, h⟩ ← step (word text)
  if keyword ∈ scalarNames then
    return ⟨.scalar keyword, afterWord, h⟩
  else if keyword = vectorName then
    let ⟨_, inside, h₁⟩ ← step (token .opening afterWord)
    let ⟨element, afterElement, h₂⟩ ← tag inside
    let ⟨_, rest, h₃⟩ ← step (token .closing afterElement)
    return ⟨.vector element, rest, by omega⟩
  else
    let ⟨_, afterAddress, h₁⟩ ← step (token .doubleColon afterWord)
    let ⟨module, afterModule, h₂⟩ ← step (word afterAddress)
    let ⟨_, beforeName, h₃⟩ ← step (token .doubleColon afterModule)
    let ⟨name, afterName, h₄⟩ ← step (word beforeName)
    match firstNonBlank? afterName with
    | some ⟨'<', inside, h₅⟩ =>
      let ⟨params, rest, h₆⟩ ← tags inside
      return ⟨.struct ⟨keyword, module, name⟩ params, rest, by omega⟩
    | _ => return ⟨.struct ⟨keyword, module, name⟩ [], afterName, by omega⟩
termination_by (text.length, 0)

/-- Reads tags separated by commas, up to the closing angle bracket, traced. Every comma begins a
pass. -/
def tags (text : List Char) : Traced (Reading (List Tag) text) := do
  let ⟨first, afterFirst, h⟩ ← tag text
  match firstNonBlank? afterFirst with
  | some ⟨',', more, h₁⟩ =>
    passing (skipBlank afterFirst).length do
      let ⟨others, rest, h₂⟩ ← tags more
      return ⟨first :: others, rest, by omega⟩
  | _ =>
    let ⟨_, rest, h₁⟩ ← step (token .closing afterFirst)
    return ⟨[first], rest, by omega⟩
termination_by (text.length, 1)

end

/-- To read a tag is one call. -/
theorem exists_events_tag (text : List Char) :
    ∃ inner, (tag text).events = [.call text.length inner] := by
  rw [tag]
  exact ⟨_, rfl⟩

mutual

/-- The traced reader comes to the outcome of the reader. -/
theorem outcome_tag (text : List Char) : (tag text).outcome = Reader.tag text := by
  rw [tag, Reader.tag, outcome_calling, outcome_bind, outcome_step]
  refine bind_congr fun keyword => ?_
  have := keyword.shorter
  dsimp only
  split
  · rfl
  · split
    · rw [outcome_bind, outcome_step]
      refine bind_congr fun opening => ?_
      have := opening.shorter
      rw [outcome_bind, outcome_tag opening.rest]
      refine bind_congr fun element => ?_
      exact outcome_bind ..
    · rw [outcome_bind, outcome_step]
      refine bind_congr fun moduleColons => ?_
      rw [outcome_bind, outcome_step]
      refine bind_congr fun module => ?_
      rw [outcome_bind, outcome_step]
      refine bind_congr fun nameColons => ?_
      rw [outcome_bind, outcome_step]
      refine bind_congr fun name => ?_
      have := moduleColons.shorter
      have := module.shorter
      have := nameColons.shorter
      have := name.shorter
      -- Both readers look at the same character, so it is taken apart for both at once.
      rcases firstNonBlank? name.rest with _ | ⟨c, inside, _⟩
      · rfl
      · by_cases opening : c = '<'
        · subst opening
          change (tags inside >>= _).outcome = Reader.tags inside >>= _
          rw [outcome_bind, outcome_tags inside]
          rfl
        · simp only [Option.some.injEq, Reading.mk.injEq, opening, false_and, imp_self,
            implies_true]
          rfl
termination_by (text.length, 0)

theorem outcome_tags (text : List Char) : (tags text).outcome = Reader.tags text := by
  rw [tags, Reader.tags, outcome_bind, outcome_tag text]
  refine bind_congr fun first => ?_
  have := first.shorter
  dsimp only
  rcases firstNonBlank? first.rest with _ | ⟨c, more, _⟩
  · exact outcome_bind ..
  · by_cases comma : c = ','
    · subst comma
      change (passing _ (tags more >>= _)).outcome = Reader.tags more >>= _
      rw [outcome_passing, outcome_bind, outcome_tags more]
      rfl
    · simp only [Option.some.injEq, Reading.mk.injEq, comma, false_and, imp_self, implies_true]
      exact outcome_bind ..
termination_by (text.length, 1)

end

end Traced

end MoveBindings.Tag.Reader
