import Mathlib.Data.List.Perm.Basic
import MoveBindings.Proofs.Outcomes

/-!
# Emissions that come out alike

Two emissions come out alike when both fail, or when both succeed with results
that correspond and have found the same, in whatever order. Sequences of steps
that come out alike do so again, and a list may be worked through in any order.
-/

namespace MoveBindings.Emission

variable {α β γ δ : Type} {Related : α → β → Prop} {Later : γ → δ → Prop}

/-- Both emissions fail, or both succeed: their results are related, and what they find is the same
up to order. -/
inductive Alike (Related : α → β → Prop) : Emission α → Emission β → Prop where
  | success {found others : List Diagnostic} {a : α} {b : β} (related : Related a b)
      (same : found.Perm others) : Alike Related ⟨found, .ok a⟩ ⟨others, .ok b⟩
  | failure {found others : List Diagnostic} {problem other : Failure} :
      Alike Related ⟨found, .error problem⟩ ⟨others, .error other⟩

namespace Alike

theorem refl {Related : α → α → Prop} (related : ∀ a, Related a a) (step : Emission α) :
    Alike Related step step := by
  obtain ⟨found, outcome⟩ := step
  cases outcome with
  | ok a => exact .success (related a) (.refl found)
  | error problem => exact .failure

theorem pure {a : α} {b : β} (related : Related a b) :
    Alike Related (Pure.pure a : Emission α) (Pure.pure b) :=
  .success related (.refl [])

/-- Outcomes of which both are failures or none is. -/
theorem ofExcept {outcome : Except Failure α} {other : Except Failure β}
    (both : (∃ a, outcome = .ok a) ↔ ∃ b, other = .ok b) :
    Alike (fun _ _ => True) (Emission.ofExcept outcome) (Emission.ofExcept other) := by
  cases outcome with
  | ok a =>
    obtain ⟨b, rfl⟩ := both.mp ⟨a, rfl⟩
    exact .success trivial (.refl [])
  | error problem =>
    cases other with
    | ok b =>
      obtain ⟨a, impossible⟩ := both.mpr ⟨b, rfl⟩
      cases impossible
    | error other => exact .failure

/-- The results may be related in another way, if they are when both succeed. -/
theorem imp {Other : α → β → Prop} {first : Emission α} {second : Emission β}
    (h : Alike Related first second)
    (ok : ∀ a b, first.outcome = .ok a → second.outcome = .ok b → Other a b) :
    Alike Other first second := by
  cases h with
  | success _ same => exact .success (ok _ _ rfl rfl) same
  | failure => exact .failure

theorem trans {Next : β → γ → Prop} {Both : α → γ → Prop} {first : Emission α}
    {second : Emission β} {third : Emission γ} (h : Alike Related first second)
    (next : Alike Next second third) (both : ∀ a b c, Related a b → Next b c → Both a c) :
    Alike Both first third := by
  cases h with
  | success related same =>
    cases next with
    | success next others => exact .success (both _ _ _ related next) (same.trans others)
  | failure =>
    cases next with
    | failure => exact .failure

/-- More may be found before. -/
theorem after {first : Emission α} {second : Emission β} (h : Alike Related first second)
    {found others : List Diagnostic} (same : found.Perm others) :
    Alike Related ⟨found ++ first.found, first.outcome⟩
      ⟨others ++ second.found, second.outcome⟩ := by
  cases h with
  | success related later => exact .success related (same.append later)
  | failure => exact .failure

/-- Steps that come out alike, and are followed by such steps, come out alike. -/
theorem bind {first : Emission α} {second : Emission β} {next : α → Emission γ}
    {other : β → Emission δ} (h : Alike Related first second)
    (later : ∀ a b, Related a b → Alike Later (next a) (other b)) :
    Alike Later (first >>= next) (second >>= other) := by
  cases h with
  | success related same => exact (later _ _ related).after same
  | failure => exact .failure

/-- Two steps may be taken in either order. -/
theorem swap {first : Emission α} {second : Emission β} {next : α → β → Emission γ}
    {other : α → β → Emission δ} (later : ∀ a b, Alike Later (next a b) (other a b)) :
    Alike Later (first >>= fun a => second >>= fun b => next a b)
      (second >>= fun b => first >>= fun a => other a b) := by
  obtain ⟨found, outcome⟩ := first
  obtain ⟨others, otherOutcome⟩ := second
  cases outcome with
  | error problem =>
    cases otherOutcome with
    | error other => exact .failure
    | ok b => exact .failure
  | ok a =>
    cases otherOutcome with
    | error other => exact .failure
    | ok b =>
      change Alike Later ⟨found ++ (others ++ (next a b).found), (next a b).outcome⟩
        ⟨others ++ (found ++ (other a b).found), (other a b).outcome⟩
      rw [← List.append_assoc, ← List.append_assoc]
      exact (later a b).after List.perm_append_comm

/-- A list that is worked through in another order comes out alike, with the results in another
order. -/
theorem mapM_perm (f : α → Emission β) {elements others : List α} (same : elements.Perm others) :
    Alike List.Perm (elements.mapM f) (others.mapM f) := by
  induction same with
  | nil => exact .pure (.refl [])
  | cons element _ ih =>
    rw [List.mapM_cons, List.mapM_cons]
    refine .bind (.refl (fun _ => rfl) (f element)) ?_
    rintro result _ rfl
    exact .bind ih fun _ _ same => .pure (same.cons result)
  | swap first second rest =>
    simp only [List.mapM_cons, bind_assoc, pure_bind]
    refine .swap fun a b => .bind (.refl (fun _ => rfl) (rest.mapM f)) ?_
    rintro results _ rfl
    exact .pure (.swap _ _ _)
  | trans _ _ ih later => exact ih.trans later fun _ _ _ => List.Perm.trans

/-- Of emissions that come out alike either both succeed or none. -/
theorem exists_ok_iff {first : Emission α} {second : Emission β} (h : Alike Related first second) :
    (∃ a, first.outcome = .ok a) ↔ ∃ b, second.outcome = .ok b := by
  cases h with
  | success => exact ⟨fun _ => ⟨_, rfl⟩, fun _ => ⟨_, rfl⟩⟩
  | failure => simp

/-- If they succeed, their results are related and they find the same. -/
theorem of_ok {first : Emission α} {second : Emission β} (h : Alike Related first second) {a : α}
    {b : β} (ok : first.outcome = .ok a) (otherOk : second.outcome = .ok b) :
    Related a b ∧ first.found.Perm second.found := by
  cases h with
  | success related same =>
    cases ok
    cases otherOk
    exact ⟨related, same⟩
  | failure => cases ok

end Alike

/-- A list is worked through in the same way by outcomes alone. -/
theorem ofExcept_mapM (f : α → Except Failure β) (elements : List α) :
    ofExcept (elements.mapM f) = elements.mapM fun element => ofExcept (f element) := by
  induction elements with
  | nil => rfl
  | cons first rest ih =>
    rw [List.mapM_cons, List.mapM_cons, ← ih]
    cases f first with
    | error problem => rfl
    | ok result => cases rest.mapM f <;> rfl

end MoveBindings.Emission
