/-!
# Texts with balanced braces

The braces of a text are balanced when as many are closed as are opened, and at
no place more are closed than were opened before it. Balanced texts can be put
one after the other and between braces.
-/

namespace MoveBindings.Text

def openBrace : Char := '\x7b'

def closeBrace : Char := '\x7d'

/-- How many more braces a text opens than it closes. -/
def braceDepth (text : List Char) : Int := text.count openBrace - text.count closeBrace

/-- As many braces are closed as opened, and never more than were opened before. -/
structure IsBalanced (text : List Char) : Prop where
  total : text.count openBrace = text.count closeBrace
  starts : ∀ n, (text.take n).count closeBrace ≤ (text.take n).count openBrace

theorem isBalanced_iff {text : List Char} :
    IsBalanced text ↔ text.count openBrace = text.count closeBrace ∧
      ∀ n < text.length, (text.take n).count closeBrace ≤ (text.take n).count openBrace := by
  refine ⟨fun h => ⟨h.total, fun n _ => h.starts n⟩, fun h => ⟨h.1, fun n => ?_⟩⟩
  by_cases inside : n < text.length
  · exact h.2 n inside
  · rw [List.take_of_length_le (Nat.le_of_not_lt inside)]
    exact Nat.le_of_eq h.1.symm

instance (text : List Char) : Decidable (IsBalanced text) := decidable_of_iff' _ isBalanced_iff

@[simp] theorem braceDepth_nil : braceDepth [] = 0 := rfl

theorem braceDepth_append (text other : List Char) :
    braceDepth (text ++ other) = braceDepth text + braceDepth other := by
  simp only [braceDepth, List.count_append]
  omega

theorem braceDepth_flatMap_congr {α : Type} {f g : α → List Char}
    (same : ∀ x, braceDepth (f x) = braceDepth (g x)) (elements : List α) :
    braceDepth (elements.flatMap f) = braceDepth (elements.flatMap g) := by
  induction elements with
  | nil => rfl
  | cons first rest ih =>
    rw [List.flatMap_cons, List.flatMap_cons, braceDepth_append, braceDepth_append, same, ih]

/-- A text without braces. -/
def IsBraceless (text : List Char) : Prop := ∀ c ∈ text, c ≠ openBrace ∧ c ≠ closeBrace

namespace IsBraceless

variable {text : List Char}

theorem count_eq_zero (h : IsBraceless text) :
    text.count openBrace = 0 ∧ text.count closeBrace = 0 :=
  ⟨List.count_eq_zero.mpr fun member => (h _ member).1 rfl,
    List.count_eq_zero.mpr fun member => (h _ member).2 rfl⟩

theorem braceDepth_eq_zero (h : IsBraceless text) : braceDepth text = 0 := by
  rw [braceDepth, h.count_eq_zero.1, h.count_eq_zero.2]
  rfl

theorem isBalanced (h : IsBraceless text) : IsBalanced text where
  total := by rw [h.count_eq_zero.1, h.count_eq_zero.2]
  starts n := by
    have start : IsBraceless (text.take n) := fun c member => h c (List.mem_of_mem_take member)
    rw [start.count_eq_zero.2]
    exact Nat.zero_le _

end IsBraceless

namespace IsBalanced

variable {text other inside : List Char}

theorem braceDepth_eq (h : IsBalanced text) : braceDepth text = 0 := by
  rw [braceDepth, h.total, Int.sub_self]

theorem append (first : IsBalanced text) (second : IsBalanced other) :
    IsBalanced (text ++ other) where
  total := by rw [List.count_append, List.count_append, first.total, second.total]
  starts n := by
    rw [List.take_append, List.count_append, List.count_append]
    exact Nat.add_le_add (first.starts n) (second.starts (n - text.length))

/-- A balanced text between braces is balanced. -/
theorem nest (h : IsBalanced inside) : IsBalanced (openBrace :: inside ++ [closeBrace]) where
  total := by
    have total := h.total
    simp [openBrace, closeBrace] at total ⊢
    omega
  starts n := by
    cases n with
    | zero => simp
    | succ n =>
      -- At most the last brace is closed in addition to those inside, and the first is open.
      have starts := h.starts n
      have last : ([closeBrace].take (n - inside.length)).count closeBrace ≤ 1 :=
        Nat.le_trans List.count_le_length (List.length_take_le' ..)
      rw [List.cons_append, List.take_succ_cons, List.take_append, List.count_cons_self,
        List.count_cons_of_ne (by decide), List.count_append, List.count_append]
      omega

/-- A balanced text does not start with a closing brace. -/
theorem head?_ne (h : IsBalanced text) : text.head? ≠ some closeBrace := by
  intro closes
  obtain ⟨rest, rfl⟩ := List.head?_eq_some_iff.mp closes
  have start := h.starts 1
  revert start
  simp [openBrace, closeBrace]

end IsBalanced

end MoveBindings.Text
