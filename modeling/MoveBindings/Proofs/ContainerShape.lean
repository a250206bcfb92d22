import MoveBindings.Proofs.Emission.DeclaredFields

/-!
# When a field has the shape of a container

A field is taken for one of a container when its type is a struct of the
container's name with two type parameters. Three checks can fail, one after the
other, and the error keeps enough to tell which one did: the actual name is
there when the type is a struct, the actual count when the name is right. The
report words the check that failed, and no other check is worded like that.
-/

namespace MoveBindings

namespace ShapeMismatch

/-- What a type has instead of a container's shape. -/
inductive Cause where
  | noStruct
  | otherName (actual : String)
  | otherCount (count : Nat)

namespace Cause

/-- What is wrong first with a type that should have been a container of an expected name. -/
inductive Of (expected : String) : Tag → Cause → Prop where
  | noStruct {type : Tag} (shape : ∀ name params, type ≠ .struct name params) :
      Of expected type .noStruct
  | otherName {name : QualifiedName} {params : List Tag} (different : name.text ≠ expected) :
      Of expected (.struct name params) (.otherName name.text)
  | otherCount {name : QualifiedName} {params : List Tag} (same : name.text = expected)
      (odd : params.length ≠ 2) : Of expected (.struct name params) (.otherCount params.length)

/-- What is wrong in words. -/
def wording (expected : String) : Cause → String
  | .noStruct => "expected a struct type " ++ expected ++ ", got a non-struct type"
  | .otherName actual => "expected " ++ expected ++ ", got " ++ actual
  | .otherCount count => expected ++ " requires 2 type parameters, got " ++ toString count

/-- The error about a field whose type is wrong. -/
def mismatch (fieldName expected declaredIn : String) : Cause → ShapeMismatch
  | .noStruct => { fieldName, expectedName := expected, declaredIn }
  | .otherName actual =>
    { fieldName, expectedName := expected, actualName := some actual, declaredIn }
  | .otherCount count =>
    { fieldName, expectedName := expected, actualName := some expected
      actualParams := some (count : Int), declaredIn }

/-! ## The wordings differ -/

/-- When what stands in front of a text could as well be left out for something that follows it, the
characters in front are those that follow. -/
theorem count_take_of_append_eq {start middle rest last : String}
    (same : start ++ (middle ++ rest) = middle ++ last) (c : Char) :
    (last.toList.take start.toList.length).count c = start.toList.count c := by
  have whole : (start.toList ++ middle.toList) ++ rest.toList =
      (middle.toList ++ last.toList.take start.toList.length) ++
        last.toList.drop start.toList.length := by
    rw [List.append_assoc, List.append_assoc, List.take_append_drop, ← String.toList_append,
      ← String.toList_append, ← String.toList_append, same]
  have lengths := congrArg List.length whole
  have first : start.toList ++ middle.toList =
      middle.toList ++ last.toList.take start.toList.length := by
    refine (List.append_inj whole ?_).1
    simp only [List.length_append, List.length_take, List.length_drop] at lengths ⊢
    omega
  have counts := congrArg (List.count c) first
  simp only [List.count_append] at counts
  omega

/-- A comma follows the expected name, and there is none in what is said before it about structs. -/
theorem wording_noStruct_ne_otherName (expected actual : String) :
    wording expected .noStruct ≠ wording expected (.otherName actual) := by
  intro same
  have shifted : "a struct type " ++ (expected ++ ", got a non-struct type") =
      expected ++ (", got " ++ actual) := by
    have start : ("expected a struct type " : String) = "expected " ++ "a struct type " := by decide
    change "expected a struct type " ++ expected ++ ", got a non-struct type" =
      "expected " ++ expected ++ ", got " ++ actual at same
    rw [start] at same
    simpa only [String.append_assoc, String.append_right_inj] using same
  have counts := count_take_of_append_eq shifted ','
  have before : "a struct type ".toList.count ',' = 0 := by decide
  have inside : ", got ".toList.count ',' = 1 := by decide
  have length : "a struct type ".toList.length = ", got ".toList.length + 8 := by decide
  rw [String.toList_append, length, List.take_length_add_append, List.count_append, inside,
    before] at counts
  omega

/-- The expected name is followed by a word with a letter that is not in the word before it. -/
theorem wording_otherName_ne_otherCount (expected actual : String) (count : Nat) :
    wording expected (.otherName actual) ≠ wording expected (.otherCount count) := by
  intro same
  have shifted : "expected " ++ (expected ++ (", got " ++ actual)) =
      expected ++ (" requires" ++ (" 2 type parameters, got " ++ toString count)) := by
    have middle : (" requires 2 type parameters, got " : String) =
        " requires" ++ " 2 type parameters, got " := by decide
    change "expected " ++ expected ++ ", got " ++ actual =
      expected ++ " requires 2 type parameters, got " ++ toString count at same
    rw [middle] at same
    simpa only [String.append_assoc] using same
  have counts := count_take_of_append_eq shifted 'q'
  have length : "expected ".toList.length = " requires".toList.length := by decide
  have different : " requires".toList.count 'q' ≠ "expected ".toList.count 'q' := by decide
  rw [String.toList_append, length, List.take_left] at counts
  exact different counts

/-- Only the word for what is expected has this letter, and digits have not. -/
theorem wording_noStruct_ne_otherCount (expected : String) (count : Nat) :
    wording expected .noStruct ≠ wording expected (.otherCount count) := by
  have digits : (toString count).toList.count 'x' = 0 := by
    rw [List.count_eq_zero, Nat.toString_eq_repr, Nat.toList_repr]
    intro letter
    have digit := Nat.isDigit_of_mem_toDigits (by decide) (by decide) letter
    revert digit
    decide
  have first : "expected a struct type ".toList.count 'x' = 1 := by decide
  have middle : " requires 2 type parameters, got ".toList.count 'x' = 0 := by decide
  intro same
  have counts :
      ("expected a struct type " ++ expected ++ ", got a non-struct type").toList.count 'x' =
      (expected ++ " requires 2 type parameters, got " ++ toString count).toList.count 'x' :=
    congrArg (fun text => text.toList.count 'x') same
  rw [String.toList_append, String.toList_append, String.toList_append, String.toList_append,
    List.count_append, List.count_append, List.count_append, List.count_append, first, middle,
    digits] at counts
  omega

/-- The wording tells what is wrong. -/
theorem wording_injective (expected : String) : Function.Injective (wording expected) := by
  intro first second same
  cases first with
  | noStruct =>
    cases second with
    | noStruct => rfl
    | otherName actual => exact absurd same (wording_noStruct_ne_otherName expected actual)
    | otherCount count => exact absurd same (wording_noStruct_ne_otherCount expected count)
  | otherName actual =>
    cases second with
    | noStruct => exact absurd same.symm (wording_noStruct_ne_otherName expected actual)
    | otherName other => rw [(String.append_right_inj _).mp same]
    | otherCount count => exact absurd same (wording_otherName_ne_otherCount expected actual count)
  | otherCount count =>
    cases second with
    | noStruct => exact absurd same.symm (wording_noStruct_ne_otherCount expected count)
    | otherName actual =>
      exact absurd same.symm (wording_otherName_ne_otherCount expected actual count)
    | otherCount other =>
      have digits := congrArg String.toList ((String.append_right_inj _).mp same)
      rw [Nat.toString_eq_repr, Nat.toString_eq_repr, Nat.toList_repr, Nat.toList_repr] at digits
      have counts := congrArg (fun run => Nat.ofDigitChars 10 run 0) digits
      simp only [Nat.ofDigitChars_ten_toDigits] at counts
      rw [counts]

end Cause

/-- An error that tells the truth about a field. -/
structure IsTruthful (e : ShapeMismatch) (field : Field) (expected declaredIn : String) : Prop where
  fieldName : e.fieldName = field.name
  expectedName : e.expectedName = expected
  expectedParams : e.expectedParams = 2
  actualName : ∀ actual, e.actualName = some actual ↔
    ∃ name params, field.type = .struct name params ∧ name.text = actual
  actualParams : ∀ count : Int, e.actualParams = some count ↔
    ∃ name params, field.type = .struct name params ∧ name.text = expected ∧
      (params.length : Int) = count
  countDiffers : e.actualParams ≠ some 2
  message : ∃ cause, Cause.Of expected field.type cause ∧
    e.message = "Field \"" ++ field.name ++ "\"" ++
      (if declaredIn = "" then "" else " of " ++ declaredIn) ++ ": " ++ cause.wording expected ∧
    ∀ other : Cause, other.wording expected = cause.wording expected → other = cause

theorem Cause.Of.detail {expected : String} {type : Tag} {cause : Cause}
    (h : Of expected type cause) (fieldName declaredIn : String) :
    (cause.mismatch fieldName expected declaredIn).detail = cause.wording expected := by
  cases h with
  | noStruct shape => rfl
  | otherName different => exact if_pos different
  | @otherCount name params same odd =>
    have two : (" requires 2 type parameters, got " : String) =
        " requires " ++ toString (2 : Int) ++ " type parameters, got " := by decide
    have words : (Cause.otherCount params.length).wording expected =
        expected ++ " requires " ++ toString (2 : Int) ++ " type parameters, got " ++
          toString (params.length : Int) := by
      change expected ++ " requires 2 type parameters, got " ++ toString params.length = _
      rw [two]
      simp only [String.append_assoc]
      rfl
    rw [words]
    exact if_neg (not_not.mpr rfl)

/-- The error about what is wrong with a type tells the truth. -/
theorem Cause.Of.isTruthful {field : Field} {expected : String} {cause : Cause}
    (h : Of expected field.type cause) (declaredIn : String) :
    (cause.mismatch field.name expected declaredIn).IsTruthful field expected declaredIn := by
  have detail := h.detail field.name declaredIn
  obtain ⟨fieldName, type⟩ := field
  have reported : (cause.mismatch fieldName expected declaredIn).message = "Field \"" ++ fieldName ++
      "\"" ++ (if declaredIn = "" then "" else " of " ++ declaredIn) ++ ": " ++
      cause.wording expected := by
    rw [ShapeMismatch.message, detail]
    cases cause <;> rfl
  have told : ∃ cause', Of expected type cause' ∧
      (cause.mismatch fieldName expected declaredIn).message = "Field \"" ++ fieldName ++ "\"" ++
        (if declaredIn = "" then "" else " of " ++ declaredIn) ++ ": " ++ cause'.wording expected ∧
      ∀ other : Cause, other.wording expected = cause'.wording expected → other = cause' :=
    ⟨cause, h, reported, fun other same => wording_injective expected same⟩
  cases h with
  | noStruct shape =>
    refine ⟨rfl, rfl, rfl, fun actual => ⟨nofun, ?_⟩, fun count => ⟨nofun, ?_⟩, nofun, told⟩
    · rintro ⟨name, params, struct, _⟩
      exact absurd struct (shape name params)
    · rintro ⟨name, params, struct, _⟩
      exact absurd struct (shape name params)
  | @otherName name params different =>
    refine ⟨rfl, rfl, rfl, fun actual => ⟨?_, ?_⟩, fun count => ⟨nofun, ?_⟩, nofun, told⟩
    · intro given
      cases given
      exact ⟨name, params, rfl, rfl⟩
    · rintro ⟨_, _, struct, rfl⟩
      cases struct
      rfl
    · rintro ⟨_, _, struct, same, _⟩
      cases struct
      exact absurd same different
  | @otherCount name params same odd =>
    refine ⟨rfl, rfl, rfl, fun actual => ⟨?_, ?_⟩, fun count => ⟨?_, ?_⟩, ?_, told⟩
    · intro given
      cases given
      exact ⟨name, params, rfl, same⟩
    · rintro ⟨_, _, struct, rfl⟩
      cases struct
      exact congrArg some same.symm
    · intro given
      cases given
      exact ⟨name, params, rfl, same, rfl⟩
    · rintro ⟨_, _, struct, _, rfl⟩
      cases struct
      rfl
    · intro two
      have counted : (params.length : Int) = 2 := Option.some_inj.mp two
      omega

end ShapeMismatch

namespace ContainerField

open ShapeMismatch

variable {field : Field} {expected declaredIn : String}

/-- A type has the shape of a container, or something is wrong with it. -/
theorem hasShape_or_exists_cause (expected : String) (type : Tag) :
    (∃ name key value, type = .struct name [key, value] ∧ name.text = expected) ∨
      ∃ cause, Cause.Of expected type cause := by
  cases type with
  | struct name params =>
    by_cases same : name.text = expected
    · by_cases two : params.length = 2
      · obtain ⟨key, value, rfl⟩ := List.length_eq_two.mp two
        exact .inl ⟨name, key, value, rfl, same⟩
      · exact .inr ⟨_, .otherCount same two⟩
    · exact .inr ⟨_, .otherName same⟩
  | _ => exact .inr ⟨_, .noStruct nofun⟩

theorem keyAndValue_of_cause {cause : Cause} (h : Cause.Of expected field.type cause)
    (declaredIn : String) : keyAndValue field expected declaredIn =
      .error (cause.mismatch field.name expected declaredIn) := by
  obtain ⟨fieldName, type⟩ := field
  cases h with
  | noStruct shape =>
    unfold keyAndValue
    split
    · next struct => exact absurd struct (shape _ _)
    · rfl
  | otherName different => exact if_pos different
  | @otherCount name params same odd =>
    subst same
    unfold keyAndValue
    dsimp only
    rw [if_neg (not_not.mpr rfl)]
    split
    · exact absurd rfl odd
    · rfl

/-- When the types of keys and values are not found, the error is about what is wrong first. -/
theorem keyAndValue_eq_error_iff {problem : ShapeMismatch} :
    keyAndValue field expected declaredIn = .error problem ↔
      ∃ cause, Cause.Of expected field.type cause ∧
        problem = cause.mismatch field.name expected declaredIn := by
  constructor
  · intro refused
    rcases hasShape_or_exists_cause expected field.type with
      ⟨name, key, value, shape, named⟩ | ⟨cause, wrong⟩
    · rw [keyAndValue_eq_ok_iff.mpr ⟨name, shape, named⟩] at refused
      cases refused
    · rw [keyAndValue_of_cause wrong] at refused
      cases refused
      exact ⟨cause, wrong, rfl⟩
  · rintro ⟨cause, wrong, rfl⟩
    exact keyAndValue_of_cause wrong declaredIn

variable {container : Container} {owner : String} {module : Option ModuleId}

/-- A field of a container is found when its type has the shape, and it is then described by its
name and by the parameters of the type. -/
theorem ofField_eq_ok_iff (named : expected ≠ "") {result : ContainerField} :
    ofField container field expected owner module = .ok result ↔
      ∃ name key value, field.type = .struct name [key, value] ∧ name.text = expected ∧
        result = ⟨container, field.name, key, value, expected, owner⟩ := by
  rw [ofField, bind_eq_ok_iff, if_neg named]
  constructor
  · rintro ⟨⟨key, value⟩, parameters, built⟩
    obtain ⟨name, shape, same⟩ := keyAndValue_eq_ok_iff.mp parameters
    cases built
    exact ⟨name, key, value, shape, same, rfl⟩
  · rintro ⟨name, key, value, shape, same, rfl⟩
    exact ⟨(key, value), keyAndValue_eq_ok_iff.mpr ⟨name, shape, same⟩, rfl⟩

theorem ofField_eq_error_iff (named : expected ≠ "") {problem : ShapeMismatch} :
    ofField container field expected owner module = .error problem ↔
      ∃ cause, Cause.Of expected field.type cause ∧
        problem = cause.mismatch field.name expected (ContainerField.declaredIn module owner) := by
  rw [ofField, bind_eq_error_iff, if_neg named, keyAndValue_eq_error_iff]
  refine or_iff_left ?_
  rintro ⟨_, _, impossible⟩
  cases impossible

end ContainerField

/-- A field is found for a container with a name exactly when the container claims it and its type
has two parameters. -/
theorem Environment.exists_containerField_iff {env : Environment} {container : Container}
    {field : Field} {owner : String} {module : Option ModuleId}
    (named : container.configuredName env.settings ≠ "") :
    (∃ result, env.containerField container field owner module = .ok result) ↔
      container.claims env.settings field = true ∧ field.type.params.length = 2 := by
  have found : (∃ result, env.containerField container field owner module = .ok result) ↔
      ∃ result, ContainerField.ofField container field (container.configuredName env.settings)
        owner module = .ok result := by
    unfold containerField
    split
    · next result outcome => simp [outcome]
    · next problem outcome => simp [outcome]
  simp only [found, ContainerField.ofField_eq_ok_iff named, Container.claims_eq_true_iff]
  constructor
  · rintro ⟨_, name, key, value, shape, same, rfl⟩
    exact ⟨⟨name, _, shape, same⟩, by rw [shape]; rfl⟩
  · rintro ⟨⟨name, params, shape, same⟩, two⟩
    rw [shape] at two
    obtain ⟨key, value, rfl⟩ := List.length_eq_two.mp two
    exact ⟨_, name, key, value, shape, same, rfl⟩

/-- A field is found for a container exactly when its type is a struct of the expected name with two
parameters, which are then the types of keys and values as they are. Otherwise the error tells the
truth about the first check that failed. So a named container of some settings takes a field exactly
when it claims it and the type has two parameters. -/
theorem ContainerField.container_shape_checked :
    (∀ (container : Container) (field : Field) (expected owner : String) (module : Option ModuleId),
      expected ≠ "" →
        let outcome := ofField container field expected owner module
        (∀ result, outcome = .ok result ↔
          ∃ name key value, field.type = .struct name [key, value] ∧ name.text = expected ∧
            result = ⟨container, field.name, key, value, expected, owner⟩) ∧
        ∀ problem, outcome = .error problem →
          problem.IsTruthful field expected (declaredIn module owner)) ∧
    ∀ env : Environment, (∀ container, Container.configuredName env.settings container ≠ "") →
      ∀ (container : Container) (field : Field) (owner : String) (module : Option ModuleId),
        (∃ result, env.containerField container field owner module = .ok result) ↔
          container.claims env.settings field = true ∧ field.type.params.length = 2 := by
  constructor
  · intro container field expected owner module named
    refine ⟨fun result => ofField_eq_ok_iff named, ?_⟩
    intro problem refused
    obtain ⟨cause, wrong, rfl⟩ := (ofField_eq_error_iff named).mp refused
    exact wrong.isTruthful _
  · intro env named container field owner module
    exact Environment.exists_containerField_iff (named container)

/-- A table with a type for keys alone. -/
theorem ContainerField.container_shape_checked_keys_only :
    let field : Field := ⟨"items", .struct ⟨"0x1", "Table", "Table"⟩ [.scalar "u64"]⟩
    let expected := "0x1::Table::Table"
    let problem : ShapeMismatch :=
      { fieldName := "items", expectedName := expected, actualName := some expected
        actualParams := some 1, declaredIn := "0x2::Market::Store" }
    let module : Option ModuleId := some ⟨"0x2", "Market"⟩
    expected ≠ "" ∧ ofField .table field expected "Store" module = .error problem ∧
      problem.IsTruthful field expected "0x2::Market::Store" ∧
      problem.message = "Field \"items\" of 0x2::Market::Store: " ++
        "0x1::Table::Table requires 2 type parameters, got 1" ∧
      (∀ container, Container.configuredName {} container ≠ "") ∧
      ¬∃ result, ({} : Environment).containerField .table field "Store" module = .ok result := by
  intro field expected problem module
  have named : ∀ container, Container.configuredName {} container ≠ "" := by
    intro container
    cases container <;> decide
  have refused : ofField .table field expected "Store" module = .error problem := by rfl
  have law := container_shape_checked.1 .table field expected "Store" module (by decide)
  refine ⟨by decide, refused, law.2 problem refused, by decide, named, ?_⟩
  rw [container_shape_checked.2 {} named .table field "Store" module]
  decide

end MoveBindings
