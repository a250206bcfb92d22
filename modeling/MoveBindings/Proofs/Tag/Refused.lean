import MoveBindings.Proofs.FirstFailure
import MoveBindings.Proofs.Tag.Accepted
import MoveBindings.Proofs.Tag.Stuck

/-!
# The reader stops exactly where the grammar gets stuck

A reader that fails has read the start of a derivation and stops before the first
character that cannot go on there. Conversely, where the grammar gets stuck, the
reader stops. Both directions go through the steps of the reader: those before
the one that fails are successful, so they have read a part of a derivation.
-/

namespace MoveBindings.Tag.Grammar

open Text

/-- A reader stops with a problem, before the rest of a text. -/
def Stops {α : Type} {text : List Char} (outcome : Except (Stop Problem) (Reading α text))
    (problem : Problem) (rest : List Char) : Prop :=
  outcome = .error ⟨problem, rest⟩

variable {text rest seen : List Char} {problem : Problem} {symbol : Symbol}

/-! ## Single tokens -/

/-- A token is refused where it is missing after blanks. -/
theorem token_stops_iff {token : Token} :
    Stops (Reader.token token text) problem rest ↔
      problem = .tokenExpected token ∧ NoToken token rest ∧
        ∃ blanks : Blanks, text = blanks.text ++ rest := by
  simp only [Stops, Reader.token]
  constructor
  · intro h
    split at h
    · cases h
    · next absent =>
      cases h
      obtain ⟨solid, blanks, same⟩ := skipBlank_eq_iff.mp rfl
      exact ⟨rfl, ⟨solid, mt List.isPrefixOf_iff_prefix.mpr absent⟩, blanks, same⟩
  · rintro ⟨rfl, missing, blanks, rfl⟩
    have start : skipBlank (blanks.text ++ rest) = rest :=
      skipBlank_eq_iff.mpr ⟨missing.solid, blanks, rfl⟩
    rw [dif_neg (by rw [start]; exact mt List.isPrefixOf_iff_prefix.mp missing.absent), start]

/-- A word is refused where it is missing after blanks. -/
theorem word_stops_iff :
    Stops (Reader.word text) problem rest ↔
      problem = .identifierExpected ∧ NoWord rest ∧
        ∃ blanks : Blanks, text = blanks.text ++ rest := by
  have empty : EndsWord [] := fun _ none => by cases none
  simp only [Stops, Reader.word]
  constructor
  · intro h
    split at h
    · next c others start =>
      split at h
      · cases h
      · next noWord =>
        cases h
        obtain ⟨solid, blanks, same⟩ := skipBlank_eq_iff.mp start
        refine ⟨rfl, ⟨solid, fun first starts => ?_⟩, blanks, same⟩
        cases starts
        simpa using noWord
    · next start =>
      cases h
      obtain ⟨solid, blanks, same⟩ := skipBlank_eq_iff.mp start
      exact ⟨rfl, ⟨solid, empty⟩, blanks, same⟩
  · rintro ⟨rfl, missing, blanks, rfl⟩
    have start : skipBlank (blanks.text ++ rest) = rest :=
      skipBlank_eq_iff.mpr ⟨missing.solid, blanks, rfl⟩
    split
    · next c others first =>
      rw [start] at first
      subst first
      rw [if_neg (by simp [missing.absent c rfl])]
    · next none =>
      rw [start] at none
      rw [none]

/-! ## The step that fails -/

/-- The ways in which the name of a struct is refused after its first word. -/
inductive StopsName (text : List Char) (problem : Problem) (rest : List Char) : Prop where
  | moduleColons {address : String} {afterAddress : List Char} (notScalar : address ∉ scalarNames)
      (notVector : address ≠ vectorName) (first : Reads (Reader.word text) address afterAddress)
      (stops : Stops (Reader.token .doubleColon afterAddress) problem rest)
  | module {address : String} {afterAddress beforeModule : List Char}
      (notScalar : address ∉ scalarNames) (notVector : address ≠ vectorName)
      (first : Reads (Reader.word text) address afterAddress)
      (moduleColons : Reads (Reader.token .doubleColon afterAddress) () beforeModule)
      (stops : Stops (Reader.word beforeModule) problem rest)
  | nameColons {address module : String} {afterAddress beforeModule afterModule : List Char}
      (notScalar : address ∉ scalarNames) (notVector : address ≠ vectorName)
      (first : Reads (Reader.word text) address afterAddress)
      (moduleColons : Reads (Reader.token .doubleColon afterAddress) () beforeModule)
      (second : Reads (Reader.word beforeModule) module afterModule)
      (stops : Stops (Reader.token .doubleColon afterModule) problem rest)
  | name {address module : String} {afterAddress beforeModule afterModule beforeName : List Char}
      (notScalar : address ∉ scalarNames) (notVector : address ≠ vectorName)
      (first : Reads (Reader.word text) address afterAddress)
      (moduleColons : Reads (Reader.token .doubleColon afterAddress) () beforeModule)
      (second : Reads (Reader.word beforeModule) module afterModule)
      (nameColons : Reads (Reader.token .doubleColon afterModule) () beforeName)
      (stops : Stops (Reader.word beforeName) problem rest)

/-- The ways in which a tag is refused. -/
inductive StopsTag (text : List Char) (problem : Problem) (rest : List Char) : Prop where
  | keyword (stops : Stops (Reader.word text) problem rest)
  | opening {afterWord : List Char} (keyword : Reads (Reader.word text) vectorName afterWord)
      (stops : Stops (Reader.token .opening afterWord) problem rest)
  | element {afterWord inside : List Char} (keyword : Reads (Reader.word text) vectorName afterWord)
      (opening : Reads (Reader.token .opening afterWord) () inside)
      (stops : Stops (Reader.tag inside) problem rest)
  | closing {element : Tag} {afterWord inside afterElement : List Char}
      (keyword : Reads (Reader.word text) vectorName afterWord)
      (opening : Reads (Reader.token .opening afterWord) () inside)
      (body : Reads (Reader.tag inside) element afterElement)
      (stops : Stops (Reader.token .closing afterElement) problem rest)
  | name (stops : StopsName text problem rest)
  | params {name : QualifiedName} {afterName inside : List Char}
      (named : ReadsName text name afterName) (opening : skipBlank afterName = '<' :: inside)
      (stops : Stops (Reader.tags inside) problem rest)

/-- The ways in which tags between angle brackets are refused. -/
inductive StopsTags (text : List Char) (problem : Problem) (rest : List Char) : Prop where
  | param (stops : Stops (Reader.tag text) problem rest)
  | closing {first : Tag} {afterFirst : List Char}
      (param : Reads (Reader.tag text) first afterFirst)
      (alone : (skipBlank afterFirst).head? ≠ some ',')
      (stops : Stops (Reader.token .closing afterFirst) problem rest)
  | more {first : Tag} {afterFirst more : List Char}
      (param : Reads (Reader.tag text) first afterFirst)
      (comma : skipBlank afterFirst = ',' :: more)
      (stops : Stops (Reader.tags more) problem rest)

theorem stopsTag_of_stops (h : Stops (Reader.tag text) problem rest) :
    StopsTag text problem rest := by
  rw [Stops, Reader.tag] at h
  rcases bind_eq_error_iff.mp h with stopped | ⟨⟨keyword, afterWord, _⟩, hword, h⟩
  · exact .keyword stopped
  have first : Reads (Reader.word text) keyword afterWord := ⟨_, hword, rfl, rfl⟩
  dsimp only at h
  split at h
  · cases h
  next notScalar =>
  split at h
  · next isVector =>
    subst isVector
    rcases bind_eq_error_iff.mp h with stopped | ⟨⟨_, inside, _⟩, hopening, h⟩
    · exact .opening first stopped
    have opening : Reads (Reader.token .opening afterWord) () inside := ⟨_, hopening, rfl, rfl⟩
    rcases bind_eq_error_iff.mp h with stopped | ⟨⟨element, afterElement, _⟩, helement, h⟩
    · exact .element first opening stopped
    rcases bind_eq_error_iff.mp h with stopped | ⟨_, _, h⟩
    · exact .closing first opening ⟨_, helement, rfl, rfl⟩ stopped
    cases h
  next notVector =>
  rcases bind_eq_error_iff.mp h with stopped | ⟨⟨_, beforeModule, _⟩, hmoduleColons, h⟩
  · exact .name (.moduleColons notScalar notVector first stopped)
  have moduleColons : Reads (Reader.token .doubleColon afterWord) () beforeModule :=
    ⟨_, hmoduleColons, rfl, rfl⟩
  rcases bind_eq_error_iff.mp h with stopped | ⟨⟨module, afterModule, _⟩, hmodule, h⟩
  · exact .name (.module notScalar notVector first moduleColons stopped)
  have second : Reads (Reader.word beforeModule) module afterModule := ⟨_, hmodule, rfl, rfl⟩
  rcases bind_eq_error_iff.mp h with stopped | ⟨⟨_, beforeName, _⟩, hnameColons, h⟩
  · exact .name (.nameColons notScalar notVector first moduleColons second stopped)
  have nameColons : Reads (Reader.token .doubleColon afterModule) () beforeName :=
    ⟨_, hnameColons, rfl, rfl⟩
  rcases bind_eq_error_iff.mp h with stopped | ⟨⟨name, afterName, _⟩, hname, h⟩
  · exact .name (.name notScalar notVector first moduleColons second nameColons stopped)
  have named : ReadsName text ⟨keyword, module, name⟩ afterName :=
    ⟨notScalar, notVector, _, _, _, _, first, moduleColons, second, nameColons,
      ⟨_, hname, rfl, rfl⟩⟩
  dsimp only at h
  split at h
  · next inside _ opening =>
    rcases bind_eq_error_iff.mp h with stopped | ⟨_, _, h⟩
    · exact .params named (firstNonBlank?_eq_some_iff.mp opening) stopped
    cases h
  · cases h

theorem stopsTags_of_stops (h : Stops (Reader.tags text) problem rest) :
    StopsTags text problem rest := by
  rw [Stops, Reader.tags] at h
  rcases bind_eq_error_iff.mp h with stopped | ⟨⟨first, afterFirst, _⟩, hfirst, h⟩
  · exact .param stopped
  have param : Reads (Reader.tag text) first afterFirst := ⟨_, hfirst, rfl, rfl⟩
  dsimp only at h
  split at h
  · next more _ comma =>
    rcases bind_eq_error_iff.mp h with stopped | ⟨_, _, h⟩
    · exact .more param (firstNonBlank?_eq_some_iff.mp comma) stopped
    cases h
  · next alone =>
    rcases bind_eq_error_iff.mp h with stopped | ⟨_, _, h⟩
    · exact .closing param (head?_ne_of_firstNonBlank? alone) stopped
    cases h

theorem stops_of_stopsName (h : StopsName text problem rest) :
    Stops (Reader.tag text) problem rest := by
  rw [Stops, Reader.tag]
  cases h with
  | moduleColons notScalar notVector first stops =>
    rw [Stops] at stops
    simp only [first.bind_eq, if_neg notScalar, if_neg notVector, stops, error_bind]
  | module notScalar notVector first moduleColons stops =>
    rw [Stops] at stops
    simp only [first.bind_eq, if_neg notScalar, if_neg notVector, moduleColons.bind_eq, stops,
      error_bind]
  | nameColons notScalar notVector first moduleColons second stops =>
    rw [Stops] at stops
    simp only [first.bind_eq, if_neg notScalar, if_neg notVector, moduleColons.bind_eq,
      second.bind_eq, stops, error_bind]
  | name notScalar notVector first moduleColons second nameColons stops =>
    rw [Stops] at stops
    simp only [first.bind_eq, if_neg notScalar, if_neg notVector, moduleColons.bind_eq,
      second.bind_eq, nameColons.bind_eq, stops, error_bind]

theorem stops_of_stopsTag (h : StopsTag text problem rest) :
    Stops (Reader.tag text) problem rest := by
  have notScalar : vectorName ∉ scalarNames := by decide
  cases h with
  | keyword stops =>
    rw [Stops] at stops
    rw [Stops, Reader.tag, stops, error_bind]
  | opening keyword stops =>
    rw [Stops] at stops
    rw [Stops, Reader.tag]
    simp only [keyword.bind_eq, if_neg notScalar, if_true, stops, error_bind]
  | element keyword opening stops =>
    rw [Stops] at stops
    rw [Stops, Reader.tag]
    simp only [keyword.bind_eq, if_neg notScalar, if_true, opening.bind_eq, stops, error_bind]
  | closing keyword opening body stops =>
    rw [Stops] at stops
    rw [Stops, Reader.tag]
    simp only [keyword.bind_eq, if_neg notScalar, if_true, opening.bind_eq, body.bind_eq, stops,
      error_bind]
  | name stops => exact stops_of_stopsName stops
  | params named opening stops =>
    rw [Stops] at stops
    rw [Stops, tag_of_readsName named named.shorter, firstNonBlank?_of_skipBlank opening]
    simp only [stops, error_bind]

theorem stops_of_stopsTags (h : StopsTags text problem rest) :
    Stops (Reader.tags text) problem rest := by
  rw [Stops, Reader.tags]
  cases h with
  | param stops =>
    rw [Stops] at stops
    rw [stops, error_bind]
  | closing param alone stops =>
    rw [Stops] at stops
    simp only [param.bind_eq]
    split
    · next comma =>
      have starts := firstNonBlank?_eq_some_iff.mp comma
      exact absurd (by rw [starts]; rfl) alone
    · simp only [stops, error_bind]
  | more param comma stops =>
    rw [Stops] at stops
    simp only [param.bind_eq, firstNonBlank?_of_skipBlank comma, stops, error_bind]

/-! ## Where the reader stops, the grammar gets stuck -/

/-- The name of a struct gets stuck where the reader stops. -/
theorem exists_stuckName_of_stopsName (h : StopsName text problem rest) :
    ∃ seen, text = seen ++ rest ∧ StuckName rest seen problem := by
  cases h with
  | moduleColons notScalar notVector first stops =>
    have ends := endsWord_of_word first
    obtain ⟨before, word, rfl, rfl⟩ := exists_word_of_word first
    obtain ⟨rfl, missing, blanks, rfl⟩ := token_stops_iff.mp stops
    exact ⟨_, (List.append_assoc ..).symm,
      .moduleColons before ⟨word, notScalar, notVector⟩ blanks ends missing⟩
  | module notScalar notVector first moduleColons stops =>
    obtain ⟨before, word, rfl, rfl⟩ := exists_word_of_word first
    obtain ⟨beforeColons, rfl⟩ := exists_before_of_token moduleColons
    obtain ⟨rfl, missing, blanks, rfl⟩ := word_stops_iff.mp stops
    refine ⟨_, ?_, .module before ⟨word, notScalar, notVector⟩ beforeColons blanks missing⟩
    simp only [List.append_assoc]
    rfl
  | nameColons notScalar notVector first moduleColons second stops =>
    have ends := endsWord_of_word second
    obtain ⟨before, word, rfl, rfl⟩ := exists_word_of_word first
    obtain ⟨beforeColons, rfl⟩ := exists_before_of_token moduleColons
    obtain ⟨beforeModule, module, rfl, rfl⟩ := exists_word_of_word second
    obtain ⟨rfl, missing, blanks, rfl⟩ := token_stops_iff.mp stops
    refine ⟨_, ?_, .nameColons before ⟨word, notScalar, notVector⟩ beforeColons beforeModule module
      blanks ends missing⟩
    simp only [List.append_assoc]
    rfl
  | name notScalar notVector first moduleColons second nameColons stops =>
    obtain ⟨before, word, rfl, rfl⟩ := exists_word_of_word first
    obtain ⟨beforeColons, rfl⟩ := exists_before_of_token moduleColons
    obtain ⟨beforeModule, module, rfl, rfl⟩ := exists_word_of_word second
    obtain ⟨beforeNameColons, rfl⟩ := exists_before_of_token nameColons
    obtain ⟨rfl, missing, blanks, rfl⟩ := word_stops_iff.mp stops
    refine ⟨_, ?_, .name before ⟨word, notScalar, notVector⟩ beforeColons beforeModule module
      beforeNameColons blanks missing⟩
    simp only [List.append_assoc]
    rfl

mutual

/-- A tag that is refused gets stuck where the reader stops. -/
theorem exists_stuck_of_tag {text rest : List Char} {problem : Problem}
    (h : Stops (Reader.tag text) problem rest) :
    ∃ seen, text = seen ++ rest ∧ Stuck rest .tag seen problem := by
  -- The steps before the one that fails have read parts of a derivation.
  cases stopsTag_of_stops h with
  | keyword stops =>
    obtain ⟨rfl, missing, blanks, rfl⟩ := word_stops_iff.mp stops
    exact ⟨_, rfl, .keyword blanks missing⟩
  | opening keyword stops =>
    have ends := endsWord_of_word keyword
    obtain ⟨before, word, isVector, rfl⟩ := exists_word_of_word keyword
    obtain ⟨rfl, missing, blanks, rfl⟩ := token_stops_iff.mp stops
    exact ⟨_, by rw [isVector, List.append_assoc], .opening before blanks ends missing⟩
  | @element afterWord inside keyword opening stops =>
    have shorter : inside.length < text.length := opening.shorter.trans keyword.shorter
    obtain ⟨seen, hInside, inner⟩ := exists_stuck_of_tag stops
    obtain ⟨before, word, isVector, rfl⟩ := exists_word_of_word keyword
    obtain ⟨beforeOpening, rfl⟩ := exists_before_of_token opening
    refine ⟨_, ?_, .element before beforeOpening inner⟩
    simp only [isVector, hInside, List.append_assoc]
    rfl
  | closing keyword opening body stops =>
    obtain ⟨before, word, isVector, rfl⟩ := exists_word_of_word keyword
    obtain ⟨beforeOpening, rfl⟩ := exists_before_of_token opening
    obtain ⟨element, -, rfl, ends⟩ := exists_derivation_of_reads body
    obtain ⟨rfl, missing, blanks, rfl⟩ := token_stops_iff.mp stops
    refine ⟨_, ?_, .closing before beforeOpening element blanks ends missing⟩
    simp only [isVector, List.append_assoc]
    rfl
  | name stops =>
    obtain ⟨seen, spelled, inner⟩ := exists_stuckName_of_stopsName stops
    exact ⟨seen, spelled, .name inner⟩
  | @params name afterName inside named opening stops =>
    have shorter : inside.length < text.length :=
      (length_lt_of_skipBlank opening).trans named.shorter
    obtain ⟨seen, rfl, inner⟩ := exists_stuck_of_tags stops
    obtain ⟨structName, -, rfl, -⟩ := exists_structName_of_readsName named
    obtain ⟨-, beforeOpening, rfl⟩ := skipBlank_eq_iff.mp opening
    refine ⟨_, ?_, .params structName beforeOpening inner⟩
    simp only [Blanks.before, List.append_assoc]
    rfl
termination_by (text.length, 0)

/-- Tags that are refused get stuck where the reader stops. -/
theorem exists_stuck_of_tags {text rest : List Char} {problem : Problem}
    (h : Stops (Reader.tags text) problem rest) :
    ∃ seen, text = seen ++ rest ∧ Stuck rest .tags seen problem := by
  cases stopsTags_of_stops h with
  | param stops =>
    obtain ⟨seen, rfl, inner⟩ := exists_stuck_of_tag stops
    exact ⟨_, rfl, .param inner⟩
  | closing param alone stops =>
    obtain ⟨derived, -, rfl, ends⟩ := exists_derivation_of_reads param
    obtain ⟨rfl, missing, blanks, rfl⟩ := token_stops_iff.mp stops
    rw [skipBlank_append, missing.solid.skipBlank_eq] at alone
    exact ⟨_, (List.append_assoc ..).symm, .closingParams derived blanks ends alone missing⟩
  | @more _ afterFirst more param comma stops =>
    have shorter : more.length < text.length :=
      (length_lt_of_skipBlank comma).trans param.shorter
    obtain ⟨seen, rfl, inner⟩ := exists_stuck_of_tags stops
    obtain ⟨derived, -, rfl, -⟩ := exists_derivation_of_reads param
    obtain ⟨-, beforeComma, rfl⟩ := skipBlank_eq_iff.mp comma
    refine ⟨_, ?_, .more derived beforeComma inner⟩
    simp only [Blanks.before, List.append_assoc]
    rfl
termination_by (text.length, 1)

end

/-! ## Where the grammar gets stuck, the reader stops -/

theorem stopsName_of_stuckName (h : StuckName rest seen problem) :
    StopsName (seen ++ rest) problem rest := by
  cases h with
  | moduleColons before address blanks ends missing =>
    simp only [List.append_assoc]
    exact .moduleColons address.notScalar address.notVector (word_reads before address.toWord ends)
      (token_stops_iff.mpr ⟨rfl, missing, blanks, rfl⟩)
  | module before address beforeColons blanks missing =>
    simp only [List.append_assoc]
    exact .module address.notScalar address.notVector
      (word_reads before address.toWord (.before_colons _ _)) (colons_reads _ _)
      (word_stops_iff.mpr ⟨rfl, missing, blanks, rfl⟩)
  | nameColons before address beforeColons beforeModule module blanks ends missing =>
    simp only [List.append_assoc]
    exact .nameColons address.notScalar address.notVector
      (word_reads before address.toWord (.before_colons _ _)) (colons_reads _ _)
      (word_reads beforeModule module ends) (token_stops_iff.mpr ⟨rfl, missing, blanks, rfl⟩)
  | name before address beforeColons beforeModule module beforeNameColons blanks missing =>
    simp only [List.append_assoc]
    exact .name address.notScalar address.notVector
      (word_reads before address.toWord (.before_colons _ _)) (colons_reads _ _)
      (word_reads beforeModule module (.before_colons _ _)) (colons_reads _ _)
      (word_stops_iff.mpr ⟨rfl, missing, blanks, rfl⟩)

/-- The reader of what a symbol derives stops with a problem before the rest of a text. -/
def Symbol.Stops : Symbol → List Char → Problem → List Char → Prop
  | .tag, text => Grammar.Stops (Reader.tag text)
  | .tags, text => Grammar.Stops (Reader.tags text)

theorem stops_of_stuck (h : Stuck rest symbol seen problem) :
    symbol.Stops (seen ++ rest) problem rest := by
  induction h with
  | keyword blanks missing =>
    exact stops_of_stopsTag (.keyword (word_stops_iff.mpr ⟨rfl, missing, blanks, rfl⟩))
  | opening before blanks ends missing =>
    rw [List.append_assoc]
    exact stops_of_stopsTag (.opening (word_reads before .vector ends)
      (token_stops_iff.mpr ⟨rfl, missing, blanks, rfl⟩))
  | element before beforeOpening _ ih =>
    simp only [List.append_assoc]
    exact stops_of_stopsTag (.element (word_reads before .vector (.before_opening _ _))
      (opening_reads _ _) ih)
  | closing before beforeOpening element blanks ends missing =>
    simp only [List.append_assoc]
    exact stops_of_stopsTag (.closing (word_reads before .vector (.before_opening _ _))
      (opening_reads _ _) (element.reads_of_ends ends)
      (token_stops_iff.mpr ⟨rfl, missing, blanks, rfl⟩))
  | name inner => exact stops_of_stopsTag (.name (stopsName_of_stuckName inner))
  | params name beforeOpening _ ih =>
    simp only [List.append_assoc]
    refine stops_of_stopsTag (.params (name.reads (.before_opening _ _)) ?_ ih)
    rw [Blanks.before, List.append_assoc, skipBlank_append]
    exact skipBlank_cons rfl _
  | param _ ih => exact stops_of_stopsTags (.param ih)
  | closingParams param blanks ends alone missing =>
    rw [List.append_assoc]
    refine stops_of_stopsTags (.closing (param.reads_of_ends ends) ?_
      (token_stops_iff.mpr ⟨rfl, missing, blanks, rfl⟩))
    rwa [skipBlank_append, missing.solid.skipBlank_eq]
  | more param beforeComma _ ih =>
    simp only [List.append_assoc]
    refine stops_of_stopsTags (.more (param.reads_of_ends ((Follows.comma _ _).ends param)) ?_ ih)
    rw [Blanks.before, List.append_assoc, skipBlank_append]
    exact skipBlank_cons rfl _

/-- The reader of tags stops exactly where the grammar gets stuck. -/
theorem tag_stops_iff :
    Stops (Reader.tag text) problem rest ↔
      ∃ seen, text = seen ++ rest ∧ Stuck rest .tag seen problem := by
  constructor
  · exact exists_stuck_of_tag
  · rintro ⟨seen, rfl, stuck⟩
    exact stops_of_stuck stuck

end MoveBindings.Tag.Grammar
