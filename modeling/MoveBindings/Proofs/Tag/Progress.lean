import Mathlib.Data.List.Perm.Subperm
import MoveBindings.Proofs.Tag.ErrorPosition
import MoveBindings.Proofs.Tag.Trace

/-!
# The reader of tags goes forward

Everything that the reader begins, it begins farther on than what it began before:
every call comes after a word and a bracket or comma, and a tag that was read has
left less of the text. So calls are nested no deeper, and loops are passed no more
often, than there are characters left. A tag that is read ends behind its start,
and a text that is refused is refused at a place inside it.
-/

namespace MoveBindings.Tag.Reader

open Text

/-! ## Events in order -/

namespace Event

/-- How many characters are left where something is begun. -/
def left : Event → Nat
  | .call left _ => left
  | .pass left => left

/-- Whether a pass over parameters is begun. -/
def isPass : Event → Bool
  | .call _ _ => false
  | .pass _ => true

end Event

mutual

/-- Where an event begins, and then all that is begun inside it, in order. -/
def Event.starts : Event → List Nat
  | .call left inner => left :: starts inner
  | .pass left => [left]

/-- Where events begin, each with all that is begun inside it. -/
def starts : List Event → List Nat
  | [] => []
  | event :: later => event.starts ++ starts later

end

mutual

/-- How many calls are nested in an event at most. -/
def Event.nesting : Event → Nat
  | .call _ inner => nesting inner + 1
  | .pass _ => 0

/-- How many calls are nested in events at most. -/
def nesting : List Event → Nat
  | [] => 0
  | event :: later => max event.nesting (nesting later)

end

/-- A call, with what is begun inside it. -/
structure Call where
  left : Nat
  inner : List Event

mutual

/-- The calls of an event. -/
def Event.calls : Event → List Call
  | .call left inner => ⟨left, inner⟩ :: calls inner
  | .pass _ => []

/-- The calls of events. -/
def calls : List Event → List Call
  | [] => []
  | event :: later => event.calls ++ calls later

end

@[simp] theorem starts_append (events others : List Event) :
    starts (events ++ others) = starts events ++ starts others := by
  induction events with
  | nil => rfl
  | cons event later ih => rw [List.cons_append, starts, starts, ih, List.append_assoc]

theorem Event.left_mem_starts (event : Event) : event.left ∈ event.starts := by
  cases event with
  | call left inner =>
    rw [starts]
    exact List.mem_cons_self
  | pass left => exact List.mem_cons_self

theorem left_mem_starts {event : Event} {events : List Event} (member : event ∈ events) :
    event.left ∈ starts events := by
  induction events with
  | nil => cases member
  | cons first later ih =>
    rw [starts, List.mem_append]
    rcases List.mem_cons.mp member with rfl | member
    · exact .inl event.left_mem_starts
    · exact .inr (ih member)

/-- Every event begins somewhere. -/
theorem length_le_length_starts (events : List Event) :
    events.length ≤ (starts events).length := by
  induction events with
  | nil => exact Nat.le_refl _
  | cons first later ih =>
    have some := List.length_pos_of_mem first.left_mem_starts
    rw [starts, List.length_append, List.length_cons]
    omega

mutual

theorem Event.nesting_le : (event : Event) → event.nesting ≤ event.starts.length
  | .call left inner => by
    have := nesting_le inner
    rw [Event.nesting, Event.starts, List.length_cons]
    omega
  | .pass _ => Nat.zero_le _

/-- Calls that are nested begin at different times. -/
theorem nesting_le : (events : List Event) → nesting events ≤ (starts events).length
  | [] => Nat.le_refl _
  | event :: later => by
    have := event.nesting_le
    have := nesting_le later
    rw [nesting, starts, List.length_append]
    omega

end

mutual

theorem Event.sublist_starts {call : Call} :
    (event : Event) → call ∈ event.calls → (call.left :: starts call.inner).Sublist event.starts
  | .call left inner, member => by
    rw [Event.calls] at member
    rw [Event.starts]
    rcases List.mem_cons.mp member with rfl | member
    · exact .refl _
    · exact (sublist_starts inner member).cons left
  | .pass _, member => by cases member

/-- The events of a call are among all events, in the same order. -/
theorem sublist_starts {call : Call} :
    (events : List Event) → call ∈ calls events →
      (call.left :: starts call.inner).Sublist (starts events)
  | [], member => by cases member
  | event :: later, member => by
    rw [calls, List.mem_append] at member
    rw [starts]
    rcases member with member | member
    · exact (event.sublist_starts member).trans (List.sublist_append_left _ _)
    · exact (sublist_starts later member).trans (List.sublist_append_right _ _)

end

/-- Numbers below a bound that descend are no more than the bound. -/
theorem length_le_of_descending {bound : Nat} {numbers : List Nat}
    (descending : (bound :: numbers).Pairwise (· > ·)) : numbers.length ≤ bound := by
  obtain ⟨below, ordered⟩ := List.pairwise_cons.mp descending
  have once : numbers.Nodup := ordered.imp fun after => Nat.ne_of_gt after
  have inRange : numbers ⊆ List.range bound := fun number member =>
    List.mem_range.mpr (below number member)
  simpa using (once.subperm inRange).length_le

/-- Inside a call everything is begun farther on. Calls are nested no deeper in it than characters
are left, and there are no more passes over its parameters. -/
structure Call.Descends (call : Call) : Prop where
  later : ∀ event ∈ call.inner, event.left < call.left
  depth : nesting call.inner ≤ call.left
  passes : call.inner.countP Event.isPass ≤ call.left

/-- Where all events begin one behind the other, every call descends. -/
theorem Call.descends {events : List Event} (descending : (starts events).Pairwise (· > ·))
    {call : Call} (member : call ∈ calls events) : call.Descends := by
  have ordered := descending.sublist (sublist_starts events member)
  have few := length_le_of_descending ordered
  constructor
  · intro event inner
    exact (List.pairwise_cons.mp ordered).1 _ (left_mem_starts inner)
  · exact (nesting_le call.inner).trans few
  · exact (List.countP_le_length.trans (length_le_length_starts call.inner)).trans few

/-! ## Steps go forward -/

theorem skipBlank_suffix (text : List Char) : skipBlank text <:+ text :=
  List.dropWhile_suffix isBlank

/-- An outcome for which the text was read from a place on: what is left, or the place of the stop,
is not before that place. -/
structure Stays {α : Type} {text : List Char} (start : List Char)
    (outcome : Except (Stop Problem) (Reading α text)) : Prop where
  reads : ∀ reading, outcome = .ok reading → reading.rest <:+ start
  stops : ∀ stop, outcome = .error stop → stop.rest <:+ start

/-- What stays behind a place stays behind every place before it. -/
theorem Stays.widen {α : Type} {text place start : List Char}
    {outcome : Except (Stop Problem) (Reading α text)} (h : Stays place outcome)
    (suffix : place <:+ start) : Stays start outcome where
  reads reading same := (h.reads reading same).trans suffix
  stops stop same := (h.stops stop same).trans suffix

theorem token_stays (expected : Token) (text : List Char) : Stays text (token expected text) := by
  have blanks := skipBlank_suffix text
  constructor <;> intro result same <;> rw [token] at same <;> split at same <;> cases same
  · exact (List.drop_suffix _ _).trans blanks
  · exact blanks

theorem word_stays (text : List Char) : Stays text (word text) := by
  have blanks := skipBlank_suffix text
  constructor <;> intro result same <;> rw [word] at same <;> split at same
  · next c rest first =>
    rw [first] at blanks
    split at same <;> cases same
    exact ((List.dropWhile_suffix isWordChar).trans (List.suffix_cons c rest)).trans blanks
  · cases same
  · next first =>
    rw [first] at blanks
    split at same <;> cases same
    exact blanks
  · cases same
    exact List.nil_suffix

namespace Traced

variable {α β : Type} {text start : List Char}

/-- A traced reader goes forward from a place: all is begun from there on, one thing behind the
other, and before the end of what was read. -/
structure Advances (start : List Char) (traced : Traced (Reading α text)) : Prop where
  outcome : Stays start traced.outcome
  descending : (starts traced.events).Pairwise (· > ·)
  bounded : ∀ left ∈ starts traced.events, left ≤ start.length
  before : ∀ reading, traced.outcome = .ok reading →
    ∀ left ∈ starts traced.events, reading.rest.length < left

namespace Advances

theorem step {outcome : Except (Stop Problem) (Reading α text)} (stays : Stays start outcome) :
    Advances start (step outcome) where
  outcome := stays
  descending := .nil
  bounded := by nofun
  before _ _ := by nofun

theorem pure {reading : Reading α text} (suffix : reading.rest <:+ start) :
    Advances start (Pure.pure reading : Traced (Reading α text)) where
  outcome := ⟨fun _ same => by cases same; exact suffix, nofun⟩
  descending := .nil
  bounded := by nofun
  before _ _ := by nofun

/-- A reader that goes forward, and then one that goes forward from there. -/
theorem bind {whole : List Char} {first : Traced (Reading α text)}
    {next : Reading α text → Traced (Reading β whole)} (h : Advances start first)
    (later : ∀ reading, Advances reading.rest (next reading)) :
    Advances start (first >>= next) := by
  obtain ⟨events, outcome⟩ := first
  cases outcome with
  | error stop => exact ⟨⟨nofun, fun _ same => by cases same; exact h.outcome.stops stop rfl⟩,
      h.descending, h.bounded, nofun⟩
  | ok reading =>
    obtain ⟨outcome, descending, bounded, before⟩ := later reading
    have suffix := h.outcome.reads reading rfl
    have events_bind : starts ((⟨events, .ok reading⟩ : Traced _) >>= next).events =
        starts events ++ starts (next reading).events := starts_append _ _
    refine ⟨outcome.widen suffix, ?_, ?_, ?_⟩
    · rw [events_bind]
      refine List.pairwise_append.mpr ⟨h.descending, descending, ?_⟩
      intro left earlier left' member
      exact (bounded left' member).trans_lt (h.before reading rfl left earlier)
    · intro left member
      rw [events_bind, List.mem_append] at member
      rcases member with earlier | member
      · exact h.bounded left earlier
      · exact (bounded left member).trans suffix.length_le
    · intro result same left member
      rw [events_bind, List.mem_append] at member
      rcases member with earlier | member
      · exact (outcome.reads result same).length_le.trans_lt (h.before reading rfl left earlier)
      · exact before result same left member

/-- What goes forward from a place goes forward from every place before it. -/
theorem widen {traced : Traced (Reading α text)} {place : List Char} (h : Advances place traced)
    (suffix : place <:+ start) : Advances start traced where
  outcome := h.outcome.widen suffix
  descending := h.descending
  bounded left member := (h.bounded left member).trans suffix.length_le
  before := h.before

/-- Something is begun in front of what goes forward from a place farther on. -/
theorem front {traced traced' : Traced (Reading α text)} {place : List Char} {left : Nat}
    (h : Advances place traced) (outcome : traced'.outcome = traced.outcome)
    (first : starts traced'.events = left :: starts traced.events) (farther : place.length < left)
    (within : left ≤ start.length) (suffix : place <:+ start) : Advances start traced' where
  outcome := by
    rw [outcome]
    exact h.outcome.widen suffix
  descending := by
    rw [first]
    refine List.pairwise_cons.mpr ⟨fun later member => ?_, h.descending⟩
    exact (h.bounded later member).trans_lt farther
  bounded := by
    rw [first]
    refine List.forall_mem_cons.mpr ⟨within, fun later member => ?_⟩
    exact (h.bounded later member).trans suffix.length_le
  before := by
    rw [outcome, first]
    intro reading same
    refine List.forall_mem_cons.mpr ⟨?_, h.before reading same⟩
    exact (h.outcome.reads reading same).length_le.trans_lt farther

/-- A pass begins with the comma. -/
theorem passing {traced : Traced (Reading α text)} {more : List Char} {comma : Char}
    (h : Advances more traced) (suffix : comma :: more <:+ start) :
    Advances start (passing (comma :: more).length traced) :=
  h.front rfl rfl (Nat.lt_succ_self _) suffix.length_le ((List.suffix_cons comma more).trans suffix)

/-- A call begins with a step that takes something off the text. -/
theorem calling {first : Except (Stop Problem) (Reading α text)}
    {next : Reading α text → Traced (Reading β text)} (stays : Stays text first)
    (later : ∀ reading, Advances reading.rest (next reading)) :
    Advances text (calling text.length (Traced.step first >>= next)) := by
  cases first with
  | error stop =>
    refine ⟨⟨nofun, fun _ same => by cases same; exact stays.stops stop rfl⟩, ?_, ?_, nofun⟩
    · exact List.pairwise_singleton ..
    · exact fun left member => (List.mem_singleton.mp member).le
  | ok reading =>
    have once : starts (Traced.calling text.length
        (Traced.step (.ok reading) >>= next)).events =
          text.length :: starts (next reading).events :=
      List.append_nil _
    exact (later reading).front rfl once reading.shorter (Nat.le_refl _)
      (stays.reads reading rfl)

end Advances

mutual

/-- To read a tag is to go forward. -/
theorem advances_tag (text : List Char) : Advances text (tag text) := by
  rw [tag]
  refine .calling (word_stays text) fun keyword => ?_
  have := keyword.shorter
  dsimp only
  split
  · exact .pure (List.suffix_refl _)
  · split
    · refine .bind (.step (token_stays ..)) fun opening => ?_
      have := opening.shorter
      refine .bind (advances_tag opening.rest) fun element => ?_
      refine .bind (.step (token_stays ..)) fun closing => ?_
      exact .pure (List.suffix_refl _)
    · refine .bind (.step (token_stays ..)) fun moduleColons => ?_
      refine .bind (.step (word_stays _)) fun module => ?_
      refine .bind (.step (token_stays ..)) fun nameColons => ?_
      refine .bind (.step (word_stays _)) fun name => ?_
      have := moduleColons.shorter
      have := module.shorter
      have := nameColons.shorter
      have := name.shorter
      split
      · next inside _ opening =>
        have starts := Grammar.firstNonBlank?_eq_some_iff.mp opening
        have suffix : inside <:+ name.rest :=
          (List.suffix_cons '<' inside).trans (starts ▸ skipBlank_suffix _)
        refine .bind ((advances_tags inside).widen suffix) fun params => ?_
        exact .pure (List.suffix_refl _)
      · exact .pure (List.suffix_refl _)
termination_by (text.length, 0)

theorem advances_tags (text : List Char) : Advances text (tags text) := by
  rw [tags]
  refine .bind (advances_tag text) fun first => ?_
  have := first.shorter
  dsimp only
  split
  · next more _ comma =>
    have starts := Grammar.firstNonBlank?_eq_some_iff.mp comma
    dsimp only at starts
    rw [starts]
    refine .passing (.bind (advances_tags more) fun others => ?_)
      (starts ▸ skipBlank_suffix _)
    exact .pure (List.suffix_refl _)
  · refine .bind (.step (token_stays ..)) fun closing => ?_
    exact .pure (List.suffix_refl _)
termination_by (text.length, 1)

end

end Traced

/-! ## Reading from a position -/

/-- What is left at a place behind a position is the text from some later position on. -/
theorem exists_drop_of_suffix {text rest : List Char} {start : Nat} (inside : start ≤ text.length)
    (suffix : rest <:+ text.drop start) :
    ∃ position, rest = text.drop position ∧ start ≤ position ∧ position ≤ text.length ∧
      rest.length = text.length - position := by
  have size := suffix.length_le
  rw [List.length_drop] at size
  have same := List.suffix_iff_eq_drop.mp suffix
  rw [List.drop_drop, List.length_drop] at same
  refine ⟨start + (text.length - start - rest.length), same, ?_, ?_, ?_⟩ <;> omega

/-- The reader of tags comes from a position of a text to an outcome inside the text, and what it
begins on the way, it begins farther and farther on. -/
structure Progress (text : List Char) (start : Nat) (inner : List Event) : Prop where
  /-- The trace of the reader is one call, with all that is begun inside it. -/
  traced : Traced.tag (text.drop start) =
    ⟨[.call (text.length - start) inner], Reader.tag (text.drop start)⟩
  /-- The reader stops inside the text, or it reads a tag and gets ahead. -/
  outcome : (∃ problem stop, Reader.tag (text.drop start) = .error ⟨problem, text.drop stop⟩ ∧
      start ≤ stop ∧ stop ≤ text.length) ∨
    ∃ tag next, Grammar.Reads (Reader.tag (text.drop start)) tag (text.drop next) ∧
      start < next ∧ next ≤ text.length
  within : ∀ call ∈ calls [.call (text.length - start) inner], call.left ≤ text.length - start
  descends : ∀ call ∈ calls [.call (text.length - start) inner], call.Descends
  /-- There are no more calls and passes than characters left, besides the first call. -/
  few : (starts inner).length ≤ text.length - start

theorem exists_progress {text : List Char} {start : Nat} (inside : start ≤ text.length) :
    ∃ inner, Progress text start inner := by
  have advances := Traced.advances_tag (text.drop start)
  obtain ⟨inner, events⟩ := Traced.exists_events_tag (text.drop start)
  rw [List.length_drop] at events
  have descending := advances.descending
  have bounded := advances.bounded
  have stays := advances.outcome
  rw [events] at descending bounded
  rw [Traced.outcome_tag] at stays
  rw [List.length_drop] at bounded
  have whole : starts [.call (text.length - start) inner] =
      (text.length - start) :: starts inner := List.append_nil _
  refine ⟨inner, ?_, ?_, fun call member => ?_, fun call member => Call.descends descending member,
    length_le_of_descending (whole ▸ descending)⟩
  · rw [← Traced.outcome_tag, ← events]
  · cases outcome : Reader.tag (text.drop start) with
    | error stop =>
      obtain ⟨problem, rest⟩ := stop
      obtain ⟨position, rfl, after, before, -⟩ :=
        exists_drop_of_suffix inside (stays.stops _ outcome)
      exact .inl ⟨problem, position, rfl, after, before⟩
    | ok reading =>
      obtain ⟨position, rest, after, before, size⟩ :=
        exists_drop_of_suffix inside (stays.reads _ outcome)
      have shorter := reading.shorter
      rw [List.length_drop, size] at shorter
      exact .inr ⟨reading.value, position, ⟨reading, rfl, rfl, rest⟩, by omega, before⟩
  · exact bounded _ ((sublist_starts _ member).subset List.mem_cons_self)

/-- From every position of a text the reader of tags makes progress. It stops inside the text, or it
reads a tag and gets ahead; every call and every pass over parameters is begun farther on than the
call that it is inside of, so that calls are nested no deeper and passes are made no more often than
characters are left. Every text that spells no tag is refused, at a place inside it. -/
theorem reader_makes_progress :
    (∀ (text : List Char) (start : Nat), start ≤ text.length →
      ∃ inner, Progress text start inner) ∧
    ∀ text : String, (¬ ∃ s : Grammar.Spelling, s.text = text.toList) →
      ∃ error : SyntaxError, Tag.read text = .error error ∧
        error.position ≤ text.toList.length := by
  refine ⟨fun text start => exists_progress, fun text none => ?_⟩
  cases outcome : Tag.read text with
  | ok tag =>
    obtain ⟨s, spelled, -⟩ := read_eq_ok_iff.mp outcome
    exact absurd ⟨s, spelled⟩ none
  | error error =>
    refine ⟨error, rfl, ?_⟩
    rw [Tag.read] at outcome
    split at outcome
    · cases outcome
    · cases outcome
      exact Nat.sub_le _ _

theorem reader_makes_progress_half_colons :
    (7 ≤ "vector<0x1::T::T<u8, bool>".toList.length ∧
      ∃ inner, Progress "vector<0x1::T::T<u8, bool>".toList 7 inner) ∧
    (¬ ∃ s : Grammar.Spelling, s.text = "vector<0x1:a>".toList) ∧
    ∃ error : SyntaxError, Tag.read "vector<0x1:a>" = .error error ∧
      error.position ≤ "vector<0x1:a>".toList.length := by
  have inside : 7 ≤ "vector<0x1::T::T<u8, bool>".toList.length := by decide
  have none : ¬ ∃ s : Grammar.Spelling, s.text = "vector<0x1:a>".toList := by
    rintro ⟨s, spelled⟩
    cases read_half_colons.symm.trans (read_eq_ok_iff.mpr ⟨s, spelled, rfl⟩)
  exact ⟨⟨inside, reader_makes_progress.1 _ 7 inside⟩, none, reader_makes_progress.2 _ none⟩

end MoveBindings.Tag.Reader
