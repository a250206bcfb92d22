import MoveBindings.Dictionary

/-!
# Dictionaries of pairs

Keys never occur twice in a dictionary, whatever is inserted. A list of pairs
is therefore kept as it is exactly when its keys are distinct; otherwise some
value is lost.
-/

namespace MoveBindings.Dictionary

variable {κ α : Type} [DecidableEq κ]

@[simp] theorem insertAll_nil (d : Dictionary κ α) : d.insertAll [] = d := rfl

@[simp] theorem insertAll_cons (d : Dictionary κ α) (pair : κ × α) (rest : List (κ × α)) :
    d.insertAll (pair :: rest) = (d.insert pair.1 pair.2).insertAll rest := rfl

/-- When several keys are given one value, they have it and all other keys keep theirs. -/
theorem find?_insertAll_map {β : Type} (d : Dictionary κ α) (elements : List β) (keyOf : β → κ)
    (value : α) (key : κ) :
    (d.insertAll (elements.map fun element => (keyOf element, value))).find? key =
      if key ∈ elements.map keyOf then some value else d.find? key := by
  induction elements generalizing d with
  | nil => simp
  | cons element rest ih =>
    rw [List.map_cons, insertAll_cons, ih, find?_insert]
    by_cases later : key ∈ rest.map keyOf
    · simp [later]
    · by_cases here : keyOf element = key
      · simp [here]
      · simp [later, here, Ne.symm here]

/-- The keys are those that have a value. -/
theorem mem_keys_iff {d : Dictionary κ α} {key : κ} :
    key ∈ d.keys ↔ ∃ value, d.find? key = some value := by
  obtain ⟨entries⟩ := d
  simp only [keys, find?]
  induction entries with
  | nil => simp only [List.map_nil, List.not_mem_nil, findEntry?, reduceCtorEq, exists_false]
  | cons entry rest ih =>
    by_cases here : entry.1 = key
    · simp [here, findEntry?]
    · simp [here, findEntry?, Ne.symm here, ih]

/-- A dictionary with its values changed. -/
def map {β : Type} (f : κ → α → β) (d : Dictionary κ α) : Dictionary κ β :=
  ⟨d.entries.map fun entry => (entry.1, f entry.1 entry.2)⟩

theorem find?_map {β : Type} (f : κ → α → β) (d : Dictionary κ α) (key : κ) :
    (d.map f).find? key = (d.find? key).map (f key) := by
  obtain ⟨entries⟩ := d
  simp only [find?, map]
  induction entries with
  | nil => rfl
  | cons entry rest ih =>
    by_cases here : entry.1 = key
    · simp [here, findEntry?]
    · simp [here, findEntry?, ih]

omit [DecidableEq κ] in
@[simp] theorem keys_map {β : Type} (f : κ → α → β) (d : Dictionary κ α) :
    (d.map f).keys = d.keys :=
  List.map_map

theorem map_insert {β : Type} (f : κ → α → β) (d : Dictionary κ α) (key : κ) (value : α) :
    (d.insert key value).map f = (d.map f).insert key (f key value) := by
  obtain ⟨entries⟩ := d
  simp only [map, insert, mk.injEq]
  induction entries with
  | nil => rfl
  | cons entry rest ih =>
    by_cases here : entry.1 = key
    · simp [here, insertEntry]
    · simp [here, insertEntry, ih]

/-- A change of a value can be made before or after all values are changed. -/
theorem map_update {β : Type} {f : κ → α → β} {key : κ} {change : Option α → α}
    {change' : Option β → β} (same : ∀ value, f key (change value) = change' (value.map (f key)))
    (d : Dictionary κ α) : (d.update key change).map f = (d.map f).update key change' := by
  rw [update, update, map_insert, find?_map, same]

/-- When no key occurs twice, every entry tells the value of its key. -/
theorem find?_of_mem_entries {d : Dictionary κ α} (distinct : d.keys.Nodup) {key : κ} {value : α}
    (entered : (key, value) ∈ d.entries) : d.find? key = some value := by
  obtain ⟨entries⟩ := d
  simp only [keys, find?] at distinct entered ⊢
  induction entries with
  | nil => cases entered
  | cons entry rest ih =>
    rw [List.map_cons, List.nodup_cons] at distinct
    rcases List.mem_cons.mp entered with rfl | later
    · exact if_pos rfl
    · have other : entry.1 ≠ key := by
        rintro rfl
        exact distinct.1 (List.mem_map.mpr ⟨_, later, rfl⟩)
      rw [← ih distinct.2 later]
      exact if_neg other

theorem keys_insert_nodup {d : Dictionary κ α} (distinct : d.keys.Nodup) (key : κ) (value : α) :
    (d.insert key value).keys.Nodup := by
  rw [keys_insert]
  split
  · exact distinct
  · next new =>
    refine List.nodup_append.mpr ⟨distinct, by simp, ?_⟩
    rintro other known _ last rfl
    exact new (List.mem_singleton.mp last ▸ known)

theorem keys_update_nodup {d : Dictionary κ α} (distinct : d.keys.Nodup) (key : κ)
    (change : Option α → α) : (d.update key change).keys.Nodup :=
  keys_insert_nodup distinct key _

/-- An element that is put behind those of a key comes to the elements of all keys. -/
theorem flatMap_update_perm {β : Type} (d : Dictionary κ (List β)) (key : κ) (element : β) :
    ((d.update key fun others => others.getD [] ++ [element]).entries.flatMap Prod.snd).Perm
      (d.entries.flatMap Prod.snd ++ [element]) := by
  obtain ⟨entries⟩ := d
  simp only [update, insert, find?]
  induction entries with
  | nil => exact .refl _
  | cons entry rest ih =>
    by_cases here : entry.1 = key
    · rw [insertEntry, findEntry?, if_pos here, if_pos here, List.flatMap_cons, List.flatMap_cons,
        Option.getD_some, List.append_assoc, List.append_assoc]
      exact List.perm_append_comm.append_left entry.2
    · rw [insertEntry, findEntry?, if_neg here, if_neg here, List.flatMap_cons, List.flatMap_cons,
        List.append_assoc]
      exact ih.append_left entry.2

theorem keys_insertAll_nodup {d : Dictionary κ α} (distinct : d.keys.Nodup)
    (pairs : List (κ × α)) : (d.insertAll pairs).keys.Nodup := by
  induction pairs generalizing d with
  | nil => exact distinct
  | cons pair rest ih => exact ih (keys_insert_nodup distinct pair.1 pair.2)

/-- A new key goes to the end with its value. -/
theorem entries_insert_of_notMem {d : Dictionary κ α} {key : κ} (new : key ∉ d.keys) (value : α) :
    (d.insert key value).entries = d.entries ++ [(key, value)] := by
  obtain ⟨entries⟩ := d
  simp only [keys, insert] at new ⊢
  induction entries with
  | nil => rfl
  | cons entry rest ih =>
    obtain ⟨other, newLater⟩ := List.ne_and_not_mem_of_not_mem_cons new
    simp [insertEntry, Ne.symm other, ih newLater]

theorem mem_of_mem_insert {d : Dictionary κ α} {key : κ} {value : α} {entry : κ × α}
    (member : entry ∈ (d.insert key value).entries) :
    entry = (key, value) ∨ entry ∈ d.entries := by
  obtain ⟨entries⟩ := d
  simp only [insert] at member ⊢
  induction entries with
  | nil => exact .inl (List.mem_singleton.mp member)
  | cons first rest ih =>
    unfold insertEntry at member
    split at member
    · next here =>
      rcases List.mem_cons.mp member with same | later
      · exact .inl (here ▸ same)
      · exact .inr (List.mem_cons_of_mem _ later)
    · rcases List.mem_cons.mp member with same | later
      · exact .inr (List.mem_cons.mpr (.inl same))
      · exact (ih later).imp_right (List.mem_cons_of_mem _)

/-- Every entry was inserted or was there before. -/
theorem mem_of_mem_insertAll {d : Dictionary κ α} {pairs : List (κ × α)} {entry : κ × α}
    (member : entry ∈ (d.insertAll pairs).entries) : entry ∈ d.entries ∨ entry ∈ pairs := by
  induction pairs generalizing d with
  | nil => exact .inl member
  | cons pair rest ih =>
    rcases ih member with inserted | later
    · rcases mem_of_mem_insert inserted with rfl | before
      · exact .inr List.mem_cons_self
      · exact .inl before
    · exact .inr (List.mem_cons_of_mem _ later)

/-- New keys go to the end with their values, in order. -/
theorem entries_insertAll_of_nodup {d : Dictionary κ α} {pairs : List (κ × α)}
    (distinct : (d.keys ++ pairs.map Prod.fst).Nodup) :
    (d.insertAll pairs).entries = d.entries ++ pairs := by
  induction pairs generalizing d with
  | nil => simp
  | cons pair rest ih =>
    have new : pair.1 ∉ d.keys := by
      intro known
      exact (List.nodup_append.mp distinct).2.2 _ known _ (by simp) rfl
    have distinctLater : ((d.insert pair.1 pair.2).keys ++ rest.map Prod.fst).Nodup := by
      rw [keys_insert, if_neg new]
      simpa using distinct
    rw [insertAll_cons, ih distinctLater, entries_insert_of_notMem new]
    simp

theorem keys_ofList_nodup (pairs : List (κ × α)) : (ofList pairs).keys.Nodup :=
  keys_insertAll_nodup (d := empty) List.nodup_nil pairs

/-- A list of pairs is kept as it is exactly when its keys are distinct. -/
theorem entries_ofList_eq_iff {pairs : List (κ × α)} :
    (ofList pairs).entries = pairs ↔ (pairs.map Prod.fst).Nodup := by
  constructor
  · intro kept
    have distinct : (ofList pairs).keys.Nodup := keys_ofList_nodup pairs
    rwa [keys, kept] at distinct
  · intro distinct
    exact entries_insertAll_of_nodup (d := empty) distinct

end MoveBindings.Dictionary
