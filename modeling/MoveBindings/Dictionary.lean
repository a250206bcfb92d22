/-!
# Dictionaries in insertion order

A dictionary lists its entries in the order in which their keys were first
inserted. Inserting a key again changes its value and leaves it in its place.
-/

namespace MoveBindings

/-- Entries in the order of first insertion. -/
structure Dictionary (κ : Type) (α : Type) where
  entries : List (κ × α)

namespace Dictionary

variable {κ α : Type} [DecidableEq κ]

/-- The dictionary without entries. -/
def empty : Dictionary κ α := ⟨[]⟩

instance : EmptyCollection (Dictionary κ α) := ⟨empty⟩

/-- Gives a key its value among entries, in place if the key is there, else at the end. -/
def insertEntry (key : κ) (value : α) : List (κ × α) → List (κ × α)
  | [] => [(key, value)]
  | (k, v) :: rest => if k = key then (k, value) :: rest else (k, v) :: insertEntry key value rest

/-- Gives a key its value. -/
def insert (d : Dictionary κ α) (key : κ) (value : α) : Dictionary κ α :=
  ⟨insertEntry key value d.entries⟩

/-- The value that entries give to a key. -/
def findEntry? (key : κ) : List (κ × α) → Option α
  | [] => none
  | (k, value) :: rest => if k = key then some value else findEntry? key rest

/-- The value of a key. -/
def find? (d : Dictionary κ α) (key : κ) : Option α := findEntry? key d.entries

/-- Whether a key has a value. -/
def contains (d : Dictionary κ α) (key : κ) : Bool := (d.find? key).isSome

/-- The keys in order. -/
def keys (d : Dictionary κ α) : List κ := d.entries.map Prod.fst

/-- Changes the value of a key, which may have none. -/
def update (d : Dictionary κ α) (key : κ) (change : Option α → α) : Dictionary κ α :=
  d.insert key (change (d.find? key))

/-- Inserts pairs from left to right. -/
def insertAll (d : Dictionary κ α) (pairs : List (κ × α)) : Dictionary κ α :=
  pairs.foldl (fun d pair => d.insert pair.1 pair.2) d

/-- The dictionary of a list of pairs: the last value of a key counts, its first place stays. -/
def ofList (pairs : List (κ × α)) : Dictionary κ α := empty.insertAll pairs

@[simp] theorem find?_empty (key : κ) : (empty : Dictionary κ α).find? key = none := rfl

/-- A key has the value it was given last, and all other keys keep theirs. -/
theorem find?_insert (d : Dictionary κ α) (key other : κ) (value : α) :
    (d.insert key value).find? other = if key = other then some value else d.find? other := by
  obtain ⟨entries⟩ := d
  simp only [find?, insert]
  induction entries with
  | nil => simp [insertEntry, findEntry?]
  | cons entry rest ih =>
    obtain ⟨k, v⟩ := entry
    by_cases here : k = key
    · by_cases same : key = other <;> simp [insertEntry, findEntry?, here, same]
    · by_cases found : k = other
      · subst found
        simp [insertEntry, findEntry?, here, Ne.symm here]
      · simp [insertEntry, findEntry?, here, found, ih]

theorem find?_update (d : Dictionary κ α) (key other : κ) (change : Option α → α) :
    (d.update key change).find? other =
      if key = other then some (change (d.find? key)) else d.find? other :=
  find?_insert d key other _

/-- A new key goes to the end, a known one changes nothing. -/
theorem keys_insert (d : Dictionary κ α) (key : κ) (value : α) :
    (d.insert key value).keys = if key ∈ d.keys then d.keys else d.keys ++ [key] := by
  obtain ⟨entries⟩ := d
  simp only [keys, insert]
  induction entries with
  | nil => simp [insertEntry]
  | cons entry rest ih =>
    obtain ⟨k, v⟩ := entry
    by_cases here : k = key
    · simp [insertEntry, here]
    · by_cases later : key ∈ rest.map Prod.fst <;>
        simp_all [insertEntry, Ne.symm here]

end Dictionary

end MoveBindings
