namespace StructuralProducts

/-!
# Keyed lists

A small finite map that remembers the order in which its keys were first
inserted.  Inserting under a present key replaces the value in place.  The
lemmas describe every operation through `get?` and `keys`; nothing else about
the representation is used elsewhere.
-/

/-- A list of key-value pairs, searched from the front. -/
structure KeyedList (Key : Type) (Item : Type) where
  pairs : List (Key × Item)

namespace KeyedList

variable {Key Item : Type} [DecidableEq Key]

def empty : KeyedList Key Item := ⟨[]⟩

instance : Inhabited (KeyedList Key Item) := ⟨empty⟩

/-- The value under a key in a list of pairs. -/
def lookupIn (key : Key) : List (Key × Item) -> Option Item
  | [] => none
  | pair :: rest => if pair.1 = key then some pair.2 else lookupIn key rest

/-- Put a value under a key in a list of pairs. -/
def insertIn (key : Key) (item : Item) : List (Key × Item) -> List (Key × Item)
  | [] => [(key, item)]
  | pair :: rest => if pair.1 = key then (key, item) :: rest else pair :: insertIn key item rest

def get? (map : KeyedList Key Item) (key : Key) : Option Item :=
  lookupIn key map.pairs

/-- Put a value under a key, replacing the one that is there. -/
def insert (map : KeyedList Key Item) (key : Key) (item : Item) : KeyedList Key Item :=
  ⟨insertIn key item map.pairs⟩

def contains (map : KeyedList Key Item) (key : Key) : Bool :=
  (map.get? key).isSome

omit [DecidableEq Key] in
/-- The keys in the order of their first insertion. -/
def keys (map : KeyedList Key Item) : List Key :=
  map.pairs.map (·.1)

omit [DecidableEq Key] in
/-- The values in the order of the first insertion of their keys. -/
def values (map : KeyedList Key Item) : List Item :=
  map.pairs.map (·.2)

omit [DecidableEq Key] in
def size (map : KeyedList Key Item) : Nat :=
  map.pairs.length

@[simp] theorem get?_empty (key : Key) : (empty : KeyedList Key Item).get? key = none := rfl

theorem get?_insert_self (map : KeyedList Key Item) (key : Key) (item : Item) :
    (map.insert key item).get? key = some item := by
  obtain ⟨pairs⟩ := map
  simp only [insert, get?]
  induction pairs with
  | nil => simp [insertIn, lookupIn]
  | cons pair rest inductionHypothesis =>
      by_cases same : pair.1 = key
      · simp [insertIn, lookupIn, same]
      · simp [insertIn, lookupIn, same, inductionHypothesis]

theorem get?_insert_of_ne (map : KeyedList Key Item) {key other : Key} (item : Item)
    (different : other ≠ key) : (map.insert key item).get? other = map.get? other := by
  obtain ⟨pairs⟩ := map
  simp only [insert, get?]
  induction pairs with
  | nil => simp [insertIn, lookupIn, different.symm]
  | cons pair rest inductionHypothesis =>
      by_cases same : pair.1 = key
      · simp [insertIn, lookupIn, same, different.symm]
      · simp [insertIn, lookupIn, same, inductionHypothesis]

/-- A key has a value exactly when it was inserted. -/
theorem mem_keys_iff (map : KeyedList Key Item) (key : Key) :
    key ∈ map.keys ↔ (map.get? key).isSome = true := by
  obtain ⟨pairs⟩ := map
  simp only [keys, get?]
  induction pairs with
  | nil => simp [lookupIn]
  | cons pair rest inductionHypothesis =>
      by_cases same : pair.1 = key
      · simp [lookupIn, same]
      · simp [lookupIn, same, Ne.symm same, inductionHypothesis]

/-- Inserting keeps the order of the keys and puts a new one last. -/
theorem keys_insert (map : KeyedList Key Item) (key : Key) (item : Item) :
    (map.insert key item).keys = if key ∈ map.keys then map.keys else map.keys ++ [key] := by
  obtain ⟨pairs⟩ := map
  simp only [insert, keys]
  induction pairs with
  | nil => simp [insertIn]
  | cons pair rest inductionHypothesis =>
      by_cases same : pair.1 = key
      · simp [insertIn, same]
      · simp only [insertIn, same, if_false, List.map_cons, inductionHypothesis,
          List.mem_cons, Ne.symm same, false_or]
        by_cases present : key ∈ rest.map (·.1) <;> simp [present]

theorem nodup_keys_insert {map : KeyedList Key Item} (distinct : map.keys.Nodup) (key : Key)
    (item : Item) : (map.insert key item).keys.Nodup := by
  rw [keys_insert]
  split
  · exact distinct
  · next fresh =>
      refine List.nodup_append.mpr ⟨distinct, List.nodup_cons.mpr ⟨List.not_mem_nil, .nil⟩, ?_⟩
      intro other member added addedMember same
      rw [List.mem_singleton.mp addedMember] at same
      exact fresh (same ▸ member)

/-- Of two insertions under one key the later one counts. -/
theorem insert_insert_self (map : KeyedList Key Item) (key : Key) (first second : Item) :
    (map.insert key first).insert key second = map.insert key second := by
  obtain ⟨pairs⟩ := map
  simp only [insert, mk.injEq]
  induction pairs with
  | nil => simp [insertIn]
  | cons pair rest inductionHypothesis =>
      by_cases same : pair.1 = key
      · simp [insertIn, same]
      · simp [insertIn, same, inductionHypothesis]

/-- Inserting what is there already changes nothing. -/
theorem insert_of_get? {map : KeyedList Key Item} {key : Key} {item : Item}
    (present : map.get? key = some item) : map.insert key item = map := by
  obtain ⟨pairs⟩ := map
  simp only [get?] at present
  simp only [insert, mk.injEq]
  induction pairs with
  | nil => cases present
  | cons pair rest inductionHypothesis =>
      by_cases same : pair.1 = key
      · simp only [lookupIn, if_pos same, Option.some.injEq] at present
        rw [insertIn, if_pos same, ← same, ← present]
      · simp only [lookupIn, if_neg same] at present
        simp only [insertIn, if_neg same, inductionHypothesis present]

omit [DecidableEq Key] in
theorem size_eq_length_keys (map : KeyedList Key Item) : map.size = map.keys.length :=
  (List.length_map _).symm

/-- Inserting under a new key makes the map larger by one. -/
theorem size_insert_of_get?_eq_none {map : KeyedList Key Item} {key : Key}
    (absent : map.get? key = none) (item : Item) : (map.insert key item).size = map.size + 1 := by
  have fresh : key ∉ map.keys := by
    rw [mem_keys_iff, absent]
    exact Bool.false_ne_true
  rw [size_eq_length_keys, keys_insert, if_neg fresh, List.length_append, ← size_eq_length_keys]
  rfl

end KeyedList
end StructuralProducts
