import StructuralProducts.Name

namespace StructuralProducts

/-!
# The string interner

Component labels, type paths and bound names are interned once per session, so
that comparing them is comparing words.  The strings are spread over sixteen
shards by a hash of their first eight bytes.  A shard is a growing list of
distinct strings, and the slot of a string is its position in its shard.

The empty string is present from the start, in the first slot of the first
shard, which makes its name the zero word.
-/

/-- Why a string could not be interned. -/
inductive InternError where
  /-- Every slot of the shard is taken. -/
  | shardFull (shard : Nat) (count : Nat)
  deriving DecidableEq

def InternError.message : InternError -> String
  | .shardFull shard count =>
      s!"interner shard {shard} is full ({count} strings, max {Name.lastSlot})"

/-- Interned strings, by shard and slot. -/
structure Interner where
  shards : Vector (Array String) 16

namespace Interner

def empty : Interner :=
  ⟨(Vector.replicate 16 #[]).set 0 #[""]⟩

instance : Inhabited Interner := ⟨empty⟩

/-- The number of leading bytes that take part in the hash. -/
def hashedBytes : Nat := 8

/-- The shard that a string belongs to.  The hash folds the bytes with factor 31
in 32-bit arithmetic; the empty string hashes to shard zero. -/
def shardOf (text : String) : Fin 16 :=
  let hash := (text.toUTF8.toList.take hashedBytes).foldl
    (fun hash byte => hash * 31 + byte.toUInt32) (0 : UInt32)
  ⟨hash.toNat % 16, Nat.mod_lt _ (by decide)⟩

/-- The name of a string that is already interned. -/
def get? (interner : Interner) (text : String) : Option Name :=
  let shard := shardOf text
  ((interner.shards[shard]).idxOf? text).map (Name.ofParts shard)

/-- Intern a string.  A string that is already present keeps its name; a new one
takes the next slot of its shard unless the shard is full. -/
def tryIntern (interner : Interner) (text : String) : Except InternError (Name × Interner) :=
  match interner.get? text with
  | some name => .ok (name, interner)
  | none =>
      let shard := shardOf text
      let strings := interner.shards[shard]
      if strings.size <= Name.lastSlot then
        .ok (Name.ofParts shard strings.size,
          ⟨interner.shards.set shard (strings.push text)⟩)
      else .error (.shardFull shard strings.size)

/-- Intern a string where no shard can be full, as in every session that holds
fewer than `2 ^ 28` strings.  In a full shard a new string has no name of its
own; it is then represented by the empty name. -/
def intern (interner : Interner) (text : String) : Name × Interner :=
  match interner.tryIntern text with
  | .ok outcome => outcome
  | .error _ => (Name.empty, interner)

def internAll (interner : Interner) : List String -> List Name × Interner
  | [] => ([], interner)
  | text :: rest =>
      let (name, interner) := interner.intern text
      let (names, interner) := interner.internAll rest
      (name :: names, interner)

/-- The string that a name stands for.  A name that this interner never issued
stands for the empty string. -/
def lookup (interner : Interner) (name : Name) : String :=
  (interner.shards[name.shard])[name.slot]?.getD ""

/-- The number of interned strings, the empty string included. -/
def size (interner : Interner) : Nat :=
  interner.shards.toList.foldl (fun total strings => total + strings.size) 0

/-- No string at all is interned.  This never happens, since the empty string is
there from the start. -/
def isEmpty (interner : Interner) : Bool :=
  interner.size == 0

def inspect (interner : Interner) : String :=
  s!"StringInterner({interner.size} strings)"

/-- The one-line form of an interner seen through a session. -/
def inspectShared (interner : Interner) : String :=
  s!"SharedInterner({interner.size} strings)"

theorem size_empty : empty.size = 1 := by
  decide

/-- A string that is present is interned without change. -/
theorem tryIntern_of_get? {interner : Interner} {text : String} {name : Name}
    (present : interner.get? text = some name) :
    interner.tryIntern text = .ok (name, interner) := by
  simp [tryIntern, present]

/-- Interning agrees with the query for strings that are present. -/
theorem intern_of_get? {interner : Interner} {text : String} {name : Name}
    (present : interner.get? text = some name) :
    interner.intern text = (name, interner) := by
  simp [intern, tryIntern_of_get? present]

/-- The three ways in which interning a string can end. -/
theorem intern_cases (interner : Interner) (text : String) :
    (Exists fun name => interner.get? text = some name ∧
      interner.intern text = (name, interner)) ∨
    (interner.get? text = none ∧ interner.shards[shardOf text].size ≤ Name.lastSlot ∧
      interner.intern text =
        (Name.ofParts (shardOf text) interner.shards[shardOf text].size,
          ⟨interner.shards.set (shardOf text) (interner.shards[shardOf text].push text)⟩)) ∨
    (interner.get? text = none ∧ Name.lastSlot < interner.shards[shardOf text].size ∧
      interner.intern text = (Name.empty, interner)) := by
  cases present : interner.get? text with
  | some name => exact .inl ⟨name, rfl, intern_of_get? present⟩
  | none =>
      by_cases free : interner.shards[shardOf text].size ≤ Name.lastSlot
      · refine .inr (.inl ⟨rfl, free, ?_⟩)
        simp only [intern, tryIntern, present, if_pos free]
      · refine .inr (.inr ⟨rfl, Nat.lt_of_not_le free, ?_⟩)
        simp only [intern, tryIntern, present, if_neg free]

end Interner
end StructuralProducts
